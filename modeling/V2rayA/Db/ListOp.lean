import V2rayA.Configure.Store
import V2rayA.Sql.Table

/-!
# The lists of servers and subscriptions in the database

The table `servers` holds the list of servers and, for each subscription, the list of its nodes; the
table `subscriptions` holds the subscriptions. `sort` is the position in the list. A configuration
is stored as JSON, of type `ρ` here; what is encoded reads back as it was.

The statements of the program succeed. Its errors are those that it returns itself, and those of the
functions that a transaction calls to write related tables, whose contents are of type `σ`.

* `Lists`: the two lists, with what each call does to them.
* `Refines`: the tables hold two lists. A call that succeeds keeps it (`Refines.run`).
* `lists_of_run`: what is read after any sequence of calls.
-/

namespace V2rayA

open List

/-- The columns of a subscription besides its key and its ordinal. -/
structure SubscriptionFields where
  address : String := ""
  remarks : String := ""
  status : String := ""
  info : String := ""
  autoSelect : Bool := false
  updateMode : SubscriptionUpdateMode := .other ""
  updateIntervalMinutes : ℤ := 0
  failureIntervalMinutes : ℤ := 0
  allowDirectRecovery : Bool := false
  deriving DecidableEq, Repr

/-- The columns as they are written. -/
def SubscriptionFields.stored (fields : SubscriptionFields) : SubscriptionFields :=
  { fields with
    updateMode := if fields.updateMode = .other "" then .disabled else fields.updateMode
    failureIntervalMinutes := max 1 fields.failureIntervalMinutes }

lemma SubscriptionFields.stored_stored (fields : SubscriptionFields) :
    fields.stored.stored = fields.stored := by
  unfold SubscriptionFields.stored
  congr 1
  · by_cases hmode : fields.updateMode = .other "" <;> simp [hmode]
  · exact max_eq_right (le_max_left 1 _)

/-- The columns of the table `servers`: a server, or a node of a subscription, which is given by its
key. -/
inductive ServerColumns (ρ : Type)
  | server (config : ρ)
  | subscriptionServer (subID : ℤ) (config : ρ)
  deriving DecidableEq, Repr

/-- A subscription in JSON. -/
structure SubscriptionJSON (ρ : Type) where
  databaseID : ℤ := 0
  fields : SubscriptionFields
  servers : List ρ := []
  deriving DecidableEq, Repr

/-- The argument of an append in JSON: an array, or anything else. -/
inductive Encoded (α : Type)
  | array (items : List α)
  | single (item : α)

/-- The database: its two tables with lists, and what else it holds. -/
structure Db (ρ σ : Type) where
  servers : Sql.Table (ServerColumns ρ) := {}
  subscriptions : Sql.Table SubscriptionFields := {}
  other : σ

namespace ServerColumns

variable {ρ : Type}

/-- The column `config_json`. -/
def config : ServerColumns ρ → ρ
  | server config | subscriptionServer _ config => config

/-- `type = 'server'`. -/
def isServer : ServerColumns ρ → Bool
  | server _ => true
  | subscriptionServer _ _ => false

/-- `type = 'subscription_server' AND sub_id = ?`. -/
def ofSubscription (id : ℤ) : ServerColumns ρ → Bool
  | server _ => false
  | subscriptionServer subID _ => subID = id

end ServerColumns

open ServerColumns Sql

namespace Db

variable {ρ σ : Type}

/-! ### Reading -/

/-- The rows of the list of servers. -/
def serverRows (db : Db ρ σ) : List (Sql.Row (ServerColumns ρ)) := db.servers.list isServer

/-- The rows of the nodes of a subscription. -/
def nodeRows (db : Db ρ σ) (id : ℤ) : List (Sql.Row (ServerColumns ρ)) :=
  db.servers.list (ofSubscription id)

/-- The rows of the list of subscriptions. -/
def subscriptionRows (db : Db ρ σ) : List (Sql.Row SubscriptionFields) :=
  db.subscriptions.list fun _ => true

/-- `ServersGetAll`. -/
def serversGetAll (db : Db ρ σ) : List ρ :=
  (Sql.orderBySort db.serverRows).map fun r => r.data.config

/-- `serversGet`. -/
def serversGet (db : Db ρ σ) (index : ℤ) : Except Go.Error ρ :=
  match Sql.findAt db.serverRows index with
  | none => .error { text := "ListGet: can't get element from an empty list" }
  | some r => .ok r.data.config

/-- A subscription with its nodes. -/
def subscriptionJSON (db : Db ρ σ) (r : Sql.Row SubscriptionFields) : SubscriptionJSON ρ where
  databaseID := r.id
  fields := r.data
  servers := (Sql.orderBySort (db.nodeRows r.id)).map fun r => r.data.config

/-- `SubscriptionsGetAll`. -/
def subscriptionsGetAll (db : Db ρ σ) : List (SubscriptionJSON ρ) :=
  (Sql.orderBySort db.subscriptionRows).map db.subscriptionJSON

/-- `SubscriptionsGet`. -/
def subscriptionsGet (db : Db ρ σ) (index : ℤ) : Except Go.Error (SubscriptionJSON ρ) :=
  match Sql.findAt db.subscriptionRows index with
  | none => .error { text := "ListGet: can't get element from an empty list" }
  | some r => .ok (db.subscriptionJSON r)

/-! ### Writing -/

/-- `ReadModifyWrite`: a transaction is rolled back if its function fails. -/
def readModifyWrite (fn : Go.Op (Db ρ σ)) : Go.Op (Db ρ σ) := fun db =>
  match fn db with
  | (none, db') => (none, db')
  | (some e, _) => (some e, db)

/-- Call a function that writes related tables, and go on if it succeeds. -/
def afterCallback (callback : Go.Op σ) (fn : Go.Op (Db ρ σ)) : Go.Op (Db ρ σ) := fun db =>
  match callback db.other with
  | (none, other) => fn { db with other }
  | (some e, other) => (some e, { db with other })

/-- `ServersSet`. -/
def serversSet (index : ℤ) (config : ρ) : Go.Op (Db ρ σ) := fun db =>
  if (Sql.findAt db.serverRows index).isNone then
    (some { text := s!"ListSet: server at index {index} not found" }, db)
  else (none, { db with servers := db.servers.update isServer index fun _ => .server config })

/-- Insert the nodes of a subscription. -/
def insertNodes (ids : Sql.RowIDs) (subID : ℤ) (configs : List ρ)
    (t : Sql.Table (ServerColumns ρ)) : Sql.Table (ServerColumns ρ) :=
  configs.zipIdx.foldl (fun t e => t.insert ids e.2 (.subscriptionServer subID e.1)) t

/-- `setSubscription`. -/
def setSubscription (ids : Sql.RowIDs) (index : ℤ) (parsed : SubscriptionJSON ρ) :
    Go.Op (Db ρ σ) := fun db =>
  match Sql.findAt db.subscriptionRows index with
  | none => (some { text := s!"ListSet: subscription at index {index} not found" }, db)
  | some r =>
    let cleared := db.servers.delete fun s => ofSubscription r.id s.data
    (none,
      { db with
        subscriptions :=
          db.subscriptions.update (fun _ => true) index fun _ => parsed.fields.stored
        servers := insertNodes ids r.id parsed.servers cleared })

/-- `SubscriptionsSet`. -/
def subscriptionsSet (ids : Sql.RowIDs) (index : ℤ) (val : SubscriptionJSON ρ)
    (beforeSet : Go.Op σ) : Go.Op (Db ρ σ) :=
  readModifyWrite (afterCallback beforeSet (setSubscription ids index val))

/-- Append one server. -/
def appendServer (ids : Sql.RowIDs) (db : Db ρ σ) (config : ρ) : Db ρ σ :=
  { db with servers := db.servers.insert ids (Sql.nextSort db.serverRows) (.server config) }

/-- `ServersAppend`. -/
def serversAppend (ids : Sql.RowIDs) (val : Encoded ρ) : Go.Op (Db ρ σ) := fun db =>
  match val with
  | .array items => (none, items.foldl (appendServer ids) db)
  | .single item => (none, appendServer ids db item)

/-- Append one subscription. -/
def appendSubscription (ids : Sql.RowIDs) (db : Db ρ σ) (item : SubscriptionJSON ρ) : Db ρ σ :=
  { db with
    subscriptions :=
      db.subscriptions.insert ids (Sql.nextSort db.subscriptionRows) item.fields.stored
    servers := insertNodes ids (db.subscriptions.newID ids) item.servers db.servers }

/-- `SubscriptionsAppend`, which stores nothing if its argument is not an array. -/
def subscriptionsAppend (ids : Sql.RowIDs) (val : Encoded (SubscriptionJSON ρ)) :
    Go.Op (Db ρ σ) := fun db =>
  match val with
  | .array items => (none, items.foldl (appendSubscription ids) db)
  | .single _ => (none, db)

/-- `serversRemove`. -/
def serversRemove (indexes : List ℤ) : Go.Op (Db ρ σ) := fun db =>
  if indexes = [] then (some { text := "ListRemove: nothing to remove" }, db)
  else
    let deleted := db.servers.deleteAt isServer indexes
    (none, { db with servers := deleted.renumber isServer })

/-- Delete the subscription at an ordinal, if there is one, with its nodes. -/
def deleteSubscription (db : Db ρ σ) (index : ℤ) : Db ρ σ :=
  match Sql.findAt db.subscriptionRows index with
  | none => db
  | some r =>
    { db with
      servers := db.servers.delete fun s => ofSubscription r.id s.data
      subscriptions := db.subscriptions.delete fun s => s.id = r.id }

/-- `subscriptionsRemove`. -/
def subscriptionsRemove (indexes : List ℤ) : Go.Op (Db ρ σ) := fun db =>
  if indexes = [] then (some { text := "ListRemove: nothing to remove" }, db)
  else
    let db := indexes.foldl deleteSubscription db
    (none, { db with subscriptions := db.subscriptions.renumber fun _ => true })

/-- The removals of `RemoveTx`. -/
def removeBoth (subscriptions servers : List ℤ) : Go.Op (Db ρ σ) := fun db =>
  let (err, db) := if subscriptions ≠ [] then subscriptionsRemove subscriptions db else (none, db)
  match err with
  | some e => (some e, db)
  | none => if servers ≠ [] then serversRemove servers db else (none, db)

/-- `RemoveTx`. -/
def removeTx (subscriptions servers : List ℤ) (connected : Go.Op σ) : Go.Op (Db ρ σ) :=
  readModifyWrite (afterCallback connected (removeBoth subscriptions servers))

end Db

/-! ### The lists -/

/-- Two plain lists. A subscription is given by its columns and its nodes. -/
structure Lists (ρ : Type) where
  servers : List ρ := []
  subscriptions : List (SubscriptionFields × List ρ) := []

/-- A call that changes the lists. -/
inductive ListCall (ρ σ : Type)
  | serversAppend (val : Encoded ρ)
  | serversSet (index : ℤ) (config : ρ)
  | serversRemove (indexes : List ℤ)
  | subscriptionsAppend (val : Encoded (SubscriptionJSON ρ))
  | subscriptionsSet (index : ℤ) (val : SubscriptionJSON ρ) (beforeSet : Go.Op σ)
  | subscriptionsRemove (indexes : List ℤ)
  | removeTx (subscriptions servers : List ℤ) (connected : Go.Op σ)

section Calls

variable {ρ σ : Type}

/-- The elements that are appended to the list of servers. -/
def Encoded.servers : Encoded ρ → List ρ
  | .array items => items
  | .single item => [item]

/-- The elements that are appended to the list of subscriptions. -/
def Encoded.subscriptions : Encoded (SubscriptionJSON ρ) → List (SubscriptionJSON ρ)
  | .array items => items
  | .single _ => []

/-- What is stored of a subscription. -/
def SubscriptionJSON.content (sub : SubscriptionJSON ρ) : SubscriptionFields × List ρ :=
  (sub.fields.stored, sub.servers)

/-- What a call does to the database. -/
def ListCall.run (ids : Sql.RowIDs) : ListCall ρ σ → Go.Op (Db ρ σ)
  | .serversAppend val => Db.serversAppend ids val
  | .serversSet index config => Db.serversSet index config
  | .serversRemove indexes => Db.serversRemove indexes
  | .subscriptionsAppend val => Db.subscriptionsAppend ids val
  | .subscriptionsSet index val beforeSet => Db.subscriptionsSet ids index val beforeSet
  | .subscriptionsRemove indexes => Db.subscriptionsRemove indexes
  | .removeTx subscriptions servers connected => Db.removeTx subscriptions servers connected

/-- The function that writes related tables in the transaction of a call. -/
def ListCall.callback : ListCall ρ σ → Option (Go.Op σ)
  | .subscriptionsSet _ _ beforeSet => some beforeSet
  | .removeTx _ _ connected => some connected
  | _ => none

/-- A sequence of calls that all succeed. -/
def ListCall.runAll (ids : Sql.RowIDs) (calls : List (ListCall ρ σ)) (db : Db ρ σ) :
    Option (Db ρ σ) :=
  calls.foldlM (fun db call =>
    match call.run ids db with
    | (none, db') => some db'
    | (some _, _) => none) db

/-- What a call that succeeds does to the lists. -/
def ListCall.spec (call : ListCall ρ σ) (lists : Lists ρ) : Lists ρ :=
  match call with
  | .serversAppend val => { lists with servers := lists.servers ++ val.servers }
  | .serversSet index config => { lists with servers := lists.servers.set index.toNat config }
  | .serversRemove indexes =>
    { lists with servers := lists.servers.removeIdxs fun i => (i : ℤ) ∈ indexes }
  | .subscriptionsAppend val =>
    { lists with
      subscriptions := lists.subscriptions ++ val.subscriptions.map SubscriptionJSON.content }
  | .subscriptionsSet index val _ =>
    { lists with subscriptions := lists.subscriptions.set index.toNat val.content }
  | .subscriptionsRemove indexes =>
    { lists with subscriptions := lists.subscriptions.removeIdxs fun i => (i : ℤ) ∈ indexes }
  | .removeTx subscriptions servers _ =>
    { servers := lists.servers.removeIdxs fun i => (i : ℤ) ∈ servers
      subscriptions := lists.subscriptions.removeIdxs fun i => (i : ℤ) ∈ subscriptions }

end Calls

/-! ### The tables hold the lists -/

/-- The tables hold two lists, with the ordinals of their positions; every node belongs to a
subscription. -/
structure Refines {ρ σ : Type} (db : Db ρ σ) (lists : Lists ρ) : Prop where
  serverSort : Sql.Numbered db.serverRows
  servers : db.serverRows.map (fun r => r.data.config) = lists.servers
  subscriptionSort : Sql.Numbered db.subscriptionRows
  nodeSort : ∀ id, Sql.Numbered (db.nodeRows id)
  subscriptions : db.subscriptionRows.map
    (fun r => (r.data, (db.nodeRows r.id).map fun r => r.data.config)) = lists.subscriptions
  owned : ∀ id, db.nodeRows id ≠ [] → id ∈ db.subscriptionRows.map Row.id

section Refinement

variable {ρ σ : Type} {ids : Sql.RowIDs} {db db' : Db ρ σ} {lists : Lists ρ}
  {t : Sql.Table (ServerColumns ρ)}

variable {c : ServerColumns ρ}

lemma isServer_eq_false_of_ofSubscription {id : ℤ} (h : ofSubscription id c) :
    isServer c = false := by
  cases c with
  | server => cases h
  | subscriptionServer => rfl

lemma ofSubscription_eq_false_of_isServer {id : ℤ} (h : isServer c) :
    ofSubscription id c = false := by
  cases c with
  | server => rfl
  | subscriptionServer => cases h

variable {subID id : ℤ}

lemma ofSubscription_eq_false_of_ne (h : ofSubscription id c) (hne : subID ≠ id) :
    ofSubscription subID c = false := by
  cases c with
  | server => rfl
  | subscriptionServer =>
    have hid := of_decide_eq_true h
    exact decide_eq_false fun hsub => hne (hsub.symm.trans hid)

lemma refines_empty (other : σ) : Refines ({ other } : Db ρ σ) {} where
  serverSort := trivial
  servers := rfl
  subscriptionSort := trivial
  nodeSort _ := trivial
  subscriptions := rfl
  owned _ h := absurd rfl h

section

variable (h : Refines db lists)
include h

/-- Writing to related tables. -/
lemma Refines.other (other : σ) : Refines { db with other } lists :=
  ⟨h.serverSort, h.servers, h.subscriptionSort, h.nodeSort, h.subscriptions, h.owned⟩

/-- A change of the table of servers that leaves the nodes of the subscriptions. -/
lemma Refines.withServers {servers : List ρ}
    (hnodes : ∀ id, t.list (ofSubscription id) = db.nodeRows id)
    (hsort : Sql.Numbered (t.list isServer))
    (hservers : (t.list isServer).map (fun r => r.data.config) = servers) :
    Refines { db with servers := t } { lists with servers } where
  serverSort := hsort
  servers := hservers
  subscriptionSort := h.subscriptionSort
  nodeSort id := by
    rw [Db.nodeRows, hnodes]
    exact h.nodeSort id
  subscriptions := by
    rw [← h.subscriptions]
    refine map_congr_left fun r _ => ?_
    exact congrArg (fun l => (r.data, l.map fun r => r.data.config)) (hnodes r.id)
  owned id hne := h.owned id (by rwa [Db.nodeRows, hnodes] at hne)

/-- An update of every subscription. -/
lemma Refines.updateSubscriptions
    (f : SubscriptionFields → SubscriptionFields) :
    Refines { db with subscriptions := db.subscriptions.updateAll f }
      { lists with subscriptions := lists.subscriptions.map fun s => (f s.1, s.2) } := by
  have hrows : ({ db with subscriptions := db.subscriptions.updateAll f } : Db ρ σ).subscriptionRows
      = db.subscriptionRows.map fun r => { r with data := f r.data } :=
    Table.list_updateAll fun _ => rfl
  refine ⟨h.serverSort, h.servers, hrows ▸ h.subscriptionSort.map, h.nodeSort, ?_, fun id hne => ?_⟩
  · rw [hrows, ← h.subscriptions, map_map, map_map]
    rfl
  · rw [hrows, map_map]
    exact h.owned id hne

/-! #### Servers -/

lemma Refines.appendServer (config : ρ) :
    Refines (db.appendServer ids config) { lists with servers := lists.servers ++ [config] } := by
  refine h.withServers (fun id => ?_) ?_ ?_
  · rw [Sql.Table.list_insert]
    exact append_nil _
  · rw [Sql.Table.list_insert]
    refine Sql.numberedFrom_append.mpr ⟨h.serverSort, ?_, trivial⟩
    rw [Sql.Numbered.nextSort_eq h.serverSort, Nat.zero_add]
    rfl
  · rw [Sql.Table.list_insert, map_append, ← h.servers]
    rfl

lemma Refines.serversAppend (val : Encoded ρ)
    (hrun : Db.serversAppend ids val db = (none, db')) :
    Refines db' { lists with servers := lists.servers ++ val.servers } := by
  have hfold (items : List ρ) : Refines (items.foldl (Db.appendServer ids) db)
      { lists with servers := lists.servers ++ items } := by
    induction items using reverseRecOn with
    | nil => simpa using h
    | append_singleton items item ih =>
      rw [foldl_append, ← append_assoc]
      exact ih.appendServer item
  cases val with
  | array items =>
    cases hrun
    exact hfold items
  | single item =>
    cases hrun
    exact h.appendServer item

end

variable {index : ℤ}

lemma Refines.serversSet (h : Refines db lists) {config : ρ}
    (hrun : Db.serversSet index config db = (none, db')) :
    Refines db' { lists with servers := lists.servers.set index.toNat config } := by
  unfold Db.serversSet at hrun
  split_ifs at hrun with hfound
  · cases hrun
  cases hrun
  obtain ⟨r, hr⟩ : ∃ r, findAt db.serverRows index = some r :=
    Option.ne_none_iff_exists'.mp (by simpa using hfound)
  obtain ⟨n, rfl, -⟩ := Numbered.findAt_eq_some h.serverSort hr
  refine h.withServers (fun id => ?_) ?_ ?_
  · exact Sql.Table.list_update_of_disjoint
      (fun _ hc => isServer_eq_false_of_ofSubscription hc) fun _ _ => rfl
  · rw [Sql.Table.list_update fun _ _ => rfl]
    exact NumberedFrom.updateAt h.serverSort _ _
  · rw [Sql.Table.list_update fun _ _ => rfl, ← h.servers]
    refine Numbered.map_updateAt h.serverSort n (fun r _ => ?_) fun j r _ _ => ?_ <;> rfl

lemma Refines.serversRemove (h : Refines db lists) {indexes : List ℤ}
    (hrun : Db.serversRemove indexes db = (none, db')) :
    Refines db'
      { lists with servers := lists.servers.removeIdxs fun i => (i : ℤ) ∈ indexes } := by
  unfold Db.serversRemove at hrun
  split_ifs at hrun with hempty
  · cases hrun
  cases hrun
  have hsorted : ((db.servers.list isServer).filter fun r => r.sort ∉ indexes).Pairwise
      fun r s => r.sort < s.sort :=
    (NumberedFrom.pairwise h.serverSort).filter _
  refine h.withServers (fun id => ?_) ?_ ?_
  · rw [Table.list_renumber_of_disjoint fun _ hc => isServer_eq_false_of_ofSubscription hc,
      Table.list_deleteAt_of_disjoint fun _ hc => isServer_eq_false_of_ofSubscription hc]
    rfl
  · refine Table.numbered_renumber ?_ fun r hr => ?_
    · rwa [Table.list_deleteAt]
    · rw [Table.list_deleteAt] at hr
      exact NumberedFrom.le_sort h.serverSort (mem_of_mem_filter hr)
  · have hconfigs := congrArg (map fun e => e.2.config)
      ((db.servers.deleteAt isServer indexes).map_list_renumber isServer)
    rw [map_map, map_map, Table.list_deleteAt] at hconfigs
    refine hconfigs.trans ?_
    rw [← h.servers]
    exact Numbered.map_filter h.serverSort indexes fun r => r.data.config

/-! #### Subscriptions -/

variable {subID : ℤ}

lemma list_isServer_insertNodes {configs : List ρ} :
    (Db.insertNodes ids subID configs t).list isServer = t.list isServer := by
  unfold Db.insertNodes
  induction configs.zipIdx generalizing t with
  | nil => rfl
  | cons e l ih =>
    rw [foldl_cons, ih, Table.list_insert]
    exact append_nil _

lemma list_insertNodes_of_ne (hne : subID ≠ id) {configs : List ρ} :
    (Db.insertNodes ids subID configs t).list (ofSubscription id) = t.list (ofSubscription id) := by
  unfold Db.insertNodes
  induction configs.zipIdx generalizing t with
  | nil => rfl
  | cons e l ih =>
    rw [foldl_cons, ih, Table.list_insert, if_neg (by simpa [ofSubscription] using hne),
      append_nil]

/-- The nodes of a subscription that had none. -/
lemma list_insertNodes_self (ids : RowIDs) (hempty : t.list (ofSubscription subID) = [])
    (configs : List ρ) :
    Numbered ((Db.insertNodes ids subID configs t).list (ofSubscription subID)) ∧
      ((Db.insertNodes ids subID configs t).list (ofSubscription subID)).map
        (fun r => r.data.config) = configs := by
  induction configs using reverseRecOn with
  | nil =>
    rw [Db.insertNodes, zipIdx_nil, foldl_nil, hempty]
    exact ⟨trivial, rfl⟩
  | append_singleton configs config ih =>
    obtain ⟨hsort, hconfigs⟩ := ih
    have hlength := congrArg length hconfigs
    rw [length_map] at hlength
    have hstep : Db.insertNodes ids subID (configs ++ [config]) t =
        (Db.insertNodes ids subID configs t).insert ids configs.length
          (.subscriptionServer subID config) := by
      simp [Db.insertNodes, zipIdx_append]
    rw [hstep, Table.list_insert, if_pos (by simp [ofSubscription])]
    refine ⟨numberedFrom_append.mpr ⟨hsort, ?_, trivial⟩, ?_⟩
    · rw [hlength, Nat.zero_add]
    · rw [map_append, hconfigs]
      rfl

lemma Refines.appendSubscription (h : Refines db lists) (item : SubscriptionJSON ρ) :
    Refines (db.appendSubscription ids item)
      { lists with subscriptions := lists.subscriptions ++ [item.content] } := by
  -- no node belongs to the new key
  have hempty : db.nodeRows (db.subscriptions.newID ids) = [] := by
    by_contra hne
    obtain ⟨r, hr, hid⟩ := mem_map.mp (h.owned _ hne)
    exact db.subscriptions.newID_notMem ids r (mem_of_mem_filter hr) hid
  obtain ⟨hsort, hconfigs⟩ := list_insertNodes_self ids hempty item.servers
  have hrows : (db.appendSubscription ids item).subscriptionRows = db.subscriptionRows ++
      [⟨db.subscriptions.newID ids, nextSort db.subscriptionRows, item.fields.stored⟩] :=
    Table.list_insert _ _
  have hothers (id : ℤ) (hne : db.subscriptions.newID ids ≠ id) :
      (db.appendSubscription ids item).nodeRows id = db.nodeRows id :=
    list_insertNodes_of_ne hne
  have hnew (r : Row SubscriptionFields) (hr : r ∈ db.subscriptionRows) :
      db.subscriptions.newID ids ≠ r.id :=
    (db.subscriptions.newID_notMem ids r (mem_of_mem_filter hr)).symm
  have hservers : (db.appendSubscription ids item).serverRows = db.serverRows :=
    list_isServer_insertNodes
  refine ⟨hservers ▸ h.serverSort, hservers ▸ h.servers, ?_, fun id => ?_, ?_, fun id hne => ?_⟩
  · rw [hrows]
    refine numberedFrom_append.mpr ⟨h.subscriptionSort, ?_, trivial⟩
    rw [Numbered.nextSort_eq h.subscriptionSort, Nat.zero_add]
  · by_cases hid : db.subscriptions.newID ids = id
    · exact hid ▸ hsort
    · exact hothers id hid ▸ h.nodeSort id
  · rw [hrows, map_append, ← h.subscriptions]
    congr 1
    · refine map_congr_left fun r hr => ?_
      rw [hothers r.id (hnew r hr)]
    · exact congrArg (fun l => [(item.fields.stored, l)]) hconfigs
  · rw [hrows, map_append]
    by_cases hid : db.subscriptions.newID ids = id
    · exact mem_append_right _ (hid ▸ .head _)
    · exact mem_append_left _ (h.owned id (hothers id hid ▸ hne))

lemma Refines.subscriptionsAppend (h : Refines db lists) (val : Encoded (SubscriptionJSON ρ))
    (hrun : Db.subscriptionsAppend ids val db = (none, db')) :
    Refines db' { lists with
      subscriptions := lists.subscriptions ++ val.subscriptions.map SubscriptionJSON.content } := by
  cases val with
  | single item =>
    cases hrun
    simpa [Encoded.subscriptions] using h
  | array items =>
    cases hrun
    change Refines _ { lists with
      subscriptions := lists.subscriptions ++ items.map SubscriptionJSON.content }
    induction items using reverseRecOn with
    | nil => simpa using h
    | append_singleton items item ih =>
      rw [foldl_append, map_append, ← append_assoc]
      exact ih.appendSubscription item

/-- Deleting the nodes of a subscription. -/
lemma list_isServer_delete :
    (t.delete fun s => ofSubscription subID s.data).list isServer = t.list isServer := by
  rw [Table.list_delete]
  refine filter_eq_self.mpr fun s hs => ?_
  rw [ofSubscription_eq_false_of_isServer (mem_filter.mp hs).2, Bool.not_false]

lemma list_delete_self :
    (t.delete fun s => ofSubscription subID s.data).list (ofSubscription subID) = [] := by
  rw [Table.list_delete]
  refine filter_eq_nil_iff.mpr fun s hs => ?_
  rw [(mem_filter.mp hs).2]
  exact Bool.false_ne_true

lemma list_delete_of_ne (hne : subID ≠ id) :
    (t.delete fun s => ofSubscription subID s.data).list (ofSubscription id) =
      t.list (ofSubscription id) := by
  rw [Table.list_delete]
  refine filter_eq_self.mpr fun s hs => ?_
  rw [ofSubscription_eq_false_of_ne (mem_filter.mp hs).2 hne, Bool.not_false]

lemma Refines.setSubscription (h : Refines db lists) {parsed : SubscriptionJSON ρ}
    (hrun : Db.setSubscription ids index parsed db = (none, db')) :
    Refines db'
      { lists with subscriptions := lists.subscriptions.set index.toNat parsed.content } := by
  unfold Db.setSubscription at hrun
  split at hrun
  · cases hrun
  next r hr =>
  obtain ⟨n, rfl, hn⟩ := Numbered.findAt_eq_some h.subscriptionSort hr
  obtain rfl := (Prod.mk.inj hrun).2
  have hrows := Table.list_update (t := db.subscriptions) (p := fun _ => true) (i := n)
    (f := fun _ => parsed.fields.stored) fun _ _ => rfl
  have hservers : (Db.insertNodes ids r.id parsed.servers
      (db.servers.delete fun s => ofSubscription r.id s.data)).list isServer = db.serverRows :=
    list_isServer_insertNodes.trans list_isServer_delete
  have hothers {id : ℤ} (hne : r.id ≠ id) : (Db.insertNodes ids r.id parsed.servers
      (db.servers.delete fun s => ofSubscription r.id s.data)).list (ofSubscription id) =
        db.nodeRows id :=
    (list_insertNodes_of_ne hne).trans (list_delete_of_ne hne)
  obtain ⟨hsort, hconfigs⟩ :=
    list_insertNodes_self ids (list_delete_self (t := db.servers)) parsed.servers
  refine ⟨?_, ?_, ?_, fun id => ?_, ?_, fun id hne => ?_⟩
  · rw [Db.serverRows, hservers]
    exact h.serverSort
  · rw [Db.serverRows, hservers]
    exact h.servers
  · rw [Db.subscriptionRows, hrows]
    exact NumberedFrom.updateAt h.subscriptionSort _ _
  · by_cases hid : r.id = id
    · exact hid ▸ hsort
    · rw [Db.nodeRows, hothers hid]
      exact h.nodeSort id
  · rw [Db.subscriptionRows, hrows, ← h.subscriptions]
    refine Numbered.map_updateAt h.subscriptionSort n (fun s hs => ?_) fun j s hs hj => ?_
    · -- the row that was set
      obtain rfl := Option.some.inj (hn.symm.trans hs)
      exact congrArg (Prod.mk parsed.fields.stored) hconfigs
    · -- the others have other keys
      have hne : r.id ≠ s.id := fun hid => hj <| by
        have heq := (Table.sort_eq_iff_id_eq (NumberedFrom.pairwise h.subscriptionSort)
          (mem_of_getElem? hs) (mem_of_getElem? hn)).mpr hid
        have hsr := NumberedFrom.sort_eq h.subscriptionSort hn
        have hss := NumberedFrom.sort_eq h.subscriptionSort hs
        omega
      rw [Db.nodeRows, hothers hne]
  · rw [Db.subscriptionRows, hrows, map_id_updateAt]
    by_cases hid : r.id = id
    · exact mem_map.mpr ⟨r, mem_of_getElem? hn, hid⟩
    · rw [Db.nodeRows, hothers hid] at hne
      exact h.owned id hne

/-- A transaction that succeeds has called its function with what the callback has written. -/
lemma eq_of_readModifyWrite {callback : Go.Op σ} {fn : Go.Op (Db ρ σ)}
    (hrun : Db.readModifyWrite (Db.afterCallback callback fn) db = (none, db')) :
    ∃ other, fn { db with other } = (none, db') := by
  unfold Db.readModifyWrite Db.afterCallback at hrun
  split at hrun
  next hfn =>
    cases hrun
    split at hfn
    next other _ => exact ⟨other, hfn⟩
    · cases hfn
  · cases hrun

variable {val : SubscriptionJSON ρ}

lemma Refines.subscriptionsSet (h : Refines db lists) {beforeSet : Go.Op σ}
    (hrun : Db.subscriptionsSet ids index val beforeSet db = (none, db')) :
    Refines db'
      { lists with subscriptions := lists.subscriptions.set index.toNat val.content } := by
  obtain ⟨other, hset⟩ := eq_of_readModifyWrite hrun
  exact (h.other other).setSubscription hset

/-! #### Removals -/

section DeleteSubscription

variable {index : ℤ} {indexes : List ℤ}

lemma serverRows_deleteSubscription :
    (db.deleteSubscription index).serverRows = db.serverRows := by
  unfold Db.deleteSubscription
  split
  · rfl
  · exact list_isServer_delete

/-- Subscriptions that are left keep their nodes. -/
lemma nodeRows_deleteSubscription {r : Row SubscriptionFields}
    (hr : r ∈ (db.deleteSubscription index).subscriptionRows) :
    (db.deleteSubscription index).nodeRows r.id = db.nodeRows r.id := by
  unfold Db.deleteSubscription at hr ⊢
  split at hr
  · rfl
  next s hs =>
    have hleft : r ∈ (db.subscriptions.delete fun r => r.id = s.id).list fun _ => true := hr
    rw [Table.list_delete] at hleft
    exact list_delete_of_ne fun hid => by simp [hid] at hleft

/-- The subscription is deleted by its key, which is the one at the ordinal. -/
lemma subscriptionRows_deleteSubscription (index : ℤ)
    (hsorted : db.subscriptionRows.Pairwise fun r s => r.sort < s.sort) :
    (db.deleteSubscription index).subscriptionRows =
      db.subscriptionRows.filter fun r => r.sort ≠ index := by
  unfold Db.deleteSubscription
  split
  next hnone =>
    refine (filter_eq_self.mpr fun r hr => ?_).symm
    simpa using find?_eq_none.mp hnone r hr
  next r hr =>
    refine Table.list_delete.trans (filter_congr fun s hs => ?_)
    have hsort : r.sort = index := by simpa using find?_some hr
    have hiff := Table.sort_eq_iff_id_eq hsorted (mem_of_find?_eq_some hr) hs
    rw [hsort] at hiff
    simp [hiff]

lemma owned_deleteSubscription
    (howned : ∀ id, db.nodeRows id ≠ [] → id ∈ db.subscriptionRows.map Row.id) (id : ℤ)
    (hne : (db.deleteSubscription index).nodeRows id ≠ []) :
    id ∈ (db.deleteSubscription index).subscriptionRows.map Row.id := by
  unfold Db.deleteSubscription at hne ⊢
  split at hne
  · exact howned id hne
  next r hr =>
    have hid : r.id ≠ id := fun hid => hne (hid ▸ list_delete_self)
    have hnodes : db.nodeRows id ≠ [] := fun hempty => hne ((list_delete_of_ne hid).trans hempty)
    obtain ⟨s, hs, hsid⟩ := mem_map.mp (howned id hnodes)
    refine mem_map.mpr ⟨s, ?_, hsid⟩
    have hleft : s ∈ (db.subscriptions.delete fun s => s.id = r.id).list fun _ => true := by
      rw [Table.list_delete, mem_filter]
      exact ⟨hs, by simpa [hsid] using Ne.symm hid⟩
    exact hleft

/-- What is left after the deletions. -/
structure DeletedAt (indexes : List ℤ) (db db' : Db ρ σ) : Prop where
  serverRows : db'.serverRows = db.serverRows
  subscriptionRows :
    db'.subscriptionRows = db.subscriptionRows.filter fun r => r.sort ∉ indexes
  nodeRows : ∀ r ∈ db'.subscriptionRows, db'.nodeRows r.id = db.nodeRows r.id
  owned : ∀ id, db'.nodeRows id ≠ [] → id ∈ db'.subscriptionRows.map Row.id

lemma Refines.deleted (h : Refines db lists) (indexes : List ℤ) :
    DeletedAt indexes db (indexes.foldl Db.deleteSubscription db) := by
  induction indexes using reverseRecOn with
  | nil => exact ⟨rfl, by simp, fun _ _ => rfl, h.owned⟩
  | append_singleton indexes index ih =>
    rw [foldl_append, foldl_cons, foldl_nil]
    have hsorted := (NumberedFrom.pairwise h.subscriptionSort).filter
      fun r => decide (r.sort ∉ indexes)
    rw [← ih.subscriptionRows] at hsorted
    have hrows := subscriptionRows_deleteSubscription index hsorted
    refine ⟨serverRows_deleteSubscription.trans ih.serverRows, ?_, fun r hr => ?_,
      owned_deleteSubscription ih.owned⟩
    · rw [hrows, ih.subscriptionRows]
      simp [and_comm]
    · rw [nodeRows_deleteSubscription hr]
      rw [hrows] at hr
      exact ih.nodeRows r (mem_of_mem_filter hr)

end DeleteSubscription

lemma Refines.subscriptionsRemove (h : Refines db lists) {indexes : List ℤ}
    (hrun : Db.subscriptionsRemove indexes db = (none, db')) :
    Refines db' { lists with
      subscriptions := lists.subscriptions.removeIdxs fun i => (i : ℤ) ∈ indexes } := by
  unfold Db.subscriptionsRemove at hrun
  split_ifs at hrun with hempty
  · cases hrun
  obtain rfl := (Prod.mk.inj hrun).2
  have hdeleted := h.deleted indexes
  generalize indexes.foldl Db.deleteSubscription db = deleted at hdeleted
  -- renumbering keeps the keys, and so the nodes
  have hkeys : ((deleted.subscriptions.renumber fun _ => true).list fun _ => true).map
      (fun r => (r.id, r.data)) = deleted.subscriptionRows.map fun r => (r.id, r.data) :=
    deleted.subscriptions.map_list_renumber fun _ => true
  refine ⟨?_, ?_, ?_, fun id => ?_, ?_, fun id hne => ?_⟩
  · exact hdeleted.serverRows ▸ h.serverSort
  · exact hdeleted.serverRows ▸ h.servers
  · have hsorted := (NumberedFrom.pairwise h.subscriptionSort).filter
      fun r => decide (r.sort ∉ indexes)
    rw [← hdeleted.subscriptionRows] at hsorted
    refine Table.numbered_renumber hsorted fun r hr => ?_
    have hr : r ∈ deleted.subscriptionRows := hr
    rw [hdeleted.subscriptionRows] at hr
    exact NumberedFrom.le_sort h.subscriptionSort (mem_of_mem_filter hr)
  · by_cases hid : deleted.nodeRows id = []
    · have hnil : Numbered (deleted.nodeRows id) := hid ▸ trivial
      exact hnil
    · obtain ⟨r, hr, rfl⟩ := mem_map.mp (hdeleted.owned id hid)
      exact hdeleted.nodeRows r hr ▸ h.nodeSort r.id
  · have hcontents := congrArg (map fun e : ℤ × SubscriptionFields =>
      (e.2, (deleted.nodeRows e.1).map fun r => r.data.config)) hkeys
    rw [map_map, map_map] at hcontents
    refine hcontents.trans ?_
    rw [← h.subscriptions, ← Numbered.map_filter h.subscriptionSort, ← hdeleted.subscriptionRows]
    refine map_congr_left fun r hr => ?_
    dsimp only [Function.comp]
    rw [hdeleted.nodeRows r hr]
  · have hids := congrArg (map Prod.fst) hkeys
    rw [map_map, map_map] at hids
    have hids : (((deleted.subscriptions.renumber fun _ => true).list fun _ => true).map Row.id) =
      deleted.subscriptionRows.map Row.id := hids
    rw [Db.subscriptionRows, hids]
    exact hdeleted.owned id hne

variable {subscriptions servers : List ℤ}

lemma Refines.removeBoth (h : Refines db lists)
    (hrun : Db.removeBoth subscriptions servers db = (none, db')) :
    Refines db' {
      servers := lists.servers.removeIdxs fun i => (i : ℤ) ∈ servers
      subscriptions := lists.subscriptions.removeIdxs fun i => (i : ℤ) ∈ subscriptions } := by
  have hkeep {α : Type} (l : List α) : (l.removeIdxs fun i => (i : ℤ) ∈ ([] : List ℤ)) = l :=
    removeIdxs_eq_self _ _ fun _ _ => not_mem_nil
  have hservers {db : Db ρ σ} {lists : Lists ρ} (h : Refines db lists)
      (hrun : (if servers ≠ [] then Db.serversRemove servers db else (none, db)) = (none, db')) :
      Refines db' { lists with servers := lists.servers.removeIdxs fun i => (i : ℤ) ∈ servers } := by
    split_ifs at hrun with hne
    · exact h.serversRemove hrun
    · cases hrun
      rw [not_not.mp hne, hkeep]
      exact h
  unfold Db.removeBoth at hrun
  by_cases hempty : subscriptions = []
  · rw [hempty, hkeep]
    rw [if_neg (not_not.mpr hempty)] at hrun
    exact hservers h hrun
  · rw [if_pos hempty] at hrun
    rcases hsubs : Db.subscriptionsRemove subscriptions db with ⟨_ | e, deleted⟩
    · rw [hsubs] at hrun
      exact hservers (h.subscriptionsRemove hsubs) hrun
    · rw [hsubs] at hrun
      cases hrun

lemma Refines.removeTx (h : Refines db lists) {connected : Go.Op σ}
    (hrun : Db.removeTx subscriptions servers connected db = (none, db')) :
    Refines db' {
      servers := lists.servers.removeIdxs fun i => (i : ℤ) ∈ servers
      subscriptions := lists.subscriptions.removeIdxs fun i => (i : ℤ) ∈ subscriptions } := by
  obtain ⟨other, hremove⟩ := eq_of_readModifyWrite hrun
  exact (h.other other).removeBoth hremove

/-! ### Runs -/

/-- A call that succeeds does to the lists what it should. -/
lemma Refines.call (h : Refines db lists) (call : ListCall ρ σ)
    (hrun : call.run ids db = (none, db')) : Refines db' (call.spec lists) := by
  cases call with
  | serversAppend val => exact h.serversAppend val hrun
  | serversSet index config => exact h.serversSet hrun
  | serversRemove indexes => exact h.serversRemove hrun
  | subscriptionsAppend val => exact h.subscriptionsAppend val hrun
  | subscriptionsSet index val beforeSet => exact h.subscriptionsSet hrun
  | subscriptionsRemove indexes => exact h.subscriptionsRemove hrun
  | removeTx subscriptions servers connected => exact h.removeTx hrun

lemma Refines.run (h : Refines db lists) (calls : List (ListCall ρ σ))
    (hrun : ListCall.runAll ids calls db = some db') :
    Refines db' (calls.foldl (fun lists call => call.spec lists) lists) := by
  induction calls generalizing db lists with
  | nil =>
    cases hrun
    exact h
  | cons call calls ih =>
    obtain ⟨next, hnext, hrest⟩ := Option.bind_eq_some_iff.mp hrun
    have hcall : call.run ids db = (none, next) := by
      rcases hcall : call.run ids db with ⟨_ | e, next'⟩
      · simp only [hcall, Option.some.injEq] at hnext
        rw [hnext]
      · simp [hcall] at hnext
    exact ih (h.call call hcall) hrest

/-! ### What is read -/

/-- What is read are two lists, with the ordinals of their positions. -/
structure ReadsAs (db : Db ρ σ) (lists : Lists ρ) : Prop where
  serversGetAll : db.serversGetAll = lists.servers
  serversGet : ∀ index config,
    db.serversGet index = .ok config ↔ 0 ≤ index ∧ lists.servers[index.toNat]? = some config
  subscriptionsGetAll :
    db.subscriptionsGetAll.map (fun sub => (sub.fields, sub.servers)) = lists.subscriptions
  subscriptionsGet : ∀ index sub, db.subscriptionsGet index = .ok sub ↔
    0 ≤ index ∧ db.subscriptionsGetAll[index.toNat]? = some sub
  serverSort : (orderBySort db.serverRows).map Row.sort =
    (List.range lists.servers.length).map (↑)
  subscriptionSort : (orderBySort db.subscriptionRows).map Row.sort =
    (List.range lists.subscriptions.length).map (↑)
  nodeSort : ∀ sub ∈ db.subscriptionsGetAll,
    (orderBySort (db.nodeRows sub.databaseID)).map Row.sort =
      (List.range sub.servers.length).map (↑)

section

variable (h : Refines db lists)
include h

lemma Refines.subscriptionsGetAll :
    db.subscriptionsGetAll = db.subscriptionRows.map db.subscriptionJSON := by
  rw [Db.subscriptionsGetAll, NumberedFrom.orderBySort_eq h.subscriptionSort]

lemma Refines.serversGetAll : db.serversGetAll = lists.servers := by
  rw [Db.serversGetAll, NumberedFrom.orderBySort_eq h.serverSort, h.servers]

lemma Refines.serversGet (index : ℤ) (config : ρ) :
    db.serversGet index = .ok config ↔ 0 ≤ index ∧ lists.servers[index.toNat]? = some config := by
  rw [Db.serversGet, Numbered.findAt_eq h.serverSort, ← h.servers, getElem?_map]
  by_cases hindex : 0 ≤ index
  · cases db.serverRows[index.toNat]? <;> simp [hindex]
  · simp [hindex]

lemma Refines.subscriptionsGet (index : ℤ) (sub : SubscriptionJSON ρ) :
    db.subscriptionsGet index = .ok sub ↔
      0 ≤ index ∧ db.subscriptionsGetAll[index.toNat]? = some sub := by
  rw [Db.subscriptionsGet, Numbered.findAt_eq h.subscriptionSort, h.subscriptionsGetAll,
    getElem?_map]
  by_cases hindex : 0 ≤ index
  · cases db.subscriptionRows[index.toNat]? <;> simp [hindex]
  · simp [hindex]

lemma Refines.contents :
    db.subscriptionsGetAll.map (fun sub => (sub.fields, sub.servers)) = lists.subscriptions := by
  rw [h.subscriptionsGetAll, map_map, ← h.subscriptions]
  refine map_congr_left fun r _ => ?_
  dsimp only [Function.comp, Db.subscriptionJSON]
  rw [NumberedFrom.orderBySort_eq (h.nodeSort r.id)]

lemma Refines.readsAs : ReadsAs db lists where
  serversGetAll := h.serversGetAll
  serversGet := h.serversGet
  subscriptionsGetAll := h.contents
  subscriptionsGet := h.subscriptionsGet
  serverSort := by
    rw [Numbered.map_sort_orderBySort h.serverSort, ← h.servers, length_map]
  subscriptionSort := by
    rw [Numbered.map_sort_orderBySort h.subscriptionSort, ← h.subscriptions, length_map]
  nodeSort sub hsub := by
    obtain ⟨r, hr, rfl⟩ := mem_map.mp hsub
    refine (Numbered.map_sort_orderBySort (h.nodeSort r.id)).trans ?_
    rw [Db.subscriptionJSON, length_map, NumberedFrom.orderBySort_eq (h.nodeSort r.id)]

end

/-- A subscription that is read is given by its key and its content. -/
lemma subscriptions_ext {l l' : List (SubscriptionJSON ρ)}
    (hids : l.map SubscriptionJSON.databaseID = l'.map SubscriptionJSON.databaseID)
    (hcontents : l.map (fun sub => (sub.fields, sub.servers)) =
      l'.map fun sub => (sub.fields, sub.servers)) : l = l' := by
  have hinj : Function.Injective fun sub : SubscriptionJSON ρ =>
      (sub.databaseID, sub.fields, sub.servers) := by
    rintro ⟨_, _, _⟩ ⟨_, _, _⟩ heq
    cases heq
    rfl
  have hzip (l : List (SubscriptionJSON ρ)) :
      l.map (fun sub => (sub.databaseID, sub.fields, sub.servers)) =
        (l.map SubscriptionJSON.databaseID).zip (l.map fun sub => (sub.fields, sub.servers)) :=
    zip_map'.symm
  refine map_injective_iff.mpr hinj ?_
  rw [hzip, hzip, hids, hcontents]

lemma Refines.map_databaseID (h : Refines db lists) :
    db.subscriptionsGetAll.map SubscriptionJSON.databaseID = db.subscriptionRows.map Row.id := by
  rw [h.subscriptionsGetAll, map_map]
  rfl

lemma subscriptionRows_serversSet {config : ρ}
    (hrun : Db.serversSet index config db = (none, db')) :
    db'.subscriptionRows = db.subscriptionRows := by
  unfold Db.serversSet at hrun
  split_ifs at hrun
  · cases hrun
  · cases hrun
    rfl

/-- A subscription that is set keeps its key. -/
lemma map_id_subscriptionsSet {beforeSet : Go.Op σ}
    (hrun : Db.subscriptionsSet ids index val beforeSet db = (none, db')) :
    db'.subscriptionRows.map Row.id = db.subscriptionRows.map Row.id := by
  obtain ⟨other, hset⟩ := eq_of_readModifyWrite hrun
  unfold Db.setSubscription at hset
  split at hset
  · cases hset
  obtain rfl := (Prod.mk.inj hset).2
  rw [Db.subscriptionRows, Table.list_update fun _ _ => rfl, map_id_updateAt]
  rfl

/-- What a set changes of what is read: an element of its list. -/
structure SetsOne (call : ListCall ρ σ) (db db' : Db ρ σ) : Prop where
  serversSet : ∀ index config, call = .serversSet index config →
    db'.serversGetAll = db.serversGetAll.set index.toNat config ∧
      db'.subscriptionsGetAll = db.subscriptionsGetAll
  subscriptionsSet : ∀ index val beforeSet, call = .subscriptionsSet index val beforeSet →
    db'.serversGetAll = db.serversGetAll ∧
      db'.subscriptionsGetAll = db.subscriptionsGetAll.modify index.toNat fun sub =>
        ⟨sub.databaseID, val.fields.stored, val.servers⟩

lemma Refines.setsOne (h : Refines db lists) (call : ListCall ρ σ)
    (hrun : call.run ids db = (none, db')) : SetsOne call db db' := by
  have h' := h.call call hrun
  constructor
  · rintro index config rfl
    rw [h'.serversGetAll, h.serversGetAll]
    refine ⟨rfl, subscriptions_ext ?_ ?_⟩
    · rw [h'.map_databaseID, h.map_databaseID, subscriptionRows_serversSet hrun]
    · rw [h'.contents, h.contents]
      rfl
  · rintro index val beforeSet rfl
    rw [h'.serversGetAll, h.serversGetAll]
    refine ⟨rfl, subscriptions_ext ?_ ?_⟩
    · rw [h'.map_databaseID, map_id_subscriptionsSet hrun, ← h.map_databaseID]
      refine List.ext_getElem? fun j => ?_
      rw [List.getElem?_map, List.getElem?_map, List.getElem?_modify]
      cases db.subscriptionsGetAll[j]? with
      | none => rfl
      | some sub => split_ifs <;> rfl
    · rw [h'.contents]
      refine List.ext_getElem? fun j => ?_
      change (lists.subscriptions.set index.toNat val.content)[j]? = _
      rw [← h.contents, List.getElem?_set, List.getElem?_map, List.getElem?_map,
        List.getElem?_modify]
      by_cases hj : index.toNat = j
      · subst hj
        cases hsub : db.subscriptionsGetAll[index.toNat]? with
        | none => simp [List.getElem?_eq_none_iff.mp hsub]
        | some sub =>
          simp [SubscriptionJSON.content, (List.getElem?_eq_some_iff.mp hsub).1]
      · rw [if_neg hj]
        cases db.subscriptionsGetAll[j]? with
        | none => rfl
        | some sub => simp [hj]

/-- A transaction whose callback fails is rolled back. -/
lemma readModifyWrite_of_callback {callback : Go.Op σ} {fn : Go.Op (Db ρ σ)} {e : Go.Error}
    (he : (callback db.other).1 = some e) :
    Db.readModifyWrite (Db.afterCallback callback fn) db = (some e, db) := by
  unfold Db.readModifyWrite Db.afterCallback
  rcases hcallback : callback db.other with ⟨_ | _, other⟩
  · simp [hcallback] at he
  · simp_all

end Refinement

/-- Keys that are assigned one after the other. -/
def sequentialIDs : RowIDs where
  fresh _ ids := ids.max?.getD 0 + 1
  lt_fresh _ ids id hid := by
    obtain ⟨m, hm⟩ := Option.isSome_iff_exists.mp (List.isSome_max?_of_mem hid)
    have hle := (List.max?_eq_some_iff.mp hm).2 id hid
    rw [hm, Option.getD_some]
    omega

/-- Servers and subscriptions are appended; the last server is removed along with the first
subscription, in a transaction, and the subscription that is left is set. -/
def mixedCalls : List (ListCall ℕ Unit) :=
  [.serversAppend (.array [10, 11, 12]),
    .subscriptionsAppend (.array [
      { fields := { address := "a" }, servers := [20, 21] },
      { fields := { address := "b" }, servers := [30] }]),
    .removeTx [0, 0, 7] [2, -1, 2] fun other => (none, other),
    .subscriptionsSet 0 { fields := { address := "c" }, servers := [40, 41] }
      fun other => (none, other),
    .serversSet 1 13]

/-- A subscription as it is read before it is added. -/
def newSubscription : SubscriptionJSON ℕ :=
  { fields := { address := "a", updateMode := .disabled, failureIntervalMinutes := 1 } }

end V2rayA
