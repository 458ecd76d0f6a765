import V2rayA.Db.ListOp
import V2rayA.Go.Map

/-!
# Nodes in the database

A row of the tables holds a node as JSON. Rows that cannot be read are skipped when the catalog is
loaded, so that a position in the loaded catalog need not be the ordinal of a row. References are
looked up by position (`Store.locate`); servers and subscriptions are written and removed by ordinal.

* `Db.saveLatencies`: store the results of a latency test.
* `SavesOnly`: what it changes, if all goes well.
* `ordinalsAgree_iff`: positions are ordinals if and only if no row is skipped before one that a
  reference can name.
-/

namespace V2rayA

open List Option Go.Map Prod

open Sql

/-- Nodes in JSON. -/
structure NodeJSON (ρ ν : Type) where
  /-- `serverObj.protocol`; empty if it is missing. -/
  protocol : ρ → String
  /-- `serverObj.New` for a protocol, and `Unmarshal` into the node. -/
  unmarshal : String → ρ → Option (ServerRaw ν)
  marshal : ServerRaw ν → ρ

namespace NodeJSON

variable {ρ ν : Type} (json : NodeJSON ρ ν)

/-- `Bytes2ServerRaw`. -/
def bytes2ServerRaw (b : ρ) : Option (ServerRaw ν) :=
  let protocol := json.protocol b
  json.unmarshal (if protocol = "" then "vmess" else protocol) b

/-- Read a node of a subscription, which has to name its protocol. -/
def bytes2Node (b : ρ) : Option (ServerRaw ν) := json.unmarshal (json.protocol b) b

/-- `Bytes2SubscriptionRaw`. -/
def bytes2SubscriptionRaw (b : SubscriptionJSON ρ) : Option (SubscriptionRaw ν) :=
  (b.servers.mapM json.bytes2Node).map fun servers =>
    { databaseID := b.databaseID
      updateMode := b.fields.updateMode
      updateIntervalMinutes := b.fields.updateIntervalMinutes
      failureIntervalMinutes := b.fields.failureIntervalMinutes
      allowDirectRecovery := b.fields.allowDirectRecovery
      remarks := b.fields.remarks
      address := b.fields.address
      status := b.fields.status
      servers
      info := b.fields.info
      autoSelect := b.fields.autoSelect }

/-- A subscription in JSON. -/
def marshalSubscription (sub : SubscriptionRaw ν) : SubscriptionJSON ρ where
  databaseID := sub.databaseID
  fields :=
    { address := sub.address
      remarks := sub.remarks
      status := sub.status
      info := sub.info
      autoSelect := sub.autoSelect
      updateMode := sub.updateMode
      updateIntervalMinutes := sub.updateIntervalMinutes
      failureIntervalMinutes := sub.failureIntervalMinutes
      allowDirectRecovery := sub.allowDirectRecovery }
  servers := sub.servers.map json.marshal

end NodeJSON

/-- What was read can be written with another latency and read again. -/
structure Codec (ρ ν : Type) extends NodeJSON ρ ν where
  bytes2ServerRaw_marshal : ∀ b s latency, toNodeJSON.bytes2ServerRaw b = some s →
    toNodeJSON.bytes2ServerRaw (marshal { s with latency }) = some { s with latency }
  bytes2Node_marshal : ∀ b s latency, toNodeJSON.bytes2Node b = some s →
    toNodeJSON.bytes2Node (marshal { s with latency }) = some { s with latency }

/-- How a call ends. -/
inductive Exit
  | returned (err : Option Go.Error)
  | panicked

namespace Db

variable {ρ σ ν : Type}

/-! ### Reading the catalog -/

section Reading

variable (json : NodeJSON ρ ν) (db : Db ρ σ)

/-- `GetServers`. -/
def getServers : List (ServerRaw ν) := db.serversGetAll.filterMap json.bytes2ServerRaw

/-- `GetSubscriptions`. -/
def getSubscriptions : List (SubscriptionRaw ν) :=
  db.subscriptionsGetAll.filterMap json.bytes2SubscriptionRaw

/-- `GetSubscription`. -/
def getSubscription (index : ℤ) : Option (SubscriptionRaw ν) :=
  match db.subscriptionsGet index with
  | .error _ => none
  | .ok b => json.bytes2SubscriptionRaw b

/-- The catalog that a `Locator` reads. -/
def locator : Store ν where
  servers := db.getServers json
  subscriptions := db.getSubscriptions json

/-- The catalog with the rows as its nodes, whose lengths `GetLenServers`, `GetLenSubscriptions` and
`GetLenSubscriptionServers` count. -/
def rows : Store ρ where
  servers := db.serversGetAll.map fun b => ⟨b, ""⟩
  subscriptions := db.subscriptionsGetAll.map fun b => { servers := b.servers.map fun b => ⟨b, ""⟩ }

end Reading

/-! ### Saving latencies -/

section SaveLatencies

variable (json : NodeJSON ρ ν)

/-- The references to servers by index. -/
def serverIndexes (whiches : List Which) : Go.Map ℤ Which :=
  whiches.foldl (fun m which => if which.type = .server then m.put (which.id - 1) which else m) []

/-- The references to nodes of subscriptions by index of the subscription and of the node. -/
def subscriptionIndexes (whiches : List Which) : Go.Map ℤ (Go.Map ℤ Which) :=
  whiches.foldl (fun m which =>
    if which.type = .subscriptionServer then
      m.put which.sub (((m.get? which.sub).getD []).put (which.id - 1) which)
    else m) []

/-- Write the servers, one after the other. -/
def saveServers (loc : Store ν) : List (ℤ × Which) → Db ρ σ → Exit × Db ρ σ
  | [], db => (.returned none, db)
  | (index, which) :: rest, db =>
    match loc.locate which.toNodeRef with
    | .error e => (.returned (some e), db)
    | .ok sRaw =>
      match db.serversSet index (json.marshal { sRaw with latency := which.latency }) with
      | (some e, db) => (.returned (some e), db)
      | (none, db) => saveServers loc rest db

/-- Set the latency of a node; the index has to exist. -/
def setLatency (servers : List (ServerRaw ν)) (index : ℤ) (latency : String) :
    Option (List (ServerRaw ν)) :=
  if 0 ≤ index then
    servers[index.toNat]?.map fun s => servers.set index.toNat { s with latency }
  else none

/-- Write the subscriptions, one after the other. -/
def saveSubscriptions (ids : RowIDs) (rt : Go.Runtime) :
    List (ℤ × Go.Map ℤ Which) → Db ρ σ → Exit × Db ρ σ
  | [], db => (.returned none, db)
  | (subIndex, indexes) :: rest, db =>
    -- there is an index, so that a subscription that is missing is dereferenced
    match db.getSubscription json subIndex with
    | none => (.panicked, db)
    | some subRaw =>
      match (rt.mapOrder 3 indexes).foldlM
          (fun servers e => setLatency servers e.1 e.2.latency) subRaw.servers with
      | none => (.panicked, db)
      | some servers =>
        let parsed := json.marshalSubscription { subRaw with servers }
        match db.subscriptionsSet ids subIndex parsed fun other => (none, other) with
        | (some e, db) => (.returned (some e), db)
        | (none, db) => saveSubscriptions ids rt rest db

/-- `Whiches.SaveLatencies`. -/
def saveLatencies (ids : RowIDs) (rt : Go.Runtime) (ws : List Which) (db : Db ρ σ) :
    Exit × Db ρ σ :=
  let whiches := db.rows.getNonDuplicated rt ws
  match saveServers json (db.locator json) (rt.mapOrder 1 (serverIndexes whiches)) db with
  | (.returned none, db) =>
    saveSubscriptions json ids rt (rt.mapOrder 2 (subscriptionIndexes whiches)) db
  | exit => exit

end SaveLatencies

end Db

/-! ### What should hold -/

section Specification

variable {ρ σ ν : Type}

/-- A database as the program leaves it. -/
structure Stored (db : Db ρ σ) : Prop where
  lists : ∃ lists, Refines db lists
  fields : ∀ sub ∈ db.subscriptionsGetAll, sub.fields.stored = sub.fields

/-- `ServersSet` and `serversRemove` of an ordinal succeed and change one row. -/
structure ActsOnServer (db : Db ρ σ) (index : ℤ) (r : Row (ServerColumns ρ)) : Prop where
  set : ∀ config, ∃ db', Db.serversSet index config db = (none, db') ∧
    db'.serverRows = db.serverRows.map fun r' =>
      if r'.id = r.id then { r' with data := .server config } else r'
  remove : ∃ db', Db.serversRemove [index] db = (none, db') ∧
    db'.serverRows.map (fun r => (r.id, r.data)) =
      (db.serverRows.filter fun r' => r'.id ≠ r.id).map fun r => (r.id, r.data)

/-- `subscriptionsRemove` of an ordinal succeeds and removes one row. -/
structure ActsOnSubscription (db : Db ρ σ) (index : ℤ) (r : Row SubscriptionFields) : Prop where
  remove : ∃ db', Db.subscriptionsRemove [index] db = (none, db') ∧
    db'.subscriptionRows.map (fun r => (r.id, r.data)) =
      (db.subscriptionRows.filter fun r' => r'.id ≠ r.id).map fun r => (r.id, r.data)

/-- A node is the one in the row with the ordinals of a reference, in a subscription that can be
read, and writing and removing by these ordinals change that row. -/
def LocatedAt (json : NodeJSON ρ ν) (db : Db ρ σ) (w : NodeRef) (s : ServerRaw ν) : Prop :=
  match w.type with
  | .server => ∃ r, findAt db.serverRows (w.id - 1) = some r ∧
      json.bytes2ServerRaw r.data.config = some s ∧ ActsOnServer db (w.id - 1) r
  | .subscriptionServer => ∃ sub r, findAt db.subscriptionRows w.sub = some sub ∧
      (json.bytes2SubscriptionRaw (db.subscriptionJSON sub)).isSome ∧
      findAt (db.nodeRows sub.id) (w.id - 1) = some r ∧
      json.bytes2Node r.data.config = some s ∧ ActsOnSubscription db w.sub sub
  | _ => False

/-- The latencies that a list has for the server at an index. -/
def serverLatencies (ws : List Which) (i : ℕ) : List String :=
  (ws.filter fun w : Which => w.type = .server ∧ w.id = (i : ℤ) + 1).map Which.latency

/-- The latencies that a list has for the node at an index of a subscription. -/
def nodeLatencies (ws : List Which) (j i : ℕ) : List String :=
  (ws.filter fun w : Which => w.type = .subscriptionServer ∧ w.sub = j ∧ w.id = (i : ℤ) + 1).map
    Which.latency

/-- A row before and after: its node has one of the latencies. If there are none, then the row is
unchanged or was written again. -/
def Resaved (decode : ρ → Option (ServerRaw ν)) (latencies : List String) (b b' : ρ) : Prop :=
  if latencies = [] then b' = b ∨ ∃ s, decode b = some s ∧ decode b' = some s
  else ∃ s, decode b = some s ∧ ∃ latency ∈ latencies, decode b' = some { s with latency }

/-- A subscription before and after. -/
structure SubscriptionResaved (json : NodeJSON ρ ν) (latencies : ℕ → List String)
    (sub sub' : SubscriptionJSON ρ) : Prop where
  databaseID : sub'.databaseID = sub.databaseID
  fields : sub'.fields = sub.fields
  servers : ∀ i : ℕ, Option.Rel (Resaved json.bytes2Node (latencies i)) sub.servers[i]?
    sub'.servers[i]?

/-- Nothing has changed but the latencies of the nodes that a list names. -/
structure SavesOnly (json : NodeJSON ρ ν) (ws : List Which) (db db' : Db ρ σ) : Prop where
  other : db'.other = db.other
  servers : ∀ i : ℕ, Option.Rel (Resaved json.bytes2ServerRaw (serverLatencies ws i))
    db.serversGetAll[i]? db'.serversGetAll[i]?
  subscriptions : ∀ j : ℕ, Option.Rel (SubscriptionResaved json (nodeLatencies ws j))
    db.subscriptionsGetAll[j]? db'.subscriptionsGetAll[j]?

/-- Positions in the catalog that is loaded are ordinals of the tables. -/
structure OrdinalsAgree (json : NodeJSON ρ ν) (ids : RowIDs) (db : Db ρ σ) : Prop where
  locate : ∀ w s, (db.locator json).locate w = .ok s → LocatedAt json db w s
  saveLatencies : ∀ rt ws, (∀ w ∈ ws, ∃ s, (db.locator json).locate w.toNodeRef = .ok s) →
    ∃ db', Db.saveLatencies json ids rt ws db = (.returned none, db') ∧ SavesOnly json ws db db'

/-- No row that can be read stands after one that cannot; for a subscription this matters only if it
has nodes. -/
structure UnreadableLast (json : NodeJSON ρ ν) (db : Db ρ σ) : Prop where
  servers : db.serversGetAll.Pairwise fun b b' =>
    (json.bytes2ServerRaw b').isSome → (json.bytes2ServerRaw b).isSome
  subscriptions : db.subscriptionsGetAll.Pairwise fun b b' =>
    (json.bytes2SubscriptionRaw b').isSome → b'.servers ≠ [] →
      (json.bytes2SubscriptionRaw b).isSome

end Specification

/-! ### Positions -/

section Positions

variable {ρ σ ν : Type} {json : NodeJSON ρ ν} {db : Db ρ σ}

variable {sub : SubscriptionRaw ν}

variable {b : SubscriptionJSON ρ}

section

variable (h : json.bytes2SubscriptionRaw b = some sub)
include h

lemma NodeJSON.servers_of_bytes2SubscriptionRaw :
    List.Forall₂ (fun b s => json.bytes2Node b = some s) b.servers sub.servers := by
  obtain ⟨servers, hservers, rfl⟩ := map_eq_some_iff.mp h
  exact mapM_eq_some_iff.mp hservers

lemma NodeJSON.servers_eq_nil_iff : sub.servers = [] ↔ b.servers = [] := by
  rw [← length_eq_zero_iff, ← (json.servers_of_bytes2SubscriptionRaw h).length_eq,
    length_eq_zero_iff]

lemma NodeJSON.getElem?_servers (i : ℕ) :
    sub.servers[i]? = b.servers[i]?.bind json.bytes2Node := by
  have hservers := json.servers_of_bytes2SubscriptionRaw h
  cases hi : b.servers[i]? with
  | none =>
    refine List.getElem?_eq_none_iff.mpr ?_
    rw [← hservers.length_eq]
    exact List.getElem?_eq_none_iff.mp hi
  | some n =>
    obtain ⟨hlt, rfl⟩ := List.getElem?_eq_some_iff.mp hi
    have hlt' := hservers.length_eq ▸ hlt
    rw [List.getElem?_eq_getElem hlt']
    exact (hservers.get hlt hlt').symm

end

/-- The server at a position of the catalog. -/
lemma UnreadableLast.getElem?_servers (h : UnreadableLast json db) {i : ℕ} {s : ServerRaw ν}
    (hs : (db.getServers json)[i]? = some s) :
    db.serversGetAll[i]?.bind json.bytes2ServerRaw = some s := by
  refine bind_getElem?_of_filterMap (p := fun _ => True) (h.servers.imp ?_) hs trivial
  intro b b' hbb' s hs _
  exact hbb' (isSome_of_eq_some hs)

/-- The subscription at a position of the catalog, if it has nodes. -/
lemma UnreadableLast.getElem?_subscriptions (h : UnreadableLast json db) {j : ℕ}
    (hsub : (db.getSubscriptions json)[j]? = some sub) (hne : sub.servers ≠ []) :
    db.subscriptionsGetAll[j]?.bind json.bytes2SubscriptionRaw = some sub := by
  refine bind_getElem?_of_filterMap (p := fun sub => sub.servers ≠ [])
    (h.subscriptions.imp ?_) hsub hne
  intro b b' hbb' sub hsub hne
  exact hbb' (isSome_of_eq_some hsub) (mt (json.servers_eq_nil_iff hsub).mpr hne)

end Positions

/-! ### Rows at an ordinal -/

section Rows

variable {ρ σ : Type} {ids : RowIDs} {db : Db ρ σ} {lists : Lists ρ}

section

variable (h : Refines db lists)
include h

lemma Refines.getElem?_serversGetAll (i : ℕ) :
    db.serversGetAll[i]? = db.serverRows[i]?.map fun r => r.data.config := by
  rw [h.serversGetAll, ← h.servers, getElem?_map]

lemma Refines.getElem?_subscriptionsGetAll (j : ℕ) :
    db.subscriptionsGetAll[j]? = db.subscriptionRows[j]?.map db.subscriptionJSON := by
  rw [h.subscriptionsGetAll, getElem?_map]

lemma Refines.getElem?_servers (r : Row SubscriptionFields) (i : ℕ) :
    (db.subscriptionJSON r).servers[i]? = (db.nodeRows r.id)[i]?.map fun r => r.data.config := by
  rw [Db.subscriptionJSON, NumberedFrom.orderBySort_eq (h.nodeSort r.id), getElem?_map]

end

/-- In a list, a row is given by its position and by its key. -/
lemma sort_eq_iff_id_eq {α : Type} {t : Table α} {p : α → Bool} (h : Numbered (t.list p)) {i : ℕ}
    {r r' : Row α} (hr : (t.list p)[i]? = some r) (hr' : r' ∈ t.list p) :
    r'.sort = i ↔ r'.id = r.id := by
  have hsort : r.sort = i := by
    rw [NumberedFrom.sort_eq h hr, Nat.zero_add]
  rw [← hsort]
  exact Table.sort_eq_iff_id_eq (NumberedFrom.pairwise h) (mem_of_getElem? hr) hr'

lemma Refines.actsOnServer (h : Refines db lists) {i : ℕ} {r : Row (ServerColumns ρ)}
    (hr : db.serverRows[i]? = some r) : ActsOnServer db i r := by
  constructor
  · intro config
    refine ⟨_, if_neg (by simp [Numbered.findAt_natCast h.serverSort, hr]), ?_⟩
    refine (Table.list_update fun _ _ => rfl).trans (map_congr_left fun r' hr' => ?_)
    simp only [sort_eq_iff_id_eq h.serverSort hr hr']
  · refine ⟨_, if_neg (by simp), ?_⟩
    refine (Table.map_list_renumber _ _).trans ?_
    rw [Table.list_deleteAt]
    refine congrArg _ (filter_congr fun r' hr' => ?_)
    simp [sort_eq_iff_id_eq h.serverSort hr hr']

lemma Refines.actsOnSubscription (h : Refines db lists) {j : ℕ} {r : Row SubscriptionFields}
    (hr : db.subscriptionRows[j]? = some r) : ActsOnSubscription db j r := by
  refine ⟨_, if_neg (by simp), ?_⟩
  refine (Table.map_list_renumber _ _).trans (congrArg _ ?_)
  refine (h.deleted [(j : ℤ)]).subscriptionRows.trans (filter_congr fun r' hr' => ?_)
  simp [sort_eq_iff_id_eq h.subscriptionSort hr hr']

end Rows

/-! ### Locating -/

section Locating

variable {ρ σ ν : Type} {json : NodeJSON ρ ν} {db : Db ρ σ} {lists : Lists ρ}

/-- The rows of a reference that is located. -/
lemma UnreadableLast.cases_of_locate (h : UnreadableLast json db) {w : NodeRef} {s : ServerRaw ν}
    (hloc : (db.locator json).locate w = .ok s) :
    (∃ (i : ℕ) (b : ρ), w.type = .server ∧ w.id = i + 1 ∧ db.serversGetAll[i]? = some b ∧
        json.bytes2ServerRaw b = some s) ∨
      ∃ (j i : ℕ) (sub : SubscriptionJSON ρ) (raw : SubscriptionRaw ν),
        w.type = .subscriptionServer ∧ w.sub = j ∧ w.id = i + 1 ∧
        db.subscriptionsGetAll[j]? = some sub ∧ json.bytes2SubscriptionRaw sub = some raw ∧
        raw.servers[i]? = some s := by
  rcases (db.locator json).cases_of_locate hloc with
    ⟨i, htype, hid, hs⟩ | ⟨j, i, raw, htype, hsub, hid, hraw, hs⟩
  · obtain ⟨b, hb, hdecode⟩ := bind_eq_some_iff.mp (h.getElem?_servers hs)
    exact .inl ⟨i, b, htype, hid, hb, hdecode⟩
  · have hne : raw.servers ≠ [] := ne_nil_of_mem (mem_of_getElem? hs)
    obtain ⟨sub, hb, hdecode⟩ := bind_eq_some_iff.mp (h.getElem?_subscriptions hraw hne)
    exact .inr ⟨j, i, sub, raw, htype, hsub, hid, hb, hdecode, hs⟩

lemma UnreadableLast.locatedAt (h : UnreadableLast json db) (hlists : Refines db lists)
    {w : NodeRef} {s : ServerRaw ν} (hloc : (db.locator json).locate w = .ok s) :
    LocatedAt json db w s := by
  rcases h.cases_of_locate hloc with
    ⟨i, b, htype, hid, hb, hs⟩ | ⟨j, i, sub, raw, htype, hsub, hid, hb, hraw, hs⟩
  · have hind : w.id - 1 = i := by omega
    rw [hlists.getElem?_serversGetAll] at hb
    obtain ⟨r, hr, rfl⟩ := map_eq_some_iff.mp hb
    simp only [LocatedAt, htype, hind, Numbered.findAt_natCast hlists.serverSort]
    exact ⟨r, hr, hs, hlists.actsOnServer hr⟩
  · have hind : w.id - 1 = i := by omega
    rw [hlists.getElem?_subscriptionsGetAll] at hb
    obtain ⟨r, hr, rfl⟩ := map_eq_some_iff.mp hb
    rw [json.getElem?_servers hraw, hlists.getElem?_servers] at hs
    obtain ⟨b, hb, hs⟩ := bind_eq_some_iff.mp hs
    obtain ⟨node, hnode, rfl⟩ := map_eq_some_iff.mp hb
    simp only [LocatedAt, htype, hind, hsub, Numbered.findAt_natCast hlists.subscriptionSort,
      Numbered.findAt_natCast (hlists.nodeSort _)]
    exact ⟨r, node, hr, isSome_of_eq_some hraw, hnode, hs, hlists.actsOnSubscription hr⟩

/-- Conversely, if every reference is located at its ordinals, then no row is skipped before. -/
lemma unreadableLast_of_locatedAt (hlists : Refines db lists)
    (h : ∀ w s, (db.locator json).locate w = .ok s → LocatedAt json db w s) :
    UnreadableLast json db := by
  have hservers := pairwise_of_filterMap (f := json.bytes2ServerRaw) (l := db.serversGetAll)
    (p := fun _ => True) ?servers
  case servers =>
    intro i s hs _
    let w : NodeRef := ⟨.server, i + 1, 0, ""⟩
    obtain ⟨r, hr, hdecode, -⟩ := h w s (((db.locator json).locate_server rfl rfl).mpr hs)
    rw [show w.id - 1 = (i : ℤ) from add_sub_cancel_right _ _,
      Numbered.findAt_natCast hlists.serverSort] at hr
    refine ⟨s, ?_, trivial⟩
    rw [hlists.getElem?_serversGetAll, hr]
    exact hdecode
  have hsubscriptions := pairwise_of_filterMap (f := json.bytes2SubscriptionRaw)
    (l := db.subscriptionsGetAll) (p := fun sub => sub.servers ≠ []) ?subscriptions
  case subscriptions =>
    intro j raw hraw hne
    obtain ⟨s, hs⟩ := exists_mem_of_ne_nil _ hne
    obtain ⟨i, hs⟩ := mem_iff_getElem?.mp hs
    let w : NodeRef := ⟨.subscriptionServer, i + 1, j, ""⟩
    have hloc : (db.locator json).locate w = .ok s := by
      refine ((db.locator json).locate_subscriptionServer rfl rfl rfl).mpr ?_
      exact bind_eq_some_iff.mpr ⟨raw, hraw, hs⟩
    obtain ⟨sub, r, hsub, hdecode, hr, -⟩ := h w s hloc
    rw [Numbered.findAt_natCast hlists.subscriptionSort] at hsub
    rw [show w.id - 1 = (i : ℤ) from add_sub_cancel_right _ _,
      Numbered.findAt_natCast (hlists.nodeSort _)] at hr
    obtain ⟨raw', hraw'⟩ := isSome_iff_exists.mp hdecode
    refine ⟨raw', ?_, fun hnil => ?_⟩
    · rw [hlists.getElem?_subscriptionsGetAll, hsub]
      exact hraw'
    · -- the row has a node, so the subscription that is read has one
      have hnode := hlists.getElem?_servers sub i
      simp [(json.servers_eq_nil_iff hraw').mp hnil, hr] at hnode
  refine ⟨hservers.imp fun {b b'} hbb' hb' => ?_, hsubscriptions.imp fun {b b'} hbb' hb' hne => ?_⟩
  · obtain ⟨s, hs⟩ := isSome_iff_exists.mp hb'
    exact hbb' s hs trivial
  · obtain ⟨sub, hsub⟩ := isSome_iff_exists.mp hb'
    exact hbb' sub hsub (mt (json.servers_eq_nil_iff hsub).mp hne)

end Locating

/-! ### What a save changes -/

section Saving

variable {ρ σ ν : Type} {json : NodeJSON ρ ν} {decode : ρ → Option (ServerRaw ν)}
  {ws ws' : List Which} {db db₁ db₂ : Db ρ σ} {latencies latencies' : List String} {b b₁ b₂ : ρ}

lemma serverLatencies_append (i : ℕ) :
    serverLatencies (ws ++ ws') i = serverLatencies ws i ++ serverLatencies ws' i := by
  rw [serverLatencies, filter_append, map_append]
  rfl

lemma nodeLatencies_append (j i : ℕ) :
    nodeLatencies (ws ++ ws') j i = nodeLatencies ws j i ++ nodeLatencies ws' j i := by
  rw [nodeLatencies, filter_append, map_append]
  rfl

lemma latencies_subset {p : Which → Bool} (h : ws ⊆ ws') :
    (ws.filter p).map Which.latency ⊆ (ws'.filter p).map Which.latency := by
  refine map_subset _ fun w hw => ?_
  rw [mem_filter] at hw ⊢
  exact ⟨h hw.1, hw.2⟩

lemma Resaved.refl (b : ρ) : Resaved decode [] b b := .inl rfl

/-- The latencies of nodes before and after. -/
def Timed (latencies : List String) (s s' : ServerRaw ν) : Prop :=
  if latencies = [] then s' = s else ∃ latency ∈ latencies, s' = { s with latency }

lemma Timed.refl (s : ServerRaw ν) : Timed [] s s := by
  rw [Timed, if_pos rfl]

lemma Timed.trans {s s₁ s₂ : ServerRaw ν} (h₁ : Timed latencies s s₁)
    (h₂ : Timed latencies' s₁ s₂) : Timed (latencies ++ latencies') s s₂ := by
  unfold Timed at h₁ h₂ ⊢
  by_cases hnil : latencies = []
  · rw [if_pos hnil] at h₁
    rwa [hnil, nil_append, ← h₁]
  · rw [if_neg hnil] at h₁
    obtain ⟨latency, hmem, rfl⟩ := h₁
    rw [if_neg (by simp [hnil])]
    split_ifs at h₂
    · exact ⟨latency, mem_append_left _ hmem, h₂⟩
    · obtain ⟨latency', hmem', rfl⟩ := h₂
      exact ⟨latency', mem_append_right _ hmem', rfl⟩

lemma resaved_iff : Resaved decode latencies b b₁ ↔ latencies = [] ∧ b₁ = b ∨
    ∃ s s₁, decode b = some s ∧ decode b₁ = some s₁ ∧ Timed latencies s s₁ := by
  unfold Resaved Timed
  split_ifs with hnil
  · simp [hnil]
  · constructor
    · rintro ⟨s, hs, latency, hmem, hs₁⟩
      exact .inr ⟨s, _, hs, hs₁, latency, hmem, rfl⟩
    · rintro (⟨h, -⟩ | ⟨s, _, hs, hs₁, latency, hmem, rfl⟩)
      · exact absurd h hnil
      · exact ⟨s, hs, latency, hmem, hs₁⟩

lemma Resaved.trans (h₁ : Resaved decode latencies b b₁)
    (h₂ : Resaved decode latencies' b₁ b₂) : Resaved decode (latencies ++ latencies') b b₂ := by
  rcases resaved_iff.mp h₁ with ⟨rfl, rfl⟩ | ⟨s, s₁, hs, hs₁, htimed⟩
  · exact h₂
  · rcases resaved_iff.mp h₂ with ⟨rfl, rfl⟩ | ⟨s', s₂, hs', hs₂, htimed'⟩
    · rwa [append_nil]
    · obtain rfl := some.inj (hs₁.symm.trans hs')
      exact resaved_iff.mpr (.inr ⟨s, s₂, hs, hs₂, htimed.trans htimed'⟩)

lemma Resaved.mono (h : Resaved decode latencies b b₁) (hsub : latencies ⊆ latencies')
    (hne : latencies' ≠ [] → latencies ≠ []) : Resaved decode latencies' b b₁ := by
  unfold Resaved at h ⊢
  by_cases hnil : latencies' = []
  · rw [if_pos hnil]
    rwa [if_pos (subset_nil.mp (hnil ▸ hsub))] at h
  · rw [if_neg (hne hnil)] at h
    rw [if_neg hnil]
    obtain ⟨s, hs, latency, hmem, hs₁⟩ := h
    exact ⟨s, hs, latency, hsub hmem, hs₁⟩

variable {α : Type}

lemma optionRel_refl {R : α → α → Prop} (h : ∀ a, R a a) (o : Option α) :
    Rel R o o := by
  cases o with
  | none => exact .none
  | some a => exact .some (h a)

lemma optionRel_trans {R R' R'' : α → α → Prop} {o o₁ o₂ : Option α} (h₁ : Rel R o o₁)
    (h₂ : Rel R' o₁ o₂) (h : ∀ a a₁ a₂, R a a₁ → R' a₁ a₂ → R'' a a₂) :
    Rel R'' o o₂ := by
  cases h₁ with
  | none =>
    cases h₂
    exact .none
  | some h₁ =>
    cases h₂ with
    | some h₂ => exact .some (h _ _ _ h₁ h₂)

lemma optionRel_mono {R R' : α → α → Prop} {o o₁ : Option α} (h₁ : Rel R o o₁)
    (h : ∀ a a₁, R a a₁ → R' a a₁) : Rel R' o o₁ := by
  cases h₁ with
  | none => exact .none
  | some h₁ => exact .some (h _ _ h₁)

lemma exists_of_optionRel {R : α → α → Prop} {a : α} {o : Option α} (h : Rel R (some a) o) :
    ∃ b, o = some b ∧ R a b := by
  cases h with
  | some h => exact ⟨_, rfl, h⟩

lemma length_eq_of_optionRel {R : ℕ → α → α → Prop} {l l' : List α}
    (h : ∀ i, Rel (R i) l[i]? l'[i]?) : l.length = l'.length := by
  refine le_antisymm ?_ ?_
  · by_contra hlt
    have hrel := h l'.length
    rw [getElem?_eq_getElem (by omega), getElem?_eq_none_iff.mpr le_rfl] at hrel
    cases hrel
  · by_contra hlt
    have hrel := h l.length
    rw [getElem?_eq_none_iff.mpr le_rfl, getElem?_eq_getElem (by omega)] at hrel
    cases hrel

lemma SubscriptionResaved.refl (sub : SubscriptionJSON ρ) :
    SubscriptionResaved json (fun _ => []) sub sub :=
  ⟨rfl, rfl, fun _ => optionRel_refl .refl _⟩

lemma SavesOnly.refl (db : Db ρ σ) : SavesOnly json [] db db :=
  ⟨rfl, fun _ => optionRel_refl .refl _, fun _ => optionRel_refl .refl _⟩

lemma SavesOnly.trans (h₁ : SavesOnly json ws db db₁) (h₂ : SavesOnly json ws' db₁ db₂) :
    SavesOnly json (ws ++ ws') db db₂ where
  other := h₂.other.trans h₁.other
  servers i := by
    rw [serverLatencies_append]
    exact optionRel_trans (h₁.servers i) (h₂.servers i) fun _ _ _ => .trans
  subscriptions j := by
    refine optionRel_trans (h₁.subscriptions j) (h₂.subscriptions j)
      fun sub sub₁ sub₂ hsub₁ hsub₂ => ?_
    refine ⟨hsub₂.databaseID.trans hsub₁.databaseID, hsub₂.fields.trans hsub₁.fields, fun i => ?_⟩
    rw [nodeLatencies_append]
    exact optionRel_trans (hsub₁.servers i) (hsub₂.servers i) fun _ _ _ => .trans

/-- A list that names the same nodes. -/
lemma SavesOnly.mono (h : SavesOnly json ws db db₁) (hsub : ws ⊆ ws')
    (hservers : ∀ i, serverLatencies ws' i ≠ [] → serverLatencies ws i ≠ [])
    (hnodes : ∀ j i, nodeLatencies ws' j i ≠ [] → nodeLatencies ws j i ≠ []) :
    SavesOnly json ws' db db₁ where
  other := h.other
  servers i := optionRel_mono (h.servers i) fun _ _ hb =>
    hb.mono (latencies_subset hsub) (hservers i)
  subscriptions j := optionRel_mono (h.subscriptions j) fun _ _ hsub₁ =>
    ⟨hsub₁.databaseID, hsub₁.fields, fun i => optionRel_mono (hsub₁.servers i) fun _ _ hb =>
      hb.mono (latencies_subset hsub) (hnodes j i)⟩

end Saving

/-! ### The loops -/

section Loops

variable {ρ σ ν : Type} {codec : Codec ρ ν} {ids : RowIDs} {db db₁ : Db ρ σ}

/-- Set a server that exists. -/
lemma Stored.serversSet (h : Stored db) {i : ℕ} (hi : i < db.serversGetAll.length) (config : ρ) :
    ∃ db', Db.serversSet i config db = (none, db') ∧ Stored db' ∧ db'.other = db.other ∧
      db'.serversGetAll = db.serversGetAll.set i config ∧
      db'.subscriptionsGetAll = db.subscriptionsGetAll := by
  obtain ⟨lists, hlists⟩ := h.lists
  obtain ⟨r, hr, -⟩ := map_eq_some_iff.mp
    ((hlists.getElem?_serversGetAll i).symm.trans (getElem?_eq_getElem hi))
  obtain ⟨db', hrun, -⟩ := (hlists.actsOnServer hr).set config
  have hcall : (ListCall.serversSet i config).run sequentialIDs db = (none, db') := hrun
  obtain ⟨hservers, hsubs⟩ := (hlists.setsOne _ hcall).serversSet i config rfl
  refine ⟨db', hrun, ⟨⟨_, hlists.call _ hcall⟩, ?_⟩, ?_, hservers, hsubs⟩
  · rw [hsubs]
    exact h.fields
  · unfold Db.serversSet at hrun
    split_ifs at hrun
    · cases hrun
    · cases hrun
      rfl

variable {sub : SubscriptionJSON ρ}

/-- Set a subscription that exists to one with the same columns. -/
lemma Stored.subscriptionsSet (h : Stored db) (ids : RowIDs) {j : ℕ}
    (hsub : db.subscriptionsGetAll[j]? = some sub) {val : SubscriptionJSON ρ}
    (hval : val.fields = sub.fields) :
    ∃ db', Db.subscriptionsSet ids j val (fun other => (none, other)) db = (none, db') ∧
      Stored db' ∧ db'.other = db.other ∧ db'.serversGetAll = db.serversGetAll ∧
      db'.subscriptionsGetAll = db.subscriptionsGetAll.set j { sub with servers := val.servers } := by
  obtain ⟨lists, hlists⟩ := h.lists
  obtain ⟨r, hr, -⟩ := map_eq_some_iff.mp
    ((hlists.getElem?_subscriptionsGetAll j).symm.trans hsub)
  have hfind : findAt db.subscriptionRows (j : ℤ) = some r := by
    rw [Numbered.findAt_natCast hlists.subscriptionSort, hr]
  obtain ⟨db', hset⟩ : ∃ db', Db.setSubscription ids j val db = (none, db') := by
    rw [Db.setSubscription, hfind]
    exact ⟨_, rfl⟩
  have hrun : Db.subscriptionsSet ids j val (fun other => (none, other)) db = (none, db') := by
    rw [Db.subscriptionsSet, Db.readModifyWrite, Db.afterCallback]
    simp only [hset]
  have hcall : (ListCall.subscriptionsSet j val fun other => (none, other)).run ids db =
    (none, db') := hrun
  obtain ⟨hservers, hsubs⟩ := (hlists.setsOne _ hcall).subscriptionsSet _ _ _ rfl
  have hfields := h.fields sub (List.mem_of_getElem? hsub)
  have hmodify : db'.subscriptionsGetAll =
      db.subscriptionsGetAll.set j { sub with servers := val.servers } := by
    rw [hsubs, hval, hfields]
    refine List.ext_getElem? fun k => ?_
    by_cases hk : j = k
    · subst hk
      obtain ⟨hlt, rfl⟩ := List.getElem?_eq_some_iff.mp hsub
      simp [hlt]
    · simp [hk]
  refine ⟨db', hrun, ⟨⟨_, hlists.call _ hcall⟩, fun sub' hsub' => ?_⟩, ?_, hservers, hmodify⟩
  · rw [hmodify] at hsub'
    rcases List.mem_or_eq_of_mem_set hsub' with hmem | rfl
    · exact h.fields sub' hmem
    · exact hfields
  · rw [Db.setSubscription, hfind] at hset
    cases hset
    rfl

variable {entries : List (ℤ × Which)}

/-- The servers are written; `done` are the references that were. -/
lemma saveServers_eq {loc : Store ν} {done : List Which}
    (hentries : ∀ e ∈ entries, e.2.type = .server ∧ ∃ (i : ℕ) (b : ρ) (s : ServerRaw ν), e.1 = i ∧
      e.2.id = i + 1 ∧ db.serversGetAll[i]? = some b ∧ codec.bytes2ServerRaw b = some s ∧
      loc.locate e.2.toNodeRef = .ok s)
    (hstored : Stored db₁) (hsaved : SavesOnly codec.toNodeJSON done db db₁) :
    ∃ db₂, Db.saveServers codec.toNodeJSON loc entries db₁ = (.returned none, db₂) ∧ Stored db₂ ∧
      SavesOnly codec.toNodeJSON (done ++ entries.map snd) db db₂ := by
  induction entries generalizing done db₁ with
  | nil => exact ⟨db₁, rfl, hstored, by simpa using hsaved⟩
  | cons e entries ih =>
    obtain ⟨index, which⟩ := e
    obtain ⟨htype, i, b, s, rfl, hid, hb, hs, hloc⟩ := hentries _ List.mem_cons_self
    dsimp only at htype hid hloc
    have hi : i < db₁.serversGetAll.length := by
      have hrel := hsaved.servers i
      rw [hb] at hrel
      obtain ⟨b₁, hb₁, -⟩ := exists_of_optionRel hrel
      exact (List.getElem?_eq_some_iff.mp hb₁).1
    obtain ⟨db₂, hrun, hstored₂, hother, hservers, hsubs⟩ :=
      hstored.serversSet hi (codec.marshal { s with latency := which.latency })
    have hsaved₂ : SavesOnly codec.toNodeJSON (done ++ [which]) db db₂ := by
      refine ⟨hother.trans hsaved.other, fun k => ?_, fun j => ?_⟩
      · rw [hservers, serverLatencies_append, List.getElem?_set]
        by_cases hk : i = k
        · -- what was located is the node of the row at first
          subst hk
          rw [if_pos rfl, if_pos hi, hb]
          refine .some ?_
          have hlatency : serverLatencies [which] i = [which.latency] := by
            simp [serverLatencies, htype, hid]
          rw [Resaved, if_neg (by simp [hlatency])]
          exact ⟨s, hs, which.latency, by simp [hlatency],
            codec.bytes2ServerRaw_marshal b s which.latency hs⟩
        · have hlatency : serverLatencies [which] k = [] := by
            simp [serverLatencies, hid, hk]
          rw [if_neg hk, hlatency, List.append_nil]
          exact hsaved.servers k
      · have hlatency : nodeLatencies (done ++ [which]) j = nodeLatencies done j := by
          funext k
          simp [nodeLatencies, htype]
        rw [hsubs, hlatency]
        exact hsaved.subscriptions j
    obtain ⟨db₃, hrest, hstored₃, hsaved₃⟩ :=
      ih (fun e he => hentries e (List.mem_cons_of_mem _ he)) hstored₂ hsaved₂
    refine ⟨db₃, ?_, hstored₃, by simpa using hsaved₃⟩
    simp only [Db.saveServers, hloc, hrun]
    exact hrest

variable {latencies : List String}

lemma Timed.cons {latency : String} {s s' : ServerRaw ν}
    (h : Timed latencies { s with latency } s') : Timed (latency :: latencies) s s' := by
  have hone : Timed [latency] s { s with latency } := by simp [Timed]
  exact hone.trans h

variable {servers : List (ServerRaw ν)}

/-- The latencies of the nodes of one subscription are set. -/
lemma foldlM_setLatency (hentries : ∀ e ∈ entries, ∃ i : ℕ, e.1 = i ∧ i < servers.length) :
    ∃ servers', entries.foldlM (fun servers e => Db.setLatency servers e.1 e.2.latency) servers =
        some servers' ∧
      ∀ i : ℕ, Rel
        (Timed ((entries.filter fun e => e.1 = (i : ℤ)).map fun e => e.2.latency)) servers[i]?
        servers'[i]? := by
  induction entries generalizing servers with
  | nil => exact ⟨servers, rfl, fun i => optionRel_refl Timed.refl _⟩
  | cons e entries ih =>
    obtain ⟨index, which⟩ := e
    obtain ⟨k, rfl, hk⟩ := hentries _ mem_cons_self
    have hset : Db.setLatency servers k which.latency =
        some (servers.set k { servers[k] with latency := which.latency }) := by
      simp [Db.setLatency, hk]
    have hrest : ∀ e ∈ entries, ∃ i : ℕ, e.1 = i ∧
        i < (servers.set k { servers[k] with latency := which.latency }).length := fun e he => by
      simpa using hentries e (mem_cons_of_mem _ he)
    obtain ⟨servers', hfold, hservers'⟩ := ih hrest
    refine ⟨servers', ?_, fun i => ?_⟩
    · rw [foldlM_cons]
      simp only [hset]
      exact hfold
    · have hrel := hservers' i
      rw [getElem?_set] at hrel
      by_cases hki : k = i
      · subst hki
        rw [if_pos rfl, if_pos hk] at hrel
        rw [filter_cons_of_pos (by simp), getElem?_eq_getElem hk]
        generalize servers'[k]? = o at hrel
        cases hrel with
        | some h => exact .some h.cons
      · rw [if_neg hki] at hrel
        rwa [filter_cons_of_neg (by simpa using hki)]

/-- A node that is written with its latency. -/
lemma resaved_marshal {b : ρ} {s s' : ServerRaw ν} (hs : codec.bytes2Node b = some s)
    (h : Timed latencies s s') :
    Resaved codec.bytes2Node latencies b (codec.marshal s') := by
  refine resaved_iff.mpr (.inr ⟨s, s', hs, ?_, h⟩)
  unfold Timed at h
  split_ifs at h
  · exact h ▸ codec.bytes2Node_marshal b s s.latency hs
  · obtain ⟨latency, -, rfl⟩ := h
    exact codec.bytes2Node_marshal b s latency hs

/-- A subscription that could be read can still be read. -/
lemma SubscriptionResaved.isSome {latencies : ℕ → List String} {sub sub₁ : SubscriptionJSON ρ}
    (h : SubscriptionResaved codec.toNodeJSON latencies sub sub₁)
    (hsub : (codec.bytes2SubscriptionRaw sub).isSome) :
    (codec.bytes2SubscriptionRaw sub₁).isSome := by
  rw [NodeJSON.bytes2SubscriptionRaw, isSome_map, isSome_mapM_iff] at hsub ⊢
  intro b₁ hb₁
  obtain ⟨i, hi⟩ := mem_iff_getElem?.mp hb₁
  have hrel := h.servers i
  rw [hi] at hrel
  cases hb : sub.servers[i]? with
  | none => simp [hb] at hrel
  | some b =>
    rw [hb, rel_some_some] at hrel
    rcases resaved_iff.mp hrel with ⟨-, rfl⟩ | ⟨-, s₁, -, hs₁, -⟩
    · exact hsub b₁ (mem_of_getElem? hb)
    · exact isSome_of_eq_some hs₁

/-- What one entry of the loop over the subscriptions writes. -/
lemma savesOnly_subscription {db₂ : Db ρ σ} {j : ℕ} {raw : SubscriptionRaw ν}
    (hsub : db₁.subscriptionsGetAll[j]? = some sub)
    (hraw : codec.bytes2SubscriptionRaw sub = some raw)
    (hentries : ∀ e ∈ entries, e.2.type = .subscriptionServer ∧ e.2.sub = j ∧ e.2.id = e.1 + 1)
    (htimed : ∀ i : ℕ, Rel
      (Timed ((entries.filter fun e => e.1 = (i : ℤ)).map fun e => e.2.latency)) raw.servers[i]?
        servers[i]?)
    (hother : db₂.other = db₁.other) (hservers : db₂.serversGetAll = db₁.serversGetAll)
    (hsubs : db₂.subscriptionsGetAll =
      db₁.subscriptionsGetAll.set j { sub with servers := servers.map codec.marshal }) :
    SavesOnly codec.toNodeJSON (entries.map snd) db₁ db₂ := by
  refine ⟨hother, fun i => ?_, fun k => ?_⟩
  · have hnone : serverLatencies (entries.map snd) i = [] := by
      rw [serverLatencies, List.map_eq_nil_iff, List.filter_eq_nil_iff]
      intro w hw
      obtain ⟨e, he, rfl⟩ := List.mem_map.mp hw
      simp [(hentries e he).1]
    rw [hnone, hservers]
    exact optionRel_refl .refl _
  · rw [hsubs, List.getElem?_set]
    by_cases hk : j = k
    · subst hk
      rw [if_pos rfl, if_pos (List.getElem?_eq_some_iff.mp hsub).1, hsub]
      refine .some ⟨rfl, rfl, fun i => ?_⟩
      have hlatencies : nodeLatencies (entries.map snd) j i =
          (entries.filter fun e => e.1 = (i : ℤ)).map fun e => e.2.latency := by
        rw [nodeLatencies, List.filter_map, List.map_map]
        refine congrArg _ (List.filter_congr fun e he => ?_)
        obtain ⟨htype, hej, hid⟩ := hentries e he
        simp [htype, hej, hid]
      have hrel := htimed i
      rw [codec.getElem?_servers hraw, ← hlatencies] at hrel
      rw [List.getElem?_map]
      generalize servers[i]? = o at hrel
      cases hb : sub.servers[i]? with
      | none =>
        rw [hb] at hrel
        cases hrel
        exact .none
      | some b =>
        have hall := List.isSome_mapM_iff.mp (isSome_map.symm.trans (isSome_of_eq_some hraw))
        obtain ⟨s, hs⟩ := isSome_iff_exists.mp (hall b (List.mem_of_getElem? hb))
        rw [hb, bind_some, hs] at hrel
        obtain ⟨s', rfl, hs'⟩ := exists_of_optionRel hrel
        exact .some (resaved_marshal hs hs')
    · have hnone : nodeLatencies (entries.map snd) k = fun _ => [] := by
        funext i
        rw [nodeLatencies, List.map_eq_nil_iff, List.filter_eq_nil_iff]
        intro w hw
        obtain ⟨e, he, rfl⟩ := List.mem_map.mp hw
        simp [(hentries e he).2.1, hk]
      rw [if_neg hk, hnone]
      exact optionRel_refl .refl _

/-- The subscriptions are written; `done` are the references that were. -/
lemma saveSubscriptions_eq (rt : Go.Runtime) {entries : List (ℤ × Go.Map ℤ Which)}
    {done : List Which}
    (hentries : ∀ e ∈ entries, ∃ (j : ℕ) (sub : SubscriptionJSON ρ), e.1 = j ∧
      db.subscriptionsGetAll[j]? = some sub ∧ (codec.bytes2SubscriptionRaw sub).isSome ∧
      ∀ f ∈ e.2, f.2.type = .subscriptionServer ∧ f.2.sub = j ∧ f.2.id = f.1 + 1 ∧
        0 ≤ f.1 ∧ f.1 < sub.servers.length)
    (hstored : Stored db₁) (hsaved : SavesOnly codec.toNodeJSON done db db₁) :
    ∃ db₂, Db.saveSubscriptions codec.toNodeJSON ids rt entries db₁ = (.returned none, db₂) ∧
      SavesOnly codec.toNodeJSON
        (done ++ entries.flatMap fun e => (rt.mapOrder 3 e.2).map snd) db db₂ := by
  induction entries generalizing done db₁ with
  | nil => exact ⟨db₁, rfl, by simpa using hsaved⟩
  | cons e entries ih =>
    obtain ⟨index, indexes⟩ := e
    obtain ⟨j, sub, rfl, hsub, hread, hindexes⟩ := hentries _ mem_cons_self
    -- the subscription as it is by now
    have hrel := hsaved.subscriptions j
    rw [hsub] at hrel
    obtain ⟨sub₁, hsub₁, hresaved⟩ := exists_of_optionRel hrel
    obtain ⟨raw, hraw⟩ := isSome_iff_exists.mp (hresaved.isSome hread)
    have hget : db₁.getSubscription codec.toNodeJSON j = some raw := by
      obtain ⟨lists, hlists⟩ := hstored.lists
      have hget := (hlists.subscriptionsGet j sub₁).mpr ⟨Int.natCast_nonneg j, hsub₁⟩
      rw [Db.getSubscription, hget]
      exact hraw
    have hlength : raw.servers.length = sub.servers.length := by
      rw [← (codec.servers_of_bytes2SubscriptionRaw hraw).length_eq]
      exact (length_eq_of_optionRel hresaved.servers).symm
    have hin : ∀ f ∈ rt.mapOrder 3 indexes, ∃ i : ℕ, f.1 = i ∧ i < raw.servers.length := by
      intro f hf
      obtain ⟨-, -, -, hnonneg, hlt⟩ := hindexes f ((rt.mapOrder_perm 3 indexes).mem_iff.mp hf)
      exact ⟨f.1.toNat, by omega, by omega⟩
    obtain ⟨servers, hfold, htimed⟩ := foldlM_setLatency hin
    have hfields : (codec.marshalSubscription { raw with servers }).fields = sub₁.fields := by
      obtain ⟨_, -, rfl⟩ := map_eq_some_iff.mp hraw
      rfl
    obtain ⟨db₂, hrun, hstored₂, hother, hservers, hsubs⟩ :=
      hstored.subscriptionsSet ids hsub₁ hfields
    have hstep := savesOnly_subscription hsub₁ hraw (fun f hf => by
      obtain ⟨htype, hfsub, hid, -⟩ := hindexes f ((rt.mapOrder_perm 3 indexes).mem_iff.mp hf)
      exact ⟨htype, hfsub, hid⟩) htimed hother hservers hsubs
    obtain ⟨db₃, hrest, hsaved₃⟩ := ih (fun e he => hentries e (mem_cons_of_mem _ he))
      hstored₂ (hsaved.trans hstep)
    refine ⟨db₃, ?_, by simpa using hsaved₃⟩
    simp only [Db.saveSubscriptions, hget, hfold, hrun]
    exact hrest

/-! ### The maps of references -/

variable {whiches : List Which} {which : Which}

lemma serverIndexes_eq (whiches : List Which) : Db.serverIndexes whiches =
    ofWrites ((whiches.filter (·.type = .server)).map fun w => (w.id - 1, w)) := by
  simp [Db.serverIndexes, ofWrites, foldl_map, foldl_filter]

lemma mem_serverIndexes {index : ℤ} (h : (index, which) ∈ Db.serverIndexes whiches) :
    which ∈ whiches ∧ which.type = .server ∧ which.id = index + 1 := by
  rw [serverIndexes_eq, mem_ofWrites] at h
  obtain ⟨w, hw, hpair⟩ := mem_map.mp (mem_of_get?_ofWrites h)
  obtain ⟨rfl, rfl⟩ := Prod.mk.inj hpair
  obtain ⟨hmem, htype⟩ := mem_filter.mp hw
  exact ⟨hmem, of_decide_eq_true htype, by omega⟩

lemma exists_serverIndexes (h : which ∈ whiches) (htype : which.type = .server) :
    ∃ which', (Db.serverIndexes whiches).get? (which.id - 1) = some which' := by
  rw [serverIndexes_eq]
  exact exists_get?_ofWrites
    (mem_map.mpr ⟨which, mem_filter.mpr ⟨h, decide_eq_true htype⟩, rfl⟩)

variable {indexes : Go.Map ℤ Which}

lemma mem_subscriptionIndexes {j i : ℤ} (h : (j, indexes) ∈ Db.subscriptionIndexes whiches)
    (hi : (i, which) ∈ indexes) :
    which ∈ whiches ∧ which.type = .subscriptionServer ∧ which.sub = j ∧ which.id = i + 1 := by
  induction whiches using reverseRecOn generalizing j i indexes which with
  | nil => cases h
  | append_singleton whiches w ih =>
    rw [Db.subscriptionIndexes, foldl_append, foldl_cons] at h
    split_ifs at h with htype
    · rcases mem_put.mp h with ⟨rfl, rfl⟩ | ⟨-, h⟩
      · rcases mem_put.mp hi with ⟨rfl, rfl⟩ | ⟨-, hi⟩
        · exact ⟨mem_append_right _ mem_cons_self, htype, rfl, by omega⟩
        · -- an earlier entry for the same subscription
          cases hget : (Db.subscriptionIndexes whiches).get? w.sub with
          | none =>
            rw [Db.subscriptionIndexes] at hget
            simp [hget] at hi
          | some indexes =>
            have hmem := mem_of_get? hget
            rw [Db.subscriptionIndexes] at hget
            rw [hget] at hi
            exact ⟨mem_append_left _ (ih hmem hi).1, (ih hmem hi).2⟩
      · exact ⟨mem_append_left _ (ih h hi).1, (ih h hi).2⟩
    · exact ⟨mem_append_left _ (ih h hi).1, (ih h hi).2⟩

lemma ne_nil_of_mem_subscriptionIndexes {j : ℤ}
    (h : (j, indexes) ∈ Db.subscriptionIndexes whiches) :
    indexes ≠ [] := by
  induction whiches using reverseRecOn with
  | nil => cases h
  | append_singleton whiches w ih =>
    rw [Db.subscriptionIndexes, foldl_append, foldl_cons] at h
    split_ifs at h with htype
    · rcases mem_put.mp h with ⟨-, rfl⟩ | ⟨-, h⟩
      · exact cons_ne_nil _ _
      · exact ih h
    · exact ih h

lemma exists_subscriptionIndexes (h : which ∈ whiches)
    (htype : which.type = .subscriptionServer) :
    ∃ indexes which', (Db.subscriptionIndexes whiches).get? which.sub = some indexes ∧
      indexes.get? (which.id - 1) = some which' := by
  induction whiches using reverseRecOn with
  | nil => cases h
  | append_singleton whiches w ih =>
    rw [Db.subscriptionIndexes, foldl_append, foldl_cons, foldl_nil]
    rcases mem_append.mp h with h | h
    · obtain ⟨indexes, which', hindexes, hwhich'⟩ := ih h
      split_ifs with hw
      · rw [get?_put]
        split_ifs with hsub
        · rw [Db.subscriptionIndexes, hsub] at hindexes
          rw [hindexes]
          refine ⟨_, if which.id - 1 = w.id - 1 then w else which', rfl, ?_⟩
          rw [get?_put]
          split_ifs
          · rfl
          · exact hwhich'
        · exact ⟨indexes, which', hindexes, hwhich'⟩
      · exact ⟨indexes, which', hindexes, hwhich'⟩
    · obtain rfl := mem_singleton.mp h
      rw [if_pos htype, get?_put, if_pos rfl]
      exact ⟨_, which, rfl, by rw [get?_put, if_pos rfl]⟩

end Loops

/-! ### Agreement -/

section Agreement

variable {ρ σ ν : Type} {codec : Codec ρ ν} {ids : RowIDs} {db : Db ρ σ}

/-- A reference that is located names rows that exist. -/
lemma UnreadableLast.inRange {json : NodeJSON ρ ν} (h : UnreadableLast json db) {w : NodeRef}
    {s : ServerRaw ν} (hloc : (db.locator json).locate w = .ok s) : db.rows.inRange w := by
  rcases h.cases_of_locate hloc with
    ⟨i, b, htype, hid, hb, -⟩ | ⟨j, i, sub, raw, htype, hsub, hid, hb, hraw, hs⟩
  · have hi := (List.getElem?_eq_some_iff.mp hb).1
    simp only [Store.inRange, htype, Store.getLenServers, Db.rows, List.length_map,
      decide_eq_true_eq]
    omega
  · have hj := (List.getElem?_eq_some_iff.mp hb).1
    have hi := (List.getElem?_eq_some_iff.mp hs).1
    rw [← (json.servers_of_bytes2SubscriptionRaw hraw).length_eq] at hi
    simp only [Store.inRange, htype, Store.getLenSubscriptions, Store.getLenSubscriptionServers,
      Db.rows, hsub, Int.toNat_natCast, List.length_map, List.getElem?_map, hb, map_some,
      decide_eq_true_eq]
    omega

/-- The references in the order in which they are written. -/
def savedWhiches (rt : Go.Runtime) (whiches : List Which) : List Which :=
  (rt.mapOrder 1 (Db.serverIndexes whiches)).map Prod.snd ++
    (rt.mapOrder 2 (Db.subscriptionIndexes whiches)).flatMap fun e =>
      (rt.mapOrder 3 e.2).map Prod.snd

lemma savedWhiches_subset (rt : Go.Runtime) (whiches : List Which) :
    savedWhiches rt whiches ⊆ whiches := by
  intro w hw
  rcases mem_append.mp hw with hw | hw
  · obtain ⟨e, he, rfl⟩ := mem_map.mp hw
    exact (mem_serverIndexes ((rt.mapOrder_perm 1 _).mem_iff.mp he)).1
  · obtain ⟨e, he, hw⟩ := mem_flatMap.mp hw
    obtain ⟨f, hf, rfl⟩ := mem_map.mp hw
    exact (mem_subscriptionIndexes ((rt.mapOrder_perm 2 _).mem_iff.mp he)
      ((rt.mapOrder_perm 3 _).mem_iff.mp hf)).1

lemma latencies_ne_nil_iff {ws : List Which} {p : Which → Bool} :
    (ws.filter p).map Which.latency ≠ [] ↔ ∃ w ∈ ws, p w := by
  rw [Ne, map_eq_nil_iff, filter_eq_nil_iff]
  push Not
  rfl

variable {whiches : List Which}

/-- Every server that is named is written. -/
lemma exists_server_savedWhiches (rt : Go.Runtime) {w : Which} (hw : w ∈ whiches)
    (htype : w.type = .server) :
    ∃ w' ∈ savedWhiches rt whiches, w'.type = .server ∧ w'.id = w.id := by
  obtain ⟨w', hget⟩ := exists_serverIndexes hw htype
  have hmem := mem_of_get? hget
  obtain ⟨-, htype', hid⟩ := mem_serverIndexes hmem
  have hvisited := (rt.mapOrder_perm 1 _).mem_iff.mpr hmem
  exact ⟨w', mem_append_left _ (mem_map_of_mem (f := snd) hvisited), htype', by omega⟩

/-- Every node of a subscription that is named is written. -/
lemma exists_node_savedWhiches (rt : Go.Runtime) {w : Which} (hw : w ∈ whiches)
    (htype : w.type = .subscriptionServer) :
    ∃ w' ∈ savedWhiches rt whiches, w'.type = .subscriptionServer ∧ w'.sub = w.sub ∧
      w'.id = w.id := by
  obtain ⟨indexes, w', hindexes, hget⟩ := exists_subscriptionIndexes hw htype
  have hmem := mem_of_get? hindexes
  have hmem' := mem_of_get? hget
  obtain ⟨-, htype', hsub, hid⟩ := mem_subscriptionIndexes hmem hmem'
  have hvisited := (rt.mapOrder_perm 3 _).mem_iff.mpr hmem'
  refine ⟨w', mem_append_right _ (mem_flatMap.mpr ⟨(w.sub, indexes), ?_,
    mem_map_of_mem (f := snd) hvisited⟩), htype', hsub, by omega⟩
  exact (rt.mapOrder_perm 2 _).mem_iff.mpr hmem

section

variable (h : UnreadableLast codec.toNodeJSON db)
include h

/-- The entries of the first loop are servers that exist. -/
lemma UnreadableLast.serverEntry
    (hwhiches : ∀ w ∈ whiches, ∃ s, (db.locator codec.toNodeJSON).locate w.toNodeRef = .ok s)
    {e : ℤ × Which} (he : e ∈ Db.serverIndexes whiches) :
    e.2.type = .server ∧ ∃ (i : ℕ) (b : ρ) (s : ServerRaw ν), e.1 = i ∧ e.2.id = i + 1 ∧
      db.serversGetAll[i]? = some b ∧ codec.bytes2ServerRaw b = some s ∧
      (db.locator codec.toNodeJSON).locate e.2.toNodeRef = .ok s := by
  obtain ⟨hwhich, htype, hid⟩ := mem_serverIndexes he
  obtain ⟨s, hs⟩ := hwhiches e.2 hwhich
  refine ⟨htype, ?_⟩
  rcases h.cases_of_locate hs with ⟨i, b, -, hid', hb, hdecode⟩ | ⟨_, _, _, _, htype', _⟩
  · exact ⟨i, b, s, by omega, hid', hb, hdecode, hs⟩
  · cases htype.symm.trans htype'

/-- The entries of the second loop are nodes of one subscription, which can be read. -/
lemma UnreadableLast.subscriptionEntry
    (hwhiches : ∀ w ∈ whiches, ∃ s, (db.locator codec.toNodeJSON).locate w.toNodeRef = .ok s)
    {e : ℤ × Go.Map ℤ Which} (he : e ∈ Db.subscriptionIndexes whiches) :
    ∃ (j : ℕ) (sub : SubscriptionJSON ρ), e.1 = j ∧ db.subscriptionsGetAll[j]? = some sub ∧
      (codec.bytes2SubscriptionRaw sub).isSome ∧
      ∀ f ∈ e.2, f.2.type = .subscriptionServer ∧ f.2.sub = j ∧ f.2.id = f.1 + 1 ∧
        0 ≤ f.1 ∧ f.1 < sub.servers.length := by
  have hrows (f : ℤ × Which) (hf : f ∈ e.2) : ∃ (j : ℕ) (sub : SubscriptionJSON ρ), e.1 = j ∧
      db.subscriptionsGetAll[j]? = some sub ∧ (codec.bytes2SubscriptionRaw sub).isSome ∧
      f.2.type = .subscriptionServer ∧ f.2.sub = j ∧ f.2.id = f.1 + 1 ∧ 0 ≤ f.1 ∧
      f.1 < sub.servers.length := by
    obtain ⟨hwhich, htype, hfsub, hid⟩ := mem_subscriptionIndexes he hf
    obtain ⟨s, hs⟩ := hwhiches f.2 hwhich
    rcases h.cases_of_locate hs with
      ⟨_, _, htype', _⟩ | ⟨j, i, sub, raw, -, hj, hi, hb, hraw, hs⟩
    · cases htype.symm.trans htype'
    · have hlt := (List.getElem?_eq_some_iff.mp hs).1
      rw [← (codec.servers_of_bytes2SubscriptionRaw hraw).length_eq] at hlt
      exact ⟨j, sub, hfsub.symm.trans hj, hb, isSome_of_eq_some hraw, htype, hj, hid,
        by omega, by omega⟩
  -- the map has an entry, which gives the subscription; the others name the same
  obtain ⟨f, hf⟩ := List.exists_mem_of_ne_nil _ (ne_nil_of_mem_subscriptionIndexes he)
  obtain ⟨j, sub, hj, hb, hread, -⟩ := hrows f hf
  refine ⟨j, sub, hj, hb, hread, fun f hf => ?_⟩
  obtain ⟨j', sub', hj', hb', -, hf⟩ := hrows f hf
  obtain rfl : j = j' := by omega
  obtain rfl := some.inj (hb.symm.trans hb')
  exact hf

lemma UnreadableLast.saveLatencies (hstored : Stored db)
    (ids : RowIDs) (rt : Go.Runtime) {ws : List Which}
    (hws : ∀ w ∈ ws, ∃ s, (db.locator codec.toNodeJSON).locate w.toNodeRef = .ok s) :
    ∃ db', Db.saveLatencies codec.toNodeJSON ids rt ws db = (.returned none, db') ∧
      SavesOnly codec.toNodeJSON ws db db' := by
  obtain ⟨whiches, hwhiches⟩ : ∃ whiches, whiches = db.rows.getNonDuplicated rt ws := ⟨_, rfl⟩
  have hsub : whiches ⊆ ws := fun w hw =>
    db.rows.mem_of_mem_getNonDuplicated (hwhiches ▸ hw)
  have hlocated := fun w hw => hws w (hsub hw)
  obtain ⟨db₁, hrun₁, hstored₁, hsaved₁⟩ := saveServers_eq
    (fun e he => h.serverEntry hlocated ((rt.mapOrder_perm 1 _).mem_iff.mp he)) hstored (.refl db)
  obtain ⟨db₂, hrun₂, hsaved₂⟩ :
      ∃ db₂, Db.saveSubscriptions codec.toNodeJSON ids rt
          (rt.mapOrder 2 (Db.subscriptionIndexes whiches)) db₁ = (.returned none, db₂) ∧
        SavesOnly codec.toNodeJSON (savedWhiches rt whiches) db db₂ :=
    saveSubscriptions_eq rt
      (fun e he => h.subscriptionEntry hlocated ((rt.mapOrder_perm 2 _).mem_iff.mp he)) hstored₁
      hsaved₁
  -- a reference of the list has a representative among those that are written
  have hkept (w : Which) (hw : w ∈ ws) : ∃ w' ∈ whiches, w'.toNodeRef = w.toNodeRef := by
    obtain ⟨s, hs⟩ := hws w hw
    rw [hwhiches]
    exact (db.rows.exists_mem_getNonDuplicated_iff rt ws w.toNodeRef).mpr
      ⟨w, hw, h.inRange hs, rfl⟩
  refine ⟨db₂, ?_, hsaved₂.mono (fun w hw => hsub (savedWhiches_subset rt whiches hw))
    (fun i hne => ?_) fun j i hne => ?_⟩
  · rw [Db.saveLatencies, ← hwhiches]
    simp only [hrun₁, hrun₂]
  · obtain ⟨w, hw, hname⟩ := latencies_ne_nil_iff.mp hne
    obtain ⟨htype, hid⟩ := of_decide_eq_true hname
    obtain ⟨w', hw', href⟩ := hkept w hw
    have htype' : w'.type = .server := by rw [href, htype]
    obtain ⟨v, hv, hvtype, hvid⟩ := exists_server_savedWhiches rt hw' htype'
    refine latencies_ne_nil_iff.mpr ⟨v, hv, decide_eq_true ⟨hvtype, ?_⟩⟩
    rw [hvid, href, hid]
  · obtain ⟨w, hw, hname⟩ := latencies_ne_nil_iff.mp hne
    obtain ⟨htype, hwsub, hid⟩ := of_decide_eq_true hname
    obtain ⟨w', hw', href⟩ := hkept w hw
    have htype' : w'.type = .subscriptionServer := by rw [href, htype]
    obtain ⟨v, hv, hvtype, hvsub, hvid⟩ := exists_node_savedWhiches rt hw' htype'
    refine latencies_ne_nil_iff.mpr ⟨v, hv, decide_eq_true ⟨hvtype, ?_, ?_⟩⟩
    · rw [hvsub, href, hwsub]
    · rw [hvid, href, hid]

end

/-- **When positions are ordinals.** In a stored catalog, every reference is located at the rows with
its ordinals and a latency test changes only the latencies of the nodes it was about, if and only if
no row that can be read, and has a node, stands after one that cannot. -/
theorem ordinalsAgree_iff (hstored : Stored db) :
    OrdinalsAgree codec.toNodeJSON ids db ↔ UnreadableLast codec.toNodeJSON db := by
  obtain ⟨lists, hlists⟩ := hstored.lists
  constructor
  · intro h
    exact unreadableLast_of_locatedAt hlists h.locate
  · intro h
    exact ⟨fun w s hloc => h.locatedAt hlists hloc,
      fun rt ws hws => h.saveLatencies hstored ids rt hws⟩

end Agreement

/-! ### Stored catalogs -/

/-- The columns of the lists stay as they are written. -/
lemma stored_spec {ρ σ : Type} {lists : Lists ρ} (call : ListCall ρ σ)
    (h : ∀ e ∈ lists.subscriptions, e.1.stored = e.1) :
    ∀ e ∈ (call.spec lists).subscriptions, e.1.stored = e.1 := by
  intro e he
  cases call with
  | serversAppend | serversSet | serversRemove => exact h e he
  | subscriptionsAppend val =>
    rcases mem_append.mp he with he | he
    · exact h e he
    · obtain ⟨sub, -, rfl⟩ := mem_map.mp he
      exact sub.fields.stored_stored
  | subscriptionsSet index val beforeSet =>
    rcases mem_or_eq_of_mem_set he with he | rfl
    · exact h e he
    · exact val.fields.stored_stored
  | subscriptionsRemove | removeTx => exact h e ((removeIdxs_sublist _ _).subset he)

/-- What the program has written is a stored catalog. -/
lemma stored_of_run {ρ σ : Type} {ids : RowIDs} {other : σ} {calls : List (ListCall ρ σ)}
    {db : Db ρ σ} (hrun : ListCall.runAll ids calls { other } = some db) : Stored db := by
  have hlists := (refines_empty other).run calls hrun
  refine ⟨⟨_, hlists⟩, fun sub hsub => ?_⟩
  have hspec : ∀ e ∈ (calls.foldl (fun lists call => call.spec lists) ({} : Lists ρ)).subscriptions,
      e.1.stored = e.1 := by
    clear hrun hlists
    induction calls using reverseRecOn with
    | nil => simp
    | append_singleton calls call ih =>
      rw [foldl_append]
      exact stored_spec call ih
  refine hspec (sub.fields, sub.servers) ?_
  rw [← hlists.contents]
  exact mem_map_of_mem (f := fun sub => (sub.fields, sub.servers)) hsub

/-- Nodes that are written as they are, with `none` for what cannot be read. -/
def plainCodec (ν : Type) : Codec (Option (ServerRaw ν)) ν where
  protocol _ := "vmess"
  unmarshal _ b := b
  marshal := some
  bytes2ServerRaw_marshal _ _ _ _ := rfl
  bytes2Node_marshal _ _ _ _ := rfl

/-- Two servers and a subscription; the last server, and a second subscription, cannot be read. -/
def unreadableLastCalls : List (ListCall (Option (ServerRaw ℕ)) Unit) :=
  [.serversAppend (.array [some ⟨1, ""⟩, some ⟨2, ""⟩, none]),
    .subscriptionsAppend (.array [
      { fields := { address := "a" }, servers := [some ⟨3, ""⟩, some ⟨4, ""⟩] },
      { fields := { address := "b" }, servers := [some ⟨5, ""⟩, none] }])]

theorem ordinalsAgree_unreadableLast :
    ∃ db, ListCall.runAll sequentialIDs unreadableLastCalls { other := () } = some db ∧
      OrdinalsAgree (plainCodec ℕ).toNodeJSON sequentialIDs db := by
  refine ⟨_, rfl, (ordinalsAgree_iff ?_).mpr ⟨?_, ?_⟩⟩
  · exact stored_of_run
      (show ListCall.runAll sequentialIDs unreadableLastCalls { other := () } = some _ from rfl)
  · decide +kernel
  · decide +kernel

/-- A server that cannot be read stands before one that can. -/
def unreadableFirstCalls : List (ListCall (Option (ServerRaw ℕ)) Unit) :=
  [.serversAppend (.array [none, some ⟨1, ""⟩])]

/-- The first reference is located at the second row, and its latency overwrites the first. -/
theorem not_ordinalsAgree_unreadableFirst :
    ∃ db, ListCall.runAll sequentialIDs unreadableFirstCalls { other := () } = some db ∧
      (db.locator (plainCodec ℕ).toNodeJSON).locate ⟨.server, 1, 0, ""⟩ = .ok ⟨1, ""⟩ ∧
      db.serversGetAll = [none, some ⟨1, ""⟩] ∧
      (Db.saveLatencies (plainCodec ℕ).toNodeJSON sequentialIDs .inOrder
        [{ type := .server, id := 1, sub := 0, outbound := "", latency := "20ms" }]
        db).2.serversGetAll = [some ⟨1, "20ms"⟩, some ⟨1, ""⟩] ∧
      ¬OrdinalsAgree (plainCodec ℕ).toNodeJSON sequentialIDs db := by
  refine ⟨_, rfl, rfl, rfl, rfl, fun h => ?_⟩
  obtain ⟨r, hr, hread, -⟩ := h.locate ⟨.server, 1, 0, ""⟩ ⟨1, ""⟩ rfl
  cases hr
  cases hread

end V2rayA
