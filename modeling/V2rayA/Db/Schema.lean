import V2rayA.Db.Upgrade

/-!
# Schema migrations

`MigrateSchema` runs at every start. It adds columns that are missing, copies what the first
migration to SQLite wrote to two tables that nothing reads, and runs the passes of
`V2rayA.Db.Upgrade`. The columns and the passes leave traces by which a second run knows that they
are done. The two tables stay, and what is in them is copied again for every group that has no entry
of its own.

* `Sqlite.migrateSchema_of_migrated`: what another run does.
* `Sqlite.Migrated.run`: users do not remove the traces.
* `Sqlite.migrateSchema_again_iff`: what users did stays if and only if no group that they see lacks
  an entry that the two tables have.
-/

namespace V2rayA

open List Go.Map Prod Database Db

/-- The columns of the table `subscriptions` that were added later. -/
inductive Column
  | remarks
  | autoSelect
  | updateMode
  | updateIntervalMinutes
  | failureIntervalMinutes
  | allowDirectRecovery
  deriving DecidableEq, Repr

/-- A row with the default value of a column. -/
def Column.fill (column : Column) (fields : SubscriptionFields) : SubscriptionFields :=
  match column with
  | remarks => { fields with remarks := "" }
  | autoSelect => { fields with autoSelect := false }
  | updateMode => { fields with updateMode := .disabled }
  | updateIntervalMinutes => { fields with updateIntervalMinutes := 0 }
  | failureIntervalMinutes => { fields with failureIntervalMinutes := 1 }
  | allowDirectRecovery => { fields with allowDirectRecovery := false }

/-- A row of the table `outbound_connections`. -/
structure LegacyConnection where
  outboundName : String
  serverID : ℤ
  sort : ℤ

/-- A database of this or of an earlier release. -/
structure Sqlite where
  db : Database
  /-- Those of the later columns that the table `subscriptions` has. -/
  columns : List Column
  /-- The table `outbound_connections`, if there is one. -/
  outboundConnections : Option (List LegacyConnection) := none
  /-- The table `outbound_settings`, if there is one. -/
  outboundSettings : Option (List (String × Text)) := none

namespace Sqlite

/-! ### The migration -/

/-- `ALTER TABLE subscriptions ADD COLUMN`, unless there is such a column. -/
def addColumn (s : Sqlite) (column : Column) : Sqlite :=
  if column ∈ s.columns then s
  else
    { s with
      db := { s.db with subscriptions := s.db.subscriptions.updateAll column.fill }
      columns := column :: s.columns }

/-- The columns in the order in which they are checked. -/
def laterColumns : List Column :=
  [.remarks, .autoSelect, .updateMode, .updateIntervalMinutes, .failureIntervalMinutes,
    .allowDirectRecovery]

/-- Add the columns that are missing. -/
def addColumns (s : Sqlite) : Sqlite := laterColumns.foldl addColumn s

/-- `ORDER BY c.outbound_name, c.sort`. -/
def connectionLE (c c' : LegacyConnection) : Prop :=
  c.outboundName < c'.outboundName ∨ c.outboundName = c'.outboundName ∧ c.sort ≤ c'.sort

instance : DecidableRel connectionLE := fun _ _ => inferInstanceAs (Decidable (_ ∨ _))

/-- `COALESCE(sub.sort, -1)` for the subscription of a key. -/
def subscriptionSort (s : Sqlite) (id : ℤ) : ℤ :=
  ((s.db.subscriptions.rows.find? fun r => r.id = id).map Sql.Row.sort).getD (-1)

/-- The reference for a connection to a server. -/
def whichOf (s : Sqlite) (outbound : String) (r : Sql.Row (ServerColumns Json)) : Json :=
  match r.data with
  | .server _ =>
    .obj [("_type", .str "server"), ("id", .num (r.sort + 1)), ("sub", .num 0),
      ("outbound", .str outbound)]
  | .subscriptionServer subID _ =>
    .obj [("_type", .str "subscriptionServer"), ("id", .num (r.sort + 1)),
      ("sub", .num (s.subscriptionSort subID)), ("outbound", .str outbound)]

/-- The connections with the references that they stand for, in order. A connection to a server that
is not there is left out. -/
def legacyRows (s : Sqlite) : List (String × Json) :=
  ((s.outboundConnections.getD []).insertionSort connectionLE).filterMap fun c =>
    (s.db.servers.rows.find? fun r => r.id = c.serverID).map fun r =>
      (c.outboundName, s.whichOf c.outboundName r)

/-- The members of a group in the table `outbound_connections`. -/
def legacyMembers (s : Sqlite) (outbound : String) : List Json :=
  (s.legacyRows.filter fun e => e.1 = outbound).map Prod.snd

/-- `INSERT INTO system_config`, unless there is such a key. -/
def insertNew (db : Database) (e : String × Text) : Database :=
  if (db.config e.1).isSome then db else db.putConfig e.1 e.2

/-- The entries for the members of the groups, in the order in which the groups occur. -/
def memberEntries (s : Sqlite) : List (String × Text) :=
  (s.legacyRows.map Prod.fst).eraseDups.map fun name =>
    (makeKey (outboundBucket name) "connectedServers",
      .json (.obj [("touches", .arr (s.legacyMembers name))]))

/-- Whether a setting in the table `outbound_settings` says nothing. -/
def isEmptySetting (setting : Text) : Bool :=
  setting = .malformed "" || setting = .json (.obj [])

/-- The entries for the settings of the groups. -/
def settingEntries (s : Sqlite) : List (String × Text) :=
  ((s.outboundSettings.getD []).filter fun e => !isEmptySetting e.2).map fun e =>
    (makeKey (outboundBucket e.1) "setting", e.2)

/-- `migrateLegacyOutboundTables`. -/
def migrateLegacyOutboundTables (s : Sqlite) : Sqlite :=
  { s with db := s.settingEntries.foldl insertNew (s.memberEntries.foldl insertNew s.db) }

/-- `MigrateSchema`. The passes are in one transaction. -/
def migrateSchema (lax : Lenient) : Go.Op Sqlite := fun s =>
  let s := s.addColumns.migrateLegacyOutboundTables
  match s.db.migrateSubscriptionUpdatePolicy lax with
  | .error err => (some err, s)
  | .ok db =>
    match db.migrateAutoSelectToAutomaticGroup lax with
    | .error err => (some err, s)
    | .ok db => (none, { s with db })

/-! ### Users -/

/-- What is stored for the groups. -/
def systemConfig (db : Database) : SystemConfig Text := ⟨db.config, db.other.outboundNames⟩

/-- `BucketClear`. -/
def bucketClear (db : Database) (bucket : String) : Database :=
  { db with
    other := { db.other with
      systemConfig := db.other.systemConfig.filter fun e =>
        !Sql.like (bucketLikePattern bucket) e.1.toList } }

/-- A kind of group as it is stored. -/
def observatoryText : ObservatoryType → String
  | .leastPing => "leastping"
  | .keepCurrent => "keepcurrent"
  | .roundRobin => "roundrobin"
  | .random => "random"
  | .other raw => raw

/-- A field that is left out if it is empty. -/
def omitEmpty (key value : String) : List (String × Json) :=
  if value = "" then [] else [(key, .str value)]

/-- The setting of a group as a document. -/
def marshalSetting (setting : OutboundSetting) : Json :=
  .obj ([("autoAdd", .bool setting.autoAdd), ("probeURL", .str setting.probeURL),
      ("probeInterval", .str setting.probeInterval),
      ("type", .str (observatoryText setting.type))] ++
    omitEmpty "selected" setting.selected ++ omitEmpty "stickyCurrent" setting.stickyCurrent)

/-- `SetOutboundSetting`. -/
def setOutboundSetting (outbound : String) (setting : OutboundSetting) : Go.Op Database := fun db =>
  match Go.parseDuration setting.probeInterval with
  | .error err => (some err, db)
  | .ok _ =>
    (none, db.putConfig (makeKey (outboundBucket outbound) "setting")
      (.json (marshalSetting setting)))

/-- `AddOutbound`. -/
def addOutbound (outbound : String) : Go.Op Database := fun db =>
  if outbound ∈ SystemConfig.reservedOutboundNames then
    (some { text := Go.quote outbound ++
      " is a reserved outbound name (proxy, direct, block); choose another" }, db)
  else setOutboundSetting outbound defaultOutboundSetting (db.addName outbound)

/-- `RemoveOutbound`. -/
def removeOutbound (outbound : String) : Go.Op Database := fun db =>
  let db := bucketClear db (outboundBucket outbound)
  (none, { db with
    other := { db.other with
      outboundNames := db.other.outboundNames.filter (· ≠ outbound) } })

/-- Store lists of members. -/
def writeMembers (groups : List (String × Json)) : Go.Op ConfigTables := fun tables =>
  (none, { tables with
    systemConfig := groups.foldl
      (fun m e => m.put (makeKey (outboundBucket e.1) "connectedServers") (.json e.2))
      tables.systemConfig })

/-- What a user can do: edit groups, their members and settings, the settings of the program, and the
lists of servers and subscriptions, in a transaction with the members of the groups where references
change. -/
inductive UserCall
  | addOutbound (outbound : String)
  | removeOutbound (outbound : String)
  | setOutboundSetting (outbound : String) (setting : OutboundSetting)
  | setConnectedServers (outbound : String) (refs : Json)
  | setSystem (key : String) (value : Json)
  | serversAppend (val : Encoded Json)
  | serversSet (index : ℤ) (config : Json)
  | subscriptionsAppend (val : Encoded (SubscriptionJSON Json))
  | subscriptionsSet (index : ℤ) (val : SubscriptionJSON Json) (groups : List (String × Json))
  | removeNodes (subscriptions servers : List ℤ) (groups : List (String × Json))

variable (ids : Sql.RowIDs)

/-- What an operation does, and the error that it returns. -/
def UserCall.run : UserCall → Go.Op Database
  | addOutbound outbound => Sqlite.addOutbound outbound
  | removeOutbound outbound => Sqlite.removeOutbound outbound
  | setOutboundSetting outbound setting => Sqlite.setOutboundSetting outbound setting
  | setConnectedServers outbound refs => fun db =>
    (none, db.putConfig (makeKey (outboundBucket outbound) "connectedServers") (.json refs))
  | setSystem key value => fun db => (none, db.putConfig (makeKey "system" key) (.json value))
  | serversAppend val => Db.serversAppend ids val
  | serversSet index config => Db.serversSet index config
  | subscriptionsAppend val => Db.subscriptionsAppend ids val
  | subscriptionsSet index val groups => Db.subscriptionsSet ids index val (writeMembers groups)
  | removeNodes subscriptions servers groups =>
    Db.removeTx subscriptions servers (writeMembers groups)

/-- The database after a sequence of operations; some of them may have failed. -/
def after (s : Sqlite) (calls : List UserCall) : Sqlite :=
  { s with db := calls.foldl (fun db call => (call.run ids db).2) s.db }

/-! ### The two tables -/

section Legacy

variable {db : Database} {s s' : Sqlite} {l : List (String × Text)} {key : String}

/-- Entries that are there stay, and of several new ones the first counts. -/
lemma config_foldl_insertNew :
    (l.foldl insertNew db).config key = (db.config key).or (get? l key) := by
  induction l generalizing db with
  | nil => simp [get?]
  | cons e l ih =>
    rw [foldl_cons, ih, get?_cons, insertNew]
    by_cases he : e.1 = key
    · subst he
      cases hget : db.config e.1 with
      | none => simp [config_putConfig]
      | some value => simp [hget]
    · have he' : ¬key = e.1 := fun h => he h.symm
      split_ifs <;> simp [config_putConfig, he']

lemma insertNew_eq_self {e : String × Text} (h : (db.config e.1).isSome) : insertNew db e = db :=
  if_pos h

lemma foldl_insertNew_eq_self (h : ∀ e ∈ l, (db.config e.1).isSome) :
    l.foldl insertNew db = db := by
  induction l with
  | nil => rfl
  | cons e l ih =>
    rw [foldl_cons, insertNew_eq_self (h e mem_cons_self)]
    exact ih fun e' he' => h e' (mem_cons_of_mem _ he')

/-- Entries are added to one table. -/
lemma foldl_insertNew_eq (db : Database) (l : List (String × Text)) : ∃ config,
    l.foldl insertNew db = { db with other := { db.other with systemConfig := config } } := by
  induction l generalizing db with
  | nil => exact ⟨_, rfl⟩
  | cons e l ih =>
    obtain ⟨config, hconfig⟩ := ih (insertNew db e)
    refine ⟨config, hconfig.trans ?_⟩
    unfold insertNew
    split_ifs <;> rfl

/-- The entries that the two tables stand for. -/
def legacyEntries (s : Sqlite) : List (String × Text) := s.memberEntries ++ s.settingEntries

lemma migrateLegacyOutboundTables_eq :
    s.migrateLegacyOutboundTables = { s with db := s.legacyEntries.foldl insertNew s.db } := by
  rw [migrateLegacyOutboundTables, legacyEntries, foldl_append]

/-- References are made from the keys and ordinals of servers and subscriptions. -/
lemma legacyEntries_congr (hservers : s'.db.servers = s.db.servers)
    (hordinals : s'.db.subscriptions.rows.map (fun r => (r.id, r.sort)) =
      s.db.subscriptions.rows.map fun r => (r.id, r.sort))
    (hconnections : s'.outboundConnections = s.outboundConnections)
    (hsettings : s'.outboundSettings = s.outboundSettings) :
    s'.legacyEntries = s.legacyEntries := by
  have hsort (id : ℤ) : s'.subscriptionSort id = s.subscriptionSort id := by
    have hfind := congrArg (fun l => ((l.find? fun r => r.1 = id).map snd)) hordinals
    simp only [find?_map, Option.map_map] at hfind
    exact congrArg (Option.getD · (-1)) hfind
  have hwhich (outbound : String) (r : Sql.Row (ServerColumns Json)) :
      s'.whichOf outbound r = s.whichOf outbound r := by
    unfold whichOf
    split
    · rfl
    · rw [hsort]
  have hrows : s'.legacyRows = s.legacyRows := by
    unfold legacyRows
    simp only [hconnections, hservers, hwhich]
  simp only [legacyEntries, memberEntries, settingEntries, legacyMembers, hrows, hsettings]

lemma migrateLegacyOutboundTables_eq_self (h : ∀ e ∈ s.legacyEntries, (s.db.config e.1).isSome) :
    s.migrateLegacyOutboundTables = s := by
  rw [migrateLegacyOutboundTables_eq, foldl_insertNew_eq_self h]

lemma isSome_of_migrateLegacyOutboundTables {e : String × Text} (he : e ∈ s.legacyEntries) :
    (s.migrateLegacyOutboundTables.db.config e.1).isSome := by
  have hget : (get? s.legacyEntries e.1).isSome := by
    rw [get?, Option.isSome_map, find?_isSome]
    exact ⟨e, he, by simp⟩
  rw [migrateLegacyOutboundTables_eq, config_foldl_insertNew, Option.isSome_or, hget, Bool.or_true]

end Legacy

/-! ### A run after another -/

section Again

variable {lax : Lenient} {s s₁ : Sqlite}

/-- The traces that a run leaves. -/
structure Migrated (s : Sqlite) : Prop where
  columns : ∀ column ∈ laterColumns, column ∈ s.columns
  policy : (s.db.config Database.subscriptionUpdateMigrationKey).isSome
  automatic : (s.db.config Database.autoSelectGroupMigrationKey).isSome

lemma addColumns_eq_self (h : ∀ column ∈ laterColumns, column ∈ s.columns) : s.addColumns = s := by
  unfold addColumns
  generalize laterColumns = l at h ⊢
  induction l with
  | nil => rfl
  | cons column l ih =>
    rw [foldl_cons, addColumn, if_pos (h column mem_cons_self)]
    exact ih fun column' hcolumn' => h column' (mem_cons_of_mem _ hcolumn')

lemma mem_columns_addColumns : ∀ column ∈ laterColumns, column ∈ s.addColumns.columns := by
  have hadd (s : Sqlite) (column c : Column) :
      c ∈ (s.addColumn column).columns ↔ c = column ∨ c ∈ s.columns := by
    unfold addColumn
    split_ifs with hmem
    · exact ⟨.inr, fun h => h.elim (· ▸ hmem) id⟩
    · exact mem_cons
  have hfold (l : List Column) (s : Sqlite) (c : Column) :
      c ∈ (l.foldl addColumn s).columns ↔ c ∈ s.columns ∨ c ∈ l := by
    induction l generalizing s with
    | nil => simp
    | cons column l ih =>
      rw [foldl_cons, ih, hadd, mem_cons]
      tauto
  exact fun column hcolumn => (hfold _ _ _).mpr (.inr hcolumn)

/-- With the traces in place only the two tables are copied. -/
lemma migrateSchema_of_migrated (h : s.Migrated) :
    migrateSchema lax s = (none, s.migrateLegacyOutboundTables) := by
  have hconfig (key : String) (hkey : (s.db.config key).isSome) :
      (s.migrateLegacyOutboundTables.db.config key).isSome := by
    rw [migrateLegacyOutboundTables_eq, config_foldl_insertNew, Option.isSome_or, hkey, Bool.true_or]
  unfold migrateSchema
  rw [addColumns_eq_self h.columns]
  dsimp only
  rw [migrateSubscriptionUpdatePolicy_of_mark (hconfig _ h.policy)]
  dsimp only
  rw [migrateAutoSelectToAutomaticGroup_of_mark (hconfig _ h.automatic)]

/-- The two passes of a run that succeeds. -/
lemma exists_of_migrateSchema (h : migrateSchema lax s = (none, s₁)) : ∃ db db',
    s.addColumns.migrateLegacyOutboundTables.db.migrateSubscriptionUpdatePolicy lax = .ok db ∧
      db.migrateAutoSelectToAutomaticGroup lax = .ok db' ∧
      s₁ = { s.addColumns.migrateLegacyOutboundTables with db := db' } := by
  unfold migrateSchema at h
  generalize s.addColumns.migrateLegacyOutboundTables = t at h ⊢
  dsimp only at h
  cases hpolicy : t.db.migrateSubscriptionUpdatePolicy lax with
  | error err =>
    rw [hpolicy] at h
    cases h
  | ok db =>
    rw [hpolicy] at h
    dsimp only at h
    cases hauto : db.migrateAutoSelectToAutomaticGroup lax with
    | error err =>
      rw [hauto] at h
      cases h
    | ok db' =>
      rw [hauto] at h
      exact ⟨db, db', rfl, hauto, (Prod.mk.inj h).2.symm⟩

/-- Copying the two tables leaves them as they are. -/
lemma legacyEntries_migrateLegacyOutboundTables :
    s.migrateLegacyOutboundTables.legacyEntries = s.legacyEntries := by
  obtain ⟨config, hcopy⟩ := foldl_insertNew_eq s.db s.legacyEntries
  rw [migrateLegacyOutboundTables_eq, hcopy]
  exact legacyEntries_congr rfl rfl rfl rfl

lemma migrated_of_passes {db db' : Database}
    (hcolumns : ∀ column ∈ laterColumns, column ∈ s.columns)
    (hentries : ∀ e ∈ s.legacyEntries, (s.db.config e.1).isSome)
    (hpolicy : s.db.migrateSubscriptionUpdatePolicy lax = .ok db)
    (hauto : db.migrateAutoSelectToAutomaticGroup lax = .ok db') (hs₁ : s₁ = { s with db := db' }) :
    s₁.Migrated ∧ ∀ e ∈ s₁.legacyEntries, (s₁.db.config e.1).isSome := by
  subst hs₁
  obtain ⟨hpassed, hmark⟩ := passed_migrateSubscriptionUpdatePolicy hpolicy
  obtain ⟨hpassed', hmark'⟩ := passed_migrateAutoSelectToAutomaticGroup hauto
  have hboth := hpassed.trans hpassed'
  refine ⟨⟨hcolumns, hpassed'.config _ hmark, hmark'⟩, fun e he => ?_⟩
  -- the passes leave the references as they are
  have heq : Sqlite.legacyEntries { s with db := db' } = s.legacyEntries :=
    legacyEntries_congr hboth.servers hboth.ordinals rfl rfl
  rw [heq] at he
  exact hboth.config _ (hentries e he)

/-- What a run that succeeds leaves. -/
lemma migrated_of_migrateSchema (h : migrateSchema lax s = (none, s₁)) :
    s₁.Migrated ∧ ∀ e ∈ s₁.legacyEntries, (s₁.db.config e.1).isSome := by
  obtain ⟨db, db', hpolicy, hauto, hs₁⟩ := exists_of_migrateSchema h
  have hcolumns := @mem_columns_addColumns s
  generalize s.addColumns = t at hpolicy hs₁ hcolumns
  refine migrated_of_passes (s := t.migrateLegacyOutboundTables) hcolumns ?_ hpolicy hauto hs₁
  intro e he
  rw [legacyEntries_migrateLegacyOutboundTables] at he
  exact isSome_of_migrateLegacyOutboundTables he

end Again

/-! ### Operations of users -/

section Users

variable {ids : Sql.RowIDs} {db : Database} {key k outbound : String}

lemma config_bucketClear {bucket : String} : (bucketClear db bucket).config key =
    if Sql.like (bucketLikePattern bucket) key.toList then none else db.config key := by
  refine (get?_filter (p := fun key : String =>
    !Sql.like (bucketLikePattern bucket) key.toList)).trans ?_
  cases Sql.like (bucketLikePattern bucket) key.toList <;> rfl

lemma other_serversAppend (val : Encoded Json) :
    (serversAppend ids val db).2.other = db.other := by
  cases val with
  | single item => rfl
  | array items =>
    induction items generalizing db with
    | nil => rfl
    | cons item items ih => exact ih

lemma other_subscriptionsAppend (val : Encoded (SubscriptionJSON Json)) :
    (subscriptionsAppend ids val db).2.other = db.other := by
  cases val with
  | single item => rfl
  | array items =>
    induction items generalizing db with
    | nil => rfl
    | cons item items ih => exact ih

lemma other_serversSet {index : ℤ} {config : Json} :
    (serversSet index config db).2.other = db.other := by
  unfold serversSet
  split_ifs <;> rfl

lemma other_setSubscription {index : ℤ} {val : SubscriptionJSON Json} :
    (setSubscription ids index val db).2.other = db.other := by
  unfold setSubscription
  split <;> rfl

lemma other_serversRemove {indexes : List ℤ} :
    (serversRemove indexes db).2.other = db.other := by
  unfold serversRemove
  split_ifs <;> rfl

lemma other_subscriptionsRemove {indexes : List ℤ} :
    (subscriptionsRemove indexes db).2.other = db.other := by
  have hdelete (db : Database) (index : ℤ) : (db.deleteSubscription index).other = db.other := by
    unfold deleteSubscription
    split <;> rfl
  have hfold (db : Database) : (indexes.foldl deleteSubscription db).other = db.other := by
    induction indexes generalizing db with
    | nil => rfl
    | cons index indexes ih => exact (ih _).trans (hdelete db index)
  unfold subscriptionsRemove
  split_ifs
  · rfl
  · exact hfold db

lemma other_removeBoth {subscriptions servers : List ℤ} :
    (removeBoth subscriptions servers db).2.other = db.other := by
  have hservers (db : Database) : (if servers ≠ [] then serversRemove servers db
      else (none, db)).2.other = db.other := by
    split_ifs
    · exact other_serversRemove
    · rfl
  have hsubs : (if subscriptions ≠ [] then subscriptionsRemove subscriptions db
      else (none, db)).2.other = db.other := by
    split_ifs
    · exact other_subscriptionsRemove
    · rfl
  unfold removeBoth
  revert hsubs
  generalize (if subscriptions ≠ [] then subscriptionsRemove subscriptions db
    else (none, db)) = result
  rcases result with ⟨_ | err, db'⟩
  · intro hsubs
    exact (hservers db').trans hsubs
  · exact id

/-- A transaction writes the lists of members, or nothing. -/
lemma other_readModifyWrite {groups : List (String × Json)} {fn : Go.Op Database}
    (hfn : ∀ db, (fn db).2.other = db.other) :
    (readModifyWrite (afterCallback (writeMembers groups) fn) db).2.other = db.other ∨
      (readModifyWrite (afterCallback (writeMembers groups) fn) db).2.other =
        (writeMembers groups db.other).2 := by
  have hother := hfn { db with other := (writeMembers groups db.other).2 }
  unfold readModifyWrite
  rw [show afterCallback (writeMembers groups) fn db =
    fn { db with other := (writeMembers groups db.other).2 } from rfl]
  revert hother
  generalize fn { db with other := (writeMembers groups db.other).2 } = result
  rcases result with ⟨_ | err, db'⟩
  · exact .inr
  · exact fun _ => .inl rfl

/-- The keys of groups and of the settings of the program. -/
def IsUserKey (key : String) : Prop :=
  (∃ n k, key = makeKey (outboundBucket n) k) ∨ ∃ k, key = makeKey "system" k

/-- Users leave what is stored under a key, or write another value. -/
def Writes (key : String) (before after : Option Text) : Prop :=
  after = before ∨ after.isSome ∧ IsUserKey key

lemma writes_put {m : Go.Map String Text} {value : Text} (hk : IsUserKey k) :
    Writes key (m.get? key) ((m.put k value).get? key) := by
  rw [get?_put]
  split_ifs with heq
  · exact .inr ⟨rfl, heq ▸ hk⟩
  · exact .inl rfl

lemma writes_writeMembers (groups : List (String × Json)) (tables : ConfigTables) :
    Writes key (tables.systemConfig.get? key)
      ((writeMembers groups tables).2.systemConfig.get? key) := by
  unfold writeMembers
  generalize tables.systemConfig = m
  induction groups generalizing m with
  | nil => exact .inl rfl
  | cons e groups ih =>
    rcases ih (m.put (makeKey (outboundBucket e.1) "connectedServers") (.json e.2)) with h | h
    · simpa [h] using writes_put (.inl ⟨_, _, rfl⟩)
    · exact .inr h

/-- What an operation of a user does to a key: it may write a value, and may remove it when it
clears the bucket of a group. -/
lemma writes_run (ids : Sql.RowIDs) (db : Database) (call : UserCall) (key : String) :
    Writes key (db.config key) ((call.run ids db).2.config key) ∨
      ∃ outbound, call = .removeOutbound outbound ∧
        Sql.like (bucketLikePattern (outboundBucket outbound)) key.toList := by
  have hother {db' : Database} (h : db'.other = db.other) :
      Writes key (db.config key) (db'.config key) :=
    .inl (by rw [config, h, config])
  have hsetting (outbound : String) (setting : OutboundSetting) (db : Database) :
      Writes key (db.config key) ((setOutboundSetting outbound setting db).2.config key) := by
    unfold setOutboundSetting
    split
    · exact .inl rfl
    · exact writes_put (.inl ⟨_, _, rfl⟩)
  have hmembers {groups : List (String × Json)} {fn : Go.Op Database}
      (hfn : ∀ db, (fn db).2.other = db.other) : Writes key (db.config key)
        (config (readModifyWrite (afterCallback (writeMembers groups) fn) db).2
          key) := by
    rcases other_readModifyWrite hfn with h | h
    · exact hother h
    · rw [config, config, h]
      exact writes_writeMembers groups db.other
  cases call with
  | addOutbound outbound =>
    left
    change Writes key _ ((addOutbound outbound db).2.config key)
    unfold addOutbound
    split_ifs
    · exact .inl rfl
    · exact hsetting _ _ (db.addName outbound)
  | removeOutbound outbound =>
    change Writes key _ ((bucketClear db (outboundBucket outbound)).config key) ∨ _
    rw [config_bucketClear]
    split_ifs with hlike
    · exact .inr ⟨outbound, rfl, hlike⟩
    · exact .inl (.inl rfl)
  | setOutboundSetting outbound setting => exact .inl (hsetting _ _ db)
  | setConnectedServers outbound refs => exact .inl (writes_put (.inl ⟨_, _, rfl⟩))
  | setSystem k value => exact .inl (writes_put (.inr ⟨_, rfl⟩))
  | serversAppend val => exact .inl (hother (other_serversAppend val))
  | serversSet index config => exact .inl (hother other_serversSet)
  | subscriptionsAppend val => exact .inl (hother (other_subscriptionsAppend val))
  | subscriptionsSet index val groups => exact .inl (hmembers fun _ => other_setSubscription)
  | removeNodes subscriptions servers groups => exact .inl (hmembers fun _ => other_removeBoth)

/-- Users do not remove the traces of a migration. -/
lemma config_run_migration (call : UserCall) :
    (call.run ids db).2.config (makeKey "migration" k) = db.config (makeKey "migration" k) := by
  rcases writes_run ids db call (makeKey "migration" k) with
    (h | ⟨-, ⟨n, key, h⟩ | ⟨n, h⟩⟩) | ⟨outbound, -, hlike⟩
  · exact h
  · exact absurd h makeKey_migration_ne_outbound
  · exact absurd h makeKey_migration_ne_system
  · -- no key of a group begins like that of a trace
    obtain ⟨t, ht⟩ := like_bucketLikePattern_iff.mp hlike
    have hhead := congrArg head? ht
    simp [makeKey, outboundBucket] at hhead

lemma config_after_migration (s : Sqlite) (calls : List UserCall) :
    (s.after ids calls).db.config (makeKey "migration" k) =
      s.db.config (makeKey "migration" k) := by
  unfold after
  generalize s.db = db
  induction calls generalizing db with
  | nil => rfl
  | cons call calls ih => exact (ih _).trans (config_run_migration call)

lemma Migrated.run {s : Sqlite} (h : s.Migrated) (calls : List UserCall) :
    (s.after ids calls).Migrated where
  columns := h.columns
  policy := by
    rw [subscriptionUpdateMigrationKey_eq, config_after_migration]
    exact subscriptionUpdateMigrationKey_eq ▸ h.policy
  automatic := by
    rw [autoSelectGroupMigrationKey_eq, config_after_migration]
    exact autoSelectGroupMigrationKey_eq ▸ h.automatic

end Users

/-! ### What users see -/

section Untouched

variable {ids : Sql.RowIDs} {lax : Lenient} {s s₁ : Sqlite} {g key : String}

/-- What users have done is as they left it. -/
structure Untouched (s s' : Sqlite) : Prop where
  outbounds : (systemConfig s'.db).getOutbounds = (systemConfig s.db).getOutbounds
  groups : ∀ g ∈ (systemConfig s.db).getOutbounds, ∀ key, IsGroupKey key →
    s'.db.config (makeKey (outboundBucket g) key) = s.db.config (makeKey (outboundBucket g) key)
  subscriptions : s'.db.subscriptionsGetAll = s.db.subscriptionsGetAll
  system : ∀ k, s'.db.config (makeKey "system" k) = s.db.config (makeKey "system" k)

/-- A group for which one of the two tables has something has an entry of its own. -/
structure Kept (s : Sqlite) : Prop where
  members : ∀ g ∈ (systemConfig s.db).getOutbounds, s.legacyMembers g ≠ [] →
    (s.db.config (makeKey (outboundBucket g) "connectedServers")).isSome
  settings : ∀ g ∈ (systemConfig s.db).getOutbounds,
    (∃ setting, (g, setting) ∈ s.outboundSettings.getD [] ∧ isEmptySetting setting = false) →
    (s.db.config (makeKey (outboundBucket g) "setting")).isSome

lemma legacyMembers_ne_nil_iff : s.legacyMembers g ≠ [] ↔ g ∈ s.legacyRows.map fst := by
  rw [legacyMembers, ne_eq, map_eq_nil_iff, mem_map]
  simp

lemma exists_memberEntry_iff :
    (∃ value, (makeKey (outboundBucket g) "connectedServers", value) ∈ s.legacyEntries) ↔
      s.legacyMembers g ≠ [] := by
  rw [legacyMembers_ne_nil_iff]
  constructor
  · rintro ⟨value, hmem⟩
    rcases mem_append.mp hmem with hmem | hmem
    · obtain ⟨name, hname, heq⟩ := mem_map.mp hmem
      have hkey := (makeKey_group_inj (.inr rfl) (.inr rfl)).mp (congrArg fst heq)
      exact hkey.1 ▸ mem_eraseDups.mp hname
    · obtain ⟨e, -, heq⟩ := mem_map.mp hmem
      exact absurd (congrArg fst heq).symm makeKey_connectedServers_ne
  · intro hmem
    exact ⟨_, mem_append_left _ (mem_map_of_mem (mem_eraseDups.mpr hmem))⟩

lemma exists_settingEntry_iff :
    (∃ value, (makeKey (outboundBucket g) "setting", value) ∈ s.legacyEntries) ↔
      ∃ setting, (g, setting) ∈ s.outboundSettings.getD [] ∧ isEmptySetting setting = false := by
  constructor
  · rintro ⟨value, hmem⟩
    rcases mem_append.mp hmem with hmem | hmem
    · obtain ⟨name, -, heq⟩ := mem_map.mp hmem
      exact absurd (congrArg fst heq) makeKey_connectedServers_ne
    · obtain ⟨e, he, heq⟩ := mem_map.mp hmem
      have hkey := (makeKey_group_inj (.inl rfl) (.inl rfl)).mp (congrArg fst heq)
      obtain ⟨he, hsetting⟩ := mem_filter.mp he
      exact ⟨e.2, hkey.1 ▸ he, by simpa using hsetting⟩
  · rintro ⟨setting, hmem, hsetting⟩
    exact ⟨setting, mem_append_right _ (mem_map.mpr
      ⟨(g, setting), mem_filter.mpr ⟨hmem, by simp [hsetting]⟩, rfl⟩)⟩

/-- The entry of a group is as it was unless it is missing and the two tables have one. -/
lemma config_migrateLegacyOutboundTables_eq_iff (s : Sqlite) (key : String) :
    s.migrateLegacyOutboundTables.db.config key = s.db.config key ↔
      ((∃ value, (key, value) ∈ s.legacyEntries) → (s.db.config key).isSome) := by
  rw [migrateLegacyOutboundTables_eq, config_foldl_insertNew]
  cases hconfig : s.db.config key with
  | some value => simp
  | none =>
    constructor
    · rintro hget ⟨value, hmem⟩
      have hne := find?_eq_none.mp (Option.map_eq_none_iff.mp hget) _ hmem
      simp at hne
    · intro hmem
      refine Option.eq_none_iff_forall_ne_some.mpr fun value hget => ?_
      exact absurd (hmem ⟨value, mem_of_get? hget⟩) (by simp)

lemma untouched_iff_kept : Untouched s s.migrateLegacyOutboundTables ↔ s.Kept := by
  have hmembers (g : String) := config_migrateLegacyOutboundTables_eq_iff s
    (makeKey (outboundBucket g) "connectedServers")
  have hsettings (g : String) := config_migrateLegacyOutboundTables_eq_iff s
    (makeKey (outboundBucket g) "setting")
  simp only [exists_memberEntry_iff] at hmembers
  simp only [exists_settingEntry_iff] at hsettings
  constructor
  · intro h
    exact ⟨fun g hg => (hmembers g).mp (h.groups g hg _ (.inr rfl)),
      fun g hg => (hsettings g).mp (h.groups g hg _ (.inl rfl))⟩
  · intro h
    obtain ⟨config, hcopy⟩ := foldl_insertNew_eq s.db s.legacyEntries
    refine ⟨?_, ?_, ?_, fun k => ?_⟩
    · rw [migrateLegacyOutboundTables_eq, hcopy]
      rfl
    · rintro g hg key (rfl | rfl)
      · exact (hsettings g).mpr (h.settings g hg)
      · exact (hmembers g).mpr (h.members g hg)
    · rw [migrateLegacyOutboundTables_eq, hcopy]
      rfl
    · -- the two tables have entries of groups only
      refine (config_migrateLegacyOutboundTables_eq_iff s _).mpr ?_
      rintro ⟨value, hmem⟩
      rcases mem_append.mp hmem with hmem | hmem
      · obtain ⟨name, -, heq⟩ := mem_map.mp hmem
        exact absurd (congrArg fst heq).symm makeKey_system_ne_outbound
      · obtain ⟨e, -, heq⟩ := mem_map.mp hmem
        exact absurd (congrArg fst heq).symm makeKey_system_ne_outbound

/-- A second run right after the first changes nothing. A run after operations of users leaves what
they did as it is if and only if every group that they see still has the entries that the two tables
have for it. -/
theorem migrateSchema_again_iff (ids : Sql.RowIDs) (h : migrateSchema lax s = (none, s₁))
    (calls : List UserCall) :
    migrateSchema lax s₁ = (none, s₁) ∧
      ((∃ s₃, migrateSchema lax (s₁.after ids calls) = (none, s₃) ∧
          Untouched (s₁.after ids calls) s₃) ↔ (s₁.after ids calls).Kept) := by
  obtain ⟨hmigrated, hentries⟩ := migrated_of_migrateSchema h
  constructor
  · rw [migrateSchema_of_migrated hmigrated, migrateLegacyOutboundTables_eq_self hentries]
  · rw [migrateSchema_of_migrated (hmigrated.run calls), ← untouched_iff_kept]
    constructor
    · rintro ⟨s₃, heq, huntouched⟩
      cases heq
      exact huntouched
    · intro huntouched
      exact ⟨_, rfl, huntouched⟩

/-! #### Removed groups -/

/-- The groups that the two tables name. -/
def legacyGroups (s : Sqlite) : List String :=
  (s.outboundConnections.getD []).map LegacyConnection.outboundName ++
    (s.outboundSettings.getD []).map Prod.fst

/-- An operation keeps the entries of a group unless it removes the group, or one whose name begins
the keys of the group. -/
lemma isSome_config_run (call : UserCall) {db : Database} (hkey : IsGroupKey key)
    (hcall : ∀ outbound, call = .removeOutbound outbound → Store.clearsBucket outbound g = false)
    (h : (db.config (makeKey (outboundBucket g) key)).isSome) :
    ((call.run ids db).2.config (makeKey (outboundBucket g) key)).isSome := by
  rcases writes_run ids db call (makeKey (outboundBucket g) key) with
    (heq | ⟨hsome, -⟩) | ⟨outbound, hremove, hlike⟩
  · rw [heq]
    exact h
  · exact hsome
  · have hcolon : ':' ∉ key.toList := by rcases hkey with rfl | rfl <;> decide
    rw [like_outbound_eq hcolon, hcall outbound hremove] at hlike
    cases hlike

lemma isSome_config_after {calls : List UserCall} (hkey : IsGroupKey key)
    (hcalls : ∀ outbound, .removeOutbound outbound ∈ calls → Store.clearsBucket outbound g = false)
    (h : (s.db.config (makeKey (outboundBucket g) key)).isSome) :
    ((s.after ids calls).db.config (makeKey (outboundBucket g) key)).isSome := by
  unfold after
  generalize s.db = db at h
  induction calls generalizing db with
  | nil => exact h
  | cons call calls ih =>
    refine ih (fun o ho => hcalls o (mem_cons_of_mem _ ho)) _ ?_
    exact isSome_config_run call hkey (fun o ho => hcalls o (ho ▸ mem_cons_self)) h

/-- If the servers that the two tables name exist at the first run, what users did stays as long as
they do not remove a group that the tables name. -/
lemma kept_of_run (h : migrateSchema lax s = (none, s₁)) {calls : List UserCall}
    (hservers : ∀ c ∈ s₁.outboundConnections.getD [], ∃ r ∈ s₁.db.servers.rows, r.id = c.serverID)
    (hcalls : ∀ outbound, .removeOutbound outbound ∈ calls → ∀ g ∈ s₁.legacyGroups,
      Store.clearsBucket outbound g = false) : (s₁.after ids calls).Kept := by
  have hentries := (migrated_of_migrateSchema h).2
  refine ⟨fun g _ hmembers => ?_, fun g _ hsetting => ?_⟩
  · -- a member comes from a row that names the group, and there was a member at the first run
    obtain ⟨e, he, rfl⟩ := mem_map.mp (legacyMembers_ne_nil_iff.mp hmembers)
    obtain ⟨c, hc, hrow⟩ := mem_filterMap.mp he
    obtain ⟨r, -, rfl⟩ := Option.map_eq_some_iff.mp hrow
    have hc : c ∈ s₁.outboundConnections.getD [] := (mem_insertionSort _).mp hc
    obtain ⟨r', hr', hid⟩ := hservers c hc
    have hfind : (s₁.db.servers.rows.find? fun r => r.id = c.serverID).isSome :=
      find?_isSome.mpr ⟨r', hr', by simpa using hid⟩
    obtain ⟨r'', hr''⟩ := Option.isSome_iff_exists.mp hfind
    have hfirst : s₁.legacyMembers c.outboundName ≠ [] := by
      have hrow' : (c.outboundName, s₁.whichOf c.outboundName r'') ∈ s₁.legacyRows :=
        mem_filterMap.mpr ⟨c, (mem_insertionSort _).mpr hc, by rw [hr'']; rfl⟩
      exact legacyMembers_ne_nil_iff.mpr (mem_map_of_mem (f := fst) hrow')
    obtain ⟨value, hvalue⟩ := exists_memberEntry_iff.mpr hfirst
    refine isSome_config_after (.inr rfl) (fun o ho => hcalls o ho _ ?_) (hentries _ hvalue)
    exact mem_append_left _ (mem_map_of_mem hc)
  · have hsetting : ∃ setting, (g, setting) ∈ s₁.outboundSettings.getD [] ∧
        isEmptySetting setting = false := hsetting
    obtain ⟨value, hvalue⟩ := exists_settingEntry_iff.mpr hsetting
    obtain ⟨setting, hmem, -⟩ := hsetting
    refine isSome_config_after (.inl rfl) (fun o ho => hcalls o ho _ ?_) (hentries _ hvalue)
    exact mem_append_right _ (mem_map_of_mem (f := fst) hmem)

end Untouched

/-! ### A group that comes back -/

/-- A database of the first release with SQLite: one server, which is the member of a group. -/
def firstRelease : Sqlite where
  db :=
    { servers := { rows := [⟨1, 0, .server (.obj [])⟩] }
      other := { outboundNames := ["proxy", "hk"] } }
  columns := [.remarks]
  outboundConnections := some [⟨"hk", 1, 0⟩]
  outboundSettings := some []

/-- The database after the first run. -/
def firstRun : Sqlite := (migrateSchema Text.strict firstRelease).2

/-- Another group is added, and the group gets a second member. -/
def edits : List UserCall :=
  [.serversAppend (.single (.obj [])), .addOutbound "us",
    .setConnectedServers "hk" (.obj [("touches", .arr [.obj [], .obj []])])]

theorem untouched_edits : migrateSchema Text.strict firstRelease = (none, firstRun) ∧
    migrateSchema Text.strict firstRun = (none, firstRun) ∧
    ∃ s₃, migrateSchema Text.strict (firstRun.after sequentialIDs edits) = (none, s₃) ∧
      Untouched (firstRun.after sequentialIDs edits) s₃ := by
  have hrun : migrateSchema Text.strict firstRelease = (none, firstRun) :=
    Prod.ext (by decide +kernel) rfl
  obtain ⟨hagain, hiff⟩ := migrateSchema_again_iff sequentialIDs hrun edits
  refine ⟨hrun, hagain, hiff.mpr (kept_of_run hrun ?_ fun outbound hmem => ?_)⟩
  · decide +kernel
  · simp [edits] at hmem

/-- The group is removed and added again, without members. The next run brings back the member that
it had at first. -/
theorem not_untouched_removed :
    (firstRun.after sequentialIDs [.removeOutbound "hk", .addOutbound "hk"]).db.config
        "outbound.hk:connectedServers" = none ∧
      (migrateSchema Text.strict
          (firstRun.after sequentialIDs [.removeOutbound "hk", .addOutbound "hk"])).2.db.config
        "outbound.hk:connectedServers" =
      some (.json (.obj [("touches", .arr [.obj [("_type", .str "server"), ("id", .num 1),
        ("sub", .num 0), ("outbound", .str "hk")]])])) ∧
    "hk" ∈ (systemConfig
      (firstRun.after sequentialIDs [.removeOutbound "hk", .addOutbound "hk"]).db).getOutbounds := by
  decide +kernel

end Sqlite

end V2rayA
