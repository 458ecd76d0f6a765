import V2rayA.Db.Upgrade

/-!
# Migration from Bolt

The old release kept its data in buckets of a Bolt database. `MigrateFromBoltDB` copies them to the
tables of a new database in one transaction, runs the passes of `V2rayA.Db.Upgrade` on it, compares
it with the buckets and only then puts it in place.

The names of the groups are in a value that the old release has encoded. The migration does not
decode it, but takes the runs of printable characters in it for names. What the value means is
a parameter here.

* `Bolt.transferred`: what the transaction writes.
* `Bolt.verifyMigration_eq_ok_iff`: when it passes the comparison.
* `Bolt.migrates_iff`: when the migration succeeds and the new database has the content of the old
  one.
-/

namespace V2rayA

open List Go.Map Database SubscriptionJSON

/-- The bucket of a group. -/
structure OutboundBucket where
  setting : Option Text := none
  connectedServers : Option Text := none

/-- The value at one of the two keys. -/
def OutboundBucket.value (bucket : OutboundBucket) (key : String) : Option Text :=
  if key = "setting" then bucket.setting
  else if key = "connectedServers" then bucket.connectedServers
  else none

/-- A Bolt database. A bucket that is missing is taken to be empty. -/
structure Bolt where
  /-- The bucket `system`. -/
  system : Go.Map String Text := []
  /-- The values in the bucket `touch`. -/
  servers : Option Text := none
  subscriptions : Option Text := none
  /-- The bucket `accounts`. -/
  accounts : Go.Map String Text := []
  /-- The value `names` in the bucket `outbounds`. -/
  names : Option (List UInt8) := none
  /-- The buckets whose names begin with `outbound.`, by the rest of the name. -/
  outbounds : Go.Map String OutboundBucket := []
  nodup_system : (system.map Prod.fst).Nodup := by decide
  nodup_outbounds : (outbounds.map Prod.fst).Nodup := by decide

/-- A text as a mode. -/
def SubscriptionUpdateMode.ofString (s : String) : SubscriptionUpdateMode :=
  if s = "disabled" then .disabled
  else if s = "on_start" then .onStart
  else if s = "at_interval" then .atInterval
  else if s = "interval_failsafe" then .intervalFailsafe
  else .other s

namespace Bolt

/-! ### The passes -/

/-- `migrateSystemBucket`. -/
def migrateSystemBucket (b : Bolt) (db : Database) : Database :=
  b.system.foldl (fun db e => db.putConfig (makeKey "system" e.1) e.2) db

/-- The items of a value that has to be an array. -/
def parseArray (what : String) : Text → Except Go.Error (List Json)
  | .malformed _ => .error { text := "invalid JSON for " ++ what }
  | .json (.arr items) => .ok items
  | .json _ => .error { text := what ++ " data is not an array" }

/-- Insert servers with the ordinals of their positions. -/
def insertServers (ids : Sql.RowIDs) (items : List Json) (db : Database) : Database :=
  items.zipIdx.foldl
    (fun db e => { db with servers := db.servers.insert ids e.2 (.server e.1) }) db

/-- `migrateServers`. -/
def migrateServers (ids : Sql.RowIDs) (data : Text) (db : Database) : Except Go.Error Database := do
  let results ← parseArray "servers" data
  .ok (insertServers ids results db)

/-- A field of a document; what is not there reads as `null`. -/
def valueAt (r : Json) (key : String) : Json := (r.get? key).getD .null

/-- A subscription in a document. -/
def readSubscription (r : Json) : SubscriptionJSON Json where
  fields :=
    { address := (valueAt r "address").asString
      remarks := (valueAt r "remarks").asString
      status := (valueAt r "status").asString
      info := (valueAt r "info").asString
      autoSelect := (valueAt r "autoSelect").asBool
      updateMode := .ofString (valueAt r "updateMode").asString
      updateIntervalMinutes := (valueAt r "updateIntervalMinutes").asInt
      failureIntervalMinutes := (valueAt r "failureIntervalMinutes").asInt
      allowDirectRecovery := (valueAt r "allowDirectRecovery").asBool }
  servers := (valueAt r "servers").asArray

/-- Insert subscriptions with the ordinals of their positions, and their nodes. -/
def insertSubscriptions (ids : Sql.RowIDs) (items : List (SubscriptionJSON Json)) (db : Database) :
    Database :=
  items.zipIdx.foldl
    (fun db e =>
      { db with
        subscriptions := db.subscriptions.insert ids e.2 e.1.fields.stored
        servers := Db.insertNodes ids (db.subscriptions.newID ids) e.1.servers db.servers }) db

/-- `migrateSubscriptions`. -/
def migrateSubscriptions (ids : Sql.RowIDs) (data : Text) (db : Database) :
    Except Go.Error Database := do
  let results ← parseArray "subscriptions" data
  .ok (insertSubscriptions ids (results.map readSubscription) db)

/-- `migrateTouchBucket`. -/
def migrateTouchBucket (ids : Sql.RowIDs) (b : Bolt) (db : Database) : Except Go.Error Database := do
  let db ← b.servers.elim (.ok db) fun data => migrateServers ids data db
  b.subscriptions.elim (.ok db) fun data => migrateSubscriptions ids data db

/-- Whether a byte is a printable character. -/
def isPrintable (c : UInt8) : Bool := 32 ≤ c && c < 127

/-- The texts that are not taken for names. -/
def notNames : List String := ["map", "uint8", "string", "interface", "false", "true"]

/-- A run of bytes as a name. -/
def nameOf (run : List UInt8) : String := String.ofList (run.map fun c => Char.ofNat c.toNat)

/-- `extractStringsFromGob`, with the bytes of the current run. -/
def extractStringsFrom (current : List UInt8) : List UInt8 → List String
  | [] => []
  | c :: data =>
    if isPrintable c then extractStringsFrom (current ++ [c]) data
    else if 2 < current.length ∧ nameOf current ∉ notNames then
      nameOf current :: extractStringsFrom [] data
    else extractStringsFrom [] data

/-- `extractStringsFromGob`. -/
def extractStringsFromGob (data : List UInt8) : List String := extractStringsFrom [] data

/-- `migrateOutboundNames`. -/
def migrateOutboundNames (data : List UInt8) (db : Database) : Database :=
  (extractStringsFromGob data).foldl (fun db name => if name = "" then db else db.addName name)
    (db.addName "proxy")

/-- `migrateOutboundSetting` and `migrateOutboundConnections`, if there is a value. -/
def migrateOutboundValue (outbound key : String) (data : Option Text) (db : Database) : Database :=
  match data with
  | none => db
  | some data => (db.addName outbound).putConfig (makeKey (outboundBucket outbound) key) data

/-- Migrate the bucket of a group. -/
def migrateOutbound (db : Database) (e : String × OutboundBucket) : Database :=
  if e.1 = "" then db
  else
    migrateOutboundValue e.1 "connectedServers" e.2.connectedServers
      (migrateOutboundValue e.1 "setting" e.2.setting db)

/-- `migrateOutboundsBucket`. -/
def migrateOutboundsBucket (b : Bolt) (db : Database) : Database :=
  b.outbounds.foldl migrateOutbound (b.names.elim db fun data => migrateOutboundNames data db)

/-! ### Verification -/

/-- The types of the fields of a setting. -/
def settingFields : List (String × (Json → Bool)) :=
  [("probeURL", Json.isString), ("probeInterval", Json.isString), ("type", Json.isString),
    ("selected", Json.isString)]

/-- The types of the fields of a reference. -/
def whichFields : List (String × (Json → Bool)) :=
  [("_type", Json.isString), ("id", Json.isInt), ("sub", Json.isInt), ("outbound", Json.isString)]

/-- The types of the fields of a list of references. -/
def connectedFields : List (String × (Json → Bool)) :=
  [("touches", Json.isArrayOf (Json.decodes whichFields))]

/-- `verifyOutboundValue`. -/
def verifyOutboundValue (key : String) (value : Text) : Except Go.Error Unit :=
  if key = "setting" then (value.unmarshal settingFields).map fun _ => ()
  else if key = "connectedServers" then (value.unmarshal connectedFields).map fun _ => ()
  else .ok ()

/-- Verify a value of the bucket of a group. -/
def verifyOutbound (db : Database) (outbound key : String) (value : Option Text) :
    Except Go.Error Unit :=
  match value with
  | none => .ok ()
  | some value =>
    let fullKey := makeKey (outboundBucket outbound) key
    match db.config fullKey with
    | none =>
      .error { text := "failed to read migrated " ++ fullKey ++ ": sql: no rows in result set" }
    | some migrated =>
      if migrated ≠ value then .error { text := "outbound config mismatch for " ++ fullKey }
      else (verifyOutboundValue key migrated).mapError (Go.Error.wrap ("invalid migrated " ++ fullKey))

/-- Verify the bucket of a group. -/
def verifyBucket (db : Database) (e : String × OutboundBucket) : Except Go.Error Unit := do
  verifyOutbound db e.1 "setting" e.2.setting
  verifyOutbound db e.1 "connectedServers" e.2.connectedServers

/-- `SELECT COUNT(*) FROM system_config WHERE key LIKE 'system:%'`. -/
def countSystem (db : Database) : ℕ :=
  ((db.other.systemConfig.map Prod.fst).filter fun key =>
    Sql.like "system:%".toList key.toList).length

/-- The number of items of a value. -/
def countItems : Text → ℕ
  | .json j => j.asArray.length
  | .malformed _ => 0

/-- Compare two numbers of rows. -/
def verifyCount (what : String) (bolt sqlite : ℕ) : Except Go.Error Unit :=
  if bolt ≠ sqlite then
    .error { text := what ++ " count mismatch: BoltDB=" ++ toString bolt ++ ", SQLite=" ++
      toString sqlite }
  else .ok ()

/-- `verifyMigration`. -/
def verifyMigration (b : Bolt) (db : Database) : Except Go.Error Unit := do
  verifyCount "system config" b.system.length (countSystem db)
  b.servers.elim (.ok ()) fun data =>
    verifyCount "server" (countItems data) db.serverRows.length
  b.subscriptions.elim (.ok ()) fun data =>
    verifyCount "subscription" (countItems data) db.subscriptionRows.length
  b.outbounds.forM (verifyBucket db)

/-! ### The migration -/

/-- What the transaction writes. Accounts are not migrated. -/
def transfer (ids : Sql.RowIDs) (lax : Lenient) (b : Bolt) : Except Go.Error Database := do
  let db := b.migrateSystemBucket { other := {} }
  let db ← (b.migrateTouchBucket ids db).mapError (Go.Error.wrap "failed to migrate touch bucket")
  let db := b.migrateOutboundsBucket db
  let db ← (db.migrateSubscriptionUpdatePolicy lax).mapError
    (Go.Error.wrap "failed to migrate subscription update policy")
  (db.migrateAutoSelectToAutomaticGroup lax).mapError
    (Go.Error.wrap "failed to migrate subscription auto-select")

/-- The files in the directory of the configuration. -/
structure Files where
  bolt : Option Bolt := none
  sqlite : Option Database := none
  backups : List Bolt := []

/-- `sqliteHoldsData`. -/
def sqliteHoldsData (db : Database) : Bool := 0 < countSystem db

/-- `MigrateFromBoltDB`. Reading and renaming files succeeds. -/
def migrateFromBoltDB (ids : Sql.RowIDs) (lax : Lenient) : Go.Op Files := fun files =>
  match files.bolt with
  | none => (none, files)
  | some b =>
    if files.sqlite.any sqliteHoldsData then
      (none, { files with bolt := none, backups := b :: files.backups })
    else
      let files := { files with sqlite := none }
      match b.transfer ids lax with
      | .error err => (some err, files)
      | .ok db =>
        match b.verifyMigration db with
        | .error err => (some (err.wrap "migration verification failed"), files)
        | .ok () => (none, { bolt := none, sqlite := some db, backups := b :: files.backups })

/-! ### The content of the old database -/

/-- A value of a group. -/
def value (b : Bolt) (key n : String) : Option Text :=
  (b.outbounds.get? n).bind fun bucket => bucket.value key

/-- The servers. -/
def serverList (b : Bolt) : List Json :=
  match b.servers with
  | some (.json (.arr items)) => items
  | _ => []

/-- The subscriptions. -/
def subscriptionList (b : Bolt) : List (SubscriptionJSON Json) :=
  match b.subscriptions with
  | some (.json (.arr items)) => items.map readSubscription
  | _ => []

/-- Which subscriptions select a node automatically. -/
def autoSelect (b : Bolt) : List Bool := b.subscriptionList.map fun s => s.fields.autoSelect

/-- Whether the group `proxy` has a member that no subscription has selected. -/
def hasManualMembers (b : Bolt) : Bool :=
  match b.value "connectedServers" "proxy" with
  | some (.json j) => (j.field "touches").asArray.any (Database.isManual b.autoSelect)
  | _ => false

/-- The fields of a setting. -/
def fieldsOf : Text → List (String × Json)
  | .json (.obj l) => l
  | _ => []

/-- The fields of the setting of the group `proxy`, or of that which it gets. -/
def proxyFields (b : Bolt) : List (String × Json) :=
  fieldsOf ((b.value "setting" "proxy").getD Database.defaultProxySetting)

/-- The groups, for a reading of the value that holds their names. The group `proxy` always
exists. -/
def groups (read : List UInt8 → List String) (b : Bolt) : List String :=
  "proxy" :: (b.names.map read).getD []

/-- The values are documents of the kinds that the old release writes. -/
structure WellFormed (b : Bolt) : Prop where
  servers : ∀ data, b.servers = some data → ∃ items, data = .json (.arr items)
  subscriptions : ∀ data, b.subscriptions = some data → ∃ items, data = .json (.arr items)
  systemSetting : ∀ data, b.system.get? "setting" = some data → ∃ l, data = .json (.obj l)
  setting : ∀ n data, b.value "setting" n = some data →
    ∃ l, data = .json (.obj l) ∧ (Json.obj l).decodes settingFields
  connectedServers : ∀ n data, b.value "connectedServers" n = some data →
    ∃ j, data = .json j ∧ j.decodes connectedFields

/-! ### Completeness -/

/-- An account in the new database. Accounts used to be stored without the name of their bucket, in
keys without a colon. -/
def account (db : Database) (username : String) : Option Text :=
  (db.config (makeKey "accounts" username)).or
    (if ':' ∈ username.toList then none else db.config username)

/-- A subscription, without the flag for automatic selection. -/
def contentOf (fields : SubscriptionFields) (servers : List Json) :
    SubscriptionFields × List Json :=
  ({ fields.stored with autoSelect := false }, servers)

/-- The new database has the content of the old one. Automatic selection is left to the group
`proxy`, whose setting is rewritten. -/
structure Complete (read : List UInt8 → List String) (b : Bolt) (db : Database) : Prop where
  servers : db.serversGetAll = b.serverList
  subscriptions : db.subscriptionsGetAll.map (fun s => contentOf s.fields s.servers) =
    b.subscriptionList.map fun s => contentOf s.fields s.servers
  system : ∀ k, db.config (makeKey "system" k) = b.system.get? k
  accounts : ∀ username, account db username = b.accounts.get? username
  connectedServers : ∀ n,
    db.config (makeKey (outboundBucket n) "connectedServers") = b.value "connectedServers" n
  setting : ∀ n, (n = "proxy" → ¬b.autoSelect.any id) →
    db.config (makeKey (outboundBucket n) "setting") = b.value "setting" n
  automatic : b.autoSelect.any id → db.config (makeKey (outboundBucket "proxy") "setting") =
    some (.json (.obj (Database.automaticFields b.hasManualMembers b.proxyFields)))
  names : ∀ n, n ∈ "proxy" :: db.other.outboundNames ↔ n ∈ b.groups read

/-! ### Keys -/

section Keys

variable {db : Database} {k n key : String} {value : Text}

/-- The keys that the migration writes. -/
inductive IsKey : String → Prop
  | system (k : String) : IsKey (makeKey "system" k)
  | outbound (n key : String) : IsKey (makeKey (outboundBucket n) key)
  | mark (k : String) : IsKey (makeKey "migration" k)

lemma colon_mem_of_isKey (h : IsKey key) : ':' ∈ key.toList := by
  cases h <;> simp [makeKey]

/-- The table has each key once, and only keys that the migration writes. -/
structure Keys (db : Database) : Prop where
  nodup : (db.other.systemConfig.map Prod.fst).Nodup
  isKey : ∀ key value, db.config key = some value → IsKey key

/-- The lists are in other tables. -/
lemma Keys.of_other {db' : Database} (h : Keys db) (heq : db'.other = db.other) : Keys db' where
  nodup := heq ▸ h.nodup
  isKey key value hget := by
    rw [config, heq] at hget
    exact h.isKey key value hget

lemma Keys.putConfig (h : Keys db) (hkey : IsKey key) : Keys (db.putConfig key value) where
  nodup := nodup_put h.nodup
  isKey key' value' hget := by
    rw [config_putConfig] at hget
    split_ifs at hget with heq
    · exact heq ▸ hkey
    · exact h.isKey key' value' hget

lemma like_system_iff (h : IsKey key) :
    Sql.like "system:%".toList key.toList ↔ ∃ k, key = makeKey "system" k := by
  have hpattern : bucketLikePattern "system" = "system:%".toList := by decide
  rw [← hpattern, like_bucketLikePattern_iff]
  constructor
  · intro hpre
    cases h with
    | system k => exact ⟨k, rfl⟩
    | outbound n key =>
      obtain ⟨t, ht⟩ := hpre
      have hhead := congrArg head? ht
      simp [makeKey, outboundBucket] at hhead
    | mark k =>
      obtain ⟨t, ht⟩ := hpre
      have hhead := congrArg head? ht
      simp [makeKey] at hhead
  · rintro ⟨k, rfl⟩
    have hkey : (makeKey "system" k).toList = ("system" ++ ":").toList ++ k.toList :=
      String.toList_append
    rw [hkey]
    exact List.prefix_append _ _

/-- As many keys are counted as there were. -/
lemma Keys.countSystem_eq (h : Keys db) {b : Bolt}
    (hsystem : ∀ k, (db.config (makeKey "system" k)).isSome ↔ (b.system.get? k).isSome) :
    countSystem db = b.system.length := by
  have hmem (key : String) : key ∈ db.other.systemConfig.map Prod.fst ↔ (db.config key).isSome := by
    constructor
    · intro hkey
      obtain ⟨e, he, rfl⟩ := mem_map.mp hkey
      exact Option.isSome_iff_exists.mpr ⟨e.2, (get?_eq_some_iff h.nodup).mpr he⟩
    · intro hkey
      obtain ⟨v, hv⟩ := Option.isSome_iff_exists.mp hkey
      exact mem_map.mpr ⟨_, mem_of_get? hv, rfl⟩
  have hperm : ((db.other.systemConfig.map Prod.fst).filter
      fun key => Sql.like "system:%".toList key.toList).Perm
        (b.system.map fun e => makeKey "system" e.1) := by
    refine (perm_ext_iff_of_nodup (h.nodup.filter _) ?_).mpr fun key => ?_
    · have hinj : Function.Injective (makeKey "system") := fun _ _ => makeKey_left_inj.mp
      simpa [Function.comp_def] using b.nodup_system.map hinj
    · rw [mem_filter, hmem, mem_map]
      constructor
      · rintro ⟨hkey, hlike⟩
        obtain ⟨v, hv⟩ := Option.isSome_iff_exists.mp hkey
        obtain ⟨k, rfl⟩ := (like_system_iff (h.isKey _ _ hv)).mp hlike
        obtain ⟨v, hv⟩ := Option.isSome_iff_exists.mp ((hsystem k).mp hkey)
        exact ⟨_, mem_of_get? hv, rfl⟩
      · rintro ⟨e, he, rfl⟩
        refine ⟨(hsystem e.1).mpr ?_, (like_system_iff (.system _)).mpr ⟨_, rfl⟩⟩
        exact Option.isSome_iff_exists.mpr
          ⟨e.2, (get?_eq_some_iff b.nodup_system).mpr he⟩
  rw [countSystem, hperm.length_eq, length_map]

end Keys

/-! ### What is copied -/

section Copy

variable {ids : Sql.RowIDs} {b : Bolt} {db : Database} {lists : Lists Json} {k n key : String}

lemma migrateSystemBucket_eq : b.migrateSystemBucket db =
    { db with
      other := { db.other with
        systemConfig := (b.system.map fun e => (makeKey "system" e.1, e.2)).foldl
          (fun m e => m.put e.1 e.2) db.other.systemConfig } } := by
  unfold migrateSystemBucket
  induction b.system generalizing db with
  | nil => rfl
  | cons e l ih => exact ih

lemma config_migrateSystemBucket :
    (b.migrateSystemBucket db).config (makeKey "system" k) =
      (b.system.get? k).or (db.config (makeKey "system" k)) := by
  rw [migrateSystemBucket_eq, config, get?_foldl_put,
    get?_ofWrites_map (fun _ _ => makeKey_left_inj.mp) b.nodup_system]
  rfl

lemma config_migrateSystemBucket_of_ne (hne : ∀ k, key ≠ makeKey "system" k) :
    (b.migrateSystemBucket db).config key = db.config key := by
  rw [migrateSystemBucket_eq, config, get?_foldl_put]
  refine (congrArg (Option.or · _) (Option.eq_none_iff_forall_ne_some.mpr fun v hv => ?_)).trans
    (Option.none_or ..)
  obtain ⟨e, -, he⟩ := mem_map.mp (mem_of_get?_ofWrites hv)
  exact hne e.1 (congrArg Prod.fst he).symm

lemma Keys.migrateSystemBucket (h : Keys db) : Keys (b.migrateSystemBucket db) := by
  unfold Bolt.migrateSystemBucket
  induction b.system generalizing db with
  | nil => exact h
  | cons e l ih => exact ih (h.putConfig (.system _))

/-- Servers that are inserted with the ordinals of their positions are appended. -/
lemma refines_insertServers (h : Refines db lists) (hlists : lists.servers = [])
    (items : List Json) :
    Refines (insertServers ids items db) { lists with servers := items } := by
  induction items using reverseRecOn with
  | nil =>
    rw [show ({ lists with servers := [] } : Lists Json) = lists by rw [← hlists]]
    exact h
  | append_singleton items item ih =>
    have hlength := congrArg length ih.servers
    rw [length_map] at hlength
    have hstep : insertServers ids (items ++ [item]) db =
        (insertServers ids items db).appendServer ids item := by
      rw [Db.appendServer, Sql.Numbered.nextSort_eq ih.serverSort, hlength]
      simp [insertServers, zipIdx_append]
    rw [hstep]
    exact ih.appendServer item

/-- Subscriptions that are inserted with the ordinals of their positions are appended. -/
lemma refines_insertSubscriptions (h : Refines db lists) (hlists : lists.subscriptions = [])
    (items : List (SubscriptionJSON Json)) :
    Refines (insertSubscriptions ids items db)
      { lists with subscriptions := items.map content } := by
  induction items using reverseRecOn with
  | nil =>
    rw [map_nil, ← hlists]
    exact h
  | append_singleton items item ih =>
    have hlength := congrArg length ih.subscriptions
    rw [length_map] at hlength
    have hstep : insertSubscriptions ids (items ++ [item]) db =
        (insertSubscriptions ids items db).appendSubscription ids item := by
      rw [Db.appendSubscription, Sql.Numbered.nextSort_eq ih.subscriptionSort, hlength]
      simp [insertSubscriptions, zipIdx_append]
    rw [hstep, map_append]
    exact ih.appendSubscription item

lemma other_insertServers (items : List Json) :
    (insertServers ids items db).other = db.other := by
  unfold insertServers
  induction items.zipIdx generalizing db with
  | nil => rfl
  | cons e l ih => exact ih

lemma other_insertSubscriptions (items : List (SubscriptionJSON Json)) :
    (insertSubscriptions ids items db).other = db.other := by
  unfold insertSubscriptions
  induction items.zipIdx generalizing db with
  | nil => rfl
  | cons e l ih => exact ih

lemma config_migrateOutboundValue {data : Option Text} {key' : String} (hkey : IsGroupKey key)
    (hkey' : IsGroupKey key') :
    (migrateOutboundValue k key data db).config (makeKey (outboundBucket n) key') =
      if n = k ∧ key' = key then data.or (db.config (makeKey (outboundBucket n) key'))
      else db.config (makeKey (outboundBucket n) key') := by
  cases data with
  | none => simp [migrateOutboundValue]
  | some data =>
    rw [migrateOutboundValue, config_putConfig]
    simp only [makeKey_group_inj hkey' hkey]
    rfl

variable {e : String × OutboundBucket}

lemma config_migrateOutbound (hkey : IsGroupKey key) :
    (migrateOutbound db e).config (makeKey (outboundBucket n) key) =
      if n = e.1 ∧ n ≠ "" then (e.2.value key).or (db.config (makeKey (outboundBucket n) key))
      else db.config (makeKey (outboundBucket n) key) := by
  unfold migrateOutbound
  by_cases he : e.1 = ""
  · rw [if_pos he, if_neg (by rintro ⟨rfl, hne⟩; exact hne he)]
  · rw [if_neg he, config_migrateOutboundValue (.inr rfl) hkey,
      config_migrateOutboundValue (.inl rfl) hkey]
    by_cases hn : n = e.1
    · subst hn
      rcases hkey with rfl | rfl <;> simp [OutboundBucket.value, he]
    · simp [hn]

lemma config_migrateOutbound_of_ne (hne : ∀ n key', key ≠ makeKey (outboundBucket n) key') :
    (migrateOutbound db e).config key = db.config key := by
  have hvalue (db : Database) (key' : String) (data : Option Text) :
      (migrateOutboundValue e.1 key' data db).config key = db.config key := by
    cases data with
    | none => rfl
    | some data => exact config_putConfig.trans (if_neg (hne _ _))
  unfold migrateOutbound
  split_ifs
  · rfl
  · rw [hvalue, hvalue]

/-- Whether a bucket holds anything. -/
def HasValue (bucket : OutboundBucket) : Prop :=
  bucket.setting.isSome ∨ bucket.connectedServers.isSome

lemma mem_outboundNames_migrateOutbound :
    n ∈ (migrateOutbound db e).other.outboundNames ↔
      n ∈ db.other.outboundNames ∨ n = e.1 ∧ n ≠ "" ∧ HasValue e.2 := by
  have hvalue (db : Database) (key : String) (data : Option Text) :
      n ∈ (migrateOutboundValue e.1 key data db).other.outboundNames ↔
        n ∈ db.other.outboundNames ∨ n = e.1 ∧ data.isSome := by
    cases data with
    | none => simp [migrateOutboundValue]
    | some data => simp [migrateOutboundValue, addName, or_comm]
  unfold migrateOutbound HasValue
  split_ifs with he
  · grind
  · grind

lemma migrateOutbound_tables :
    (migrateOutbound db e).servers = db.servers ∧
      (migrateOutbound db e).subscriptions = db.subscriptions := by
  unfold migrateOutbound migrateOutboundValue
  split_ifs
  · exact ⟨rfl, rfl⟩
  · cases e.2.setting <;> cases e.2.connectedServers <;> exact ⟨rfl, rfl⟩

lemma Keys.migrateOutbound (h : Keys db) :
    Keys (migrateOutbound db e) := by
  have hvalue {db : Database} (h : Keys db) (key : String) (data : Option Text) :
      Keys (migrateOutboundValue e.1 key data db) := by
    cases data with
    | none => exact h
    | some data => exact Keys.putConfig ⟨h.nodup, h.isKey⟩ (.outbound _ _)
  unfold Bolt.migrateOutbound
  split_ifs
  · exact h
  · exact hvalue (hvalue h _ _) _ _

section Outbounds

variable {l : Go.Map String OutboundBucket}

lemma config_foldl_migrateOutbound (hl : (l.map Prod.fst).Nodup) (hkey : IsGroupKey key) :
    (l.foldl migrateOutbound db).config (makeKey (outboundBucket n) key) =
      if n = "" then db.config (makeKey (outboundBucket n) key)
      else ((l.get? n).bind fun bucket => bucket.value key).or
        (db.config (makeKey (outboundBucket n) key)) := by
  induction l generalizing db with
  | nil => simp [get?]
  | cons e l ih =>
    rw [map_cons, nodup_cons] at hl
    rw [foldl_cons, ih hl.2, config_migrateOutbound hkey, get?_cons]
    by_cases hn : n = ""
    · simp [hn]
    · by_cases he : e.1 = n
      · -- the bucket occurs once
        have hnone : get? l n = none := by
          refine Option.eq_none_iff_forall_ne_some.mpr fun bucket hget => hl.1 ?_
          exact he ▸ mem_map_of_mem (f := Prod.fst) (mem_of_get? hget)
        simp [he, hnone]
      · have he' : ¬n = e.1 := fun h => he h.symm
        simp [he, he']

lemma config_foldl_migrateOutbound_of_ne (hne : ∀ n key', key ≠ makeKey (outboundBucket n) key') :
    (l.foldl migrateOutbound db).config key = db.config key := by
  induction l generalizing db with
  | nil => rfl
  | cons e l ih => exact ih.trans (config_migrateOutbound_of_ne hne)

lemma mem_outboundNames_foldl :
    n ∈ (l.foldl migrateOutbound db).other.outboundNames ↔
      n ∈ db.other.outboundNames ∨ n ≠ "" ∧ ∃ bucket, (n, bucket) ∈ l ∧ HasValue bucket := by
  induction l generalizing db with
  | nil => simp
  | cons e l ih =>
    rw [foldl_cons, ih, mem_outboundNames_migrateOutbound]
    constructor
    · rintro ((h | ⟨rfl, hn, hvalue⟩) | ⟨hn, bucket, hmem, hvalue⟩)
      · exact .inl h
      · exact .inr ⟨hn, e.2, .head _, hvalue⟩
      · exact .inr ⟨hn, bucket, .tail _ hmem, hvalue⟩
    · rintro (h | ⟨hn, bucket, hmem, hvalue⟩)
      · exact .inl (.inl h)
      · rcases mem_cons.mp hmem with rfl | hmem
        · exact .inl (.inr ⟨rfl, hn, hvalue⟩)
        · exact .inr ⟨hn, bucket, hmem, hvalue⟩

lemma foldl_migrateOutbound_tables (db : Database) (l : Go.Map String OutboundBucket) :
    (l.foldl migrateOutbound db).servers = db.servers ∧
      (l.foldl migrateOutbound db).subscriptions = db.subscriptions := by
  induction l generalizing db with
  | nil => exact ⟨rfl, rfl⟩
  | cons e l ih =>
    exact ⟨(ih _).1.trans migrateOutbound_tables.1, (ih _).2.trans migrateOutbound_tables.2⟩

lemma Keys.foldl_migrateOutbound (h : Keys db) : Keys (l.foldl Bolt.migrateOutbound db) := by
  induction l generalizing db with
  | nil => exact h
  | cons e l ih => exact ih h.migrateOutbound

end Outbounds

/-! #### Names -/

/-- A name stands in the bytes as a run of printable characters before one that is not printable. It
is longer than two characters and not one of the texts that are passed over. -/
def Scanned (data : List UInt8) (name : String) : Prop :=
  ∃ before run after, ∃ c : UInt8, data = before ++ run ++ c :: after ∧
    (∀ c ∈ before.getLast?, isPrintable c = false) ∧ (∀ c ∈ run, isPrintable c = true) ∧
    isPrintable c = false ∧ 2 < run.length ∧ name = nameOf run ∧ name ∉ notNames

/-- A run of printable characters ends at the first one that is not. -/
lemma eq_of_append_cons_eq {p : UInt8 → Bool} {l l' r r' : List UInt8} {c c' : UInt8}
    (hl : ∀ c ∈ l, p c) (hl' : ∀ c ∈ l', p c) (hc : p c = false) (hc' : p c' = false)
    (h : l ++ c :: r = l' ++ c' :: r') : l = l' := by
  rcases append_eq_append_iff.mp h with ⟨t, rfl, ht⟩ | ⟨t, rfl, ht⟩
  · cases t with
    | nil => simp
    | cons x t =>
      obtain rfl := (cons.inj ht).1
      exact absurd (hl' c (by simp)) (by simp [hc])
  · cases t with
    | nil => simp
    | cons x t =>
      obtain rfl := (cons.inj ht).1
      exact absurd (hl c' (by simp)) (by simp [hc'])

variable {name : String} {current data : List UInt8}

/-- The first run is that before the first byte that is not printable. -/
lemma scanned_append_cons {c : UInt8} (hcurrent : ∀ c ∈ current, isPrintable c)
    (hc : isPrintable c = false) :
    Scanned (current ++ c :: data) name ↔
      (2 < current.length ∧ nameOf current ∉ notNames ∧ name = nameOf current) ∨
        Scanned data name := by
  constructor
  · rintro ⟨before, run, after, c', heq, hbefore, hrun, hc', hlength, rfl, hname⟩
    rw [append_assoc] at heq
    rcases append_eq_append_iff.mp heq with ⟨t, rfl, ht⟩ | ⟨t, rfl, ht⟩
    · cases t with
      | nil =>
        -- the run would begin with a byte that is not printable
        cases run with
        | nil => simp at hlength
        | cons x run =>
          obtain rfl := (cons.inj ht).1
          simp [hc] at hrun
      | cons x t =>
        obtain ⟨rfl, hdata⟩ := cons.inj ht
        have hdata : data = t ++ (run ++ c' :: after) := hdata
        refine .inr ⟨t, run, after, c', by rw [hdata, append_assoc], fun c hc => ?_, hrun, hc',
          hlength, rfl, hname⟩
        refine hbefore c ?_
        rw [getLast?_append, getLast?_cons, Option.mem_def.mp hc]
        simp
    · -- what precedes the run is printable, so that there is nothing
      obtain rfl : before = [] := by
        by_contra hne
        have hmem := getLast_mem hne
        have hlast := hbefore _ (getLast?_eq_getLast_of_ne_nil hne)
        rw [hcurrent _ (mem_append_left _ hmem)] at hlast
        cases hlast
      obtain rfl := eq_of_append_cons_eq hrun (by simpa using hcurrent) hc' hc ht
      exact .inl ⟨hlength, hname, rfl⟩
  · rintro (⟨hlength, hname, rfl⟩ | ⟨before, run, after, c', rfl, hbefore, hrest⟩)
    · exact ⟨[], current, data, c, rfl, by simp, hcurrent, hc, hlength, rfl, hname⟩
    · refine ⟨current ++ c :: before, run, after, c', by simp, fun x hx => ?_, hrest⟩
      rw [getLast?_append, getLast?_cons] at hx
      cases hlast : before.getLast? with
      | none =>
        obtain rfl : c = x := by simpa [hlast] using hx
        exact hc
      | some y =>
        obtain rfl : y = x := by simpa [hlast] using hx
        exact hbefore _ hlast

lemma mem_extractStringsFrom (hcurrent : ∀ c ∈ current, isPrintable c) :
    name ∈ extractStringsFrom current data ↔ Scanned (current ++ data) name := by
  induction data generalizing current with
  | nil =>
    refine ⟨fun h => absurd h (not_mem_nil), ?_⟩
    rintro ⟨before, run, after, c, heq, -, -, hc, -⟩
    rw [hcurrent c (by rw [← append_nil current, heq]; simp)] at hc
    cases hc
  | cons c data ih =>
    rw [extractStringsFrom]
    by_cases hc : isPrintable c = true
    · rw [if_pos hc, ih (by simpa [or_imp, forall_and, hc] using hcurrent), append_assoc]
      rfl
    · have hc : isPrintable c = false := by simpa using hc
      rw [scanned_append_cons hcurrent hc]
      have hrest : name ∈ extractStringsFrom [] data ↔ Scanned data name := ih (by simp)
      split_ifs with hname
      · rw [mem_cons, hrest]
        simp [hname]
      · rw [hrest]
        refine ⟨.inr, ?_⟩
        rintro (⟨hlength, hnot, -⟩ | h)
        · exact absurd ⟨hlength, hnot⟩ hname
        · exact h

variable {data : List UInt8}

lemma mem_extractStringsFromGob_iff :
    name ∈ extractStringsFromGob data ↔ Scanned data name :=
  mem_extractStringsFrom (by simp)

lemma ne_empty_of_scanned (h : Scanned data n) : n ≠ "" := by
  obtain ⟨-, run, -, -, -, -, -, -, hlength, rfl, -⟩ := h
  intro hempty
  have := congrArg (fun s : String => s.toList.length) hempty
  simp [nameOf] at this
  simp [this] at hlength

lemma mem_outboundNames_migrateOutboundNames :
    n ∈ (migrateOutboundNames data db).other.outboundNames ↔
      n ∈ db.other.outboundNames ∨ n = "proxy" ∨ Scanned data n := by
  have hfold (l : List String) (db : Database) :
      n ∈ (l.foldl (fun db name => if name = "" then db else db.addName name) db).other.outboundNames
        ↔ n ∈ db.other.outboundNames ∨ n ∈ l ∧ n ≠ "" := by
    induction l generalizing db with
    | nil => simp
    | cons name l ih =>
      rw [foldl_cons, ih]
      by_cases hname : name = ""
      · grind
      · simp only [hname, addName, mem_cons]
        grind
  rw [migrateOutboundNames, hfold, mem_extractStringsFromGob_iff]
  simp only [addName, mem_insert_iff]
  constructor
  · rintro ((h | h) | ⟨h, -⟩)
    exacts [.inr (.inl h), .inl h, .inr (.inr h)]
  · rintro (h | h | h)
    exacts [.inl (.inr h), .inl (.inl h), .inr ⟨h, ne_empty_of_scanned h⟩]

/-- Only the table of names is written. -/
lemma migrateOutboundNames_eq (db : Database) (data : List UInt8) : ∃ names,
    migrateOutboundNames data db = { db with other := { db.other with outboundNames := names } } := by
  have hfold (l : List String) (db : Database) : ∃ names,
      l.foldl (fun db name => if name = "" then db else db.addName name) db =
        { db with other := { db.other with outboundNames := names } } := by
    induction l generalizing db with
    | nil => exact ⟨_, rfl⟩
    | cons name l ih =>
      obtain ⟨names, hnames⟩ := ih (if name = "" then db else db.addName name)
      refine ⟨names, hnames.trans ?_⟩
      split_ifs <;> rfl
  obtain ⟨names, hnames⟩ := hfold (extractStringsFromGob data) (db.addName "proxy")
  exact ⟨names, hnames⟩

end Copy

/-! ### What the transaction writes -/

section Transfer

variable {ids : Sql.RowIDs} {lax : Lenient} {b : Bolt} {db : Database}

/-- A group that the migration finds. -/
def Found (b : Bolt) (n : String) : Prop :=
  (∃ data, b.names = some data ∧ (n = "proxy" ∨ Scanned data n)) ∨
    n ≠ "" ∧ ∃ key, IsGroupKey key ∧ (b.value key n).isSome

/-- The database when the buckets have been copied. -/
structure Copied (b : Bolt) (db : Database) : Prop where
  keys : Keys db
  lists : Refines db
    { servers := b.serverList, subscriptions := b.subscriptionList.map SubscriptionJSON.content }
  system : ∀ k, db.config (makeKey "system" k) = b.system.get? k
  groups : ∀ n key, IsGroupKey key →
    db.config (makeKey (outboundBucket n) key) = if n = "" then none else b.value key n
  marks : ∀ k, db.config (makeKey "migration" k) = none
  names : ∀ n, n ∈ db.other.outboundNames ↔ b.Found n

lemma exists_bucket_iff {n : String} :
    (∃ bucket, (n, bucket) ∈ b.outbounds ∧ HasValue bucket) ↔
      ∃ key, IsGroupKey key ∧ (b.value key n).isSome := by
  constructor
  · rintro ⟨bucket, hmem, hvalue⟩
    have hget := (get?_eq_some_iff b.nodup_outbounds).mpr hmem
    rcases hvalue with h | h
    · refine ⟨"setting", .inl rfl, ?_⟩
      rw [value, hget]
      exact h
    · refine ⟨"connectedServers", .inr rfl, ?_⟩
      rw [value, hget]
      exact h
  · rintro ⟨key, hkey, hsome⟩
    obtain ⟨data, hdata⟩ := Option.isSome_iff_exists.mp hsome
    obtain ⟨bucket, hget, hvalue⟩ := Option.bind_eq_some_iff.mp hdata
    refine ⟨bucket, mem_of_get? hget, ?_⟩
    rcases hkey with rfl | rfl
    · exact .inl (Option.isSome_iff_exists.mpr ⟨data, hvalue⟩)
    · exact .inr (Option.isSome_iff_exists.mpr ⟨data, hvalue⟩)

lemma touch_of_wellFormed (h : b.WellFormed) (hrefines : Refines db {}) :
    ∃ db', b.migrateTouchBucket ids db = .ok db' ∧ db'.other = db.other ∧
      Refines db' { servers := b.serverList
                    subscriptions := b.subscriptionList.map content } := by
  obtain ⟨db₁, hdb₁, hother₁, hrefines₁⟩ : ∃ db₁,
      b.servers.elim (.ok db) (fun data => migrateServers ids data db) = .ok db₁ ∧
        db₁.other = db.other ∧ Refines db₁ { servers := b.serverList } := by
    unfold serverList
    cases hservers : b.servers with
    | none => exact ⟨db, rfl, rfl, hrefines⟩
    | some data =>
      obtain ⟨items, rfl⟩ := h.servers data hservers
      exact ⟨_, rfl, other_insertServers items, refines_insertServers hrefines rfl items⟩
  unfold migrateTouchBucket subscriptionList
  rw [hdb₁]
  cases hsubs : b.subscriptions with
  | none => exact ⟨db₁, rfl, hother₁, hrefines₁⟩
  | some data =>
    obtain ⟨items, rfl⟩ := h.subscriptions data hsubs
    exact ⟨_, rfl, (other_insertSubscriptions _).trans hother₁,
      refines_insertSubscriptions hrefines₁ rfl _⟩

lemma copied_of_wellFormed (ids : Sql.RowIDs) (h : b.WellFormed) :
    ∃ db, b.migrateTouchBucket ids (b.migrateSystemBucket { other := {} }) = .ok db ∧
      Copied b (b.migrateOutboundsBucket db) := by
  have hempty (key : String) : config { other := {} } key = none := rfl
  have hkeys : Keys (b.migrateSystemBucket { other := {} }) :=
    Keys.migrateSystemBucket ⟨nodup_nil, fun key value h => by cases h⟩
  have hrefines : Refines (b.migrateSystemBucket { other := {} }) {} := by
    rw [migrateSystemBucket_eq]
    exact refines_empty _
  obtain ⟨db, hdb, hother, hlists⟩ := touch_of_wellFormed h hrefines
  have hconfig (key : String) :
      db.config key = (b.migrateSystemBucket { other := {} }).config key := by
    rw [config, config, hother]
  have hnames : db.other.outboundNames = [] := by
    rw [hother, migrateSystemBucket_eq]
  -- the names come first and leave the other tables alone
  obtain ⟨db₁, hdb₁, hconfig₁, hkeys₁, hlists₁, hnames₁⟩ : ∃ db₁,
      b.names.elim db (fun data => migrateOutboundNames data db) = db₁ ∧
        (∀ key, db₁.config key = db.config key) ∧ Keys db₁ ∧
        Refines db₁ { servers := b.serverList
                      subscriptions := b.subscriptionList.map content } ∧
        ∀ n, n ∈ db₁.other.outboundNames ↔
          ∃ data, b.names = some data ∧ (n = "proxy" ∨ Scanned data n) := by
    have hkeys' : Keys db := hkeys.of_other hother
    cases hdata : b.names with
    | none => exact ⟨db, rfl, fun _ => rfl, hkeys', hlists, fun n => by simp [hnames]⟩
    | some data =>
      obtain ⟨names, heq⟩ := migrateOutboundNames_eq db data
      refine ⟨migrateOutboundNames data db, rfl, fun key => ?_, ?_, ?_, fun n => ?_⟩
      · rw [heq]
        rfl
      · rw [heq]
        exact ⟨hkeys'.nodup, hkeys'.isKey⟩
      · rw [heq]
        exact hlists.other _
      · rw [mem_outboundNames_migrateOutboundNames, hnames]
        simp
  refine ⟨db, hdb, ?_⟩
  unfold migrateOutboundsBucket
  rw [hdb₁]
  refine ⟨hkeys₁.foldl_migrateOutbound, ?_, fun k => ?_, fun n key hkey => ?_, fun k => ?_,
    fun n => ?_⟩
  · obtain ⟨hservers, hsubs⟩ := foldl_migrateOutbound_tables db₁ b.outbounds
    have heq : b.outbounds.foldl migrateOutbound db₁ =
        { db₁ with other := (b.outbounds.foldl migrateOutbound db₁).other } := by
      rw [← hservers, ← hsubs]
    rw [heq]
    exact hlists₁.other _
  · rw [config_foldl_migrateOutbound_of_ne fun n key' => makeKey_system_ne_outbound, hconfig₁,
      hconfig, config_migrateSystemBucket, hempty, Option.or_none]
  · rw [config_foldl_migrateOutbound b.nodup_outbounds hkey, hconfig₁, hconfig,
      config_migrateSystemBucket_of_ne fun k => makeKey_system_ne_outbound.symm, hempty,
      Option.or_none]
    rfl
  · rw [config_foldl_migrateOutbound_of_ne fun n key' => makeKey_migration_ne_outbound, hconfig₁,
      hconfig, config_migrateSystemBucket_of_ne fun k => makeKey_migration_ne_system]
    rfl
  · rw [mem_outboundNames_foldl, hnames₁, exists_bucket_iff]
    rfl

/-! #### Update policies -/

/-- The policy that subscriptions without one get. -/
def policy (lax : Lenient) (b : Bolt) : Option (SubscriptionUpdateMode × ℤ) :=
  (b.system.get? "setting").bind (Database.legacyPolicy lax)

/-- A value of the bucket `system` when the mode for all subscriptions has been reset. -/
def systemValue (b : Bolt) (k : String) : Option Text :=
  if k = "setting" then
    (b.system.get? k).map fun data =>
      .json (.obj (Json.setField "subscriptionAutoUpdateMode" (.str "none") (fieldsOf data)))
  else b.system.get? k

/-- The database when subscriptions have policies. -/
structure Updated (lax : Lenient) (b : Bolt) (db : Database) : Prop where
  keys : Keys db
  lists : Refines db
    { servers := b.serverList
      subscriptions := b.subscriptionList.map fun s =>
        (Database.setPolicy (b.policy lax) s.fields.stored, s.servers) }
  system : ∀ k, db.config (makeKey "system" k) = b.systemValue k
  groups : ∀ n key, IsGroupKey key →
    db.config (makeKey (outboundBucket n) key) = if n = "" then none else b.value key n
  mark : db.config Database.autoSelectGroupMigrationKey = none
  names : ∀ n, n ∈ db.other.outboundNames ↔ b.Found n

lemma updated_of_copied (lax : Lenient) (h : b.WellFormed) (hdb : Copied b db) :
    ∃ db', db.migrateSubscriptionUpdatePolicy lax = .ok db' ∧ Updated lax b db' := by
  have hmark : db.config subscriptionUpdateMigrationKey = none :=
    subscriptionUpdateMigrationKey_eq ▸ hdb.marks _
  have hne : autoSelectGroupMigrationKey ≠ subscriptionUpdateMigrationKey := by
    decide
  have hkey : IsKey subscriptionUpdateMigrationKey :=
    subscriptionUpdateMigrationKey_eq ▸ .mark _
  have hsetting := systemSetting_eq ▸ hdb.system "setting"
  cases hget : b.system.get? "setting" with
  | none =>
    rw [hget] at hsetting
    refine ⟨_, migrateSubscriptionUpdatePolicy_of_none hmark hsetting,
      hdb.keys.putConfig hkey, ?_, fun k => ?_, fun n key hgroup => ?_, ?_, hdb.names⟩
    · -- there is no mode, hence no policy
      simp only [policy, hget]
      exact hdb.lists.other _
    · rw [config_putConfig, subscriptionUpdateMigrationKey_eq,
        if_neg makeKey_migration_ne_system.symm, hdb.system, systemValue]
      split_ifs with hk
      · rw [hk, hget, Option.map_none]
      · rfl
    · rw [config_putConfig, subscriptionUpdateMigrationKey_eq,
        if_neg makeKey_migration_ne_outbound.symm, hdb.groups n key hgroup]
    · rw [config_putConfig, autoSelectGroupMigrationKey_eq]
      exact hdb.marks _
  | some data =>
    obtain ⟨l, rfl⟩ := h.systemSetting data hget
    rw [hget] at hsetting
    refine ⟨_, migrateSubscriptionUpdatePolicy_of_setting hmark hsetting, ?_, ?_,
      fun k => ?_, fun n key hgroup => ?_, ?_, hdb.names⟩
    · have hsystem : IsKey "system:setting" := by
        rw [systemSetting_eq]
        exact .system _
      refine Keys.putConfig (Keys.putConfig ?_ hsystem) hkey
      exact hdb.keys.of_other rfl
    · have hlists := hdb.lists.updateSubscriptions
        (setPolicy (legacyPolicy lax (.json (.obj l))))
      rw [map_map] at hlists
      simp only [policy, hget]
      exact hlists.other _
    · rw [config_putConfig, subscriptionUpdateMigrationKey_eq,
        if_neg makeKey_migration_ne_system.symm, config_putConfig, systemSetting_eq,
        systemValue]
      simp only [makeKey_left_inj]
      split_ifs with hk
      · rw [hk, hget]
        rfl
      · exact hdb.system k
    · rw [config_putConfig, subscriptionUpdateMigrationKey_eq, config_putConfig, systemSetting_eq,
        if_neg makeKey_system_ne_outbound.symm]
      exact hdb.groups n key hgroup
    · rw [config_putConfig, if_neg hne, config_putConfig, autoSelectGroupMigrationKey_eq,
        systemSetting_eq]
      exact hdb.marks _

/-! #### Automatic selection -/

/-- The setting of a group in the new database. -/
def settingValue (b : Bolt) (n : String) : Option Text :=
  if n = "proxy" ∧ b.autoSelect.any id then
    some (.json (.obj (Database.automaticFields b.hasManualMembers b.proxyFields)))
  else if n = "" then none
  else b.value "setting" n

/-- The database that the transaction writes. -/
structure Transferred (lax : Lenient) (b : Bolt) (db : Database) : Prop where
  keys : Keys db
  lists : Refines db
    { servers := b.serverList
      subscriptions := b.subscriptionList.map fun s =>
        ({ Database.setPolicy (b.policy lax) s.fields.stored with autoSelect := false }, s.servers) }
  system : ∀ k, db.config (makeKey "system" k) = b.systemValue k
  connectedServers : ∀ n, db.config (makeKey (outboundBucket n) "connectedServers") =
    if n = "" then none else b.value "connectedServers" n
  setting : ∀ n, db.config (makeKey (outboundBucket n) "setting") = b.settingValue n
  names : ∀ n, n ∈ db.other.outboundNames ↔ b.Found n

lemma autoSelect_setPolicy {p : Option (SubscriptionUpdateMode × ℤ)} {fields : SubscriptionFields} :
    (setPolicy p fields).autoSelect = fields.autoSelect := by
  unfold setPolicy
  split
  · rfl
  · split_ifs <;> rfl

lemma Updated.autoSelects (hdb : Updated lax b db) : db.autoSelects = b.autoSelect := by
  have hlists := congrArg (map fun s => s.1.autoSelect) hdb.lists.subscriptions
  simp only [map_map, Function.comp_def, autoSelect_setPolicy] at hlists
  rw [Database.autoSelects, Sql.NumberedFrom.orderBySort_eq hdb.lists.subscriptionSort]
  exact hlists

/-- A list of references that can be verified can be read for its automatic members. -/
lemma decodes_touchesFields {j : Json} (h : j.decodes connectedFields) :
    j.decodes touchesFields := by
  refine Json.decodes_mono (fun c hc => ?_) h
  obtain rfl := mem_singleton.mp hc
  refine ⟨_, mem_singleton_self _, rfl, fun j => Json.isArrayOf_mono fun j => ?_⟩
  -- two of the four fields of a reference are read
  refine Json.decodes_mono fun c hc => ⟨c, ?_, rfl, fun _ => id⟩
  have hsub : [("_type", Json.isString), ("sub", Json.isInt)] ⊆ whichFields := by
    simp [whichFields]
  exact hsub hc

lemma Updated.proxyHasManualMembers (h : b.WellFormed) (hdb : Updated lax b db) :
    db.proxyHasManualMembers db.autoSelects = .ok b.hasManualMembers := by
  rw [Database.proxyHasManualMembers, proxyConnectedServers_eq, hdb.groups _ _ (.inr rfl),
    if_neg (by decide), hdb.autoSelects, hasManualMembers]
  cases hvalue : b.value "connectedServers" "proxy" with
  | none => rfl
  | some data =>
    obtain ⟨j, rfl, hj⟩ := h.connectedServers _ data hvalue
    have hread : (Text.json j).unmarshal Database.touchesFields = .ok j :=
      if_pos (decodes_touchesFields hj)
    simp only [hread]

lemma transferred_of_updated (h : b.WellFormed) (hdb : Updated lax b db) :
    ∃ db', db.migrateAutoSelectToAutomaticGroup lax = .ok db' ∧ Transferred lax b db' := by
  have hkey : IsKey autoSelectGroupMigrationKey :=
    autoSelectGroupMigrationKey_eq ▸ .mark _
  by_cases hauto : b.autoSelect.any id = true
  · -- the setting of `proxy` is an object, whether it was there or not
    have hproxy : (db.config "outbound.proxy:setting").getD defaultProxySetting =
        .json (.obj b.proxyFields) := by
      rw [proxySetting_eq, hdb.groups _ _ (.inl rfl), proxyFields]
      cases hvalue : b.value "setting" "proxy" with
      | none => rfl
      | some data =>
        obtain ⟨l, rfl, -⟩ := h.setting _ data hvalue
        rfl
    refine ⟨_, migrateAutoSelectToAutomaticGroup_of_automatic hdb.mark
      (hdb.autoSelects ▸ hauto) (hdb.proxyHasManualMembers h) hproxy, ?_, ?_, fun k => ?_,
      fun n => ?_, fun n => ?_, hdb.names⟩
    · have hproxyKey : IsKey "outbound.proxy:setting" := by
        rw [proxySetting_eq]
        exact .outbound _ _
      exact Keys.putConfig ((hdb.keys.putConfig hproxyKey).of_other rfl) hkey
    · have hlists := hdb.lists.updateSubscriptions fun s => { s with autoSelect := false }
      rw [map_map] at hlists
      exact hlists.other _
    · rw [config_putConfig, autoSelectGroupMigrationKey_eq]
      refine config_putConfig.trans ?_
      rw [proxySetting_eq, if_neg makeKey_system_ne_outbound, hdb.system]
    · rw [config_putConfig, autoSelectGroupMigrationKey_eq]
      refine config_putConfig.trans ?_
      rw [proxySetting_eq, if_neg makeKey_connectedServers_ne, hdb.groups _ _ (.inr rfl)]
    · rw [config_putConfig, autoSelectGroupMigrationKey_eq]
      refine config_putConfig.trans ?_
      rw [proxySetting_eq, settingValue, hdb.groups _ _ (.inl rfl)]
      simp [makeKey_inj, outboundBucket_inj, hauto]
  · have hauto : b.autoSelect.any id = false := by simpa using hauto
    refine ⟨_, migrateAutoSelectToAutomaticGroup_of_manual hdb.mark
      (hdb.autoSelects ▸ hauto), hdb.keys.putConfig hkey, ?_, fun k => ?_, fun n => ?_, fun n => ?_,
      hdb.names⟩
    · -- no flag was set
      refine (congrArg (Refines _) ?_).mp (hdb.lists.other _)
      congr 1
      refine map_congr_left fun s hs => ?_
      have hoff : (setPolicy (b.policy lax) s.fields.stored).autoSelect = false := by
        rw [autoSelect_setPolicy]
        have hmem : s.fields.autoSelect ∈ b.autoSelect := mem_map_of_mem hs
        have hoff : s.fields.autoSelect = false := by
          simpa using any_eq_false.mp hauto _ hmem
        exact hoff
      rw [← hoff]
    · rw [config_putConfig, autoSelectGroupMigrationKey_eq,
        if_neg makeKey_migration_ne_system.symm, hdb.system]
    · rw [config_putConfig, autoSelectGroupMigrationKey_eq,
        if_neg makeKey_migration_ne_outbound.symm, hdb.groups _ _ (.inr rfl)]
    · rw [config_putConfig, autoSelectGroupMigrationKey_eq,
        if_neg makeKey_migration_ne_outbound.symm, hdb.groups _ _ (.inl rfl), settingValue]
      simp [hauto]

lemma transferred_of_wellFormed (ids : Sql.RowIDs) (lax : Lenient) (h : b.WellFormed) :
    ∃ db, b.transfer ids lax = .ok db ∧ Transferred lax b db := by
  obtain ⟨db₁, hdb₁, hcopied⟩ := copied_of_wellFormed ids h
  obtain ⟨db₂, hdb₂, hupdated⟩ := updated_of_copied lax h hcopied
  obtain ⟨db₃, hdb₃, htransferred⟩ := transferred_of_updated h hupdated
  refine ⟨db₃, ?_, htransferred⟩
  unfold transfer
  simp only [hdb₁, Except.mapError, bind, Except.bind, hdb₂, hdb₃]

end Transfer

/-! ### When the migration is complete -/

section Complete

variable {ids : Sql.RowIDs} {lax : Lenient} {b : Bolt} {db : Database}
  {read : List UInt8 → List String}

lemma verifyCount_eq_ok {what : String} {n : ℕ} : verifyCount what n n = .ok () :=
  if_neg fun h => h rfl

lemma verifyOutbound_eq_ok_iff (db : Database) {n key : String} {value : Option Text}
    (hvalue : ∀ data, value = some data → verifyOutboundValue key data = .ok ()) :
    verifyOutbound db n key value = .ok () ↔
      ∀ data, value = some data → db.config (makeKey (outboundBucket n) key) = some data := by
  cases value with
  | none => simp [verifyOutbound]
  | some data =>
    have hdata := hvalue data rfl
    rw [verifyOutbound]
    cases db.config (makeKey (outboundBucket n) key) with
    | none => simp
    | some migrated =>
      by_cases heq : migrated = data
      · simp [heq, hdata, Except.mapError]
      · simp [heq]

lemma verifyOutboundValue_of_wellFormed (h : b.WellFormed) {n key : String} (hkey : IsGroupKey key)
    {data : Text} (hdata : b.value key n = some data) : verifyOutboundValue key data = .ok () := by
  rcases hkey with rfl | rfl
  · obtain ⟨l, rfl, hl⟩ := h.setting n data hdata
    simp [verifyOutboundValue, Text.unmarshal, hl, Except.map]
  · obtain ⟨j, rfl, hj⟩ := h.connectedServers n data hdata
    simp [verifyOutboundValue, Text.unmarshal, hj, Except.map]

lemma verifyBucket_eq_ok_iff (h : b.WellFormed) {e : String × OutboundBucket}
    (he : e ∈ b.outbounds) :
    verifyBucket db e = .ok () ↔ ∀ key, IsGroupKey key → ∀ data, b.value key e.1 = some data →
      db.config (makeKey (outboundBucket e.1) key) = some data := by
  have hvalue (key : String) : b.value key e.1 = e.2.value key := by
    rw [value, (get?_eq_some_iff b.nodup_outbounds).mpr he]
    rfl
  have hsetting := verifyOutbound_eq_ok_iff db (n := e.1) fun data hdata =>
    verifyOutboundValue_of_wellFormed h (.inl rfl) ((hvalue "setting").trans hdata)
  have hconnected := verifyOutbound_eq_ok_iff db (n := e.1) fun data hdata =>
    verifyOutboundValue_of_wellFormed h (.inr rfl) ((hvalue "connectedServers").trans hdata)
  rw [verifyBucket, Except.bind_eq_ok_iff]
  constructor
  · rintro ⟨⟨⟩, hs, hc⟩ key (rfl | rfl) data hdata
    · exact hsetting.mp hs data ((hvalue _).symm.trans hdata)
    · exact hconnected.mp hc data ((hvalue _).symm.trans hdata)
  · intro hall
    exact ⟨(), hsetting.mpr fun data hdata => hall _ (.inl rfl) data ((hvalue _).trans hdata),
      hconnected.mpr fun data hdata => hall _ (.inr rfl) data ((hvalue _).trans hdata)⟩

lemma Transferred.verifyServers (h : b.WellFormed) (hdb : Transferred lax b db) :
    (b.servers.elim (.ok ()) fun data =>
      verifyCount "server" (countItems data) db.serverRows.length) = .ok () := by
  cases hdata : b.servers with
  | none => rfl
  | some data =>
    obtain ⟨items, rfl⟩ := h.servers data hdata
    have hlength := congrArg length hdb.lists.servers
    rw [length_map, serverList, hdata] at hlength
    rw [hlength]
    exact verifyCount_eq_ok

lemma Transferred.verifySubscriptions (h : b.WellFormed) (hdb : Transferred lax b db) :
    (b.subscriptions.elim (.ok ()) fun data =>
      verifyCount "subscription" (countItems data) db.subscriptionRows.length) = .ok () := by
  cases hdata : b.subscriptions with
  | none => rfl
  | some data =>
    obtain ⟨items, rfl⟩ := h.subscriptions data hdata
    have hlength := congrArg length hdb.lists.subscriptions
    rw [length_map, subscriptionList, hdata, length_map, length_map] at hlength
    rw [hlength]
    exact verifyCount_eq_ok

/-- The database passes if the values of the groups are those that there were. -/
lemma verifyMigration_eq_ok_iff (h : b.WellFormed) (hdb : Transferred lax b db) :
    b.verifyMigration db = .ok () ↔ ∀ n key, IsGroupKey key → ∀ data, b.value key n = some data →
      db.config (makeKey (outboundBucket n) key) = some data := by
  have hsystem : verifyCount "system config" b.system.length (countSystem db) = .ok () := by
    rw [hdb.keys.countSystem_eq fun k => ?_]
    · exact verifyCount_eq_ok
    · rw [hdb.system, systemValue]
      split_ifs <;> simp
  -- the numbers of rows are always right
  have hverify : b.verifyMigration db = b.outbounds.forM (verifyBucket db) := by
    unfold verifyMigration
    rw [hsystem, hdb.verifyServers h, hdb.verifySubscriptions h]
    rfl
  rw [hverify]
  refine Except.forM_eq_ok_iff.trans ⟨fun hall n key hkey data hdata => ?_, fun hall e he => ?_⟩
  · obtain ⟨bucket, hget, -⟩ := Option.bind_eq_some_iff.mp hdata
    have hmem := mem_of_get? hget
    exact (verifyBucket_eq_ok_iff h hmem).mp (hall _ hmem) key hkey data hdata
  · exact (verifyBucket_eq_ok_iff h he).mpr (hall e.1)

/-- What the old database has to be like. -/
structure Transferable (read : List UInt8 → List String) (b : Bolt) : Prop where
  /-- There are no accounts. -/
  accounts : b.accounts = []
  /-- The mode for all subscriptions is `none`. -/
  mode : ∀ l, b.system.get? "setting" = some (.json (.obj l)) →
    (Json.obj l).get? "subscriptionAutoUpdateMode" = some (.str "none")
  /-- If a subscription selects nodes automatically, the group `proxy` has no setting, or one that
  reads as if it had been rewritten. -/
  automatic : b.autoSelect.any id → ∀ l, b.value "setting" "proxy" = some (.json (.obj l)) →
    Database.IsAutomatic b.hasManualMembers l
  /-- What has a bucket with values is a group, with a name that is not empty. -/
  named : ∀ n key, IsGroupKey key → (b.value key n).isSome → n ≠ "" ∧ n ∈ b.groups read
  /-- What is taken for a name is one. -/
  scanned : ∀ data, b.names = some data → ∀ n, Scanned data n → n ∈ b.groups read
  /-- A group other than `proxy` has a bucket with values, or its name is found. -/
  found : ∀ n ∈ b.groups read, n = "proxy" ∨ (∃ key, IsGroupKey key ∧ (b.value key n).isSome) ∨
    ∃ data, b.names = some data ∧ Scanned data n

section

variable (hdb : Transferred lax b db)
include hdb

lemma Transferred.account_eq (username : String) :
    account db username = none := by
  have hnone (key : String) (hkey : ¬IsKey key) : db.config key = none :=
    Option.eq_none_iff_forall_ne_some.mpr fun value h => hkey (hdb.keys.isKey key value h)
  have haccounts : ¬IsKey (makeKey "accounts" username) := by
    intro h
    generalize hkey : makeKey "accounts" username = key at h
    have hhead := congrArg (fun s : String => s.toList.head?) hkey
    cases h <;> simp [makeKey, outboundBucket] at hhead
  rw [account, hnone _ haccounts]
  split_ifs with hcolon
  · rfl
  · exact hnone _ fun h => hcolon (colon_mem_of_isKey h)

lemma Transferred.setting_eq_of_ne {n : String} (hn : n ≠ "")
    (hauto : n = "proxy" → ¬b.autoSelect.any id) :
    db.config (makeKey (outboundBucket n) "setting") = b.value "setting" n := by
  rw [hdb.setting, settingValue, if_neg fun h => hauto h.1 h.2, if_neg hn]

lemma Transferred.setting_automatic (hauto : b.autoSelect.any id) :
    db.config (makeKey (outboundBucket "proxy") "setting") =
      some (.json (.obj (automaticFields b.hasManualMembers b.proxyFields))) := by
  rw [hdb.setting, settingValue, if_pos ⟨rfl, hauto⟩]

lemma transferable_of_complete
    (hverify : ∀ n key, IsGroupKey key → ∀ data, b.value key n = some data →
      db.config (makeKey (outboundBucket n) key) = some data)
    (hcomplete : Complete read b db) : Transferable read b := by
  have hgroup {n : String} (hfound : b.Found n) : n ∈ b.groups read :=
    (hcomplete.names n).mp (mem_cons_of_mem _ ((hdb.names n).mpr hfound))
  refine ⟨?_, fun l hl => ?_, fun hauto l hl => ?_, fun n key hkey hsome => ?_,
    fun data hdata n hn => hgroup (.inl ⟨data, hdata, .inr hn⟩), fun n hn => ?_⟩
  · -- accounts are not copied
    cases haccounts : b.accounts with
    | nil => rfl
    | cons e l =>
      have hget := hcomplete.accounts e.1
      rw [hdb.account_eq, haccounts, get?_cons, if_pos rfl] at hget
      cases hget
  · have hsystem := hcomplete.system "setting"
    rw [hdb.system, systemValue, hl] at hsystem
    have hfields := Json.obj.inj (Text.json.inj (Option.some.inj hsystem))
    exact Json.setField_eq_self_iff.mp hfields
  · have hsetting := hverify _ _ (.inl rfl) _ hl
    have hfields : b.proxyFields = l := by rw [proxyFields, hl]; rfl
    rw [hdb.setting_automatic hauto, hfields] at hsetting
    exact automaticFields_eq_self_iff.mp
      (Json.obj.inj (Text.json.inj (Option.some.inj hsetting)))
  · have hn : n ≠ "" := by
      rintro rfl
      obtain ⟨data, hdata⟩ := Option.isSome_iff_exists.mp hsome
      have hconfig := hverify _ _ hkey _ hdata
      rcases hkey with rfl | rfl
      · rw [hdb.setting, settingValue, if_pos rfl] at hconfig
        cases hconfig
      · rw [hdb.connectedServers] at hconfig
        cases hconfig
    exact ⟨hn, hgroup (.inr ⟨hn, key, hkey, hsome⟩)⟩
  · rcases mem_cons.mp ((hcomplete.names n).mpr hn) with hproxy | hmem
    · exact .inl hproxy
    · rcases (hdb.names n).mp hmem with ⟨data, hdata, hproxy | hscanned⟩ | ⟨-, hvalue⟩
      · exact .inl hproxy
      · exact .inr (.inr ⟨data, hdata, hscanned⟩)
      · exact .inr (.inl hvalue)

end

section

variable (h : b.WellFormed) (htransferable : Transferable read b)
include h htransferable

lemma verified_of_transferable (hdb : Transferred lax b db) : ∀ n key, IsGroupKey key → ∀ data,
      b.value key n = some data → db.config (makeKey (outboundBucket n) key) = some data := by
  rintro n key hkey data hdata
  have hn := (htransferable.named n key hkey (Option.isSome_iff_exists.mpr ⟨data, hdata⟩)).1
  rcases hkey with rfl | rfl
  · by_cases hauto : n = "proxy" ∧ b.autoSelect.any id
    · obtain ⟨rfl, hauto⟩ := hauto
      obtain ⟨l, rfl, -⟩ := h.setting _ _ hdata
      have hfields : b.proxyFields = l := by rw [proxyFields, hdata]; rfl
      rw [hdb.setting_automatic hauto, hfields,
        automaticFields_eq_self_iff.mpr (htransferable.automatic hauto l hdata)]
    · rw [hdb.setting_eq_of_ne hn fun hproxy hany => hauto ⟨hproxy, hany⟩, hdata]
  · rw [hdb.connectedServers, if_neg hn, hdata]

lemma policy_eq_none : b.policy lax = none := by
  unfold policy
  cases hget : b.system.get? "setting" with
  | none => rfl
  | some data =>
    obtain ⟨l, rfl⟩ := h.systemSetting data hget
    have hmode : Text.get lax "subscriptionAutoUpdateMode" (.json (.obj l)) = .str "none" := by
      rw [Text.get, htransferable.mode l hget]
      rfl
    rw [Option.bind_some, legacyPolicy, hmode]
    rfl

lemma systemValue_eq (k : String) : b.systemValue k = b.system.get? k := by
  unfold systemValue
  split_ifs with hk
  · subst hk
    cases hget : b.system.get? "setting" with
    | none => rfl
    | some data =>
      obtain ⟨l, rfl⟩ := h.systemSetting data hget
      rw [Option.map_some, fieldsOf, Json.setField_eq_self_iff.mpr (htransferable.mode l hget)]
  · rfl

lemma complete_of_transferable (hdb : Transferred lax b db) : Complete read b db := by
  have hempty {key : String} (hkey : IsGroupKey key) : b.value key "" = none := by
    by_contra hne
    exact (htransferable.named _ key hkey (Option.isSome_iff_ne_none.mpr hne)).1 rfl
  refine ⟨hdb.lists.serversGetAll, ?_, fun k => ?_, fun username => ?_, fun n => ?_, fun n hn => ?_,
    hdb.setting_automatic, fun n => ?_⟩
  · have hcontents := congrArg (map fun s => contentOf s.1 s.2) hdb.lists.contents
    rw [map_map, policy_eq_none h htransferable, map_map] at hcontents
    refine hcontents.trans (map_congr_left fun s _ => ?_)
    -- what is stored is stored again as it is
    have hstored := s.fields.stored_stored
    refine Prod.ext ?_ rfl
    exact congrArg (fun fields : SubscriptionFields => { fields with autoSelect := false }) hstored
  · rw [hdb.system, systemValue_eq h htransferable]
  · rw [hdb.account_eq, htransferable.accounts]
    rfl
  · rw [hdb.connectedServers]
    split_ifs with hn
    · rw [hn, hempty (.inr rfl)]
    · rfl
  · by_cases hname : n = ""
    · rw [hdb.setting, settingValue, if_neg fun h => hn h.1 h.2, if_pos hname, hname,
        hempty (.inl rfl)]
    · exact hdb.setting_eq_of_ne hname hn
  · rw [mem_cons, hdb.names]
    constructor
    · rintro (rfl | ⟨data, hdata, rfl | hscanned⟩ | ⟨-, key, hkey, hsome⟩)
      · exact mem_cons_self
      · exact mem_cons_self
      · exact htransferable.scanned data hdata n hscanned
      · exact (htransferable.named n key hkey hsome).2
    · intro hn
      rcases htransferable.found n hn with hproxy | ⟨key, hkey, hsome⟩ | ⟨data, hdata, hscanned⟩
      · exact .inl hproxy
      · exact .inr (.inr ⟨(htransferable.named n key hkey hsome).1, key, hkey, hsome⟩)
      · exact .inr (.inl ⟨data, hdata, .inr hscanned⟩)

end

/-- The migration succeeds and the new database has the content of the old one if and only if there
are no accounts, no mode for all subscriptions and no setting of `proxy` to rewrite, and the names of
the groups are those that can be found. -/
theorem migrates_iff {files : Files} (hbolt : files.bolt = some b)
    (hsqlite : files.sqlite.any sqliteHoldsData = false) (h : b.WellFormed) :
    (∃ files' db, migrateFromBoltDB ids lax files = (none, files') ∧ files'.sqlite = some db ∧
      Complete read b db) ↔ Transferable read b := by
  obtain ⟨db, hdb, htransferred⟩ := transferred_of_wellFormed ids lax h
  have hverify := verifyMigration_eq_ok_iff h htransferred
  have hrun : migrateFromBoltDB ids lax files =
      match b.verifyMigration db with
      | .error err =>
        (some (err.wrap "migration verification failed"), { files with sqlite := none })
      | .ok () => (none, { bolt := none, sqlite := some db, backups := b :: files.backups }) := by
    simp only [migrateFromBoltDB, hbolt, hsqlite, hdb]
    rfl
  constructor
  · rintro ⟨files', db', hmigrate, hsome, hcomplete⟩
    rw [hrun] at hmigrate
    cases hresult : b.verifyMigration db with
    | error err =>
      rw [hresult] at hmigrate
      cases hmigrate
    | ok u =>
      rw [hresult] at hmigrate
      cases hmigrate
      cases hsome
      exact transferable_of_complete htransferred (hverify.mp hresult) hcomplete
  · intro htransferable
    have hok := hverify.mpr (verified_of_transferable h htransferable htransferred)
    refine ⟨{ bolt := none, sqlite := some db, backups := b :: files.backups }, db, ?_, rfl,
      complete_of_transferable h htransferable htransferred⟩
    rw [hrun, hok]

end Complete

/-- A server, a subscription with two nodes, and two groups with members and settings. The name of
one of them is found in the value for the names. -/
def twoGroupsBolt : Bolt where
  system := [("setting", .json (.obj [("subscriptionAutoUpdateMode", .str "none")]))]
  servers := some (.json (.arr [.obj [("protocol", .str "vmess")]]))
  subscriptions := some (.json (.arr [.obj [("address", .str "https://example.test/subscription"),
    ("servers", .arr [.obj [], .obj []])]]))
  names := some [6, 115, 101, 99, 111, 110, 100, 0]
  outbounds := [
    ("proxy", { connectedServers := some (.json (.obj [("touches", .arr [.obj [
      ("_type", .str "subscriptionServer"), ("id", .num 1), ("sub", .num 0)]])])) }),
    ("backup", { setting := some (.json (.obj [("probeInterval", .str "45s")])) })]

lemma wellFormed_twoGroupsBolt : twoGroupsBolt.WellFormed := by
  refine ⟨?_, ?_, ?_, fun n data h => ?_, fun n data h => ?_⟩
  · rintro data ⟨⟩
    exact ⟨_, rfl⟩
  · rintro data ⟨⟩
    exact ⟨_, rfl⟩
  · rintro data ⟨⟩
    exact ⟨_, rfl⟩
  · simp only [value, twoGroupsBolt, get?_cons] at h
    split_ifs at h
    · cases h
    · cases h
      exact ⟨_, rfl, by decide⟩
    · cases h
  · simp only [value, twoGroupsBolt, get?_cons] at h
    split_ifs at h
    · cases h
      exact ⟨_, rfl, by decide⟩
    · cases h
    · cases h

theorem migrates_twoGroupsBolt : ∃ files' db,
    migrateFromBoltDB sequentialIDs Text.strict { bolt := some twoGroupsBolt } = (none, files') ∧
      files'.sqlite = some db ∧ Complete (fun _ => ["second", "backup"]) twoGroupsBolt db := by
  refine (migrates_iff rfl rfl wellFormed_twoGroupsBolt).mpr
    ⟨rfl, ?_, fun h => absurd h (by decide), fun n key hkey hsome => ?_, ?_, fun n hn => ?_⟩
  · rintro l ⟨⟩
    rfl
  · simp only [value, twoGroupsBolt, get?_cons] at hsome
    split_ifs at hsome with hproxy hbackup
    · subst hproxy
      decide
    · subst hbackup
      decide
    · cases hsome
  · rintro data ⟨⟩ n hn
    have hmem := mem_extractStringsFromGob_iff.mpr hn
    obtain rfl := mem_singleton.mp hmem
    decide
  · have hn : n ∈ ["proxy", "second", "backup"] := hn
    simp only [mem_cons, not_mem_nil, or_false] at hn
    rcases hn with rfl | rfl | rfl
    · exact .inl rfl
    · exact .inr (.inr ⟨_, rfl, mem_extractStringsFromGob_iff.mp (by decide)⟩)
    · exact .inr (.inl ⟨"setting", .inl rfl, by decide⟩)

/-- A subscription selects its node automatically, and the group `proxy` has a setting. -/
def autoSelectBolt : Bolt where
  subscriptions := some (.json (.arr [.obj [("address", .str "https://example.test/subscription"),
    ("autoSelect", .bool true), ("servers", .arr [.obj [], .obj []])]]))
  outbounds := [("proxy", { setting := some (.json (.obj [
    ("probeURL", .str "https://example.test/ping"), ("probeInterval", .str "45s"),
    ("type", .str "leastping")])) })]

/-- The setting is rewritten and then found to differ. -/
theorem not_migrates_autoSelectBolt : autoSelectBolt.WellFormed ∧
    (migrateFromBoltDB sequentialIDs Text.strict { bolt := some autoSelectBolt }).1 = some
      { text := "migration verification failed: " ++
          "outbound config mismatch for outbound.proxy:setting" } := by
  refine ⟨⟨fun data h => ?_, ?_, fun data h => ?_, fun n data h => ?_, fun n data h => ?_⟩,
    by decide +kernel⟩
  · cases h
  · rintro data ⟨⟩
    exact ⟨_, rfl⟩
  · cases h
  · simp only [value, autoSelectBolt, get?_cons] at h
    split_ifs at h
    · cases h
      exact ⟨_, rfl, by decide⟩
    · cases h
  · simp only [value, autoSelectBolt, get?_cons] at h
    split_ifs at h <;> cases h

end Bolt

end V2rayA
