import V2rayA.Db.ListOp
import V2rayA.Db.PlainOp
import V2rayA.Encoding.Json
import V2rayA.Go.Map

/-!
# Data of earlier releases

Two passes over the database bring data of earlier releases up to date: subscriptions get update
policies of their own, and subscriptions that selected a node automatically make the group `proxy`
an automatic one. Each pass leaves a mark in `system_config` and does nothing once it is there.

Both `MigrateFromBoltDB` and `MigrateSchema` end with these passes.

* `migrateSubscriptionUpdatePolicy_of_setting`, `migrateAutoSelectToAutomaticGroup_of_automatic`:
  what the passes do.
* `migrateSubscriptionUpdatePolicy_of_mark`, `migrateAutoSelectToAutomaticGroup_of_mark`: they run
  once.
-/

namespace V2rayA

open Json

/-- The text of a value: a document, or something that is not JSON. -/
inductive Text
  | json (j : Json)
  | malformed (s : String)
  deriving DecidableEq, Inhabited

/-- What `gjson` and `sjson` make of a text that is not JSON. -/
structure Lenient where
  get : String → String → Json
  set : String → String → Json → Except Go.Error Text

namespace Text

/-- `gjson.Get`; what is not there reads as `null`. -/
def get (lax : Lenient) (key : String) : Text → Json
  | json j => (j.get? key).getD .null
  | malformed s => lax.get s key

/-- `sjson.Set`. -/
def set (lax : Lenient) (key : String) (value : Json) : Text → Except Go.Error Text
  | json j =>
    match j.set key value with
    | some j' => .ok (json j')
    | none => .error { text := "cannot set array element for non-numeric key '" ++ key ++ "'" }
  | malformed s => lax.set s key value

/-- `json.Unmarshal` into a structure whose fields have the types that are given. The text of the
error is not modelled. -/
def unmarshal (fields : List (String × (Json → Bool))) : Text → Except Go.Error Json
  | json j =>
    if j.decodes fields then .ok j else .error { text := "json: cannot unmarshal the value" }
  | malformed _ => .error { text := "json: invalid text" }

/-- A text that is not JSON cannot be written to. -/
def strict : Lenient where
  get _ _ := .null
  set _ _ _ := .error { text := "json must be an object or array" }

end Text

/-- The tables `system_config` and `outbound_names`. -/
structure ConfigTables where
  systemConfig : Go.Map String Text := []
  outboundNames : List String := []

/-- The database. -/
abbrev Database : Type := Db Json ConfigTables

namespace Database

/-- The value at a key of `system_config`. -/
def config (db : Database) (key : String) : Option Text := db.other.systemConfig.get? key

/-- `INSERT OR REPLACE INTO system_config`. -/
def putConfig (db : Database) (key : String) (value : Text) : Database :=
  { db with other := { db.other with systemConfig := db.other.systemConfig.put key value } }

/-- `INSERT OR IGNORE INTO outbound_names`. -/
def addName (db : Database) (name : String) : Database :=
  { db with other := { db.other with outboundNames := db.other.outboundNames.insert name } }

/-! ### Update policies -/

/-- The mark of `migrateSubscriptionUpdatePolicy`. -/
def subscriptionUpdateMigrationKey : String := "migration:subscription_update_policy_v1"

/-- The policy of a subscription for the mode that all subscriptions had. -/
def policyOf (legacyMode : String) (hours : ℤ) : Option (SubscriptionUpdateMode × ℤ) :=
  if legacyMode = "auto_update" then some (.onStart, 0)
  else if legacyMode = "auto_update_at_intervals" then
    some (.atInterval, (if hours ≤ 0 then 1 else hours) * 60)
  else none

/-- `UPDATE subscriptions SET update_mode, update_interval_minutes WHERE update_mode = 'disabled'`,
if there is a mode. -/
def setPolicy (policy : Option (SubscriptionUpdateMode × ℤ)) (fields : SubscriptionFields) :
    SubscriptionFields :=
  match policy with
  | none => fields
  | some (mode, minutes) =>
    if fields.updateMode = .disabled then
      { fields with updateMode := mode, updateIntervalMinutes := minutes }
    else fields

/-- The policy that the settings of the program stand for. -/
def legacyPolicy (lax : Lenient) (setting : Text) : Option (SubscriptionUpdateMode × ℤ) :=
  policyOf (setting.get lax "subscriptionAutoUpdateMode").asString
    (setting.get lax "subscriptionAutoUpdateIntervalHour").asInt

/-- `migrateSubscriptionUpdatePolicy`. -/
def migrateSubscriptionUpdatePolicy (lax : Lenient) (db : Database) :
    Except Go.Error Database :=
  if (db.config subscriptionUpdateMigrationKey).isSome then .ok db
  else do
    let db ← match db.config "system:setting" with
      | none => .ok db
      | some setting =>
        let policy := legacyPolicy lax setting
        let db := { db with subscriptions := db.subscriptions.updateAll (setPolicy policy) }
        if setting = .malformed "" then .ok db
        else
          match setting.set lax "subscriptionAutoUpdateMode" (.str "none") with
          | .error err => .error (err.wrap "reset legacy subscription update mode")
          | .ok setting => .ok (putConfig db "system:setting" setting)
    .ok (db.putConfig subscriptionUpdateMigrationKey (.json (.num 1)))

/-! ### Automatic selection -/

/-- The mark of `migrateAutoSelectToAutomaticGroup`. -/
def autoSelectGroupMigrationKey : String := "migration:auto_select_group_v1"

/-- The column `auto_select` in the order of the subscriptions. -/
def autoSelects (db : Database) : List Bool :=
  (Sql.orderBySort db.subscriptionRows).map fun r => r.data.autoSelect

/-- Whether a reference is not to a node of a subscription with automatic selection. -/
def isManual (autoSelect : List Bool) : Json → Bool
  | .null => true
  | ref =>
    let sub := (ref.field "sub").asInt
    (ref.field "_type").asString ≠ "subscriptionServer" || sub < 0 || autoSelect.length ≤ sub ||
      !autoSelect.getD sub.toNat false

/-- The fields of a list of references that `proxyHasManualMembers` reads. -/
def touchesFields : List (String × (Json → Bool)) :=
  [("touches", Json.isArrayOf (Json.decodes [("_type", Json.isString), ("sub", Json.isInt)]))]

/-- `proxyHasManualMembers`. -/
def proxyHasManualMembers (db : Database) (autoSelect : List Bool) : Except Go.Error Bool :=
  match db.config "outbound.proxy:connectedServers" with
  | none => .ok false
  | some raw =>
    match raw.unmarshal touchesFields with
    | .error err => .error (err.wrap "read PROXY members for auto-select migration")
    | .ok connections => .ok ((connections.field "touches").asArray.any (isManual autoSelect))

/-- The setting of the group `proxy` if there is none. -/
def defaultProxySetting : Text :=
  .json (.obj [("probeURL", .str "https://www.gstatic.com/generate_204"),
    ("probeInterval", .str "300s"), ("type", .str "leastping")])

/-- Write a field of the setting of `proxy`. -/
def setProxy (lax : Lenient) (what key : String) (value : Json) (setting : Text) :
    Except Go.Error Text :=
  (setting.set lax key value).mapError (Go.Error.wrap what)

/-- Write a field of the setting of `proxy` that counts as not set, unless there are manual
members. -/
def fillProxy (lax : Lenient) (manual : Bool) (what key : String) (unset : List String)
    (value : String) (setting : Text) : Except Go.Error Text :=
  if !manual && (setting.get lax key).asString ∈ unset then
    setProxy lax what key (.str value) setting
  else .ok setting

/-- The setting of the group `proxy` as `migrateAutoSelectToAutomaticGroup` rewrites it. -/
def automaticSetting (lax : Lenient) (manual : Bool) (setting : Text) : Except Go.Error Text := do
  let setting ← fillProxy lax manual "set automatic PROXY probe URL" "probeURL" [""]
    "https://www.gstatic.com/generate_204" setting
  let setting ← fillProxy lax manual "set automatic PROXY interval" "probeInterval" ["", "60s"]
    "300s" setting
  let setting ← fillProxy lax manual "set automatic PROXY type" "type" [""] "leastping" setting
  setProxy lax "migrate automatic PROXY membership" "autoAdd" (.bool !manual) setting

/-- `migrateAutoSelectToAutomaticGroup`. -/
def migrateAutoSelectToAutomaticGroup (lax : Lenient) (db : Database) :
    Except Go.Error Database :=
  if (db.config autoSelectGroupMigrationKey).isSome then .ok db
  else do
    let autoSelect := db.autoSelects
    let db ←
      if autoSelect.any id then do
        let manual ← db.proxyHasManualMembers autoSelect
        let setting ← automaticSetting lax manual
          ((db.config "outbound.proxy:setting").getD defaultProxySetting)
        let db := db.putConfig "outbound.proxy:setting" setting
        .ok { db with
          subscriptions := db.subscriptions.updateAll fun s => { s with autoSelect := false } }
      else .ok db
    .ok (db.putConfig autoSelectGroupMigrationKey (.json (.num 1)))

end Database

/-! ### Keys -/

section Keys

variable {k n key : String}

lemma makeKey_system_ne_outbound : makeKey "system" k ≠ makeKey (outboundBucket n) key :=
  ne_of_head?_ne (by simp [makeKey, outboundBucket])

lemma makeKey_migration_ne_system : makeKey "migration" k ≠ makeKey "system" n :=
  ne_of_head?_ne (by simp [makeKey])

lemma makeKey_migration_ne_outbound : makeKey "migration" k ≠ makeKey (outboundBucket n) key :=
  ne_of_head?_ne (by simp [makeKey, outboundBucket])

lemma makeKey_left_inj {bucket : String} : makeKey bucket k = makeKey bucket n ↔ k = n := by
  simp [makeKey]

/-- The two keys of a group. -/
def IsGroupKey (key : String) : Prop := key = "setting" ∨ key = "connectedServers"

lemma makeKey_group_inj {key' : String} (hkey : IsGroupKey key) (hkey' : IsGroupKey key') :
    makeKey (outboundBucket k) key = makeKey (outboundBucket n) key' ↔ k = n ∧ key = key' := by
  rcases hkey with rfl | rfl <;> rcases hkey' with rfl | rfl
  · simp [makeKey_inj, outboundBucket_inj]
  · simp [makeKey_connectedServers_ne.symm]
  · simp [makeKey_connectedServers_ne]
  · simp [makeKey_inj, outboundBucket_inj]

lemma systemSetting_eq : "system:setting" = makeKey "system" "setting" := by decide

lemma subscriptionUpdateMigrationKey_eq :
    Database.subscriptionUpdateMigrationKey = makeKey "migration" "subscription_update_policy_v1" := by
  decide

lemma autoSelectGroupMigrationKey_eq :
    Database.autoSelectGroupMigrationKey = makeKey "migration" "auto_select_group_v1" := by
  decide

lemma proxySetting_eq : "outbound.proxy:setting" = makeKey (outboundBucket "proxy") "setting" := by
  decide

lemma proxyConnectedServers_eq :
    "outbound.proxy:connectedServers" = makeKey (outboundBucket "proxy") "connectedServers" := by
  decide

end Keys

namespace Database

/-! ### What the passes do -/

section Passes

variable {lax : Lenient} {db : Database} {key key' : String} {value : Text}
  {l : List (String × Json)}

lemma config_putConfig :
    (db.putConfig key value).config key' = if key' = key then some value else db.config key' :=
  Go.Map.get?_put

@[simp] lemma outboundNames_putConfig :
    (db.putConfig key value).other.outboundNames = db.other.outboundNames := rfl

lemma migrateSubscriptionUpdatePolicy_of_mark
    (h : (db.config subscriptionUpdateMigrationKey).isSome) :
    db.migrateSubscriptionUpdatePolicy lax = .ok db :=
  if_pos h

lemma migrateAutoSelectToAutomaticGroup_of_mark
    (h : (db.config autoSelectGroupMigrationKey).isSome) :
    db.migrateAutoSelectToAutomaticGroup lax = .ok db :=
  if_pos h

lemma migrateSubscriptionUpdatePolicy_of_none
    (hmark : db.config subscriptionUpdateMigrationKey = none)
    (hsetting : db.config "system:setting" = none) :
    db.migrateSubscriptionUpdatePolicy lax =
      .ok (db.putConfig subscriptionUpdateMigrationKey (.json (.num 1))) := by
  rw [migrateSubscriptionUpdatePolicy, if_neg (by simp [hmark]), hsetting]
  rfl

/-- The settings of the program lose the mode, and subscriptions without a policy get one. -/
lemma migrateSubscriptionUpdatePolicy_of_setting
    (hmark : db.config subscriptionUpdateMigrationKey = none)
    (hsetting : db.config "system:setting" = some (.json (.obj l))) :
    db.migrateSubscriptionUpdatePolicy lax =
      .ok ((putConfig { db with
          subscriptions :=
            db.subscriptions.updateAll (setPolicy (legacyPolicy lax (.json (.obj l)))) }
        "system:setting"
        (.json (.obj (setField "subscriptionAutoUpdateMode" (.str "none") l)))).putConfig
          subscriptionUpdateMigrationKey (.json (.num 1))) := by
  rw [migrateSubscriptionUpdatePolicy, if_neg (by simp [hmark]), hsetting]
  rfl

/-- What `fillProxy` makes of a setting that is an object. -/
def fillField (manual : Bool) (key : String) (unset : List String) (value : String)
    (l : List (String × Json)) : List (String × Json) :=
  if !manual && (((Json.obj l).get? key).getD .null).asString ∈ unset then
    Json.setField key (.str value) l
  else l

/-- What `automaticSetting` makes of a setting that is an object. -/
def automaticFields (manual : Bool) (l : List (String × Json)) : List (String × Json) :=
  let l := fillField manual "probeURL" [""] "https://www.gstatic.com/generate_204" l
  let l := fillField manual "probeInterval" ["", "60s"] "300s" l
  let l := fillField manual "type" [""] "leastping" l
  Json.setField "autoAdd" (.bool !manual) l

lemma fillProxy_obj {manual : Bool} {what value : String} {unset : List String} :
    fillProxy lax manual what key unset value (.json (.obj l)) =
      .ok (.json (.obj (fillField manual key unset value l))) := by
  have hget : Text.get lax key (.json (.obj l)) = ((obj l).get? key).getD .null := rfl
  rw [fillProxy, fillField, hget]
  split_ifs <;> rfl

lemma automaticSetting_obj (manual : Bool) :
    automaticSetting lax manual (.json (.obj l)) =
      .ok (.json (.obj (automaticFields manual l))) := by
  unfold automaticSetting
  rw [fillProxy_obj]
  simp only [bind, Except.bind, fillProxy_obj]
  rfl

section Automatic

variable {manual : Bool} {unset : List String} {fill : String}

/-- Whether a field counts as set. -/
def IsSet (l : List (String × Json)) (key : String) (unset : List String) : Prop :=
  (((Json.obj l).get? key).getD .null).asString ∉ unset

lemma get?_fillField_of_ne (hne : key' ≠ key) :
    (obj (fillField manual key unset fill l)).get? key' = (obj l).get? key' := by
  unfold fillField
  split_ifs
  · rw [get?_setField, if_neg hne]
  · rfl

/-- A field that was filled in counts as set. -/
lemma isSet_fillField (hfill : fill ∉ unset) (hmanual : manual = false) :
    IsSet (fillField manual key unset fill l) key unset := by
  unfold fillField IsSet
  split_ifs with h
  · rwa [get?_setField, if_pos rfl]
  · simpa [hmanual] using h

lemma fillField_eq_self (h : manual = false → IsSet l key unset) :
    fillField manual key unset fill l = l := by
  refine if_neg fun hfill => ?_
  rw [Bool.and_eq_true, Bool.not_eq_true', decide_eq_true_eq] at hfill
  exact h hfill.1 hfill.2

/-- The setting reads as if it had been rewritten. -/
structure IsAutomatic (manual : Bool) (l : List (String × Json)) : Prop where
  autoAdd : (Json.obj l).get? "autoAdd" = some (.bool !manual)
  probeURL : manual = false → IsSet l "probeURL" [""]
  probeInterval : manual = false → IsSet l "probeInterval" ["", "60s"]
  type : manual = false → IsSet l "type" [""]

lemma isAutomatic_automaticFields : IsAutomatic manual (automaticFields manual l) := by
  have hne : "probeURL" ≠ "autoAdd" ∧ "probeInterval" ≠ "autoAdd" ∧ "type" ≠ "autoAdd" ∧
      "probeURL" ≠ "type" ∧ "probeInterval" ≠ "type" ∧ "probeURL" ≠ "probeInterval" := by decide
  obtain ⟨h1, h2, h3, h4, h5, h6⟩ := hne
  -- the later steps leave a field that was filled in alone
  refine ⟨?_, fun hmanual => ?_, fun hmanual => ?_, fun hmanual => ?_⟩
  · rw [automaticFields, get?_setField, if_pos rfl]
  · rw [IsSet, automaticFields, get?_setField, if_neg h1, get?_fillField_of_ne h4,
      get?_fillField_of_ne h6]
    exact isSet_fillField (by decide) hmanual
  · rw [IsSet, automaticFields, get?_setField, if_neg h2, get?_fillField_of_ne h5]
    exact isSet_fillField (by decide) hmanual
  · rw [IsSet, automaticFields, get?_setField, if_neg h3]
    exact isSet_fillField (by decide) hmanual

lemma automaticFields_eq_self_iff : automaticFields manual l = l ↔ IsAutomatic manual l := by
  constructor
  · intro h
    exact h ▸ isAutomatic_automaticFields
  · intro h
    dsimp only [automaticFields]
    rw [fillField_eq_self h.probeURL, fillField_eq_self h.probeInterval, fillField_eq_self h.type]
    exact setField_eq_self_iff.mpr h.autoAdd

end Automatic

lemma migrateAutoSelectToAutomaticGroup_of_manual
    (hmark : db.config autoSelectGroupMigrationKey = none)
    (hselect : db.autoSelects.any id = false) :
    db.migrateAutoSelectToAutomaticGroup lax =
      .ok (db.putConfig autoSelectGroupMigrationKey (.json (.num 1))) := by
  rw [migrateAutoSelectToAutomaticGroup, if_neg (by simp [hmark])]
  rw [if_neg (by simp [hselect])]
  rfl

/-- The group `proxy` becomes an automatic one, and no subscription selects nodes itself. -/
lemma migrateAutoSelectToAutomaticGroup_of_automatic {manual : Bool}
    (hmark : db.config autoSelectGroupMigrationKey = none) (hselect : db.autoSelects.any id)
    (hmanual : db.proxyHasManualMembers db.autoSelects = .ok manual)
    (hsetting : (db.config "outbound.proxy:setting").getD defaultProxySetting = .json (.obj l)) :
    db.migrateAutoSelectToAutomaticGroup lax =
      .ok (putConfig { db.putConfig "outbound.proxy:setting"
          (.json (.obj (automaticFields manual l))) with
        subscriptions := db.subscriptions.updateAll fun s => { s with autoSelect := false } }
          autoSelectGroupMigrationKey (.json (.num 1))) := by
  rw [migrateAutoSelectToAutomaticGroup, if_neg (by simp [hmark])]
  rw [if_pos hselect, hmanual, hsetting]
  simp only [automaticSetting_obj]
  rfl

/-! #### What every run of a pass keeps -/

/-- A pass writes columns of subscriptions and adds entries. -/
structure Passed (db db' : Database) : Prop where
  servers : db'.servers = db.servers
  ordinals : db'.subscriptions.rows.map (fun r => (r.id, r.sort)) =
    db.subscriptions.rows.map fun r => (r.id, r.sort)
  config : ∀ key, (db.config key).isSome → (db'.config key).isSome

lemma Passed.refl (db : Database) : Passed db db := ⟨rfl, rfl, fun _ => id⟩

lemma Passed.trans {db₁ db₂ db₃ : Database} (h : Passed db₁ db₂) (h' : Passed db₂ db₃) :
    Passed db₁ db₃ where
  servers := h'.servers.trans h.servers
  ordinals := h'.ordinals.trans h.ordinals
  config key hkey := h'.config key (h.config key hkey)

lemma passed_putConfig (db : Database) (key : String) (value : Text) :
    Passed db (db.putConfig key value) where
  servers := rfl
  ordinals := rfl
  config key' hkey := by
    rw [config_putConfig]
    split_ifs
    · rfl
    · exact hkey

lemma passed_updateAll (db : Database) (f : SubscriptionFields → SubscriptionFields) :
    Passed db { db with subscriptions := db.subscriptions.updateAll f } where
  servers := rfl
  ordinals := by
    rw [Sql.Table.updateAll, List.map_map]
    rfl
  config _ := id

lemma isSome_config_putConfig : ((db.putConfig key value).config key).isSome := by
  rw [config_putConfig, if_pos rfl]
  rfl

lemma passed_migrateSubscriptionUpdatePolicy {db' : Database}
    (h : db.migrateSubscriptionUpdatePolicy lax = .ok db') :
    Passed db db' ∧ (db'.config subscriptionUpdateMigrationKey).isSome := by
  unfold migrateSubscriptionUpdatePolicy at h
  split_ifs at h with hmark
  · cases h
    exact ⟨.refl db, hmark⟩
  · -- in each case the mark is written last
    obtain ⟨db₁, hdb₁, heq⟩ : ∃ db₁, Passed db db₁ ∧
        .ok (db₁.putConfig subscriptionUpdateMigrationKey (.json (.num 1))) = Except.ok db' := by
      cases hsetting : db.config "system:setting" with
      | none =>
        rw [hsetting] at h
        exact ⟨db, .refl db, h⟩
      | some setting =>
        rw [hsetting] at h
        dsimp only at h
        have hpolicy := passed_updateAll db (setPolicy (legacyPolicy lax setting))
        split_ifs at h
        · exact ⟨_, hpolicy, h⟩
        · cases hset : setting.set lax "subscriptionAutoUpdateMode" (.str "none") with
          | error err =>
            rw [hset] at h
            cases h
          | ok setting' =>
            rw [hset] at h
            exact ⟨_, hpolicy.trans (passed_putConfig _ _ setting'), h⟩
    cases heq
    exact ⟨hdb₁.trans (passed_putConfig _ _ _), isSome_config_putConfig⟩

lemma passed_migrateAutoSelectToAutomaticGroup {db' : Database}
    (h : db.migrateAutoSelectToAutomaticGroup lax = .ok db') :
    Passed db db' ∧ (db'.config autoSelectGroupMigrationKey).isSome := by
  unfold migrateAutoSelectToAutomaticGroup at h
  split_ifs at h with hmark
  · cases h
    exact ⟨.refl db, hmark⟩
  · obtain ⟨db₁, hdb₁, heq⟩ : ∃ db₁, Passed db db₁ ∧
        .ok (db₁.putConfig autoSelectGroupMigrationKey (.json (.num 1))) = Except.ok db' := by
      dsimp only at h
      split_ifs at h
      · obtain ⟨manual, -, h⟩ := Except.bind_eq_ok_iff.mp h
        obtain ⟨setting, -, h⟩ := Except.bind_eq_ok_iff.mp h
        exact ⟨_, (passed_putConfig _ _ setting).trans (passed_updateAll _ _), h⟩
      · exact ⟨db, .refl db, h⟩
    cases heq
    exact ⟨hdb₁.trans (passed_putConfig _ _ _), isSome_config_putConfig⟩

end Passes

end Database

end V2rayA
