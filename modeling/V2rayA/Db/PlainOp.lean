import V2rayA.Configure.Store
import V2rayA.Sql.Like

/-!
# Groups in the table of keys and values

The table `system_config` holds the settings of the program, the accounts and, for each group, its
setting and its members, under keys that begin with the name of a bucket and a colon. The bucket of a
group is cleared with a pattern.

* `like_bucketLikePattern_iff`: the pattern of a bucket matches the keys that begin with it up to
  case.
* `Holds.removeOutbound`: what is stored for the groups is what `Store.removeOutbound` says.
* `groupLocal_iff`: when operations on a group leave everything else alone.
-/

namespace V2rayA

open List

/-- The values in JSON: settings of groups, lists of references and hashes of passwords. -/
structure ConfigJSON (V : Type) where
  setting : V → Option OutboundSetting
  marshalSetting : OutboundSetting → V
  setting_marshal : ∀ s, setting (marshalSetting s) = some s
  nodeRefs : V → Option (List NodeRef)
  passwordHash : V → Option String

/-- `makeKey`. -/
def makeKey (bucket key : String) : String := bucket ++ ":" ++ key

/-- `bucketLikePattern`. -/
def bucketLikePattern (bucket : String) : List Char := Sql.escape (bucket ++ ":").toList ++ ['%']

/-- The bucket of a group. -/
def outboundBucket (outbound : String) : String := "outbound." ++ outbound

/-- The tables `system_config`, by key, and `outbound_names`. -/
structure SystemConfig (V : Type) where
  rows : String → Option V
  outboundNames : List String

namespace SystemConfig

variable {V : Type} (json : ConfigJSON V) (cfg : SystemConfig V)

/-- `Get`. Accounts used to be stored without the name of their bucket. -/
def get (bucket key : String) : Option V :=
  match cfg.rows (makeKey bucket key) with
  | some value => some value
  | none => if bucket = "accounts" then cfg.rows key else none

/-- `Set`. -/
def set (bucket key : String) (value : V) : SystemConfig V :=
  { cfg with rows := Function.update cfg.rows (makeKey bucket key) (some value) }

/-- `BucketClear`. -/
def bucketClear (bucket : String) : SystemConfig V :=
  { cfg with
    rows := fun key =>
      if Sql.like (bucketLikePattern bucket) key.toList then none else cfg.rows key }

/-- `GetOutbounds`, in any order. -/
def getOutbounds : List String := defaultOutboundName :: cfg.outboundNames

/-- `GetOutboundSetting`. -/
def getOutboundSetting (outbound : String) : OutboundSetting :=
  ((cfg.get (outboundBucket outbound) "setting").bind json.setting).getD defaultOutboundSetting

/-- `GetConnectedServersByOutbound`. -/
def getConnectedServersByOutbound (outbound : String) : Option (List NodeRef) :=
  let outbound := if outbound = "" then defaultOutboundName else outbound
  (cfg.get (outboundBucket outbound) "connectedServers").bind json.nodeRefs

/-- The members of a group. -/
def members (outbound : String) : List NodeRef :=
  (cfg.getConnectedServersByOutbound json outbound).getD []

/-- `GetPasswordOfAccount`. -/
def getPasswordOfAccount (username : String) : Option String :=
  (cfg.get "accounts" username).bind json.passwordHash

/-- `SetOutboundSetting`. -/
def setOutboundSetting (outbound : String) (setting : OutboundSetting) :
    Except Go.Error (SystemConfig V) := do
  let _ ← Go.parseDuration setting.probeInterval
  return cfg.set (outboundBucket outbound) "setting" (json.marshalSetting setting)

/-- The names that no new group can have. -/
def reservedOutboundNames : List String := ["proxy", "direct", "block"]

/-- `AddOutbound`. -/
def addOutbound (outbound : String) : Except Go.Error (SystemConfig V) :=
  if outbound ∈ reservedOutboundNames then
    .error {
      text := Go.quote outbound ++
        " is a reserved outbound name (proxy, direct, block); choose another" }
  else
    let added := { cfg with outboundNames := cfg.outboundNames.insert outbound }
    added.setOutboundSetting json outbound defaultOutboundSetting

/-- `RemoveOutbound`. -/
def removeOutbound (outbound : String) : SystemConfig V :=
  let cleared := cfg.bucketClear (outboundBucket outbound)
  { cleared with outboundNames := cleared.outboundNames.filter (· ≠ outbound) }

end SystemConfig

/-! ### What a pattern matches -/

/-- The pattern of a bucket matches the keys that begin with the bucket up to case. -/
lemma like_bucketLikePattern_iff {bucket key : String} :
    Sql.like (bucketLikePattern bucket) key.toList ↔
      (bucket ++ ":").toList.map Char.toLower <+: key.toList.map Char.toLower :=
  Sql.like_escape_percent_iff

lemma toLower_eq_colon_iff {c : Char} : c.toLower = ':' ↔ c = ':' := by
  unfold Char.toLower
  split_ifs with hc
  · -- a letter is neither a colon nor becomes one
    have hle := UInt32.le_iff_toNat_le.mp hc.1
    have hge := UInt32.le_iff_toNat_le.mp hc.2
    constructor
    · intro h
      have hval := congrArg (fun c : Char => c.val.toNat) h
      simp at hval hle hge
      omega
    · rintro rfl
      exact absurd hc.1 (by decide)
  · rfl

/-- A beginning that ends at a separator does not end behind the last one. -/
lemma prefix_append_iff {α : Type} {c : α} {p l key : List α} (hkey : c ∉ key) :
    p ++ [c] <+: l ++ [c] ++ key ↔ p ++ [c] <+: l ++ [c] := by
  constructor
  · rintro ⟨r, hr⟩
    rcases append_eq_append_iff.mp hr with ⟨t, ht, -⟩ | ⟨t, ht, hkey'⟩
    · exact ⟨t, ht.symm⟩
    · rcases eq_nil_or_concat t with rfl | ⟨t, x, rfl⟩
      · exact ⟨[], by rw [ht, append_nil, append_nil]⟩
      · -- the separator would stand in the key
        rw [concat_eq_append, ← append_assoc] at ht
        have hx : [c] = [x] := append_inj_right' ht rfl
        rw [hkey', (cons.inj hx).1] at hkey
        simp at hkey
  · intro h
    exact h.trans (List.prefix_append _ _)

/-- Clearing the bucket of a group clears the entry of another. -/
lemma like_outbound_eq {outbound name key : String} (hkey : ':' ∉ key.toList) :
    Sql.like (bucketLikePattern (outboundBucket outbound))
      (makeKey (outboundBucket name) key).toList = Store.clearsBucket outbound name := by
  rw [Bool.eq_iff_iff, like_bucketLikePattern_iff, Store.clearsBucket, isPrefixOf_iff_prefix]
  have hcolon : (":".toList.map Char.toLower) = [':'] := rfl
  have hlower : ':' ∉ key.toList.map Char.toLower := by
    intro hmem
    obtain ⟨c, hc, heq⟩ := mem_map.mp hmem
    exact hkey (toLower_eq_colon_iff.mp heq ▸ hc)
  simp only [outboundBucket, makeKey, String.toList_append, map_append, hcolon,
    append_assoc, List.prefix_append_right_inj]
  rw [← append_assoc, prefix_append_iff hlower]

/-! ### The groups as the store has them -/

/-- What is stored for the groups. -/
structure Holds {V ν : Type} (json : ConfigJSON V) (cfg : SystemConfig V) (s : Store ν) : Prop where
  outboundNames : cfg.outboundNames = s.outboundNames
  outboundSetting : ∀ name, (cfg.get (outboundBucket name) "setting").bind json.setting =
    s.outboundSetting name
  connectedServers : ∀ name, (cfg.get (outboundBucket name) "connectedServers").bind json.nodeRefs =
    s.connectedServers name

section Groups

variable {V ν : Type} {json : ConfigJSON V} {cfg : SystemConfig V} {s : Store ν}
  {outbound name : String}

lemma ne_of_head?_ne {a b : String} (h : a.toList.head? ≠ b.toList.head?) : a ≠ b :=
  fun hab => h (hab ▸ rfl)

lemma outboundBucket_ne_accounts : outboundBucket name ≠ "accounts" :=
  ne_of_head?_ne (by simp [outboundBucket])

lemma get_outboundBucket (key : String) :
    cfg.get (outboundBucket name) key = cfg.rows (makeKey (outboundBucket name) key) := by
  unfold SystemConfig.get
  cases cfg.rows (makeKey (outboundBucket name) key) with
  | none => exact if_neg outboundBucket_ne_accounts
  | some value => rfl

lemma rows_removeOutbound (key : String) : (cfg.removeOutbound outbound).rows key =
    if Sql.like (bucketLikePattern (outboundBucket outbound)) key.toList then none
    else cfg.rows key := rfl

/-- What is read of a group after one was removed. -/
lemma get_removeOutbound {key : String} (hkey : ':' ∉ key.toList) :
    (cfg.removeOutbound outbound).get (outboundBucket name) key =
      if Store.clearsBucket outbound name then none else cfg.get (outboundBucket name) key := by
  rw [get_outboundBucket, get_outboundBucket, rows_removeOutbound, like_outbound_eq hkey]

lemma outboundNames_removeOutbound :
    (cfg.removeOutbound outbound).outboundNames = cfg.outboundNames.filter (· ≠ outbound) := rfl

lemma Holds.removeOutbound (h : Holds json cfg s) (outbound : String) :
    Holds json (cfg.removeOutbound outbound) (s.removeOutbound outbound) := by
  refine ⟨?_, fun name => ?_, fun name => ?_⟩
  · rw [outboundNames_removeOutbound, Store.removeOutbound, h.outboundNames]
    dsimp only
    rw [s.outboundNames_nodup.erase_eq_filter]
    exact filter_congr fun name _ => Bool.eq_iff_iff.mpr (by simp)
  · rw [get_removeOutbound (by decide), Store.removeOutbound]
    dsimp only
    split_ifs
    · rfl
    · exact h.outboundSetting name
  · rw [get_removeOutbound (by decide), Store.removeOutbound]
    dsimp only
    split_ifs
    · rfl
    · exact h.connectedServers name

lemma makeKey_inj {bucket bucket' key : String} :
    makeKey bucket key = makeKey bucket' key ↔ bucket = bucket' := by
  simp [makeKey]

lemma outboundBucket_inj : outboundBucket outbound = outboundBucket name ↔ outbound = name := by
  simp [outboundBucket]

/-- A key of members is not one of a setting. -/
lemma makeKey_connectedServers_ne {bucket bucket' : String} :
    makeKey bucket "connectedServers" ≠ makeKey bucket' "setting" := by
  intro h
  have hlast := congrArg (fun s : String => s.toList.getLast?) h
  simp [makeKey] at hlast

lemma get_setting_set {value : V} : (cfg.set (outboundBucket outbound) "setting" value).get
    (outboundBucket name) "setting" =
      if name = outbound then some value else cfg.get (outboundBucket name) "setting" := by
  rw [get_outboundBucket, get_outboundBucket]
  refine (Function.update_apply _ _ _ _).trans ?_
  simp only [makeKey_inj, outboundBucket_inj]

lemma get_connectedServers_set {value : V} :
    (cfg.set (outboundBucket outbound) "setting" value).get (outboundBucket name)
      "connectedServers" = cfg.get (outboundBucket name) "connectedServers" := by
  rw [get_outboundBucket, get_outboundBucket]
  exact Function.update_of_ne makeKey_connectedServers_ne _ _

lemma parseDuration_default :
    ∃ d, Go.parseDuration defaultOutboundSetting.probeInterval = .ok d :=
  ⟨_, rfl⟩

/-- A group that is added has the default setting. -/
lemma addOutbound_eq_ok (houtbound : outbound ∉ SystemConfig.reservedOutboundNames) :
    cfg.addOutbound json outbound =
      .ok ({ cfg with outboundNames := cfg.outboundNames.insert outbound }.set
        (outboundBucket outbound) "setting" (json.marshalSetting defaultOutboundSetting)) := by
  obtain ⟨d, hd⟩ := parseDuration_default
  rw [SystemConfig.addOutbound, if_neg houtbound]
  rfl

end Groups

/-! ### What should hold -/

section GroupLocal

variable {V : Type}

/-- Operations on a group leave the rest alone. -/
structure GroupLocal (json : ConfigJSON V) (cfg : SystemConfig V) (n : String) : Prop where
  /-- Removing a group leaves the other groups. -/
  groups : ∀ g ∈ cfg.getOutbounds, g ≠ n →
    (cfg.removeOutbound n).getOutboundSetting json g = cfg.getOutboundSetting json g ∧
      (cfg.removeOutbound n).members json g = cfg.members json g
  names : ∀ g, g ≠ n → (g ∈ (cfg.removeOutbound n).outboundNames ↔ g ∈ cfg.outboundNames)
  accounts : ∀ username, (cfg.removeOutbound n).getPasswordOfAccount json username =
    cfg.getPasswordOfAccount json username
  system : ∀ key, (cfg.removeOutbound n).get "system" key = cfg.get "system" key
  /-- Nothing is left of it. -/
  gone : n ∉ (cfg.removeOutbound n).outboundNames ∧
    ∀ key, (cfg.removeOutbound n).rows (makeKey (outboundBucket n) key) = none
  /-- Adding a group that exists leaves it as it is. -/
  existing : n ∈ cfg.outboundNames → ∃ cfg', cfg.addOutbound json n = .ok cfg' ∧
    cfg'.getOutboundSetting json n = cfg.getOutboundSetting json n ∧
    cfg'.members json n = cfg.members json n

/-- What clearing the bucket of a group, and storing the default setting for it, would change does
not matter. -/
structure Apart (json : ConfigJSON V) (cfg : SystemConfig V) (n : String) : Prop where
  setting : ∀ g ∈ cfg.getOutbounds, g ≠ n → Store.clearsBucket n g →
    cfg.getOutboundSetting json g = defaultOutboundSetting
  members : ∀ g ∈ cfg.getOutbounds, g ≠ n →
    Store.clearsBucket n (if g = "" then defaultOutboundName else g) → cfg.members json g = []
  accounts : ∀ username, Sql.like (bucketLikePattern (outboundBucket n)) username.toList →
    cfg.rows (makeKey "accounts" username) = none →
    (cfg.rows username).bind json.passwordHash = none
  existing : n ∈ cfg.outboundNames → cfg.getOutboundSetting json n = defaultOutboundSetting

variable {json : ConfigJSON V} {cfg : SystemConfig V} {n : String}

lemma getOutboundSetting_removeOutbound (g : String) :
    (cfg.removeOutbound n).getOutboundSetting json g =
      if Store.clearsBucket n g then defaultOutboundSetting else cfg.getOutboundSetting json g := by
  unfold SystemConfig.getOutboundSetting
  rw [get_removeOutbound (by decide)]
  split_ifs <;> rfl

lemma members_removeOutbound (g : String) :
    (cfg.removeOutbound n).members json g =
      if Store.clearsBucket n (if g = "" then defaultOutboundName else g) then []
      else cfg.members json g := by
  unfold SystemConfig.members SystemConfig.getConnectedServersByOutbound
  dsimp only
  rw [get_removeOutbound (by decide)]
  split_ifs <;> rfl

/-- The pattern of a group matches no key that begins with another letter. -/
lemma not_like_of_head {key : String} {c : Char} {l : List Char} (hkey : key.toList = c :: l)
    (hc : c.toLower ≠ 'o') :
    Sql.like (bucketLikePattern (outboundBucket n)) key.toList = false := by
  rw [← Bool.not_eq_true, like_bucketLikePattern_iff, hkey]
  intro h
  have hhead := List.prefix_iff_eq_take.mp h
  have hfirst := congrArg head? hhead
  simp [outboundBucket] at hfirst
  exact hc hfirst.symm

lemma getPasswordOfAccount_removeOutbound (username : String) :
    (cfg.removeOutbound n).getPasswordOfAccount json username =
      if cfg.rows (makeKey "accounts" username) = none ∧
        Sql.like (bucketLikePattern (outboundBucket n)) username.toList then none
      else cfg.getPasswordOfAccount json username := by
  have haccount : (cfg.removeOutbound n).rows (makeKey "accounts" username) =
      cfg.rows (makeKey "accounts" username) := by
    rw [rows_removeOutbound, not_like_of_head (c := 'a') (by simp [makeKey]; rfl) (by decide)]
    rfl
  unfold SystemConfig.getPasswordOfAccount SystemConfig.get
  rw [haccount, rows_removeOutbound]
  cases cfg.rows (makeKey "accounts" username) with
  | some value => simp
  | none =>
    simp
    split_ifs <;> rfl

lemma get_system_removeOutbound (key : String) :
    (cfg.removeOutbound n).get "system" key = cfg.get "system" key := by
  have hsystem : (cfg.removeOutbound n).rows (makeKey "system" key) =
      cfg.rows (makeKey "system" key) := by
    rw [rows_removeOutbound, not_like_of_head (c := 's') (by simp [makeKey]; rfl) (by decide)]
    rfl
  unfold SystemConfig.get
  rw [hsystem]
  simp

/-- **When operations on a group are local.** Removing a group and adding it again leave the other
groups, the accounts and the settings of the program alone, and adding a group that exists leaves it
as it is, if and only if what the pattern of the group matches of other groups and of accounts is
empty and the group has the default setting. -/
theorem groupLocal_iff (hn : n ∉ SystemConfig.reservedOutboundNames) :
    GroupLocal json cfg n ↔ Apart json cfg n := by
  constructor
  · intro h
    refine ⟨fun g hg hne hclears => ?_, fun g hg hne hclears => ?_, fun username hlike hrow => ?_,
      fun hmem => ?_⟩
    · have hsetting := (h.groups g hg hne).1
      rw [getOutboundSetting_removeOutbound, if_pos hclears] at hsetting
      exact hsetting.symm
    · have hmembers := (h.groups g hg hne).2
      rw [members_removeOutbound, if_pos hclears] at hmembers
      exact hmembers.symm
    · have haccount := h.accounts username
      rw [getPasswordOfAccount_removeOutbound, if_pos ⟨hrow, hlike⟩] at haccount
      rw [haccount, SystemConfig.getPasswordOfAccount, SystemConfig.get, hrow]
      rfl
    · obtain ⟨cfg', hadd, hsetting, -⟩ := h.existing hmem
      rw [addOutbound_eq_ok hn] at hadd
      cases hadd
      rw [← hsetting, SystemConfig.getOutboundSetting, get_setting_set, if_pos rfl]
      simp [json.setting_marshal]
  · intro h
    refine ⟨fun g hg hne => ⟨?_, ?_⟩, fun g hne => ?_, fun username => ?_, get_system_removeOutbound,
      ⟨?_, fun key => ?_⟩, fun hmem => ?_⟩
    · rw [getOutboundSetting_removeOutbound]
      split_ifs with hclears
      · exact (h.setting g hg hne hclears).symm
      · rfl
    · rw [members_removeOutbound, ite_eq_right_iff]
      intro hclears
      exact (h.members g hg hne hclears).symm
    · simp [outboundNames_removeOutbound, hne]
    · rw [getPasswordOfAccount_removeOutbound]
      split_ifs with hcleared
      · rw [SystemConfig.getPasswordOfAccount, SystemConfig.get, hcleared.1]
        exact (h.accounts username hcleared.2 hcleared.1).symm
      · rfl
    · simp [outboundNames_removeOutbound]
    · rw [rows_removeOutbound, if_pos]
      rw [like_bucketLikePattern_iff, makeKey]
      refine List.IsPrefix.map _ ?_
      rw [@String.toList_append (outboundBucket n ++ ":")]
      exact List.prefix_append _ _
    · refine ⟨_, addOutbound_eq_ok hn, ?_, ?_⟩
      · rw [h.existing hmem, SystemConfig.getOutboundSetting, get_setting_set, if_pos rfl]
        simp [json.setting_marshal]
      · unfold SystemConfig.members SystemConfig.getConnectedServersByOutbound
        dsimp only
        rw [get_connectedServers_set]
        rfl

end GroupLocal

/-- Values that are not encoded. -/
inductive ConfigValue
  | setting (setting : OutboundSetting)
  | nodeRefs (refs : List NodeRef)
  | passwordHash (hash : String)

def plainConfigJSON : ConfigJSON ConfigValue where
  setting
    | .setting s => some s
    | _ => none
  marshalSetting := .setting
  setting_marshal _ := rfl
  nodeRefs
    | .nodeRefs refs => some refs
    | _ => none
  passwordHash
    | .passwordHash hash => some hash
    | _ => none

/-- Two groups, of which one has a member, and an account. -/
def twoGroups : SystemConfig ConfigValue where
  rows key :=
    if key = "outbound.us:setting" then some (.setting defaultOutboundSetting)
    else if key = "outbound.hk:connectedServers" then
      some (.nodeRefs [⟨.server, 1, 0, "hk"⟩])
    else if key = "accounts:admin" then some (.passwordHash "0123456789abcdef0123456789abcdef")
    else none
  outboundNames := ["us", "hk"]

theorem groupLocal_twoGroups : GroupLocal plainConfigJSON twoGroups "us" := by
  refine (groupLocal_iff (by decide)).mpr ⟨?_, ?_, fun username hlike _ => ?_, ?_⟩
  · decide +kernel
  · decide +kernel
  · -- the only password is under a key that the pattern does not match
    have hne : username ≠ "accounts:admin" := by
      rintro rfl
      exact absurd hlike (by decide +kernel)
    simp only [twoGroups, hne, if_false]
    split_ifs <;> rfl
  · decide +kernel

/-- Two groups whose names differ in case; both have a setting. -/
def twoCases : SystemConfig ConfigValue where
  rows key :=
    if key = "outbound.US:setting" ∨ key = "outbound.us:setting" then
      some (.setting { defaultOutboundSetting with probeInterval := "5s" })
    else if key = "outbound.us:connectedServers" then some (.nodeRefs [⟨.server, 1, 0, "us"⟩])
    else none
  outboundNames := ["US", "us"]

/-- Removing one of them resets the setting and deletes the members of the other, and adding it while
it exists resets its own setting. -/
theorem not_groupLocal_twoCases :
    (twoCases.members plainConfigJSON "us" = [⟨.server, 1, 0, "us"⟩] ∧
        (twoCases.removeOutbound "US").members plainConfigJSON "us" = []) ∧
      ((twoCases.getOutboundSetting plainConfigJSON "us").probeInterval = "5s" ∧
        ((twoCases.removeOutbound "US").getOutboundSetting plainConfigJSON "us").probeInterval ≠
          "5s") ∧
      (∃ cfg', twoCases.addOutbound plainConfigJSON "US" = .ok cfg' ∧
        (twoCases.getOutboundSetting plainConfigJSON "US").probeInterval = "5s" ∧
        (cfg'.getOutboundSetting plainConfigJSON "US").probeInterval ≠ "5s") ∧
      ¬GroupLocal plainConfigJSON twoCases "US" := by
  refine ⟨by decide +kernel, by decide +kernel,
    ⟨_, addOutbound_eq_ok (by decide), by decide +kernel, by decide +kernel⟩, fun h => ?_⟩
  have hmembers := (h.groups "us" (by decide) (by decide)).2
  exact absurd hmembers (by decide +kernel)

end V2rayA
