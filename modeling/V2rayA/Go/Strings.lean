import V2rayA.Go.Duration
import V2rayA.ToMathlib.List

/-!
# Go strings

The functions of the packages `strings` and `strconv` that the program takes names and stored
texts apart with.
-/

namespace Go

open List

/-- `unicode.ToLower`, exact as far as the result is compared with ASCII text: the dotted
capital I and the Kelvin sign are the only letters beyond ASCII with an ASCII lower case. -/
def toLowerChar (c : Char) : Char :=
  if c.toNat = 0x130 then 'i' else if c.toNat = 0x212A then 'k' else c.toLower

/-- `strings.ToLower`. -/
def toLower (s : String) : String := String.ofList (s.toList.map toLowerChar)

/-- `strings.ReplaceAll(s, string(c), "")`. -/
def removeAll (c : Char) (s : String) : String := String.ofList (s.toList.filter (· ≠ c))

/-- `strings.HasPrefix`. -/
def hasPrefix (s pre : String) : Bool := pre.toList.isPrefixOf s.toList

lemma hasPrefix_iff {s pre : String} : hasPrefix s pre ↔ pre.toList <+: s.toList :=
  isPrefixOf_iff_prefix

/-- `strings.SplitN(s, string(sep), 2)`, if it has two parts. -/
def cut (sep : Char) (s : String) : Option (String × String) :=
  match s.toList.dropWhile (· ≠ sep) with
  | [] => none
  | _ :: after => some (String.ofList (s.toList.takeWhile (· ≠ sep)), String.ofList after)

/-- What stands before and after the first occurrence of a separator. -/
def cutList (sep : List Char) : List Char → Option (List Char × List Char)
  | [] => if sep = [] then some ([], []) else none
  | c :: cs =>
    if sep.isPrefixOf (c :: cs) then some ([], (c :: cs).drop sep.length)
    else (cutList sep cs).map fun e => (c :: e.1, e.2)

/-- `strings.Cut`, `none` if the separator is not found. -/
def cutText (s sep : String) : Option (String × String) :=
  (cutList sep.toList s.toList).map fun e => (String.ofList e.1, String.ofList e.2)

/-- `strings.Contains`. -/
def contains (s sub : String) : Bool := (cutText s sub).isSome

lemma isSome_cutList_iff {sep l : List Char} : (cutList sep l).isSome ↔ sep <:+: l := by
  induction l with
  | nil => by_cases h : sep = [] <;> simp [cutList]
  | cons c cs ih =>
    rw [cutList, List.infix_cons_iff, ← isPrefixOf_iff_prefix]
    by_cases h : sep.isPrefixOf (c :: cs) = true
    · simp [h]
    · simp [h, ih]

lemma contains_iff {s sub : String} : contains s sub ↔ sub.toList <:+: s.toList := by
  rw [contains, cutText, Option.isSome_map, isSome_cutList_iff]

/-- `unicode.ToUpper`, exact as far as the result is compared with ASCII text: the dotless i and the
long s are the only letters beyond ASCII with an ASCII upper case. -/
def toUpperChar (c : Char) : Char :=
  if c.toNat = 0x131 then 'I' else if c.toNat = 0x17F then 'S' else c.toUpper

/-- `strings.ToUpper`. -/
def toUpper (s : String) : String := String.ofList (s.toList.map toUpperChar)

lemma toUpperChar_toUpperChar (c : Char) : toUpperChar (toUpperChar c) = toUpperChar c := by
  by_cases hletter : 97 ≤ c.toNat ∧ c.toNat ≤ 122
  · -- the letters that have an upper case
    have hall : ∀ n : Fin 26, toUpperChar (toUpperChar (Char.ofNat (97 + n))) =
        toUpperChar (Char.ofNat (97 + n)) := by decide
    have hc : c = Char.ofNat (97 + (⟨c.toNat - 97, by omega⟩ : Fin 26)) := by
      rw [Nat.add_sub_cancel' hletter.1, Char.ofNat_toNat]
    rw [hc]
    exact hall _
  · have hsame : c.toUpper = c := dif_neg hletter
    unfold toUpperChar
    rw [hsame]
    split_ifs <;> first | decide | simp_all

@[simp] lemma toUpper_toUpper (s : String) : toUpper (toUpper s) = toUpper s := by
  simp [toUpper, Function.comp_def, toUpperChar_toUpperChar]

/-- `unicode.IsSpace`. -/
def isSpace (c : Char) : Bool :=
  let n := c.toNat
  (9 ≤ n ∧ n ≤ 13) ∨ (0x2000 ≤ n ∧ n ≤ 0x200a) ∨
    n ∈ [0x20, 0x85, 0xa0, 0x1680, 0x2028, 0x2029, 0x202f, 0x205f, 0x3000]

/-- `strings.TrimSpace`. -/
def trimSpace (s : String) : String :=
  String.ofList ((s.toList.dropWhile isSpace).reverse.dropWhile isSpace).reverse

/-- `strings.Split(s, "\n")`. -/
def lines (s : String) : List String := (s.toList.splitOn '\n').map String.ofList

/-- `strings.Split(s, string(sep))`. -/
def split (sep : Char) (s : String) : List String := (s.toList.splitOn sep).map String.ofList

lemma split_ne_nil (sep : Char) (s : String) : split sep s ≠ [] := by
  simp [split]

variable {sep : Char} {s : String}

lemma split_of_notMem (h : sep ∉ s.toList) : split sep s = [s] := by
  rw [split, splitOn_eq_singleton h, map_cons, map_nil, String.ofList_toList]

lemma split_append {s t : String} (h : sep ∉ s.toList) :
    split sep (s ++ String.singleton sep ++ t) = s :: split sep t := by
  have htext : (s ++ String.singleton sep ++ t).toList = s.toList ++ sep :: t.toList := by simp
  rw [split, htext, splitOn_append_cons_self_of_not_mem h, map_cons,
    String.ofList_toList, split]

lemma split_intercalate {l : List String} (h : ∀ s ∈ l, sep ∉ s.toList) (hl : l ≠ []) :
    split sep (String.intercalate (String.singleton sep) l) = l := by
  have hparts : ∀ part ∈ l.map String.toList, sep ∉ part := by simpa using h
  rw [split, String.toList_intercalate, String.toList_singleton,
    splitOn_intercalate sep hparts (by simpa using hl), map_map]
  simp

/-- The parts of a text do not have the separator, nor characters that the text does not have. -/
lemma notMem_of_mem_split {sep c : Char} {s part : String} (h : part ∈ split sep s)
    (hc : c = sep ∨ c ∉ s.toList) : c ∉ part.toList := by
  obtain ⟨l, hl, rfl⟩ := mem_map.mp h
  obtain ⟨hsep, hsub⟩ := notMem_and_subset_of_mem_splitOn hl
  rw [String.toList_ofList]
  rcases hc with rfl | hc
  · exact hsep
  · exact fun hmem => hc (hsub hmem)

lemma cut_append {s t : String} (h : sep ∉ s.toList) :
    cut sep (s ++ String.singleton sep ++ t) = some (s, t) := by
  have htext : (s ++ String.singleton sep ++ t).toList = s.toList ++ sep :: t.toList := by simp
  have hall : ∀ c ∈ s.toList, decide (c ≠ sep) := fun c hc => by
    simpa using fun heq : c = sep => h (heq ▸ hc)
  unfold cut
  rw [htext, dropWhile_append_of_pos hall, takeWhile_append_of_pos hall]
  simp

lemma cut_of_notMem (h : sep ∉ s.toList) : cut sep s = none := by
  have hall : ∀ c ∈ s.toList, decide (c ≠ sep) := fun c hc => by
    simpa using fun heq : c = sep => h (heq ▸ hc)
  unfold cut
  rw [dropWhile_eq_nil_iff.mpr hall]

/-- What stands before the separator does not have it. -/
lemma notMem_of_cut {s a b : String} (h : cut sep s = some (a, b)) :
    sep ∉ a.toList := by
  unfold cut at h
  split at h
  · cases h
  · obtain ⟨rfl, -⟩ := Prod.mk.inj (Option.some.inj h)
    rw [String.toList_ofList]
    intro hmem
    simpa using mem_takeWhile_imp hmem

lemma notMem_of_cut_eq_none (h : cut sep s = none) :
    sep ∉ s.toList := by
  unfold cut at h
  split at h
  next hnil =>
    intro hmem
    simpa using dropWhile_eq_nil_iff.mp hnil sep hmem
  next => cases h

/-- `strings.TrimPrefix`. -/
def trimPrefix (s pre : String) : String :=
  if hasPrefix s pre then String.ofList (s.toList.drop pre.toList.length) else s

lemma trimPrefix_append (pre s : String) : trimPrefix (pre ++ s) pre = s := by
  simp [trimPrefix, hasPrefix_iff]

/-- `strings.HasSuffix`. -/
def hasSuffix (s suf : String) : Bool := suf.toList.isSuffixOf s.toList

lemma hasSuffix_iff {s suf : String} : hasSuffix s suf ↔ suf.toList <:+ s.toList :=
  isSuffixOf_iff_suffix

/-- `strings.TrimSuffix`. -/
def trimSuffix (s suf : String) : String :=
  if hasSuffix s suf then String.ofList (s.toList.take (s.toList.length - suf.toList.length))
  else s

lemma trimSuffix_append (s suf : String) : trimSuffix (s ++ suf) suf = s := by
  simp [trimSuffix, hasSuffix_iff]

lemma trimSuffix_of_hasSuffix_eq_false {s suf : String} (h : hasSuffix s suf = false) :
    trimSuffix s suf = s := by
  simp [trimSuffix, h]

lemma eq_or_eq_append_of_trimSuffix (s suf : String) :
    s = trimSuffix s suf ∨ s = trimSuffix s suf ++ suf := by
  unfold trimSuffix
  split
  next h =>
    obtain ⟨t, ht⟩ := hasSuffix_iff.mp h
    right
    apply String.toList_injective
    simp [← ht]
  next => exact .inl rfl

/-- `strconv.ParseBool`, `none` for an error. -/
def parseBool (s : String) : Option Bool :=
  if s ∈ ["1", "t", "T", "TRUE", "true", "True"] then some true
  else if s ∈ ["0", "f", "F", "FALSE", "false", "False"] then some false
  else none

/-- `strconv.Atoi`, `none` for an error. -/
def atoi (s : String) : Option ℤ :=
  let parse (negative : Bool) (cs : List Char) : Option ℤ :=
    let n : ℤ := Duration.digits cs
    if cs = [] ∨ ¬cs.all Char.isDigit then none
    else if negative then if n ≤ 2 ^ 63 then some (-n) else none
    else if n < 2 ^ 63 then some n else none
  match s.toList with
  | '-' :: cs => parse true cs
  | '+' :: cs => parse false cs
  | cs => parse false cs

example : (atoi "-12", atoi "9223372036854775808", atoi "1_0") = (some (-12), none, none) := by
  decide

/-- The number that `strconv.Atoi` returns whether or not it returns an error: a number that is
too large for the type is replaced by the nearest one that is not. -/
def atoiValue (s : String) : ℤ :=
  let parse (negative : Bool) (cs : List Char) : ℤ :=
    let n : ℤ := Duration.digits cs
    if cs = [] ∨ ¬cs.all Char.isDigit then 0
    else if negative then -min n (2 ^ 63)
    else min n (2 ^ 63 - 1)
  match s.toList with
  | '-' :: cs => parse true cs
  | '+' :: cs => parse false cs
  | cs => parse false cs

example : (atoiValue "-12", atoiValue "9223372036854775808") = (-12, 9223372036854775807) := by
  decide

/-! ### Numbers in texts -/

/-- Whether a number is one of the type `int`. -/
def IsInt (n : ℤ) : Prop := -2 ^ 63 ≤ n ∧ n < 2 ^ 63

instance (n : ℤ) : Decidable (IsInt n) := inferInstanceAs (Decidable (_ ∧ _))

lemma isInt_of_atoi {n : ℤ} (h : atoi s = some n) : IsInt n := by
  unfold IsInt
  unfold atoi at h
  split at h <;> grind

lemma atoiValue_of_atoi {n : ℤ} (h : atoi s = some n) : atoiValue s = n := by
  unfold atoi at h
  unfold atoiValue
  split at h <;> grind

lemma isInt_atoiValue (s : String) : IsInt (atoiValue s) := by
  unfold IsInt atoiValue
  split <;> grind

/-- The decimal form of a number has digits only. -/
lemma all_isDigit_toString_nat (n : ℕ) :
    (toString n).toList ≠ [] ∧ (toString n).toList.all Char.isDigit := by
  have hdigits : (toString n).toList = Nat.toDigits 10 n := by
    rw [Nat.toString_eq_ofList_toDigits, String.toList_ofList]
  refine ⟨hdigits ▸ Nat.toDigits_ne_nil, all_eq_true.mpr fun c hc => ?_⟩
  exact Nat.isDigit_of_mem_toDigits (by decide) (by decide) (hdigits ▸ hc)

lemma notMem_toString_nat {c : Char} (hc : c.isDigit = false) (n : ℕ) :
    c ∉ (toString n).toList := by
  intro h
  simp [all_eq_true.mp (all_isDigit_toString_nat n).2 c h] at hc

lemma digits_toString_nat (n : ℕ) : Duration.digits (toString n).toList = n := by
  rw [Nat.toString_eq_ofList_toDigits, String.toList_ofList]
  exact (Nat.ofDigitChars_eq_foldl.symm.trans Nat.ofDigitChars_ten_toDigits)

lemma toList_toString_negSucc (n : ℕ) :
    (toString (Int.negSucc n)).toList = '-' :: (toString (n + 1)).toList := by
  change ("-" ++ toString (n + 1)).toList = _
  rw [String.toList_append]
  rfl

/-- The decimal form of an integer has digits, after a sign. -/
lemma notMem_toString_int {c : Char} (hc : c.isDigit = false) (hminus : c ≠ '-') (n : ℤ) :
    c ∉ (toString n).toList := by
  cases n with
  | ofNat n => exact notMem_toString_nat hc n
  | negSucc n =>
    rw [toList_toString_negSucc]
    exact not_mem_cons_of_ne_of_not_mem hminus (notMem_toString_nat hc _)

/-- `strconv.Atoi` undoes `strconv.Itoa`. -/
lemma atoi_toString {n : ℤ} (h : IsInt n) : atoi (toString n) = some n := by
  unfold IsInt at h
  cases n with
  | ofNat n =>
    obtain ⟨hne, hall⟩ := all_isDigit_toString_nat n
    have hval := digits_toString_nat n
    have hminus := notMem_toString_nat (c := '-') (by decide) n
    have hplus := notMem_toString_nat (c := '+') (by decide) n
    change atoi (toString n) = _
    unfold atoi
    split
    next cs heq => exact absurd (heq ▸ mem_cons_self) hminus
    next cs heq => exact absurd (heq ▸ mem_cons_self) hplus
    next => grind
  | negSucc n =>
    obtain ⟨hne, hall⟩ := all_isDigit_toString_nat (n + 1)
    have hval := digits_toString_nat (n + 1)
    unfold atoi
    rw [toList_toString_negSucc]
    grind

lemma toList_toString_nat_inj {m n : ℕ} (h : (toString m).toList = (toString n).toList) :
    m = n := by
  simp only [Nat.toString_eq_ofList_toDigits, String.toList_ofList] at h
  rw [← Nat.ofDigitChars_ten_toDigits (n := m), h, Nat.ofDigitChars_ten_toDigits]

lemma toList_toString_int_inj {m n : ℤ} (h : (toString m).toList = (toString n).toList) :
    m = n := by
  cases m with
  | ofNat m =>
    cases n with
    | ofNat n => rw [toList_toString_nat_inj h]
    | negSucc n =>
      rw [toList_toString_negSucc] at h
      have hminus : '-' ∈ (toString m).toList := h ▸ mem_cons_self
      exact absurd hminus (notMem_toString_nat (by decide) m)
  | negSucc m =>
    rw [toList_toString_negSucc] at h
    cases n with
    | ofNat n =>
      have hminus : '-' ∈ (toString n).toList := h ▸ mem_cons_self
      exact absurd hminus (notMem_toString_nat (by decide) n)
    | negSucc n =>
      rw [toList_toString_negSucc, cons.injEq] at h
      have := toList_toString_nat_inj h.2
      rw [Int.negSucc.injEq]
      omega

end Go
