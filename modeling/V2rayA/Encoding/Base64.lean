import Mathlib

/-!
# Base64

The encodings of `encoding/base64`: two alphabets, with and without padding. Like there, line breaks
in a text that is decoded are skipped, and unused bits of the last character may have any value.

* `Base64.bytesOf_sextetsOf`: grouping bytes by six bits and back.
* `Base64.decodeRaw_encodeRaw`, `Base64.decodePadded_pad_encodeRaw`: decoding what was encoded, as
  it is or with the padding that it lacks.
-/

namespace Base64

open List

/-- The characters for 62 and 63 differ in texts that become part of a URL. -/
inductive Alphabet
  | std
  | url
  deriving DecidableEq, Repr

/-- The character for a number below 64. -/
def Alphabet.char (a : Alphabet) (n : ℕ) : Char :=
  if n < 26 then Char.ofNat (n + 65)
  else if n < 52 then Char.ofNat (n + 71)
  else if n < 62 then Char.ofNat (n - 4)
  else
    match a with
    | .std => if n = 62 then '+' else '/'
    | .url => if n = 62 then '-' else '_'

/-- The number that a character stands for. -/
def Alphabet.number? (a : Alphabet) (c : Char) : Option ℕ :=
  (List.range 64).find? fun n => a.char n = c

variable {n : ℕ}

lemma Alphabet.number?_char (a : Alphabet) (hn : n < 64) :
    a.number? (a.char n) = some n := by
  have h : ∀ n : Fin 64, a.number? (a.char n) = some n.val := by cases a <;> decide
  exact h ⟨n, hn⟩

/-- No character of an alphabet is left out or changed when a text is read. -/
lemma Alphabet.char_ne (a : Alphabet) (hn : n < 64) {c : Char}
    (hc : c ∈ ['=', ' ', '\n', '\r', '\t']) : a.char n ≠ c := by
  have hnone : ['=', ' ', '\n', '\r', '\t'].all (fun c => a.number? c = none) = true := by
    cases a <;> decide
  intro heq
  have hsome := a.number?_char hn
  rw [heq, of_decide_eq_true (all_eq_true.mp hnone c hc)] at hsome
  cases hsome

/-! ### Groups of six bits -/

/-- The numbers below 64 that a sequence of bytes is written as. -/
def sextetsOf : List UInt8 → List ℕ
  | [] => []
  | [x] => [x.toNat / 4, x.toNat % 4 * 16]
  | [x, y] => [x.toNat / 4, x.toNat % 4 * 16 + y.toNat / 16, y.toNat % 16 * 4]
  | x :: y :: z :: bytes =>
    x.toNat / 4 :: (x.toNat % 4 * 16 + y.toNat / 16) :: (y.toNat % 16 * 4 + z.toNat / 64) ::
      z.toNat % 64 :: sextetsOf bytes

/-- The bytes that a sequence of numbers below 64 stands for. One number alone has too few bits. -/
def bytesOf : List ℕ → Option (List UInt8)
  | [] => some []
  | [_] => none
  | [a, b] => some [UInt8.ofNat (a * 4 + b / 16)]
  | [a, b, c] => some [UInt8.ofNat (a * 4 + b / 16), UInt8.ofNat (b % 16 * 16 + c / 4)]
  | a :: b :: c :: d :: sextets =>
    (bytesOf sextets).map fun bytes =>
      UInt8.ofNat (a * 4 + b / 16) :: UInt8.ofNat (b % 16 * 16 + c / 4) ::
        UInt8.ofNat (c % 4 * 64 + d) :: bytes

lemma ofNat_eq_of_eq_toNat (x : UInt8) (h : n = x.toNat) : UInt8.ofNat n = x := by
  rw [h, UInt8.ofNat_toNat]

lemma bytesOf_sextetsOf (bytes : List UInt8) : bytesOf (sextetsOf bytes) = some bytes := by
  induction bytes using sextetsOf.induct with
  | case1 => rfl
  | case2 x =>
    have hx := x.toNat_lt
    rw [sextetsOf, bytesOf, ofNat_eq_of_eq_toNat x (by omega)]
  | case3 x y =>
    have hx := x.toNat_lt
    have hy := y.toNat_lt
    rw [sextetsOf, bytesOf, ofNat_eq_of_eq_toNat x (by omega),
      ofNat_eq_of_eq_toNat y (by omega)]
  | case4 x y z bytes ih =>
    have hx := x.toNat_lt
    have hy := y.toNat_lt
    have hz := z.toNat_lt
    rw [sextetsOf, bytesOf, ih, Option.map_some, ofNat_eq_of_eq_toNat x (by omega),
      ofNat_eq_of_eq_toNat y (by omega), ofNat_eq_of_eq_toNat z (by omega)]

lemma lt_of_mem_sextetsOf {bytes : List UInt8} (h : n ∈ sextetsOf bytes) : n < 64 := by
  induction bytes using sextetsOf.induct with
  | case1 => cases h
  | case2 x =>
    have hx := x.toNat_lt
    simp only [sextetsOf, mem_cons, not_mem_nil, or_false] at h
    omega
  | case3 x y =>
    have hx := x.toNat_lt
    have hy := y.toNat_lt
    simp only [sextetsOf, mem_cons, not_mem_nil, or_false] at h
    omega
  | case4 x y z bytes ih =>
    have hx := x.toNat_lt
    have hy := y.toNat_lt
    have hz := z.toNat_lt
    simp only [sextetsOf, mem_cons] at h
    rcases h with h | h | h | h | h
    · omega
    · omega
    · omega
    · omega
    · exact ih h

lemma length_sextetsOf_mod (bytes : List UInt8) : (sextetsOf bytes).length % 4 ≠ 1 := by
  induction bytes using sextetsOf.induct with
  | case4 x y z bytes ih =>
    simp only [sextetsOf, length_cons]
    omega
  | _ => simp [sextetsOf]

/-! ### Texts -/

variable (a : Alphabet)

/-- `RawStdEncoding.EncodeToString`, `RawURLEncoding.EncodeToString`. -/
def encodeRaw (bytes : List UInt8) : List Char := (sextetsOf bytes).map a.char

/-- The bytes of a text that has characters of the alphabet only. -/
def decodeChars (text : List Char) : Option (List UInt8) :=
  (text.mapM a.number?).bind bytesOf

/-- The characters that a decoder looks at. -/
def skipLineBreaks (text : List Char) : List Char := text.filter fun c => c ≠ '\n' ∧ c ≠ '\r'

/-- `RawStdEncoding.DecodeString`, `RawURLEncoding.DecodeString`. -/
def decodeRaw (text : List Char) : Option (List UInt8) := decodeChars a (skipLineBreaks text)

/-- A text without the padding at its end. -/
def unpad (text : List Char) : List Char :=
  match text.reverse with
  | '=' :: '=' :: rest => rest.reverse
  | '=' :: rest => rest.reverse
  | _ => text

/-- `StdEncoding.DecodeString`, `URLEncoding.DecodeString`. -/
def decodePadded (text : List Char) : Option (List UInt8) :=
  let text := skipLineBreaks text
  if text.length % 4 = 0 then decodeChars a (unpad text) else none

/-- A text with the padding that makes its length a multiple of four. -/
def pad (text : List Char) : List Char :=
  if text.length % 4 = 0 then text else text ++ List.replicate (4 - text.length % 4) '='

variable {a}

lemma decodeChars_encodeRaw (bytes : List UInt8) :
    decodeChars a (encodeRaw a bytes) = some bytes := by
  have hnumbers : ∀ l : List ℕ, (∀ n ∈ l, n < 64) → (l.map a.char).mapM a.number? = some l := by
    intro l hl
    induction l with
    | nil => rfl
    | cons n l ih =>
      rw [forall_mem_cons] at hl
      rw [map_cons, mapM_cons, a.number?_char hl.1, ih hl.2]
      rfl
  rw [decodeChars, encodeRaw, hnumbers _ fun n hn => lt_of_mem_sextetsOf hn, Option.bind_some,
    bytesOf_sextetsOf]

lemma ne_of_mem_encodeRaw {bytes : List UInt8} {c d : Char} (h : c ∈ encodeRaw a bytes)
    (hd : d ∈ ['=', ' ', '\n', '\r', '\t']) : c ≠ d := by
  obtain ⟨n, hn, rfl⟩ := mem_map.mp h
  exact a.char_ne (lt_of_mem_sextetsOf hn) hd

lemma skipLineBreaks_encodeRaw (bytes : List UInt8) :
    skipLineBreaks (encodeRaw a bytes) = encodeRaw a bytes := by
  apply filter_eq_self.mpr
  intro c hc
  simp [ne_of_mem_encodeRaw hc (d := '\n') (by simp), ne_of_mem_encodeRaw hc (d := '\r') (by simp)]

lemma unpad_pad {text : List Char} (hmod : text.length % 4 ≠ 1) (heq : '=' ∉ text) :
    unpad (pad text) = text := by
  have hself : unpad text = text := by
    unfold unpad
    have hmem : '=' ∉ text.reverse := by simpa using heq
    split <;> simp_all
  unfold pad
  split_ifs with h0
  · exact hself
  · obtain h | h : text.length % 4 = 2 ∨ text.length % 4 = 3 := by omega
    · rw [h]
      simp [unpad]
    · rw [h]
      have hhead : ∀ l, text.reverse ≠ '=' :: l := by
        intro l hl
        exact heq (mem_reverse.mp (hl ▸ mem_cons_self))
      simp only [unpad, replicate, reverse_append, reverse_cons, reverse_nil,
        nil_append, singleton_append]
      exact reverse_reverse text

lemma length_pad_mod (text : List Char) : (pad text).length % 4 = 0 := by
  unfold pad
  split_ifs with h
  · exact h
  · rw [length_append, length_replicate]
    omega

/-- A text without padding can be decoded by a decoder that asks for it, once it is added. -/
lemma decodePadded_pad_encodeRaw (bytes : List UInt8) :
    decodePadded a (pad (encodeRaw a bytes)) = some bytes := by
  have hmem : '=' ∉ encodeRaw a bytes := fun h => ne_of_mem_encodeRaw h (by simp) rfl
  have hskip : skipLineBreaks (pad (encodeRaw a bytes)) = pad (encodeRaw a bytes) := by
    unfold pad
    split_ifs
    · exact skipLineBreaks_encodeRaw bytes
    · rw [skipLineBreaks, filter_append, ← skipLineBreaks, skipLineBreaks_encodeRaw,
        filter_replicate]
      simp
  have hmod : (encodeRaw a bytes).length % 4 ≠ 1 := by
    rw [encodeRaw, length_map]
    exact length_sextetsOf_mod bytes
  rw [decodePadded, hskip, if_pos (length_pad_mod _), unpad_pad hmod hmem, decodeChars_encodeRaw]

end Base64
