import Mathlib

/-!
# JSON documents

Documents of JSON up to their layout. Fields of an object stand in the order of the text, and a name
may occur more than once. Numbers are integers.

* `Json.get?`, `Json.set`: read or write a field. Writing replaces the first field of that name, or
  adds one at the end.
* `Json.set_eq_self_iff`: writing changes nothing if and only if the field has that value.
* `Json.struct`: the document that a structure is written as.
* `Json.decodes`: an object can be read into a structure.
-/

/-- A document. -/
inductive Json
  | null
  | bool (b : Bool)
  | num (n : ℤ)
  | str (s : String)
  | arr (items : List Json)
  | obj (fields : List (String × Json))
  deriving Inhabited

namespace Json

mutual

/-- Whether two documents are the same. -/
def same : Json → Json → Bool
  | null, null => true
  | bool b, bool b' => b = b'
  | num n, num n' => n = n'
  | str s, str s' => s = s'
  | arr l, arr l' => sameItems l l'
  | obj l, obj l' => sameFields l l'
  | _, _ => false

/-- Whether two arrays are the same. -/
def sameItems : List Json → List Json → Bool
  | [], [] => true
  | j :: l, j' :: l' => same j j' && sameItems l l'
  | _, _ => false

/-- Whether two objects are the same. -/
def sameFields : List (String × Json) → List (String × Json) → Bool
  | [], [] => true
  | (k, j) :: l, (k', j') :: l' => k = k' && same j j' && sameFields l l'
  | _, _ => false

end

mutual

lemma same_iff : ∀ {j j' : Json}, same j j' ↔ j = j'
  | null, j' => by cases j' <;> simp [same]
  | bool b, j' => by cases j' <;> simp [same]
  | num n, j' => by cases j' <;> simp [same]
  | str s, j' => by cases j' <;> simp [same]
  | arr l, j' => by cases j' <;> simp [same, @sameItems_iff l]
  | obj l, j' => by cases j' <;> simp [same, @sameFields_iff l]

lemma sameItems_iff : ∀ {l l' : List Json}, sameItems l l' ↔ l = l'
  | [], l' => by cases l' <;> simp [sameItems]
  | j :: l, l' => by cases l' <;> simp [sameItems, @same_iff j, @sameItems_iff l]

lemma sameFields_iff : ∀ {l l' : List (String × Json)}, sameFields l l' ↔ l = l'
  | [], l' => by cases l' <;> simp [sameFields]
  | (k, j) :: l, l' => by
    cases l' <;> simp [sameFields, @same_iff j, @sameFields_iff l, Prod.ext_iff]

end

instance : DecidableEq Json := fun _ _ => decidable_of_iff _ same_iff

/-! ### Text -/

/-- A character of a string. -/
def escapeChar (c : Char) : String :=
  if c = '"' then "\\\""
  else if c = '\\' then "\\\\"
  else if c.toNat < 32 then
    let digits := Nat.toDigits 16 c.toNat
    "\\u" ++ String.ofList (List.replicate (4 - digits.length) '0' ++ digits)
  else String.singleton c

/-- A string with its quotation marks. -/
def quote (s : String) : String := "\"" ++ String.join (s.toList.map escapeChar) ++ "\""

mutual

/-- The text of a document, without spaces. -/
def text : Json → String
  | null => "null"
  | bool b => toString b
  | num n => toString n
  | str s => quote s
  | arr l => "[" ++ String.intercalate "," (textItems l) ++ "]"
  | obj l => "\x7b" ++ String.intercalate "," (textFields l) ++ "\x7d"

/-- The texts of the items of an array. -/
def textItems : List Json → List String
  | [] => []
  | j :: l => text j :: textItems l

/-- The texts of the fields of an object. -/
def textFields : List (String × Json) → List String
  | [] => []
  | (k, j) :: l => (quote k ++ ":" ++ text j) :: textFields l

end

/-- A value as a string: a string without quotation marks, and nothing for `null`. -/
def asString : Json → String
  | null => ""
  | str s => s
  | j => j.text

/-- A value as an integer; `0` if it is none. -/
def asInt : Json → ℤ
  | bool true => 1
  | num n => n
  | str s => s.toInt?.getD 0
  | _ => 0

/-- A value as a truth value. -/
def asBool : Json → Bool
  | bool b => b
  | num n => n ≠ 0
  | str s => s.toLower ∈ ["1", "t", "true"]
  | _ => false

/-- A value as a list. -/
def asArray : Json → List Json
  | null => []
  | arr l => l
  | j => [j]

/-! ### Fields -/

/-- The first field of a name. -/
def get? (k : String) : Json → Option Json
  | obj l => (l.find? fun f => f.1 = k).map Prod.snd
  | _ => none

/-- Write a field into a list of fields. -/
def setField (k : String) (v : Json) : List (String × Json) → List (String × Json)
  | [] => [(k, v)]
  | f :: l => if f.1 = k then (k, v) :: l else f :: setField k v l

/-- Write a field. What is neither an object nor an array is replaced by an object, and an array has
no fields. -/
def set : Json → String → Json → Option Json
  | obj l, k, v => some (obj (setField k v l))
  | arr _, _, _ => none
  | _, k, v => some (obj [(k, v)])

section Fields

variable {k k' : String} {v : Json} {l : List (String × Json)} {j : Json}

lemma get?_obj_nil : get? k (obj []) = none := rfl

lemma get?_obj_cons {f : String × Json} :
    get? k (obj (f :: l)) = if f.1 = k then some f.2 else get? k (obj l) := by
  simp only [get?]
  by_cases hf : f.1 = k <;> simp [hf]

lemma get?_setField :
    get? k' (obj (setField k v l)) = if k' = k then some v else get? k' (obj l) := by
  induction l with
  | nil => simp only [setField, get?_obj_cons, eq_comm]
  | cons f l ih =>
    by_cases hf : f.1 = k
    · rw [setField, if_pos hf, get?_obj_cons, get?_obj_cons]
      by_cases hk : k' = k
      · simp [hk]
      · have hk' : k ≠ k' := fun h => hk h.symm
        simp [hk, hk', hf]
    · rw [setField, if_neg hf, get?_obj_cons, get?_obj_cons, ih]
      by_cases hk : k' = k
      · have hf' : f.1 ≠ k' := fun h => hf (h.trans hk)
        simp [hk, hf]
      · simp [hk]

lemma setField_eq_self_iff : setField k v l = l ↔ get? k (obj l) = some v := by
  induction l with
  | nil => simp [setField, get?_obj_nil]
  | cons f l ih =>
    rw [setField, get?_obj_cons]
    by_cases hf : f.1 = k
    · simp [hf, Prod.ext_iff, eq_comm]
    · simp [hf, ih]

end Fields

/-! ### Writing structures -/

/-- Whether a value is left out of a document if its field has the option `omitempty`. -/
def isZero : Json → Bool
  | null => true
  | bool b => !b
  | num n => n = 0
  | str s => s = ""
  | arr l => l.isEmpty
  | obj l => l.isEmpty

/-- The fields of a structure: each with its name, whether it has the option `omitempty`, and its
value. -/
def writtenFields : List (String × Bool × Json) → List (String × Json)
  | [] => []
  | (k, omitEmpty, v) :: l =>
    if omitEmpty ∧ v.isZero then writtenFields l else (k, v) :: writtenFields l

/-- The document that a structure is written as. -/
def struct (fields : List (String × Bool × Json)) : Json := obj (writtenFields fields)

lemma get?_struct_cons {k k' : String} {omitEmpty : Bool} {v : Json}
    {l : List (String × Bool × Json)} :
    get? k' (struct ((k, omitEmpty, v) :: l)) =
      if k = k' ∧ ¬(omitEmpty ∧ v.isZero) then some v else get? k' (struct l) := by
  unfold struct
  rw [writtenFields]
  by_cases homit : omitEmpty ∧ v.isZero
  · rw [if_pos homit, if_neg fun h => h.2 homit]
  · rw [if_neg homit, get?_obj_cons]
    by_cases hk : k = k' <;> simp [homit]

lemma get?_struct_nil {k : String} : get? k (struct []) = none := rfl

/-! ### Reading into structures -/

/-- `null`, or a string. -/
def isString : Json → Bool
  | null | str _ => true
  | _ => false

/-- `null`, or a number. -/
def isInt : Json → Bool
  | null | num _ => true
  | _ => false

/-- `null`, or an array whose items satisfy a predicate. -/
def isArrayOf (p : Json → Bool) : Json → Bool
  | null => true
  | arr l => l.all p
  | _ => false

/-- Whether a name in a text stands for a field; case does not matter. -/
def names (key field : String) : Bool :=
  key.toList.map Char.toLower = field.toList.map Char.toLower

/-- Whether a document can be read into a structure whose fields have the types that are given. -/
def decodes (fields : List (String × (Json → Bool))) : Json → Bool
  | null => true
  | obj l => l.all fun f => fields.all fun c => !names f.1 c.1 || c.2 f.2
  | _ => false

lemma isArrayOf_mono {p q : Json → Bool} {j : Json} (hpq : ∀ j, p j → q j)
    (h : isArrayOf p j) : isArrayOf q j := by
  cases j with
  | arr l => exact List.all_eq_true.mpr fun j hj => hpq j (List.all_eq_true.mp h j hj)
  | null => rfl
  | _ => cases h

/-- A structure with fewer fields, or with fields of more general types, can be read as well. -/
lemma decodes_mono {fields fields' : List (String × (Json → Bool))} {j : Json}
    (hfields : ∀ c' ∈ fields', ∃ c ∈ fields, c.1 = c'.1 ∧ ∀ j, c.2 j → c'.2 j)
    (h : decodes fields j) : decodes fields' j := by
  cases j with
  | obj l =>
    simp only [decodes, List.all_eq_true, Bool.or_eq_true] at h ⊢
    intro f hf c' hc'
    obtain ⟨c, hc, hname, htype⟩ := hfields c' hc'
    exact (hname ▸ h f hf c hc).imp_right (htype _)
  | null => rfl
  | _ => cases h

/-- The value that is read into a field: that of the last name that stands for it. -/
def field (k : String) : Json → Json
  | obj l => ((l.filter fun f => names f.1 k ∧ f.2 ≠ null).getLast?.map Prod.snd).getD null
  | _ => null

end Json
