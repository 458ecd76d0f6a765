import Mathlib

/-!
# `LIKE`

`like` is the operator `LIKE … ESCAPE '\'`, which ignores the case of ASCII letters.

* `escape`: quote a text so that it stands for itself in a pattern.
* `like_escape_append`: a quoted text matches itself.
* `like_escape_percent_iff`: a quoted text followed by `%` matches what begins with it.
-/

namespace Sql

open List

/-- Whether a pattern matches a text. -/
def like : (pattern text : List Char) → Bool
  | [], text => text.isEmpty
  | c :: pattern, text =>
    if c = '%' then text.tails.any (like pattern)
    else if c = '\\' then
      match pattern, text with
      | d :: pattern, e :: text => d.toLower = e.toLower && like pattern text
      | _, _ => false
    else
      match text with
      | [] => false
      | d :: text => (c = '_' || c.toLower = d.toLower) && like pattern text

/-- Quote a character. -/
def escapeChar (c : Char) : List Char := if c ∈ ['\\', '%', '_'] then ['\\', c] else [c]

/-- Quote a text. -/
def escape (text : List Char) : List Char := text.flatMap escapeChar

variable {p q text : List Char}

/-- A quoted character matches itself in either case. -/
lemma like_escapeChar_append (c : Char) :
    like (escapeChar c ++ q) text =
      match text with
      | [] => false
      | d :: text => c.toLower = d.toLower && like q text := by
  unfold escapeChar
  split_ifs with hc
  · cases text <;> simp [like]
  · simp only [mem_cons, not_or] at hc
    obtain ⟨hbackslash, hpercent, hunderscore⟩ := hc
    rw [singleton_append, like.eq_def]
    cases text <;> simp [hbackslash, hpercent, hunderscore]

/-- A quoted text matches a beginning that equals it up to case. -/
lemma like_escape_append :
    like (escape p ++ q) text ↔
      ∃ t t', text = t ++ t' ∧ t.map Char.toLower = p.map Char.toLower ∧ like q t' := by
  induction p generalizing text with
  | nil =>
    simp only [escape, map_nil, map_eq_nil_iff]
    constructor
    · intro h
      exact ⟨[], text, rfl, rfl, h⟩
    · rintro ⟨t, t', rfl, rfl, h⟩
      exact h
  | cons c p ih =>
    rw [escape, flatMap_cons, append_assoc, like_escapeChar_append]
    cases text with
    | nil => simp
    | cons d text =>
      simp only [Bool.and_eq_true, decide_eq_true_eq]
      rw [← escape, ih]
      constructor
      · rintro ⟨hc, t, t', rfl, ht, h⟩
        exact ⟨d :: t, t', rfl, by rw [map_cons, map_cons, hc, ht], h⟩
      · rintro ⟨t, t', heq, ht, h⟩
        cases t with
        | nil => simp at ht
        | cons d' t =>
          obtain ⟨rfl, rfl⟩ := cons.inj heq
          obtain ⟨hc, ht⟩ := cons.inj ht
          exact ⟨hc.symm, t, t', rfl, ht, h⟩

lemma like_percent : like ['%'] text := by
  rw [like.eq_def]
  simp only [if_true, any_eq_true]
  exact ⟨[], by simp, rfl⟩

/-- A quoted text followed by `%` matches what begins with it up to case. -/
lemma like_escape_percent_iff :
    like (escape p ++ ['%']) text ↔
      p.map Char.toLower <+: text.map Char.toLower := by
  rw [like_escape_append]
  constructor
  · rintro ⟨t, t', rfl, ht, -⟩
    rw [map_append, ht]
    exact List.prefix_append _ _
  · intro h
    refine ⟨text.take p.length, text.drop p.length, (take_append_drop _ _).symm, ?_,
      like_percent⟩
    have htake := List.prefix_iff_eq_take.mp h
    rw [length_map] at htake
    rw [map_take, ← htake]

end Sql
