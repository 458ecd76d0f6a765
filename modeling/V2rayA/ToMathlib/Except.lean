import Mathlib

/-!
# Computations that may fail

Inversion of a successful computation in `Except`: a bind that succeeds succeeds in both parts
(`Except.bind_eq_ok_iff`), and a loop that succeeds keeps what each of its steps keeps
(`Except.invariant_foldlM`).
-/

namespace Except

open List

variable {ε α β : Type}

variable {x : Except ε α}

lemma bind_eq_ok_iff {f : α → Except ε β} {b : β} :
    x >>= f = .ok b ↔ ∃ a, x = .ok a ∧ f a = .ok b := by
  cases x with
  | error e => simp [bind, Except.bind]
  | ok a => simp [bind, Except.bind]

/-- A value, or an error if there is none. -/
def ofOption (x : Option α) (e : ε) : Except ε α := x.elim (.error e) .ok

@[simp] lemma ofOption_eq_ok_iff {x : Option α} {e : ε} {a : α} :
    ofOption x e = .ok a ↔ x = some a := by
  cases x <;> simp [ofOption]

/-- An error unless a condition holds. -/
def require (p : Prop) [Decidable p] (e : ε) : Except ε Unit := if p then .ok ⟨⟩ else .error e

@[simp] lemma require_eq_ok_iff {p : Prop} [Decidable p] {e : ε} {u : Unit} :
    require p e = .ok u ↔ p := by
  unfold require
  split_ifs with hp <;> simp [hp]

lemma map_eq_ok_iff {f : α → β} {b : β} :
    f <$> x = .ok b ↔ ∃ a, x = .ok a ∧ f a = b := by
  cases x <;> simp

lemma mapError_eq_ok_iff {ε' : Type} {f : ε → ε'} {a : α} :
    x.mapError f = .ok a ↔ x = .ok a := by
  cases x <;> simp [Except.mapError]

/-- A loop of checks succeeds if each of them does. -/
lemma forM_eq_ok_iff {f : α → Except ε Unit} {l : List α} :
    forM l f = .ok ⟨⟩ ↔ ∀ a ∈ l, f a = .ok ⟨⟩ := by
  induction l with
  | nil => simp [pure, Except.pure]
  | cons a l ih =>
    rw [forM_cons, bind_eq_ok_iff, forall_mem_cons, ← ih]
    constructor
    · rintro ⟨⟨⟩, ha, hl⟩
      exact ⟨ha, hl⟩
    · rintro ⟨ha, hl⟩
      exact ⟨⟨⟩, ha, hl⟩

/-- What holds before a loop and is kept by every step of it holds after it. -/
lemma invariant_foldlM {f : β → α → Except ε β} {P : β → Prop} {l : List α} {b b' : β}
    (h : l.foldlM f b = .ok b') (hinit : P b)
    (hstep : ∀ a ∈ l, ∀ b b', P b → f b a = .ok b' → P b') : P b' := by
  induction l generalizing b with
  | nil =>
    obtain rfl : b = b' := Except.ok.inj h
    exact hinit
  | cons a l ih =>
    rw [foldlM_cons] at h
    obtain ⟨c, hc, hl⟩ := bind_eq_ok_iff.mp h
    exact ih hl (hstep a mem_cons_self b c hinit hc)
      fun a' ha' => hstep a' (mem_cons_of_mem a ha')

end Except
