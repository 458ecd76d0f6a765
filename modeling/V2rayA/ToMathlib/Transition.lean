import Mathlib

/-!
# Transition systems with enabled actions

A system is given by its initial states and by what each action does to a state; `none`
means that the action is not enabled there. `ReachableWhen P` collects the states of the runs
all of whose steps satisfy a condition `P` on the state before the step and on the action.
-/

namespace Transition

/-- A transition system with states in `σ` and actions in `α`. -/
structure System (σ α : Type*) where
  /-- The initial states. -/
  init : σ → Prop
  /-- The state after an action, if the action is enabled. -/
  next : σ → α → Option σ

namespace System

variable {σ α : Type*} (M : System σ α)

/-- The states that are reached by steps that satisfy `P`. -/
inductive ReachableWhen (P : σ → α → Prop) : σ → Prop
  | init {s : σ} (h : M.init s) : ReachableWhen P s
  | step {s t : σ} {a : α} (hs : ReachableWhen P s) (ha : P s a) (h : M.next s a = some t) :
      ReachableWhen P t

/-- The states that are reached by any steps. -/
abbrev Reachable : σ → Prop := M.ReachableWhen fun _ _ => True

/-- The state after a list of actions. -/
def run (s : σ) (as : List α) : Option σ := as.foldlM M.next s

/-- The state after a list of actions that all satisfy `P`. -/
def runWhen (P : σ → α → Prop) [∀ s a, Decidable (P s a)] (s : σ) (as : List α) : Option σ :=
  as.foldlM (fun s a => if P s a then M.next s a else none) s

variable {M}

variable (M) in
/-- A run leads from one state to another. -/
def Leads (s t : σ) : Prop := ∃ as, M.run s as = some t

/-- A run that goes on where another ends. -/
lemma run_append {s t u : σ} {as bs : List α} (h : M.run s as = some t)
    (h' : M.run t bs = some u) : M.run s (as ++ bs) = some u := by
  rw [run, List.foldlM_append]
  exact Option.bind_eq_some_iff.mpr ⟨t, h, h'⟩

lemma Leads.refl (s : σ) : M.Leads s s := ⟨[], rfl⟩

lemma Leads.step {s t : σ} {a : α} (h : M.next s a = some t) : M.Leads s t :=
  ⟨[a], by simp [run, h]⟩

lemma Leads.trans {s t u : σ} (h : M.Leads s t) (h' : M.Leads t u) : M.Leads s u := by
  obtain ⟨as, h⟩ := h
  obtain ⟨bs, h'⟩ := h'
  exact ⟨as ++ bs, run_append h h'⟩

/-- What holds initially and is preserved by every step that satisfies `P` holds in every
state that is reached by such steps. -/
lemma ReachableWhen.invariant {P : σ → α → Prop} {I : σ → Prop}
    (hinit : ∀ s, M.init s → I s)
    (hstep : ∀ s a t, I s → P s a → M.next s a = some t → I t) {s : σ}
    (hs : M.ReachableWhen P s) : I s := by
  induction hs with
  | init h => exact hinit _ h
  | step _ ha h ih => exact hstep _ _ _ ih ha h

lemma ReachableWhen.run {P : σ → α → Prop} [∀ s a, Decidable (P s a)] {s t : σ}
    (hs : M.ReachableWhen P s) (as : List α) (h : M.runWhen P s as = some t) :
    M.ReachableWhen P t := by
  induction as generalizing s with
  | nil =>
    obtain rfl : s = t := by simpa [System.runWhen] using h
    exact hs
  | cons a as ih =>
    rw [System.runWhen, List.foldlM_cons] at h
    obtain ⟨u, hu, hrun⟩ := Option.bind_eq_some_iff.mp h
    split_ifs at hu with ha
    exact ih (.step hs ha hu) hrun

/-- A run from a reached state ends in a reached state. -/
lemma Reachable.run {s t : σ} (hs : M.Reachable s) (as : List α) (h : M.run s as = some t) :
    M.Reachable t :=
  ReachableWhen.run hs as (by simpa [System.runWhen, System.run] using h)

end System

end Transition
