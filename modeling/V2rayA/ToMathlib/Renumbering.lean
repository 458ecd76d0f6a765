import Mathlib

/-!
# Removing positions from a list and renumbering references into it

A list whose entries are referred to by position loses some of its entries. Removing a set of
positions at once is `List.removeIdxs`. A reference is renumbered one removed position at a time by
`dropShift`: it is dropped when it names the removed position, moves down by one when it
lies above it, and stays otherwise.

* `getElem?_removeIdxs`: a kept position `i` is found after the removal at the number of
  kept positions below `i`.
* `removedBy ds`: the positions, in the original numbering, that a run of `dropShift` over
  `ds` drops (`renumber_eq_none_iff`); every other position moves down by the number of
  dropped positions below it (`renumber_eq_some`).
* `removedBy_eq_self` and `exists_removedBy_not_mem`: a run drops exactly the positions it
  was given if and only if they come in strictly decreasing order; otherwise it drops a
  position it was not given.
* `renumber_of_decreasing`: a run over removals in strictly decreasing order gives a kept
  position the number at which `List.removeIdxs` leaves its entry.
-/

namespace List

variable {α : Type*}

/-- The entries of `l` at the positions that do not satisfy `p`, in order. -/
def removeIdxs (p : ℕ → Prop) [DecidablePred p] : List α → List α
  | [] => []
  | a :: l =>
    if p 0 then removeIdxs (fun i => p (i + 1)) l
    else a :: removeIdxs (fun i => p (i + 1)) l

/-- A kept entry stands, after the removal, behind the kept entries that preceded it. -/
lemma getElem?_removeIdxs (p : ℕ → Prop) [DecidablePred p] (l : List α) (i : ℕ)
    (hi : ¬p i) : (l.removeIdxs p)[Nat.count (fun j => ¬p j) i]? = l[i]? := by
  induction l generalizing p i with
  | nil => simp [removeIdxs]
  | cons a l ih =>
    cases i with
    | zero => simp [removeIdxs, hi]
    | succ i =>
      have hrec := ih (fun j => p (j + 1)) i hi
      rw [Nat.count_succ']
      by_cases h0 : p 0 <;> simp [removeIdxs, h0, hrec]

/-- Removing positions that do not occur leaves the list as it is. -/
lemma removeIdxs_eq_self (p : ℕ → Prop) [DecidablePred p] (l : List α)
    (h : ∀ i < l.length, ¬p i) : l.removeIdxs p = l := by
  induction l generalizing p with
  | nil => rfl
  | cons a l ih =>
    have h0 : ¬p 0 := h 0 (by simp)
    have htail := ih (fun i => p (i + 1)) (fun i hi => h (i + 1) (by simpa using hi))
    simp [removeIdxs, h0, htail]

lemma removeIdxs_sublist (p : ℕ → Prop) [DecidablePred p] (l : List α) :
    l.removeIdxs p <+ l := by
  induction l generalizing p with
  | nil => exact .slnil
  | cons a l ih =>
    unfold removeIdxs
    split_ifs
    · exact (ih _).cons a
    · exact (ih _).cons_cons a

/-- Only the positions inside the list matter. -/
lemma removeIdxs_congr {p q : ℕ → Prop} [DecidablePred p] [DecidablePred q] (l : List α)
    (h : ∀ i < l.length, (p i ↔ q i)) : l.removeIdxs p = l.removeIdxs q := by
  induction l generalizing p q with
  | nil => rfl
  | cons a l ih =>
    have h0 : p 0 ↔ q 0 := h 0 (by simp)
    have htail := ih (p := fun i => p (i + 1)) (q := fun i => q (i + 1))
      (fun i hi => h (i + 1) (by simpa using hi))
    simp only [removeIdxs, h0, htail]

/-- The removal keeps as many entries as there are kept positions inside the list. -/
lemma length_removeIdxs (p : ℕ → Prop) [DecidablePred p] (l : List α) :
    (l.removeIdxs p).length = Nat.count (fun j => ¬p j) l.length := by
  induction l generalizing p with
  | nil => simp [removeIdxs]
  | cons a l ih =>
    rw [List.length_cons, Nat.count_succ']
    by_cases h0 : p 0 <;> simp [removeIdxs, h0, ih]

end List

namespace Renumbering

/-- Renumber the reference `x` after the entry at position `d` has been removed: `none`
when `x` referred to that entry. -/
def dropShift (d x : ℤ) : Option ℤ :=
  if d = x then none else if d < x then some (x - 1) else some x

/-- Renumber `x` for the removals `ds`, one after the other. -/
def renumber (ds : List ℤ) (x : ℤ) : Option ℤ :=
  ds.foldlM (fun y d => dropShift d y) x

@[simp]
lemma renumber_nil (x : ℤ) : renumber [] x = some x := rfl

lemma renumber_cons (d : ℤ) (ds : List ℤ) (x : ℤ) :
    renumber (d :: ds) x = (dropShift d x).bind (renumber ds) := by
  cases h : dropShift d x <;> simp [renumber, h]

/-- The position that `dropShift d` sends to `y`. -/
def unshift (d y : ℤ) : ℤ := if y < d then y else y + 1

lemma dropShift_eq_none_iff {d x : ℤ} : dropShift d x = none ↔ x = d := by
  unfold dropShift
  split_ifs with h h' <;> simp <;> omega

lemma dropShift_eq_some_iff {d x y : ℤ} : dropShift d x = some y ↔ x = unshift d y := by
  unfold dropShift unshift
  split_ifs with h h' h'' <;> simp <;> omega

lemma unshift_ne (d y : ℤ) : unshift d y ≠ d := by
  unfold unshift
  split_ifs <;> omega

lemma unshift_injective (d : ℤ) : Function.Injective (unshift d) := by
  intro y z h
  unfold unshift at h
  split_ifs at h <;> omega

lemma le_unshift (d y : ℤ) : y ≤ unshift d y := by
  unfold unshift
  split_ifs <;> omega

lemma unshift_lt_unshift_iff {d y z : ℤ} : unshift d y < unshift d z ↔ y < z := by
  unfold unshift
  split_ifs <;> omega

/-- The positions, in the numbering before the run, that the removals `ds` drop. -/
def removedBy : List ℤ → List ℤ
  | [] => []
  | d :: ds => d :: (removedBy ds).map (unshift d)

attribute [local simp] removedBy

@[simp]
lemma length_removedBy (ds : List ℤ) : (removedBy ds).length = ds.length := by
  induction ds with
  | nil => rfl
  | cons d ds ih => simp [ih]

lemma nodup_removedBy (ds : List ℤ) : (removedBy ds).Nodup := by
  induction ds with
  | nil => simp
  | cons d ds ih =>
    refine List.nodup_cons.mpr ⟨?_, ih.map (unshift_injective d)⟩
    intro hmem
    obtain ⟨y, -, hy⟩ := List.mem_map.mp hmem
    exact unshift_ne d y hy

/-- A run drops exactly the positions of `removedBy`. -/
lemma renumber_eq_none_iff (ds : List ℤ) (x : ℤ) :
    renumber ds x = none ↔ x ∈ removedBy ds := by
  induction ds generalizing x with
  | nil => simp
  | cons d ds ih =>
    rw [renumber_cons, removedBy, List.mem_cons, List.mem_map]
    cases h : dropShift d x with
    | none =>
      have hx : x = d := dropShift_eq_none_iff.mp h
      simp [hx]
    | some y =>
      have hx : x = unshift d y := dropShift_eq_some_iff.mp h
      subst hx
      have hne : unshift d y ≠ d := unshift_ne d y
      simp only [Option.bind_some, ih, hne, false_or]
      constructor
      · intro hy
        exact ⟨y, hy, rfl⟩
      · rintro ⟨z, hz, hzy⟩
        rwa [← unshift_injective d hzy]

/-- A position that is not dropped moves down by the number of dropped positions below it. -/
lemma renumber_eq_some (ds : List ℤ) (x : ℤ) (hx : x ∉ removedBy ds) :
    renumber ds x = some (x - (removedBy ds).countP (· < x)) := by
  induction ds generalizing x with
  | nil => simp
  | cons d ds ih =>
    rw [renumber_cons]
    cases h : dropShift d x with
    | none => exact absurd (by simp [dropShift_eq_none_iff.mp h]) hx
    | some y =>
      have hxy : x = unshift d y := dropShift_eq_some_iff.mp h
      subst hxy
      have hy : y ∉ removedBy ds := fun hmem =>
        hx (List.mem_cons_of_mem _ (List.mem_map_of_mem hmem))
      have hcount : ((removedBy ds).map (unshift d)).countP (· < unshift d y) =
          (removedBy ds).countP (· < y) := by
        rw [List.countP_map]
        refine List.countP_congr fun z _ => ?_
        simp [unshift_lt_unshift_iff]
      rw [Option.bind_some, ih y hy, removedBy, List.countP_cons, hcount]
      -- `d` itself lies below `unshift d y` exactly when `y` was moved.
      congr 1
      unfold unshift
      split_ifs <;> simp_all <;> omega

variable {ds : List ℤ}

/-- Removals in strictly decreasing order drop exactly the positions they name. -/
lemma removedBy_eq_self (h : ds.Pairwise (· > ·)) : removedBy ds = ds := by
  induction ds with
  | nil => rfl
  | cons d ds ih =>
    rw [List.pairwise_cons] at h
    rw [removedBy, ih h.2]
    congr 1
    conv_rhs => rw [← List.map_id ds]
    refine List.map_congr_left fun y hy => ?_
    have hlt : y < d := h.1 y hy
    simp [unshift, hlt]

/-- Every dropped position is at least as large as some removal that was asked for. -/
lemma exists_le_of_mem_removedBy {x : ℤ} (hx : x ∈ removedBy ds) :
    ∃ d ∈ ds, d ≤ x := by
  induction ds generalizing x with
  | nil => simp at hx
  | cons d ds ih =>
    rw [removedBy, List.mem_cons, List.mem_map] at hx
    rcases hx with rfl | ⟨y, hy, rfl⟩
    · exact ⟨x, by simp, le_refl x⟩
    · obtain ⟨e, he, hle⟩ := ih hy
      exact ⟨e, List.mem_cons_of_mem _ he, hle.trans (le_unshift d y)⟩

lemma sum_le_sum_map_unshift (d : ℤ) (l : List ℤ) : l.sum ≤ (l.map (unshift d)).sum := by
  simpa using List.sum_le_sum (f := id) (l := l) fun y _ => le_unshift d y

lemma sum_le_sum_removedBy (ds : List ℤ) : ds.sum ≤ (removedBy ds).sum := by
  induction ds with
  | nil => simp
  | cons d ds ih =>
    have hmap := sum_le_sum_map_unshift d (removedBy ds)
    simp only [removedBy, List.sum_cons]
    omega

/-- A shift that leaves the sum of a list as it is moves none of its entries. -/
lemma lt_of_sum_map_unshift_le {d : ℤ} {l : List ℤ}
    (h : (l.map (unshift d)).sum ≤ l.sum) : ∀ y ∈ l, y < d := by
  induction l with
  | nil => simp
  | cons z l ih =>
    have hz := le_unshift d z
    have hl := sum_le_sum_map_unshift d l
    simp only [List.map_cons, List.sum_cons] at h
    have htail := ih (by omega)
    intro y hy
    rcases List.mem_cons.mp hy with rfl | hy
    · by_contra hlt
      have : unshift d y = y + 1 := by simp [unshift, hlt]
      omega
    · exact htail y hy

/-- The dropped positions have the sum of the requested ones only when the latter come in
strictly decreasing order. -/
lemma pairwise_gt_of_sum_removedBy_le (h : (removedBy ds).sum ≤ ds.sum) :
    ds.Pairwise (· > ·) := by
  induction ds with
  | nil => simp
  | cons d ds ih =>
    have hmap := sum_le_sum_map_unshift d (removedBy ds)
    have hrec := sum_le_sum_removedBy ds
    simp only [removedBy, List.sum_cons] at h
    have htail : ds.Pairwise (· > ·) := ih (by omega)
    have hlt : ∀ y ∈ removedBy ds, y < d := lt_of_sum_map_unshift_le (by omega)
    rw [removedBy_eq_self htail] at hlt
    exact List.pairwise_cons.mpr ⟨hlt, htail⟩

/-- Removals that do not come in strictly decreasing order drop a position that none of
them names. The dropped positions are as many as the removals, so were they all named, they would
be a permutation of the removals and have the same sum. -/
lemma exists_removedBy_not_mem (h : ¬ds.Pairwise (· > ·)) :
    ∃ x ∈ removedBy ds, x ∉ ds := by
  by_contra hall
  push Not at hall
  have hsub : (removedBy ds).Subperm ds := (nodup_removedBy ds).subperm hall
  have hperm : (removedBy ds).Perm ds := hsub.perm_of_length_le (by simp)
  exact h (pairwise_gt_of_sum_removedBy_le hperm.sum_eq.le)

/-- Counting the removals below `i` is counting the positions below `i` that are removed. -/
lemma countP_lt_eq_count {ds : List ℕ} (hnodup : ds.Nodup) (i : ℕ) :
    ds.countP (· < i) = Nat.count (· ∈ ds) i := by
  rw [Nat.count_eq_card_filter_range, List.countP_eq_length_filter,
    ← List.toFinset_card_of_nodup (hnodup.filter _)]
  congr 1
  ext j
  simp [and_comm]

/-- The new number of a kept position is the number of kept positions below it. -/
lemma sub_countP_eq_count_not {ds : List ℕ} (hnodup : ds.Nodup) (i : ℕ) :
    (i : ℤ) - (ds.countP (· < i) : ℕ) = (Nat.count (fun j => ¬j ∈ ds) i : ℕ) := by
  have hsum : Nat.count (· ∈ ds) i + Nat.count (fun j => ¬j ∈ ds) i = i := by
    induction i with
    | zero => simp
    | succ i ih =>
      rw [Nat.count_succ, Nat.count_succ]
      by_cases h : i ∈ ds <;> simp [h] <;> omega
  rw [countP_lt_eq_count hnodup]
  omega

/-- Numbering positions from `k` instead of zero changes nothing. -/
lemma renumber_map_add (k : ℤ) (ds : List ℤ) (x : ℤ) :
    renumber (ds.map (· + k)) (x + k) = (renumber ds x).map (· + k) := by
  induction ds generalizing x with
  | nil => simp
  | cons d ds ih =>
    rw [List.map_cons, renumber_cons, renumber_cons]
    have hshift : dropShift (d + k) (x + k) = (dropShift d x).map (· + k) := by
      unfold dropShift
      split_ifs <;> simp <;> omega
    rw [hshift]
    cases dropShift d x with
    | none => rfl
    | some y => exact ih y

/-- Removals in strictly decreasing order give a kept position the number at which its entry
stands afterwards. -/
lemma renumber_of_decreasing (hds : ds.Pairwise (· > ·)) (hnonneg : ∀ d ∈ ds, 0 ≤ d) (i : ℕ) :
    renumber ds i =
      if (i : ℤ) ∈ ds then none
      else some ((Nat.count (fun j : ℕ => ¬(j : ℤ) ∈ ds) i : ℕ) : ℤ) := by
  split_ifs with hi
  · rw [renumber_eq_none_iff, removedBy_eq_self hds]
    exact hi
  · rw [renumber_eq_some ds i (by rwa [removedBy_eq_self hds]), removedBy_eq_self hds]
    -- Over the natural numbers this is `sub_countP_eq_count_not`.
    obtain ⟨es, rfl⟩ : ∃ es : List ℕ, ds = es.map (fun e : ℕ => (e : ℤ)) := by
      refine ⟨ds.map Int.toNat, ?_⟩
      rw [List.map_map]
      conv_lhs => rw [← List.map_id ds]
      refine List.map_congr_left fun d hd => ?_
      simp [Int.toNat_of_nonneg (hnonneg d hd)]
    have hnodup : es.Nodup := by
      have := hds.imp fun {a b} (h : a > b) => ne_of_gt h
      exact List.Nodup.of_map _ this
    have hcount : (es.map fun e : ℕ => (e : ℤ)).countP (· < (i : ℤ)) = es.countP (· < i) := by
      rw [List.countP_map]
      exact List.countP_congr fun e _ => by simp
    rw [hcount, sub_countP_eq_count_not hnodup]
    simp

/-- One more removal leaves one position fewer. -/
private lemma count_not_mem_cons {d : ℤ} {n : ℕ} (hd : d ∉ ds) (h0 : 0 ≤ d) (hn : d < n) :
    Nat.count (fun j : ℕ => ¬(j : ℤ) ∈ d :: ds) n + 1 =
      Nat.count (fun j : ℕ => ¬(j : ℤ) ∈ ds) n := by
  obtain ⟨i, rfl⟩ := Int.eq_ofNat_of_zero_le h0
  rw [Nat.count_eq_card_filter_range, Nat.count_eq_card_filter_range]
  have hmem : i ∈ (Finset.range n).filter fun j : ℕ => ¬(j : ℤ) ∈ ds := by
    simpa using ⟨by omega, hd⟩
  rw [← Finset.card_erase_add_one hmem]
  congr 2
  ext j
  simp only [Finset.mem_filter, Finset.mem_erase, List.mem_cons]
  constructor
  · rintro ⟨hj, hnot⟩
    exact ⟨fun h => hnot (.inl (by rw [h])), hj, fun h => hnot (.inr h)⟩
  · rintro ⟨hne, hj, hnot⟩
    exact ⟨hj, fun h => h.elim (fun h => hne (by exact_mod_cast h)) hnot⟩

/-- Removals from the back to the front, some of them repeated, leave no position behind the
end of the list. -/
lemma renumber_lt_count {n : ℕ} (hds : ds.Pairwise (· ≥ ·)) (hrange : ∀ d ∈ ds, 0 ≤ d ∧ d < n)
    {x y : ℤ} (hx : 0 ≤ x ∧ x < n) (h : renumber ds x = some y) :
    0 ≤ y ∧ y < Nat.count (fun j : ℕ => ¬(j : ℤ) ∈ ds) n := by
  induction ds generalizing x n with
  | nil =>
    obtain rfl : x = y := by simpa using h
    simpa using hx
  | cons d ds ih =>
    obtain ⟨hle, hds⟩ := List.pairwise_cons.mp hds
    obtain ⟨hd, hrange⟩ := List.forall_mem_cons.mp hrange
    rw [renumber_cons] at h
    obtain ⟨x', hx', h⟩ := Option.bind_eq_some_iff.mp h
    have hshift : 0 ≤ x' ∧ x' ≤ x ∧ (d < x → x' < x) ∧ x ≠ d := by
      unfold dropShift at hx'
      split_ifs at hx' <;> obtain rfl := Option.some.inj hx' <;> refine ⟨?_, ?_, ?_, ?_⟩ <;> omega
    by_cases hmem : d ∈ ds
    · have hsame : ∀ j : ℕ, (j : ℤ) ∈ d :: ds ↔ (j : ℤ) ∈ ds := by
        intro j
        rw [List.mem_cons]
        exact ⟨fun h => h.elim (fun h => h ▸ hmem) id, .inr⟩
      simpa only [hsame] using ih hds hrange ⟨hshift.1, by omega⟩ h
    · -- The removals still to come are in front of `d`, so the last position is free.
      obtain ⟨m, rfl⟩ : ∃ m, n = m + 1 := ⟨n - 1, by omega⟩
      have hlt : ∀ e ∈ ds, e < d := by
        intro e he
        have hne : e ≠ d := fun h => hmem (h ▸ he)
        have := hle e he
        omega
      have hlast : ((m : ℕ) : ℤ) ∉ ds := fun hm => by
        have := hlt m hm
        omega
      have hcount := count_not_mem_cons hmem hd.1 hd.2
      have hsucc := Nat.count_succ (fun j : ℕ => ¬(j : ℤ) ∈ ds) m
      rw [if_pos hlast] at hsucc
      rw [show Nat.count (fun j : ℕ => ¬(j : ℤ) ∈ d :: ds) (m + 1) =
        Nat.count (fun j : ℕ => ¬(j : ℤ) ∈ ds) m by omega]
      refine ih hds (fun e he => ⟨(hrange e he).1, ?_⟩) ⟨hshift.1, ?_⟩ h
      · have := hlt e he
        omega
      · by_cases hdx : d < x
        · have := hshift.2.2.1 hdx
          omega
        · omega

end Renumbering
