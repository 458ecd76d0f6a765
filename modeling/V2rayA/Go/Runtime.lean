import Mathlib

/-!
# Choices that Go leaves to its runtime

Two results of a Go program are not determined by the program: the order in which `range`
visits the entries of a map, and the order in which `sort.Sort` and `sort.Slice`, which are
not stable, leave equal elements. A `Runtime` is one way to make these choices. A statement
about every `Runtime` holds for every run of the program.

* `StrictWeakOn`: the comparison functions for which `sort.Sort` sorts.
* `Runtime.inOrder`: the runtime that visits maps in the order of their entries and sorts by
  insertion, for evaluating a program on concrete input, and `Runtime.reversed`, which visits them
  from the end.

The module also has two loops that change a slice in place:

* `reverseRange` reverses a segment by swaps from both ends (`reverseRange_eq`);
* `editDown` visits a slice from its end and changes or removes the entry it stands at
  (`editDown_eq_filterMap`).
-/

namespace Go

open List

variable {α : Type}

/-- `less` is a strict weak order on the elements of `l`: no two elements are less than each
other, and not being less is transitive. -/
structure StrictWeakOn (less : α → α → Bool) (l : List α) : Prop where
  asymm : ∀ a ∈ l, ∀ b ∈ l, less a b = true → less b a = false
  trans : ∀ a ∈ l, ∀ b ∈ l, ∀ c ∈ l, less b a = false → less c b = false → less c a = false

/-- One way to visit maps and to sort. `site` tells the `range` statements of a program
apart, since two of them may visit equal maps in different orders. -/
structure Runtime where
  /-- The order in which the `range` statement `site` visits the entries of a map. -/
  mapOrder : {α : Type} → (site : ℕ) → List α → List α
  /-- Every entry is visited once. -/
  mapOrder_perm : ∀ {α : Type} (site : ℕ) (l : List α), (mapOrder site l).Perm l
  /-- The result of `sort.Sort` with the given `Less`. -/
  sort : {α : Type} → (α → α → Bool) → List α → List α
  /-- Sorting moves elements only. -/
  sort_perm : ∀ {α : Type} (less : α → α → Bool) (l : List α), (sort less l).Perm l
  /-- No element of the result is less than an earlier one. -/
  sort_sorted : ∀ {α : Type} (less : α → α → Bool) (l : List α), StrictWeakOn less l →
    (sort less l).Pairwise (fun a b => less b a = false)

variable {less : α → α → Bool}

lemma StrictWeakOn.mono {l l' : List α} (h : StrictWeakOn less l) (hsub : l' ⊆ l) :
    StrictWeakOn less l' where
  asymm a ha b hb := h.asymm a (hsub ha) b (hsub hb)
  trans a ha b hb c hc := h.trans a (hsub ha) b (hsub hb) c (hsub hc)

/-- Inserting into a sorted list keeps it sorted. -/
private lemma pairwise_orderedInsert (a : α) (l : List α) (h : StrictWeakOn less (a :: l))
    (hl : l.Pairwise (fun a b => less b a = false)) :
    (l.orderedInsert (fun a b => less b a = false) a).Pairwise
      (fun a b => less b a = false) := by
  induction l with
  | nil => simp
  | cons b l ih =>
    rw [pairwise_cons] at hl
    rw [orderedInsert_cons]
    split_ifs with hab
    · refine pairwise_cons.mpr ⟨?_, pairwise_cons.mpr hl⟩
      intro c hc
      rcases mem_cons.mp hc with rfl | hc
      · exact hab
      · exact h.trans a (by simp) b (by simp) c (by simp [hc]) hab (hl.1 c hc)
    · have hba : less a b = false := by
        have hlt : less b a := by simpa using hab
        exact h.asymm b (by simp) a (by simp) hlt
      refine pairwise_cons.mpr ⟨?_, ih (h.mono ?_) hl.2⟩
      · intro c hc
        rcases (mem_orderedInsert _).mp hc with rfl | hc
        · exact hba
        · exact hl.1 c hc
      · intro c hc
        rcases mem_cons.mp hc with rfl | hc
        · simp
        · simp [hc]

/-- The runtime that visits maps in the order of their entries and sorts by insertion. -/
def Runtime.inOrder : Runtime where
  mapOrder _ l := l
  mapOrder_perm _ l := List.Perm.refl l
  sort less l := l.insertionSort (fun a b => less b a = false)
  sort_perm _ l := List.perm_insertionSort _ l
  sort_sorted less l h := by
    induction l with
    | nil => simp
    | cons a l ih =>
      have htail := ih (h.mono (by simp))
      rw [List.insertionSort_cons]
      refine pairwise_orderedInsert a _ (h.mono ?_) htail
      intro c hc
      rcases List.mem_cons.mp hc with rfl | hc
      · simp
      · simp [(List.mem_insertionSort _).mp hc]

/-- The runtime that visits maps from the last entry to the first. -/
def Runtime.reversed : Runtime :=
  { Runtime.inOrder with
    mapOrder := fun _ l => l.reverse
    mapOrder_perm := fun _ l => l.reverse_perm }

@[simp]
lemma Runtime.mem_mapOrder (rt : Runtime) {site : ℕ} {l : List α} {a : α} :
    a ∈ rt.mapOrder site l ↔ a ∈ l :=
  (rt.mapOrder_perm site l).mem_iff

@[simp]
lemma Runtime.mem_sort (rt : Runtime) {l : List α} {a : α} :
    a ∈ rt.sort less l ↔ a ∈ l :=
  (rt.sort_perm less l).mem_iff

/-! ## Reversal in place -/

/-- The assignment `ws[i], ws[j] = ws[j], ws[i]`. Positions outside the slice, where Go
panics, leave it as it is. -/
def swap (ws : List α) (i j : ℕ) : List α :=
  match ws[i]?, ws[j]? with
  | some a, some b => (ws.set i b).set j a
  | _, _ => ws

/-- The loop that swaps `ws[start + j]` with `ws[i - j - 1]` for `j < (i - start) / 2`. -/
def reverseRange (ws : List α) (start i : ℕ) : List α :=
  (List.range ((i - start) / 2)).foldl (fun ws j => swap ws (start + j) (i - j - 1)) ws

@[simp]
lemma length_swap (ws : List α) (i j : ℕ) : (swap ws i j).length = ws.length := by
  unfold swap
  split <;> simp

lemma getElem?_swap {ws : List α} {i j : ℕ} (hi : i < ws.length) (hj : j < ws.length)
    (p : ℕ) :
    (swap ws i j)[p]? = if p = j then ws[i]? else if p = i then ws[j]? else ws[p]? := by
  have hi' : ws[i]? = some ws[i] := getElem?_eq_getElem hi
  have hj' : ws[j]? = some ws[j] := getElem?_eq_getElem hj
  unfold swap
  rw [hi', hj']
  by_cases hpj : p = j
  · subst hpj
    simp [hj]
  · have hjp : ¬j = p := fun h => hpj h.symm
    by_cases hpi : p = i
    · subst hpi
      simp [hjp, hpj, hi]
    · have hip : ¬i = p := fun h => hpi h.symm
      simp [hjp, hip, hpj, hpi]

/-- After `k` swaps the outer `k` positions on either side of the segment are mirrored and
the rest is untouched. -/
private lemma getElem?_foldl_swap (ws : List α) {start i : ℕ} (hi : i ≤ ws.length) (k : ℕ)
    (hk : k ≤ (i - start) / 2) :
    ((List.range k).foldl (fun ws j => swap ws (start + j) (i - j - 1)) ws).length =
        ws.length ∧
      ∀ p : ℕ, ((List.range k).foldl (fun ws j => swap ws (start + j) (i - j - 1)) ws)[p]? =
        if (start ≤ p ∧ p < start + k) ∨ (i - k ≤ p ∧ p < i) then ws[start + i - 1 - p]?
        else ws[p]? := by
  induction k with
  | zero =>
    refine ⟨by simp, fun p => ?_⟩
    have : ¬((start ≤ p ∧ p < start + 0) ∨ (i - 0 ≤ p ∧ p < i)) := by omega
    rw [if_neg this]
    simp
  | succ k ih =>
    obtain ⟨hlen, hget⟩ := ih (by omega)
    rw [range_succ, foldl_append, foldl_cons, foldl_nil]
    refine ⟨by rw [length_swap, hlen], fun p => ?_⟩
    rw [getElem?_swap (by omega) (by omega), hget, hget, hget]
    by_cases h1 : p = i - k - 1
    · subst h1
      rw [if_pos rfl, if_neg (by omega), if_pos (by omega)]
      congr 1
      omega
    · by_cases h2 : p = start + k
      · subst h2
        rw [if_neg h1, if_pos rfl, if_neg (by omega), if_pos (by omega)]
        congr 1
        omega
      · rw [if_neg h1, if_neg h2]
        have hiff : ((start ≤ p ∧ p < start + k) ∨ (i - k ≤ p ∧ p < i)) ↔
            ((start ≤ p ∧ p < start + (k + 1)) ∨ (i - (k + 1) ≤ p ∧ p < i)) := by
          omega
        simp only [hiff]

/-- The swaps reverse the segment from `start` up to `i` and leave the rest. -/
lemma reverseRange_eq (ws : List α) {start i : ℕ} (hstart : start ≤ i)
    (hi : i ≤ ws.length) :
    reverseRange ws start i =
      ws.take start ++ (((ws.drop start).take (i - start)).reverse ++ ws.drop i) := by
  apply ext_getElem?
  intro p
  have hlen : (ws.take start).length = start := by simp; omega
  have hmid : ((ws.drop start).take (i - start)).length = i - start := by simp; omega
  rw [reverseRange, (getElem?_foldl_swap ws hi _ (le_refl _)).2 p]
  rcases Nat.lt_or_ge p start with hp | hp
  · rw [if_neg (by omega), getElem?_append_left (by omega),
      getElem?_take_of_lt hp]
  · rw [getElem?_append_right (by omega), hlen]
    rcases Nat.lt_or_ge p i with hpi | hpi
    · rw [getElem?_append_left (by rw [length_reverse, hmid]; omega),
        getElem?_reverse (by omega), hmid, getElem?_take_of_lt (by omega),
        getElem?_drop]
      split_ifs with h
      · congr 1
        omega
      · -- the middle position of an odd segment is its own mirror image
        congr 1
        omega
    · rw [if_neg (by omega), getElem?_append_right (by rw [length_reverse, hmid]; omega),
        length_reverse, hmid, getElem?_drop]
      congr 1
      omega

/-! ## Editing from the end -/

/-- The loop `for i := len(l) - 1; i >= 0; i--` that replaces `l[i]` by `f l[i]`, or removes
it from the slice when that is `none`. -/
def editDown (f : α → Option α) (l : List α) : List α :=
  (List.range l.length).foldr (fun i after =>
    match after[i]? with
    | none => after
    | some a =>
      match f a with
      | none => after.eraseIdx i
      | some b => after.set i b) l

/-- Going downwards, a removal moves only entries that have been visited, so every entry is
visited once. -/
lemma editDown_eq_filterMap (f : α → Option α) (l : List α) :
    editDown f l = l.filterMap f := by
  -- The entries from `front.length` on have been visited.
  have hloop : ∀ front back : List α,
      (range' front.length back.length).foldr (fun i after =>
        match after[i]? with
        | none => after
        | some a =>
          match f a with
          | none => after.eraseIdx i
          | some b => after.set i b) (front ++ back) = front ++ back.filterMap f := by
    intro front back
    induction back generalizing front with
    | nil => simp
    | cons a back ih =>
      have hrec := ih (front ++ [a])
      simp only [length_append, length_singleton, append_assoc,
        singleton_append] at hrec
      rw [length_cons, range'_succ, foldr_cons, hrec]
      rw [getElem?_append_right (le_refl _), Nat.sub_self, getElem?_cons_zero]
      cases hfa : f a with
      | none =>
        simp [eraseIdx_append_of_length_le (le_refl front.length), hfa]
      | some b => simp [set_append_right _ _ (le_refl front.length), hfa]
  have hall := hloop [] l
  simpa [editDown, range_eq_range'] using hall

end Go
