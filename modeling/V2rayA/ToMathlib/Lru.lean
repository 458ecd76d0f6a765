import V2rayA.Go.Map

/-!
# Caches that evict the least recently used entry

A cache is a map whose entries stand in the order of their last use, the last one first; using an
entry is assigning its value again. `Recent c k v S` says that `k` is cached with `v` and that only
keys of `S` were used since: as long as `S` has fewer keys than the cache has places, the entry
stays.
-/

namespace Lru

open List Go.Map

variable {κ β : Type} [DecidableEq κ]

/-- The cache after a write, if it has `n` places. -/
def add (n : ℕ) (c : Go.Map κ β) (k : κ) (v : β) : Go.Map κ β := (c.put k v).take n

/-- No key is cached twice. -/
def Distinct (c : Go.Map κ β) : Prop := (c.map Prod.fst).Nodup

/-- The key is cached with the value, and only keys of `S` were used since. -/
def Recent (c : Go.Map κ β) (k : κ) (v : β) (S : Finset κ) : Prop :=
  ∃ pre post, c = pre ++ (k, v) :: post ∧ ∀ e ∈ pre, e.1 ∈ S

variable {c : Go.Map κ β} {k j : κ} {v w : β} {S T : Finset κ} {n : ℕ}

lemma mem_add {e : κ × β} (h : e ∈ add n c k v) : e ∈ c.put k v := mem_of_mem_take h

lemma Distinct.add (h : Distinct c) : Distinct (add n c k v) :=
  List.Nodup.sublist ((take_sublist _ _).map _) (nodup_put h)

omit [DecidableEq κ] in
lemma Recent.mono (h : Recent c k v S) (hST : S ⊆ T) : Recent c k v T := by
  obtain ⟨pre, post, rfl, hpre⟩ := h
  exact ⟨pre, post, rfl, fun e he => hST (hpre e he)⟩

lemma Recent.get? (h : Recent c k v S) (hc : Distinct c) : c.get? k = some v := by
  obtain ⟨pre, post, rfl, -⟩ := h
  exact (get?_eq_some_iff hc).mpr (by simp)

lemma recent_put : Recent (c.put k v) k v ∅ := ⟨[], _, rfl, nofun⟩

/-- Another key moves to the front. -/
lemma Recent.put (h : Recent c k v S) (hj : j ≠ k) : Recent (c.put j w) k v (insert j S) := by
  obtain ⟨pre, post, rfl, hpre⟩ := h
  refine ⟨(j, w) :: pre.filter (·.1 ≠ j), post.filter (·.1 ≠ j), ?_, ?_⟩
  · simp [put, hj.symm]
  · rintro e (_ | ⟨_, he⟩)
    · exact Finset.mem_insert_self _ _
    · exact Finset.mem_insert_of_mem (hpre e (mem_filter.mp he).1)

/-- Only the entries behind the first `n` are evicted, and fewer than `n` are in front. -/
lemma Recent.take (h : Recent c k v S) (hc : Distinct c) (hS : S.card < n) :
    Recent (c.take n) k v S := by
  obtain ⟨pre, post, rfl, hpre⟩ := h
  have hlength : pre.length ≤ S.card := by
    have hnodup : (pre.map Prod.fst).Nodup :=
      hc.sublist ((sublist_append_left _ _).map _)
    rw [← length_map (f := Prod.fst), ← toFinset_card_of_nodup hnodup]
    refine Finset.card_le_card fun j hj => ?_
    obtain ⟨e, he, rfl⟩ := mem_map.mp (mem_toFinset.mp hj)
    exact hpre e he
  refine ⟨pre, post.take (n - pre.length - 1), ?_, hpre⟩
  obtain ⟨m, hm⟩ : ∃ m, n - pre.length = m + 1 := ⟨n - pre.length - 1, by omega⟩
  rw [take_append, take_of_length_le (by omega), hm, take_succ_cons,
    Nat.add_sub_cancel]

lemma recent_add (hc : Distinct c) (hn : 0 < n) : Recent (add n c k v) k v ∅ :=
  recent_put.take (nodup_put hc) hn

lemma Recent.add (h : Recent c k v S) (hc : Distinct c) (hj : j ≠ k)
    (hS : (insert j S).card < n) : Recent (add n c j w) k v (insert j S) :=
  (h.put hj).take (nodup_put hc) hS

end Lru
