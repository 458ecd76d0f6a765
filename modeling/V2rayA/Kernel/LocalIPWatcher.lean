import Mathlib

/-!
# The watcher of the local addresses

At every tick the watcher compares the addresses of the interfaces with those of the tick before. It
calls one function for each address that is new and another one for each that is gone.

* `calls_balanced_iff`: the calls add up to the addresses, each once, as long as no new address occurs
  twice in a snapshot.
-/

namespace V2rayA

open List

/-- `LocalIPWatcher`, with the arguments of the calls that it has made. -/
structure LocalIPWatcher where
  cidrPool : Finset String := ∅
  /-- `Close` has replaced the two functions by one that does nothing. -/
  closed : Bool := false
  added : Multiset String := 0
  removed : Multiset String := 0

/-- What `GetLocalCIDR` returns; `none` for an error. -/
abbrev Snapshot : Type := Option (List String)

namespace LocalIPWatcher

/-- `SyncIP`. The pool is replaced after both loops. -/
def syncIP (w : LocalIPWatcher) : Snapshot → LocalIPWatcher
  | none => w
  | some cidrs =>
    let m := cidrs.toFinset
    if w.closed then { w with cidrPool := m }
    else
      { w with
        cidrPool := m
        added := w.added + cidrs.filter (· ∉ w.cidrPool)
        removed := w.removed + (w.cidrPool \ m).val }

/-- `Close`. -/
def close (w : LocalIPWatcher) : LocalIPWatcher := { w with cidrPool := ∅, closed := true }

/-- The watcher after some ticks. -/
def watch (w : LocalIPWatcher) (snapshots : List Snapshot) : LocalIPWatcher :=
  snapshots.foldl syncIP w

/-- The addresses of the last snapshot. -/
def latest (snapshots : List Snapshot) : List String :=
  snapshots.foldl (fun last cidrs => cidrs.getD last) []

/-- A new watcher has added, and not removed, the addresses of the last snapshot, each once. -/
def Balanced (snapshots : List Snapshot) : Prop :=
  (watch {} snapshots).added = (watch {} snapshots).removed + (latest snapshots).toFinset.val

variable {snapshots : List Snapshot} {cidrs : List String}

lemma watch_concat (w : LocalIPWatcher) (cidrs : Snapshot) :
    w.watch (snapshots ++ [cidrs]) = (w.watch snapshots).syncIP cidrs := by
  simp [watch]

lemma watch_spec (snapshots : List Snapshot) :
    (watch {} snapshots).cidrPool = (latest snapshots).toFinset ∧
      (watch {} snapshots).closed = false := by
  induction snapshots using reverseRecOn with
  | nil => exact ⟨rfl, rfl⟩
  | append_singleton snapshots cidrs ih =>
    rw [watch_concat]
    cases cidrs with
    | none => simpa [syncIP, latest] using ih
    | some cidrs => simp [syncIP, latest, ih.2]

/-- A tick keeps the balance if no new address occurs twice. -/
lemma balanced_concat_iff (h : Balanced snapshots) :
    Balanced (snapshots ++ [some cidrs]) ↔ (cidrs.filter (· ∉ latest snapshots)).Nodup := by
  obtain ⟨hpool, hopen⟩ := watch_spec snapshots
  have hlatest : latest (snapshots ++ [some cidrs]) = cidrs := by simp [latest]
  rw [Balanced] at h ⊢
  rw [watch_concat, hlatest, nodup_iff_count_le_one, Multiset.ext]
  simp only [syncIP, hopen, hpool, h, Bool.false_eq_true, if_false, Multiset.count_add,
    Multiset.coe_count, Multiset.count_eq_of_nodup (Finset.nodup _), Finset.mem_val,
    Finset.mem_sdiff, mem_toFinset]
  -- each address for itself
  refine forall_congr' fun a => ?_
  by_cases hold : a ∈ latest snapshots
  · rw [count_eq_zero.mpr (by simp [hold])]
    by_cases ha : a ∈ cidrs <;> simp [hold, ha]
  · rw [count_filter (by simpa using hold)]
    simp only [hold, ← count_pos_iff, false_and]
    split_ifs <;> omega

lemma watch_of_closed {w : LocalIPWatcher} (h : w.closed) (snapshots : List Snapshot) :
    (w.watch snapshots).added = w.added ∧ (w.watch snapshots).removed = w.removed := by
  induction snapshots generalizing w with
  | nil => exact ⟨rfl, rfl⟩
  | cons cidrs snapshots ih =>
    have hstep : (w.syncIP cidrs).closed ∧ (w.syncIP cidrs).added = w.added ∧
        (w.syncIP cidrs).removed = w.removed := by
      cases cidrs <;> simp [syncIP, h]
    rw [← hstep.2.1, ← hstep.2.2]
    exact ih hstep.1

/-- The calls add up to the addresses of the last snapshot after each tick if and only if, in no
snapshot, an address occurs twice that the snapshot before does not have. After `Close` there are
no calls. -/
theorem calls_balanced_iff (snapshots : List Snapshot) :
    ((∀ l, l <+: snapshots → Balanced l) ↔
      ∀ l cidrs, l ++ [some cidrs] <+: snapshots → (cidrs.filter (· ∉ latest l)).Nodup) ∧
    ∀ later, (watch (watch {} snapshots).close later).added = (watch {} snapshots).added ∧
      (watch (watch {} snapshots).close later).removed = (watch {} snapshots).removed := by
  refine ⟨?_, watch_of_closed rfl⟩
  induction snapshots using reverseRecOn with
  | nil => simp [Balanced, watch, latest]
  | append_singleton snapshots cidrs ih =>
    simp only [prefix_concat_iff, or_imp, forall_and]
    rw [← ih]
    refine and_congr_left fun hall => ?_
    have hbalanced := hall _ prefix_rfl
    cases cidrs with
    | none => simpa [Balanced, watch, syncIP, latest] using hbalanced
    | some cidrs => simpa using balanced_concat_iff hbalanced

/-- Two interfaces have the same address: it is added twice, and removed once when both are gone. -/
theorem not_balanced_twice :
    ¬Balanced [some ["fe80::1/64", "fe80::1/64"]] ∧
      ¬Balanced [some ["fe80::1/64", "fe80::1/64"], some []] := by
  unfold Balanced
  decide

end LocalIPWatcher

end V2rayA
