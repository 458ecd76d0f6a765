import Mathlib

/-!
# Go maps

A map of Go as the list of its entries, for maps that a program looks up, writes and ranges
over. Assigning to a key replaces its entry.
-/

namespace Go

open List

/-- A map, as the list of its entries. -/
abbrev Map (κ σ : Type) : Type := List (κ × σ)

namespace Map

variable {κ σ : Type} [DecidableEq κ]

/-- The value at a key. -/
def get? (m : Map κ σ) (k : κ) : Option σ := (m.find? fun e => e.1 = k).map Prod.snd

/-- The assignment `m[k] = v`. -/
def put (m : Map κ σ) (k : κ) (v : σ) : Map κ σ := (k, v) :: m.filter fun e => e.1 ≠ k

/-- Change the value at a key, if there is one. -/
def modify (m : Map κ σ) (k : κ) (f : σ → σ) : Map κ σ :=
  List.map (fun e => if e.1 = k then (e.1, f e.2) else e) m

/-- Delete the keys that are not in a list. -/
def keep (m : Map κ σ) (ks : List κ) : Map κ σ := m.filter fun e => e.1 ∈ ks

/-- The map after a sequence of assignments, from the first to the last. -/
def ofWrites (ws : List (κ × σ)) : Map κ σ := ws.foldl (fun m e => m.put e.1 e.2) []

variable {m : Map κ σ} {k k' : κ} {v v' : σ}

lemma mem_of_get? (h : m.get? k = some v) : (k, v) ∈ m := by
  obtain ⟨e, he, rfl⟩ := Option.map_eq_some_iff.mp h
  obtain rfl : e.1 = k := by simpa using find?_some he
  exact mem_of_find?_eq_some he

lemma mem_put : (k', v') ∈ m.put k v ↔ (k' = k ∧ v' = v) ∨ (k' ≠ k ∧ (k', v') ∈ m) := by
  simp [put, and_comm]

lemma mem_keep {ks : List κ} : (k, v) ∈ m.keep ks ↔ (k, v) ∈ m ∧ k ∈ ks := by
  simp [keep]

variable {f : σ → σ}

lemma mem_modify :
    (k', v') ∈ m.modify k f ↔
      if k' = k then ∃ v, (k', v) ∈ m ∧ v' = f v else (k', v') ∈ m := by
  simp only [modify, mem_map, Prod.exists]
  constructor
  · rintro ⟨a, b, hab, heq⟩
    split_ifs at heq ⊢ <;> grind
  · intro h
    split_ifs at h with hk
    · obtain ⟨v, hv, rfl⟩ := h
      exact ⟨k', v, hv, by simp [hk]⟩
    · exact ⟨k', v', h, by simp [hk]⟩

lemma get?_put : (m.put k v).get? k' = if k' = k then some v else m.get? k' := by
  by_cases hk : k' = k
  · subst hk
    simp [get?, put]
  · have hne : ¬k = k' := fun h => hk h.symm
    simp only [get?, put, find?_cons, hne, decide_false, find?_filter, hk]
    congr 2
    funext e
    by_cases he : e.1 = k' <;> simp [he, hk]

lemma get?_cons {e : κ × σ} : get? (e :: m) k = if e.1 = k then some e.2 else get? m k := by
  unfold get?
  rw [find?_cons]
  by_cases he : e.1 = k <;> simp [he]

lemma get?_keep {ks : List κ} :
    (m.keep ks).get? k = if k ∈ ks then m.get? k else none := by
  induction m with
  | nil => simp [keep, get?]
  | cons e m ih =>
    by_cases he : e.1 ∈ ks
    · rw [show keep (e :: m) ks = e :: keep m ks by simp [keep, he], get?_cons, get?_cons, ih]
      grind
    · rw [show keep (e :: m) ks = keep m ks by simp [keep, he], get?_cons, ih]
      grind

lemma get?_modify :
    (m.modify k f).get? k' = if k' = k then (m.get? k').map f else m.get? k' := by
  induction m with
  | nil => simp [get?, modify]
  | cons e m ih =>
    have hcons : modify (e :: m) k f =
        (if e.1 = k then (e.1, f e.2) else e) :: modify m k f := rfl
    rw [hcons, get?_cons, get?_cons, ih]
    by_cases he : e.1 = k' <;> by_cases hk : k' = k <;> grind

lemma modify_put : (m.put k v).modify k f = m.put k (f v) := by
  unfold modify put
  rw [map_cons, if_pos rfl]
  congr 1
  refine (map_congr_left fun e he => ?_).trans (map_id _)
  rw [if_neg (by simpa using (mem_filter.mp he).2)]
  rfl

lemma get?_filter {p : κ → Bool} :
    get? (m.filter fun e => p e.1) k = if p k then m.get? k else none := by
  induction m with
  | nil => simp [get?]
  | cons e m ih => by_cases he : e.1 = k <;> by_cases hp : p e.1 = true <;> grind [get?_cons]

/-- An assignment keeps the keys distinct. -/
lemma nodup_put (h : (m.map Prod.fst).Nodup) : ((m.put k v).map Prod.fst).Nodup := by
  rw [put, map_cons, nodup_cons]
  refine ⟨?_, (filter_sublist.map _).nodup h⟩
  simp

/-- With distinct keys, what is found at a key is its entry. -/
lemma get?_eq_some_iff (h : (m.map Prod.fst).Nodup) : m.get? k = some v ↔ (k, v) ∈ m := by
  refine ⟨mem_of_get?, fun hmem => ?_⟩
  induction m with
  | nil => simp at hmem
  | cons e m ih =>
    rw [map_cons, nodup_cons] at h
    rw [get?_cons]
    rcases mem_cons.mp hmem with rfl | hmem
    · simp
    · have hne : e.1 ≠ k := fun he => h.1 (he ▸ mem_map_of_mem (f := Prod.fst) hmem)
      rw [if_neg hne, ih h.2 hmem]

/-! ### Assignments in sequence -/

variable {ws : List (κ × σ)}

lemma ofWrites_concat : ofWrites (ws ++ [(k, v)]) = (ofWrites ws).put k v := by
  simp [ofWrites]

lemma mem_of_get?_ofWrites (h : (ofWrites ws).get? k = some v) : (k, v) ∈ ws := by
  induction ws using reverseRecOn with
  | nil => simp [ofWrites, get?] at h
  | append_singleton ws e ih =>
    rw [ofWrites_concat, get?_put] at h
    split_ifs at h with hk
    · subst hk
      rw [← Option.some.inj h]
      exact mem_append_right _ (mem_singleton_self e)
    · exact mem_append_left _ (ih h)

/-- The entries of the map are what is found there. -/
lemma mem_ofWrites : (k, v) ∈ ofWrites ws ↔ (ofWrites ws).get? k = some v := by
  induction ws using reverseRecOn with
  | nil => simp [ofWrites, get?]
  | append_singleton ws e ih =>
    rw [ofWrites_concat, get?_put, mem_put, ih]
    split_ifs with hk <;> simp [hk, eq_comm]

/-- A key that has been assigned to is in the map. -/
lemma exists_get?_ofWrites (h : (k, v) ∈ ws) : ∃ v', (ofWrites ws).get? k = some v' := by
  induction ws using reverseRecOn with
  | nil => simp at h
  | append_singleton ws e ih =>
    rw [ofWrites_concat, get?_put]
    split_ifs with hk
    · exact ⟨_, rfl⟩
    · refine ih ?_
      rcases mem_append.mp h with h | h
      · exact h
      · exact absurd (congrArg Prod.fst (mem_singleton.mp h)) hk

/-- A key to which only one value has been assigned. -/
lemma get?_ofWrites_of_unique (h : (k, v) ∈ ws) (hunique : ∀ v', (k, v') ∈ ws → v' = v) :
    (ofWrites ws).get? k = some v := by
  obtain ⟨v', hv'⟩ := exists_get?_ofWrites h
  rw [hv', hunique v' (mem_of_get?_ofWrites hv')]

/-- One assignment for each key of a list. -/
lemma get?_ofWrites_zip_map {l : List κ} {f : κ → σ} :
    (ofWrites (l.zip (l.map f))).get? k = if k ∈ l then some (f k) else none := by
  have hmem (v : σ) : (k, v) ∈ l.zip (l.map f) ↔ k ∈ l ∧ v = f k := by
    rw [← map_prod_left_eq_zip]
    grind
  split_ifs with hk
  · exact get?_ofWrites_of_unique ((hmem _).mpr ⟨hk, rfl⟩) fun v hv => ((hmem v).mp hv).2
  · refine Option.eq_none_iff_forall_ne_some.mpr fun v hv => ?_
    exact hk ((hmem v).mp (mem_of_get?_ofWrites hv)).1

/-- Assignments to a map decide what is found there; other keys keep their values. -/
lemma get?_foldl_put : (ws.foldl (fun m e => m.put e.1 e.2) m).get? k =
    ((ofWrites ws).get? k).or (m.get? k) := by
  induction ws using reverseRecOn with
  | nil => simp [ofWrites, get?]
  | append_singleton ws e ih =>
    rw [foldl_append, foldl_cons, foldl_nil, get?_put, ofWrites_concat, get?_put, ih]
    split_ifs <;> rfl

/-- Assignments of the entries of a map, to other keys. -/
lemma get?_ofWrites_map {κ' : Type} [DecidableEq κ'] {m : Map κ' σ} {f : κ' → κ} {k : κ'}
    (hf : Function.Injective f) (h : (m.map Prod.fst).Nodup) :
    (ofWrites (m.map fun e => (f e.1, e.2))).get? (f k) = m.get? k := by
  have hmem (v : σ) : (f k, v) ∈ m.map (fun e => (f e.1, e.2)) ↔ m.get? k = some v := by
    rw [get?_eq_some_iff h, mem_map]
    constructor
    · rintro ⟨e, he, heq⟩
      obtain ⟨hk, rfl⟩ := Prod.mk.inj heq
      exact hf hk ▸ he
    · exact fun hk => ⟨_, hk, rfl⟩
  cases hk : m.get? k with
  | none =>
    refine Option.eq_none_iff_forall_ne_some.mpr fun v hv => ?_
    exact absurd (hk.symm.trans ((hmem v).mp (mem_of_get?_ofWrites hv))) (by simp)
  | some v =>
    refine get?_ofWrites_of_unique ((hmem v).mpr hk) fun v' hv' => ?_
    exact Option.some_inj.mp (((hmem v').mp hv').symm.trans hk)

/-- Later assignments decide. -/
lemma get?_ofWrites_append {ws' : List (κ × σ)} :
    (ofWrites (ws ++ ws')).get? k = ((ofWrites ws').get? k).or ((ofWrites ws).get? k) := by
  rw [ofWrites, foldl_append]
  exact get?_foldl_put

/-- The last position of an entry. -/
lemma get?_ofWrites_zipIdx {l : List κ} {i : ℕ} :
    (ofWrites l.zipIdx).get? k = some i ↔ l[i]? = some k ∧ ∀ j, l[j]? = some k → j ≤ i := by
  induction l using List.reverseRecOn with
  | nil => simp [ofWrites, get?]
  | append_singleton l e ih =>
    rw [List.zipIdx_append, List.zipIdx_singleton, ofWrites_concat, get?_put]
    split_ifs with hk
    · subst hk
      have hlast : (l ++ [k])[l.length]? = some k := by simp
      have hbound {j : ℕ} (hj : (l ++ [k])[j]? = some k) : j < l.length + 1 := by
        simpa using (List.getElem?_eq_some_iff.mp hj).1
      simp only [Nat.zero_add, Option.some.injEq]
      constructor
      · rintro rfl
        exact ⟨hlast, fun j hj => Nat.le_of_lt_succ (hbound hj)⟩
      · rintro ⟨hi, hmax⟩
        exact Nat.le_antisymm (hmax _ hlast) (Nat.le_of_lt_succ (hbound hi))
    · have hget (j : ℕ) : (l ++ [e])[j]? = some k ↔ l[j]? = some k := by
        have hne : ¬e = k := fun h => hk h.symm
        rw [List.getElem?_append]
        split_ifs with hj
        · rfl
        · rw [List.getElem?_eq_none (Nat.le_of_not_lt hj), List.getElem?_singleton]
          split_ifs <;> simp [hne]
      simp only [hget, ih]

end Map

end Go
