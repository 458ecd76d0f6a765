import Mathlib

/-!
# Lists that are filtered and put together again

* `List.forall₂_filter_filterMap`: two ways to thin out one list that keep the same entries.
* `List.forall₂_filterMap_iff`: a function that drops no entry and relates each to its image.
* `List.Forall₂.exists_of_mem_left`, `List.Forall₂.exists_of_mem_right`: every entry has its
  counterpart.
* `List.getElem?_foldl_set`: what assignments to positions leave.
* `List.filter_eq_singleton_of_nodup_map`: entries with distinct images.
* `List.flatMap_eq_of_nodup`: a concatenation in which one part is not empty.
* `List.append_sep_inj`: a list is taken apart at the first separator in one way.
* `List.getElem?_filterMap_idxOf`: the image of an entry stands where the entry stood.
* `List.bind_getElem?_of_filterMap`, `List.pairwise_of_filterMap`: the images stand where their
  entries stood if and only if no entry is dropped before one that matters.
* `List.find?_eq_find?_iff`: two predicates that find the same entry.
* `List.Forall₂.find?_cases`, `List.Forall₂.find?_zip`: lists whose entries correspond.
-/

namespace List

variable {α β : Type*}

variable {l : List α} {R : α → β → Prop} {f : α → Option β}

variable {p : α → Bool}

/-- If `f` drops exactly the entries that `p` rejects, then the entries that `p` accepts
correspond to their images under `f`. -/
lemma forall₂_filter_filterMap (hdrop : ∀ a ∈ l, p a = false → f a = none)
    (hkeep : ∀ a ∈ l, p a → ∃ b, f a = some b ∧ R a b) :
    Forall₂ R (l.filter p) (l.filterMap f) := by
  induction l with
  | nil => exact .nil
  | cons a l ih =>
    have htail := ih (fun b hb => hdrop b (mem_cons_of_mem _ hb))
      (fun b hb => hkeep b (mem_cons_of_mem _ hb))
    cases hp : p a with
    | false =>
      have hf : f a = none := hdrop a mem_cons_self hp
      simpa [hp, hf] using htail
    | true =>
      obtain ⟨b, hf, hR⟩ := hkeep a mem_cons_self hp
      simpa [hp, hf] using Forall₂.cons hR htail

lemma forall₂_filterMap_iff :
    Forall₂ R l (l.filterMap f) ↔ ∀ a ∈ l, ∃ b, f a = some b ∧ R a b := by
  constructor
  · intro h
    -- An entry that is dropped makes the second list shorter.
    have hsome : ∀ a ∈ l, (f a).isSome := filterMap_length_eq_length.mp h.length_eq.symm
    induction l with
    | nil => simp
    | cons a l ih =>
      obtain ⟨b, hb⟩ := Option.isSome_iff_exists.mp (hsome a mem_cons_self)
      rw [filterMap_cons_some hb, forall₂_cons] at h
      intro c hc
      rcases mem_cons.mp hc with rfl | hc
      · exact ⟨b, hb, h.1⟩
      · exact ih h.2 (fun d hd => hsome d (mem_cons_of_mem _ hd)) c hc
  · intro h
    simpa using forall₂_filter_filterMap (p := fun _ => true) (l := l) (by simp) (by simpa using h)

variable {l' : List β}

variable {a : α}

lemma Forall₂.exists_of_mem_left (h : Forall₂ R l l') (ha : a ∈ l) : ∃ b ∈ l', R a b := by
  induction h with
  | nil => exact absurd ha not_mem_nil
  | cons hR _ ih =>
    rcases mem_cons.mp ha with rfl | ha
    · exact ⟨_, mem_cons_self, hR⟩
    · obtain ⟨b, hb, hab⟩ := ih ha
      exact ⟨b, mem_cons_of_mem _ hb, hab⟩

lemma Forall₂.exists_of_mem_right (h : Forall₂ R l l') {b : β} (hb : b ∈ l') : ∃ a ∈ l, R a b :=
  h.flip.exists_of_mem_left hb

/-- What assignments to positions leave at a position that is only assigned `v`. -/
lemma getElem?_foldl_set {ws : List (ℕ × α)} {k : ℕ} {v : α} (hk : k < l.length)
    (hv : ∀ w ∈ ws, w.1 = k → w.2 = v) (h : l[k]? = some v ∨ ∃ w ∈ ws, w.1 = k) :
    (ws.foldl (fun l w => l.set w.1 w.2) l)[k]? = some v := by
  induction ws generalizing l with
  | nil => simpa using h
  | cons w ws ih =>
    rw [forall_mem_cons] at hv
    refine ih (by simpa using hk) hv.2 ?_
    by_cases hw : w.1 = k
    · refine .inl ?_
      rw [← hw, getElem?_set_self (hw ▸ hk), hv.1 hw]
    · rw [getElem?_set_ne hw]
      refine h.imp_right ?_
      rintro ⟨w', hw', rfl⟩
      exact ⟨w', (mem_cons.mp hw').resolve_left fun heq => hw (by rw [heq]), rfl⟩

/-- Of entries with distinct images, one has the image of `a`. -/
lemma filter_eq_singleton_of_nodup_map [DecidableEq β] {f : α → β} (hl : (l.map f).Nodup)
    (ha : a ∈ l) : l.filter (fun b => f b = f a) = [a] := by
  induction l with
  | nil => exact absurd ha not_mem_nil
  | cons b l ih =>
    rw [map_cons, nodup_cons] at hl
    rcases mem_cons.mp ha with rfl | ha
    · have hrest : l.filter (fun b => f b = f a) = [] := by
        refine filter_eq_nil_iff.mpr fun b hb hfb => hl.1 ?_
        rw [← of_decide_eq_true hfb]
        exact mem_map_of_mem hb
      simp [hrest]
    · have hne : f b ≠ f a := fun heq => hl.1 (heq ▸ mem_map_of_mem ha)
      rw [filter_cons_of_neg (by simpa using hne), ih hl.2 ha]

/-- A concatenation over distinct entries of which only `a` contributes. -/
lemma flatMap_eq_of_nodup {F : α → List β} (hl : l.Nodup) (ha : a ∈ l)
    (hF : ∀ b ∈ l, b ≠ a → F b = []) : l.flatMap F = F a := by
  induction l with
  | nil => exact absurd ha not_mem_nil
  | cons b l ih =>
    rw [nodup_cons] at hl
    rw [flatMap_cons]
    rcases mem_cons.mp ha with rfl | ha
    · have htail : l.flatMap F = [] := by
        rw [flatMap_eq_nil_iff]
        intro c hc
        exact hF c (mem_cons_of_mem _ hc) (fun h => hl.1 (h ▸ hc))
      rw [htail, append_nil]
    · have hb : F b = [] := hF b mem_cons_self (fun h => hl.1 (h ▸ ha))
      rw [hb, nil_append, ih hl.2 ha fun c hc => hF c (mem_cons_of_mem _ hc)]

lemma getElem?_filterMap_idxOf [DecidableEq α] (h : ∀ a ∈ l, (f a).isSome) (ha : a ∈ l) :
    (l.filterMap f)[l.idxOf a]? = f a := by
  induction l with
  | nil => exact absurd ha not_mem_nil
  | cons c l ih =>
    obtain ⟨b, hb⟩ := Option.isSome_iff_exists.mp (h c mem_cons_self)
    by_cases hca : c = a
    · subst hca
      simp [hb]
    · have hmem : a ∈ l := (mem_cons.mp ha).resolve_left fun h => hca h.symm
      have hrec := ih (fun d hd => h d (mem_cons_of_mem _ hd)) hmem
      simp [hb, List.idxOf_cons_ne _ hca, hrec]

/-- A fallible map succeeds when it succeeds for every entry. -/
lemma mapM_eq_ok_iff {ε : Type*} {f : α → Except ε β} :
    l.mapM f = .ok l' ↔ Forall₂ (fun a b => f a = .ok b) l l' := by
  induction l generalizing l' with
  | nil => simp [pure, Except.pure]
  | cons a l ih =>
    rw [mapM_cons, forall₂_cons_left_iff]
    cases ha : f a with
    | error e => simp [bind, Except.bind]
    | ok b =>
      cases hl : l.mapM f with
      | error e =>
        simp only [bind, Except.bind, reduceCtorEq, false_iff, not_exists, not_and]
        intro b' l'' _ hl''
        rw [← ih, hl] at hl''
        exact absurd hl'' (by simp)
      | ok l'' =>
        simp only [bind, Except.bind, pure, Except.pure, Except.ok.injEq, ← ih, hl]
        constructor
        · rintro rfl
          exact ⟨b, l'', rfl, rfl, rfl⟩
        · rintro ⟨b', l₂, rfl, rfl, rfl⟩
          rfl

lemma exists_forall₂_iff : (∃ l', Forall₂ R l l') ↔ ∀ a ∈ l, ∃ b, R a b := by
  induction l with
  | nil => simp
  | cons a l ih =>
    rw [forall_mem_cons, ← ih]
    constructor
    · rintro ⟨l', hall⟩
      obtain ⟨b, l', hb, hl', rfl⟩ := forall₂_cons_left_iff.mp hall
      exact ⟨⟨b, hb⟩, l', hl'⟩
    · rintro ⟨⟨b, hb⟩, l', hl'⟩
      exact ⟨b :: l', .cons hb hl'⟩

/-- A fallible map succeeds if and only if every entry can be mapped. -/
lemma exists_mapM_eq_ok_iff {ε : Type*} {f : α → Except ε β} :
    (∃ l', l.mapM f = .ok l') ↔ ∀ a ∈ l, ∃ b, f a = .ok b := by
  simp only [mapM_eq_ok_iff, exists_forall₂_iff]

/-- Two searches find the same, exactly if the predicates agree on every element in front of which
the second one finds nothing. -/
lemma find?_eq_find?_iff {p p' : α → Bool} :
    l.find? p = l.find? p' ↔
      ∀ l₁ a l₂, l = l₁ ++ a :: l₂ → (∀ b ∈ l₁, p' b = false) → p a = p' a := by
  constructor
  · rintro h l₁ a l₂ rfl hno
    have hnone' : l₁.find? p' = none := find?_eq_none.mpr fun b hb => by simp [hno b hb]
    rw [find?_append, find?_append, hnone', Option.none_or] at h
    -- what the first search finds in front of `a`, the second one would find as well
    have hnone : l₁.find? p = none := by
      by_contra hsome
      obtain ⟨b, hb⟩ := Option.ne_none_iff_exists'.mp hsome
      rw [hb, Option.some_or] at h
      simpa [hno b (mem_of_find?_eq_some hb)] using find?_some h.symm
    rw [hnone, Option.none_or, find?_cons, find?_cons] at h
    cases hp : p a <;> cases hp' : p' a <;> simp only [hp, hp'] at h
    · rfl
    · rw [← hp, find?_some h]
    · rw [← hp', find?_some h.symm]
    · rfl
  · intro h
    induction l with
    | nil => rfl
    | cons c l ih =>
      have hc : p c = p' c := h [] c l rfl (by simp)
      rw [find?_cons, find?_cons, hc]
      cases hp' : p' c with
      | true => rfl
      | false =>
        refine ih fun l₁ a l₂ hl hno => h (c :: l₁) a l₂ (by rw [hl]; rfl) ?_
        exact forall_mem_cons.mpr ⟨hp', hno⟩

/-- What stands before and after the first separator is determined. -/
lemma append_sep_inj {c : α} {p q x y : List α} (hp : c ∉ p) (hq : c ∉ q) :
    p ++ c :: x = q ++ c :: y ↔ p = q ∧ x = y := by
  constructor
  · intro h
    induction p generalizing q with
    | nil =>
      cases q with
      | nil => simpa using h
      | cons b q =>
        obtain rfl : c = b := by simpa using congrArg List.head? h
        simp at hq
    | cons a p ih =>
      cases q with
      | nil =>
        obtain rfl : a = c := by simpa using congrArg List.head? h
        simp at hp
      | cons b q =>
        simp only [cons_append, cons.injEq] at h
        obtain ⟨rfl, h⟩ := h
        have htail := ih (not_mem_of_not_mem_cons hp) (not_mem_of_not_mem_cons hq) h
        simpa using htail
  · rintro ⟨rfl, rfl⟩
    rfl

/-- What stands before and after the last separator is determined. -/
lemma append_sep_inj_right {c : α} {p q x y : List α} (hx : c ∉ x) (hy : c ∉ y) :
    p ++ c :: x = q ++ c :: y ↔ p = q ∧ x = y := by
  rw [← reverse_inj]
  simp only [reverse_append, reverse_cons, append_assoc, singleton_append]
  rw [append_sep_inj (by simpa using hx) (by simpa using hy), reverse_inj, reverse_inj, and_comm]

/-- Lists with the same images, entry by entry. -/
lemma forall₂_of_map_eq_map {f : α → β} {l l' : List α} (h : l.map f = l'.map f) :
    Forall₂ (fun a b => a ∈ l ∧ b ∈ l' ∧ f a = f b) l l' := by
  have hlength : l.length = l'.length := by simpa using congrArg length h
  refine forall₂_iff_zip.mpr ⟨hlength, fun {a b} hab => ?_⟩
  obtain ⟨ha, hb⟩ := of_mem_zip hab
  refine ⟨ha, hb, ?_⟩
  have heq : Forall₂ (· = ·) (l.map f) (l'.map f) := by rw [h, forall₂_eq_eq_eq]
  rw [forall₂_map_left_iff, forall₂_map_right_iff] at heq
  exact (forall₂_iff_zip.mp heq).2 hab

section FilterMap

variable {f : α → Option β} {l : List α}

/-- An image stands no later than its entry. -/
lemma exists_getElem?_filterMap {i : ℕ} {b : β} (h : l[i]?.bind f = some b) :
    ∃ k ≤ i, (l.filterMap f)[k]? = some b := by
  induction l generalizing i with
  | nil => simp at h
  | cons a l ih =>
    cases i with
    | zero => exact ⟨0, Nat.le_refl 0, by simp [filterMap_cons_some (show f a = some b from h)]⟩
    | succ i =>
      obtain ⟨k, hk, hb⟩ := ih (i := i) (by simpa using h)
      cases ha : f a with
      | none => exact ⟨k, by omega, by rwa [filterMap_cons_none ha]⟩
      | some c => exact ⟨k + 1, by omega, by simpa [filterMap_cons_some ha] using hb⟩

/-- If no entry is dropped before one whose image satisfies `p`, then these images stand where
their entries stood. -/
lemma bind_getElem?_of_filterMap {p : β → Prop}
    (h : l.Pairwise fun a a' => ∀ b, f a' = some b → p b → (f a).isSome) {i : ℕ} {b : β}
    (hb : (l.filterMap f)[i]? = some b) (hp : p b) : l[i]?.bind f = some b := by
  induction l generalizing i with
  | nil => simp at hb
  | cons a l ih =>
    rw [pairwise_cons] at h
    cases ha : f a with
    | none =>
      -- `b` would be the image of a later entry
      rw [filterMap_cons_none ha] at hb
      obtain ⟨a', ha', hfa'⟩ := mem_filterMap.mp (mem_of_getElem? hb)
      simpa [ha] using h.1 a' ha' b hfa' hp
    | some c =>
      rw [filterMap_cons_some ha] at hb
      cases i with
      | zero => simpa [ha] using hb
      | succ i => exact ih h.2 (by simpa using hb)

/-- Conversely, if each image that satisfies `p` stands where some entry with such an image stood,
then no entry was dropped before them. -/
lemma pairwise_of_filterMap {p : β → Prop}
    (h : ∀ (i : ℕ) (b : β), (l.filterMap f)[i]? = some b → p b →
      ∃ b', l[i]?.bind f = some b' ∧ p b') :
    l.Pairwise fun a a' => ∀ b, f a' = some b → p b → (f a).isSome := by
  induction l with
  | nil => exact .nil
  | cons a l ih =>
    cases ha : f a with
    | some c =>
      simp only [filterMap_cons_some ha] at h
      refine pairwise_cons.mpr ⟨fun a' _ b _ _ => by simp [ha], ih fun i b hb hp => ?_⟩
      simpa using h (i + 1) b (by simpa using hb) hp
    | none =>
      simp only [filterMap_cons_none ha] at h
      -- the first such image would stand where an entry stood whose image is still earlier
      have hnone : ∀ (i : ℕ) (b : β), (l.filterMap f)[i]? = some b → ¬p b := by
        intro i
        induction i using Nat.strongRecOn with
        | ind i hi =>
          intro b hb hp
          obtain ⟨b', hb', hp'⟩ := h i b hb hp
          cases i with
          | zero => simp [ha] at hb'
          | succ i =>
            obtain ⟨k, hk, hkb⟩ := exists_getElem?_filterMap (i := i) (by simpa using hb')
            exact hi k (by omega) b' hkb hp'
      have hdrop : ∀ a' ∈ l, ∀ b, f a' = some b → ¬p b := fun a' ha' b hb => by
        obtain ⟨i, hi⟩ := mem_iff_getElem?.mp (mem_filterMap.mpr ⟨a', ha', hb⟩)
        exact hnone i b hi
      refine pairwise_cons.mpr ⟨fun a' ha' b hb hp => (hdrop a' ha' b hb hp).elim, ?_⟩
      exact pairwise_of_forall_mem_list fun _ _ a' ha' b hb hp => (hdrop a' ha' b hb hp).elim

end FilterMap

lemma mapM_eq_some_iff :
    l.mapM f = some l' ↔ Forall₂ (fun a b => f a = some b) l l' := by
  induction l generalizing l' with
  | nil => simp
  | cons a l ih =>
    rw [mapM_cons]
    cases ha : f a with
    | none => simp [ha, forall₂_cons_left_iff]
    | some b =>
      cases hl : l.mapM f with
      | none =>
        have hno : ∀ l', ¬Forall₂ (fun a b => f a = some b) l l' := fun l' h => by
          simp [ih.mpr h] at hl
        simp [forall₂_cons_left_iff, hno]
      | some l₁ =>
        simp only [hl] at ih
        simp [forall₂_cons_left_iff, ha, ← ih, eq_comm]

lemma isSome_mapM_iff :
    (l.mapM f).isSome ↔ ∀ a ∈ l, (f a).isSome := by
  simp only [Option.isSome_iff_exists, mapM_eq_some_iff, exists_forall₂_iff]

/-- The parts between separators have none, and consist of elements of the list. -/
lemma notMem_and_subset_of_mem_splitOn [BEq α] [LawfulBEq α] {c : α} {l part : List α}
    (h : part ∈ l.splitOn c) : c ∉ part ∧ part ⊆ l := by
  induction l generalizing part with
  | nil =>
    obtain rfl : part = [] := by simpa using h
    simp
  | cons a l ih =>
    rw [splitOn_cons_eq_if_modifyHead] at h
    split_ifs at h with ha
    · rcases List.mem_cons.mp h with rfl | h
      · simp
      · exact ⟨(ih h).1, fun x hx => mem_cons_of_mem a ((ih h).2 hx)⟩
    · -- Only the first part grows, by an element that is not the separator.
      obtain ⟨first, rest, hparts⟩ := exists_cons_of_ne_nil (splitOn_ne_nil c l)
      rw [hparts] at h ih
      rcases List.mem_cons.mp h with rfl | h
      · have hfirst := ih mem_cons_self
        have hac : c ≠ a := fun hc => ha (by simp [hc])
        exact ⟨not_mem_cons_of_ne_of_not_mem hac hfirst.1, cons_subset_cons a hfirst.2⟩
      · have hpart := ih (mem_cons_of_mem first h)
        exact ⟨hpart.1, fun x hx => mem_cons_of_mem a (hpart.2 hx)⟩

/-- An entry of a list with one more entry. -/
lemma getElem?_concat_eq_some_iff {a b : α} {i : ℕ} :
    (l ++ [a])[i]? = some b ↔ l[i]? = some b ∨ (i = l.length ∧ a = b) := by
  grind

/-- A relation between the entries of two lists that depends on those of the first only. -/
lemma Forall₂.forall₂_iff_forall_mem {R P : α → β → Prop} {Q : α → Prop} (h : Forall₂ R l l')
    (hPQ : ∀ a ∈ l, ∀ b, R a b → (P a b ↔ Q a)) :
    Forall₂ P l l' ↔ ∀ a ∈ l, Q a := by
  induction h with
  | nil => simp
  | @cons a b l l' hab _ ih =>
    rw [forall₂_cons, forall_mem_cons, hPQ a mem_cons_self b hab,
      ih fun a ha => hPQ a (mem_cons_of_mem _ ha)]

/-- Looking for an entry in either of two lists whose entries correspond. -/
lemma Forall₂.find?_cases {p' : β → Bool} (h : Forall₂ R l l') (hp : ∀ a b, R a b → p a = p' b) :
    (l.find? p = none ∧ l'.find? p' = none) ∨
      ∃ a b, l.find? p = some a ∧ l'.find? p' = some b ∧ R a b := by
  induction h with
  | nil => simp
  | @cons a b l l' hab _ ih =>
    rw [find?_cons, find?_cons, hp a b hab]
    cases p' b with
    | true => exact .inr ⟨a, b, rfl, rfl, hab⟩
    | false => exact ih

/-- Looking for an entry by its counterpart. -/
lemma Forall₂.find?_zip {p' : β → Bool} (h : Forall₂ (fun a b => p a = p' b) l l') :
    ((l.zip l').find? fun e => p' e.2).map Prod.fst = l.find? p := by
  induction h with
  | nil => rfl
  | @cons a b l l' hab _ ih =>
    rw [zip_cons_cons, find?_cons, find?_cons, hab]
    cases p' b with
    | true => rfl
    | false => exact ih

/-- Lists whose entries correspond through a third one. -/
lemma Forall₂.comp {γ : Type*} {S : β → γ → Prop} {T : α → γ → Prop} {l'' : List γ}
    (h : Forall₂ R l l') (h' : Forall₂ S l' l'') (hT : ∀ a b c, R a b → S b c → T a c) :
    Forall₂ T l l'' := by
  induction h generalizing l'' with
  | nil => cases h' with | nil => exact .nil
  | cons hab _ ih => cases h' with | cons hbc h' => exact .cons (hT _ _ _ hab hbc) (ih h')

end List
