import V2rayA.ToMathlib.Renumbering

/-!
# Tables with an ordinal column

A table of a relational database whose rows have a key and a column `sort` that holds their position
in a list. The rows stand in the order of their keys; a statement visits them in this order, and the
subquery of an `UPDATE` sees the rows that the statement has already changed.

One table can hold several lists. The rows of one of them are those whose other columns satisfy a
predicate `p`.

* `NumberedFrom`: the rows carry consecutive ordinals.
* `Table.renumber`: set each ordinal to the number of smaller ones.
* `numberedFrom_renumberRows`: this closes the gaps that a deletion has left, because the order of
  the keys is that of the ordinals.
-/

namespace Sql

open List

/-- A row: its key, its ordinal and its other columns. -/
structure Row (α : Type) where
  id : ℤ
  sort : ℤ
  data : α
  deriving DecidableEq, Repr

variable {α : Type}

/-- The rows carry the ordinals from `k` on. -/
def NumberedFrom : ℕ → List (Row α) → Prop
  | _, [] => True
  | k, r :: l => r.sort = k ∧ NumberedFrom (k + 1) l

/-- The rows carry the ordinals of their positions. -/
abbrev Numbered (l : List (Row α)) : Prop := NumberedFrom 0 l

section Numbered

variable {l l' : List (Row α)} {r : Row α} {k : ℕ}

lemma numberedFrom_append :
    NumberedFrom k (l ++ l') ↔ NumberedFrom k l ∧ NumberedFrom (k + l.length) l' := by
  induction l generalizing k with
  | nil => simp [NumberedFrom]
  | cons r l ih =>
    simp only [cons_append, NumberedFrom, ih, length_cons, and_assoc]
    rw [show k + 1 + l.length = k + (l.length + 1) by omega]

section

variable (h : NumberedFrom k l)
include h

lemma NumberedFrom.map_sort :
    l.map Row.sort = (List.range' k l.length).map fun i : ℕ => (i : ℤ) := by
  induction l generalizing k with
  | nil => rfl
  | cons r l ih => simp [range'_succ, h.1, ih h.2]

lemma NumberedFrom.le_sort (hr : r ∈ l) : k ≤ r.sort := by
  have hsort := mem_map_of_mem (f := Row.sort) hr
  rw [h.map_sort] at hsort
  obtain ⟨i, hi, hsort⟩ := mem_map.mp hsort
  have := (mem_range'_1.mp hi).1
  omega

lemma NumberedFrom.sort_lt (hr : r ∈ l) : r.sort < k + l.length := by
  have hsort := mem_map_of_mem (f := Row.sort) hr
  rw [h.map_sort] at hsort
  obtain ⟨i, hi, hsort⟩ := mem_map.mp hsort
  have := (mem_range'_1.mp hi).2
  omega

lemma NumberedFrom.sort_eq {i : ℕ} (hr : l[i]? = some r) :
    r.sort = ((k + i : ℕ) : ℤ) := by
  have hsort := congrArg (·[i]?) h.map_sort
  simp only [List.getElem?_map, hr] at hsort
  rw [List.getElem?_range' (List.getElem?_eq_some_iff.mp hr).1] at hsort
  simpa using hsort

/-- The order of the rows is that of their ordinals. -/
lemma NumberedFrom.pairwise : l.Pairwise fun r s => r.sort < s.sort := by
  induction l generalizing k with
  | nil => exact .nil
  | cons r l ih =>
    refine pairwise_cons.mpr ⟨fun s hs => ?_, ih h.2⟩
    have := NumberedFrom.le_sort h.2 hs
    have := h.1
    omega

end

end Numbered

lemma NumberedFrom.map {f : α → α} {l : List (Row α)} {k : ℕ} (h : NumberedFrom k l) :
    NumberedFrom k (l.map fun r => { r with data := f r.data }) := by
  induction l generalizing k with
  | nil => trivial
  | cons r l ih => exact ⟨h.1, ih h.2⟩

/-! ### Reading -/

/-- `ORDER BY sort`. -/
def orderBySort (l : List (Row α)) : List (Row α) := l.insertionSort fun r s => r.sort ≤ s.sort

/-- `COALESCE(MAX(sort), -1) + 1`. -/
def nextSort (l : List (Row α)) : ℤ := (l.map Row.sort).max?.getD (-1) + 1

/-- The first row `WHERE sort = i`. -/
def findAt (l : List (Row α)) (i : ℤ) : Option (Row α) := l.find? fun r => r.sort = i

section Reading

variable {l : List (Row α)} {k : ℕ}

lemma NumberedFrom.orderBySort_eq (h : NumberedFrom k l) : orderBySort l = l :=
  (h.pairwise.imp fun h => h.le).insertionSort_eq

/-- The ordinals of a list as it is read. -/
lemma Numbered.map_sort_orderBySort (h : Numbered l) :
    (orderBySort l).map Row.sort = (List.range l.length).map fun i : ℕ => (i : ℤ) := by
  rw [NumberedFrom.orderBySort_eq h, NumberedFrom.map_sort h, range_eq_range']

lemma Numbered.nextSort_eq (h : Numbered l) : nextSort l = l.length := by
  rw [nextSort, NumberedFrom.map_sort h]
  cases l.length with
  | zero => rfl
  | succ n =>
    have hmax : ((range' 0 (n + 1)).map fun i : ℕ => (i : ℤ)).max? = some (n : ℤ) := by
      refine max?_eq_some_iff.mpr ⟨mem_map_of_mem (by simp), fun b hb => ?_⟩
      obtain ⟨i, hi, rfl⟩ := mem_map.mp hb
      have := (mem_range'_1.mp hi).2
      omega
    rw [hmax]
    simp

private lemma NumberedFrom.findAt_eq (h : NumberedFrom k l) (i : ℤ) :
    findAt l i = if k ≤ i then l[(i - k).toNat]? else none := by
  induction l generalizing k with
  | nil => simp [findAt]
  | cons r l ih =>
    have hrest := ih h.2
    unfold findAt at hrest ⊢
    rw [find?_cons, h.1]
    by_cases hi : i = k
    · simp [hi]
    · have hne : ¬(k : ℤ) = i := fun heq => hi heq.symm
      simp only [hne, hrest]
      split_ifs with hlt hle hle
      · obtain ⟨n, hn⟩ : ∃ n : ℕ, i - k = n + 1 := ⟨(i - k - 1).toNat, by omega⟩
        rw [hn, show i - ((k + 1 : ℕ) : ℤ) = n by omega]
        rfl
      · omega
      · omega
      · rfl

/-- The row at an ordinal is the one at that position. -/
lemma Numbered.findAt_eq (h : Numbered l) (i : ℤ) :
    findAt l i = if 0 ≤ i then l[i.toNat]? else none := by
  simpa using NumberedFrom.findAt_eq h i

lemma Numbered.findAt_natCast (h : Numbered l) (i : ℕ) : findAt l i = l[i]? := by
  rw [Numbered.findAt_eq h, if_pos (Int.natCast_nonneg i), Int.toNat_natCast]

/-- An ordinal at which there is a row is a position. -/
lemma Numbered.findAt_eq_some (h : Numbered l) {i : ℤ} {r : Row α} (hr : findAt l i = some r) :
    ∃ n : ℕ, i = n ∧ l[n]? = some r := by
  rw [Numbered.findAt_eq h] at hr
  split_ifs at hr with hi
  exact ⟨i.toNat, by omega, hr⟩

end Reading

/-! ### Writing -/

/-- Change the other columns `WHERE sort = i`. -/
def updateAt (i : ℤ) (f : α → α) (l : List (Row α)) : List (Row α) :=
  l.map fun r => if r.sort = i then { r with data := f r.data } else r

section Writing

variable {l : List (Row α)} {k : ℕ}

lemma NumberedFrom.updateAt (h : NumberedFrom k l) (i : ℤ) (f : α → α) :
    NumberedFrom k (updateAt i f l) := by
  induction l generalizing k with
  | nil => trivial
  | cons r l ih =>
    refine ⟨?_, ih h.2⟩
    dsimp only
    split_ifs <;> exact h.1

lemma map_id_updateAt (i : ℤ) (f : α → α) : (updateAt i f l).map Row.id = l.map Row.id := by
  rw [updateAt, map_map]
  refine map_congr_left fun r _ => ?_
  dsimp only [Function.comp]
  split_ifs <;> rfl

lemma Numbered.getElem?_updateAt (h : Numbered l) (i j : ℕ) (f : α → α) :
    (updateAt i f l)[j]? =
      l[j]?.map fun r => if j = i then { r with data := f r.data } else r := by
  rw [Sql.updateAt, getElem?_map]
  refine Option.map_congr fun r hr => ?_
  have hsort := NumberedFrom.sort_eq h hr
  by_cases hji : j = i
  · rw [if_pos (by rw [hsort, hji, Nat.zero_add]), if_pos hji]
  · rw [if_neg (by omega), if_neg hji]

/-- What is read from the rows after the row at a position was changed. -/
lemma Numbered.map_updateAt {β : Type} (h : Numbered l) (i : ℕ) {f : α → α}
    {g g' : Row α → β} {b : β}
    (hself : ∀ r, l[i]? = some r → g' { r with data := f r.data } = b)
    (hothers : ∀ j r, l[j]? = some r → j ≠ i → g' r = g r) :
    (updateAt i f l).map g' = (l.map g).set i b := by
  refine List.ext_getElem? fun j => ?_
  rw [List.getElem?_map, Numbered.getElem?_updateAt h, List.getElem?_set, List.getElem?_map,
    List.length_map]
  by_cases hj : i = j
  · subst hj
    cases hr : l[i]? with
    | none => simp [List.getElem?_eq_none_iff.mp hr]
    | some r => simp [hself r hr, (List.getElem?_eq_some_iff.mp hr).1]
  · cases hr : l[j]? with
    | none => simp [hj]
    | some r => simp [hj, Ne.symm hj, hothers j r hr (Ne.symm hj)]

private lemma NumberedFrom.map_filter {β : Type} (h : NumberedFrom k l) (indexes : List ℤ)
    (f : Row α → β) : (l.filter fun r => r.sort ∉ indexes).map f =
      (l.map f).removeIdxs fun i => ((k + i : ℕ) : ℤ) ∈ indexes := by
  induction l generalizing k with
  | nil => rfl
  | cons r l ih =>
    have hshift : ((l.map f).removeIdxs fun i => ((k + (i + 1) : ℕ) : ℤ) ∈ indexes) =
        (l.map f).removeIdxs fun i => ((k + 1 + i : ℕ) : ℤ) ∈ indexes :=
      removeIdxs_congr _ fun i _ => by rw [show k + (i + 1) = k + 1 + i by omega]
    rw [map_cons, removeIdxs, hshift, ← ih h.2, filter_cons, h.1, Nat.add_zero]
    by_cases hk : (k : ℤ) ∈ indexes <;> simp [hk]

/-- The rows that are left when those at some ordinals are deleted. -/
lemma Numbered.map_filter {β : Type} (h : Numbered l) (indexes : List ℤ) (f : Row α → β) :
    (l.filter fun r => r.sort ∉ indexes).map f =
      (l.map f).removeIdxs fun i => (i : ℤ) ∈ indexes := by
  simpa using NumberedFrom.map_filter h indexes f

end Writing

/-- The statement `UPDATE t SET sort = (SELECT COUNT(*) FROM t s WHERE p AND s.sort < t.sort) WHERE p`
from the row on at which it has arrived. -/
def renumberRows (p : α → Bool) (visited : List (Row α)) : List (Row α) → List (Row α)
  | [] => visited
  | r :: rest =>
    let count := (visited ++ r :: rest).countP fun s => p s.data ∧ s.sort < r.sort
    renumberRows p (visited ++ [if p r.data then { r with sort := count } else r]) rest

section Renumber

variable {p q : α → Bool} {visited rest : List (Row α)}

/-- The keys and the other columns stay. -/
lemma map_data_renumberRows (p : α → Bool) (visited rest : List (Row α)) :
    (renumberRows p visited rest).map (fun r => (r.id, r.data)) =
      (visited ++ rest).map fun r => (r.id, r.data) := by
  induction rest generalizing visited with
  | nil => simp [renumberRows]
  | cons r rest ih =>
    rw [renumberRows, ih]
    simp only [map_append, append_assoc]
    split_ifs <;> rfl

/-- Rows of other lists stay. -/
lemma filter_renumberRows (hpq : ∀ a, q a → p a = false) :
    (renumberRows p visited rest).filter (fun r => q r.data) =
      (visited ++ rest).filter fun r => q r.data := by
  induction rest generalizing visited with
  | nil => simp [renumberRows]
  | cons r rest ih =>
    rw [renumberRows, ih]
    cases hq : q r.data with
    | true => simp [hpq r.data hq]
    | false => split_ifs <;> simp_all

/-- Each row that is visited has exactly the renumbered rows before it. -/
lemma numberedFrom_renumberRows
    (hvisited : Numbered (visited.filter fun r => p r.data))
    (hrest : (rest.filter fun r => p r.data).Pairwise fun r s => r.sort < s.sort)
    (hle : ∀ r ∈ rest, p r.data → (visited.countP fun r => p r.data) ≤ r.sort) :
    Numbered ((renumberRows p visited rest).filter fun r => p r.data) := by
  induction rest generalizing visited with
  | nil => exact hvisited
  | cons r rest ih =>
    rw [renumberRows]
    obtain ⟨hr, hle⟩ := forall_mem_cons.mp hle
    cases hp : p r.data with
    | false =>
      rw [if_neg (by simp)]
      refine ih ?_ ?_ fun s hs hps => ?_
      · rwa [filter_append, filter_cons_of_neg (by simp [hp]), filter_nil,
          append_nil]
      · rwa [filter_cons_of_neg (by simp [hp])] at hrest
      · rw [countP_append, countP_singleton, hp]
        exact hle s hs hps
    | true =>
      rw [filter_cons_of_pos (by simpa using hp)] at hrest
      obtain ⟨hafter, hrest⟩ := pairwise_cons.mp hrest
      -- the rows before have smaller ordinals now, those after it have larger ones
      have hcount : ((visited ++ r :: rest).countP fun s => p s.data ∧ s.sort < r.sort) =
          visited.countP fun s => p s.data := by
        have hbefore : (visited.countP fun s => p s.data ∧ s.sort < r.sort) =
            visited.countP fun s => p s.data := by
          refine countP_congr fun s hs => ?_
          suffices hlt : p s.data = true → s.sort < r.sort by simpa using hlt
          intro hps
          have hlt := NumberedFrom.sort_lt hvisited (mem_filter.mpr ⟨hs, hps⟩)
          rw [← countP_eq_length_filter] at hlt
          have := hr hp
          omega
        have hzero : ((r :: rest).countP fun s => p s.data ∧ s.sort < r.sort) = 0 := by
          refine countP_eq_zero.mpr (forall_mem_cons.mpr ⟨by simp, fun s hs => ?_⟩)
          suffices hlt : p s.data = true → r.sort ≤ s.sort by simpa using hlt
          exact fun hps => (hafter s (mem_filter.mpr ⟨hs, hps⟩)).le
        rw [countP_append, hbefore, hzero, Nat.add_zero]
      rw [hcount, if_pos rfl]
      refine ih ?_ hrest fun s hs hps => ?_
      · rw [filter_append]
        refine numberedFrom_append.mpr ⟨hvisited, ?_⟩
        rw [filter_cons_of_pos (by simpa using hp)]
        exact ⟨by rw [Nat.zero_add, countP_eq_length_filter], trivial⟩
      · have hlt := hafter s (mem_filter.mpr ⟨hs, hps⟩)
        have := hr hp
        rw [countP_append, countP_singleton, if_pos hp]
        omega

end Renumber

/-! ### Tables -/

/-- How a database assigns keys to new rows: in any way, as long as the key of a row is larger than
those of the rows that are there. -/
structure RowIDs where
  /-- The key of the next row, by the number of rows that were inserted and the keys in use. -/
  fresh : ℕ → List ℤ → ℤ
  lt_fresh : ∀ n ids, ∀ id ∈ ids, id < fresh n ids

lemma pairwise_id_nil : ([] : List (Row α)).Pairwise fun r s => r.id < s.id := .nil

/-- A table, in the order of its keys. -/
structure Table (α : Type) where
  rows : List (Row α) := []
  ordered : rows.Pairwise fun r s => r.id < s.id := by first | exact Sql.pairwise_id_nil | simp
  /-- The number of rows that were inserted. -/
  inserts : ℕ := 0

namespace Table

variable {p q : α → Bool} {t : Table α} {ids : RowIDs}

/-- The rows of one of the lists, in the order of the keys. -/
def list (t : Table α) (p : α → Bool) : List (Row α) := t.rows.filter fun r => p r.data

/-- The key that the next row gets. -/
def newID (t : Table α) (ids : RowIDs) : ℤ := ids.fresh t.inserts (t.rows.map Row.id)

/-- `INSERT`. -/
def insert (t : Table α) (ids : RowIDs) (sort : ℤ) (data : α) : Table α where
  rows := t.rows ++ [⟨t.newID ids, sort, data⟩]
  ordered := by
    refine List.pairwise_append.mpr ⟨t.ordered, List.pairwise_singleton _ _, fun r hr s hs => ?_⟩
    obtain rfl := List.mem_singleton.mp hs
    exact ids.lt_fresh _ _ _ (List.mem_map_of_mem hr)
  inserts := t.inserts + 1

/-- `UPDATE` of the other columns `WHERE p AND sort = i`. -/
def update (t : Table α) (p : α → Bool) (i : ℤ) (f : α → α) : Table α where
  rows := t.rows.map fun r =>
    if p r.data ∧ r.sort = i then { r with data := f r.data } else r
  ordered := by
    refine List.pairwise_map.mpr (t.ordered.imp fun {r s} h => ?_)
    split_ifs <;> exact h
  inserts := t.inserts

/-- `UPDATE` of the other columns of each row. -/
def updateAll (t : Table α) (f : α → α) : Table α where
  rows := t.rows.map fun r => { r with data := f r.data }
  ordered := List.pairwise_map.mpr t.ordered
  inserts := t.inserts

/-- `DELETE` of the rows that satisfy a condition. -/
def delete (t : Table α) (cond : Row α → Bool) : Table α where
  rows := t.rows.filter fun r => !cond r
  ordered := t.ordered.filter _
  inserts := t.inserts

/-- `DELETE WHERE p AND sort = i`, for one ordinal after the other. -/
def deleteAt (t : Table α) (p : α → Bool) (indexes : List ℤ) : Table α :=
  indexes.foldl (fun t i => t.delete fun r => p r.data ∧ r.sort = i) t

/-- Set the ordinals of a list to the numbers of smaller ones. -/
def renumber (t : Table α) (p : α → Bool) : Table α where
  rows := renumberRows p [] t.rows
  ordered := by
    have hids := congrArg (List.map Prod.fst) (map_data_renumberRows p [] t.rows)
    rw [List.map_map, List.map_map] at hids
    have hids : (renumberRows p [] t.rows).map Row.id = t.rows.map Row.id := hids
    rw [← List.pairwise_map, hids, List.pairwise_map]
    exact t.ordered
  inserts := t.inserts

/-- Keys tell rows apart. -/
lemma eq_of_id_eq {r s : Row α} (hr : r ∈ t.rows) (hs : s ∈ t.rows) (hid : r.id = s.id) :
    r = s :=
  inj_on_of_nodup_map ((pairwise_map.mpr t.ordered).imp ne_of_lt) hr hs hid

/-- In a list, a row is given by its ordinal and by its key. -/
lemma sort_eq_iff_id_eq {r r' : Row α}
    (h : (t.list p).Pairwise fun r s => r.sort < s.sort) (hr : r ∈ t.list p)
    (hr' : r' ∈ t.list p) : r'.sort = r.sort ↔ r'.id = r.id := by
  constructor
  · intro heq
    rw [inj_on_of_nodup_map ((pairwise_map.mpr h).imp ne_of_lt) hr' hr heq]
  · intro heq
    rw [eq_of_id_eq (mem_of_mem_filter hr') (mem_of_mem_filter hr) heq]

lemma newID_notMem (t : Table α) (ids : RowIDs) : ∀ r ∈ t.rows, r.id ≠ t.newID ids :=
  fun _ hr => (ids.lt_fresh _ _ _ (mem_map_of_mem hr)).ne

lemma list_insert (sort : ℤ) (data : α) : (t.insert ids sort data).list p =
    t.list p ++ if p data then [⟨t.newID ids, sort, data⟩] else [] := by
  rw [list, insert, filter_append, filter_cons, filter_nil]
  rfl

variable {f : α → α}

lemma list_updateAll (hf : ∀ a, p (f a) = p a) :
    (t.updateAll f).list p = (t.list p).map fun r => { r with data := f r.data } := by
  rw [list, updateAll, filter_map]
  simp only [Function.comp_def, hf]
  rfl

/-- An update of one list changes the row at its ordinal. -/
lemma list_update {i : ℤ} (hf : ∀ a, p a → p (f a)) :
    (t.update p i f).list p = updateAt i f (t.list p) := by
  have hp (r : Row α) : p (if p r.data ∧ r.sort = i then { r with data := f r.data }
      else r).data = p r.data := by
    split_ifs with h
    · exact (hf _ h.1).trans h.1.symm
    · rfl
  rw [list, update, filter_map]
  simp only [Function.comp_def, hp]
  refine map_congr_left fun r hr => ?_
  simp [(mem_filter.mp hr).2]

/-- An update of one list leaves the others. -/
lemma list_update_of_disjoint {i : ℤ} (hpq : ∀ a, q a → p a = false)
    (hf : ∀ a, p a → q (f a) = false) : (t.update p i f).list q = t.list q := by
  have hq (r : Row α) : q (if p r.data ∧ r.sort = i then { r with data := f r.data }
      else r).data = q r.data := by
    split_ifs with h
    · rw [hf _ h.1]
      cases hqr : q r.data with
      | false => rfl
      | true => exact absurd h.1 (by simp [hpq _ hqr])
    · rfl
  rw [list, update, filter_map]
  simp only [Function.comp_def, hq]
  refine (map_congr_left fun r hr => ?_).trans (map_id _)
  have hpr := hpq _ (mem_filter.mp hr).2
  simp [hpr]

lemma list_delete {cond : Row α → Bool} :
    (t.delete cond).list p = (t.list p).filter fun r => !cond r := by
  rw [list, list, delete, filter_filter, filter_filter]
  simp only [Bool.and_comm]

/-- The rows that a deletion leaves. -/
lemma list_deleteAt {indexes : List ℤ} :
    (t.deleteAt p indexes).list p = (t.list p).filter fun r => r.sort ∉ indexes := by
  induction indexes generalizing t with
  | nil => simp [deleteAt]
  | cons i indexes ih =>
    rw [deleteAt, foldl_cons]
    refine ih.trans ?_
    rw [list_delete, filter_filter]
    refine filter_congr fun r hr => ?_
    have hp : p r.data := (mem_filter.mp hr).2
    simp [hp, Bool.and_comm]

lemma list_deleteAt_of_disjoint {indexes : List ℤ} (hpq : ∀ a, q a → p a = false) :
    (t.deleteAt p indexes).list q = t.list q := by
  induction indexes generalizing t with
  | nil => rfl
  | cons i indexes ih =>
    rw [deleteAt, foldl_cons]
    refine ih.trans ?_
    rw [list_delete]
    refine filter_eq_self.mpr fun r hr => ?_
    simp [hpq _ (mem_filter.mp hr).2]

lemma list_renumber_of_disjoint (hpq : ∀ a, q a → p a = false) :
    (t.renumber p).list q = t.list q :=
  filter_renumberRows hpq

/-- Renumbering keeps the entries of the list. -/
lemma map_list_renumber (t : Table α) (p : α → Bool) :
    ((t.renumber p).list p).map (fun r => (r.id, r.data)) =
      (t.list p).map fun r => (r.id, r.data) := by
  have hmap (l : List (Row α)) : (l.filter fun r => p r.data).map (fun r => (r.id, r.data)) =
      (l.map fun r => (r.id, r.data)).filter fun e => p e.2 := by
    rw [filter_map]
    rfl
  rw [list, list, hmap, hmap]
  exact congrArg _ (map_data_renumberRows p [] t.rows)

/-- Renumbering closes gaps. -/
lemma numbered_renumber (hsorted : (t.list p).Pairwise fun r s => r.sort < s.sort)
    (hpos : ∀ r ∈ t.list p, 0 ≤ r.sort) : Numbered ((t.renumber p).list p) := by
  refine numberedFrom_renumberRows trivial hsorted fun r hr hp => ?_
  exact hpos r (mem_filter.mpr ⟨hr, hp⟩)

end Table

end Sql
