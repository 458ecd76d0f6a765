import V2rayA.Configure.Which

/-!
# Selecting rows of the proxies page

A row is ticked by a key that is made of what it shows, and all rows with a ticked key are selected.

* `deletesTicked_iff`: the rows that are ticked are selected and deleted, and no others, as long as
  no two listed rows have the same key.
-/

namespace V2rayA.Gui

open List

/-- `TouchServer`. -/
structure Row where
  id : ℤ
  type : TouchType
  name : String
  address : String
  net : String
  sub : Option ℤ := none
  deriving DecidableEq

/-- `Touch`: the servers, and the address and the servers of every subscription. -/
structure Touch where
  servers : List Row
  subscriptions : List (String × List Row) := []

/-- The functions of strings. -/
structure Strings where
  trim : String → String
  toLowerCase : String → String
  includes : String → String → Bool

/-- `whichOf`. -/
def whichOf (row : Row) : TouchType × ℤ × Option ℤ :=
  (row.type, row.id, if row.type = .subscriptionServer then row.sub else none)

/-- `rowKey`. -/
def rowKey (row : Row) : String :=
  "|".intercalate (row.type.text ::
    if row.type = .subscription then [toString row.id, row.address]
    else [toString (row.sub.getD (-1)), row.address, row.name, row.net])

/-- `filterRows`. -/
def filterRows (js : Strings) (rows : List Row) (query : String) : List Row :=
  let search := js.toLowerCase (js.trim query)
  if search = "" then rows
  else rows.filter fun row =>
    [row.name, row.address, row.net].any fun text => js.includes (js.toLowerCase text) search

/-- `listed`. -/
def listed (js : Strings) (touch : Touch) (source query : String) : List Row :=
  let rows := touch.servers ++ touch.subscriptions.flatMap Prod.snd
  filterRows js (rows.filter fun row =>
    source = "all" ∨ if source = "local" then row.type = .server else
      0 ≤ row.sub.getD (-1) ∧
        touch.subscriptions[(row.sub.getD (-1)).toNat]?.map Prod.fst = some source) query

/-- `selectRow`. -/
def selectRow (keys : List String) (row : Row) (value : Bool) : List String :=
  if value then (keys ++ [rowKey row]).eraseDups else keys.filter (· ≠ rowKey row)

variable (l : List Row) (ticks : List (Fin l.length × Bool))

/-- `selected`, when listed rows have been ticked and unticked one by one. -/
def selected : List Row :=
  let keys := ticks.foldl (fun keys t => selectRow keys (l.get t.1) t.2) []
  l.filter fun row => rowKey row ∈ keys

/-- The rows whose last change was a tick. -/
def ticked : List Row :=
  ((finRange l.length).filter fun i =>
    ticks.foldl (fun value t => if t.1 = i then t.2 else value) false).map l.get

/-- The touches that `removeRows` deletes. -/
def removeRows (targets : List Row) : Option (List (TouchType × ℤ × Option ℤ)) :=
  if targets = [] ∨ ∃ r ∈ targets, r.type ≠ .server then none else some (targets.map whichOf)

/-- The rows that are ticked are selected, and their touches are sent if they are all servers. -/
structure DeletesTicked : Prop where
  selected : selected l ticks = ticked l ticks
  removed : ticked l ticks ≠ [] → (∀ r ∈ ticked l ticks, r.type = .server) →
    removeRows (Gui.selected l ticks) = some ((ticked l ticks).map whichOf)

variable {l ticks}

lemma mem_selectRow {keys : List String} {row : Row} {value : Bool} {k : String} :
    k ∈ selectRow keys row value ↔ if rowKey row = k then value = true else k ∈ keys := by
  unfold selectRow
  cases value <;> grind [mem_eraseDups]

/-- A key is ticked if the last change of a row that has it was a tick. -/
lemma mem_keys_iff {k : String} :
    k ∈ ticks.foldl (fun keys t => selectRow keys (l.get t.1) t.2) [] ↔
      ticks.foldl (fun value t => if rowKey (l.get t.1) = k then t.2 else value) false := by
  induction ticks using reverseRecOn with
  | nil => simp
  | append_singleton ticks t ih =>
    simp only [foldl_append, foldl_cons, foldl_nil, mem_selectRow, ih]
    split_ifs <;> rfl

lemma selected_eq : selected l ticks = ((finRange l.length).filter fun i =>
    ticks.foldl (fun value t => if rowKey (l.get t.1) = rowKey (l.get i) then t.2 else value)
      false).map l.get := by
  have hget : (finRange l.length).map l.get = l := by simp
  simp only [selected, mem_keys_iff]
  conv_lhs => arg 2; rw [← hget]
  rw [filter_map]
  simp [Function.comp_def]

/-- Whatever is ticked, the selected rows are those whose last change was a tick, if and only if no
two listed rows have the same key. -/
theorem deletesTicked_iff (js : Strings) (touch : Touch) (source query : String) :
    (∀ ticks, DeletesTicked (listed js touch source query) ticks) ↔
      Function.Injective fun i => rowKey ((listed js touch source query).get i) := by
  generalize listed js touch source query = l
  constructor
  · intro h i j hij
    have hlength := congrArg length (h [(i, true)]).selected
    simp only [selected_eq, ticked, length_map] at hlength
    -- the row that is ticked is selected, so that there are no others
    have heq := Sublist.eq_of_length (monotone_filter_right _ fun a ha => by grind) hlength.symm
    simpa using (congrArg (j ∈ ·) heq).mpr (by simpa using hij)
  · intro hinj ticks
    have heq : selected l ticks = ticked l ticks := by
      simp only [selected_eq, ticked, hinj.eq_iff]
    refine ⟨heq, fun hne hservers => ?_⟩
    rw [heq, removeRows, if_neg (by simpa [hne] using hservers)]

/-- Two servers that show the same. -/
def twins : Touch where
  servers := [⟨1, .server, "n", "h.example:443", "vmess", none⟩,
    ⟨2, .server, "n", "h.example:443", "vmess", none⟩]

/-- One is ticked, and both are deleted. -/
theorem removes_unticked :
    ∃ i, ticked (listed ⟨id, id, fun _ _ => false⟩ twins "all" "") [(i, true)] =
        twins.servers.take 1 ∧
      removeRows (selected (listed ⟨id, id, fun _ _ => false⟩ twins "all" "") [(i, true)]) =
        some [(.server, 1, none), (.server, 2, none)] :=
  ⟨⟨0, by decide⟩, by decide, by decide⟩

end V2rayA.Gui
