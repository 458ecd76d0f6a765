import V2rayA.Go.Runtime

/-!
# References to nodes and the order of a touch list

The catalog of the program is a list of servers and a list of subscriptions, each of which
has a list of servers of its own. Everything outside the catalog names its entries by
position: a `NodeRef` is a type tag with one or two ordinals and the group (outbound) it
belongs to, and a `Which` is a reference together with what the user interface shows.

* `sortSameTypeReverse_perm` and `sortSameTypeReverse_pairwise`: the order that
  `SortSameTypeReverse` establishes. Servers stand before subscriptions and those before
  subscription servers, and within one type no entry is less than a later one.
-/

namespace V2rayA

open List

/-- The type of a reference. Requests carry it as free text; every text other than the three
the program knows is `other`. -/
inductive TouchType
  | server
  | subscription
  | subscriptionServer
  | other (raw : String)
  deriving DecidableEq, Repr

namespace TouchType

/-- The text by which requests and stored references name the type. -/
def text : TouchType → String
  | server => "server"
  | subscription => "subscription"
  | subscriptionServer => "subscriptionServer"
  | other raw => raw

/-- Whether the program knows the type. -/
def Known : TouchType → Prop
  | other _ => False
  | _ => True

/-- The map `quantifyType` of `Less`. A type that is not in the map reads as zero. -/
def quantifyType : TouchType → ℕ
  | server => 0
  | subscription => 1
  | subscriptionServer => 2
  | other _ => 0

lemma quantifyType_injOn {a b : TouchType} (ha : a.Known) (hb : b.Known)
    (h : a.quantifyType = b.quantifyType) : a = b := by
  cases a <;> cases b <;> simp_all [quantifyType, Known]

end TouchType

/-- A reference to an entry of the catalog. -/
structure NodeRef where
  /-- What kind of entry is meant. -/
  type : TouchType
  /-- The ordinal of the entry, counted from one. -/
  id : ℤ
  /-- For a server of a subscription, the index of the subscription, counted from zero. -/
  sub : ℤ
  /-- The group the reference belongs to. -/
  outbound : String
  deriving DecidableEq, Repr

/-- A reference as the user interface exchanges it. -/
structure Which extends NodeRef where
  /-- The result of a latency test. -/
  latency : String := ""
  /-- The share link of the node. -/
  link : String := ""
  /-- Whether the group routes through this member alone. -/
  selected : Bool := false
  deriving DecidableEq, Repr

/-- Two references to the same entry in the same group. The fields that the type does not
use are not compared, and a reference of an unknown type equals none. -/
def NodeRef.equalTo (w another : NodeRef) : Bool :=
  match w.type with
  | .subscriptionServer =>
    another.type = w.type ∧ another.sub = w.sub ∧ another.id = w.id ∧
      another.outbound = w.outbound
  | .server => another.type = w.type ∧ another.id = w.id ∧ another.outbound = w.outbound
  | .subscription => another.type = w.type ∧ another.id = w.id
  | .other _ => false

namespace Whiches

/-- `Whiches.Less`, on the touches themselves. -/
def less (a b : Which) : Bool :=
  if a.type ≠ b.type then a.type.quantifyType < b.type.quantifyType
  else if a.type = .server then a.id < b.id
  else if a.sub ≠ b.sub then a.sub < b.sub
  else a.id < b.id

/-- The variables of the loop in `SortSameTypeReverse`. -/
structure ReverseState where
  touches : List Which
  typ : TouchType
  start : ℕ

/-- One iteration of the loop in `SortSameTypeReverse`: when the type changes at `i`, the
entries since the last change are reversed. -/
def reverseStep (s : ReverseState) (i : ℕ) : ReverseState :=
  match s.touches[0]?, s.touches[i]? with
  | some first, some w =>
    let typ := if s.typ = .other "" then first.type else s.typ
    if w.type ≠ typ then
      { touches := Go.reverseRange s.touches s.start i, typ := w.type, start := i }
    else { s with typ }
  | _, _ => s

/-- The part of `SortSameTypeReverse` after the sort. -/
def reverseRuns (ws : List Which) : List Which :=
  let s := (List.range ws.length).foldl reverseStep
    { touches := ws, typ := .other "", start := 0 }
  if s.start < s.touches.length - 1 then Go.reverseRange s.touches s.start ws.length
  else s.touches

/-- `Whiches.SortSameTypeReverse`. -/
def sortSameTypeReverse (rt : Go.Runtime) (ws : List Which) : List Which :=
  reverseRuns (rt.sort less ws)

/-! ### The order of the result -/

/-- The order of `SortSameTypeReverse`: an earlier entry has a type of smaller rank, or the
same type and is not less. -/
def Before (a b : Which) : Prop :=
  a.type.quantifyType < b.type.quantifyType ∨ (a.type = b.type ∧ less a b = false)

lemma quantifyType_le_of_less_eq_false {a b : Which} (h : less b a = false) :
    a.type.quantifyType ≤ b.type.quantifyType := by
  unfold less at h
  split_ifs at h with h₁ <;> simp_all

variable {ws : List Which}

/-- On touches of known types `Less` is a strict weak order. -/
lemma strictWeakOn_less (hws : ∀ w ∈ ws, w.type.Known) :
    Go.StrictWeakOn less ws where
  asymm a ha b hb h := by
    unfold less at h ⊢
    split_ifs at h ⊢ <;> simp_all <;> omega
  trans a ha b hb c hc hab hbc := by
    have hab' := quantifyType_le_of_less_eq_false hab
    have hbc' := quantifyType_le_of_less_eq_false hbc
    by_cases hac : c.type = a.type
    · have hrank : a.type.quantifyType = b.type.quantifyType := by
        rw [hac] at hbc'
        omega
      have hba : b.type = a.type :=
        TouchType.quantifyType_injOn (hws b hb) (hws a ha) hrank.symm
      unfold less at hab hbc ⊢
      split_ifs at hab hbc ⊢ <;> simp_all <;> omega
    · unfold less
      rw [if_pos hac]
      simp
      omega

/-- The list `SortSameTypeReverse` has rearranged up to `i`: a finished part, then the
entries since the last change of type, then the entries not yet visited. -/
private structure Partial (typ : TouchType) (done seg rest : List Which) : Prop where
  known : ∀ w ∈ done ++ seg ++ rest, w.type.Known
  done_before : done.Pairwise Before
  sorted : (seg ++ rest).Pairwise fun a b => less b a = false
  below : ∀ a ∈ done, ∀ b ∈ seg ++ rest, a.type.quantifyType < b.type.quantifyType
  seg_type : ∀ w ∈ seg, w.type = typ

variable {done seg rest : List Which} {typ : TouchType}

/-- Reversing the current segment completes it. -/
private lemma Partial.pairwise_before (h : Partial typ done seg rest) :
    (done ++ seg.reverse).Pairwise Before := by
  refine pairwise_append.mpr ⟨h.done_before, ?_, ?_⟩
  · have hseg := (pairwise_append.mp h.sorted).1
    refine pairwise_reverse.mpr (hseg.imp_of_mem ?_)
    intro a b ha hb hless
    exact .inr ⟨by rw [h.seg_type a ha, h.seg_type b hb], hless⟩
  · intro a ha b hb
    have hb' : b ∈ seg ++ rest := mem_append_left _ (mem_reverse.mp hb)
    exact .inl (h.below a ha b hb')

/-- An entry of the current type extends the segment. -/
private lemma Partial.extend {w : Which} (h : Partial typ done seg (w :: rest))
    (hw : w.type = typ) :
    Partial typ done (seg ++ [w]) rest where
  known := by simpa using h.known
  done_before := h.done_before
  sorted := by simpa using h.sorted
  below := by simpa using h.below
  seg_type := by
    intro v hv
    rcases mem_append.mp hv with hv | hv
    · exact h.seg_type v hv
    · rw [mem_singleton.mp hv, hw]

/-- An entry of another type completes the segment and starts the next one. -/
private lemma Partial.turn {w : Which} (h : Partial typ done seg (w :: rest))
    (hw : w.type ≠ typ) :
    Partial w.type (done ++ seg.reverse) [w] rest where
  known := by
    intro v hv
    apply h.known v
    simp only [mem_append, mem_reverse, mem_cons] at hv ⊢
    tauto
  done_before := h.pairwise_before
  sorted := (pairwise_append.mp h.sorted).2.1
  below := by
    have hsplit := pairwise_append.mp h.sorted
    have hrest := pairwise_cons.mp hsplit.2.1
    intro a ha b hb
    rcases mem_append.mp ha with ha | ha
    · exact h.below a ha b (mem_append_right _ hb)
    · -- `a` has the old type, whose rank is strictly smaller than that of `w`.
      have ha := mem_reverse.mp ha
      have haw := quantifyType_le_of_less_eq_false (hsplit.2.2 a ha w (by simp))
      have hne : a.type.quantifyType ≠ w.type.quantifyType := by
        intro heq
        apply hw
        rw [← h.seg_type a ha]
        refine (TouchType.quantifyType_injOn (h.known a ?_) (h.known w ?_) heq).symm
        · simp [ha]
        · simp
      have hwb : w.type.quantifyType ≤ b.type.quantifyType := by
        rcases mem_cons.mp hb with rfl | hb
        · exact le_refl _
        · exact quantifyType_le_of_less_eq_false (hrest.1 b hb)
      omega
  seg_type := by simp

private lemma reverseRange_segment (done seg rest : List Which) :
    Go.reverseRange (done ++ seg ++ rest) done.length (done.length + seg.length) =
      done ++ seg.reverse ++ rest := by
  rw [Go.reverseRange_eq _ (by omega) (by simp)]
  simp

/-- The reversal after the loop: it is skipped only for a segment of one entry. -/
private lemma reverse_last (done seg : List Which) :
    (if done.length < (done ++ seg).length - 1 then
        Go.reverseRange (done ++ seg) done.length (done.length + seg.length)
      else done ++ seg) = done ++ seg.reverse := by
  split_ifs with hlen
  · simpa using reverseRange_segment done seg []
  · match seg with
    | [] => rfl
    | [_] => rfl
    | _ :: _ :: _ => simp at hlen

/-- The loop of `SortSameTypeReverse` from any iteration on. The induction is on the entries
not yet visited; `Partial` is the invariant. -/
private lemma foldl_reverseStep (h : Partial typ done seg rest) (hseg : seg ≠ []) :
    ∃ typ' done' seg',
      (List.range' (done.length + seg.length) rest.length).foldl reverseStep
          { touches := done ++ seg ++ rest, typ, start := done.length } =
        { touches := done' ++ seg', typ := typ', start := done'.length } ∧
      Partial typ' done' seg' [] ∧ (done' ++ seg').Perm (done ++ seg ++ rest) := by
  induction rest generalizing typ done seg with
  | nil => exact ⟨typ, done, seg, by simp, h, by simp⟩
  | cons w rest ih =>
    obtain ⟨v, hv⟩ := exists_mem_of_ne_nil seg hseg
    have htyp : typ ≠ .other "" := by
      rintro rfl
      have hknown := h.known v (by simp [hv])
      rw [h.seg_type v hv] at hknown
      exact hknown
    obtain ⟨first, hfirst⟩ : ∃ first, (done ++ seg ++ w :: rest)[0]? = some first :=
      ⟨_, getElem?_eq_getElem (by rw [length_append, length_cons]; omega)⟩
    have hget : (done ++ seg ++ w :: rest)[done.length + seg.length]? = some w := by
      rw [getElem?_append_right (by simp)]
      simp
    rw [length_cons, range'_succ, foldl_cons]
    by_cases hw : w.type = typ
    · have hstep : reverseStep { touches := done ++ seg ++ w :: rest, typ, start := done.length }
          (done.length + seg.length) =
          { touches := done ++ (seg ++ [w]) ++ rest, typ, start := done.length } := by
        simp only [reverseStep, hfirst, hget, htyp, ne_eq, hw]
        simp
      rw [hstep]
      simpa [Nat.add_assoc] using ih (h.extend hw) (by simp)
    · have hstep : reverseStep { touches := done ++ seg ++ w :: rest, typ, start := done.length }
          (done.length + seg.length) =
          { touches := done ++ seg.reverse ++ [w] ++ rest, typ := w.type,
            start := (done ++ seg.reverse).length } := by
        simp only [reverseStep, hfirst, hget, htyp, if_false, ne_eq, hw, reverseRange_segment]
        simp
      rw [hstep]
      obtain ⟨typ', done', seg', hrun, hpart, hperm⟩ := ih (h.turn hw) (by simp)
      refine ⟨typ', done', seg', ?_, hpart, hperm.trans ?_⟩
      · simpa using hrun
      · simp
        exact ((reverse_perm seg).append_right _).append_left _

/-- What the loop makes of a sorted list of known types. -/
private lemma reverseRuns_spec (ws : List Which) (hknown : ∀ w ∈ ws, w.type.Known)
    (hsorted : ws.Pairwise fun a b => less b a = false) :
    (reverseRuns ws).Perm ws ∧ (reverseRuns ws).Pairwise Before := by
  match ws with
  | [] => simp [reverseRuns]
  | w :: rest =>
    have hpart : Partial w.type [] [w] rest :=
      { known := by simpa using hknown
        done_before := List.Pairwise.nil
        sorted := by simpa using hsorted
        below := by simp
        seg_type := by simp }
    obtain ⟨typ, done, seg, hrun, hfin, hperm⟩ := foldl_reverseStep hpart (by simp)
    have hfirst : reverseStep { touches := w :: rest, typ := .other "", start := 0 } 0 =
        { touches := w :: rest, typ := w.type, start := 0 } := by
      simp [reverseStep]
    have hloop : (range (w :: rest).length).foldl reverseStep
        { touches := w :: rest, typ := .other "", start := 0 } =
        { touches := done ++ seg, typ, start := done.length } := by
      rw [range_eq_range', length_cons, range'_succ, foldl_cons, hfirst]
      simpa using hrun
    have hlen : (w :: rest).length = done.length + seg.length := by
      simpa using hperm.length_eq.symm
    have hresult : reverseRuns (w :: rest) = done ++ seg.reverse := by
      rw [reverseRuns, hloop, hlen]
      exact reverse_last done seg
    rw [hresult]
    exact ⟨((reverse_perm seg).append_left _).trans (by simpa using hperm),
      hfin.pairwise_before⟩

/-- `SortSameTypeReverse` only rearranges. -/
lemma sortSameTypeReverse_perm (rt : Go.Runtime) (hws : ∀ w ∈ ws, w.type.Known) :
    (sortSameTypeReverse rt ws).Perm ws := by
  have hspec := reverseRuns_spec (rt.sort less ws) (by simpa using hws)
    (rt.sort_sorted less ws (strictWeakOn_less hws))
  exact hspec.1.trans (rt.sort_perm less ws)

/-- `SortSameTypeReverse` orders the types by rank and reverses the order within each. -/
lemma sortSameTypeReverse_pairwise (rt : Go.Runtime) (hws : ∀ w ∈ ws, w.type.Known) :
    (sortSameTypeReverse rt ws).Pairwise Before :=
  (reverseRuns_spec (rt.sort less ws) (by simpa using hws)
    (rt.sort_sorted less ws (strictWeakOn_less hws))).2

/-- `SortSameTypeReverse` puts the servers first, then the subscriptions, then the servers of
subscriptions. Servers have descending ordinals; in the other types `Sub` comes before `ID`. -/
theorem sortSameTypeReverse_descending (rt : Go.Runtime) (ws : List Which)
    (hws : ∀ w ∈ ws, w.type.Known) :
    (sortSameTypeReverse rt ws).Perm ws ∧
      (sortSameTypeReverse rt ws).Pairwise fun a b =>
        a.type.quantifyType < b.type.quantifyType ∨ a.type = b.type ∧
          if a.type = .server then b.id ≤ a.id
          else b.sub < a.sub ∨ b.sub = a.sub ∧ b.id ≤ a.id := by
  refine ⟨sortSameTypeReverse_perm rt hws, (sortSameTypeReverse_pairwise rt hws).imp ?_⟩
  rintro a b (hrank | ⟨htype, hless⟩)
  · exact .inl hrank
  · refine .inr ⟨htype, ?_⟩
    rw [less, if_neg (not_not.mpr htype)] at hless
    split_ifs at hless ⊢ with hserver hsub
    · simpa using hless
    · exact .inl (lt_of_le_of_ne (by simpa using hless) (Ne.symm hsub))
    · exact .inr ⟨(not_not.mp hsub).symm, by simpa using hless⟩

theorem sortSameTypeReverse_descending_mixed :
    (sortSameTypeReverse .inOrder [⟨⟨.subscription, 1, 0, ""⟩, "", "", false⟩,
      ⟨⟨.server, 1, 0, ""⟩, "", "", false⟩]).Perm
        [⟨⟨.subscription, 1, 0, ""⟩, "", "", false⟩, ⟨⟨.server, 1, 0, ""⟩, "", "", false⟩] :=
  (sortSameTypeReverse_descending .inOrder _ (by simp [TouchType.Known])).1

end Whiches

end V2rayA
