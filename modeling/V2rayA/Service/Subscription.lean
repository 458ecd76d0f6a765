import V2rayA.Service.World

/-!
# Updating a subscription

An update replaces the nodes of a subscription by those that were fetched, while connected
references name the old nodes by position. `storeSubscriptionUpdate` looks for each
referenced old node among the new ones, moves the references, and appends copies of old nodes
that are still wanted but were not found.

* `remapSubscriptionNodeDetailed_exact` and `remapSubscriptionNodeDetailed_fallback`: what the
  search finds.
* `claim_foldl`: the first loop collects one search result for each referenced position.
* `follow_foldl`: the second loop in terms of `retained`, the old positions that are copied,
  and `follow`, what becomes of a single reference.
-/

namespace V2rayA

open List Function

variable {ν : Type} [ServerObj ν]

/-! ### Looking for an old node among the new ones -/

/-- The two nodes are reached in the same way. -/
def SameEndpoint (old node : ν) : Prop :=
  getProtocol node = getProtocol old ∧ getHostname node = getHostname old ∧
    getPort node = getPort old

/-- The two nodes have the same name, which is not empty, and the same protocol. -/
def SameName (old node : ν) : Prop :=
  getName old ≠ "" ∧ getName node = getName old ∧ getProtocol node = getProtocol old

instance (old : ν) : DecidablePred (SameEndpoint old) := fun _ =>
  inferInstanceAs (Decidable (_ ∧ _ ∧ _))

instance (old : ν) : DecidablePred (SameName old) := fun _ =>
  inferInstanceAs (Decidable (_ ∧ _ ∧ _))

/-- The loop that looks for the only node with a property, from the node after the `i`-th on.
`found` is the ordinal of the node found so far, or zero; a second one makes it `-1`. -/
def uniqueMatch (p : ν → Bool) : (i found : ℤ) → List ν → ℤ
  | _, found, [] => found
  | i, found, node :: nodes =>
    if p node then
      if found ≠ 0 then -1 else uniqueMatch p (i + 1) (i + 1) nodes
    else uniqueMatch p (i + 1) found nodes

/-- The ordinal of the new node that stands for `old`, zero for none, and whether it has the
same share link. -/
def remapSubscriptionNodeDetailed (old : ν) (nodes : List ν) : ℤ × Bool :=
  match nodes.findIdx? fun node => exportToURL node = exportToURL old with
  | some i => (i + 1, true)
  | none =>
    let endpoint := uniqueMatch (fun node => SameEndpoint old node) 0 0 nodes
    if endpoint > 0 then (endpoint, false)
    else
      let name := uniqueMatch (fun node => SameName old node) 0 0 nodes
      if name > 0 then (name, false) else (0, false)

/-- The node at position `i`, and no other one, has the property `p`. -/
def UniqueAt (p : ν → Prop) (nodes : List ν) (i : ℕ) : Prop :=
  (∃ node, nodes[i]? = some node ∧ p node) ∧
    ∀ j node, nodes[j]? = some node → p node → j = i

/-- The search falls back to the node at position `i`: no node has the share link of `old`,
and the node is the only one with its endpoint, or else the only one with its name. -/
def FallsBackTo (old : ν) (nodes : List ν) (i : ℕ) : Prop :=
  (∀ node ∈ nodes, exportToURL node ≠ exportToURL old) ∧
    (UniqueAt (SameEndpoint old) nodes i ∨
      (¬∃ j, UniqueAt (SameEndpoint old) nodes j) ∧ UniqueAt (SameName old) nodes i)

section Search

variable {nodes : List ν}

variable {i : ℕ}

omit [ServerObj ν] in
lemma UniqueAt.lt_length {p : ν → Prop} (h : UniqueAt p nodes i) : i < nodes.length := by
  obtain ⟨⟨node, hget, -⟩, -⟩ := h
  exact (List.getElem?_eq_some_iff.mp hget).1

variable {old : ν}

lemma FallsBackTo.lt_length (h : FallsBackTo old nodes i) :
    i < nodes.length := by
  rcases h.2 with h | ⟨-, h⟩
  · exact h.lt_length
  · exact h.lt_length

omit [ServerObj ν] in
/-- Once a node has been found, the loop ends with it or with `-1`. -/
private lemma uniqueMatch_found {p : ν → Bool} {i found : ℤ} (hfound : 0 < found)
    (nodes : List ν) :
    uniqueMatch p i found nodes = if ∃ node ∈ nodes, p node then -1 else found := by
  induction nodes generalizing i with
  | nil => simp [uniqueMatch]
  | cons node nodes ih =>
    have hne : found ≠ 0 := by omega
    cases hp : p node <;> simp [uniqueMatch, hp, hne, ih]

omit [ServerObj ν] in
private lemma uniqueAt_cons {p : ν → Bool} {node : ν} :
    UniqueAt (fun node => p node = true) (node :: nodes) i ↔
      if p node then i = 0 ∧ ¬∃ node ∈ nodes, p node
      else ∃ j, j + 1 = i ∧ UniqueAt (fun node => p node = true) nodes j := by
  unfold UniqueAt
  rw [← Nat.and_forall_add_one]
  cases hp : p node with
  | false => cases i <;> simp [hp]
  | true =>
    cases i with
    | zero => simpa [hp, mem_iff_getElem?] using forall_comm
    | succ i => simp [hp]

omit [ServerObj ν] in
/-- The loop from the `i`-th node on finds the only node with the property. -/
private lemma uniqueMatch_pos_iff {p : ν → Bool} {i k : ℤ} (hi : 0 ≤ i) (nodes : List ν) :
    uniqueMatch p i 0 nodes = k ∧ 0 < k ↔
      ∃ j : ℕ, k = i + j + 1 ∧ UniqueAt (fun node => p node = true) nodes j := by
  induction nodes generalizing i with
  | nil => simp [uniqueMatch, UniqueAt]; omega
  | cons node nodes ih =>
    have hnext : 0 < i + 1 := by omega
    cases hp : p node with
    | false =>
      simp only [uniqueMatch, uniqueAt_cons, hp, Bool.false_eq_true, if_false, ih hnext.le]
      constructor
      · rintro ⟨j, hk, hj⟩
        exact ⟨j + 1, by push_cast; omega, j, rfl, hj⟩
      · rintro ⟨_, hk, j, rfl, hj⟩
        exact ⟨j, by push_cast at hk; omega, hj⟩
    | true =>
      simp only [uniqueMatch, uniqueAt_cons, ne_eq, not_true_eq_false, if_false,
        uniqueMatch_found hnext]
      split_ifs with hex
      · simp only [hex, not_true_eq_false, and_false, exists_false, iff_false]
        omega
      · simp only [hex, not_false_eq_true, and_true, exists_eq_right]
        omega

omit [ServerObj ν] in
lemma UniqueAt.eq {p : ν → Prop} {i j : ℕ} (hi : UniqueAt p nodes i) (hj : UniqueAt p nodes j) :
    i = j := by
  obtain ⟨⟨node, hget, hp⟩, -⟩ := hi
  exact hj.2 i node hget hp

/-- The search falls back to at most one node. -/
lemma FallsBackTo.eq {i j : ℕ} (hi : FallsBackTo old nodes i) (hj : FallsBackTo old nodes j) :
    i = j := by
  rcases hi.2, hj.2 with ⟨hi' | ⟨hnone, hi'⟩, hj' | ⟨hnone', hj'⟩⟩
  · exact hi'.eq hj'
  · exact absurd ⟨i, hi'⟩ hnone'
  · exact absurd ⟨j, hj'⟩ hnone
  · exact hi'.eq hj'

/-- What the search finds: the first node with the share link, or a node to fall back to, or
nothing. -/
lemma remapSubscriptionNodeDetailed_cases (old : ν) (nodes : List ν) :
    (∃ (i : ℕ) (node : ν), nodes[i]? = some node ∧ exportToURL node = exportToURL old ∧
        remapSubscriptionNodeDetailed old nodes = ((i : ℤ) + 1, true)) ∨
      (∃ i : ℕ, FallsBackTo old nodes i ∧
        remapSubscriptionNodeDetailed old nodes = ((i : ℤ) + 1, false)) ∨
      ((∀ node ∈ nodes, exportToURL node ≠ exportToURL old) ∧ (¬∃ i, FallsBackTo old nodes i) ∧
        remapSubscriptionNodeDetailed old nodes = (0, false)) := by
  unfold remapSubscriptionNodeDetailed
  cases hexact : nodes.findIdx? fun node => exportToURL node = exportToURL old with
  | some i =>
    obtain ⟨hlt, hurl, -⟩ := findIdx?_eq_some_iff_getElem.mp hexact
    exact .inl ⟨i, nodes[i], getElem?_eq_getElem hlt, of_decide_eq_true hurl, rfl⟩
  | none =>
    right
    have hurl : ∀ node ∈ nodes, exportToURL node ≠ exportToURL old := by
      simpa using hexact
    have hsearch : ∀ (p : ν → Prop) [DecidablePred p] (k : ℤ),
        uniqueMatch (fun node => p node) 0 0 nodes = k ∧ 0 < k ↔
          ∃ j : ℕ, k = j + 1 ∧ UniqueAt p nodes j := by
      intro p _ k
      simpa using uniqueMatch_pos_iff (p := fun node => p node) (k := k) (le_refl 0) nodes
    by_cases hendpoint : uniqueMatch (fun node => SameEndpoint old node) 0 0 nodes > 0
    · obtain ⟨i, hi, huniq⟩ := (hsearch (SameEndpoint old) _).mp ⟨rfl, hendpoint⟩
      exact .inl ⟨i, ⟨hurl, .inl huniq⟩, by rw [if_pos hendpoint, hi]⟩
    · have hno : ¬∃ j, UniqueAt (SameEndpoint old) nodes j := by
        rintro ⟨j, hj⟩
        have hfound := (hsearch (SameEndpoint old) (j + 1)).mpr ⟨j, rfl, hj⟩
        omega
      rw [if_neg hendpoint]
      by_cases hname : uniqueMatch (fun node => SameName old node) 0 0 nodes > 0
      · obtain ⟨i, hi, huniq⟩ := (hsearch (SameName old) _).mp ⟨rfl, hname⟩
        exact .inl ⟨i, ⟨hurl, .inr ⟨hno, huniq⟩⟩, by rw [if_pos hname, hi]⟩
      · refine .inr ⟨hurl, ?_, by rw [if_neg hname]⟩
        rintro ⟨i, -, huniq | ⟨-, huniq⟩⟩
        · exact hno ⟨i, huniq⟩
        · have hfound := (hsearch (SameName old) (i + 1)).mpr ⟨i, rfl, huniq⟩
          omega

/-- The search falls back to a node exactly when it returns its ordinal without a match of
the share link. -/
lemma remapSubscriptionNodeDetailed_fallback_iff :
    remapSubscriptionNodeDetailed old nodes = ((i : ℤ) + 1, false) ↔ FallsBackTo old nodes i := by
  rcases remapSubscriptionNodeDetailed_cases old nodes with
    ⟨j, node, hget, hurl, hres⟩ | ⟨j, hj, hres⟩ | ⟨-, hnone, hres⟩
  · constructor
    · simp [hres]
    · intro h
      exact absurd hurl (h.1 node (mem_of_getElem? hget))
  · rw [hres]
    constructor
    · intro h
      have : j = i := by simpa using h
      exact this ▸ hj
    · intro h
      rw [hj.eq h]
  · constructor
    · rw [hres]
      intro h
      simp at h
      omega
    · intro h
      exact absurd ⟨i, h⟩ hnone

/-- The search finds the first node with the share link. -/
lemma remapSubscriptionNodeDetailed_eq_exact_iff :
    remapSubscriptionNodeDetailed old nodes = ((i : ℤ) + 1, true) ↔
      nodes.findIdx? (fun node => exportToURL node = exportToURL old) = some i := by
  unfold remapSubscriptionNodeDetailed
  cases nodes.findIdx? fun node => exportToURL node = exportToURL old with
  | some j => simp
  | none =>
    dsimp only
    split_ifs <;> simp

end Search

/-! ### The operation -/

/-- The arguments of an update together with what it reads from the store. -/
structure Update (ν : Type) where
  /-- The index of the subscription. -/
  index : ℤ
  /-- The subscription before the update. -/
  old : SubscriptionRaw ν
  /-- The nodes that were fetched. -/
  nodes : List ν
  /-- Drop references to nodes that are gone. -/
  disconnect : Bool
  /-- The references of all groups. -/
  previousRefs : List NodeRef
  /-- Whether the worker manages the members of a group. -/
  autoAdd : String → Bool

/-- The maps of the first loop. -/
structure ClaimState where
  mappedIDs : ℤ → Option ℤ := fun _ => none
  exactMatches : ℤ → Bool := fun _ => false
  fallbackClaims : ℤ → ℕ := fun _ => 0

/-- The variables of the second loop. -/
structure FollowState (ν : Type) where
  /-- The new nodes and the copies of old ones so far. -/
  servers : List (ServerRaw ν)
  retainedIDs : ℤ → ℤ := fun _ => 0
  updated : List NodeRef := []
  affected : Bool := false

namespace Update

variable (u : Update ν)

/-- One iteration of the first loop: search for the old node of a reference, once for each
ordinal, and count how many fall back to the same new node. -/
def claimStep (st : ClaimState) (ref : NodeRef) : ClaimState :=
  if ref.type ≠ .subscriptionServer ∨ ref.sub ≠ u.index ∨ ref.id ≤ 0 then st
  else
    match u.old.servers[(ref.id - 1).toNat]? with
    | none => st
    | some raw =>
      if (st.mappedIDs ref.id).isSome then st
      else
        let (mapped, exact) := remapSubscriptionNodeDetailed raw.serverObj u.nodes
        { mappedIDs := Function.update st.mappedIDs ref.id (some mapped)
          exactMatches := Function.update st.exactMatches ref.id exact
          fallbackClaims :=
            if mapped ≠ 0 ∧ ¬exact then
              Function.update st.fallbackClaims mapped (st.fallbackClaims mapped + 1)
            else st.fallbackClaims }

/-- The first loop. -/
def claims : ClaimState := u.previousRefs.foldl u.claimStep {}

/-- One iteration of the second loop: move a reference, drop it, or keep a copy of its old
node for it. -/
def followStep (st : FollowState ν) (ref : NodeRef) : Except Go.Error (FollowState ν) :=
  if ref.type = .subscriptionServer ∧ ref.sub = u.index then
    match if ref.id ≤ 0 then none else u.old.servers[(ref.id - 1).toNat]? with
    | none => .error { text := "invalid connected server reference" }
    | some raw =>
      let mapped := (u.claims.mappedIDs ref.id).getD 0
      let id :=
        if ¬u.claims.exactMatches ref.id ∧ u.claims.fallbackClaims mapped > 1 then 0 else mapped
      if id = 0 ∧ (u.disconnect ∨ u.autoAdd ref.outbound) then
        .ok { st with affected := true }
      else
        let retain := id = 0 ∧ st.retainedIDs ref.id = 0
        let servers := if retain then st.servers ++ [raw] else st.servers
        let retainedIDs :=
          if retain then Function.update st.retainedIDs ref.id servers.length
          else st.retainedIDs
        let id := if id = 0 then retainedIDs ref.id else id
        let url := servers[(id - 1).toNat]?.map fun sr => exportToURL sr.serverObj
        .ok
          { servers, retainedIDs
            updated := st.updated ++ [{ ref with id }]
            affected := st.affected || id ≠ ref.id || url ≠ some (exportToURL raw.serverObj) }
  else .ok { st with updated := st.updated ++ [ref] }

/-- The second loop. -/
def followAll : Except Go.Error (FollowState ν) :=
  u.previousRefs.foldlM u.followStep { servers := u.nodes.map fun node => { serverObj := node } }

end Update

/-- The update of a subscription in a store. -/
def Update.ofStore (s : Store ν) (index : ℤ) (old : SubscriptionRaw ν) (nodes : List ν)
    (disconnect : Bool) : Update ν where
  index := index
  old := old
  nodes := nodes
  disconnect := disconnect
  previousRefs := s.getConnectedServers
  autoAdd := fun outbound => (s.getOutboundSetting outbound).autoAdd

/-- The error of an update that was stored but could not be applied. -/
def subscriptionCoreApplyError (err : Go.Error) : Go.Error :=
  err.wrap "subscription stored, but the core could not apply it"

/-- Store the nodes that were fetched for a subscription and move the references to its old
nodes. A running core is reloaded if a reference was dropped or moved, or if its node has
changed; when it cannot be, the old state is stored again. `status` is the time of the
update. -/
def storeSubscriptionUpdate (index : ℤ) (old : SubscriptionRaw ν) (nodes : List ν)
    (status info : String) (disconnect : Bool) : Go.Op (World ν) := fun w =>
  let previous := w.store.getConnectedServers
  match (Update.ofStore w.store index old nodes disconnect).followAll with
  | .error e => (some e, w)
  | .ok st =>
    let next := { old with servers := st.servers, status, info }
    match w.store.setSubscriptionAndConnects index next st.updated with
    | .error e => (some e, w)
    | .ok store =>
      let w := { w with store }
      if st.affected ∧ w.running then
        match World.updateV2RayConfig w with
        | (none, w) => (none, w)
        | (some e, w) =>
          let w :=
            match w.store.setSubscriptionAndConnects index old previous with
            | .ok store => { w with store }
            | .error _ => w
          (some (subscriptionCoreApplyError e), (World.updateV2RayConfig w).2)
      else (none, w)

/-! ### The first loop -/

namespace Update

variable (u : Update ν)

/-- The old node with an ordinal. -/
def oldAt (id : ℤ) : Option (ServerRaw ν) := u.old.servers[(id - 1).toNat]?

/-- The search for the old node with an ordinal. -/
def searchAt (id : ℤ) : ℤ × Bool :=
  match u.oldAt id with
  | some raw => remapSubscriptionNodeDetailed raw.serverObj u.nodes
  | none => (0, false)

/-- The reference names a server of the subscription that is updated. -/
def Of (ref : NodeRef) : Prop := ref.type = .subscriptionServer ∧ ref.sub = u.index

instance : DecidablePred u.Of := fun _ => inferInstanceAs (Decidable (_ ∧ _))

/-- The ordinals of the old nodes that references name. -/
def referenced (refs : List NodeRef) : List ℤ :=
  (refs.filter fun ref => u.Of ref ∧ 0 < ref.id ∧ (u.oldAt ref.id).isSome).map (·.id)

variable {refs : List NodeRef} {id : ℤ}

omit [ServerObj ν] in
lemma mem_referenced :
    id ∈ u.referenced refs ↔
      ∃ ref ∈ refs, u.Of ref ∧ 0 < ref.id ∧ (∃ raw, u.oldAt ref.id = some raw) ∧ ref.id = id := by
  simp [referenced, Option.isSome_iff_exists, and_assoc]

/-- The maps of the first loop after the references `refs`. -/
structure Claimed (refs : List NodeRef) (st : ClaimState) : Prop where
  mappedIDs : ∀ id, st.mappedIDs id =
    if id ∈ u.referenced refs then some (u.searchAt id).1 else none
  exactMatches : ∀ id, st.exactMatches id =
    if id ∈ u.referenced refs then (u.searchAt id).2 else false
  fallbackClaims : ∀ k, st.fallbackClaims k =
    ((u.referenced refs).toFinset.filter fun id => u.searchAt id = (k, false) ∧ k ≠ 0).card

/-- A reference that the first loop skips. -/
private lemma Claimed.skip {ref : NodeRef} {st : ClaimState} (h : u.Claimed refs st)
    (hskip : ∀ id, id ∈ u.referenced (refs ++ [ref]) ↔ id ∈ u.referenced refs) :
    u.Claimed (refs ++ [ref]) st := by
  have hset : (u.referenced (refs ++ [ref])).toFinset = (u.referenced refs).toFinset := by
    ext id
    simp [hskip]
  refine ⟨fun id => ?_, fun id => ?_, fun k => ?_⟩
  · simp only [hskip, h.mappedIDs]
  · simp only [hskip, h.exactMatches]
  · rw [hset, h.fallbackClaims]

/-- One iteration of the first loop. -/
private lemma Claimed.step {st : ClaimState} (h : u.Claimed refs st) (ref : NodeRef) :
    u.Claimed (refs ++ [ref]) (u.claimStep st ref) := by
  have happend : ∀ id, id ∈ u.referenced (refs ++ [ref]) ↔ id ∈ u.referenced refs ∨
      (u.Of ref ∧ 0 < ref.id ∧ (∃ raw, u.oldAt ref.id = some raw) ∧ ref.id = id) := by
    intro id
    simp [mem_referenced]
  unfold claimStep
  by_cases hskip : ref.type ≠ .subscriptionServer ∨ ref.sub ≠ u.index ∨ ref.id ≤ 0
  · rw [if_pos hskip]
    refine h.skip u fun id => ?_
    rw [happend]
    refine or_iff_left ?_
    rintro ⟨⟨htype, hsub⟩, hpos, -⟩
    rcases hskip with h | h | h
    · exact h htype
    · exact h hsub
    · omega
  · rw [if_neg hskip]
    push Not at hskip
    have hof : u.Of ref := ⟨hskip.1, hskip.2.1⟩
    cases hraw : u.old.servers[(ref.id - 1).toNat]? with
    | none =>
      refine h.skip u fun id => ?_
      rw [happend]
      refine or_iff_left ?_
      rintro ⟨-, -, ⟨raw, hraw'⟩, -⟩
      rw [oldAt, hraw] at hraw'
      exact absurd hraw' (by simp)
    | some raw =>
      have hmem : ∀ id,
          id ∈ u.referenced (refs ++ [ref]) ↔ id ∈ u.referenced refs ∨ id = ref.id := by
        intro id
        rw [happend]
        refine or_congr_right ?_
        exact ⟨fun h => h.2.2.2.symm, fun h => ⟨hof, hskip.2.2, ⟨raw, hraw⟩, h.symm⟩⟩
      dsimp only
      by_cases hseen : (st.mappedIDs ref.id).isSome
      · -- The ordinal has been searched for before.
        rw [if_pos hseen]
        rw [h.mappedIDs] at hseen
        refine h.skip u fun id => ?_
        rw [hmem]
        refine or_iff_left_of_imp ?_
        rintro rfl
        by_contra hnot
        simp [hnot] at hseen
      · rw [if_neg hseen]
        have hnew : ref.id ∉ u.referenced refs := by
          intro hold
          simp [h.mappedIDs, hold] at hseen
        have hsearch : u.searchAt ref.id =
            remapSubscriptionNodeDetailed raw.serverObj u.nodes := by
          simp only [searchAt, oldAt, hraw]
        rw [← hsearch]
        refine ⟨fun id => ?_, fun id => ?_, fun k => ?_⟩
        · by_cases hid : id = ref.id
          · simp [hid, hmem]
          · simp [h.mappedIDs, hmem, hid]
        · by_cases hid : id = ref.id
          · simp [hid, hmem]
          · simp [h.exactMatches, hmem, hid]
        · have hset : (u.referenced (refs ++ [ref])).toFinset =
              insert ref.id (u.referenced refs).toFinset := by
            ext id
            simp [hmem, or_comm]
          have hnotin : ref.id ∉ (u.referenced refs).toFinset.filter fun id =>
              u.searchAt id = (k, false) ∧ k ≠ 0 := by
            simp [hnew]
          rw [hset, Finset.filter_insert, apply_ite Finset.card, Finset.card_insert_of_notMem hnotin,
            ← h.fallbackClaims]
          generalize u.searchAt ref.id = found
          obtain ⟨mapped, exact⟩ := found
          by_cases hk : k = mapped
          · subst hk
            cases exact <;> by_cases hzero : k = 0 <;> simp [hzero]
          · have hne : (mapped, exact) ≠ (k, false) := fun heq => hk (Prod.mk.inj heq).1.symm
            simp only [hne, false_and, if_false]
            split_ifs
            · exact update_of_ne hk ..
            · rfl

/-- The first loop collects one search for each ordinal that is referenced, and counts for
each new node the ordinals that fall back to it. -/
lemma claimed_claims : u.Claimed u.previousRefs u.claims := by
  suffices h : ∀ refs, u.Claimed refs (refs.foldl u.claimStep {}) from h _
  intro refs
  induction refs using reverseRecOn with
  | nil => exact ⟨by simp [referenced], by simp [referenced], by simp [referenced]⟩
  | append_singleton refs ref ih =>
    rw [foldl_append]
    exact ih.step u ref

/-- The ordinal of the new node that an old one is mapped to, or zero: a fallback that another
referenced ordinal shares does not count. -/
def newID (id : ℤ) : ℤ :=
  if (u.searchAt id).2 = false ∧
      ∃ other ∈ u.referenced u.previousRefs, other ≠ id ∧ u.searchAt other = u.searchAt id
    then 0 else (u.searchAt id).1

/-- What the second loop reads from the maps of the first. -/
lemma newID_eq (hid : id ∈ u.referenced u.previousRefs) :
    (let mapped := (u.claims.mappedIDs id).getD 0
      if ¬u.claims.exactMatches id ∧ u.claims.fallbackClaims mapped > 1 then 0 else mapped) =
      u.newID id := by
  have h := u.claimed_claims
  simp only [h.mappedIDs, h.exactMatches, h.fallbackClaims, hid, if_true, newID]
  cases hfound : u.searchAt id with
  | mk mapped exact =>
    cases exact with
    | true => simp
    | false =>
      by_cases hzero : mapped = 0
      · simp [hzero]
      · simp only [Bool.false_eq_true, not_false_eq_true, true_and, gt_iff_lt]
        congr 1
        rw [Finset.one_lt_card_iff_nontrivial, eq_iff_iff]
        constructor
        · intro hmany
          obtain ⟨other, hother, hne⟩ := hmany.exists_ne id
          simp only [Finset.mem_filter, mem_toFinset] at hother
          exact ⟨other, hother.1, hne, hother.2.1⟩
        · rintro ⟨other, hother, hne, hsame⟩
          refine ⟨id, ?_, other, ?_, hne.symm⟩
          · simpa [hid, hfound] using hzero
          · simpa [hother, hsame] using hzero

/-! ### The second loop -/

/-- The reference is dropped: its old node is not found, and the request or its group does
not want to keep it. -/
def Drops (ref : NodeRef) : Prop :=
  u.Of ref ∧ u.newID ref.id = 0 ∧ (u.disconnect = true ∨ u.autoAdd ref.outbound = true)

/-- The reference keeps a copy of its old node, which is not found. -/
def Retains (ref : NodeRef) : Prop :=
  u.Of ref ∧ u.newID ref.id = 0 ∧ ¬(u.disconnect = true ∨ u.autoAdd ref.outbound = true)

instance : DecidablePred u.Drops := fun _ => inferInstanceAs (Decidable (_ ∧ _ ∧ (_ ∨ _)))

instance : DecidablePred u.Retains := fun _ => inferInstanceAs (Decidable (_ ∧ _ ∧ ¬(_ ∨ _)))

/-- The old ordinals of which a copy is kept, in the order of their first references. -/
def retained (refs : List NodeRef) : List ℤ :=
  refs.foldl (fun ids ref => if u.Retains ref ∧ ref.id ∉ ids then ids ++ [ref.id] else ids) []

/-- What becomes of a reference when copies of the ordinals `ids` are kept. -/
def follow (ids : List ℤ) (ref : NodeRef) : Option NodeRef :=
  if u.Drops ref then none
  else if u.Retains ref then some { ref with id := u.nodes.length + ids.idxOf ref.id + 1 }
  else if u.Of ref then some { ref with id := u.newID ref.id }
  else some ref

/-- The list of nodes when copies of the ordinals `ids` are kept. -/
def newServers (ids : List ℤ) : List (ServerRaw ν) :=
  (u.nodes.map fun node => { serverObj := node }) ++ ids.filterMap u.oldAt

/-- The reference is dropped, or its ordinal or the share link of its node changes. -/
def Changes (ids : List ℤ) (ref : NodeRef) : Prop :=
  u.Drops ref ∨
    (u.Retains ref ∧ (u.nodes.length + ids.idxOf ref.id + 1 : ℤ) ≠ ref.id) ∨
    (u.Of ref ∧ u.newID ref.id ≠ 0 ∧
      (u.newID ref.id ≠ ref.id ∨
        u.nodes[(u.newID ref.id - 1).toNat]?.map exportToURL ≠
          (u.oldAt ref.id).map fun raw => exportToURL raw.serverObj))

lemma retained_append (refs : List NodeRef) (ref : NodeRef) :
    u.retained (refs ++ [ref]) =
      if u.Retains ref ∧ ref.id ∉ u.retained refs then u.retained refs ++ [ref.id]
      else u.retained refs := by
  rw [retained, foldl_append]
  rfl

lemma retained_append_of_not (refs : List NodeRef) {ref : NodeRef} (h : ¬u.Retains ref) :
    u.retained (refs ++ [ref]) = u.retained refs := by
  rw [retained_append, if_neg fun hnew => h hnew.1]

/-- The copies are those of the ordinals that references retain. -/
lemma mem_retained :
    id ∈ u.retained refs ↔ ∃ ref ∈ refs, u.Retains ref ∧ ref.id = id := by
  induction refs using reverseRecOn with
  | nil => simp [retained]
  | append_singleton refs ref ih =>
    rw [retained_append]
    have hsplit : (∃ r ∈ refs ++ [ref], u.Retains r ∧ r.id = id) ↔
        (∃ r ∈ refs, u.Retains r ∧ r.id = id) ∨ (u.Retains ref ∧ ref.id = id) := by
      simp
    rw [hsplit, ← ih]
    split_ifs with h
    · simp [h.1, eq_comm]
    · constructor
      · exact .inl
      · rintro (hmem | ⟨hret, rfl⟩)
        · exact hmem
        · by_contra hnot
          exact h ⟨hret, hnot⟩

lemma nodup_retained (refs : List NodeRef) : (u.retained refs).Nodup := by
  induction refs using reverseRecOn with
  | nil => simp [retained]
  | append_singleton refs ref ih =>
    rw [retained_append]
    split_ifs with h
    · exact concat_eq_append ▸ ih.concat h.2
    · exact ih

/-- Later references do not move the copies that earlier ones keep. -/
lemma idxOf_retained_append (refs : List NodeRef) (ref : NodeRef) (h : id ∈ u.retained refs) :
    (u.retained (refs ++ [ref])).idxOf id = (u.retained refs).idxOf id := by
  rw [retained_append]
  split_ifs
  · exact idxOf_append_of_mem h
  · rfl

private lemma follow_append {ref r : NodeRef} (hr : r ∈ refs) :
    u.follow (u.retained (refs ++ [ref])) r = u.follow (u.retained refs) r := by
  unfold follow
  by_cases hret : u.Retains r
  · rw [u.idxOf_retained_append refs ref (u.mem_retained.mpr ⟨r, hr, hret, rfl⟩)]
  · simp [hret]

private lemma changes_append {ref r : NodeRef} (hr : r ∈ refs) :
    u.Changes (u.retained (refs ++ [ref])) r ↔ u.Changes (u.retained refs) r := by
  unfold Changes
  by_cases hret : u.Retains r
  · rw [u.idxOf_retained_append refs ref (u.mem_retained.mpr ⟨r, hr, hret, rfl⟩)]
  · simp [hret]

/-- The variables of the second loop after the references `refs`. -/
structure Followed (refs : List NodeRef) (st : FollowState ν) : Prop where
  servers : st.servers = u.newServers (u.retained refs)
  retainedIDs : ∀ id, st.retainedIDs id =
    if id ∈ u.retained refs then (u.nodes.length + (u.retained refs).idxOf id + 1 : ℤ) else 0
  updated : st.updated = refs.filterMap (u.follow (u.retained refs))
  affected : st.affected = true ↔ ∃ ref ∈ refs, u.Changes (u.retained refs) ref

/-- The search returns zero or the ordinal of a new node. -/
lemma searchAt_range (id : ℤ) :
    (u.searchAt id).1 = 0 ∨ (0 < (u.searchAt id).1 ∧ (u.searchAt id).1 ≤ u.nodes.length) := by
  unfold searchAt
  cases u.oldAt id with
  | none => exact .inl rfl
  | some raw =>
    dsimp only
    rcases remapSubscriptionNodeDetailed_cases raw.serverObj u.nodes with
      ⟨i, node, hget, -, hres⟩ | ⟨i, hi, hres⟩ | ⟨-, -, hres⟩
    · have hlt := (List.getElem?_eq_some_iff.mp hget).1
      rw [hres]
      omega
    · have hlt := hi.lt_length
      rw [hres]
      omega
    · exact .inl (by rw [hres])

lemma newID_range (h : u.newID id ≠ 0) :
    0 < u.newID id ∧ u.newID id ≤ u.nodes.length := by
  have hrange := u.searchAt_range id
  unfold newID at h ⊢
  split_ifs at h ⊢ with hshared
  · exact absurd rfl h
  · exact hrange.resolve_left h

omit [ServerObj ν] in
lemma newServers_of_le (ids : List ℤ) {k : ℤ} (hpos : 0 < k) (hle : k ≤ u.nodes.length) :
    (u.newServers ids)[(k - 1).toNat]? =
      u.nodes[(k - 1).toNat]?.map fun node => { serverObj := node } := by
  rw [newServers, getElem?_append_left (by rw [length_map]; omega), getElem?_map]

omit [ServerObj ν] in
lemma newServers_of_retained {ids : List ℤ} (hids : ∀ id ∈ ids, (u.oldAt id).isSome)
    (hid : id ∈ ids) :
    (u.newServers ids)[u.nodes.length + ids.idxOf id]? = u.oldAt id := by
  rw [newServers, getElem?_append_right (by simp), length_map, Nat.add_sub_cancel_left,
    getElem?_filterMap_idxOf hids hid]

omit [ServerObj ν] in
lemma length_newServers {ids : List ℤ} (hids : ∀ id ∈ ids, (u.oldAt id).isSome) :
    (u.newServers ids).length = u.nodes.length + ids.length := by
  rw [newServers, length_append, length_map, filterMap_length_eq_length.mpr hids]

section Valid

/-- Every reference to the subscription names one of its old nodes. -/
def Valid : Prop :=
  ∀ ref ∈ u.previousRefs, u.Of ref → 0 < ref.id ∧ (u.oldAt ref.id).isSome

variable {u}

variable {refs : List NodeRef}

lemma oldAt_retained (hvalid : u.Valid) (hrefs : refs ⊆ u.previousRefs) :
    ∀ id ∈ u.retained refs, (u.oldAt id).isSome := by
  intro id hid
  obtain ⟨ref, href, hret, rfl⟩ := u.mem_retained.mp hid
  exact (hvalid ref (hrefs href) hret.1).2

/-- One iteration of the second loop for a reference that is not dropped and moves to the
ordinal `id`. -/
private lemma Followed.move {st st' : FollowState ν} (h : u.Followed refs st) (ref : NodeRef)
    (id : ℤ) (hfollow : u.follow (u.retained (refs ++ [ref])) ref = some { ref with id })
    (hservers : st'.servers = u.newServers (u.retained (refs ++ [ref])))
    (hretainedIDs : ∀ id, st'.retainedIDs id =
      if id ∈ u.retained (refs ++ [ref])
        then (u.nodes.length + (u.retained (refs ++ [ref])).idxOf id + 1 : ℤ) else 0)
    (hupdated : st'.updated = st.updated ++ [{ ref with id }])
    (haffected : st'.affected ↔
      st.affected ∨ u.Changes (u.retained (refs ++ [ref])) ref) :
    u.Followed (refs ++ [ref]) st' where
  servers := hservers
  retainedIDs := hretainedIDs
  updated := by
    have hpre : refs.filterMap (u.follow (u.retained (refs ++ [ref]))) =
        refs.filterMap (u.follow (u.retained refs)) :=
      filterMap_congr fun r hr => u.follow_append hr
    rw [filterMap_append, hpre, hupdated, h.updated]
    simp [hfollow]
  affected := by
    have hpre : (∃ r ∈ refs, u.Changes (u.retained (refs ++ [ref])) r) ↔
        ∃ r ∈ refs, u.Changes (u.retained refs) r :=
      exists_congr fun r => and_congr_right fun hr => u.changes_append hr
    rw [haffected, h.affected, ← hpre]
    simp

variable {st : FollowState ν}

/-- The step for a reference of the subscription, in terms of `newID`. -/
private lemma followStep_of {ref : NodeRef} (hof : u.Of ref) (hmem : ref ∈ u.previousRefs)
    (hpos : 0 < ref.id) {raw : ServerRaw ν} (hraw : u.oldAt ref.id = some raw) :
    u.followStep st ref =
      if u.newID ref.id = 0 ∧ (u.disconnect ∨ u.autoAdd ref.outbound) then
        .ok { st with affected := true }
      else
        let retain := u.newID ref.id = 0 ∧ st.retainedIDs ref.id = 0
        let servers := if retain then st.servers ++ [raw] else st.servers
        let retainedIDs :=
          if retain then update st.retainedIDs ref.id servers.length
          else st.retainedIDs
        let id := if u.newID ref.id = 0 then retainedIDs ref.id else u.newID ref.id
        let url := servers[(id - 1).toNat]?.map fun sr => exportToURL sr.serverObj
        .ok
          { servers, retainedIDs
            updated := st.updated ++ [{ ref with id }]
            affected := st.affected || id ≠ ref.id || url ≠ some (exportToURL raw.serverObj) } := by
  have hreferenced : ref.id ∈ u.referenced u.previousRefs :=
    u.mem_referenced.mpr ⟨ref, hmem, hof, hpos, ⟨raw, hraw⟩, rfl⟩
  have hnew := u.newID_eq hreferenced
  have hof' : ref.type = .subscriptionServer ∧ ref.sub = u.index := hof
  unfold followStep
  rw [if_pos hof', if_neg (by omega)]
  rw [oldAt] at hraw
  simp only [hraw, ← hnew]

/-- One iteration of the second loop. -/
private lemma Followed.step (hvalid : u.Valid) (hrefs : refs ⊆ u.previousRefs)
    (h : u.Followed refs st) {ref : NodeRef} (hmem : ref ∈ u.previousRefs) :
    ∃ st', u.followStep st ref = .ok st' ∧ u.Followed (refs ++ [ref]) st' := by
  by_cases hof : u.Of ref
  swap
  · -- Other references stay as they are.
    have hdrop : ¬u.Drops ref := fun h => hof h.1
    have hret : ¬u.Retains ref := fun h => hof h.1
    have hids := u.retained_append_of_not refs hret
    refine ⟨{ st with updated := st.updated ++ [ref] }, ?_, ?_⟩
    · have hof' : ¬(ref.type = .subscriptionServer ∧ ref.sub = u.index) := hof
      rw [followStep, if_neg hof']
    · refine h.move ref ref.id (by simp [follow, hdrop, hret, hof]) ?_ ?_ rfl ?_
      · rw [hids, h.servers]
      · rw [hids]
        exact h.retainedIDs
      · simp [Changes, hdrop, hret, hof]
  obtain ⟨hpos, hsome⟩ := hvalid ref hmem hof
  obtain ⟨raw, hraw⟩ := Option.isSome_iff_exists.mp hsome
  rw [followStep_of hof hmem hpos hraw]
  by_cases hnew : u.newID ref.id = 0
  swap
  · -- The old node is found among the new ones.
    have hdrop : ¬u.Drops ref := fun h => hnew h.2.1
    have hret : ¬u.Retains ref := fun h => hnew h.2.1
    have hids := u.retained_append_of_not refs hret
    obtain ⟨hnewpos, hnewle⟩ := u.newID_range hnew
    simp only [hnew, false_and, if_false]
    refine ⟨_, rfl, h.move ref (u.newID ref.id) (by simp [follow, hdrop, hret, hof]) ?_ ?_ rfl ?_⟩
    · rw [hids, h.servers]
    · rw [hids]
      exact h.retainedIDs
    · simp only [h.servers, u.newServers_of_le _ hnewpos hnewle, Option.map_map, Changes, hdrop,
        hret, hof, hnew, hraw, Option.map_some, comp_def, false_and, false_or, true_and,
        ne_eq, not_false_eq_true, decide_not, Bool.or_eq_true, Bool.not_eq_true',
        decide_eq_false_iff_not, or_assoc]
  by_cases hwant : u.disconnect = true ∨ u.autoAdd ref.outbound = true
  · -- The old node is not found and the reference is dropped.
    have hdrop : u.Drops ref := ⟨hof, hnew, hwant⟩
    have hret : ¬u.Retains ref := fun h => h.2.2 hwant
    have hids := u.retained_append_of_not refs hret
    rw [if_pos ⟨hnew, hwant⟩]
    refine ⟨_, rfl, ⟨by rw [hids, h.servers], by rw [hids]; exact h.retainedIDs, ?_, ?_⟩⟩
    · rw [hids, filterMap_append, ← h.updated]
      simp [follow, hdrop]
    · simp only [true_iff]
      exact ⟨ref, by simp, .inl hdrop⟩
  · -- The old node is not found and the reference keeps a copy of it.
    have hdrop : ¬u.Drops ref := fun h => hwant h.2.2
    have hret : u.Retains ref := ⟨hof, hnew, hwant⟩
    rw [if_neg fun h => hwant h.2]
    have hsub : refs ++ [ref] ⊆ u.previousRefs :=
      append_subset.mpr ⟨hrefs, by simpa using hmem⟩
    have hin : ref.id ∈ u.retained (refs ++ [ref]) :=
      u.mem_retained.mpr ⟨ref, by simp, hret, rfl⟩
    have hat := u.newServers_of_retained (oldAt_retained hvalid hsub) hin
    have hfollow : u.follow (u.retained (refs ++ [ref])) ref = some { ref with
        id := u.nodes.length + (u.retained (refs ++ [ref])).idxOf ref.id + 1 } := by
      simp [follow, hdrop, hret]
    by_cases hold : ref.id ∈ u.retained refs
    · -- An earlier reference has made the copy.
      have hids : u.retained (refs ++ [ref]) = u.retained refs := by
        rw [retained_append, if_neg fun h => h.2 hold]
      rw [hids] at hfollow hat
      have hid : st.retainedIDs ref.id = u.nodes.length + (u.retained refs).idxOf ref.id + 1 := by
        rw [h.retainedIDs, if_pos hold]
      have hne : ¬(u.nodes.length + (u.retained refs).idxOf ref.id + 1 : ℤ) = 0 := by omega
      have hindex : ((u.nodes.length + (u.retained refs).idxOf ref.id + 1 : ℤ) - 1).toNat =
          u.nodes.length + (u.retained refs).idxOf ref.id := by omega
      simp only [hid, hnew, hne, and_false, if_false, if_true]
      refine ⟨_, rfl, h.move ref _ (hids ▸ hfollow) (by rw [hids, h.servers])
        (by rw [hids]; exact h.retainedIDs) rfl ?_⟩
      simp only [h.servers, hindex, hat]
      simp [Changes, hdrop, hret, hnew, hids, hraw]
    · have hids : u.retained (refs ++ [ref]) = u.retained refs ++ [ref.id] := by
        rw [retained_append, if_pos ⟨hret, hold⟩]
      have hidx : (u.retained (refs ++ [ref])).idxOf ref.id = (u.retained refs).length := by
        rw [hids, idxOf_append_of_notMem hold]
        simp
      have hzero : st.retainedIDs ref.id = 0 := by rw [h.retainedIDs, if_neg hold]
      have hservers : st.servers ++ [raw] = u.newServers (u.retained (refs ++ [ref])) := by
        rw [h.servers, hids, newServers, newServers]
        simp [hraw]
      have hlength : ((st.servers ++ [raw]).length : ℤ) =
          u.nodes.length + (u.retained (refs ++ [ref])).idxOf ref.id + 1 := by
        rw [hservers, u.length_newServers (oldAt_retained hvalid hsub), hids, length_append, ← hids]
        simp
        omega
      have hindex : ((u.nodes.length + (u.retained (refs ++ [ref])).idxOf ref.id + 1 : ℤ) -
          1).toNat = u.nodes.length + (u.retained (refs ++ [ref])).idxOf ref.id := by omega
      simp only [hzero, hnew, and_self, if_true, update_self]
      refine ⟨_, rfl, h.move ref _ (hlength ▸ hfollow) hservers ?_ rfl ?_⟩
      · intro id
        dsimp only
        by_cases hid : id = ref.id
        · subst hid
          rw [update_self, if_pos hin, hlength]
        · rw [update_of_ne hid, h.retainedIDs, hids]
          by_cases hmem' : id ∈ u.retained refs
          · simp [hmem', idxOf_append_of_mem hmem']
          · simp [hmem', hid]
      · have hlength' := hservers ▸ hlength
        simp only [hservers, hlength', hindex, hat]
        simp [Changes, hdrop, hret, hnew, hraw]

/-- The second loop refuses a reference to the subscription whose ordinal is out of range. -/
lemma valid_of_followAll (h : u.followAll = .ok st) : u.Valid := by
  suffices hrun : ∀ (refs : List NodeRef) (st₀ : FollowState ν),
      refs.foldlM u.followStep st₀ = .ok st →
        ∀ ref ∈ refs, u.Of ref → 0 < ref.id ∧ (u.oldAt ref.id).isSome from hrun _ _ h
  intro refs
  induction refs with
  | nil => simp
  | cons ref refs ih =>
    intro st₀ hrun
    obtain ⟨st₁, hstep, hrun⟩ := Except.bind_eq_ok_iff.mp hrun
    rintro ref' (_ | ⟨_, hmem⟩) hof
    · unfold followStep at hstep
      rw [if_pos (show ref.type = .subscriptionServer ∧ ref.sub = u.index from hof)] at hstep
      by_cases hneg : ref.id ≤ 0
      · simp [hneg] at hstep
      · refine ⟨by omega, ?_⟩
        cases hraw : u.oldAt ref.id with
        | some raw => rfl
        | none =>
          rw [oldAt] at hraw
          rw [hraw] at hstep
          simp at hstep
    · exact ih st₁ hrun ref' hmem hof

/-- The second loop succeeds and moves every reference as `follow` says. -/
lemma followAll_eq (hvalid : u.Valid) :
    ∃ st, u.followAll = .ok st ∧ u.Followed u.previousRefs st := by
  suffices h : ∀ refs, refs ⊆ u.previousRefs → ∃ st, refs.foldlM u.followStep
      { servers := u.nodes.map fun node => { serverObj := node } } = .ok st ∧
      u.Followed refs st from h _ (List.Subset.refl _)
  intro refs
  induction refs using reverseRecOn with
  | nil =>
    intro _
    exact ⟨_, rfl, by simp [newServers, retained], by simp [retained], by simp, by simp⟩
  | append_singleton refs ref ih =>
    intro hrefs
    obtain ⟨hsub, hmem⟩ := append_subset.mp hrefs
    obtain ⟨st, hrun, hst⟩ := ih hsub
    obtain ⟨st', hstep, hst'⟩ := hst.step hvalid hsub (by simpa using hmem)
    refine ⟨st', ?_, hst'⟩
    rw [foldlM_append, hrun]
    simp [bind, Except.bind, pure, Except.pure, hstep]

end Valid

end Update

end V2rayA
