import V2rayA.Service.SubscriptionUpdate

/-!
# Members that an update merges

Only fallback matches are counted when a subscription is updated. Two members of a group whose
old nodes have one share link, or of which one has its share link at the node that the other
falls back to, become references to one node. `storeSubscriptionUpdate_nodup_iff` says that
nothing else makes a group name a node twice.
-/

namespace V2rayA

open List

open ServerObj (exportToURL getName)

variable {ν : Type} [ServerObj ν]

namespace Update

variable {u : Update ν}

/-- The search for both references ends at one new node: their old nodes have one share link
and it was fetched, or the share link of one was fetched first at the node that the other
falls back to. -/
def Clash (u : Update ν) (r r' : NodeRef) : Prop :=
  ∃ raw raw', u.oldAt r.id = some raw ∧ u.oldAt r'.id = some raw' ∧
    ((exportToURL raw.serverObj = exportToURL raw'.serverObj ∧
        ∃ node ∈ u.nodes, exportToURL node = exportToURL raw.serverObj) ∨
      (∃ i, u.nodes.findIdx? (fun node => exportToURL node = exportToURL raw.serverObj) = some i ∧
        FallsBackTo raw'.serverObj u.nodes i ∧ u.Matches r'.id) ∨
      ∃ i, u.nodes.findIdx? (fun node => exportToURL node = exportToURL raw'.serverObj) = some i ∧
        FallsBackTo raw.serverObj u.nodes i ∧ u.Matches r.id)

lemma Clash.symm {r r' : NodeRef} (h : u.Clash r r') : u.Clash r' r := by
  obtain ⟨raw, raw', hraw, hraw', ⟨hurl, node, hnode, hfetched⟩ | h | h⟩ := h
  · exact ⟨raw', raw, hraw', hraw, .inl ⟨hurl.symm, node, hnode, hfetched.trans hurl⟩⟩
  · exact ⟨raw', raw, hraw', hraw, .inr (.inr h)⟩
  · exact ⟨raw', raw, hraw', hraw, .inr (.inl h)⟩

variable {raw : ServerRaw ν}

/-- A share link that was fetched leads to its first occurrence. -/
lemma newID_of_exact {id : ℤ} (hraw : u.oldAt id = some raw) {i : ℕ}
    (hi : u.nodes.findIdx? (fun node => exportToURL node = exportToURL raw.serverObj) = some i) :
    u.newID id = i + 1 := by
  have hsearch := u.searchAt_of_oldAt hraw
  rw [remapSubscriptionNodeDetailed_eq_exact_iff.mpr hi] at hsearch
  simp [newID, hsearch]

/-- A fallback that counts leads to its node. -/
lemma newID_of_fallsBackTo (hvalid : u.Valid) {id : ℤ} (hraw : u.oldAt id = some raw) {i : ℕ}
    (hi : FallsBackTo raw.serverObj u.nodes i) (hmatch : u.Matches id) : u.newID id = i + 1 := by
  have hsearch := u.searchAt_of_oldAt hraw
  rw [remapSubscriptionNodeDetailed_fallback_iff.mpr hi] at hsearch
  have hne := (u.newID_ne_zero_iff hvalid hraw).mpr hmatch
  unfold newID at hne ⊢
  split_ifs at hne ⊢
  · exact absurd rfl hne
  · rw [hsearch]

/-- Where an old node that has a counterpart is mapped to. -/
lemma newID_cases (hvalid : u.Valid) {id : ℤ} (hraw : u.oldAt id = some raw)
    (hnew : u.newID id ≠ 0) :
    ∃ i : ℕ, u.newID id = i + 1 ∧
      (u.nodes.findIdx? (fun node => exportToURL node = exportToURL raw.serverObj) = some i ∨
        FallsBackTo raw.serverObj u.nodes i ∧ u.Matches id) := by
  have hmatch := (u.newID_ne_zero_iff hvalid hraw).mp hnew
  rcases remapSubscriptionNodeDetailed_cases raw.serverObj u.nodes with
    ⟨i, -, -, -, hres⟩ | ⟨i, hi, -⟩ | ⟨hurl, hnone, -⟩
  · have hexact := remapSubscriptionNodeDetailed_eq_exact_iff.mp hres
    exact ⟨i, newID_of_exact hraw hexact, .inl hexact⟩
  · exact ⟨i, newID_of_fallsBackTo hvalid hraw hi hmatch, .inr ⟨hi, hmatch⟩⟩
  · obtain ⟨raw', hraw', hmatch⟩ := hmatch
    obtain rfl : raw' = raw := Option.some.inj (hraw'.symm.trans hraw)
    rcases hmatch with ⟨node, hnode, hurl'⟩ | ⟨i, hi, -⟩
    · exact absurd hurl' (hurl node hnode)
    · exact absurd ⟨i, hi⟩ hnone

omit [ServerObj ν] in
/-- A node found by a property has it. -/
private lemma findIdx?_get {p : ν → Bool} {nodes : List ν} {i : ℕ}
    (h : nodes.findIdx? p = some i) : ∃ node, nodes[i]? = some node ∧ p node := by
  obtain ⟨hlt, hp, -⟩ := findIdx?_eq_some_iff_getElem.mp h
  exact ⟨nodes[i], getElem?_eq_getElem hlt, hp⟩

/-- Two old nodes are mapped to one new node exactly when their references clash. -/
lemma clash_iff (hvalid : u.Valid) {r r' : NodeRef} (hr : r ∈ u.previousRefs)
    (hr' : r' ∈ u.previousRefs) (hof : u.Of r) (hof' : u.Of r') (hne : r.id ≠ r'.id) :
    u.Clash r r' ↔ u.newID r.id ≠ 0 ∧ u.newID r.id = u.newID r'.id := by
  obtain ⟨raw, hraw⟩ := Option.isSome_iff_exists.mp (hvalid r hr hof).2
  obtain ⟨raw', hraw'⟩ := Option.isSome_iff_exists.mp (hvalid r' hr' hof').2
  constructor
  · rintro ⟨raw₁, raw₁', hraw₁, hraw₁', hclash⟩
    obtain rfl : raw₁ = raw := Option.some.inj (hraw₁.symm.trans hraw)
    obtain rfl : raw₁' = raw' := Option.some.inj (hraw₁'.symm.trans hraw')
    rcases hclash with ⟨hurl, node, hnode, hfetched⟩ | ⟨i, hi, hfalls, hmatch⟩ |
      ⟨i, hi, hfalls, hmatch⟩
    · obtain ⟨i, hi⟩ : ∃ i, u.nodes.findIdx?
          (fun node => exportToURL node = exportToURL raw₁.serverObj) = some i := by
        rw [← Option.isSome_iff_exists, findIdx?_isSome, any_eq_true]
        exact ⟨node, hnode, by simpa using hfetched⟩
      have h := newID_of_exact hraw hi
      have h' := newID_of_exact hraw' (hurl ▸ hi)
      exact ⟨by omega, by omega⟩
    · have h := newID_of_exact hraw hi
      have h' := newID_of_fallsBackTo hvalid hraw' hfalls hmatch
      exact ⟨by omega, by omega⟩
    · have h := newID_of_fallsBackTo hvalid hraw hfalls hmatch
      have h' := newID_of_exact hraw' hi
      exact ⟨by omega, by omega⟩
  · rintro ⟨hnew, heq⟩
    obtain ⟨i, hi, hcase⟩ := newID_cases hvalid hraw hnew
    obtain ⟨j, hj, hcase'⟩ := newID_cases hvalid hraw' (heq ▸ hnew)
    obtain rfl : i = j := by omega
    refine ⟨raw, raw', hraw, hraw', ?_⟩
    rcases hcase with hexact | ⟨hfalls, hmatch⟩ <;> rcases hcase' with hexact' | ⟨hfalls', hmatch'⟩
    · obtain ⟨node, hget, hurl⟩ := findIdx?_get hexact
      obtain ⟨node', hget', hurl'⟩ := findIdx?_get hexact'
      obtain rfl : node = node' := Option.some.inj (hget.symm.trans hget')
      have hurl := of_decide_eq_true hurl
      have hurl' := of_decide_eq_true hurl'
      exact .inl ⟨hurl.symm.trans hurl', node, mem_of_getElem? hget, hurl⟩
    · exact .inr (.inl ⟨i, hexact, hfalls', hmatch'⟩)
    · exact .inr (.inr ⟨i, hexact', hfalls, hmatch⟩)
    · -- Two fallbacks to one node do not count.
      obtain ⟨raw₁, hraw₁, hmatch⟩ := hmatch
      obtain rfl : raw₁ = raw := Option.some.inj (hraw₁.symm.trans hraw)
      rcases hmatch with ⟨node, hnode, hurl⟩ | ⟨k, hk, honly⟩
      · exact absurd hurl (hfalls.1 node hnode)
      · rw [hk.eq hfalls] at honly
        exact absurd hfalls' (honly r' hr' hof' hne.symm raw' hraw')

end Update

section Distinct

variable {u : Update ν} {s s' : Store ν}

variable {ids : List ℤ}

variable {r r' : NodeRef}

/-- A reference to the subscription that is kept is moved to a new node or to the copy of its
old node. -/
private lemma follow_of (hof : u.Of r) (hfollow : u.follow ids r = some r') :
    (u.newID r.id ≠ 0 ∧ r' = { r with id := u.newID r.id }) ∨
      (u.Retains r ∧ r' = { r with id := u.nodes.length + ids.idxOf r.id + 1 }) := by
  have hdrop : ¬u.Drops r := by
    intro hdrop
    simp [Update.follow, hdrop] at hfollow
  by_cases hret : u.Retains r
  · refine .inr ⟨hret, ?_⟩
    simpa [Update.follow, hdrop, hret, eq_comm] using hfollow
  · refine .inl ⟨Update.newID_ne_zero hof hdrop hret, ?_⟩
    simpa [Update.follow, hdrop, hret, hof, eq_comm] using hfollow

private lemma follow_of_not_of {r : NodeRef} (hof : ¬u.Of r) :
    u.follow ids r = some r := by
  have hdrop : ¬u.Drops r := fun h => hof h.1
  have hret : ¬u.Retains r := fun h => hof h.1
  simp [Update.follow, hdrop, hret, hof]

private lemma follow_of_newID {r : NodeRef} (hof : u.Of r) (hnew : u.newID r.id ≠ 0) :
    u.follow ids r = some { r with id := u.newID r.id } := by
  have hdrop : ¬u.Drops r := fun h => hnew h.2.1
  have hret : ¬u.Retains r := fun h => hnew h.2.1
  simp [Update.follow, hdrop, hret, hof]

/-- The type and the subscription of a reference do not change. -/
private lemma of_iff_of_follow (hfollow : u.follow ids r = some r') :
    u.Of r' ↔ u.Of r := by
  by_cases hof : u.Of r
  · rcases follow_of hof hfollow with ⟨-, rfl⟩ | ⟨-, rfl⟩ <;> exact Iff.rfl
  · rw [follow_of_not_of hof, Option.some.injEq] at hfollow
    rw [hfollow]

/-- Two different references of one group end as one exactly when they clash. -/
private lemma follow_eq_iff (hvalid : u.Valid) (hr : r ∈ u.previousRefs)
    (hr' : r' ∈ u.previousRefs) (hout : r.outbound = r'.outbound) (hne : r ≠ r') :
    (∃ x, u.follow (u.retained u.previousRefs) r = some x ∧
      u.follow (u.retained u.previousRefs) r' = some x) ↔ u.Of r ∧ u.Of r' ∧ u.Clash r r' := by
  -- References of one group to one subscription differ in their ordinals.
  have hid : u.Of r → u.Of r' → r.id ≠ r'.id := by
    intro hof hof' hid
    refine hne ?_
    cases r
    cases r'
    simp
    exact ⟨hof.1.trans hof'.1.symm, hid, hof.2.trans hof'.2.symm, hout⟩
  constructor
  · rintro ⟨x, hx, hx'⟩
    by_cases hof : u.Of r
    swap
    · have hof' : ¬u.Of r' := by
        rwa [← of_iff_of_follow hx', of_iff_of_follow hx]
      rw [follow_of_not_of hof] at hx
      rw [follow_of_not_of hof'] at hx'
      exact absurd (Option.some.inj (hx.trans hx'.symm)) hne
    have hof' : u.Of r' := by
      rwa [← of_iff_of_follow hx', of_iff_of_follow hx]
    refine ⟨hof, hof', (Update.clash_iff hvalid hr hr' hof hof' (hid hof hof')).mpr ?_⟩
    -- The copies stand behind the fetched nodes, so a copy is never a fetched node.
    rcases follow_of hof hx with ⟨hnew, rfl⟩ | ⟨hret, rfl⟩ <;>
      rcases follow_of hof' hx' with ⟨hnew', heq⟩ | ⟨hret', heq⟩ <;>
      have heq := congrArg NodeRef.id heq
    · exact ⟨hnew, heq⟩
    · have := (u.newID_range hnew).2
      dsimp only at heq
      omega
    · have := (u.newID_range hnew').2
      dsimp only at heq
      omega
    · have hmem : r.id ∈ u.retained u.previousRefs := u.mem_retained.mpr ⟨r, hr, hret, rfl⟩
      have hidx : (u.retained u.previousRefs).idxOf r.id =
          (u.retained u.previousRefs).idxOf r'.id := by
        dsimp only at heq
        omega
      exact absurd ((idxOf_inj hmem).mp hidx) (hid hof hof')
  · rintro ⟨hof, hof', hclash⟩
    obtain ⟨hnew, heq⟩ := (Update.clash_iff hvalid hr hr' hof hof' (hid hof hof')).mp hclash
    refine ⟨_, follow_of_newID hof hnew, ?_⟩
    rw [follow_of_newID hof' (heq ▸ hnew), heq]
    cases r
    cases r'
    simp only [Option.some.injEq, NodeRef.mk.injEq]
    exact ⟨hof'.1.trans hof.1.symm, trivial, hof'.2.trans hof.2.symm, hout.symm⟩

/-- What becomes of a list of references of one group names no node twice. -/
private lemma nodup_filterMap_follow_iff (hvalid : u.Valid) {refs : List NodeRef}
    (hrefs : refs ⊆ u.previousRefs) (outbound : String) (hout : ∀ r ∈ refs, r.outbound = outbound) :
    (refs.filterMap (u.follow (u.retained u.previousRefs))).Nodup ↔
      refs.Pairwise (fun r r' => r = r' → u.IsDropped r) ∧
        ∀ r ∈ refs, ∀ r' ∈ refs, r ≠ r' → ¬(u.Of r ∧ u.Of r' ∧ u.Clash r r') := by
  have hstep : ∀ r ∈ refs, ∀ r' ∈ refs,
      ((∀ x, u.follow (u.retained u.previousRefs) r = some x →
        ∀ y, u.follow (u.retained u.previousRefs) r' = some y → x ≠ y) ↔
      (r = r' → u.IsDropped r) ∧ (r ≠ r' → ¬(u.Of r ∧ u.Of r' ∧ u.Clash r r'))) := by
    intro r hr r' hr'
    by_cases heq : r = r'
    · subst heq
      rw [u.isDropped_iff hvalid (hrefs hr)]
      rcases u.follow_cases (u.retained u.previousRefs) r with ⟨hdrop, hnone⟩ | ⟨hkeep, x, hx⟩
      · simp [hdrop, hnone]
      · simp [hkeep, hx]
    · have hiff := follow_eq_iff hvalid (hrefs hr) (hrefs hr')
        ((hout r hr).trans (hout r' hr').symm) heq
      simp only [heq, false_implies, ne_eq, not_false_eq_true, true_implies, true_and, ← hiff]
      constructor
      · rintro h ⟨x, hx, hx'⟩
        exact h x hx x hx' rfl
      · rintro h x hx y hy rfl
        exact h ⟨x, hx, hy⟩
  rw [List.Nodup, pairwise_filterMap,
    List.Pairwise.iff_of_mem fun {r r'} hr hr' => hstep r hr r' hr', pairwise_and_iff]
  refine and_congr_right fun _ => ⟨fun h => ?_, fun h => ?_⟩
  · have : Std.Symm fun r r' => r ≠ r' → ¬(u.Of r ∧ u.Of r' ∧ u.Clash r r') := by
      refine ⟨fun r r' hnot hne => ?_⟩
      rintro ⟨hof', hof, hclash⟩
      exact hnot hne.symm ⟨hof, hof', hclash.symm⟩
    intro r hr r' hr' hne
    exact h.forall hr hr' hne hne
  · exact pairwise_of_forall_mem_list h

end Distinct

/-- A group without repeated references has repeated ones after an update exactly when a
reference that names it occurs twice in the store or two of its references clash. -/
theorem storeSubscriptionUpdate_nodup_iff {w w' : World ν} {index : ℤ}
    {old : SubscriptionRaw ν} {nodes : List ν} {status info : String} {disconnect : Bool}
    (hrun : storeSubscriptionUpdate index old nodes status info disconnect w = (none, w'))
    (outbound : String) (hnodup : (w.store.members outbound).Nodup) :
    (w'.store.members outbound).Nodup ↔
      (w.store.getConnectedServers.filter (·.outbound = outbound)).Pairwise (fun r r' =>
          r = r' → (Update.ofStore w.store index old nodes disconnect).IsDropped r) ∧
        ∀ r ∈ w.store.getConnectedServers.filter (·.outbound = outbound),
          ∀ r' ∈ w.store.getConnectedServers.filter (·.outbound = outbound), r ≠ r' →
            ¬((Update.ofStore w.store index old nodes disconnect).Of r ∧
              (Update.ofStore w.store index old nodes disconnect).Of r' ∧
              (Update.ofStore w.store index old nodes disconnect).Clash r r') := by
  obtain ⟨hvalid, hstored, -⟩ := storeSubscriptionUpdate_stored hrun
  rw [hstored.members outbound]
  split_ifs with hnamed
  · refine nodup_filterMap_follow_iff hvalid (filter_subset_self _) outbound ?_
    intro r hr
    simpa using (mem_filter.mp hr).2
  · -- No reference names the group: its members are not written.
    have hnil : w.store.getConnectedServers.filter (·.outbound = outbound) = [] := by
      simpa using hnamed
    simp [hnil, hnodup]

/-- A subscription with two nodes, both of them members of the default group. -/
def twoMembers (names : List String) : World SOCKS :=
  subscribed true names
    [⟨.subscriptionServer, 1, 0, "proxy"⟩, ⟨.subscriptionServer, 2, 0, "proxy"⟩]

/-- One of two members was fetched again, and they stay apart. -/
theorem storeSubscriptionUpdate_nodup_twoMembers :
    ¬(Update.ofStore (twoMembers ["a", "b"]).store 0 (namedSubscription ["a", "b"])
        [{ name := "b", server := "b" }] false).Clash
      ⟨.subscriptionServer, 1, 0, "proxy"⟩ ⟨.subscriptionServer, 2, 0, "proxy"⟩ := by
  intro hclash
  have hrun : storeSubscriptionUpdate 0 (namedSubscription ["a", "b"])
      [{ name := "b", server := "b" }] "now" "" false (twoMembers ["a", "b"]) =
      (none, (storeSubscriptionUpdate 0 (namedSubscription ["a", "b"])
        [{ name := "b", server := "b" }] "now" "" false (twoMembers ["a", "b"])).2) :=
    Prod.ext (by decide) rfl
  exact ((storeSubscriptionUpdate_nodup_iff hrun "proxy" (by decide)).mp (by decide)).2
    ⟨.subscriptionServer, 1, 0, "proxy"⟩ (by decide)
    ⟨.subscriptionServer, 2, 0, "proxy"⟩ (by decide) (by decide) ⟨⟨rfl, rfl⟩, ⟨rfl, rfl⟩, hclash⟩

/-- Two members with the same share link become one when it is fetched once. -/
theorem storeSubscriptionUpdate_not_nodup :
    ∃ (old : SubscriptionRaw SOCKS) (nodes : List SOCKS) (w w' : World SOCKS),
      w.store.getSubscription 0 = some old ∧
      (∀ r ∈ w.store.getConnectedServers, w.store.Resolves r) ∧ w.store.Tagged ∧
      (w.store.members "proxy").Nodup ∧
      storeSubscriptionUpdate 0 old nodes "now" "" false w = (none, w') ∧
      w'.store.members "proxy" =
        [⟨.subscriptionServer, 1, 0, "proxy"⟩, ⟨.subscriptionServer, 1, 0, "proxy"⟩] := by
  refine ⟨namedSubscription ["a", "a"], [{ name := "a", server := "a" }], twoMembers ["a", "a"], _,
    by decide, by decide, ?_, by decide, Prod.ext (by decide) rfl, by decide⟩
  unfold Store.Tagged
  decide

end V2rayA
