import V2rayA.Configure.Store

/-!
# Writing members back

Members are read by the bucket of a group and written by the group that each reference names. What
was read is often written back as it is, above all when a change is undone.

* `Store.WriteBack`: writing back what was read changes nothing.
* `Store.writeBack_iff_tagged`: it does so if and only if every reference names the group that it is
  stored in. Old lists hold references that name none.
-/

namespace V2rayA

namespace Store

variable {ν : Type}

/-- The members of every group are as they were, and there is no list under another name. -/
structure SameLists (s s' : Store ν) : Prop where
  members : ∀ outbound ∈ s.getOutbounds, s'.members outbound = s.members outbound
  others : ∀ name, name ∉ s.getOutbounds → s'.connectedServers name = s.connectedServers name

/-- Writing back what was read changes nothing. -/
structure WriteBack (s : Store ν) : Prop where
  overwriteConnects : ∀ g ∈ s.getOutbounds, ∀ outbound ∈ s.getOutbounds,
    (s.overwriteConnects ((s.getConnectedServersByOutbound g).getD [])).connectedServers outbound =
      s.connectedServers outbound
  removeNodes : s.SameLists (s.removeNodes [] [] s.getConnectedServers)
  setSubscriptionAndConnects : ∀ index sub, s.getSubscription index = some sub →
    ∃ s', s.setSubscriptionAndConnects index sub s.getConnectedServers = .ok s' ∧ s.SameLists s'

section WriteBack

variable {s : Store ν} {ws : List NodeRef} {outbound : String}

lemma byOutbound_eq_none_iff :
    byOutbound ws outbound = none ↔ ∀ w ∈ ws, w.outbound ≠ outbound := by
  unfold byOutbound
  split_ifs with h
  · simpa using h
  · simpa using h

/-- A name that no group has is not named by a connected reference. -/
lemma Tagged.byOutbound_of_notMem (h : s.Tagged) (hout : outbound ∉ s.getOutbounds) :
    byOutbound s.getConnectedServers outbound = none := by
  rw [byOutbound_eq_none_iff]
  intro w hw
  obtain ⟨group, hgroup, hmem⟩ := s.mem_getConnectedServers.mp hw
  rintro rfl
  rw [h group hgroup w hmem] at hout
  exact hout hgroup

/-- Members that are written back name their own group only. -/
lemma Tagged.byOutbound_members (h : s.Tagged) {g : String} (hg : g ∈ s.getOutbounds)
    (hne : outbound ≠ g) : byOutbound (s.members g) outbound = none := by
  rw [byOutbound_eq_none_iff]
  intro w hw heq
  exact hne (heq.symm.trans (h g hg w hw))

lemma Tagged.overwriteConnects (h : s.Tagged) {g : String} (hg : g ∈ s.getOutbounds) :
    (s.overwriteConnects (s.members g)).connectedServers outbound =
      s.connectedServers outbound := by
  change (byOutbound (s.members g) outbound).or _ = _
  by_cases hout : outbound = g
  · subst hout
    cases hlist : byOutbound (s.members outbound) outbound with
    | none => rfl
    | some refs =>
      -- a list that is not empty is stored, and all of it names the group
      unfold byOutbound at hlist
      split_ifs at hlist with hmem
      have hall : (s.members outbound).filter (·.outbound = outbound) = s.members outbound :=
        List.filter_eq_self.mpr fun w hw => by simpa using h outbound hg w hw
      obtain ⟨w, hw, -⟩ := hmem
      rw [hall] at hlist
      rw [Option.some_or, ← hlist]
      unfold members at hw ⊢
      cases hs : s.connectedServers outbound with
      | none => simp [hs] at hw
      | some refs => rfl
  · rw [h.byOutbound_members hg hout, Option.none_or]

lemma Tagged.removeNodes (h : s.Tagged) :
    s.SameLists (s.removeNodes [] [] s.getConnectedServers) where
  members outbound hout := by
    unfold members
    dsimp only [Store.removeNodes]
    rw [if_pos hout, Option.getD_some, getD_byOutbound]
    exact h.filter_getConnectedServers hout
  others name hname := by
    dsimp only [Store.removeNodes]
    rw [if_neg hname, h.byOutbound_of_notMem hname, Option.none_or]

lemma Tagged.setSubscriptionAndConnects (h : s.Tagged) {index : ℤ} {sub : SubscriptionRaw ν}
    (hsub : s.getSubscription index = some sub) :
    ∃ s', s.setSubscriptionAndConnects index sub s.getConnectedServers = .ok s' ∧
      s.SameLists s' := by
  refine ⟨_, by rw [Store.setSubscriptionAndConnects, Store.setSubscription, hsub]; rfl, ?_, ?_⟩
  · intro outbound hout
    have hfilter := h.filter_getConnectedServers hout
    unfold members at hfilter ⊢
    dsimp only
    split_ifs with hmem
    · rw [Option.getD_some, getD_byOutbound, hfilter]
    · push Not at hmem
      rw [byOutbound_eq_none_iff.mpr hmem, Option.none_or]
  · intro name hname
    dsimp only
    have hnone := h.byOutbound_of_notMem hname
    rw [if_neg, hnone, Option.none_or]
    push Not
    exact byOutbound_eq_none_iff.mp hnone

/-- Lists that a removal of nothing keeps hold references to their own group. -/
lemma tagged_of_removeNodes (h : s.SameLists (s.removeNodes [] [] s.getConnectedServers)) :
    s.Tagged := by
  intro outbound hout w hw
  rw [← h.members outbound hout] at hw
  unfold members at hw
  dsimp only [Store.removeNodes] at hw
  rw [if_pos hout, Option.getD_some, getD_byOutbound, List.mem_filter] at hw
  exact of_decide_eq_true hw.2

/-- **When writing members back changes nothing.** It does if and only if every reference names the
group that it is stored in. -/
theorem writeBack_iff_tagged : s.WriteBack ↔ s.Tagged := by
  constructor
  · intro h
    exact tagged_of_removeNodes h.removeNodes
  · intro h
    refine ⟨fun g hg outbound _ => ?_, h.removeNodes, fun index sub => h.setSubscriptionAndConnects⟩
    have hmembers : (s.getConnectedServersByOutbound g).getD [] = s.members g := by
      rw [getConnectedServersByOutbound, if_neg (s.ne_empty_of_mem_getOutbounds hg), members]
    rw [hmembers]
    exact h.overwriteConnects hg

end WriteBack

/-- A list of an old release: the reference names no group. -/
def legacyStore : Store Unit where
  servers := [⟨(), ""⟩]
  subscriptions := [{ address := "a" }]
  connectedServers name := if name = "proxy" then some [⟨.server, 1, 0, ""⟩] else none

/-- Removing nothing empties the group and creates a list under the empty name. -/
theorem not_writeBack_legacyStore :
    (legacyStore.members "proxy" = [⟨.server, 1, 0, ""⟩] ∧
      (legacyStore.removeNodes [] [] legacyStore.getConnectedServers).members "proxy" = []) ∧
    (legacyStore.connectedServers "" = none ∧
      (legacyStore.removeNodes [] [] legacyStore.getConnectedServers).connectedServers "" =
        some [⟨.server, 1, 0, ""⟩]) ∧
    ¬legacyStore.WriteBack := by
  have hmembers : (legacyStore.removeNodes [] [] legacyStore.getConnectedServers).members "proxy" =
    [] := by decide +kernel
  refine ⟨⟨by decide +kernel, hmembers⟩, by decide +kernel, fun h => ?_⟩
  have hsame := h.removeNodes.members "proxy" (by decide)
  rw [hmembers] at hsame
  exact absurd hsame (by decide +kernel)

end Store

end V2rayA
