import V2rayA.Kernel.Socks
import V2rayA.Service.Automation

/-!
# Group edits that fail

Four operations write the members of a group, or what the worker stores for it, and have the core
apply the change. When the core cannot, each restores the group in its own way.

* `EditedAt.restore`: writing the previous members again undoes any edit of a group.
* `groupsKept_iff`: a failed edit leaves the groups as they were, unless it is a `Disconnect` whose
  update takes the core down.
-/

namespace V2rayA

open Function List Store

variable {ν : Type} {s s₁ s₂ : Store ν} {outbound : String}

/-- Every stored reference names the group that it is stored for. -/
def Store.Filed (s : Store ν) : Prop :=
  ∀ outbound, ∀ w ∈ s.members outbound, w.outbound = outbound

/-- The groups have the same members and settings. -/
structure GroupsKept (s s' : Store ν) : Prop where
  members : ∀ outbound ∈ s.getOutbounds, s'.members outbound = s.members outbound
  setting : ∀ outbound ∈ s.getOutbounds,
    s'.getOutboundSetting outbound = s.getOutboundSetting outbound

/-- Of the groups, only the members of one differ. -/
structure EditedAt (name : String) (s s' : Store ν) : Prop where
  setting : s'.outboundSetting = s.outboundSetting
  members : ∀ out, out ≠ "" → out ≠ name → s'.members out = s.members out

/-- All groups have the members they had, and the settings are the same. -/
structure Restored (s s' : Store ν) : Prop where
  setting : s'.outboundSetting = s.outboundSetting
  members : ∀ out, out ≠ "" → s'.members out = s.members out

lemma Restored.groupsKept (h : Restored s s₁) : GroupsKept s s₁ where
  members out hout := h.members out (s.ne_empty_of_mem_getOutbounds hout)
  setting out _ := by rw [getOutboundSetting, h.setting]; rfl

lemma Restored.refl (s : Store ν) : Restored s s := ⟨rfl, fun _ _ => rfl⟩

/-! ### Edits of one group -/

lemma editedAt_setConnects (name : String) (ws : List NodeRef) :
    EditedAt name s (s.setConnects name ws) where
  setting := rfl
  members out _ hne := by rw [members_setConnects, if_neg hne]

lemma editedAt_clearConnects (outbound : String) :
    EditedAt (groupOf outbound) s (s.clearConnects outbound) :=
  editedAt_setConnects _ _

lemma groupOf_normalizeOutbound (w : NodeRef) :
    groupOf (normalizeOutbound w).outbound = (normalizeOutbound w).outbound :=
  if_neg (normalizeOutbound_ne_empty w)

lemma editedAt_addConnect (wt : NodeRef) :
    EditedAt (normalizeOutbound wt).outbound s (s.addConnect wt) := by
  unfold addConnect
  dsimp only
  split_ifs
  · exact ⟨rfl, fun _ _ _ => rfl⟩
  · exact editedAt_setConnects _ _

variable {clearOutbound : Bool} {which : NodeRef}

lemma editedAt_removeFromGroup (hne : which.outbound ≠ "")
    (h : removeFromGroup which clearOutbound s = .ok s₁) :
    EditedAt which.outbound s s₁ := by
  unfold removeFromGroup at h
  split at h
  · cases h
    have hedited := editedAt_clearConnects (s := s) which.outbound
    rwa [groupOf, if_neg hne] at hedited
  · unfold removeConnect at h
    rw [normalizeOutbound_of_ne hne] at h
    dsimp only at h
    split at h
    · cases h
      exact editedAt_setConnects _ _
    · contradiction

lemma editedAt_replaceConnects {normalized : List NodeRef}
    (h : ∀ w ∈ normalized, w.outbound = outbound) :
    EditedAt (groupOf outbound) s (replaceConnects outbound normalized s) := by
  unfold replaceConnects
  split_ifs with hlength
  · exact editedAt_clearConnects outbound
  · refine ⟨rfl, fun out hout hne => ?_⟩
    have hnil : normalized ≠ [] := fun hnil => hlength (by simp [hnil])
    rw [s.members_overwriteConnects_of_forall hnil h, if_neg]
    rintro rfl
    exact hne (if_neg hout).symm

@[simp]
lemma outboundSetting_restoreConnects (outbound : String) (backup : Option (List NodeRef)) :
    (restoreConnects outbound backup s).outboundSetting = s.outboundSetting := by
  unfold restoreConnects
  split_ifs <;> rfl

/-- Writing the previous members again undoes any edit of a group. -/
lemma EditedAt.restore (h : EditedAt (groupOf outbound) s s₁) (hfiled : s.Filed) :
    Restored s (restoreConnects outbound (s.getConnectedServersByOutbound outbound) s₁) := by
  refine ⟨?_, fun out hout => ?_⟩
  · rw [outboundSetting_restoreConnects]
    exact h.setting
  · rw [members_restoreConnects (hfiled _)]
    split_ifs with hname
    · rfl
    · exact h.members out hout hname

/-! ### The operations -/

variable [ServerObj ν] {w w' : World ν} {e : Go.Error}

/-- `Connect` restores the members whatever the core does. -/
lemma restored_connect {which : Option NodeRef} {support : Option Go.Error}
    (hfiled : w.store.Filed) (h : connect which support w = (some e, w')) :
    Restored w.store w'.store := by
  unfold connect at h
  dsimp only at h
  split at h
  · cases h
    exact .refl _
  · rename_i which
    split_ifs at h
    · cases h
      exact .refl _
    · split at h
      · cases h
        exact .refl _
      · cases h
        exact .refl _
      · split at h
        · simp at h
        · rename_i updated hupdate
          have hstore : updated.store = w.store.addConnect (normalizeOutbound which) :=
            World.store_of_updateConfig hupdate
          have hrestored : Restored w.store (restoreConnects (normalizeOutbound which).outbound
              (w.store.getConnectedServersByOutbound (normalizeOutbound which).outbound)
              updated.store) := by
            refine EditedAt.restore ?_ hfiled
            rw [hstore, groupOf_normalizeOutbound]
            have hedited := editedAt_addConnect (s := w.store) (normalizeOutbound which)
            rwa [normalizeOutbound_of_ne (normalizeOutbound_ne_empty which)] at hedited
          cases h
          split_ifs
          · simpa using hrestored
          · exact hrestored

/-- A replacement restores the members whatever the core does. -/
lemma restored_replaceOutboundConnections {touches : List NodeRef} {managed : Bool}
    (hfiled : w.store.Filed)
    (h : replaceOutboundConnections outbound touches managed w = (some e, w')) :
    Restored w.store w'.store := by
  unfold replaceOutboundConnections at h
  dsimp only at h
  have hgroup : (if outbound = "" then "proxy" else outbound) = groupOf outbound := rfl
  rw [hgroup] at h
  split at h
  · split at h <;> exact (Prod.mk.inj h).2 ▸ .refl _
  · split at h
    · exact (Prod.mk.inj h).2 ▸ .refl _
    · rename_i refs hrefs
      split at h
      · split at h
        · simp at h
        · rename_i updated hupdate
          have hstore : updated.store = replaceConnects (groupOf outbound) refs w.store :=
            World.store_of_updateConfig hupdate
          have hedited := editedAt_replaceConnects (s := w.store)
            (outbound_of_normalizeTouches hrefs)
          cases h
          rw [World.store_updateGroupConfig, hstore]
          exact hedited.restore hfiled
      · simp at h

variable {next : OutboundSetting} {replaceMembers : Bool}

omit [ServerObj ν] in
/-- Storing the state of a group writes its members, if they are to be replaced, and its
setting. -/
lemma storeGroupState_cases {members : List NodeRef} {err : Option Go.Error} (hfiled : s.Filed)
    (h : storeGroupState outbound next members replaceMembers s = (err, s₁)) :
    (err ≠ none ∧ Restored s s₁) ∨
    (err = none ∧ ∃ written, EditedAt (groupOf outbound) s written ∧
      (replaceMembers = false → written = s) ∧
      written.setOutboundSetting outbound next = .ok s₁) := by
  unfold storeGroupState at h
  dsimp only at h
  set written := if replaceMembers then
    replaceConnects outbound (members.map fun member => { member with outbound }) s else s
    with hwritten
  have hedited : EditedAt (groupOf outbound) s written ∧ (replaceMembers = false → written = s) := by
    rw [hwritten]
    split_ifs with hreplace
    · exact ⟨editedAt_replaceConnects (by simp), by simp [hreplace]⟩
    · exact ⟨⟨rfl, fun _ _ _ => rfl⟩, fun _ => rfl⟩
  split at h
  · cases h
    refine .inl ⟨by simp, ?_⟩
    split_ifs with hreplace
    · exact hedited.1.restore hfiled
    · rw [hedited.2 (by simpa using hreplace)]
      exact .refl _
  · cases h
    exact .inr ⟨rfl, written, hedited.1, hedited.2, ‹_›⟩

omit [ServerObj ν] in
/-- Restoring the state of a group undoes what was stored for it. -/
lemma groupsKept_restoreGroupState {written : Store ν} {err : Option Go.Error} (hfiled : s.Filed)
    (hwritten : (Go.parseDuration (s.getOutboundSetting outbound).probeInterval).isOk)
    (hedited : EditedAt (groupOf outbound) s written) (hsame : replaceMembers = false → written = s)
    (hset : written.setOutboundSetting outbound next = .ok s₁)
    (h : restoreGroupState outbound (s.getOutboundSetting outbound)
      (s.getConnectedServersByOutbound outbound) replaceMembers s₁ = (err, s₂)) :
    err = none ∧ GroupsKept s s₂ := by
  obtain rfl := setOutboundSetting_eq_ok hset
  unfold restoreGroupState at h
  dsimp only at h
  split at h
  · rename_i herror
    cases hparse : Go.parseDuration (s.getOutboundSetting outbound).probeInterval with
    | error e => simp [hparse, Except.toBool] at hwritten
    | ok interval =>
      rw [setOutboundSetting, hparse] at herror
      contradiction
  · rename_i hok
    cases h
    rw [setOutboundSetting_eq_ok hok]
    refine ⟨rfl, fun out hout => ?_, fun out _ => ?_⟩
    · have hne := s.ne_empty_of_mem_getOutbounds hout
      change (if replaceMembers = true then _ else _ : Store ν).members out = _
      split_ifs with hreplace
      · rw [members_restoreConnects (hfiled _)]
        split_ifs with hname
        · rfl
        · exact hedited.members out hne hname
      · rw [hsame (by simpa using hreplace)]
        rfl
    · have hsetting : (if replaceMembers = true then restoreConnects outbound
          (s.getConnectedServersByOutbound outbound) { written with
            outboundSetting := update written.outboundSetting outbound (some next) }
          else { written with
            outboundSetting := update written.outboundSetting outbound (some next) } :
              Store ν).outboundSetting =
            update s.outboundSetting outbound (some next) := by
        split_ifs <;> simp [hedited.setting]
      simp only [getOutboundSetting, hsetting]
      by_cases hout : out = outbound
      · simp [hout]
      · simp [hout]

/-- The state that the worker stores for a group is restored, if it can be written. -/
lemma groupsKept_applyManagedGroupState {members : List NodeRef} (hfiled : w.store.Filed)
    (hwritten : (Go.parseDuration (w.store.getOutboundSetting outbound).probeInterval).isOk)
    (h : applyManagedGroupState outbound next members replaceMembers w = (some e, w')) :
    GroupsKept w.store w'.store := by
  unfold applyManagedGroupState applyGroupConfig at h
  dsimp only at h
  split at h
  · rename_i store hstore
    cases h
    rcases storeGroupState_cases hfiled hstore with ⟨-, hrestored⟩ | ⟨hnone, -⟩
    · exact hrestored.groupsKept
    · simp at hnone
  · rename_i store hstore
    rcases storeGroupState_cases hfiled hstore with ⟨hsome, -⟩ | ⟨-, written, hedited, hsame, hset⟩
    · simp at hsome
    · split at h
      · split at h
        · simp at h
        · rename_i updated hupdate
          have hupdated : updated.store = store :=
            World.store_of_updateConfig hupdate
          rw [hupdated] at h
          split at h
          · rename_i hrestore
            have := groupsKept_restoreGroupState hfiled hwritten hedited hsame hset hrestore
            simp at this
          · rename_i restored hrestore
            obtain ⟨-, hkept⟩ :=
              groupsKept_restoreGroupState hfiled hwritten hedited hsame hset hrestore
            have hstored : w'.store = restored := by
              split at h
              · rename_i hagain
                cases h
                exact World.store_of_updateConfig hagain
              · rename_i hagain
                cases h
                exact World.store_of_updateConfig hagain
            rwa [hstored]
      · simp at h

/-! ### Disconnecting -/

/-- A removal is from a group with members, and the update that follows takes the core down. -/
def LosesMembers (w : World ν) (which : NodeRef) (clearOutbound : Bool) : Prop :=
  let which := Store.normalizeOutbound which
  w.running = true ∧ (w.store.getOutboundSetting which.outbound).autoAdd = false ∧
    which.outbound ∈ w.store.getOutbounds ∧ w.store.members which.outbound ≠ [] ∧
    (∃ store serverInfos, removeFromGroup which clearOutbound w.store = .ok store ∧
      getConnectedServerObjs w.nodeFingerprint store = .ok serverInfos) ∧
    (w.outcomes (w.updates + 1) false).running = false

section Removal

omit [ServerObj ν]

variable (hne : which.outbound ≠ "") (h : removeFromGroup which clearOutbound s = .ok s₁)
include hne h

/-- A removal from a group with members changes them. -/
lemma members_removeFromGroup_eq_iff :
    s₁.members which.outbound = s.members which.outbound ↔ s.members which.outbound = [] := by
  unfold removeFromGroup at h
  split at h
  · cases h
    rw [members_clearConnects hne, if_pos rfl, eq_comm]
  · unfold removeConnect at h
    rw [normalizeOutbound_of_ne hne] at h
    dsimp only at h
    split at h
    · rename_i i hi
      cases h
      have hlt : i < (s.members which.outbound).length := by
        simpa using (findIdx?_eq_some_iff_getElem.mp hi).1
      have hlength := congrArg length (members_setConnects s which.outbound
        (((s.members which.outbound).map normalizeOutbound).eraseIdx i) which.outbound)
      rw [if_pos rfl, length_eraseIdx_of_lt (by simpa using hlt), length_map] at hlength
      constructor
      · intro heq
        rw [heq] at hlength
        omega
      · intro hempty
        simp [hempty] at hlt
    · contradiction

/-- A removal keeps the groups if it is not from a group, or from one without members. -/
lemma groupsKept_removeFromGroup_iff :
    GroupsKept s s₁ ↔
      ¬(which.outbound ∈ s.getOutbounds ∧ s.members which.outbound ≠ []) := by
  have hedited := editedAt_removeFromGroup hne h
  have hmembers := members_removeFromGroup_eq_iff hne h
  constructor
  · rintro hkept ⟨hout, hmember⟩
    exact hmember (hmembers.mp (hkept.members _ hout))
  · intro hempty
    refine ⟨fun out hout => ?_, fun out _ => by rw [getOutboundSetting, hedited.setting]; rfl⟩
    by_cases hname : out = which.outbound
    · subst hname
      exact hmembers.mpr (not_not.mp fun hmember => hempty ⟨hout, hmember⟩)
    · exact hedited.members out (s.ne_empty_of_mem_getOutbounds hout) hname

/-- Writing the members again undoes a removal. -/
lemma groupsKept_overwriteConnects (hfiled : s.Filed) :
    GroupsKept s (s₁.overwriteConnects (s.members which.outbound)) := by
  have hedited := editedAt_removeFromGroup hne h
  refine ⟨fun out hout => ?_, fun out _ => ?_⟩
  · by_cases hempty : s.members which.outbound = []
    · rw [hempty, members_overwriteConnects]
      exact ((groupsKept_removeFromGroup_iff hne h).mpr (by simp [hempty])).members out hout
    · rw [s₁.members_overwriteConnects_of_forall hempty (hfiled _)]
      split_ifs with hname
      · rw [hname]
      · exact hedited.members out (s.ne_empty_of_mem_getOutbounds hout) hname
  · change (s₁.outboundSetting out).getD _ = _
    rw [hedited.setting]
    rfl

end Removal

/-- `Disconnect` restores the members, unless the core has gone down. -/
lemma groupsKept_disconnect_iff (hfiled : w.store.Filed)
    (h : disconnect which clearOutbound w = (some e, w')) :
    GroupsKept w.store w'.store ↔ ¬LosesMembers w which clearOutbound := by
  have hne := normalizeOutbound_ne_empty which
  unfold LosesMembers
  unfold disconnect at h
  dsimp only at h ⊢
  generalize normalizeOutbound which = which at *
  split at h
  · rename_i hauto
    cases h
    simp [hauto, (Restored.refl w.store).groupsKept]
  · rename_i hauto
    split at h
    · rename_i herror
      cases h
      simp [herror, (Restored.refl w.store).groupsKept]
    · rename_i store hremove
      split at h
      · rename_i hrunning
        cases hupdate : World.updateV2RayConfig { w with store } with
        | mk err w₁ =>
          have hstore : w₁.store = store :=
            World.store_of_updateConfig hupdate
          rw [hupdate] at h
          cases err with
          | none => simp at h
          | some e' =>
            have hkept := groupsKept_removeFromGroup_iff hne hremove
            have hmembers : (w.store.getConnectedServersByOutbound which.outbound).getD [] =
                w.store.members which.outbound := by
              rw [getConnectedServersByOutbound_of_ne hne]
              rfl
            cases hlast : w.store.getConnectedServersByOutbound which.outbound with
            | none =>
              have hempty : w.store.members which.outbound = [] := by rw [← hmembers, hlast]; rfl
              rw [hlast] at h
              cases h
              rw [hstore, hkept]
              simp [hempty]
            | some ws =>
              rw [hlast] at h hmembers
              cases h
              have hagain : GroupsKept w.store (w₁.store.overwriteConnects ws) := by
                rw [hstore, show ws = w.store.members which.outbound from hmembers]
                exact groupsKept_overwriteConnects hne hremove hfiled
              rcases World.updateConfig_error hupdate with ⟨⟨_, herror⟩, hup⟩ | ⟨hinfos, hup⟩
              · -- The core has not been touched.
                rw [if_pos (hup.trans hrunning)]
                simp [hagain, hremove, herror]
              · cases hdown : w₁.running with
                | true =>
                  have hrunning : (w.outcomes (w.updates + 1) false).running = true :=
                    hup.symm.trans hdown
                  simp [hagain, hrunning]
                | false =>
                  have hstopped : (w.outcomes (w.updates + 1) false).running = false :=
                    hup.symm.trans hdown
                  rw [if_neg (by simp), hstore, hkept]
                  simp [hrunning, hauto, hremove, hstopped, hinfos]
      · simp at h

/-! ### All edits -/

/-- The operations that edit a group. -/
inductive GroupEdit
  | connect (which : Option NodeRef) (support : Option Go.Error)
  | disconnect (which : NodeRef) (clearOutbound : Bool)
  | replaceOutboundConnections (outbound : String) (touches : List NodeRef) (managed : Bool)
  | applyManagedGroupState (outbound : String) (next : OutboundSetting) (members : List NodeRef)
      (replaceMembers : Bool)

namespace GroupEdit

def run : GroupEdit → Go.Op (World ν)
  | connect which support => V2rayA.connect which support
  | disconnect which clearOutbound => V2rayA.disconnect which clearOutbound
  | replaceOutboundConnections outbound touches managed =>
    V2rayA.replaceOutboundConnections outbound touches managed
  | applyManagedGroupState outbound next members replaceMembers =>
    V2rayA.applyManagedGroupState outbound next members replaceMembers

omit [ServerObj ν] in
/-- The previous setting of the group can be written again. -/
def Restorable (w : World ν) : GroupEdit → Prop
  | applyManagedGroupState outbound _ _ _ =>
    (Go.parseDuration (w.store.getOutboundSetting outbound).probeInterval).isOk
  | _ => True

/-- The core does not go down under a removal. -/
def Recovers (w : World ν) : GroupEdit → Prop
  | disconnect which clearOutbound => ¬LosesMembers w which clearOutbound
  | _ => True

end GroupEdit

/-- An edit that fails leaves the groups as they were, unless it is a removal and the core has gone
down. -/
theorem groupsKept_iff (edit : GroupEdit) (hfiled : w.store.Filed)
    (hrestorable : edit.Restorable w) (h : edit.run w = (some e, w')) :
    GroupsKept w.store w'.store ↔ edit.Recovers w := by
  cases edit with
  | connect which support =>
    exact iff_of_true (restored_connect hfiled h).groupsKept trivial
  | disconnect which clearOutbound => exact groupsKept_disconnect_iff hfiled h
  | replaceOutboundConnections outbound touches managed =>
    exact iff_of_true (restored_replaceOutboundConnections hfiled h).groupsKept trivial
  | applyManagedGroupState outbound next members replaceMembers =>
    exact iff_of_true (groupsKept_applyManagedGroupState hfiled hrestorable h) trivial

/-- Two servers are connected, and no update of the running core succeeds, or leaves it up. -/
def failingWorld : World SOCKS where
  store :=
    { servers := ["a", "b", "c"].map fun name => { serverObj := { name, server := "h.example" } }
      connectedServers := fun name =>
        if name = "proxy" then some [⟨.server, 1, 0, "proxy"⟩, ⟨.server, 2, 0, "proxy"⟩]
        else none }
  running := true
  outcomes := fun _ _ => ⟨some { text := "v2raya_core exited right after starting" }, false⟩

lemma filed_failingWorld : failingWorld.store.Filed := by
  intro outbound r hr
  by_cases hout : outbound = "proxy"
  · subst hout
    revert r
    decide
  · simp [failingWorld, members, hout] at hr

/-- Connecting a third server fails, and the first two stay connected. -/
theorem groupsKept_connect_failingWorld :
    (connect (some ⟨.server, 3, 0, "proxy"⟩) none failingWorld).1 =
        some { text := "failed to connect: v2raya_core exited right after starting" } ∧
      GroupsKept failingWorld.store
        (connect (some ⟨.server, 3, 0, "proxy"⟩) none failingWorld).2.store := by
  have herror : (connect (some ⟨.server, 3, 0, "proxy"⟩) none failingWorld).1 =
    some { text := "failed to connect: v2raya_core exited right after starting" } := by decide
  exact ⟨herror, (groupsKept_iff (.connect (some ⟨.server, 3, 0, "proxy"⟩) none)
    filed_failingWorld trivial (Prod.ext herror rfl)).mpr trivial⟩

/-- Disconnecting the first server fails, and the server is not connected any more. -/
theorem not_groupsKept_disconnect_failingWorld :
    (disconnect ⟨.server, 1, 0, "proxy"⟩ false failingWorld).1 =
        some { text := "failed to disconnect: v2raya_core exited right after starting" } ∧
      failingWorld.store.Filed ∧
      ¬GroupsKept failingWorld.store
        (disconnect ⟨.server, 1, 0, "proxy"⟩ false failingWorld).2.store :=
  ⟨by decide, filed_failingWorld, fun h => absurd (h.members "proxy" mem_cons_self) (by decide)⟩

end V2rayA
