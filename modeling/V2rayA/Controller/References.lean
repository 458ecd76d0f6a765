import V2rayA.Controller.Requests
import V2rayA.Service.SubscriptionRollback

/-!
# References across requests

Whether every member of a group names a node that exists is decided by each request on its
own. `ReferencesOk` is the invariant: the members of the groups resolve, and every stored
reference names the group that it is stored for, so that the writes that file references by
the group they name leave them in place. There is a lemma for each request that says under
which condition on its arguments the invariant is kept; `Request.Safe` collects the
conditions and `Api.resolves_of_reachableWhen` is the result for all runs.
-/

namespace V2rayA

open List Store

variable {ν : Type}

/-- Only the members or the settings of groups differ. -/
structure SameCatalog (s s' : Store ν) : Prop where
  servers : s'.servers = s.servers
  subscriptions : s'.subscriptions = s.subscriptions
  outboundNames : s'.outboundNames = s.outboundNames

/-- The members of the groups resolve, and every stored reference names its group. -/
structure ReferencesOk (s : Store ν) : Prop where
  resolves : ∀ outbound ∈ s.getOutbounds, ∀ r ∈ s.members outbound, s.Resolves r
  /-- Also in the bucket of a name that is not a group. -/
  tagged : ∀ outbound, ∀ r ∈ s.members outbound, r.outbound = outbound

namespace ReferencesOk

variable {s s' : Store ν}

section

variable (h : ReferencesOk s)
include h

lemma resolves_connected :
    ∀ r ∈ s.getConnectedServers, s.Resolves r := by
  intro r hr
  obtain ⟨outbound, hout, hr⟩ := s.mem_getConnectedServers.mp hr
  exact h.resolves outbound hout r hr

lemma storeTagged : s.Tagged := fun outbound _ r hr => h.tagged outbound r hr

/-- The invariant is kept when the catalog grows, no group is new, and every member is an old
one or resolves. -/
lemma of_members (hcat : s.CatalogLE s')
    (hout : ∀ outbound ∈ s'.getOutbounds, outbound ∈ s.getOutbounds)
    (hmem : ∀ outbound, ∀ r ∈ s'.members outbound, r ∈ s.members outbound ∨
      r.outbound = outbound ∧ (outbound ∈ s.getOutbounds → s.Resolves r)) :
    ReferencesOk s' where
  resolves outbound hlisted r hr := by
    rcases hmem outbound r hr with hr | ⟨-, hres⟩
    · exact (h.resolves outbound (hout outbound hlisted) r hr).mono hcat
    · exact (hres (hout outbound hlisted)).mono hcat
  tagged outbound r hr := by
    rcases hmem outbound r hr with hr | ⟨htag, -⟩
    · exact h.tagged outbound r hr
    · exact htag

lemma of_sameCatalog (hcat : SameCatalog s s')
    (hmem : ∀ outbound, ∀ r ∈ s'.members outbound, r ∈ s.members outbound ∨
      r.outbound = outbound ∧ (outbound ∈ s.getOutbounds → s.Resolves r)) :
    ReferencesOk s' := by
  refine h.of_members (.of_eq hcat.servers hcat.subscriptions) (fun outbound hout => ?_) hmem
  simpa [hcat.outboundNames] using hout

/-- The invariant is kept when the catalog grows and the groups stay as they are. -/
lemma of_catalogLE (hcat : s.CatalogLE s')
    (hnames : s'.outboundNames = s.outboundNames)
    (hconn : s'.connectedServers = s.connectedServers) : ReferencesOk s' := by
  refine h.of_members hcat (fun outbound hout => ?_) fun outbound r hr => .inl ?_
  · simpa [hnames] using hout
  · rwa [members, hconn] at hr

end

end ReferencesOk

lemma ReferencesOk.empty : ReferencesOk ({} : Store ν) where
  resolves outbound _ r hr := by simp [members] at hr
  tagged outbound r hr := by simp [members] at hr

/-! ### Connecting and disconnecting -/

section Members

variable {s s' : Store ν}

variable {outbound : String}

/-- The members of a group are stored normalized. -/
private lemma map_normalizeOutbound_members (h : ReferencesOk s) (hne : outbound ≠ "") :
    (s.members outbound).map normalizeOutbound = s.members outbound := by
  conv_rhs => rw [← map_id (s.members outbound)]
  refine map_congr_left fun r hr => normalizeOutbound_of_ne ?_
  rwa [h.tagged outbound r hr]

variable {wt : NodeRef}

/-- Adding a member changes its group only. -/
lemma ReferencesOk.members_addConnect (h : ReferencesOk s) (hne : wt.outbound ≠ "")
    (out : String) :
    (s.addConnect wt).members out = s.members out ∨
      out = wt.outbound ∧ (s.addConnect wt).members out = s.members out ++ [wt] := by
  unfold addConnect
  dsimp only
  rw [normalizeOutbound_of_ne hne, map_normalizeOutbound_members h hne]
  split_ifs
  · exact .inl rfl
  · rw [members_setConnects]
    by_cases hout : out = wt.outbound
    · exact .inr ⟨hout, by rw [if_pos hout, hout]⟩
    · exact .inl (by rw [if_neg hout])

/-- Removing a member leaves members only. -/
lemma ReferencesOk.members_removeConnect (h : ReferencesOk s) (hne : wt.outbound ≠ "")
    (hremove : s.removeConnect wt = .ok s') (out : String) :
    ∀ r ∈ s'.members out, r ∈ s.members out := by
  unfold removeConnect at hremove
  dsimp only at hremove
  rw [normalizeOutbound_of_ne hne, map_normalizeOutbound_members h hne] at hremove
  split at hremove
  · cases hremove
    intro r hr
    rw [members_setConnects] at hr
    split_ifs at hr with hout
    · rw [hout]
      exact mem_of_mem_eraseIdx hr
    · exact hr
  · simp at hremove

/-- A rollback restores the members of the group exactly. -/
lemma ReferencesOk.members_restoreConnects (h : ReferencesOk s) (hne : outbound ≠ "")
    (hagree : ∀ out, out ≠ outbound → s'.members out = s.members out) (out : String) :
    (restoreConnects outbound (s.getConnectedServersByOutbound outbound) s').members out =
      s.members out := by
  rw [V2rayA.members_restoreConnects (h.tagged (groupOf outbound)), groupOf, if_neg hne]
  split_ifs with hout
  · rfl
  · exact hagree out hout

lemma sameCatalog_addConnect (wt : NodeRef) : SameCatalog s (s.addConnect wt) := by
  unfold addConnect
  dsimp only
  split_ifs <;> exact ⟨rfl, rfl, rfl⟩

lemma sameCatalog_removeConnect (h : s.removeConnect wt = .ok s') :
    SameCatalog s s' := by
  unfold removeConnect at h
  dsimp only at h
  split at h
  · cases h
    exact ⟨rfl, rfl, rfl⟩
  · simp at h

lemma sameCatalog_restoreConnects (outbound : String) (backup : Option (List NodeRef)) :
    SameCatalog s (restoreConnects outbound backup s) := by
  unfold restoreConnects
  split_ifs <;> exact ⟨rfl, rfl, rfl⟩

lemma SameCatalog.trans {s₁ s₂ s₃ : Store ν} (h : SameCatalog s₁ s₂) (h' : SameCatalog s₂ s₃) :
    SameCatalog s₁ s₃ :=
  ⟨h'.servers.trans h.servers, h'.subscriptions.trans h.subscriptions,
    h'.outboundNames.trans h.outboundNames⟩

/-- Removing leaves members only. -/
lemma ReferencesOk.members_removeFromGroup (h : ReferencesOk s) {which : NodeRef}
    (hne : which.outbound ≠ "") {clearOutbound : Bool}
    (hremove : removeFromGroup which clearOutbound s = .ok s') :
    SameCatalog s s' ∧ ∀ out, ∀ r ∈ s'.members out, r ∈ s.members out := by
  unfold removeFromGroup at hremove
  split_ifs at hremove
  · cases hremove
    refine ⟨⟨rfl, rfl, rfl⟩, fun out r hr => ?_⟩
    rw [members_clearConnects hne] at hr
    split_ifs at hr
    · simp at hr
    · exact hr
  · exact ⟨sameCatalog_removeConnect hremove, h.members_removeConnect hne hremove⟩

/-- The invariant after a rollback of a write to one group. -/
lemma referencesOk_restoreConnects (h : ReferencesOk s) (hne : outbound ≠ "")
    (hcat : SameCatalog s s') (hagree : ∀ out, out ≠ outbound → s'.members out = s.members out) :
    ReferencesOk
      (restoreConnects outbound (s.getConnectedServersByOutbound outbound) s') := by
  refine h.of_sameCatalog (hcat.trans (sameCatalog_restoreConnects _ _)) fun out r hr => ?_
  rw [h.members_restoreConnects hne hagree] at hr
  exact .inl hr

end Members

section Handlers

variable [ServerObj ν] {w : World ν}

/-- `Connect` looks the node up before it stores the reference. -/
lemma referencesOk_connect (h : ReferencesOk w.store) (which : Option NodeRef)
    (support : Option Go.Error) : ReferencesOk (connect which support w).2.store := by
  unfold connect
  cases which with
  | none => exact h
  | some which =>
    dsimp only
    have hne := normalizeOutbound_ne_empty which
    generalize normalizeOutbound which = which at hne
    split_ifs with hauto
    · exact h
    cases hloc : w.store.locate which with
    | error e => exact h
    | ok sr =>
      cases support with
      | some e => exact h
      | none =>
        rcases hupd : World.updateV2RayConfig { w with store := w.store.addConnect which } with
          ⟨_ | e, w₁⟩ <;> have hstore := World.store_of_updateConfig hupd
        · rw [hstore]
          refine h.of_sameCatalog (sameCatalog_addConnect which) fun out r hr => ?_
          rcases h.members_addConnect hne out with hsame | ⟨hout, hadd⟩
          · exact .inl (hsame ▸ hr)
          · rw [hadd, mem_append, mem_singleton] at hr
            rcases hr with hr | rfl
            · exact .inl hr
            · exact .inr ⟨hout.symm, fun _ => w.store.resolves_iff_locate.mpr ⟨sr, hloc⟩⟩
        · dsimp only at hstore ⊢
          have hcat : SameCatalog w.store w₁.store := by
            rw [hstore]
            exact sameCatalog_addConnect which
          have hrestored := referencesOk_restoreConnects h hne hcat fun out hout => by
            rw [hstore]
            exact (h.members_addConnect hne out).resolve_right fun hadd => hout hadd.1
          split_ifs
          · simpa using hrestored
          · exact hrestored

/-- `Disconnect` stores no reference that was not there. -/
lemma referencesOk_disconnect (h : ReferencesOk w.store) (which : NodeRef)
    (clearOutbound : Bool) : ReferencesOk (disconnect which clearOutbound w).2.store := by
  unfold disconnect
  have hne := normalizeOutbound_ne_empty which
  generalize normalizeOutbound which = which at hne
  by_cases hauto : (w.store.getOutboundSetting which.outbound).autoAdd = true
  · rw [if_pos hauto]
    exact h
  rw [if_neg hauto]
  cases hremove : removeFromGroup which clearOutbound w.store with
  | error e => exact h
  | ok store =>
    dsimp only
    obtain ⟨hcat, hsub⟩ := h.members_removeFromGroup hne hremove
    have hremoved : ReferencesOk store :=
      h.of_sameCatalog hcat fun out r hr => .inl (hsub out r hr)
    split_ifs with hrunning
    swap
    · exact hremoved
    rcases hupd : World.updateV2RayConfig { w with store } with ⟨_ | e, w₁⟩ <;>
      have hstore : w₁.store = store := World.store_of_updateConfig hupd
    · rw [hstore]
      exact hremoved
    cases hlast : w.store.getConnectedServersByOutbound which.outbound with
    | none =>
      rw [hstore]
      exact hremoved
    | some ws =>
      dsimp only
      split_ifs
      · rw [World.store_updateV2RayConfig, hstore]
        -- The members that are stored again are those from before.
        have hws : ws = w.store.members which.outbound := by
          rw [getConnectedServersByOutbound_of_ne hne] at hlast
          simp [members, hlast]
        refine h.of_sameCatalog (hcat.trans ⟨rfl, rfl, rfl⟩) fun out r hr => .inl ?_
        rw [members_overwriteConnects] at hr
        split_ifs at hr
        · obtain ⟨hr, hout⟩ := mem_filter.mp hr
          rw [hws] at hr
          rw [← of_decide_eq_true hout, h.tagged _ r hr]
          exact hr
        · exact hsub out r hr
      · rw [hstore]
        exact hremoved

/-! ### Replacing the members of a group -/

/-- The reference `r` names the group `outbound` and the node of `wt`. -/
private def SameTarget (outbound : String) (wt r : NodeRef) : Prop :=
  r.outbound = outbound ∧ r.type = wt.type ∧ r.id = wt.id ∧
    (wt.type = .subscriptionServer → r.sub = wt.sub)

variable {outbound : String}

variable {s : Store ν}

omit [ServerObj ν] in
private lemma SameTarget.resolves_iff {wt r : NodeRef} (h : SameTarget outbound wt r) :
    s.Resolves r ↔ s.Resolves wt := by
  obtain ⟨-, htype, hid, hsub⟩ := h
  cases ht : wt.type with
  | subscriptionServer => simp only [Resolves, htype, hid, hsub ht]
  | server => simp only [Resolves, htype, ht, hid]
  | subscription => simp only [Resolves, htype, ht]
  | other raw => simp only [Resolves, htype, ht]

private lemma mem_addTouch {acc : List NodeRef} {wt : NodeRef} {sub : ℤ}
    (hsub : wt.type = .subscriptionServer → sub = wt.sub) :
    ∀ r ∈ addTouch outbound acc wt sub, r ∈ acc ∨ SameTarget outbound wt r := by
  intro r hr
  unfold addTouch at hr
  split_ifs at hr
  · exact .inl hr
  · rw [mem_append, mem_singleton] at hr
    rcases hr with hr | rfl
    · exact .inl hr
    · exact .inr ⟨rfl, rfl, rfl, hsub⟩

private lemma mem_normalizeTouch {acc acc' : List NodeRef} {wt : NodeRef} {i : ℕ}
    (h : normalizeTouch outbound acc (wt, i) = .ok acc') :
    ∀ r ∈ acc', r ∈ acc ∨ SameTarget outbound wt r := by
  unfold normalizeTouch at h
  dsimp only at h
  by_cases hid : wt.id ≤ 0
  · simp [hid] at h
  rw [if_neg hid] at h
  cases htype : wt.type with
  | server =>
    obtain rfl : addTouch outbound acc wt 0 = acc' := by simpa [htype] using h
    exact mem_addTouch (by simp [htype])
  | subscriptionServer =>
    by_cases hneg : wt.sub < 0
    · simp [htype, hneg] at h
    · obtain rfl : addTouch outbound acc wt wt.sub = acc' := by simpa [htype, hneg] using h
      exact mem_addTouch fun _ => rfl
  | subscription => simp [htype] at h
  | other raw => simp [htype] at h

/-- A member that a replacement stores comes from a touch with the same node. -/
private lemma mem_normalizeTouches {touches refs : List NodeRef}
    (h : normalizeTouches outbound touches = .ok refs) :
    ∀ r ∈ refs, ∃ wt ∈ touches, SameTarget outbound wt r := by
  suffices hrun : ∀ (ts : List (NodeRef × ℕ)) (acc : List NodeRef),
      ts.foldlM (normalizeTouch outbound) acc = .ok refs →
      ∀ r ∈ refs, r ∈ acc ∨ ∃ t ∈ ts, SameTarget outbound t.1 r by
    intro r hr
    rcases hrun _ _ h r hr with hr | ⟨⟨wt, i⟩, ht, hsame⟩
    · simp at hr
    · exact ⟨wt, (mem_zipIdx' ht).2 ▸ getElem_mem _, hsame⟩
  intro ts
  induction ts with
  | nil =>
    intro acc hacc r hr
    obtain rfl : acc = refs := Except.ok.inj hacc
    exact .inl hr
  | cons t ts ih =>
    intro acc hrun r hr
    obtain ⟨acc', hstep, hrun⟩ := Except.bind_eq_ok_iff.mp hrun
    rcases ih acc' hrun r hr with hr | ⟨t', ht', hsame⟩
    · obtain ⟨wt, i⟩ := t
      exact (mem_normalizeTouch hstep r hr).imp_right fun hsame =>
        ⟨(wt, i), mem_cons_self, hsame⟩
    · exact .inr ⟨t', mem_cons_of_mem _ ht', hsame⟩

omit [ServerObj ν] in
private lemma sameCatalog_replaceConnects (s : Store ν) (outbound : String)
    (refs : List NodeRef) : SameCatalog s (replaceConnects outbound refs s) := by
  unfold replaceConnects
  split_ifs <;> exact ⟨rfl, rfl, rfl⟩

/-- A replacement leaves it to a running core to refuse references that do not resolve. -/
lemma referencesOk_replaceOutboundConnections (h : ReferencesOk w.store) {touches : List NodeRef}
    {managed : Bool}
    (hstopped : w.running = false →
      (if outbound = "" then "proxy" else outbound) ∈ w.store.getOutbounds →
      ∀ wt ∈ touches, w.store.Resolves wt) :
    ReferencesOk (replaceOutboundConnections outbound touches managed w).2.store := by
  unfold replaceOutboundConnections
  have hne : (if outbound = "" then "proxy" else outbound) ≠ "" := by
    split_ifs with hempty
    · decide
    · exact hempty
  generalize (if outbound = "" then "proxy" else outbound) = outbound at hne hstopped
  by_cases hauto : (w.store.getOutboundSetting outbound).autoAdd ≠ managed
  · rw [if_pos hauto]
    split_ifs <;> exact h
  rw [if_neg hauto]
  cases hnorm : normalizeTouches outbound touches with
  | error e => exact h
  | ok refs =>
    dsimp only
    have hrefs := mem_normalizeTouches hnorm
    have hcat := sameCatalog_replaceConnects w.store outbound refs
    have hmembers := members_replaceConnects (s := w.store) hne fun r hr =>
      let ⟨_, _, hsame⟩ := hrefs r hr
      hsame.1
    generalize replaceConnects outbound refs w.store = store at hcat hmembers
    have hwritten : (outbound ∈ w.store.getOutbounds → ∀ r ∈ refs, w.store.Resolves r) →
        ReferencesOk store := by
      refine fun hres => h.of_sameCatalog hcat fun out r hr => ?_
      rw [hmembers] at hr
      split_ifs at hr with hout
      · subst hout
        obtain ⟨wt, -, hsame⟩ := hrefs r hr
        exact .inr ⟨hsame.1, fun hlisted => hres hlisted r hr⟩
      · exact .inl hr
    split_ifs with hrunning
    · rcases hupd : World.updateGroupConfig { w with store } with ⟨_ | e, w₁⟩ <;>
        have hstore : w₁.store = store := World.store_of_updateConfig hupd
      · -- The core has located every reference.
        have hlocated : ∀ r ∈ store.getConnectedServers, store.Resolves r :=
          World.resolves_of_updateConfig true { w with store } (congrArg Prod.fst hupd)
        rw [hstore]
        refine hwritten fun hlisted r hr => ?_
        have hconn : r ∈ store.getConnectedServers := by
          refine store.mem_getConnectedServers.mpr ⟨outbound, ?_, ?_⟩
          · simpa [hcat.outboundNames] using hlisted
          · rwa [hmembers, if_pos rfl]
        exact (hlocated r hconn).mono (.of_eq hcat.servers.symm hcat.subscriptions.symm)
      · rw [World.store_updateGroupConfig, hstore]
        refine referencesOk_restoreConnects h hne hcat fun out hout => ?_
        rw [hmembers, if_neg hout]
    · refine hwritten fun hlisted r hr => ?_
      obtain ⟨wt, hwt, hsame⟩ := hrefs r hr
      exact hsame.resolves_iff.mpr (hstopped (by simpa using hrunning) hlisted wt hwt)

lemma referencesOk_putOutboundConnections (h : ReferencesOk w.store) {touches : List TouchInput}
    (hstopped : w.running = false →
      (if outbound = "" then "proxy" else outbound) ∈ w.store.getOutbounds →
      ∀ refs, parseTouches outbound touches = .ok refs → ∀ wt ∈ refs, w.store.Resolves wt) :
    ReferencesOk (putOutboundConnections outbound touches w).2.store := by
  unfold putOutboundConnections
  split_ifs
  · exact h
  · cases hparse : parseTouches outbound touches with
    | error e => exact h
    | ok refs =>
      exact referencesOk_replaceOutboundConnections h fun hrun hout =>
        hstopped hrun hout refs hparse

/-! ### The catalog -/

/-- A deletion keeps the references resolving when the touches of subscriptions are in
order. -/
lemma referencesOk_deleteWhich (h : ReferencesOk w.store) (rt : Go.Runtime) {ws : List Which}
    (hord : SubscriptionTouchesOrdered (ws.filter fun v => w.store.inRange v.toNodeRef)) :
    ReferencesOk (deleteWhich rt ws w).2.store := by
  rw [store_deleteWhich, ← deleteFromStore_filter]
  have hws : ∀ v ∈ ws.filter fun v => w.store.inRange v.toNodeRef,
      w.store.inRange v.toNodeRef = true := fun v hv => (mem_filter.mp hv).2
  constructor
  · intro outbound hout r' hr'
    rw [getOutbounds_deleteFromStore] at hout
    rw [members_deleteFromStore rt hout] at hr'
    obtain ⟨r, hr, hren⟩ := mem_filterMap.mp (mem_filter.mp hr').1
    exact resolves_of_renumberRef rt hws hord (h.resolves_connected r hr) hren
  · intro outbound r' hr'
    by_cases hout : outbound ∈ w.store.getOutbounds
    · rw [members_deleteFromStore rt hout] at hr'
      exact of_decide_eq_true (mem_filter.mp hr').2
    · rw [deleteFromStore_eq, members_removeNodes_of_not_mem _ _ _ _ hout] at hr'
      split_ifs at hr'
      · exact of_decide_eq_true (mem_filter.mp hr').2
      · exact h.tagged outbound r' hr'

omit [ServerObj ν] in
private lemma catalogLE_appendServer (s : Store ν) (server : ServerRaw ν) :
    s.CatalogLE (s.appendServer server) :=
  ⟨by simp [appendServer], fun i sub hsub => ⟨sub, hsub, le_rfl⟩⟩

variable {s s' : Store ν}

omit [ServerObj ν] in
/-- Replacing a subscription by one with as many servers. -/
private lemma catalogLE_setSubscription {index : ℤ} {sub old : SubscriptionRaw ν}
    (hold : s.getSubscription index = some old) (hlength : old.servers.length ≤ sub.servers.length)
    (hset : s'.subscriptions = s.subscriptions.set index.toNat sub)
    (hservers : s'.servers = s.servers) : s.CatalogLE s' := by
  refine ⟨by rw [hservers], fun i sub' hsub' => ?_⟩
  rw [hset]
  by_cases hi : index.toNat = i
  · subst hi
    unfold getSubscription at hold
    split_ifs at hold
    obtain rfl : sub' = old := Option.some.inj (hsub'.symm.trans hold)
    exact ⟨sub, List.getElem?_set_self (List.getElem?_eq_some_iff.mp hold).1, hlength⟩
  · exact ⟨sub', by rw [List.getElem?_set_ne hi, hsub'], le_rfl⟩

omit [ServerObj ν] in
/-- Editing a node keeps the catalog in its shape. -/
private lemma catalogLE_modifyServer {which : NodeRef} {obj : ν}
    (h : modifyServer which obj s = .ok s') :
    s.CatalogLE s' ∧ s'.outboundNames = s.outboundNames ∧
      s'.connectedServers = s.connectedServers := by
  unfold modifyServer at h
  cases htype : which.type with
  | server =>
    simp only [htype, setServer] at h
    split_ifs at h
    cases h
    exact ⟨⟨by simp, fun i sub hsub => ⟨sub, hsub, le_rfl⟩⟩, rfl, rfl⟩
  | subscriptionServer =>
    simp only [htype] at h
    by_cases hneg : which.id - 1 < 0
    · simp [hneg] at h
    rw [if_neg hneg] at h
    cases hsub : s.getSubscription which.sub with
    | none => simp [hsub] at h
    | some sub =>
      simp only [hsub, setSubscription] at h
      split_ifs at h
      cases h
      refine ⟨catalogLE_setSubscription hsub ?_ rfl rfl, rfl, rfl⟩
      simp [subscriptionRow]
  | subscription => simp [htype] at h
  | other raw => simp [htype] at h

section

variable (h : ReferencesOk w.store)
include h

lemma referencesOk_importServer (links : Links ν)
    (which : Option NodeRef) : ReferencesOk (importServer links which w).2.store := by
  unfold importServer
  match links with
  | .lines (.error e) => exact h
  | .single (.error e) => exact h
  | .lines (.ok infos) =>
    generalize w.store = store at h
    induction infos generalizing store with
    | nil => exact h
    | cons info infos ih =>
      exact ih _ (h.of_catalogLE (catalogLE_appendServer _ _) rfl rfl)
  | .single (.ok obj) =>
    cases which.filter fun which => which.id > 0 with
    | none => exact h.of_catalogLE (catalogLE_appendServer _ _) rfl rfl
    | some which =>
      dsimp only
      cases hmod : modifyServer which obj w.store with
      | error e => exact h
      | ok store =>
        obtain ⟨hcat, hnames, hconn⟩ := catalogLE_modifyServer hmod
        rw [store_reloadFor]
        exact h.of_catalogLE hcat hnames hconn

lemma referencesOk_importSubscription (address status : String)
    (fetched : Fetched ν) :
    ReferencesOk (importSubscription address status fetched w).2.store := by
  match fetched with
  | .error e => exact h
  | .ok (infos, info) =>
    refine h.of_catalogLE ⟨le_rfl, fun i sub hsub => ⟨sub, ?_, le_rfl⟩⟩ rfl rfl
    exact List.getElem?_append_left (List.getElem?_eq_some_iff.mp hsub).1 ▸ hsub

/-! ### The update of a subscription -/

/-- The update of a subscription, successful or rolled back, keeps the references
resolving. -/
lemma referencesOk_storeSubscriptionUpdate {index : ℤ}
    {old : SubscriptionRaw ν} (hold : w.store.getSubscription index = some old) (nodes : List ν)
    (status info : String) (disconnect : Bool) :
    ReferencesOk (storeSubscriptionUpdate index old nodes status info disconnect w).2.store := by
  rcases hrun : storeSubscriptionUpdate index old nodes status info disconnect w with ⟨_ | e, w'⟩
  · obtain ⟨hvalid, hstored, -⟩ := storeSubscriptionUpdate_stored hrun
    refine ⟨(hstored.consistent rfl hvalid h.storeTagged h.resolves_connected).resolves, ?_⟩
    intro outbound r' hr'
    rw [hstored.members] at hr'
    split_ifs at hr'
    · obtain ⟨r, hr, hfollow⟩ := mem_filterMap.mp hr'
      rw [Update.follow_outbound _ hfollow]
      exact of_decide_eq_true (mem_filter.mp hr).2
    · exact h.tagged outbound r' hr'
  · rw [← storeSubscriptionUpdateTx_none] at hrun
    rcases storeSubscriptionUpdateTx_error hrun with
      hsame | ⟨next, updated, s₁, hupdated, hset, hback⟩
    · exact hsame ▸ h
    · obtain ⟨hservers, hsubs, hnames, -⟩ := rollback_catalog hold hset hback
      refine h.of_members ?_ (fun outbound hout => ?_) fun outbound r hr => .inl ?_
      · refine catalogLE_setSubscription hold ?_ hsubs hservers
        exact le_refl old.servers.length
      · simpa [hnames] using hout
      · rwa [rollback_members hset hback h.storeTagged hupdated] at hr

lemma referencesOk_putSubscription (data : NodeRef)
    (status : String) (fetched : Fetched ν) :
    ReferencesOk (putSubscription data status fetched w).2.store := by
  unfold putSubscription updateSubscription
  dsimp only
  split_ifs
  · exact h
  · cases hold : w.store.getSubscription (data.id - 1) with
    | none => exact h
    | some old =>
      match fetched with
      | .error e => exact h
      | .ok (nodes, info) => exact referencesOk_storeSubscriptionUpdate h hold nodes status info false

end

/-! ### Groups -/

variable {setting : OutboundSetting}

omit [ServerObj ν] in
lemma sameCatalog_setOutboundSetting (h : s.setOutboundSetting outbound setting = .ok s') :
    SameCatalog s s' ∧ s'.connectedServers = s.connectedServers := by
  rw [setOutboundSetting_eq_ok h]
  exact ⟨⟨rfl, rfl, rfl⟩, rfl⟩

omit [ServerObj ν] in
lemma referencesOk_setOutboundSetting (h : ReferencesOk s)
    (hset : s.setOutboundSetting outbound setting = .ok s') :
    ReferencesOk s' := by
  obtain ⟨hcat, hconn⟩ := sameCatalog_setOutboundSetting hset
  refine h.of_sameCatalog hcat fun out r hr => .inl ?_
  rwa [members, hconn] at hr

omit [ServerObj ν] in
/-- A new group takes over whatever is stored under its name. -/
lemma referencesOk_postOutbound {w : World ν} (h : ReferencesOk w.store)
    (hstale : ∀ r ∈ w.store.members outbound, w.store.Resolves r) :
    ReferencesOk (postOutbound outbound w).2.store := by
  unfold postOutbound
  split_ifs with hne
  · exact h
  · cases hadd : w.store.addOutbound outbound hne with
    | error e => exact h
    | ok store =>
      unfold addOutbound at hadd
      split_ifs at hadd
      refine referencesOk_setOutboundSetting ?_ hadd
      refine ⟨fun out hout r hr => ?_, h.tagged⟩
      have hlisted : out = outbound ∨ out ∈ w.store.getOutbounds := by
        simp only [mem_getOutbounds, insertOutboundName, mem_insert_iff] at hout ⊢
        tauto
      rcases hlisted with rfl | hlisted
      · exact hstale r hr
      · exact h.resolves out hlisted r hr

omit [ServerObj ν] in
/-- Deleting a group deletes references only. -/
lemma referencesOk_removeOutbound (h : ReferencesOk s) (outbound : String) :
    ReferencesOk (s.removeOutbound outbound) := by
  refine h.of_members (.of_eq rfl rfl) (fun out hout => ?_) fun out r hr => .inl ?_
  · rw [mem_getOutbounds] at hout ⊢
    exact hout.imp_right mem_of_mem_erase
  · unfold members removeOutbound at hr
    dsimp only at hr
    split_ifs at hr
    · simp at hr
    · exact hr

lemma referencesOk_clearGroup (h : ReferencesOk w.store) (outbound : String) :
    ReferencesOk (clearGroup outbound w).2.store := by
  unfold clearGroup
  split
  · exact h
  · exact referencesOk_disconnect h _ true

omit [ServerObj ν] in
lemma referencesOk_restoreAutomatic (h : ReferencesOk s) (outbound : String)
    (setting : OutboundSetting) : ReferencesOk (restoreAutomatic outbound setting s) := by
  unfold restoreAutomatic
  split_ifs
  · cases hset : s.setOutboundSetting outbound setting with
    | ok store => exact referencesOk_setOutboundSetting h hset
    | error e => exact h
  · exact h

lemma referencesOk_deleteOutbound (h : ReferencesOk w.store) (outbound : String) :
    ReferencesOk (deleteOutbound outbound w).2.store := by
  unfold deleteOutbound
  dsimp only
  by_cases hempty : outbound = ""
  · rw [if_pos hempty]
    exact h
  by_cases hproxy : outbound = "proxy"
  · rw [if_neg hempty, if_pos hproxy]
    exact h
  by_cases hbound : (w.store.getCustomInboundsByOutbound outbound).length > 0
  · rw [if_neg hempty, if_neg hproxy, if_pos hbound]
    exact h
  rw [if_neg hempty, if_neg hproxy, if_neg hbound]
  cases hmanual : if (w.store.getOutboundSetting outbound).autoAdd = true then
      w.store.setOutboundSetting outbound
        { w.store.getOutboundSetting outbound with autoAdd := false }
      else .ok w.store with
  | error e => exact h
  | ok store =>
    have hstore : ReferencesOk store := by
      split_ifs at hmanual
      · exact referencesOk_setOutboundSetting h hmanual
      · exact Except.ok.inj hmanual ▸ h
    have hcleared := referencesOk_clearGroup (w := { w with store }) hstore outbound
    dsimp only
    rcases hclear : clearGroup outbound { w with store } with ⟨_ | e, w₁⟩ <;> rw [hclear] at hcleared
    · exact referencesOk_removeOutbound hcleared outbound
    · exact referencesOk_restoreAutomatic hcleared outbound _

end Handlers

/-! ### Runs -/

/-- The condition on a request under which references keep resolving. Touches of one
subscription have to agree and to come in the order of their `Sub` fields; while the core is
stopped, a replacement has to name nodes that exist; and what is stored under the name of a
new group has to resolve. -/
def Request.Safe (w : World ν) : Request ν → Prop
  | .putOutboundConnections outbound touches =>
    w.running = false → (if outbound = "" then "proxy" else outbound) ∈ w.store.getOutbounds →
      ∀ refs, parseTouches outbound touches = .ok refs → ∀ r ∈ refs, w.store.Resolves r
  | .deleteWhich _ touches =>
    SubscriptionTouchesOrdered (touches.filter fun v => w.store.inRange v.toNodeRef)
  | .postOutbound outbound => ∀ r ∈ w.store.members outbound, w.store.Resolves r
  | _ => True

variable [ServerObj ν]

/-- Serving a safe request keeps the references resolving. -/
lemma Request.referencesOk_handle {w : World ν} (h : ReferencesOk w.store)
    {request : Request ν} (hsafe : request.Safe w) : ReferencesOk (request.handle w).2.store := by
  cases request with
  | connect which support => exact referencesOk_connect h which support
  | disconnect which => exact referencesOk_disconnect h which false
  | putOutboundConnections outbound touches => exact referencesOk_putOutboundConnections h hsafe
  | deleteWhich rt touches => exact referencesOk_deleteWhich h rt hsafe
  | importServer links which => exact referencesOk_importServer h links which
  | importSubscription address status fetched =>
    exact referencesOk_importSubscription h address status fetched
  | putSubscription data status fetched => exact referencesOk_putSubscription h data status fetched
  | postOutbound outbound => exact referencesOk_postOutbound h hsafe
  | deleteOutbound outbound => exact referencesOk_deleteOutbound h outbound
  | core running => exact h
  | setting outbound next =>
    unfold Request.handle
    dsimp only
    cases hset : w.store.setOutboundSetting outbound next with
    | error e => exact h
    | ok store => exact referencesOk_setOutboundSetting h hset
  | customInbounds inbounds => exact h.of_sameCatalog ⟨rfl, rfl, rfl⟩ fun _ _ hr => .inl hr

/-- In every run of safe requests that begins with an empty store, every member of every group
resolves at any time. -/
theorem Api.resolves_of_reachableWhen {w : World ν}
    (hw : (Api.system ν).ReachableWhen (fun w request => request.Safe w) w) :
    ∀ outbound ∈ w.store.getOutbounds, ∀ r ∈ w.store.members outbound, w.store.Resolves r := by
  have hinv : ReferencesOk w.store := by
    refine hw.invariant (I := fun w => ReferencesOk w.store) ?_ ?_
    · rintro w (hempty : w.store = {})
      rw [hempty]
      exact .empty
    · intro w request w' h hsafe hnext
      cases hnext
      exact Request.referencesOk_handle h hsafe
  exact hinv.resolves

/-- The world in which the runs below begin. -/
def emptyWorld : World SOCKS where
  store := {}

/-- One server is imported. -/
def importedWorld : World SOCKS :=
  ((Request.importServer (.single (.ok { name := "a" })) none).handle emptyWorld).2

/-- The imported server is made the member of the default group while the core is stopped. -/
theorem Api.resolves_of_imported :
    ((Request.putOutboundConnections "proxy" [{ id := 1, type := "server" }]).handle
      importedWorld).2.store.Resolves ⟨.server, 1, 0, "proxy"⟩ := by
  have himported : (Api.system SOCKS).ReachableWhen (fun w request => request.Safe w)
      importedWorld :=
    .step (a := .importServer (.single (.ok { name := "a" })) none)
      (.init (show emptyWorld.store = {} from rfl)) trivial rfl
  refine Api.resolves_of_reachableWhen (.step himported ?_ rfl) "proxy" (by decide) _ (by decide)
  intro _ _ refs hrefs r hr
  obtain rfl : [⟨.server, 1, 0, "proxy"⟩] = refs := Except.ok.inj hrefs
  revert r
  decide

/-- Each of the conditions is needed: with the core stopped a replacement stores a reference to
a server that does not exist; touches whose `Sub` fields contradict their ordinals leave a
reference behind the last subscription; and a group takes over a reference that was stored
under its name before the server was deleted. -/
theorem Api.exists_reachable_not_resolves :
    (∃ w, (Api.system SOCKS).Reachable w ∧ ¬∀ r ∈ w.store.members "proxy", w.store.Resolves r) ∧
    (∃ w, (Api.system SOCKS).Reachable w ∧ ¬∀ r ∈ w.store.members "proxy", w.store.Resolves r) ∧
    ∃ w, (Api.system SOCKS).Reachable w ∧ "x" ∈ w.store.getOutbounds ∧
      ¬∀ r ∈ w.store.members "x", w.store.Resolves r := by
  have hstart : (Api.system SOCKS).Reachable emptyWorld := .init rfl
  refine ⟨⟨_, hstart.run [.putOutboundConnections "proxy" [{ id := 5, type := "server" }]] rfl,
    by decide⟩, ⟨_, hstart.run [.importSubscription "a" "now" (.ok ([{ name := "a" }], "")),
      .importSubscription "b" "now" (.ok ([{ name := "b" }], "")),
      .importSubscription "c" "now" (.ok ([{ name := "c" }], "")),
      .connect (some ⟨.subscriptionServer, 1, 2, "proxy"⟩) none,
      .deleteWhich .inOrder [⟨⟨.subscription, 1, 5, ""⟩, "", "", false⟩,
        ⟨⟨.subscription, 3, 0, ""⟩, "", "", false⟩]] rfl, by decide⟩,
    ⟨_, hstart.run [.importServer (.single (.ok { name := "a" })) none,
      .connect (some ⟨.server, 1, 0, "x"⟩) none,
      .deleteWhich .inOrder [⟨⟨.server, 1, 0, ""⟩, "", "", false⟩], .postOutbound "x"] rfl,
      by decide, by decide⟩⟩

end V2rayA
