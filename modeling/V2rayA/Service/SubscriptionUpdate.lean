import V2rayA.Kernel.Socks
import V2rayA.Service.Subscription

/-!
# References across the update of a subscription

What a successful `storeSubscriptionUpdate` leaves in the store.

* `StoredUpdate`: the store after the update in terms of `Update.follow` and
  `Update.newServers`, for references of any kind (`storeSubscriptionUpdate_stored`).
* `storeSubscriptionUpdate_consistent`: references keep their meaning. Every reference
  resolves, an old node whose share link was fetched again is found by it, the nodes kept in
  addition to the fetched ones are those that members of manual groups still need, and a
  running core is reloaded exactly when something changed for a reference.
-/

namespace V2rayA

open List Option Store

variable {ν : Type} [ServerObj ν]

/-! ### The store after an update -/

namespace Update

variable (u : Update ν)

/-- The old node with the ordinal `id` has a counterpart among the new nodes: one has its
share link, or it falls back to one to which no other referenced node falls back. -/
def Matches (id : ℤ) : Prop :=
  ∃ raw, u.oldAt id = some raw ∧
    ((∃ node ∈ u.nodes, exportToURL node = exportToURL raw.serverObj) ∨
      ∃ i, FallsBackTo raw.serverObj u.nodes i ∧
        ∀ ref ∈ u.previousRefs, u.Of ref → ref.id ≠ id →
          ∀ raw', u.oldAt ref.id = some raw' → ¬FallsBackTo raw'.serverObj u.nodes i)

lemma searchAt_of_oldAt {id : ℤ} {raw : ServerRaw ν} (h : u.oldAt id = some raw) :
    u.searchAt id = remapSubscriptionNodeDetailed raw.serverObj u.nodes := by
  rw [searchAt, h]

/-- An old node is mapped to a new one exactly when it has a counterpart. -/
lemma newID_ne_zero_iff (hvalid : u.Valid) {id : ℤ} {raw : ServerRaw ν}
    (hraw : u.oldAt id = some raw) : u.newID id ≠ 0 ↔ u.Matches id := by
  have hsearch := u.searchAt_of_oldAt hraw
  simp only [Matches, hraw, some.injEq, exists_eq_left']
  rcases remapSubscriptionNodeDetailed_cases raw.serverObj u.nodes with
    ⟨i, node, hget, hurl, hres⟩ | ⟨i, hi, hres⟩ | ⟨hurl, hnone, hres⟩
  · -- The share link is found.
    rw [hres] at hsearch
    refine iff_of_true ?_ (.inl ⟨node, mem_of_getElem? hget, hurl⟩)
    simp only [newID, hsearch, Bool.true_eq_false, false_and, if_false]
    omega
  · -- The search falls back, and this counts unless another ordinal falls back as well.
    rw [hres] at hsearch
    have hpos : ((i : ℤ) + 1) ≠ 0 := by omega
    simp only [newID, hsearch, true_and]
    constructor
    · intro hne
      have hshared := fun h => hne (if_pos h)
      refine .inr ⟨i, hi, fun ref href hof hid raw' hraw' hfalls => ?_⟩
      refine hshared ⟨ref.id, ?_, hid, ?_⟩
      · exact u.mem_referenced.mpr ⟨ref, href, hof, (hvalid ref href hof).1, ⟨raw', hraw'⟩, rfl⟩
      · rw [u.searchAt_of_oldAt hraw']
        exact remapSubscriptionNodeDetailed_fallback_iff.mpr hfalls
    · rintro (⟨node, hnode, hurl⟩ | ⟨j, hj, honly⟩)
      · exact absurd hurl (hi.1 node hnode)
      · rw [if_neg]
        · exact hpos
        · rintro ⟨other, hother, hne, hsame⟩
          obtain ⟨ref, href, hof, -, ⟨raw', hraw'⟩, rfl⟩ := u.mem_referenced.mp hother
          refine honly ref href hof hne raw' hraw' ?_
          rw [hj.eq hi]
          rw [u.searchAt_of_oldAt hraw'] at hsame
          exact remapSubscriptionNodeDetailed_fallback_iff.mp hsame
  · -- Nothing is found.
    rw [hres] at hsearch
    have hzero : u.newID id = 0 := by simp [newID, hsearch]
    simp only [hzero, ne_eq, not_true_eq_false, false_iff]
    rintro (⟨node, hnode, hurl'⟩ | ⟨j, hj, -⟩)
    · exact hurl node hnode hurl'
    · exact hnone ⟨j, hj⟩

lemma follow_outbound {ids : List ℤ} {r r' : NodeRef} (h : u.follow ids r = some r') :
    r'.outbound = r.outbound := by
  unfold follow at h
  split_ifs at h <;> obtain rfl := some.inj h <;> rfl

end Update

/-- The store `s'` after the update `u` of the store `s`. -/
structure StoredUpdate (u : Update ν) (s s' : Store ν) : Prop where
  servers : s'.servers = s.servers
  /-- The subscription has the new nodes and the copies of old ones. -/
  subscription : ∃ sub, s'.getSubscription u.index = some sub ∧
    sub.servers = u.newServers (u.retained u.previousRefs)
  others : ∀ i, i ≠ u.index → s'.getSubscription i = s.getSubscription i
  outbounds : s'.getOutbounds = s.getOutbounds
  /-- Each group that some reference names has what became of these references. -/
  members : ∀ outbound, s'.members outbound =
    if ∃ w ∈ s.getConnectedServers, w.outbound = outbound
      then (s.getConnectedServers.filter (·.outbound = outbound)).filterMap
        (u.follow (u.retained u.previousRefs))
      else s.members outbound

section Stored

variable {s s' : Store ν} {index : ℤ} {old : SubscriptionRaw ν} {nodes : List ν}
  {status info : String} {disconnect : Bool} {w w' : World ν}

/-- The references that are filed after an update are what became of the old ones. -/
private lemma filter_filterMap_follow (u : Update ν) (ids : List ℤ) (refs : List NodeRef)
    (outbound : String) :
    (refs.filterMap (u.follow ids)).filter (·.outbound = outbound) =
      (refs.filter (·.outbound = outbound)).filterMap (u.follow ids) := by
  rw [filter_filterMap, filterMap_filter]
  refine filterMap_congr fun r _ => ?_
  cases hf : u.follow ids r with
  | none => simp
  | some r' =>
    have hout := u.follow_outbound hf
    by_cases h : r.outbound = outbound <;> simp [hout, h]

/-- Writing what the second loop has computed. -/
private lemma storedUpdate_of_set {sub : SubscriptionRaw ν} {st : FollowState ν}
    (hst : (Update.ofStore s index old nodes disconnect).Followed s.getConnectedServers st)
    (hsub : sub.servers = st.servers)
    (hset : s.setSubscriptionAndConnects index sub st.updated = .ok s') :
    StoredUpdate (Update.ofStore s index old nodes disconnect) s s' := by
  obtain ⟨stored, hstored, hservers, hsubs, hnames, -, hmembers⟩ :=
    setSubscriptionAndConnects_ok hset
  have hindex : 0 ≤ index ∧ index.toNat < s.subscriptions.length := by
    unfold getSubscription at hstored
    split_ifs at hstored with hnonneg
    exact ⟨hnonneg, (List.getElem?_eq_some_iff.mp hstored).1⟩
  refine ⟨hservers, ?_, ?_, ?_, fun outbound => ?_⟩
  · refine ⟨subscriptionRow stored.databaseID sub, ?_, ?_⟩
    · change s'.getSubscription index = _
      rw [getSubscription, if_pos hindex.1, hsubs, List.getElem?_set_self hindex.2]
    · exact hsub.trans hst.servers
  · intro i hi
    change i ≠ index at hi
    unfold getSubscription
    split_ifs with hnonneg
    · rw [hsubs, List.getElem?_set_ne (by omega)]
    · rfl
  · simp only [getOutbounds, hnames]
  · have hiff : (∃ w ∈ s.getConnectedServers ++ st.updated, w.outbound = outbound) ↔
        ∃ w ∈ s.getConnectedServers, w.outbound = outbound := by
      simp only [mem_append, or_and_right, exists_or]
      refine or_iff_left_of_imp ?_
      rintro ⟨r', hr', hout⟩
      rw [hst.updated] at hr'
      obtain ⟨r, hr, hfollow⟩ := List.mem_filterMap.mp hr'
      exact ⟨r, hr, by rw [← Update.follow_outbound _ hfollow, hout]⟩
    rw [hmembers, hst.updated, filter_filterMap_follow]
    simp only [← hst.updated, hiff]
    rfl

/-- What a successful update stores, and when it has the core reloaded. -/
lemma storeSubscriptionUpdate_stored
    (hrun : storeSubscriptionUpdate index old nodes status info disconnect w = (none, w')) :
    (Update.ofStore w.store index old nodes disconnect).Valid ∧
      StoredUpdate (Update.ofStore w.store index old nodes disconnect) w.store w'.store ∧
      (w'.updates = w.updates ↔ w.running = false ∨
        ¬∃ r ∈ w.store.getConnectedServers,
          (Update.ofStore w.store index old nodes disconnect).Changes
            ((Update.ofStore w.store index old nodes disconnect).retained
              w.store.getConnectedServers) r) := by
  set u := Update.ofStore w.store index old nodes disconnect with hu
  have hvalid : u.Valid := by
    cases hfollow : u.followAll with
    | error e => simp [storeSubscriptionUpdate, ← hu, hfollow] at hrun
    | ok st => exact Update.valid_of_followAll hfollow
  obtain ⟨st, hfollow, hst⟩ := Update.followAll_eq hvalid
  refine ⟨hvalid, ?_⟩
  unfold storeSubscriptionUpdate at hrun
  simp only [← hu, hfollow] at hrun
  cases hset : w.store.setSubscriptionAndConnects index
      { old with servers := st.servers, status, info } st.updated with
  | error e => simp [hset] at hrun
  | ok store =>
    simp only [hset] at hrun
    -- Whether or not the core is reloaded, this is the store that is left.
    have hfinal : w'.store = store ∧
        (w'.updates = w.updates ↔ w.running = false ∨ st.affected = false) := by
      by_cases hreload : st.affected = true ∧ w.running = true
      · rw [if_pos hreload] at hrun
        have hstore := World.store_updateV2RayConfig { w with store }
        have hcount := World.updates_updateConfig false { w with store }
        change (World.updateV2RayConfig { w with store }).2.updates = w.updates + 1 at hcount
        rcases hupd : World.updateV2RayConfig { w with store } with ⟨_ | e, w''⟩
        · simp only [hupd, Prod.mk.injEq, true_and] at hrun
          subst hrun
          rw [hupd] at hstore hcount
          refine ⟨hstore, ?_⟩
          rw [hcount]
          simp [hreload.1, hreload.2]
        · simp [hupd] at hrun
      · rw [if_neg hreload] at hrun
        obtain rfl := (Prod.mk.inj hrun).2
        refine ⟨rfl, ?_⟩
        simp
        by_cases hrunning : w.running = true
        · exact .inr (by simpa using fun h => hreload ⟨h, hrunning⟩)
        · exact .inl (by simpa using hrunning)
    obtain ⟨hstore, hupdates⟩ := hfinal
    constructor
    · rw [hstore]
      exact storedUpdate_of_set hst rfl hset
    · have haffected : st.affected = true ↔ ∃ r ∈ w.store.getConnectedServers,
          u.Changes (u.retained w.store.getConnectedServers) r := hst.affected
      rw [hupdates, ← haffected]
      simp

end Stored

/-! ### References keep their meaning -/

namespace Update

variable (u : Update ν)

/-- The reference is dropped: its node has no counterpart, and the request or the group does
not want to keep the old one. -/
def IsDropped (r : NodeRef) : Prop :=
  u.Of r ∧ ¬u.Matches r.id ∧ (u.disconnect = true ∨ u.autoAdd r.outbound = true)

/-- The node `sr` is where a reference to the subscription belongs: a node with the share link
of its old node, or the one that its old node falls back to, or the old node itself. -/
def Lands (r : NodeRef) (sr : ServerRaw ν) : Prop :=
  ∃ raw, u.oldAt r.id = some raw ∧
    ((∃ node ∈ u.nodes, exportToURL node = exportToURL raw.serverObj) →
      exportToURL sr.serverObj = exportToURL raw.serverObj) ∧
    (u.Matches r.id → ∀ i, FallsBackTo raw.serverObj u.nodes i →
      u.nodes[i]? = some sr.serverObj) ∧
    (¬u.Matches r.id → sr = raw)

/-- What becomes of a reference that is not dropped. References to servers and to other
subscriptions stay as they are. -/
def Follows (s' : Store ν) (r r' : NodeRef) : Prop :=
  (¬u.Of r → r' = r) ∧
    (u.Of r → r'.type = r.type ∧ r'.sub = r.sub ∧ r'.outbound = r.outbound ∧
      ∃ sr, s'.locate r' = .ok sr ∧ u.Lands r sr)

/-- Nothing has changed for a reference to the subscription. -/
def Keeps (s s' : Store ν) (r r' : NodeRef) : Prop :=
  u.Of r → r'.id = r.id ∧ ∃ sr sr', s.locate r = .ok sr ∧ s'.locate r' = .ok sr' ∧
    exportToURL sr'.serverObj = exportToURL sr.serverObj

lemma isDropped_iff (hvalid : u.Valid) {r : NodeRef} (hr : r ∈ u.previousRefs) :
    u.IsDropped r ↔ u.Drops r := by
  refine and_congr_right fun hof => and_congr_left fun _ => ?_
  obtain ⟨raw, hraw⟩ := isSome_iff_exists.mp (hvalid r hr hof).2
  rw [← u.newID_ne_zero_iff hvalid hraw, not_not]

/-- The new node that an old one is mapped to. -/
lemma lands_of_newID (hvalid : u.Valid) {r : NodeRef} {raw : ServerRaw ν}
    (hraw : u.oldAt r.id = some raw) (hnew : u.newID r.id ≠ 0) {node : ν}
    (hget : u.nodes[(u.newID r.id - 1).toNat]? = some node) :
    u.Lands r { serverObj := node } := by
  have hmatch := (u.newID_ne_zero_iff hvalid hraw).mp hnew
  have hsearch := u.searchAt_of_oldAt hraw
  have hid : u.newID r.id = (u.searchAt r.id).1 := by
    unfold newID at hnew ⊢
    split_ifs at hnew ⊢
    · exact absurd rfl hnew
    · rfl
  refine ⟨raw, hraw, fun hexact => ?_, fun _ i hi => ?_, fun hno => absurd hmatch hno⟩
  · rcases remapSubscriptionNodeDetailed_cases raw.serverObj u.nodes with
      ⟨j, node', hget', hurl, hres⟩ | ⟨j, hj, hres⟩ | ⟨hurl, -, -⟩
    · rw [hid, hsearch, hres] at hget
      have : node' = node := by simpa [hget'] using hget
      rw [← this, hurl]
    · obtain ⟨n, hn, hurl⟩ := hexact
      exact absurd hurl (hj.1 n hn)
    · obtain ⟨n, hn, hurl'⟩ := hexact
      exact absurd hurl' (hurl n hn)
  · rw [hid, hsearch, remapSubscriptionNodeDetailed_fallback_iff.mpr hi] at hget
    simpa using hget

end Update

section Consistent

variable {u : Update ν} {s s' : Store ν}

variable {r : NodeRef}

/-- A reference that is not to the updated subscription resolves as before. -/
lemma StoredUpdate.locate_of_not_of (h : StoredUpdate u s s') (hof : ¬u.Of r) :
    s'.locate r = s.locate r := by
  cases htype : r.type with
  | server => simp only [locate, htype, h.servers]
  | subscriptionServer =>
    have hsub := h.others r.sub fun hsub => hof ⟨htype, hsub⟩
    by_cases hneg : r.sub < 0
    · simp [locate, htype, hneg]
    · rw [getSubscription, getSubscription, if_pos (by omega), if_pos (by omega)]
        at hsub
      simp only [locate, htype, hsub]
  | subscription => simp only [locate, htype]
  | other raw => simp only [locate, htype]

/-- A reference to the updated subscription resolves to one of its new servers. -/
lemma StoredUpdate.locate_of (h : StoredUpdate u s s') (r' : NodeRef) (hof : u.Of r') {j : ℕ}
    (hid : r'.id = j + 1) {sr : ServerRaw ν} :
    s'.locate r' = .ok sr ↔ (u.newServers (u.retained u.previousRefs))[j]? = some sr := by
  obtain ⟨sub, hsub, hservers⟩ := h.subscription
  rw [← hof.2] at hsub
  rw [s'.locate_of_getSubscription hof.1 hsub hid, hservers]

lemma Update.newID_ne_zero (hof : u.Of r) (hdrop : ¬u.Drops r) (hret : ¬u.Retains r) :
    u.newID r.id ≠ 0 := by
  intro hzero
  by_cases hwant : u.disconnect = true ∨ u.autoAdd r.outbound = true
  · exact hdrop ⟨hof, hzero, hwant⟩
  · exact hret ⟨hof, hzero, hwant⟩

/-- A reference that is neither dropped nor left on its old node moves to a new one. -/
lemma StoredUpdate.locate_moved (h : StoredUpdate u s s') (hof : u.Of r) (hdrop : ¬u.Drops r)
    (hret : ¬u.Retains r) :
    u.newID r.id ≠ 0 ∧ ∃ node, u.nodes[(u.newID r.id - 1).toNat]? = some node ∧
      s'.locate { r with id := u.newID r.id } = .ok { serverObj := node } := by
  have hnew := Update.newID_ne_zero hof hdrop hret
  obtain ⟨hnewpos, hnewle⟩ := u.newID_range hnew
  obtain ⟨node, hget⟩ : ∃ node, u.nodes[(u.newID r.id - 1).toNat]? = some node :=
    ⟨_, getElem?_eq_getElem (by omega)⟩
  have hid : u.newID r.id = ((u.newID r.id - 1).toNat : ℤ) + 1 := by omega
  refine ⟨hnew, node, hget, (h.locate_of { r with id := u.newID r.id } hof hid).mpr ?_⟩
  rw [u.newServers_of_le _ hnewpos hnewle, hget]
  rfl

attribute [local simp] Update.follow

/-- Where a reference is found after the update. -/
lemma StoredUpdate.follows (h : StoredUpdate u s s') (hvalid : u.Valid) {r r' : NodeRef}
    (hr : r ∈ u.previousRefs) (hfollow : u.follow (u.retained u.previousRefs) r = some r') :
    u.Follows s' r r' := by
  refine ⟨fun hof => ?_, fun hof => ?_⟩
  · have hdrop : ¬u.Drops r := fun h => hof h.1
    have hret : ¬u.Retains r := fun h => hof h.1
    simpa [hdrop, hret, hof, eq_comm] using hfollow
  obtain ⟨hpos, hsome⟩ := hvalid r hr hof
  obtain ⟨raw, hraw⟩ := isSome_iff_exists.mp hsome
  have hdrop : ¬u.Drops r := by
    intro hdrop
    simp [hdrop] at hfollow
  by_cases hret : u.Retains r
  · -- The reference is moved to the copy of its old node.
    simp only [Update.follow, hdrop, hret, if_false, if_true, some.injEq] at hfollow
    subst hfollow
    have hmem : r.id ∈ u.retained u.previousRefs := u.mem_retained.mpr ⟨r, hr, hret, rfl⟩
    refine ⟨rfl, rfl, rfl, raw, ?_, raw, hraw, fun _ => rfl, ?_, fun _ => rfl⟩
    · have hid : (u.nodes.length + (u.retained u.previousRefs).idxOf r.id + 1 : ℤ) =
          (u.nodes.length + (u.retained u.previousRefs).idxOf r.id : ℕ) + 1 := by push_cast; rfl
      refine (h.locate_of
        { r with id := u.nodes.length + (u.retained u.previousRefs).idxOf r.id + 1 } hof hid).mpr ?_
      rw [u.newServers_of_retained (Update.oldAt_retained hvalid (List.Subset.refl _)) hmem, hraw]
    · intro hmatch
      exact absurd hret.2.1 ((u.newID_ne_zero_iff hvalid hraw).mpr hmatch)
  · -- The reference is moved to a new node.
    obtain ⟨hnew, node, hget, hlocate⟩ := h.locate_moved hof hdrop hret
    simp only [Update.follow, hdrop, hret, hof, if_false, if_true, some.injEq] at hfollow
    subst hfollow
    exact ⟨rfl, rfl, rfl, _, hlocate, u.lands_of_newID hvalid hraw hnew hget⟩

open Classical in
/-- References and nodes after an update. -/
structure UpdateConsistent (u : Update ν) (s s' : Store ν) : Prop where
  /-- Every reference resolves. -/
  resolves : ∀ outbound ∈ s'.getOutbounds, ∀ r ∈ s'.members outbound, s'.Resolves r
  /-- In each group the references without a counterpart are dropped where they are not wanted,
  and no others. -/
  members : ∀ outbound ∈ s.getOutbounds,
    List.Forall₂ (u.Follows s') ((s.members outbound).filter fun r => ¬u.IsDropped r)
      (s'.members outbound)
  /-- The nodes are the fetched ones and one copy of each old node that has no counterpart and
  is referenced from a group that wants to keep it. -/
  nodes : ∃ (ids : List ℤ) (copies : List (ServerRaw ν)) (sub : SubscriptionRaw ν),
    s'.getSubscription u.index = some sub ∧
    sub.servers = (u.nodes.map fun node => { serverObj := node }) ++ copies ∧
    List.Forall₂ (fun id raw => u.oldAt id = some raw) ids copies ∧ ids.Nodup ∧
    ∀ id, id ∈ ids ↔ u.disconnect = false ∧ ¬u.Matches id ∧
      ∃ outbound ∈ s.getOutbounds, u.autoAdd outbound = false ∧
        ∃ r ∈ s.members outbound, u.Of r ∧ r.id = id

/-- In a store whose references name their groups, every group has what became of its
members. -/
lemma StoredUpdate.members_of_tagged (h : StoredUpdate u s s') (htag : s.Tagged)
    {outbound : String} (hout : outbound ∈ s.getOutbounds) :
    s'.members outbound =
      (s.members outbound).filterMap (u.follow (u.retained u.previousRefs)) := by
  rw [h.members, htag.filter_getConnectedServers hout]
  split_ifs with hnamed
  · rfl
  · have hnil : s.members outbound = [] := by
      refine eq_nil_iff_forall_not_mem.mpr fun r hr => hnamed ⟨r, ?_, ?_⟩
      · exact s.mem_getConnectedServers.mpr ⟨outbound, hout, hr⟩
      · exact htag outbound hout r hr
    simp [hnil]

/-- The outcomes for one reference. -/
lemma Update.follow_cases (u : Update ν) (ids : List ℤ) (r : NodeRef) :
    (u.Drops r ∧ u.follow ids r = none) ∨
      (¬u.Drops r ∧ ∃ r', u.follow ids r = some r') := by
  by_cases hdrop : u.Drops r
  · exact .inl ⟨hdrop, by simp [hdrop]⟩
  · refine .inr ⟨hdrop, ?_⟩
    unfold Update.follow
    split_ifs
    · exact ⟨_, rfl⟩
    · exact ⟨_, rfl⟩
    · exact ⟨_, rfl⟩

lemma StoredUpdate.consistent (h : StoredUpdate u s s') (hrefs : u.previousRefs =
    s.getConnectedServers) (hvalid : u.Valid) (htag : s.Tagged)
    (hres : ∀ r ∈ s.getConnectedServers, s.Resolves r) : UpdateConsistent u s s' := by
  have hprev : ∀ outbound ∈ s.getOutbounds, ∀ r ∈ s.members outbound, r ∈ u.previousRefs := by
    intro outbound hout r hr
    rw [hrefs]
    exact s.mem_getConnectedServers.mpr ⟨outbound, hout, hr⟩
  constructor
  · intro outbound hout r' hr'
    rw [h.outbounds] at hout
    rw [h.members_of_tagged htag hout] at hr'
    obtain ⟨r, hr, hfollow⟩ := mem_filterMap.mp hr'
    obtain ⟨hother, hsame⟩ := h.follows hvalid (hprev outbound hout r hr) hfollow
    rw [s'.resolves_iff_locate]
    by_cases hof : u.Of r
    · obtain ⟨-, -, -, sr, hloc, -⟩ := hsame hof
      exact ⟨sr, hloc⟩
    · rw [hother hof, h.locate_of_not_of hof]
      exact s.resolves_iff_locate.mp (hres r (hrefs ▸ hprev outbound hout r hr))
  · intro outbound hout
    rw [h.members_of_tagged htag hout]
    refine forall₂_filter_filterMap (fun r hr hdrop => ?_) (fun r hr hkeep => ?_)
    · have hdrop : u.Drops r :=
        (u.isDropped_iff hvalid (hprev outbound hout r hr)).mp (by simpa using hdrop)
      simp [hdrop]
    · have hkeep : ¬u.Drops r := by
        rw [← u.isDropped_iff hvalid (hprev outbound hout r hr)]
        simpa using hkeep
      rcases u.follow_cases (u.retained u.previousRefs) r with ⟨hdrop, -⟩ | ⟨-, r', hr'⟩
      · exact absurd hdrop hkeep
      · exact ⟨r', hr', h.follows hvalid (hprev outbound hout r hr) hr'⟩
  · obtain ⟨sub, hsub, hservers⟩ := h.subscription
    have holds := Update.oldAt_retained hvalid (List.Subset.refl _)
    refine ⟨u.retained u.previousRefs, (u.retained u.previousRefs).filterMap u.oldAt, sub, hsub,
      hservers, ?_, u.nodup_retained _, fun id => ?_⟩
    · refine forall₂_filterMap_iff.mpr fun id hid => ?_
      obtain ⟨raw, hraw⟩ := isSome_iff_exists.mp (holds id hid)
      exact ⟨raw, hraw, hraw⟩
    · rw [u.mem_retained]
      constructor
      · rintro ⟨r, hr, ⟨hof, hnew, hwant⟩, rfl⟩
        obtain ⟨raw, hraw⟩ := isSome_iff_exists.mp (hvalid r hr hof).2
        rw [hrefs, s.mem_getConnectedServers] at hr
        obtain ⟨outbound, hout, hr⟩ := hr
        push Not at hwant
        refine ⟨by simpa using hwant.1, ?_, outbound, hout, ?_, r, hr, hof, rfl⟩
        · rw [← u.newID_ne_zero_iff hvalid hraw, not_not]
          exact hnew
        · have := hwant.2
          rw [htag outbound hout r hr] at this
          simpa using this
      · rintro ⟨hconn, hmatch, outbound, hout, hauto, r, hr, hof, rfl⟩
        have hmem := hprev outbound hout r hr
        obtain ⟨raw, hraw⟩ := isSome_iff_exists.mp (hvalid r hmem hof).2
        refine ⟨r, hmem, ⟨hof, ?_, ?_⟩, rfl⟩
        · rwa [← u.newID_ne_zero_iff hvalid hraw, not_not] at hmatch
        · rw [htag outbound hout r hr, hconn, hauto]
          simp

omit [ServerObj ν] in
/-- A reference to the subscription resolves, before the update, to the old node it names. -/
lemma locate_old (hold : s.getSubscription u.index = some u.old) (hof : u.Of r) (hpos : 0 < r.id)
    {raw : ServerRaw ν} (hraw : u.oldAt r.id = some raw) :
    s.locate r = .ok raw := by
  have hsub : s.getSubscription r.sub = some u.old := by rw [hof.2, hold]
  have hid : r.id = ((r.id - 1).toNat : ℤ) + 1 := by omega
  exact (s.locate_of_getSubscription hof.1 hsub hid).mpr hraw

/-- Nothing changes for a reference exactly when it is kept with its ordinal and the share
link of its node. -/
private lemma StoredUpdate.not_changes_iff (h : StoredUpdate u s s') (hvalid : u.Valid)
    (hold : s.getSubscription u.index = some u.old) (hr : r ∈ u.previousRefs) :
    ¬u.Changes (u.retained u.previousRefs) r ↔
      ∃ r', u.follow (u.retained u.previousRefs) r = some r' ∧ u.Keeps s s' r r' := by
  by_cases hof : u.Of r
  swap
  · have hret : ¬u.Retains r := fun h => hof h.1
    simp [Update.Changes, Update.Keeps, hof, hret]
  obtain ⟨hpos, hsome⟩ := hvalid r hr hof
  obtain ⟨raw, hraw⟩ := isSome_iff_exists.mp hsome
  have hloc := locate_old hold hof hpos hraw
  by_cases hdrop : u.Drops r
  · simp [Update.Changes, hdrop]
  by_cases hret : u.Retains r
  · have hnew : u.newID r.id = 0 := hret.2.1
    have hfollow : u.follow (u.retained u.previousRefs) r = some { r with
        id := u.nodes.length + (u.retained u.previousRefs).idxOf r.id + 1 } := by
      simp [hdrop, hret]
    obtain ⟨-, -, -, sr, hsr, raw', hraw', -, -, hcopy⟩ := (h.follows hvalid hr hfollow).2 hof
    obtain rfl : raw' = raw := some.inj (hraw'.symm.trans hraw)
    have hcopy := hcopy ((u.newID_ne_zero_iff hvalid hraw).not.mp (not_not.mpr hnew))
    subst hcopy
    simp [Update.Changes, Update.Keeps, hof, hret, hnew, hloc, hsr]
  · obtain ⟨hnew, node, hget, hsr⟩ := h.locate_moved hof hdrop hret
    rw [Update.Changes, hget]
    simp [Update.Keeps, hof, hret, hnew, hloc, hsr, hraw]

/-- No reference is changed exactly when every group keeps its members, each with its ordinal
and the share link of its node. -/
lemma StoredUpdate.no_changes_iff (h : StoredUpdate u s s')
    (hrefs : u.previousRefs = s.getConnectedServers) (hvalid : u.Valid) (htag : s.Tagged)
    (hold : s.getSubscription u.index = some u.old) :
    (¬∃ r ∈ s.getConnectedServers, u.Changes (u.retained u.previousRefs) r) ↔
      ∀ outbound ∈ s.getOutbounds,
        List.Forall₂ (u.Keeps s s') (s.members outbound) (s'.members outbound) := by
  have hpoint : ∀ outbound ∈ s.getOutbounds,
      (List.Forall₂ (u.Keeps s s') (s.members outbound) (s'.members outbound) ↔
        ∀ r ∈ s.members outbound, ¬u.Changes (u.retained u.previousRefs) r) := by
    intro outbound hout
    rw [h.members_of_tagged htag hout, forall₂_filterMap_iff]
    refine forall₂_congr fun r hr => (h.not_changes_iff hvalid hold ?_).symm
    rw [hrefs]
    exact s.mem_getConnectedServers.mpr ⟨outbound, hout, hr⟩
  constructor
  · intro hnone outbound hout
    rw [hpoint outbound hout]
    exact fun r hr hch => hnone ⟨r, s.mem_getConnectedServers.mpr ⟨outbound, hout, hr⟩, hch⟩
  · rintro hall ⟨r, hr, hch⟩
    obtain ⟨outbound, hout, hr⟩ := s.mem_getConnectedServers.mp hr
    exact (hpoint outbound hout).mp (hall outbound hout) r hr hch

end Consistent

/-- A successful update of a store whose references resolve and name their groups keeps the
references meaningful. A running core is left alone exactly when no reference is dropped and
every reference to the subscription keeps its ordinal and the share link of its node; a core
that is not running is not reloaded. -/
theorem storeSubscriptionUpdate_consistent {w w' : World ν} {index : ℤ}
    {old : SubscriptionRaw ν} {nodes : List ν} {status info : String} {disconnect : Bool}
    (hold : w.store.getSubscription index = some old)
    (hres : ∀ r ∈ w.store.getConnectedServers, w.store.Resolves r) (htag : w.store.Tagged)
    (hrun : storeSubscriptionUpdate index old nodes status info disconnect w = (none, w')) :
    UpdateConsistent (Update.ofStore w.store index old nodes disconnect) w.store w'.store ∧
      (w.running = true → (w'.updates = w.updates ↔
        ∀ outbound ∈ w.store.getOutbounds,
          List.Forall₂ ((Update.ofStore w.store index old nodes disconnect).Keeps w.store w'.store)
            (w.store.members outbound) (w'.store.members outbound))) ∧
      (w.running = false → w'.updates = w.updates) := by
  obtain ⟨hvalid, hstored, hreload⟩ := storeSubscriptionUpdate_stored hrun
  refine ⟨hstored.consistent rfl hvalid htag hres, fun hrunning => ?_, fun hstopped => ?_⟩
  · rw [hreload, ← hstored.no_changes_iff rfl hvalid htag hold, hrunning]
    simp only [Bool.true_eq_false, false_or]
    rfl
  · exact hreload.mpr (.inl hstopped)

/-- A subscription whose nodes have these names and hosts. -/
def namedSubscription (names : List String) : SubscriptionRaw SOCKS where
  servers := names.map fun name => { serverObj := { name, server := name } }

/-- One subscription, and the references of the default group. -/
def subscribed (running : Bool) (names : List String) (refs : List NodeRef) : World SOCKS where
  store :=
    { subscriptions := [namedSubscription names]
      connectedServers := fun outbound => if outbound = "proxy" then some refs else none }
  running := running

/-- The first of two nodes is gone; the reference to the second one follows it. -/
theorem storeSubscriptionUpdate_consistent_subscribed :
    UpdateConsistent
      (Update.ofStore (subscribed true ["a", "b"] [⟨.subscriptionServer, 2, 0, "proxy"⟩]).store 0
        (namedSubscription ["a", "b"]) [{ name := "b", server := "b" }] false)
      (subscribed true ["a", "b"] [⟨.subscriptionServer, 2, 0, "proxy"⟩]).store
      (storeSubscriptionUpdate 0 (namedSubscription ["a", "b"]) [{ name := "b", server := "b" }]
        "now" "" false
        (subscribed true ["a", "b"] [⟨.subscriptionServer, 2, 0, "proxy"⟩])).2.store := by
  have htag : (subscribed true ["a", "b"] [⟨.subscriptionServer, 2, 0, "proxy"⟩]).store.Tagged := by
    unfold Tagged
    decide
  exact (storeSubscriptionUpdate_consistent (by decide) (by decide) htag
    (Prod.ext (by decide) rfl)).1

/-- A stopped core is not reloaded although the only member is dropped; and a reference that
does not name its group stays behind and does not resolve any more. -/
theorem storeSubscriptionUpdate_not_reloaded :
    (∃ (old : SubscriptionRaw SOCKS) (nodes : List SOCKS) (w w' : World SOCKS),
      w.store.getSubscription 0 = some old ∧
      (∀ r ∈ w.store.getConnectedServers, w.store.Resolves r) ∧
      storeSubscriptionUpdate 0 old nodes "now" "" true w = (none, w') ∧
      w.store.members "proxy" = [⟨.subscriptionServer, 1, 0, "proxy"⟩] ∧
      w'.store.members "proxy" = [] ∧ w'.updates = w.updates) ∧
    ∃ (old : SubscriptionRaw SOCKS) (nodes : List SOCKS) (w w' : World SOCKS),
      w.store.getSubscription 0 = some old ∧
      (∀ r ∈ w.store.getConnectedServers, w.store.Resolves r) ∧
      storeSubscriptionUpdate 0 old nodes "now" "" true w = (none, w') ∧
      ¬∀ r ∈ w'.store.members "proxy", w'.store.Resolves r := by
  constructor
  · exact ⟨namedSubscription ["a"], [], subscribed false ["a"] [⟨.subscriptionServer, 1, 0, "proxy"⟩],
      _, by decide, by decide, Prod.ext (by decide) rfl, by decide, by decide, rfl⟩
  · exact ⟨namedSubscription ["a"], [], subscribed false ["a"] [⟨.subscriptionServer, 1, 0, ""⟩],
      _, by decide, by decide, Prod.ext (by decide) rfl, by decide⟩

end V2rayA
