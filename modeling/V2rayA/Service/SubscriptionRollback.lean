import V2rayA.Service.SubscriptionUpdate

/-!
# Updates of a subscription that fail

An update of a subscription writes the new nodes and the references that follow them in one
transaction and then has the core apply them. When the core cannot, a second write stores the old
subscription and the old references again. That write starts from the groups that the first one
has left.

* `Store.rollback_members`: the second write gives every group the members it had, also those that
  the first write has emptied.
* `sameContents_of_storeSubscriptionUpdate_error`: an update that returns an error leaves the
  catalog and the groups as they were.
-/

namespace V2rayA

open List

variable {ν : Type}

namespace Store

variable {s s' s₁ s₂ : Store ν} {index : ℤ}

/-- The two stores hold the same servers, subscriptions and groups. -/
structure SameContents (s s' : Store ν) : Prop where
  servers : s'.servers = s.servers
  subscriptions : s'.subscriptions = s.subscriptions
  members : ∀ outbound, s'.members outbound = s.members outbound
  setting : s'.outboundSetting = s.outboundSetting
  outbounds : s'.getOutbounds = s.getOutbounds

lemma SameContents.refl (s : Store ν) : SameContents s s := ⟨rfl, rfl, fun _ => rfl, rfl, rfl⟩

/-! ### Rows of the table -/

/-- Every subscription is one that the table has stored: a row has an update mode, and its failure
interval is positive. -/
def RowsStored (s : Store ν) : Prop :=
  ∀ sub ∈ s.subscriptions, sub.updateMode ≠ .other "" ∧ 1 ≤ sub.failureIntervalMinutes

/-! ### The second write -/

lemma getSubscription_set {sub row : SubscriptionRaw ν}
    (hold : s.getSubscription index = some sub)
    (hsubs : s'.subscriptions = s.subscriptions.set index.toNat row) :
    s'.getSubscription index = some row := by
  unfold getSubscription at hold ⊢
  split_ifs at hold ⊢
  rw [hsubs, List.getElem?_set_self (List.getElem?_eq_some_iff.mp hold).1]

section Rollback

variable {old next : SubscriptionRaw ν} {updated : List NodeRef}
  (hold : s.getSubscription index = some old)
  (hset : s.setSubscriptionAndConnects index next updated = .ok s₁)
  (hback : s₁.setSubscriptionAndConnects index old s.getConnectedServers = .ok s₂)

include hold hset hback

/-- The second write stores the row of the old subscription and nothing else in the catalog. -/
lemma rollback_catalog : s₂.servers = s.servers ∧
    s₂.subscriptions = s.subscriptions.set index.toNat (subscriptionRow old.databaseID old) ∧
    s₂.outboundNames = s.outboundNames ∧ s₂.outboundSetting = s.outboundSetting := by
  obtain ⟨sub₀, hsub₀, hservers₁, hsubs₁, hnames₁, hsetting₁, -⟩ :=
    setSubscriptionAndConnects_ok hset
  obtain ⟨sub₁, hsub₁, hservers₂, hsubs₂, hnames₂, hsetting₂, -⟩ :=
    setSubscriptionAndConnects_ok hback
  -- The first write has kept the key of the row.
  have hkey : sub₁.databaseID = old.databaseID := by
    have hrow := Option.some.inj (hsub₁.symm.trans (getSubscription_set hsub₀ hsubs₁))
    have hsame := Option.some.inj (hsub₀.symm.trans hold)
    rw [hrow, ← hsame]
    rfl
  rw [hsubs₁, set_set, hkey] at hsubs₂
  exact ⟨hservers₂.trans hservers₁, hsubs₂, hnames₂.trans hnames₁, hsetting₂.trans hsetting₁⟩

omit hold hback in
/-- After the first write, references name groups that they named before. -/
lemma named_of_connected (hupdated : ∀ r ∈ updated, ∃ r₀ ∈ s.getConnectedServers,
    r₀.outbound = r.outbound) {r : NodeRef} (hr : r ∈ s₁.getConnectedServers) :
    ∃ r₀ ∈ s.getConnectedServers, r₀.outbound = r.outbound := by
  obtain ⟨-, -, -, -, hnames, -, hmembers⟩ := setSubscriptionAndConnects_ok hset
  obtain ⟨group, hgroup, hr⟩ := s₁.mem_getConnectedServers.mp hr
  rw [hmembers] at hr
  split_ifs at hr
  · exact hupdated r (mem_filter.mp hr).1
  · refine ⟨r, s.mem_getConnectedServers.mpr ⟨group, ?_, hr⟩, rfl⟩
    simpa only [getOutbounds, hnames] using hgroup

omit hold in
/-- The second write gives every group the members it had. -/
lemma rollback_members (htag : s.Tagged)
    (hupdated : ∀ r ∈ updated, ∃ r₀ ∈ s.getConnectedServers, r₀.outbound = r.outbound)
    (outbound : String) : s₂.members outbound = s.members outbound := by
  obtain ⟨-, -, -, -, -, -, hmembers₁⟩ := setSubscriptionAndConnects_ok hset
  obtain ⟨-, -, -, -, -, -, hmembers₂⟩ := setSubscriptionAndConnects_ok hback
  rw [hmembers₂]
  by_cases hnamed : ∃ r ∈ s.getConnectedServers, r.outbound = outbound
  · -- The references to be restored name the group, whatever the first write has left of it.
    have hany : ∃ r ∈ s₁.getConnectedServers ++ s.getConnectedServers, r.outbound = outbound :=
      hnamed.imp fun r hr => ⟨mem_append_right _ hr.1, hr.2⟩
    rw [if_pos hany]
    refine htag.filter_getConnectedServers ?_
    obtain ⟨r, hr, rfl⟩ := hnamed
    obtain ⟨group, hgroup, hr⟩ := s.mem_getConnectedServers.mp hr
    rwa [htag group hgroup r hr]
  · -- Neither write touches the group.
    have hnone : ∀ ws : List NodeRef, (∀ r ∈ ws, ∃ r₀ ∈ s.getConnectedServers,
        r₀.outbound = r.outbound) → ¬∃ r ∈ ws, r.outbound = outbound := by
      rintro ws hws ⟨r, hr, hout⟩
      obtain ⟨r₀, hr₀, hout₀⟩ := hws r hr
      exact hnamed ⟨r₀, hr₀, hout₀.trans hout⟩
    rw [if_neg (hnone _ ?_), hmembers₁, if_neg (hnone _ ?_)]
    · exact fun r hr => (mem_append.mp hr).elim (fun hr => ⟨r, hr, rfl⟩) (hupdated r)
    · exact fun r hr => (mem_append.mp hr).elim (named_of_connected hset hupdated)
        fun hr => ⟨r, hr, rfl⟩

end Rollback

/-- `ReadModifyWrite`. A transaction that fails, by an error of `fn` or because the database cannot
execute or commit it, leaves the store as it was; `fault` is the database's error. -/
def readModifyWrite (fault : Option Go.Error) (fn : Store ν → Except Go.Error (Store ν)) :
    Go.Op (Store ν) := fun s =>
  match fn s, fault with
  | .error e, _ => (some e, s)
  | .ok _, some e => (some e, s)
  | .ok s', none => (none, s')

end Store

/-! ### Failed updates -/

variable [ServerObj ν]

/-- `storeSubscriptionUpdate` on a database that may fail: `fault` is what becomes of the first
transaction. The one that restores the old state succeeds. -/
def storeSubscriptionUpdateTx (fault : Option Go.Error) (index : ℤ) (old : SubscriptionRaw ν)
    (nodes : List ν) (status info : String) (disconnect : Bool) : Go.Op (World ν) := fun w =>
  let previous := w.store.getConnectedServers
  match (Update.ofStore w.store index old nodes disconnect).followAll with
  | .error e => (some e, w)
  | .ok st =>
    let next := { old with servers := st.servers, status, info }
    match Store.readModifyWrite fault (·.setSubscriptionAndConnects index next st.updated) w.store with
    | (some e, store) => (some e, { w with store })
    | (none, store) =>
      let w := { w with store }
      if st.affected ∧ w.running then
        match World.updateV2RayConfig w with
        | (none, w) => (none, w)
        | (some e, w) =>
          let store :=
            (Store.readModifyWrite none (·.setSubscriptionAndConnects index old previous) w.store).2
          (some (subscriptionCoreApplyError e), (World.updateV2RayConfig { w with store }).2)
      else (none, w)

/-- On a database that does not fail this is the update of `storeSubscriptionUpdate`. -/
lemma storeSubscriptionUpdateTx_none (index : ℤ) (old : SubscriptionRaw ν) (nodes : List ν)
    (status info : String) (disconnect : Bool) :
    storeSubscriptionUpdateTx none index old nodes status info disconnect =
      storeSubscriptionUpdate index old nodes status info disconnect := by
  funext w
  unfold storeSubscriptionUpdateTx storeSubscriptionUpdate Store.readModifyWrite
  cases (Update.ofStore w.store index old nodes disconnect).followAll with
  | error e => rfl
  | ok st =>
    dsimp only
    cases w.store.setSubscriptionAndConnects index
        { old with servers := st.servers, status, info } st.updated with
    | error e => rfl
    | ok store =>
      dsimp only
      rcases World.updateV2RayConfig { w with store } with ⟨_ | e, w₁⟩
      · rfl
      · dsimp only
        cases w₁.store.setSubscriptionAndConnects index old w.store.getConnectedServers <;> rfl

/-- What an update that fails has written: nothing, or the new state and then the old one. -/
lemma storeSubscriptionUpdateTx_error {fault : Option Go.Error} {index : ℤ}
    {old : SubscriptionRaw ν} {nodes : List ν} {status info : String} {disconnect : Bool}
    {w w' : World ν} {e : Go.Error}
    (hrun : storeSubscriptionUpdateTx fault index old nodes status info disconnect w =
      (some e, w')) :
    w'.store = w.store ∨
      ∃ (next : SubscriptionRaw ν) (updated : List NodeRef) (s₁ : Store ν),
        (∀ r ∈ updated, ∃ r₀ ∈ w.store.getConnectedServers, r₀.outbound = r.outbound) ∧
        w.store.setSubscriptionAndConnects index next updated = .ok s₁ ∧
        s₁.setSubscriptionAndConnects index old w.store.getConnectedServers = .ok w'.store := by
  unfold storeSubscriptionUpdateTx at hrun
  cases hfollow : (Update.ofStore w.store index old nodes disconnect).followAll with
  | error e' =>
    simp only [hfollow, Prod.mk.injEq] at hrun
    exact .inl (by rw [hrun.2])
  | ok st =>
    have hst : ∀ r ∈ st.updated, ∃ r₀ ∈ w.store.getConnectedServers, r₀.outbound = r.outbound := by
      obtain ⟨st', hfollow', hst⟩ := Update.followAll_eq (Update.valid_of_followAll hfollow)
      obtain rfl := Except.ok.inj (hfollow'.symm.trans hfollow)
      intro r hr
      rw [hst.updated] at hr
      obtain ⟨r₀, hr₀, hr⟩ := mem_filterMap.mp hr
      exact ⟨r₀, hr₀, (Update.follow_outbound _ hr).symm⟩
    simp only [hfollow, Store.readModifyWrite] at hrun
    cases hset : w.store.setSubscriptionAndConnects index
        { old with servers := st.servers, status, info } st.updated with
    | error e' =>
      simp only [hset, Prod.mk.injEq] at hrun
      exact .inl (by rw [← hrun.2])
    | ok s₁ =>
      cases fault with
      | some e' =>
        simp only [hset, Prod.mk.injEq] at hrun
        exact .inl (by rw [← hrun.2])
      | none =>
        refine .inr ⟨_, _, s₁, hst, hset, ?_⟩
        simp only [hset] at hrun
        split_ifs at hrun with hreload
        swap
        · simp at hrun
        rcases hupdate : World.updateV2RayConfig { w with store := s₁ } with ⟨_ | e', w₁⟩
        · simp [hupdate] at hrun
        have hstore : w₁.store = s₁ := World.store_of_updateConfig hupdate
        -- The subscription is still there, so that it can be written again.
        obtain ⟨sub₀, hsub₀, -, hsubs, -⟩ := Store.setSubscriptionAndConnects_ok hset
        obtain ⟨s₂, hback⟩ := Store.exists_setSubscriptionAndConnects
          (Store.getSubscription_set hsub₀ hsubs) old w.store.getConnectedServers
        simp only [hupdate, hstore, Prod.mk.injEq] at hrun
        rw [← hrun.2, World.store_updateV2RayConfig, hback]

/-- An update of a stored subscription that returns an error leaves the servers, the subscriptions
and the members of all groups as they were, whether a reference does not name a node, the database
fails, or the core does not take the new state. -/
theorem sameContents_of_storeSubscriptionUpdate_error {fault : Option Go.Error} {index : ℤ}
    {old : SubscriptionRaw ν} {nodes : List ν} {status info : String} {disconnect : Bool}
    {w w' : World ν} {e : Go.Error} (hold : w.store.getSubscription index = some old)
    (hrows : w.store.RowsStored) (htag : w.store.Tagged)
    (hrun : storeSubscriptionUpdateTx fault index old nodes status info disconnect w =
      (some e, w')) :
    w.store.SameContents w'.store := by
  rcases storeSubscriptionUpdateTx_error hrun with hsame | ⟨next, updated, s₁, hupdated, hset, hback⟩
  · rw [hsame]
    exact .refl _
  · obtain ⟨hservers, hsubs, hnames, hsetting⟩ := Store.rollback_catalog hold hset hback
    refine ⟨hservers, ?_, Store.rollback_members hset hback htag hupdated, hsetting, ?_⟩
    · have hget : w.store.subscriptions[index.toNat]? = some old := by
        unfold Store.getSubscription at hold
        split_ifs at hold
        exact hold
      obtain ⟨hmode, hfailure⟩ := hrows old (List.mem_of_getElem? hget)
      rw [hsubs, Store.subscriptionRow, if_neg hmode, max_eq_right hfailure]
      obtain ⟨hlt, rfl⟩ := List.getElem?_eq_some_iff.mp hget
      exact List.set_getElem_self hlt
    · simp only [Store.getOutbounds, hnames]

/-- A subscription of two nodes. -/
def storedSubscription : SubscriptionRaw SOCKS :=
  { namedSubscription ["a", "b"] with updateMode := .disabled, failureIntervalMinutes := 1 }

/-- The two nodes are connected to a group each, and the core does not take another
configuration. -/
def unappliedWorld : World SOCKS where
  store :=
    { subscriptions := [storedSubscription]
      outboundNames := ["backup"]
      connectedServers := fun outbound =>
        if outbound = "proxy" then some [⟨.subscriptionServer, 1, 0, "proxy"⟩]
        else if outbound = "backup" then some [⟨.subscriptionServer, 2, 0, "backup"⟩]
        else none }
  running := true
  outcomes := fun _ _ => ⟨some { text := "v2raya_core exited right after starting" }, false⟩

/-- The second node is gone, so that its group is empty until the old state is stored again. -/
theorem sameContents_unappliedWorld :
    (storeSubscriptionUpdateTx none 0 storedSubscription [{ name := "a", server := "a" }] "now" ""
      true unappliedWorld).1 =
        some { text := "subscription stored, but the core could not apply it: " ++
          "v2raya_core exited right after starting" } ∧
      unappliedWorld.store.SameContents
        (storeSubscriptionUpdateTx none 0 storedSubscription [{ name := "a", server := "a" }] "now"
          "" true unappliedWorld).2.store := by
  have herror : (storeSubscriptionUpdateTx none 0 storedSubscription
      [{ name := "a", server := "a" }] "now" "" true unappliedWorld).1 =
    some { text := "subscription stored, but the core could not apply it: " ++
      "v2raya_core exited right after starting" } := by decide
  have htag : unappliedWorld.store.Tagged := by
    unfold Store.Tagged
    decide
  have hrows : unappliedWorld.store.RowsStored := by
    unfold Store.RowsStored
    decide
  exact ⟨herror, sameContents_of_storeSubscriptionUpdate_error (by decide) hrows htag
    (Prod.ext herror rfl)⟩

end V2rayA
