import V2rayA.Service.Import
import V2rayA.Service.SubscriptionRollback

/-!
# Editing a node

`ImportServer` replaces a node when it is called with a reference, and then updates the core for each
connected reference with the type and the ordinal of that node.

* `EditsOnly.of_modifyServer`: only the node is changed in the store.
* `edit_undisturbed_iff`: when the core is not disturbed, whatever its updates do.
-/

namespace V2rayA

variable {ν : Type} [ServerObj ν]

/-- The store `s'` is `s` with another node at `which`. -/
def EditsOnly (which : NodeRef) (obj : ν) (s s' : Store ν) : Prop :=
  match which.type with
  | .server => s' = { s with servers := s.servers.set (which.id - 1).toNat { serverObj := obj } }
  | .subscriptionServer => ∃ sub, s.getSubscription which.sub = some sub ∧
    s' = { s with
      subscriptions := s.subscriptions.set which.sub.toNat
        { sub with servers := sub.servers.set (which.id - 1).toNat { serverObj := obj } } }
  | _ => False

/-- Two references are to the same node. -/
def NodeRef.SameNode (r r' : NodeRef) : Prop :=
  r.type = r'.type ∧ r.id = r'.id ∧ (r.type = .subscriptionServer → r.sub = r'.sub)

/-- An edit changes the node, or nothing if it fails. It does not start a core, and reloads one at
most once, if the node is connected. -/
structure Undisturbed (which : NodeRef) (obj : ν) (w : World ν) (result : Option Go.Error × World ν) :
    Prop where
  store : EditsOnly which obj w.store result.2.store ∨ result.1.isSome ∧ result.2.store = w.store
  stopped : w.running = false → result.2.running = false
  once : w.running = true → result.2.updates ≤ w.updates + 1
  member : w.running = true → result.2.updates ≠ w.updates →
    ∃ cs ∈ w.store.getConnectedServers, which.SameNode cs

/-- The connected references that the core is updated for. -/
def editHits (which : NodeRef) (s : Store ν) : List NodeRef :=
  s.getConnectedServers.filter fun cs => which.type = cs.type ∧ which.id = cs.id

/-- A start of the core is reached for a store. -/
def Starts (w : World ν) (s : Store ν) : Prop :=
  ∃ infos, getConnectedServerObjs w.nodeFingerprint s = .ok infos ∧
    (infos ≠ [] ∨ s.hasFailClosedGroup = true)

/-- No connected reference has the type and the ordinal of the node. Otherwise, if a core runs, one
of them is to the node, and it is the only one or the update fails before the core is touched; and if
no core runs, no start is reached. -/
def EditQuiet (which : NodeRef) (obj : ν) (w : World ν) : Prop :=
  ∀ s, modifyServer which obj w.store = .ok s → editHits which w.store = [] ∨
    if w.running then
      (∃ cs ∈ w.store.getConnectedServers, which.SameNode cs) ∧
        ((editHits which w.store).length ≤ 1 ∨
          ∃ e, getConnectedServerObjs w.nodeFingerprint s = .error e)
    else ¬Starts w s

section Edit

variable {which : NodeRef} {obj : ν} {w : World ν} {s s' : Store ν}

omit [ServerObj ν] in
/-- An edit that succeeds changes the node and nothing else. -/
lemma EditsOnly.of_modifyServer (hrows : s.RowsStored) (h : modifyServer which obj s = .ok s') :
    EditsOnly which obj s s' := by
  unfold modifyServer at h
  dsimp only at h
  split at h
  · next htype =>
    rw [EditsOnly, htype]
    split_ifs at h with hrange
    rw [Store.setServer] at h
    split_ifs at h
    exact (Except.ok.inj h).symm
  · next htype =>
    rw [EditsOnly, htype]
    split at h
    · cases h
    · next sub hsub =>
      split_ifs at hsub with hind
      split_ifs at h with hlen
      rw [Store.setSubscription, hsub] at h
      refine ⟨sub, hsub, ?_⟩
      have hmem : sub ∈ s.subscriptions := by
        rw [Store.getSubscription] at hsub
        split_ifs at hsub
        exact List.mem_of_getElem? hsub
      obtain ⟨hmode, hinterval⟩ := hrows sub hmem
      rw [← Except.ok.inj h, Store.subscriptionRow]
      simp [hmode, hinterval]
  · cases h

omit [ServerObj ν] in
lemma EditsOnly.getConnectedServers_eq (h : EditsOnly which obj s s') :
    s'.getConnectedServers = s.getConnectedServers := by
  unfold EditsOnly at h
  split at h
  · rw [h]; rfl
  · obtain ⟨sub, -, rfl⟩ := h; rfl
  · cases h

/-! ### Updates of the core -/

lemma updateV2RayConfig_of_error {e : Go.Error}
    (h : getConnectedServerObjs w.nodeFingerprint w.store = .error e) :
    World.updateV2RayConfig w = (some e, { w with updates := w.updates + 1 }) := by
  simp [World.updateV2RayConfig, World.updateConfig, h]

lemma running_updateV2RayConfig_of_not_starts (h : ¬Starts w w.store) (hw : w.running = false) :
    (World.updateV2RayConfig w).2.running = false := by
  cases hinfos : getConnectedServerObjs w.nodeFingerprint w.store with
  | error e => rw [updateV2RayConfig_of_error hinfos]; exact hw
  | ok infos =>
    have hnil : infos.isEmpty ∧ ¬w.store.hasFailClosedGroup := by
      by_contra hno
      refine h ⟨infos, hinfos, ?_⟩
      rw [List.isEmpty_iff] at hno
      tauto
    simp [World.updateV2RayConfig, World.updateConfig, hinfos, hnil]

variable {infos : List (ServerInfo ν)}

/-- An update without an error, if all starts succeed. -/
lemma updateV2RayConfig_of_ok (h : getConnectedServerObjs w.nodeFingerprint w.store = .ok infos)
    (hout : w.outcomes = fun _ _ => ⟨none, true⟩) :
    ∃ w', World.updateV2RayConfig w = (none, w') ∧ w'.store = w.store ∧
      w'.nodeFingerprint = w.nodeFingerprint ∧ w'.outcomes = w.outcomes ∧
      w'.updates = w.updates + 1 ∧ (Starts w w.store → w'.running) := by
  by_cases hnil : infos.isEmpty ∧ ¬w.store.hasFailClosedGroup
  · refine ⟨{ w with updates := w.updates + 1, running := false }, ?_, rfl, rfl, rfl, rfl, ?_⟩
    · simp [World.updateV2RayConfig, World.updateConfig, h, hnil]
    · rintro ⟨infos', hinfos, hne⟩
      obtain rfl := Except.ok.inj (h.symm.trans hinfos)
      rw [List.isEmpty_iff] at hnil
      tauto
  · refine ⟨{ w with updates := w.updates + 1, running := true }, ?_, rfl, rfl, rfl, rfl,
      fun _ => rfl⟩
    simp only [World.updateV2RayConfig, World.updateConfig, h, if_neg hnil, hout]

variable {refs : List NodeRef}

lemma running_reloadFor_of_not_starts (h : ¬Starts w w.store) (hw : w.running = false) :
    (reloadFor refs w).2.running = false := by
  induction refs generalizing w with
  | nil => exact hw
  | cons r refs ih =>
    have hrunning := running_updateV2RayConfig_of_not_starts h hw
    have hstore := World.store_updateV2RayConfig w
    have hprint := World.nodeFingerprint_updateConfig false w
    rw [reloadFor]
    split
    · next w' hupdate =>
      rw [hupdate] at hrunning hstore
      rw [World.updateV2RayConfig] at hupdate
      rw [hupdate] at hprint
      refine ih ?_ hrunning
      rw [Starts, hprint, hstore]
      exact h
    · next e w' hupdate =>
      rw [hupdate] at hrunning
      exact hrunning

/-- The core is updated at most once for one reference, or if the update fails at once. -/
lemma updates_reloadFor_le
    (h : refs.length ≤ 1 ∨ ∃ e, getConnectedServerObjs w.nodeFingerprint w.store = .error e) :
    (reloadFor refs w).2.updates ≤ w.updates + 1 := by
  have hone : (World.updateV2RayConfig w).2.updates = w.updates + 1 :=
    World.updates_updateConfig false w
  cases refs with
  | nil => exact Nat.le_succ _
  | cons r refs =>
    rw [reloadFor]
    rcases h with hlen | ⟨e, he⟩
    · obtain rfl : refs = [] := List.eq_nil_of_length_eq_zero (by simpa using hlen)
      split
      · next w' hupdate => rw [hupdate] at hone; exact hone.le
      · next e w' hupdate => rw [hupdate] at hone; exact hone.le
    · rw [updateV2RayConfig_of_error he]

/-- If all starts succeed, a reload runs the core, and two references make two updates. -/
lemma reloadFor_of_ok {r : NodeRef}
    (h : getConnectedServerObjs w.nodeFingerprint w.store = .ok infos)
    (hout : w.outcomes = fun _ _ => ⟨none, true⟩) :
    w.updates + (refs.length + 1) = (reloadFor (r :: refs) w).2.updates ∧
      (Starts w w.store → (reloadFor (r :: refs) w).2.running) := by
  induction refs generalizing r w with
  | nil =>
    obtain ⟨w', hupdate, -, -, -, hone, hrunning⟩ := updateV2RayConfig_of_ok h hout
    rw [reloadFor, hupdate]
    exact ⟨hone.symm, hrunning⟩
  | cons r' refs ih =>
    obtain ⟨w', hupdate, hstore, hprint, hout', hone, -⟩ := updateV2RayConfig_of_ok h hout
    have hinfos : getConnectedServerObjs w'.nodeFingerprint w'.store = .ok infos := by
      rw [hprint, hstore, h]
    obtain ⟨hupdates, hrunning⟩ := ih (r := r') hinfos (hout'.trans hout)
    rw [Starts, hprint, hstore] at hrunning
    rw [reloadFor, hupdate]
    refine ⟨?_, hrunning⟩
    rw [← hupdates, hone, List.length_cons]
    omega

/-! ### The edit -/

lemma importServer_of_error {e : Go.Error} (hid : 0 < which.id)
    (h : modifyServer which obj w.store = .error e) :
    importServer (.single (.ok obj)) (some which) w = (some e, w) := by
  have hfilter : (some which).filter (fun which => decide (which.id > 0)) = some which := by
    simp [hid]
  simp [importServer, hfilter, h]

lemma importServer_of_ok (hid : 0 < which.id) (hrows : w.store.RowsStored)
    (h : modifyServer which obj w.store = .ok s) :
    importServer (.single (.ok obj)) (some which) w =
      reloadFor (editHits which w.store) { w with store := s } := by
  have hfilter : (some which).filter (fun which => decide (which.id > 0)) = some which := by
    simp [hid]
  have hconnected := (EditsOnly.of_modifyServer hrows h).getConnectedServers_eq
  simp [importServer, hfilter, h, editHits, hconnected]

/-- An edit leaves the core undisturbed, whatever the updates of the core do, if and only if it is
quiet. -/
theorem edit_undisturbed_iff (w : World ν) (which : NodeRef) (obj : ν) (hid : 0 < which.id)
    (hrows : w.store.RowsStored) :
    (∀ outcomes, Undisturbed which obj { w with outcomes }
      (importServer (.single (.ok obj)) (some which) { w with outcomes })) ↔
        EditQuiet which obj w := by
  cases hedit : modifyServer which obj w.store with
  | error e =>
    refine iff_of_true (fun outcomes => ?_) fun s hs => by rw [hedit] at hs; cases hs
    rw [importServer_of_error (w := { w with outcomes }) hid hedit]
    exact ⟨.inr ⟨rfl, rfl⟩, id, fun _ => Nat.le_succ _, fun _ h => absurd rfl h⟩
  | ok s =>
    have honly := EditsOnly.of_modifyServer hrows hedit
    have hrun (outcomes : ℕ → Bool → CoreOutcome) :
        importServer (.single (.ok obj)) (some which) { w with outcomes } =
          reloadFor (editHits which w.store) { w with outcomes, store := s } :=
      importServer_of_ok (w := { w with outcomes }) hid hrows hedit
    have hquiet : EditQuiet which obj w ↔ editHits which w.store = [] ∨
        if w.running then
          (∃ cs ∈ w.store.getConnectedServers, which.SameNode cs) ∧
            ((editHits which w.store).length ≤ 1 ∨
              ∃ e, getConnectedServerObjs w.nodeFingerprint s = .error e)
        else ¬Starts w s :=
      ⟨fun h => h s hedit, fun h s' hs' => by rwa [hedit.symm.trans hs' |> Except.ok.inj] at h⟩
    rw [hquiet]
    constructor
    · intro h
      have hsuccess := h fun _ _ => ⟨none, true⟩
      rw [hrun] at hsuccess
      cases hhits : editHits which w.store with
      | nil => exact .inl rfl
      | cons r refs =>
        refine .inr ?_
        rw [hhits] at hsuccess
        set w₁ : World ν := { w with outcomes := fun _ _ => ⟨none, true⟩, store := s }
        cases hinfos : getConnectedServerObjs w.nodeFingerprint s with
        | error e =>
          have hupdates : (reloadFor (r :: refs) w₁).2.updates = w.updates + 1 := by
            rw [reloadFor, updateV2RayConfig_of_error (w := w₁) hinfos]
          split_ifs with hrunning
          · exact ⟨hsuccess.member hrunning (by rw [hupdates]; exact Nat.succ_ne_self _),
              .inr ⟨e, rfl⟩⟩
          · rintro ⟨infos, hok, -⟩
            rw [hinfos] at hok
            cases hok
        | ok infos =>
          obtain ⟨hupdates, hstart⟩ :
              w.updates + (refs.length + 1) = (reloadFor (r :: refs) w₁).2.updates ∧
                (Starts w s → (reloadFor (r :: refs) w₁).2.running = true) :=
            reloadFor_of_ok (w := w₁) hinfos rfl
          split_ifs with hrunning
          · have hone := hsuccess.once hrunning
            rw [← hupdates] at hone
            have hmember := hsuccess.member hrunning
            rw [← hupdates] at hmember
            have hle : w.updates + (refs.length + 1) ≤ w.updates + 1 := hone
            refine ⟨hmember (by change w.updates + (refs.length + 1) ≠ w.updates; omega), .inl ?_⟩
            rw [List.length_cons]
            omega
          · intro hstarts
            have hstopped := hsuccess.stopped (Bool.eq_false_iff.mpr hrunning)
            rw [hstart hstarts] at hstopped
            cases hstopped
    · intro h outcomes
      rw [hrun]
      refine ⟨.inl (by rw [store_reloadFor]; exact honly), fun hstopped => ?_, fun hrunning => ?_,
        fun hrunning hne => ?_⟩
      · rcases h with hnil | h
        · rw [hnil]; exact hstopped
        · rw [if_neg (by rw [show w.running = false from hstopped]; exact Bool.false_ne_true)] at h
          exact running_reloadFor_of_not_starts (w := { w with outcomes, store := s }) h hstopped
      · rcases h with hnil | h
        · rw [hnil]; exact Nat.le_succ _
        · rw [if_pos hrunning] at h
          exact updates_reloadFor_le (w := { w with outcomes, store := s }) h.2
      · rcases h with hnil | h
        · rw [hnil] at hne; exact absurd rfl hne
        · rw [if_pos hrunning] at h
          exact h.1

end Edit

/-- Two servers, the first one in the group `proxy`. -/
def twoServers (running : Bool) : World SOCKS where
  store :=
    { servers := [⟨{ name := "a", server := "a" }, ""⟩, ⟨{ name := "b", server := "b" }, ""⟩]
      connectedServers := fun outbound =>
        if outbound = "proxy" then some [⟨.server, 1, 0, "proxy"⟩] else none }
  running

/-- The second server is edited while the core runs with the first. -/
theorem edit_undisturbed_twoServers :
    Undisturbed ⟨.server, 2, 0, ""⟩ { name := "c", server := "c" } (twoServers true)
      (importServer (.single (.ok { name := "c", server := "c" })) (some ⟨.server, 2, 0, ""⟩)
        (twoServers true)) := by
  have hquiet : EditQuiet ⟨.server, 2, 0, ""⟩ { name := "c", server := "c" } (twoServers true) :=
    fun s _ => .inl (by decide)
  exact (edit_undisturbed_iff (twoServers true) ⟨.server, 2, 0, ""⟩ { name := "c", server := "c" }
    (by decide) (by unfold Store.RowsStored; decide)).mpr hquiet fun _ _ => ⟨none, true⟩

/-- The first server is edited while no core runs: afterwards one does. -/
theorem edit_starts_core :
    (twoServers false).running = false ∧
      (importServer (.single (.ok { name := "c", server := "c" })) (some ⟨.server, 1, 0, ""⟩)
        (twoServers false)).2.running = true := by
  decide

end V2rayA
