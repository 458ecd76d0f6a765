import V2rayA.Kernel.Selection

/-!
# The store and the core

The operations of the API change the store and then have the core apply it. What the core
does with a configuration is outside the store: a start may succeed or fail, and a failed
one may leave a core running or none. A `World` carries the outcomes of all updates to come,
so that a statement about every `World` covers every behaviour of the core.
-/

namespace V2rayA

/-- What an update of the core does. -/
structure CoreOutcome where
  /-- The error of the update; `none` when the core has started. -/
  error : Option Go.Error
  /-- After an error: whether a core is running. -/
  running : Bool

/-- The state that the operations of the API work on. -/
structure World (ν : Type) where
  store : Store ν
  /-- `ProcessManager.Running()`. -/
  running : Bool := false
  /-- The number of updates of the core so far. -/
  updates : ℕ := 0
  /-- What an update does, by its number and by whether interception is preserved. -/
  outcomes : ℕ → Bool → CoreOutcome := fun _ _ => ⟨none, true⟩
  /-- `NodeFingerprint`, the SHA-256 digest of a share link. -/
  nodeFingerprint : String → String := id

namespace World

variable {ν : Type} [ServerObj ν]

/-- Generate the configuration from the store and have the core run it. Without a connected
server the core is stopped, unless an empty group needs it. -/
def updateConfig (preserveInterception : Bool) : Go.Op (World ν) := fun w =>
  let w := { w with updates := w.updates + 1 }
  match getConnectedServerObjs w.nodeFingerprint w.store with
  | .error e => (some e, w)
  | .ok serverInfos =>
    if serverInfos.isEmpty ∧ ¬w.store.hasFailClosedGroup then (none, { w with running := false })
    else
      let outcome := w.outcomes w.updates preserveInterception
      match outcome.error with
      | none => (none, { w with running := true })
      | some e => (some e, { w with running := outcome.running })

/-- `UpdateV2RayConfig`. -/
def updateV2RayConfig : Go.Op (World ν) := updateConfig false

/-- `UpdateGroupConfig`, which keeps packet interception in place. -/
def updateGroupConfig : Go.Op (World ν) := updateConfig true

/-- An update of the core leaves the store as it is, and is counted. -/
lemma updateConfig_frame (preserveInterception : Bool) (w : World ν) :
    let w' := (updateConfig preserveInterception w).2
    w'.store = w.store ∧ w'.nodeFingerprint = w.nodeFingerprint ∧ w'.updates = w.updates + 1 := by
  unfold updateConfig
  dsimp only
  split
  · exact ⟨rfl, rfl, rfl⟩
  · split_ifs
    · exact ⟨rfl, rfl, rfl⟩
    · split <;> exact ⟨rfl, rfl, rfl⟩

@[simp]
lemma store_updateConfig (preserveInterception : Bool) (w : World ν) :
    (updateConfig preserveInterception w).2.store = w.store :=
  (updateConfig_frame preserveInterception w).1

lemma store_of_updateConfig {preserveInterception : Bool} {w w' : World ν} {err : Option Go.Error}
    (h : updateConfig preserveInterception w = (err, w')) : w'.store = w.store := by
  rw [← store_updateConfig preserveInterception w, h]

@[simp]
lemma nodeFingerprint_updateConfig (preserveInterception : Bool) (w : World ν) :
    (updateConfig preserveInterception w).2.nodeFingerprint = w.nodeFingerprint :=
  (updateConfig_frame preserveInterception w).2.1

@[simp]
lemma updates_updateConfig (preserveInterception : Bool) (w : World ν) :
    (updateConfig preserveInterception w).2.updates = w.updates + 1 :=
  (updateConfig_frame preserveInterception w).2.2

@[simp]
lemma store_updateV2RayConfig (w : World ν) : (updateV2RayConfig w).2.store = w.store :=
  store_updateConfig false w

@[simp]
lemma store_updateGroupConfig (w : World ν) : (updateGroupConfig w).2.store = w.store :=
  store_updateConfig true w

@[simp]
lemma nodeFingerprint_updateGroupConfig (w : World ν) :
    (updateGroupConfig w).2.nodeFingerprint = w.nodeFingerprint :=
  nodeFingerprint_updateConfig true w

/-- An update that fails leaves the core alone, or leaves it as the failed start did. -/
lemma updateConfig_error {preserveInterception : Bool} {w w' : World ν} {e : Go.Error}
    (h : updateConfig preserveInterception w = (some e, w')) :
    ((∃ e', getConnectedServerObjs w.nodeFingerprint w.store = .error e') ∧
      w'.running = w.running) ∨
    ((∃ serverInfos, getConnectedServerObjs w.nodeFingerprint w.store = .ok serverInfos) ∧
      w'.running = (w.outcomes (w.updates + 1) preserveInterception).running) := by
  unfold updateConfig at h
  dsimp only at h
  split at h
  · rename_i e' hinfos
    obtain ⟨-, rfl⟩ := Prod.mk.inj h
    exact .inl ⟨⟨e', hinfos⟩, rfl⟩
  · rename_i serverInfos hinfos
    split at h
    · simp at h
    · split at h
      · simp at h
      · obtain ⟨-, rfl⟩ := Prod.mk.inj h
        exact .inr ⟨⟨serverInfos, hinfos⟩, rfl⟩

/-- A core is only updated when all references resolve. -/
lemma resolves_of_updateConfig (preserveInterception : Bool) (w : World ν)
    (h : (updateConfig preserveInterception w).1 = none) :
    ∀ r ∈ w.store.getConnectedServers, w.store.Resolves r := by
  intro r hr
  cases hmap : w.store.getConnectedServers.mapM (serverInfo w.store) with
  | error e => simp [updateConfig, getConnectedServerObjs, hmap] at h
  | ok infos =>
    obtain ⟨info, -, hinfo⟩ := (List.mapM_eq_ok_iff.mp hmap).exists_of_mem_left hr
    cases hloc : w.store.locate r with
    | error e => simp [serverInfo, hloc] at hinfo
    | ok sr => exact w.store.resolves_iff_locate.mpr ⟨sr, hloc⟩

end World

end V2rayA
