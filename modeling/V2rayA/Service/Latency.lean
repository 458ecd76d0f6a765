import V2rayA.Kernel.Socks
import V2rayA.Service.Automation

/-!
# The latency test over HTTP

`TestHttpLatency` replaces the running core by one with an inbound for each node, and restores the
core afterwards if one was running and a reference is connected. A group that is fail-closed keeps
the core running without any reference.

* `preservesRunState_iff`: when the test leaves the core as it should be, whatever the outcomes of
  its steps are.
* `stops_failClosed`: the core of a fail-closed group is stopped.
-/

namespace V2rayA

variable {ν : Type} [ServerObj ν]

/-- What a core was started with: the template for the connected references, or one that a latency
test has made. -/
inductive CoreTemplate (ν : Type)
  | connected (infos : List (ServerInfo ν))
  | latencyTest

/-- What `ProcessManager.Start` does. It can fail before or after it stops the core that runs. -/
inductive StartOutcome
  | started
  | refused (e : Go.Error)
  | failed (e : Go.Error)

/-- The store and the process manager. -/
structure LatencyState (ν : Type) where
  store : Store ν
  nodeFingerprint : String → String := id
  /-- The core that runs. -/
  core : Option (CoreTemplate ν) := none
  testing : Bool := false

/-- What a test meets. -/
structure LatencyEnv where
  parseURL : String → Option ParsedURL := fun _ => none
  /-- Ports for a node are found within three seconds. -/
  freePort : ℕ → Bool := fun _ => true
  /-- The error of `InsertMappingOutbound` for a node. -/
  mapping : ℕ → Option Go.Error := fun _ => none
  startTest : StartOutcome := .started
  /-- The result of `httpLatency` for a node. -/
  measured : ℕ → String := fun _ => ""
  /-- The error of generating the template for the connected references. -/
  template : Option Go.Error := none
  restart : StartOutcome := .started
  /-- The error of `SaveLatencies`. -/
  save : Option Go.Error := none

/-- Where a test has failed. -/
inductive LatencyStage
  | url
  | place
  | start
  | update
  | save
  deriving DecidableEq, Repr

/-- What `TestHttpLatency` returns, and the state that it leaves. -/
structure LatencyResult (ν : Type) where
  which : List Which := []
  error : Option (LatencyStage × Go.Error) := none
  state : LatencyState ν

/-- The check of a custom test URL. -/
def checkTestURL (env : LatencyEnv) (customTestUrl : String) : Option Go.Error :=
  let invalid : Go.Error :=
    { text := "test URL " ++ Go.quote customTestUrl ++ " must be an HTTP or HTTPS URL with a host"
      code := "INVALID_TEST_URL"
      params := [("testUrl", .text customTestUrl)] }
  if customTestUrl = "" then none
  else
    match env.parseURL customTestUrl with
    | none => some invalid
    | some url =>
      if (url.scheme ≠ "http" ∧ url.scheme ≠ "https") ∨ url.host = "" then some invalid else none

/-- The references that are tested. -/
def testedNodes (which : List Which) : List Which := which.filter fun w => w.type ≠ .subscription

/-- Find ports for a node, and add an inbound for it to the template. -/
def placeNode (env : LatencyEnv) (p : Which × ℕ) : Except Go.Error Which :=
  if p.1.latency ≠ "" then .ok p.1
  else if !env.freePort p.2 then
    .error { text := "could not find a free local port for the latency test within 3 s" }
  else
    match env.mapping p.2 with
    | none => .ok p.1
    | some e =>
      if Go.contains e.text "unsupported" then .ok { p.1 with latency := "UNSUPPORTED PROTOCOL" }
      else .error e

namespace LatencyState

variable (s : LatencyState ν)

/-- `ProcessManager.Start`. -/
def start (tmpl : CoreTemplate ν) : StartOutcome → Option Go.Error × LatencyState ν
  | .started => (none, { s with core := some tmpl })
  | .refused e => (some e, s)
  | .failed e => (some e, { s with core := none })

/-- `UpdateV2RayConfig`. -/
def updateV2RayConfig (env : LatencyEnv) : Option Go.Error × LatencyState ν :=
  match getConnectedServerObjs s.nodeFingerprint s.store with
  | .error e => (some e, s)
  | .ok infos =>
    if infos.isEmpty ∧ ¬s.store.hasFailClosedGroup then (none, { s with core := none })
    else
      match env.template with
      | some e => (some e, s)
      | none => s.start (.connected infos) env.restart

/-- The references with the errors of those that are not found. -/
def located (which : List Which) : List Which :=
  which.map fun w =>
    match s.store.locate w.toNodeRef with
    | .ok _ => { w with latency := "" }
    | .error e => { w with latency := e.text }

/-- The results of a test. -/
def results (env : LatencyEnv) (which : List Which) : List Which :=
  which.zipIdx.map fun p =>
    if p.1.latency ≠ "" then p.1 else { p.1 with latency := env.measured p.2 }

/-- The core is updated if one ran before and a reference is connected, and is otherwise as `other`
leaves it. -/
def restore (env : LatencyEnv) (running : Bool) (other : LatencyState ν) :
    Option Go.Error × LatencyState ν :=
  if running ∧ s.store.getConnectedServers ≠ [] then s.updateV2RayConfig env else (none, other)

/-- The end of a test whose core was started. `running` says whether a core ran before. -/
def finish (env : LatencyEnv) (running : Bool) (which : List Which) : LatencyResult ν :=
  let s := { s with testing := false }
  match s.restore env running { s with core := none } with
  | (some e, s) =>
    ⟨which, some (.update, { e with text := "cannot restart v2ray-core: " ++ e.text }), s⟩
  | (none, s) =>
    match env.save with
    | some e =>
      ⟨[], some (.save, { text := "failed to save the latency test result: " ++ e.text }), s⟩
    | none => ⟨which, none, s⟩

/-- The end of a test whose core could not be started. -/
def startFailed (env : LatencyEnv) (running : Bool) (e : Go.Error) : LatencyResult ν :=
  let s := { s with testing := false }
  match s.restore env running s with
  | (some restoreErr, s) =>
    ⟨[], some (.start, { restoreErr with
      text := e.text ++ "; cannot restart v2ray-core: " ++ restoreErr.text }), s⟩
  | (none, s) => ⟨[], some (.start, e), s⟩

/-- `TestHttpLatency`. -/
def testHttpLatency (env : LatencyEnv) (customTestUrl : String) (which : List Which) :
    LatencyResult ν :=
  match checkTestURL env customTestUrl with
  | some e => ⟨[], some (.url, e), s⟩
  | none =>
    let which := testedNodes which
    if which = [] then ⟨which, none, s⟩
    else
      let running := s.core.isSome
      match (s.located which).zipIdx.mapM (placeNode env) with
      | .error e => ⟨[], some (.place, e), s⟩
      | .ok which =>
        match { s with testing := true }.start .latencyTest env.startTest with
        | (some e, s) => s.startFailed env running e
        | (none, s) => s.finish env running (results env which)

/-- The core after a test is as it was before: with the template for the connected references if the
test and the update at its end do not fail, or stopped. -/
structure PreservesRunState (result : LatencyResult ν) : Prop where
  restored : s.core.isSome → (result.error = none ∨ ∃ e, result.error = some (.save, e)) →
    ∃ infos, getConnectedServerObjs s.nodeFingerprint s.store = .ok infos ∧
      result.state.core = some (.connected infos)
  stopped : s.core = none → result.state.core = none
  testing : result.state.testing = false

/-- A core that runs has the template for the connected references, if there is nothing to test.
Otherwise a reference is connected, and there is such a template. -/
def Restorable (which : List Which) : Prop :=
  s.core.isSome →
    if testedNodes which = [] then
      ∃ infos, getConnectedServerObjs s.nodeFingerprint s.store = .ok infos ∧
        s.core = some (.connected infos)
    else
      s.store.getConnectedServers ≠ [] ∧
        ∀ infos, getConnectedServerObjs s.nodeFingerprint s.store = .ok infos →
          infos ≠ [] ∨ s.store.hasFailClosedGroup = true

section Restored

variable {s} {env : LatencyEnv} {which : List Which} {customTestUrl : String}

omit [ServerObj ν] in
lemma testing_start {tmpl : CoreTemplate ν} {outcome : StartOutcome} :
    (s.start tmpl outcome).2.testing = s.testing := by
  cases outcome <;> rfl

lemma testing_updateV2RayConfig : (s.updateV2RayConfig env).2.testing = s.testing := by
  unfold updateV2RayConfig
  split
  · rfl
  · split_ifs
    · rfl
    · split
      · rfl
      · exact testing_start

/-- An update that does not fail starts the core with the template, if there is one. -/
lemma core_updateV2RayConfig (h : (s.updateV2RayConfig env).1 = none)
    (hs : ∀ infos, getConnectedServerObjs s.nodeFingerprint s.store = .ok infos →
      infos ≠ [] ∨ s.store.hasFailClosedGroup) :
    ∃ infos, getConnectedServerObjs s.nodeFingerprint s.store = .ok infos ∧
      (s.updateV2RayConfig env).2.core = some (.connected infos) := by
  unfold updateV2RayConfig at h ⊢
  cases hinfos : getConnectedServerObjs s.nodeFingerprint s.store with
  | error e => simp [hinfos] at h
  | ok infos =>
    have hkeeps : ¬(infos.isEmpty ∧ ¬s.store.hasFailClosedGroup) := by
      rw [List.isEmpty_iff]
      rintro ⟨hnil, hgroup⟩
      exact (hs infos hinfos).elim (absurd hnil) hgroup
    rw [hinfos] at h
    simp only [if_neg hkeeps] at h ⊢
    refine ⟨infos, rfl, ?_⟩
    cases htemplate : env.template with
    | some e => simp [htemplate] at h
    | none =>
      rw [htemplate] at h
      cases hrestart : env.restart with
      | started => rfl
      | refused e | failed e => simp [hrestart, start] at h

variable {running : Bool}

lemma testing_restore {other : LatencyState ν} (h : other.testing = s.testing) :
    (s.restore env running other).2.testing = s.testing := by
  unfold restore
  split_ifs
  · exact testing_updateV2RayConfig
  · exact h

lemma state_finish : (s.finish env running which).state =
    ({ s with testing := false }.restore env running { s with testing := false, core := none }).2 := by
  unfold finish
  dsimp only
  split
  · next h => rw [h]
  · next h =>
    rw [h]
    split <;> rfl

lemma state_startFailed {e : Go.Error} : (s.startFailed env running e).state =
    ({ s with testing := false }.restore env running { s with testing := false }).2 := by
  unfold startFailed
  dsimp only
  split <;> next h => rw [h]

/-- A test fails at its end only if the update fails, or saving the results. -/
lemma restore_of_finish
    (h : (s.finish env running which).error = none ∨
      ∃ e, (s.finish env running which).error = some (.save, e)) :
    ({ s with testing := false }.restore env running
      { s with testing := false, core := none }).1 = none := by
  unfold finish at h
  dsimp only at h
  split at h
  · simp at h
  · next hrestore => rw [hrestore]

/-- A test whose core could not be started fails. -/
lemma error_startFailed {e : Go.Error} :
    ¬((s.startFailed env running e).error = none ∨
      ∃ e', (s.startFailed env running e).error = some (.save, e')) := by
  unfold startFailed
  dsimp only
  split <;> simp

/-- The test does not change the mode for good, and does not leave a core behind. -/
lemma stopped_testHttpLatency (env : LatencyEnv) (customTestUrl : String) (which : List Which)
    (hs : s.testing = false) :
    (s.testHttpLatency env customTestUrl which).state.testing = false ∧
      (s.core = none → (s.testHttpLatency env customTestUrl which).state.core = none) := by
  unfold testHttpLatency
  split
  · exact ⟨hs, id⟩
  dsimp only
  split_ifs
  · exact ⟨hs, id⟩
  split
  · exact ⟨hs, id⟩
  split
  · next e s' hstart =>
    rw [state_startFailed]
    refine ⟨testing_restore rfl, fun hcore => ?_⟩
    rw [hcore, restore, if_neg (by simp)]
    -- a start that fails leaves no core where none was
    cases houtcome : env.startTest <;> rw [houtcome] at hstart <;> cases hstart
    · exact hcore
    · rfl
  · next s' hstart =>
    rw [state_finish]
    refine ⟨testing_restore rfl, fun hcore => ?_⟩
    rw [hcore, restore, if_neg (by simp)]

/-- **When a test preserves the run state.** It does, whatever its steps meet, if and only if a core
that runs can be restored: only if a reference is connected. -/
theorem preservesRunState_iff (hs : s.testing = false) :
    (∀ env customTestUrl, s.PreservesRunState (s.testHttpLatency env customTestUrl which)) ↔
      s.Restorable which := by
  constructor
  · intro h hcore
    have hrestored := (h {} "").restored hcore
    -- in a test in which nothing fails, every node is placed
    have hplace (which : List Which) : which.zipIdx.mapM (placeNode {}) = .ok which := by
      have hnode : placeNode {} = fun p : Which × ℕ => (pure p.1 : Except Go.Error Which) := by
        funext p
        simp [placeNode]
        rfl
      rw [hnode, List.mapM_pure]
      simp
      rfl
    simp only [testHttpLatency, show checkTestURL {} "" = none from rfl, hplace] at hrestored
    split_ifs with hnodes
    · simpa [hnodes] using hrestored
    · rw [if_neg hnodes] at hrestored
      -- an update that starts no core does not fail
      have hstarts {t : LatencyState ν} (ht : t.core = none)
          (hrestore : { s with testing := false, core := some .latencyTest }.restore {} true
            { s with testing := false, core := none } = (none, t)) : False := by
        simp only [start, hcore, finish, hrestore] at hrestored
        obtain ⟨infos, -, hsome⟩ := hrestored (.inl trivial)
        rw [ht] at hsome
        cases hsome
      refine ⟨fun hnil => hstarts rfl (if_neg (by simp [hnil])), fun infos hinfos => ?_⟩
      by_contra hnone
      obtain ⟨hempty, hgroup⟩ := not_or.mp hnone
      by_cases hservers : s.store.getConnectedServers = []
      · exact hstarts rfl (if_neg (by simp [hservers]))
      · refine hstarts (t := { s with testing := false, core := none }) rfl ?_
        rw [restore, if_pos ⟨rfl, hservers⟩, updateV2RayConfig, hinfos]
        exact if_pos ⟨by rw [not_not.mp hempty]; rfl, hgroup⟩
  · intro h env customTestUrl
    obtain ⟨htesting, hstopped⟩ := stopped_testHttpLatency env customTestUrl which hs
    refine ⟨fun hcore herror => ?_, hstopped, htesting⟩
    have hrestorable := h hcore
    unfold testHttpLatency at herror ⊢
    cases hurl : checkTestURL env customTestUrl with
    | some e => simp [hurl] at herror
    | none =>
    rw [hurl] at herror
    dsimp only at herror ⊢
    split_ifs at herror hrestorable ⊢ with hnodes
    · exact hrestorable
    · cases hplaced : (s.located (testedNodes which)).zipIdx.mapM (placeNode env) with
      | error e => simp [hplaced] at herror
      | ok placed =>
        rw [hplaced] at herror
        cases houtcome : env.startTest with
        | started =>
          rw [houtcome] at herror
          have hnone := restore_of_finish herror
          change ∃ infos, _ ∧ (finish _ env _ _).state.core = some (.connected infos)
          rw [state_finish]
          rw [restore, if_pos ⟨hcore, hrestorable.1⟩] at hnone ⊢
          exact core_updateV2RayConfig hnone hrestorable.2
        | refused e | failed e =>
          rw [houtcome] at herror
          exact absurd herror error_startFailed

end Restored

end LatencyState

/-- A core that runs for a fail-closed group without a member, and a server that is tested. -/
def failClosedState : LatencyState SOCKS where
  store :=
    { servers := [{ serverObj := { name := "a", server := "a.example", port := 1080 } }]
      outboundSetting := fun _ => some { defaultOutboundSetting with autoAdd := true } }
  core := some (.connected [])

/-- A reference to the server. -/
def firstServer : Which := { type := .server, id := 1, sub := 0, outbound := "" }

/-- The core was started for the group, nothing fails, and the core is stopped. -/
theorem stops_failClosed :
    failClosedState.store.hasFailClosedGroup = true ∧
      getConnectedServerObjs id failClosedState.store = .ok [] ∧
      (failClosedState.testHttpLatency {} "" [firstServer]).error = none ∧
      (failClosedState.testHttpLatency {} "" [firstServer]).state.core.isNone := by
  decide +kernel

/-- The same store with a connected reference. -/
def connectedState : LatencyState SOCKS :=
  { failClosedState with
    store := { failClosedState.store with
      connectedServers := fun name =>
        if name = "proxy" then some [⟨.server, 1, 0, "proxy"⟩] else none } }

theorem preservesRunState_connected :
    connectedState.PreservesRunState (connectedState.testHttpLatency {} "" [firstServer]) := by
  refine (LatencyState.preservesRunState_iff rfl).mpr (fun _ => ?_) {} ""
  rw [if_neg (by decide)]
  exact ⟨by decide +kernel, fun _ _ => .inr (by decide +kernel)⟩

end V2rayA
