import V2rayA.Configure.Setting
import V2rayA.ToMathlib.Transition

/-!
# The process manager and the connectivity monitor

`CoreProcessManager` as a transition system whose steps are the sections between lock
operations: of a start, plain or preserving interception, with its deferred sections; of
`Stop`; of the handler of a core that has exited; of `mutateHost`, through which a start and
the monitors change the host; and of the checks of the connectivity monitors.

Starts are serialized by `startMu`, so there is one start at a time. A section that holds
`m.mu` throughout is one step, with one exception: a start decides whether to keep the rules
before it waits for `hostMu`, and whoever holds `hostMu` then still changes the host. A section
that waits for `hostMu` with `m.mu` held is enabled when both are free.

A process is identified by the generation that it was created in. The rules are taken to be
gone when they have been deleted; writing them may fail, and then they are deleted.
`CheckAndSetupTransparentProxy` and `CheckAndStopTransparentProxy`, which other parts of the
service call, are not part of the system.
-/

namespace V2rayA

/-- A core process. -/
structure Process where
  /-- The generation that it was created in. -/
  id : ℕ
  /-- The setting of its template. -/
  setting : Setting
  deriving DecidableEq

/-- `canRetainInterception`. -/
def canRetainInterception (env : Environment) (before : Option Setting) (after : Setting) :
    Bool :=
  if before ≠ some after ∨ ¬isTransparentOn env after then false
  else
    env.transparentHook = "" && env.coreHook = "" &&
      (after.transparentType = .tproxy || after.transparentType = .redirect)

/-- Who changes the host. -/
inductive Actor
  | start
  /-- The connectivity monitor of a generation. -/
  | monitor (generation : ℕ)
  deriving DecidableEq

/-- The state of the manager and of the host. -/
structure Manager where
  p : Option Process := none
  generation : ℕ := 0
  testing : Bool := false
  networkPaused : Bool := false
  /-- The generation of the monitor whose stop channel is open. -/
  connectivityStop : Option ℕ := none
  transparentOn : Bool := false
  retainingInterception : Bool := false
  retainedSetting : Option Setting := none
  /-- `m.mu` is held across steps. -/
  mu : Bool := false
  /-- Who holds `hostMu` across steps. -/
  hostMu : Option Actor := none
  /-- The marker of a start that has not committed is stored. -/
  hostState : Bool := false
  /-- The transparent proxy rules of this service are on the host. -/
  rules : Bool := false

namespace Manager

variable (m : Manager)

/-- `ownsProcessLocked`. -/
def ownsProcess (q : Process) (generation : ℕ) : Prop :=
  m.p = some q ∧ m.generation = generation

instance (q : Process) (generation : ℕ) : Decidable (m.ownsProcess q generation) :=
  inferInstanceAs (Decidable (_ ∧ _))

/-- `checkAndStopTransparentProxy`. -/
def checkAndStopTransparentProxy (setting : Setting) : Manager :=
  if m.transparentOn then
    { m with
      transparentOn := false
      rules := if setting.transparent ≠ .close then false else m.rules }
  else m

/-- The rules go with the flag. -/
lemma checkAndStopTransparentProxy_eq (setting : Setting) :
    m.checkAndStopTransparentProxy setting =
      { m with
        transparentOn := false
        rules := m.rules && !(m.transparentOn && setting.transparent ≠ .close) } := by
  obtain ⟨p, generation, testing, networkPaused, connectivityStop, transparentOn⟩ := m
  unfold checkAndStopTransparentProxy
  cases transparentOn with
  | false => simp
  | true =>
    by_cases h : setting.transparent = .close <;> simp [h]

/-- `cleanupRetainedInterceptionLocked`. -/
def cleanupRetainedInterception : Manager :=
  match m.retainedSetting with
  | none => m
  | some setting => { m.checkAndStopTransparentProxy setting with retainedSetting := none }

@[simp]
lemma retainedSetting_cleanupRetainedInterception :
    m.cleanupRetainedInterception.retainedSetting = none := by
  cases h : m.retainedSetting <;> simp [cleanupRetainedInterception, h]

/-- A cleanup does not touch the process and the locks. -/
@[simp]
lemma cleanupRetainedInterception_frame :
    m.cleanupRetainedInterception.p = m.p ∧
      m.cleanupRetainedInterception.generation = m.generation ∧
      m.cleanupRetainedInterception.mu = m.mu ∧
      m.cleanupRetainedInterception.hostMu = m.hostMu ∧
      m.cleanupRetainedInterception.retainingInterception = m.retainingInterception := by
  cases h : m.retainedSetting <;>
    simp [cleanupRetainedInterception, checkAndStopTransparentProxy_eq, h]

/-- The unexported `stop`: stop the core and remove the rules, unless they are retained. -/
def stopProcess : Manager :=
  match m.p with
  | none => m
  | some q =>
    let m := { m with connectivityStop := none, networkPaused := false }
    let m := if m.retainingInterception then m else m.checkAndStopTransparentProxy q.setting
    { m with p := none }

@[simp]
lemma p_stopProcess : m.stopProcess.p = none := by
  cases h : m.p <;> simp [stopProcess, h]

/-- Stopping the core does not touch the locks and what is retained. -/
@[simp]
lemma stopProcess_frame :
    m.stopProcess.generation = m.generation ∧ m.stopProcess.mu = m.mu ∧
      m.stopProcess.hostMu = m.hostMu ∧ m.stopProcess.retainedSetting = m.retainedSetting ∧
      m.stopProcess.retainingInterception = m.retainingInterception := by
  cases h : m.p <;> cases hr : m.retainingInterception <;>
    simp [stopProcess, checkAndStopTransparentProxy_eq, h, hr]

/-- `Stop`. -/
def stop : Manager :=
  let m := { m with retainingInterception := false }
  if m.p = none then m.cleanupRetainedInterception
  else { m.stopProcess with retainedSetting := none }

/-- After `Stop` there is no process and nothing is retained; the locks are as before. -/
lemma stop_frame :
    m.stop.p = none ∧ m.stop.generation = m.generation ∧ m.stop.mu = m.mu ∧
      m.stop.hostMu = m.hostMu ∧ m.stop.retainedSetting = none := by
  cases h : m.p <;> simp [stop, h]

/-- `RecoverHostState`, if a marker is stored. -/
def recoverHostState (recovered : Bool) : Manager :=
  if m.hostState then { m with rules := m.rules && !recovered } else m

end Manager

/-! ### Changing the host -/

/-- What `mutateHost` is called for. -/
inductive HostCall
  | delete
  | preStartHook
  | write
  | postStartHook
  /-- Remove the rules because the core does not answer. -/
  | pause
  deriving DecidableEq

/-- A point in `mutateHost`. -/
inductive HostPC
  | lock (call : HostCall)
  /-- With `hostMu` held. -/
  | mutate (call : HostCall)
  /-- Before the last check of the owner. -/
  | verify (call : HostCall) (failed : Bool)
  deriving DecidableEq

/-- The call that is under way. -/
def HostPC.call : HostPC → HostCall
  | lock call => call
  | mutate call => call
  | verify call _ => call

/-- A point in `setupTransparentProxy`. -/
inductive SetupPC
  | host (pc : HostPC)
  /-- After the wait for the DNS module. -/
  | dns
  deriving DecidableEq

/-- Where a procedure goes on, or how it has ended. -/
inductive Outcome (α : Type)
  | more (pc : α)
  | done (ok : Bool)

/-- Whether a call succeeds, if `ok` says whether its command does. -/
def HostCall.succeeds (env : Environment) (ok : Bool) : HostCall → Bool
  | delete => true
  | preStartHook => ok || env.transparentHook = ""
  | write => ok
  | postStartHook => ok || env.transparentHook = ""
  | pause => true

/-- The effect of a call. -/
def Manager.mutate (m : Manager) (ok : Bool) : HostCall → Manager
  | .delete => { m with rules := false }
  | .preStartHook => m
  | .write => { m with transparentOn := true, rules := ok }
  | .postStartHook => m
  | .pause => { m with rules := false }

/-- The next section of `mutateHost`. -/
def mutateHost (env : Environment) (actor : Actor) (q : Process) (generation : ℕ) (ok : Bool)
    (m : Manager) : HostPC → Option (Manager × Outcome HostPC)
  | .lock call =>
    if m.mu then none
    else if ¬m.ownsProcess q generation then some (m, .done false)
    else if m.hostMu ≠ none then none
    else some ({ m with hostMu := some actor }, .more (.mutate call))
  | .mutate call =>
    some ({ m.mutate ok call with hostMu := none },
      .more (.verify call (!call.succeeds env ok)))
  | .verify _ failed =>
    if m.mu then none else some (m, .done (!failed && m.ownsProcess q generation))

/-- What follows a successful call in `setupTransparentProxy`. -/
def HostCall.next : HostCall → Outcome SetupPC
  | delete => .more (.host (.lock .preStartHook))
  | preStartHook => .more .dns
  | write => .more (.host (.lock .postStartHook))
  | postStartHook => .done true
  -- Only the monitor makes this call, outside `setupTransparentProxy`.
  | pause => .done false

/-- The next section of `setupTransparentProxy`. -/
def setupTransparentProxy (env : Environment) (actor : Actor) (q : Process) (generation : ℕ)
    (ok : Bool) (m : Manager) : SetupPC → Option (Manager × Outcome SetupPC)
  | .host pc =>
    match mutateHost env actor q generation ok m pc with
    | none => none
    | some (m, .more pc) => some (m, .more (.host pc))
    | some (m, .done false) => some (m, .done false)
    | some (m, .done true) => some (m, pc.call.next)
  | .dns =>
    if m.mu then none
    else if m.ownsProcess q generation then some (m, .more (.host (.lock .write)))
    else some (m, .done false)

/-! ### A start -/

/-- What a start knows once its process exists. -/
structure Startup where
  process : Process
  generation : ℕ
  /-- The rules of the previous core were kept. -/
  retained : Bool
  deriving DecidableEq

/-- A point in `start`. -/
inductive StartPC
  /-- No start is in progress. -/
  | idle
  /-- `startMu` is held. -/
  | entered (t : Setting) (preserve : Bool)
  /-- `m.mu` is held and it is decided whether the rules are kept. -/
  | locked (t : Setting) (retained : Bool)
  /-- In `setupTransparentProxy`. -/
  | setup (c : Startup) (pc : SetupPC)
  /-- Before `startConnectivityMonitor`. -/
  | monitor (c : Startup)
  /-- Before the check of the owner that precedes the post-start hook. -/
  | postStartHook (c : Startup)
  /-- Before the last check of the owner in `afterStart`. -/
  | lastCheck (c : Startup)
  | commit (c : Startup)
  /-- The deferred section of a start that fails after its process was created. -/
  | fail (c : Startup)
  /-- The deferred `retainingInterception.Store(false)`. -/
  | clear (generation : ℕ) (ok : Bool)
  /-- The deferred `startMu.Unlock()`. -/
  | leave (generation : ℕ) (ok : Bool)
  deriving DecidableEq

/-! ### A connectivity monitor -/

/-- A point in the loop of a connectivity monitor. -/
inductive MonitorPC
  /-- Waiting for the timer or for the stop channel. -/
  | waiting
  /-- Probing the core. -/
  | probe (paused : Bool)
  /-- Removing the rules. `dead` says that the device of a TUN is gone. -/
  | pausing (dead : Bool) (pc : HostPC)
  | recordPause (dead : Bool)
  /-- Setting the rules up again. -/
  | resuming (pc : SetupPC)
  | resumeFailed
  | recordResume
  | exited
  deriving DecidableEq

/-- A connectivity monitor. -/
structure Monitor where
  process : Process
  pc : MonitorPC
  deriving DecidableEq

/-! ### The system -/

/-- The state of the manager with the points that its threads have reached. -/
structure ManagerState where
  m : Manager
  start : StartPC := .idle
  /-- The monitor of each generation. -/
  monitors : ℕ → Option Monitor := fun _ => none
  /-- The generation of the last start that has returned `nil`. -/
  returnedNil : Option ℕ := none

/-- What the outside contributes to a step. -/
structure Choice where
  /-- The command, the probe or the write succeeds. -/
  ok : Bool := true
  /-- The recovery of the host removes the rules. -/
  recovered : Bool := true
  /-- The marker is removed. -/
  cleared : Bool := true
  /-- The marker is stored. -/
  marked : Bool := true
  /-- The device of a TUN is gone. -/
  dead : Bool := false

/-- A step of the system. -/
inductive ManagerAction
  /-- A call of `Start` or `StartPreservingInterception` passes the first checks. -/
  | begin (t : Setting) (preserve : Bool)
  /-- The next section of the start. -/
  | start (choice : Choice)
  | stop
  /-- `handleUnexpectedStop`: a core has exited. -/
  | coreExit (q : Process)
  | setLatencyTesting (testing : Bool)
  /-- The next section of the monitor of a generation. -/
  | monitor (generation : ℕ) (choice : Choice)
  /-- The monitor of a generation finds its stop channel closed. -/
  | quit (generation : ℕ)

namespace Manager

/-- The setting that the rules were written for. -/
def previous (m : Manager) : Option Setting :=
  match m.p with
  | some q => some q.setting
  | none => m.retainedSetting

/-- Whether a start keeps the rules: this is decided before `hostMu` is taken. -/
def retains (env : Environment) (m : Manager) (t : Setting) (preserve : Bool) : Bool :=
  preserve && !m.networkPaused && m.transparentOn && canRetainInterception env m.previous t

lemma retains_eq_true {env : Environment} {m : Manager} {t : Setting} {preserve : Bool}
    (h : m.retains env t preserve) :
    preserve ∧ m.networkPaused = false ∧ m.transparentOn ∧ m.previous = some t ∧
      isTransparentOn env t := by
  simp only [retains, Bool.and_eq_true, Bool.not_eq_true', canRetainInterception,
    Bool.if_false_left, decide_eq_false_iff_not, not_or, not_not] at h
  exact ⟨h.1.1.1, h.1.1.2, h.1.2, h.2.1.1, h.2.1.2⟩

/-- The state when `retained` has been decided. -/
def lockForStart (m : Manager) (retained : Bool) : Manager :=
  { m with
    mu := true
    retainedSetting := if retained then m.previous else m.retainedSetting
    retainingInterception := retained }

/-- Stop the old core and recover the host from a start that never committed. -/
def replaceOld (m : Manager) (retained : Bool) (choice : Choice) : Manager :=
  let m := m.stopProcess
  let m :=
    if retained then m
    else { m.recoverHostState choice.recovered with hostState := m.hostState && !choice.cleared }
  { m with generation := m.generation + 1 }

@[simp]
lemma replaceOld_frame (m : Manager) (retained : Bool) (choice : Choice) :
    (m.replaceOld retained choice).p = none ∧
      (m.replaceOld retained choice).generation = m.generation + 1 ∧
      (m.replaceOld retained choice).mu = m.mu ∧
      (m.replaceOld retained choice).hostMu = m.hostMu ∧
      (m.replaceOld retained choice).retainedSetting = m.retainedSetting ∧
      (m.replaceOld retained choice).retainingInterception = m.retainingInterception := by
  cases retained <;> cases hs : m.stopProcess.hostState <;>
    simp [replaceOld, recoverHostState, hs]

/-- The state when the new core does not start. -/
def noCore (m : Manager) (retained : Bool) (choice : Choice) : Manager :=
  let m := { m.replaceOld retained choice with mu := false }
  if retained then m.cleanupRetainedInterception else m

/-- The state when the new core has started. -/
def newCore (m : Manager) (retained : Bool) (choice : Choice) (q : Process) : Manager :=
  let m := m.replaceOld retained choice
  { m with mu := false, p := some q, hostState := m.hostState || choice.marked }

/-- The deferred section of a start that fails after its process was created, up to the cleanup
of what it retained. -/
def abandonProcess (m : Manager) (c : Startup) (choice : Choice) : Manager :=
  if m.ownsProcess c.process c.generation then
    { m.stopProcess with hostState := m.hostState && !choice.cleared }
  else if m.generation = c.generation ∧ m.p = none ∧ ¬c.retained then
    { m.recoverHostState choice.recovered with
      hostState := m.hostState && !(choice.recovered && choice.cleared) }
  else m

/-- The deferred section of a start that fails after its process was created. -/
def abandon (m : Manager) (c : Startup) (choice : Choice) : Manager :=
  let m := m.abandonProcess c choice
  if c.retained then m.cleanupRetainedInterception else m

/-- A failed start leaves no process if it can own it. -/
lemma abandonProcess_frame {m : Manager} {c : Startup} (choice : Choice)
    (hgen : c.generation = m.generation) (hp : m.p = none ∨ m.p = some c.process) :
    (m.abandonProcess c choice).p = none ∧
      (m.abandonProcess c choice).generation = m.generation ∧
      (m.abandonProcess c choice).mu = m.mu ∧ (m.abandonProcess c choice).hostMu = m.hostMu ∧
      (m.abandonProcess c choice).retainedSetting = m.retainedSetting := by
  rcases hp with hp | hp
  · cases hr : c.retained <;> cases hst : m.hostState <;>
      simp [abandonProcess, ownsProcess, recoverHostState, hp, hr, hgen, hst]
  · simp [abandonProcess, ownsProcess, hp, hgen]

end Manager

/-- Where a start goes on once its process exists. -/
def Startup.afterStart (env : Environment) (c : Startup) : StartPC :=
  if c.retained then .monitor c
  else if isTransparentOn env c.process.setting then .setup c (.host (.lock .delete))
  else .monitor c

/-- Where a start goes on after a section of `setupTransparentProxy`. -/
def Startup.afterSetup (c : Startup) : Outcome SetupPC → StartPC
  | .more pc => .setup c pc
  | .done true => .monitor c
  | .done false => .fail c

/-- The next section of a start. -/
def startStep (env : Environment) (s : ManagerState) (choice : Choice) : Option ManagerState :=
  let m := s.m
  match s.start with
  | .idle => none
  | .entered t preserve =>
    if m.mu then none
    else
      let retained := m.retains env t preserve
      some { s with m := m.lockForStart retained, start := .locked t retained }
  | .locked t retained =>
    if m.hostMu ≠ none then none
    else
      let c : Startup := ⟨⟨m.generation + 1, t⟩, m.generation + 1, retained⟩
      if choice.ok then
        some
          { s with
            m := m.newCore retained choice c.process
            start := if choice.marked then c.afterStart env else .fail c }
      else some { s with m := m.noCore retained choice, start := .clear c.generation false }
  | .setup c pc =>
    match setupTransparentProxy env .start c.process c.generation choice.ok m pc with
    | none => none
    | some (m, outcome) => some { s with m, start := c.afterSetup outcome }
  | .monitor c =>
    if ¬isTransparentOn env c.process.setting ∨ c.process.setting.transparentType = .systemProxy then
      some { s with start := .postStartHook c }
    else if m.mu then none
    else if m.testing ∨ ¬m.ownsProcess c.process c.generation then
      some { s with start := .postStartHook c }
    else
      some
        { s with
          m := { m with connectivityStop := some c.generation }
          monitors := Function.update s.monitors c.generation (some ⟨c.process, .waiting⟩)
          start := .postStartHook c }
  | .postStartHook c =>
    if m.mu then none
    else if m.ownsProcess c.process c.generation ∧ (choice.ok ∨ env.coreHook = "") then
      some { s with start := .lastCheck c }
    else some { s with start := .fail c }
  | .lastCheck c =>
    if m.mu then none
    else if m.ownsProcess c.process c.generation then some { s with start := .commit c }
    else some { s with start := .fail c }
  | .commit c =>
    if m.mu then none
    else if m.ownsProcess c.process c.generation ∧ choice.ok then
      some
        { s with
          m := { m with hostState := false, retainedSetting := none }
          start := .clear c.generation true }
    else some { s with start := .fail c }
  | .fail c =>
    if m.mu ∨ m.hostMu ≠ none then none
    else some { s with m := m.abandon c choice, start := .clear c.generation false }
  | .clear generation ok =>
    some { s with m := { m with retainingInterception := false }, start := .leave generation ok }
  | .leave generation ok =>
    some
      { s with
        start := .idle
        returnedNil := if ok then some generation else s.returnedNil }

/-- Where a check goes on after a section of the call that removes the rules. -/
def MonitorPC.afterPause (dead : Bool) : Outcome HostPC → MonitorPC
  | .more pc => .pausing dead pc
  | .done true => .recordPause dead
  | .done false => .exited

/-- Where a check goes on after a section of `setupTransparentProxy`. -/
def MonitorPC.afterResume : Outcome SetupPC → MonitorPC
  | .more pc => .resuming pc
  | .done true => .recordResume
  | .done false => .resumeFailed

/-- The next section of `syncConnectivityState` for the process `q` of a generation: the state
of the manager and the point that the monitor has reached. -/
def syncConnectivityState (env : Environment) (q : Process) (generation : ℕ) (choice : Choice)
    (m : Manager) : MonitorPC → Option (Manager × MonitorPC)
  | .waiting =>
    if m.mu then none
    else if ¬m.ownsProcess q generation ∨ m.testing then some (m, .exited)
    else if q.setting.transparentType = .systemProxy ∨ ¬isTransparentOn env q.setting then
      some (m, .waiting)
    else some (m, .probe m.networkPaused)
  | .probe paused =>
    let dead := choice.dead && q.setting.transparentType = .tun
    let healthy := !dead && choice.ok
    if m.mu then none
    else if ¬m.ownsProcess q generation then some (m, .exited)
    else if ¬healthy then
      if paused then some (m, .waiting) else some (m, .pausing dead (.lock .pause))
    else if ¬paused then some (m, .waiting)
    else some (m, .resuming (.host (.lock .delete)))
  | .pausing dead pc =>
    match mutateHost env (.monitor generation) q generation choice.ok m pc with
    | none => none
    | some (m, outcome) => some (m, .afterPause dead outcome)
  | .recordPause dead =>
    if m.mu then none
    else if m.ownsProcess q generation ∧ ¬m.testing then
      some ({ m with networkPaused := true }, if dead then .exited else .waiting)
    else some (m, .exited)
  | .resuming pc =>
    match setupTransparentProxy env (.monitor generation) q generation choice.ok m pc with
    | none => none
    | some (m, outcome) => some (m, .afterResume outcome)
  | .resumeFailed =>
    if m.mu then none
    else some (m, if m.ownsProcess q generation then .waiting else .exited)
  | .recordResume =>
    if m.mu then none
    else if m.ownsProcess q generation ∧ ¬m.testing then
      some ({ m with networkPaused := false }, .waiting)
    else some (m, .exited)
  | .exited => none

/-- The next section of the monitor of a generation. -/
def monitorStep (env : Environment) (s : ManagerState) (generation : ℕ) (choice : Choice) :
    Option ManagerState :=
  match s.monitors generation with
  | none => none
  | some monitor =>
    match syncConnectivityState env monitor.process generation choice s.m monitor.pc with
    | none => none
    | some (m, pc) =>
      some
        { s with
          m
          monitors := Function.update s.monitors generation (some { monitor with pc }) }

/-- What an action does. -/
def ManagerState.next (env : Environment) (s : ManagerState) :
    ManagerAction → Option ManagerState
  | .begin t preserve =>
    if s.start = .idle then some { s with start := .entered t preserve } else none
  | .start choice => startStep env s choice
  | .stop => if s.m.mu ∨ s.m.hostMu ≠ none then none else some { s with m := s.m.stop }
  | .coreExit q =>
    if s.m.mu ∨ s.m.hostMu ≠ none then none
    else if s.m.p ≠ some q then some s
    else some { s with m := s.m.stopProcess }
  | .setLatencyTesting testing =>
    if s.m.mu then none else some { s with m := { s.m with testing } }
  | .monitor generation choice => monitorStep env s generation choice
  | .quit generation =>
    match s.monitors generation with
    | none => none
    | some monitor =>
      if monitor.pc = .waiting ∧ s.m.connectivityStop ≠ some generation then
        some
          { s with
            monitors :=
              Function.update s.monitors generation (some { monitor with pc := .exited }) }
      else none

/-- The process manager in an environment. A marker of an earlier run of the service may be
stored. -/
def managerSystem (env : Environment) : Transition.System ManagerState ManagerAction where
  init s := ∃ hostState, s = { m := { hostState } }
  next := ManagerState.next env

end V2rayA
