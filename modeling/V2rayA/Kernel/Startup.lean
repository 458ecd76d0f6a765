import V2rayA.Kernel.Template.Passes

/-!
# Producers and failed starts

A template starts the goroutines that poll the API of its core, and whoever owns the template has
to stop them: `NewTemplate` until it returns, `start` and `NewProcess` until there is a process,
and then the process. Stopping one of them twice closes a closed channel.

* `clean_iff`: a failed update stops every producer once and cancels the context of the core,
  unless the last checks reject the template, or no dial reaches the core.
* `dialLoop_isSome`: the loop that dials ends when the time for the startup is over.
-/

namespace V2rayA

variable {ν : Type}

/-! ### What has to be cleaned up -/

/-- The producers of a template with the number of times that each has been stopped, and the
context of its core. -/
structure Ledger where
  producers : List (Producer × ℕ) := []
  /-- Whether the context is cancelled; `none` before it is created. -/
  cancelled : Option Bool := none
  deriving DecidableEq, Repr

namespace Ledger

/-- The producers start. -/
def start (producers : List Producer) : Ledger where
  producers := producers.map (·, 0)

/-- `Template.Close`. -/
def closeTemplate (l : Ledger) : Ledger :=
  { l with producers := l.producers.map fun p => (p.1, p.2 + 1) }

/-- `context.WithCancel`. -/
def createContext (l : Ledger) : Ledger := { l with cancelled := some false }

/-- The function that cancels the context. It may be called more than once. -/
def cancel (l : Ledger) : Ledger := { l with cancelled := l.cancelled.map fun _ => true }

/-- `Process.Close`, which forgets how to cancel once it has. -/
def closeProcess (l : Ledger) : Ledger :=
  if l.cancelled = some false then l.cancel.closeTemplate else l

/-- Every producer was stopped once, and the core cannot run on. -/
def Clean (l : Ledger) : Prop := (∀ p ∈ l.producers, p.2 = 1) ∧ l.cancelled ≠ some false

instance (l : Ledger) : Decidable l.Clean :=
  inferInstanceAs (Decidable ((∀ p ∈ l.producers, p.2 = 1) ∧ l.cancelled ≠ some false))

end Ledger

/-! ### A start -/

/-- What a dial to the port of the API finds. -/
inductive Dial
  | connected
  /-- No connection, so long after the start of the core. -/
  | refused (unexpectedExiting : Bool) (elapsed : ℤ)
  deriving DecidableEq, Repr

/-- What happens around a start. -/
structure StartEvents where
  /-- The directory of the assets. -/
  locationAsset : String := ""
  writeV2rayConfig : Option Go.Error := none
  checkInboundPortsOccupied : Option Go.Error := none
  runPreStartHook : Option Go.Error := none
  startCoreProcess : Option Go.Error := none
  /-- The time that the core has to open its port, in seconds. -/
  coreStartupTimeout : ℤ := 15
  dials : List Dial := [.connected]
  /-- Someone else stops the new process while it is set up. -/
  stopped : Bool := false
  /-- The first error after the process has been handed over. -/
  afterStart : Option Go.Error := none

def coreStartFailed (detail : String) : Go.Error where
  text := detail
  code := "CORE_START_FAILED"
  params := [("detail", .text detail)]

/-- The loop that waits for the port of the API; `none` while it waits. -/
def dialLoop (timeout : ℤ) : List Dial → Option (Except Go.Error Unit)
  | [] => none
  | .connected :: _ => some (.ok ())
  | .refused unexpectedExiting elapsed :: dials =>
    if unexpectedExiting then
      some (.error (coreStartFailed
        "v2raya_core exited right after starting; the reason is in the v2rayA log"))
    else if timeout < elapsed then
      some (.error (coreStartFailed (s!"v2raya_core did not open its API port within {timeout} s " ++
        "(--core-startup-timeout); the reason is in the v2rayA log")))
    else dialLoop timeout dials

/-- The end of the body of `NewProcess`. The deferred calls see the variable `err` of the
function, which need not be the error that is returned. -/
structure Returned where
  result : Except Go.Error Unit
  err : Option Go.Error
  ledger : Ledger

/-- The body of `NewProcess`; `none` while it waits. -/
def newProcessBody (events : StartEvents) (l : Ledger) : Option Returned :=
  match events.writeV2rayConfig, events.checkInboundPortsOccupied with
  | some e, _ | none, some e => some ⟨.error e, some e, l⟩
  | none, none =>
    let l := l.createContext
    match events.runPreStartHook, events.startCoreProcess with
    | some e, _ => some ⟨.error e, some e, l⟩
    | none, some e =>
      some ⟨.error (if e.code ≠ "" then e else coreStartFailed e.text), some e, l⟩
    | none, none =>
      -- The loop has a variable `err` of its own.
      (dialLoop events.coreStartupTimeout events.dials).map fun result => ⟨result, none, l⟩

/-- The deferred calls of `NewProcess`. The roll back cancels the context once more. -/
def Returned.runDeferred (r : Returned) : Except Go.Error Unit × Ledger :=
  (r.result, if r.err.isSome then r.ledger.cancel.closeTemplate else r.ledger)

/-- `NewProcess`. -/
def newProcess (events : StartEvents) (l : Ledger) : Option (Except Go.Error Unit × Ledger) :=
  (newProcessBody events l).map Returned.runDeferred

/-- A setting asks for the list of blocked sites, which is not there. -/
def gfwListMissing (env : TemplateEnv ν) (setting : Setting) : Bool :=
  (setting.transparent = .gfwlist ∨ setting.rulePortMode = .gfwlist) ∧
    ¬env.assetExists "LoyalsoldierSite.dat"

def gfwListMissingError (dir : String) : Go.Error where
  text := s!"GFWList mode needs LoyalsoldierSite.dat, which is missing from {dir}; " ++
    "update GFWList first"
  code := "GFWLIST_MISSING"
  params := [("dir", .text dir)]

/-- The error of a start whose process was stopped by someone else. -/
def exitedBeforeCommit : Go.Error where
  text := "core process exited before startup committed"

/-- `start` for a template, whose producers run; `none` while it waits. -/
def startTemplate (env : TemplateEnv ν) (t : Template ν) (events : StartEvents) (l : Ledger) :
    Option (Option Go.Error × Ledger) :=
  if gfwListMissing env t.setting then
    some (some (gfwListMissingError events.locationAsset), l.closeTemplate)
  else
    match newProcess events l with
    | none => none
    | some (.error e, l) => some (some e, l)
    | some (.ok (), l) =>
      let l := if events.stopped then l.closeProcess else l
      match events.afterStart, events.stopped with
      | some e, _ => some (some e, l.closeProcess)
      | none, true => some (some exitedBeforeCommit, l.closeProcess)
      | none, false => some (none, l)

/-- The producers that run when `NewTemplate` returns, with a template or without. -/
def startedProducers [Configurable ν] (env : TemplateEnv ν) (serverInfos : List (ServerInfo ν))
    (setting : Setting) : List Producer :=
  match routedTemplate env serverInfos setting with
  | .error _ => []
  | .ok t => t.apiCloses

/-- `updateV2RayConfig`; `none` while it waits. When nothing is connected it stops the core. -/
def updateV2RayConfig [Configurable ν] (env : TemplateEnv ν) (events : StartEvents) :
    Option (Option Go.Error × Ledger) :=
  match getConnectedServerObjs env.nodeFingerprint env.store with
  | .error e => some (some e, {})
  | .ok serverInfos =>
    if serverInfos.isEmpty ∧ ¬env.store.hasFailClosedGroup then some (none, {})
    else
      let serverInfos := assignPluginPorts env serverInfos
      let l := Ledger.start (startedProducers env serverInfos env.setting)
      match newTemplate env serverInfos none with
      | .error e => some (some e, l)
      | .ok t => startTemplate env t events l

/-! ### The loop that dials -/

/-- The core starts, but no dial reaches it before it exits or the time is over. -/
def StartEvents.Unreached (events : StartEvents) : Prop :=
  events.writeV2rayConfig = none ∧ events.checkInboundPortsOccupied = none ∧
    events.runPreStartHook = none ∧ events.startCoreProcess = none ∧
    ∃ e, dialLoop events.coreStartupTimeout events.dials = some (.error e)

/-! ### Cleaning up -/

namespace Ledger

variable {producers : List Producer}

lemma clean_closeTemplate {l : Ledger} (hproducers : l.producers = producers.map (·, 0))
    (hcancelled : l.cancelled ≠ some false) : l.closeTemplate.Clean := by
  refine ⟨?_, hcancelled⟩
  rw [closeTemplate, hproducers]
  simp

lemma cancelled_cancel (l : Ledger) : l.cancel.cancelled ≠ some false := by
  cases h : l.cancelled <;> simp [cancel]

/-- Producers that run on are not cleaned up. -/
lemma not_clean_of_running {l : Ledger} (hproducers : l.producers = producers.map (·, 0))
    (hne : producers ≠ []) : ¬l.Clean := by
  obtain ⟨p, hp⟩ := List.exists_mem_of_ne_nil producers hne
  intro hclean
  exact absurd (hclean.1 (p, 0) (hproducers ▸ List.mem_map_of_mem hp)) (by simp)

/-- A process that has the template and the context cleans both up, and only once. -/
lemma clean_closeProcess {l : Ledger} (hproducers : l.producers = producers.map (·, 0))
    (hcancelled : l.cancelled = some false) :
    l.closeProcess.Clean ∧ l.closeProcess.closeProcess = l.closeProcess := by
  have hclose : l.closeProcess = l.cancel.closeTemplate := if_pos hcancelled
  have hclean : l.closeProcess.Clean := by
    rw [hclose]
    exact clean_closeTemplate (l := l.cancel) hproducers l.cancelled_cancel
  exact ⟨hclean, if_neg hclean.2⟩

end Ledger

section Cleanup

variable {events : StartEvents} {producers : List Producer} {l l' : Ledger}

/-- The body of `NewProcess` ends in one of the stages before the core runs, with the error in the
variable that the deferred calls see, or in the loop that dials, without one. -/
lemma newProcessBody_cases {r : Returned} (h : newProcessBody events l = some r) :
    (∃ e e', r.result = .error e' ∧ r.err = some e ∧ r.ledger.producers = l.producers ∧
      ¬events.Unreached) ∨
    (r.err = none ∧ r.ledger = l.createContext ∧
      (events.Unreached ↔ ∃ e, r.result = .error e)) := by
  have hearly {e e' : Go.Error} {l' : Ledger}
      (hr : some (Returned.mk (.error e') (some e) l') = some r)
      (hl' : l'.producers = l.producers) (hreached : ¬events.Unreached) :
      ∃ e e', r.result = .error e' ∧ r.err = some e ∧
        r.ledger.producers = l.producers ∧ ¬events.Unreached := by
    cases hr
    exact ⟨e, e', rfl, rfl, hl', hreached⟩
  unfold newProcessBody at h
  cases hwrite : events.writeV2rayConfig with
  | some e =>
    rw [hwrite] at h
    exact .inl (hearly h rfl (by simp [StartEvents.Unreached, hwrite]))
  | none =>
    cases hports : events.checkInboundPortsOccupied with
    | some e =>
      rw [hwrite, hports] at h
      exact .inl (hearly h rfl (by simp [StartEvents.Unreached, hports]))
    | none =>
      rw [hwrite, hports] at h
      cases hhook : events.runPreStartHook with
      | some e =>
        simp only [hhook] at h
        exact .inl (hearly h rfl (by simp [StartEvents.Unreached, hhook]))
      | none =>
        cases hcore : events.startCoreProcess with
        | some e =>
          simp only [hhook, hcore] at h
          exact .inl (hearly h rfl (by simp [StartEvents.Unreached, hcore]))
        | none =>
          simp only [hhook, hcore] at h
          obtain ⟨result, hdial, rfl⟩ := Option.map_eq_some_iff.mp h
          refine .inr ⟨rfl, rfl, ?_⟩
          simp [StartEvents.Unreached, hwrite, hports, hhook, hcore, hdial]

section

variable (hl : l.producers = producers.map (·, 0))
include hl

/-- What `NewProcess` leaves when it fails: the deferred calls clean up, unless the error is that
of the loop that dials. -/
lemma newProcess_error {e : Go.Error}
    (hne : producers ≠ []) (h : newProcess events l = some (.error e, l')) :
    l'.Clean ↔ ¬events.Unreached := by
  obtain ⟨r, hr, hdeferred⟩ := Option.map_eq_some_iff.mp h
  obtain ⟨hresult, rfl⟩ := Prod.mk.inj hdeferred
  rcases newProcessBody_cases hr with ⟨_, _, -, herr, hproducers, hreached⟩ | ⟨herr, hledger, hiff⟩
  · have hclean : r.ledger.cancel.closeTemplate.Clean :=
      Ledger.clean_closeTemplate (hproducers.trans hl) r.ledger.cancelled_cancel
    simpa [herr, hreached] using hclean
  · have hrunning : ¬r.ledger.Clean :=
      Ledger.not_clean_of_running (by rw [hledger]; exact hl) hne
    simpa [herr, hrunning] using hiff.mpr ⟨e, hresult⟩

/-- What `NewProcess` leaves when there is a process. -/
lemma newProcess_ok
    (h : newProcess events l = some (.ok (), l')) :
    l'.producers = producers.map (·, 0) ∧ l'.cancelled = some false ∧ ¬events.Unreached := by
  obtain ⟨r, hr, hdeferred⟩ := Option.map_eq_some_iff.mp h
  obtain ⟨hresult, rfl⟩ := Prod.mk.inj hdeferred
  rcases newProcessBody_cases hr with ⟨_, _, herror, -⟩ | ⟨herr, hledger, hiff⟩
  · simp [herror] at hresult
  · simp [herr, hledger, Ledger.createContext, hl, hiff, hresult]

/-- What a failed start of a template leaves. -/
lemma startTemplate_error {env : TemplateEnv ν} {t : Template ν} {e : Go.Error}
    (hcontext : l.cancelled = none)
    (hne : producers ≠ []) (h : startTemplate env t events l = some (some e, l')) :
    l'.Clean ↔ gfwListMissing env t.setting ∨ ¬events.Unreached := by
  unfold startTemplate at h
  split at h
  · rename_i hmissing
    cases h
    simp [hmissing, Ledger.clean_closeTemplate hl (by simp [hcontext])]
  · rename_i hmissing
    split at h
    · contradiction
    · rename_i hprocess
      cases h
      simp [hmissing, newProcess_error hl hne hprocess]
    · rename_i l₁ hprocess
      obtain ⟨hproducers, hcancelled, hreached⟩ := newProcess_ok hl hprocess
      -- Whoever stops the process, it cleans up once.
      obtain ⟨hclean, honce⟩ := Ledger.clean_closeProcess hproducers hcancelled
      have hclosed : (if events.stopped then l₁.closeProcess else l₁).closeProcess =
          l₁.closeProcess := by
        split_ifs
        · exact honce
        · rfl
      have hl' : l' = l₁.closeProcess := by
        dsimp only at h
        split at h
        · exact (Prod.mk.inj (Option.some.inj h)).2.symm.trans hclosed
        · exact (Prod.mk.inj (Option.some.inj h)).2.symm.trans hclosed
        · simp at h
      simp [hl', hclean, hreached]

end

end Cleanup

/-! ### Updates -/

section Update

variable [Configurable ν] {env : TemplateEnv ν} {events : StartEvents}

omit [Configurable ν] in
/-- The last checks reject a template. -/
def Template.HasDuplicates (t : Template ν) : Prop :=
  checkDuplicatedTags t ≠ .ok () ∨ checkDuplicatedInboundSockets t ≠ .ok ()

/-- The template for the connected servers is built, and the last checks reject it. -/
def Rejected (env : TemplateEnv ν) : Prop :=
  ∃ serverInfos t, getConnectedServerObjs env.nodeFingerprint env.store = .ok serverInfos ∧
    routedTemplate env (assignPluginPorts env serverInfos) env.setting = .ok t ∧
    (finishTemplate env t).HasDuplicates

/-- There is a template for the connected servers. -/
def Accepted (env : TemplateEnv ν) : Prop :=
  ∃ serverInfos t, getConnectedServerObjs env.nodeFingerprint env.store = .ok serverInfos ∧
    newTemplate env (assignPluginPorts env serverInfos) none = .ok t

/-- A template that is built is returned unless the last checks reject it. -/
lemma newTemplate_of_routed {serverInfos : List (ServerInfo ν)} {t : Template ν}
    (h : routedTemplate env serverInfos env.setting = .ok t) :
    ((finishTemplate env t).HasDuplicates → ∃ e, newTemplate env serverInfos none = .error e) ∧
      (¬(finishTemplate env t).HasDuplicates →
        newTemplate env serverInfos none = .ok (finishTemplate env t)) := by
  rw [newTemplate, Option.getD_none, h]
  unfold Template.HasDuplicates
  cases htags : checkDuplicatedTags (finishTemplate env t) with
  | error e => simp [bind, Except.bind, htags]
  | ok u =>
    cases hsockets : checkDuplicatedInboundSockets (finishTemplate env t) with
    | error e => simp [bind, Except.bind, htags, hsockets]
    | ok u' => simp [bind, Except.bind, htags, hsockets, pure, Except.pure]

/-- A failed update leaves nothing running behind, unless the last checks reject the template, or
the core has been started and no dial reaches it. -/
theorem clean_iff {e : Go.Error} {l : Ledger} (h : updateV2RayConfig env events = some (some e, l)) :
    l.Clean ↔ ¬Rejected env ∧
      ¬(Accepted env ∧ gfwListMissing env env.setting = false ∧ events.Unreached) := by
  unfold updateV2RayConfig at h
  cases hinfos : getConnectedServerObjs env.nodeFingerprint env.store with
  | error e =>
    simp only [hinfos] at h
    cases h
    simp [Ledger.Clean, Rejected, Accepted, hinfos]
  | ok serverInfos =>
    simp only [hinfos] at h
    split at h
    · simp at h
    · cases hrouted : routedTemplate env (assignPluginPorts env serverInfos) env.setting with
      | error e =>
        have hproducers : startedProducers env (assignPluginPorts env serverInfos) env.setting =
          [] := by rw [startedProducers, hrouted]
        have hnew : newTemplate env (assignPluginPorts env serverInfos) none = .error e := by
          rw [newTemplate, Option.getD_none, hrouted]
          rfl
        simp only [hproducers, hnew] at h
        cases h
        simp [Ledger.Clean, Ledger.start, Rejected, Accepted, hinfos, hrouted, hnew]
      | ok t₀ =>
        have hspec := routedSpec_of_ok hrouted
        have hproducers : startedProducers env (assignPluginPorts env serverInfos) env.setting =
          t₀.apiCloses := by rw [startedProducers, hrouted]
        have hrejected : Rejected env ↔ (finishTemplate env t₀).HasDuplicates := by
          simp [Rejected, hinfos, hrouted]
        have hstarted : (Ledger.start t₀.apiCloses).producers = t₀.apiCloses.map (·, 0) := rfl
        obtain ⟨hreject, haccept⟩ := newTemplate_of_routed hrouted
        rw [hrejected]
        by_cases hduplicates : (finishTemplate env t₀).HasDuplicates
        · obtain ⟨e, hnew⟩ := hreject hduplicates
          simp only [hproducers, hnew] at h
          cases h
          simp [hduplicates, Ledger.not_clean_of_running hstarted hspec.apiCloses]
        · have hnew := haccept hduplicates
          have haccepted : Accepted env := ⟨serverInfos, _, hinfos, hnew⟩
          obtain ⟨_, _, -, hfinish⟩ := finishTemplate_eq env t₀
          have hsetting : (finishTemplate env t₀).setting = env.setting := by
            rw [hfinish]
            exact hspec.setting
          simp only [hproducers, hnew] at h
          rw [startTemplate_error hstarted rfl hspec.apiCloses h, hsetting]
          simp [hduplicates, haccepted, or_iff_not_imp_left]

end Update

/-! ### Starts that fail -/

/-- One server is connected. -/
def startEnv : TemplateEnv SOCKS where
  store :=
    { servers := [{ serverObj := { name := "a", server := "h.example", port := 1080 } }]
      connectedServers := fun name =>
        if name = "proxy" then some [⟨.server, 1, 0, "proxy"⟩] else none }

/-- Two services are to listen on the same port. -/
def collidingEnv : TemplateEnv SOCKS :=
  { startEnv with ports := { socks5 := 20170, http := 20170 } }

/-- The configuration of the core cannot be written. -/
def unwritable : StartEvents where
  writeV2rayConfig := some { text := "could not write the core config" }

/-- The core does not open its port in time. -/
def timedOut : StartEvents where
  dials := [.refused false 0, .refused false 16]

theorem clean_unwritable :
    updateV2RayConfig startEnv unwritable =
        some (unwritable.writeV2rayConfig, { producers := [(.traffic 0, 1)] }) ∧
      Ledger.Clean { producers := [(.traffic 0, 1)] } ∧ ¬Rejected startEnv := by
  have hfails : updateV2RayConfig startEnv unwritable =
    some (unwritable.writeV2rayConfig, { producers := [(.traffic 0, 1)] }) := rfl
  have hclean : Ledger.Clean { producers := [(.traffic 0, 1)] } := by decide
  exact ⟨hfails, hclean, ((clean_iff hfails).mp hclean).1⟩

/-- The producer of the traffic runs on when the template is rejected, and so does it when the core
does not open its port, whose context then is not cancelled either. -/
theorem not_clean_of_failedStart :
    updateV2RayConfig collidingEnv {} =
        some (some { text := "duplicated inbound listening address: 127.0.0.1:20170" },
          { producers := [(.traffic 0, 0)] }) ∧
      updateV2RayConfig startEnv timedOut =
        some (some (coreStartFailed ("v2raya_core did not open its API port within 15 s " ++
          "(--core-startup-timeout); the reason is in the v2rayA log")),
          { producers := [(.traffic 0, 0)], cancelled := some false }) ∧
      ¬Ledger.Clean { producers := [(.traffic 0, 0)] } ∧
      ¬Ledger.Clean { producers := [(.traffic 0, 0)], cancelled := some false } :=
  ⟨by decide +kernel, by decide +kernel, by decide, by decide⟩

end V2rayA
