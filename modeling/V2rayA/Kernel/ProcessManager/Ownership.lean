import V2rayA.Kernel.ProcessManager

/-!
# Who may change the host

`Ownership` collects what holds of the locks and of the processes in every state of the process
manager, whatever happens (`ownership_of_reachableWhen`). A thread that holds `hostMu` works
for the process that the manager owns, and that process cannot be stopped or replaced before
the thread has let go of `hostMu`; the monitor of a generation is a monitor of the process of
that generation; and a setting is retained only by a start that keeps the rules.
-/

namespace V2rayA

open Function Option StartPC Manager

/-! ### Points of the threads -/

/-- The thread in `setupTransparentProxy` holds `hostMu`. -/
def SetupPC.mutating : SetupPC → Bool
  | host (.mutate _) => true
  | _ => false

/-- What the start knows about its process. -/
def StartPC.startup : StartPC → Option Startup
  | setup c _ => some c
  | monitor c => some c
  | postStartHook c => some c
  | lastCheck c => some c
  | commit c => some c
  | fail c => some c
  | _ => none

/-- The start holds `hostMu`. -/
def StartPC.mutating : StartPC → Bool
  | setup _ pc => pc.mutating
  | _ => false

/-- The start keeps the rules of the previous core, which it has not taken over yet. -/
def StartPC.retaining : StartPC → Bool
  | locked _ retained => retained
  | setup c _ => c.retained
  | monitor c => c.retained
  | postStartHook c => c.retained
  | lastCheck c => c.retained
  | commit c => c.retained
  | fail c => c.retained
  | _ => false

/-- The start has not come to its monitor yet. -/
def StartPC.unmonitored : StartPC → Bool
  | setup _ _ => true
  | monitor _ => true
  | _ => false

/-- The monitor holds `hostMu`. -/
def MonitorPC.mutating : MonitorPC → Bool
  | pausing _ (.mutate _) => true
  | resuming pc => pc.mutating
  | _ => false

section AfterSetup

variable (c : Startup) (out : Outcome SetupPC)

@[simp]
lemma Startup.startup_afterSetup : (c.afterSetup out).startup = some c := by
  rcases out with _ | (_ | _) <;> rfl

@[simp]
lemma Startup.retaining_afterSetup : (c.afterSetup out).retaining = c.retained := by
  rcases out with _ | (_ | _) <;> rfl

@[simp]
lemma Startup.afterSetup_ne_locked (t : Setting) (retained : Bool) :
    c.afterSetup out ≠ .locked t retained := by
  rcases out with _ | (_ | _) <;> simp [Startup.afterSetup]

lemma Startup.afterSetup_not_leaving (g : ℕ) (ok : Bool) :
    ¬(c.afterSetup out = .clear g ok ∨ c.afterSetup out = .leave g ok) := by
  rcases out with _ | (_ | _) <;> simp [Startup.afterSetup]

end AfterSetup

/-! ### The sections of the calls to the host -/

section Host

variable {env : Environment} {actor : Actor} {q : Process} {g : ℕ} {ok : Bool} {m m' : Manager}

/-- The sections of `mutateHost`: give up, take `hostMu`, change the host, check the owner. -/
lemma mutateHost_cases {pc : HostPC} {out : Outcome HostPC}
    (h : mutateHost env actor q g ok m pc = some (m', out)) :
    (∃ call, pc = .lock call ∧ m.mu = false ∧ ¬m.ownsProcess q g ∧ m' = m ∧ out = .done false) ∨
    (∃ call, pc = .lock call ∧ m.mu = false ∧ m.ownsProcess q g ∧ m.hostMu = none ∧
      m' = { m with hostMu := some actor } ∧ out = .more (.mutate call)) ∨
    (∃ call, pc = .mutate call ∧ m' = { m.mutate ok call with hostMu := none } ∧
      out = .more (.verify call (!call.succeeds env ok))) ∨
    ∃ call failed, pc = .verify call failed ∧ m.mu = false ∧ m' = m ∧
      out = .done (!failed && m.ownsProcess q g) := by
  cases pc with
  | lock call =>
    by_cases hmu : m.mu = true
    · simp [mutateHost, hmu] at h
    by_cases howns : m.ownsProcess q g
    · by_cases hhost : m.hostMu = none
      · simp only [mutateHost, hmu, howns, hhost, ne_eq] at h
        grind
      · simp [mutateHost, howns, hhost] at h
    · simp only [mutateHost, hmu, howns] at h
      grind
  | mutate call =>
    cases h
    exact .inr (.inr (.inl ⟨call, rfl, rfl, rfl⟩))
  | verify call failed =>
    simp only [mutateHost] at h
    split_ifs at h with hmu
    cases h
    exact .inr (.inr (.inr ⟨call, failed, rfl, by simpa using hmu, rfl, rfl⟩))

/-- The rules have been written, if `setupTransparentProxy` has come to this point. -/
def SetupPC.written : SetupPC → Bool
  | host (.verify .write failed) => !failed
  | host pc => pc.call = .postStartHook
  | dns => false

/-- The sections of `setupTransparentProxy`: those that leave the host alone, those that take
`hostMu` and those that change the host. -/
lemma setupTransparentProxy_cases {pc : SetupPC} {out : Outcome SetupPC}
    (h : setupTransparentProxy env actor q g ok m pc = some (m', out)) :
    (pc.mutating = false ∧ m.mu = false ∧ m' = m ∧
      (out = .done false ∨ (out = .done true ∧ pc.written ∧ m.ownsProcess q g) ∨
        ∃ pc', out = .more pc' ∧ pc'.mutating = false ∧ (pc'.written → pc.written))) ∨
    (∃ call, pc = .host (.lock call) ∧ m.mu = false ∧ m.ownsProcess q g ∧ m.hostMu = none ∧
      m' = { m with hostMu := some actor } ∧ out = .more (.host (.mutate call))) ∨
    ∃ call, pc = .host (.mutate call) ∧ m' = { m.mutate ok call with hostMu := none } ∧
      out = .more (.host (.verify call (!call.succeeds env ok))) := by
  cases pc with
  | host pc =>
    obtain ⟨⟨n, o⟩, hn⟩ : ∃ r, mutateHost env actor q g ok m pc = some r := by
      cases hr : mutateHost env actor q g ok m pc with
      | none => simp [setupTransparentProxy, hr] at h
      | some r => exact ⟨r, rfl⟩
    simp only [setupTransparentProxy, hn] at h
    rcases mutateHost_cases hn with ⟨call, rfl, hmu, -, rfl, rfl⟩ |
      ⟨call, rfl, hmu, howns, hhost, rfl, rfl⟩ | ⟨call, rfl, rfl, rfl⟩ |
      ⟨call, failed, rfl, hmu, rfl, rfl⟩
    · cases h
      exact .inl ⟨rfl, hmu, rfl, .inl rfl⟩
    · cases h
      exact .inr (.inl ⟨call, rfl, hmu, howns, hhost, rfl, rfl⟩)
    · cases h
      exact .inr (.inr ⟨call, rfl, rfl, rfl⟩)
    · refine .inl ⟨rfl, hmu, ?_⟩
      cases hout : !failed && decide (n.ownsProcess q g) with
      | false =>
        rw [hout] at h
        cases h
        exact ⟨rfl, .inl rfl⟩
      | true =>
        rw [hout] at h
        cases h
        simp only [Bool.and_eq_true, decide_eq_true_eq] at hout
        cases call <;> simp [HostPC.call, HostCall.next, SetupPC.written, SetupPC.mutating, hout]
  | dns =>
    simp only [setupTransparentProxy] at h
    split_ifs at h with hmu howns
    · cases h
      exact .inl ⟨rfl, by simpa using hmu, rfl, .inr (.inr ⟨_, rfl, rfl, by
        simp [SetupPC.written, HostPC.call]⟩)⟩
    · cases h
      exact .inl ⟨rfl, by simpa using hmu, rfl, .inl rfl⟩

end Host

/-! ### What the steps can do -/

/-- The next point of a start that only looks at the owner. -/
inductive StartPC.Follows : StartPC → StartPC → Prop
  | monitor (c : Startup) : Follows (.monitor c) (.postStartHook c)
  | postStartHook (c : Startup) : Follows (.postStartHook c) (.lastCheck c)
  | lastCheck (c : Startup) : Follows (.lastCheck c) (.commit c)
  | postStartHook_fail (c : Startup) : Follows (.postStartHook c) (.fail c)
  | lastCheck_fail (c : Startup) : Follows (.lastCheck c) (.fail c)
  | commit_fail (c : Startup) : Follows (.commit c) (.fail c)

/-- The steps of a start. -/
inductive StartMove (env : Environment) (choice : Choice) (s : ManagerState) :
    ManagerState → Prop
  | lock {t : Setting} {preserve : Bool} (hs : s.start = .entered t preserve)
      (hmu : s.m.mu = false) :
      StartMove env choice s
        { s with
          m := s.m.lockForStart (s.m.retains env t preserve)
          start := .locked t (s.m.retains env t preserve) }
  | noCore {t : Setting} {retained : Bool} (hs : s.start = .locked t retained)
      (hhost : s.m.hostMu = none) :
      StartMove env choice s
        { s with
          m := s.m.noCore retained choice
          start := .clear (s.m.generation + 1) false }
  | newCore {t : Setting} {c : Startup} (hs : s.start = .locked t c.retained)
      (hhost : s.m.hostMu = none) (hc : c.process = ⟨s.m.generation + 1, t⟩)
      (hgen : c.generation = s.m.generation + 1) {pc : StartPC}
      (hpc : pc = .fail c ∨ pc = c.afterStart env) :
      StartMove env choice s
        { s with m := s.m.newCore c.retained choice c.process, start := pc }
  | setup {c : Startup} {pc : SetupPC} (hs : s.start = .setup c pc) {m : Manager}
      {out : Outcome SetupPC}
      (hm : setupTransparentProxy env .start c.process c.generation choice.ok s.m pc =
        some (m, out)) :
      StartMove env choice s { s with m, start := c.afterSetup out }
  | spawn {c : Startup} (hs : s.start = .monitor c)
      (hon : isTransparentOn env c.process.setting = true)
      (howns : s.m.ownsProcess c.process c.generation) :
      StartMove env choice s
        { s with
          m := { s.m with connectivityStop := some c.generation }
          monitors := Function.update s.monitors c.generation (some ⟨c.process, .waiting⟩)
          start := .postStartHook c }
  | go {pc : StartPC} (hpc : s.start.Follows pc) : StartMove env choice s { s with start := pc }
  | commit {c : Startup} (hs : s.start = .commit c)
      (howns : s.m.ownsProcess c.process c.generation) :
      StartMove env choice s
        { s with
          m := { s.m with hostState := false, retainedSetting := none }
          start := .clear c.generation true }
  | fail {c : Startup} (hs : s.start = .fail c) (hmu : s.m.mu = false)
      (hhost : s.m.hostMu = none) :
      StartMove env choice s
        { s with m := s.m.abandon c choice, start := .clear c.generation false }
  | clear {g : ℕ} {ok : Bool} (hs : s.start = .clear g ok) :
      StartMove env choice s
        { s with m := { s.m with retainingInterception := false }, start := .leave g ok }
  | leave {g : ℕ} {ok : Bool} (hs : s.start = .leave g ok) :
      StartMove env choice s
        { s with start := .idle, returnedNil := if ok then some g else s.returnedNil }

variable {env : Environment}

lemma startMove_of_startStep {choice : Choice} {s t : ManagerState}
    (ht : startStep env s choice = some t) : StartMove env choice s t := by
  unfold startStep at ht
  cases hs : s.start <;> simp only [hs] at ht
  case idle => cases ht
  case entered st preserve =>
    split_ifs at ht with hmu
    exact some.inj ht ▸ .lock hs (by simpa using hmu)
  case locked st retained =>
    let c : Startup := ⟨⟨s.m.generation + 1, st⟩, s.m.generation + 1, retained⟩
    split_ifs at ht with hhost hok hmarked
    · exact some.inj ht ▸ .newCore (c := c) hs (not_not.mp hhost) rfl rfl (.inr rfl)
    · exact some.inj ht ▸ .newCore (c := c) hs (not_not.mp hhost) rfl rfl (.inl rfl)
    · exact some.inj ht ▸ .noCore hs (not_not.mp hhost)
  case setup c pc =>
    cases hm : setupTransparentProxy env .start c.process c.generation choice.ok s.m pc with
    | none => simp [hm] at ht
    | some r =>
      simp only [hm, some.injEq] at ht
      exact ht ▸ .setup hs hm
  case monitor c =>
    split_ifs at ht with hoff hmu hskip
    · exact some.inj ht ▸ .go (hs ▸ .monitor c)
    · exact some.inj ht ▸ .go (hs ▸ .monitor c)
    · exact some.inj ht ▸ .spawn hs (by simp_all) (by simp_all)
  case postStartHook c =>
    split_ifs at ht
    · exact some.inj ht ▸ .go (hs ▸ .postStartHook c)
    · exact some.inj ht ▸ .go (hs ▸ .postStartHook_fail c)
  case lastCheck c =>
    split_ifs at ht
    · exact some.inj ht ▸ .go (hs ▸ .lastCheck c)
    · exact some.inj ht ▸ .go (hs ▸ .lastCheck_fail c)
  case commit c =>
    split_ifs at ht with hmu howns
    · exact some.inj ht ▸ .commit hs howns.1
    · exact some.inj ht ▸ .go (hs ▸ .commit_fail c)
  case fail c =>
    split_ifs at ht with hbusy
    obtain ⟨hmu, hhost⟩ := not_or.mp hbusy
    exact some.inj ht ▸ .fail hs (by simpa using hmu) (not_not.mp hhost)
  case clear g ok =>
    exact some.inj ht ▸ .clear hs
  case leave g ok =>
    exact some.inj ht ▸ .leave hs

/-- The steps of the connectivity monitor of the process `q` of a generation. -/
inductive MonitorMove (env : Environment) (choice : Choice) (q : Process) (g : ℕ) (m : Manager) :
    MonitorPC → Manager → MonitorPC → Prop
  /-- A check ends without a change. -/
  | rest {pc pc' : MonitorPC} (hpc : pc = .waiting ∨ (∃ paused, pc = .probe paused) ∨
        pc = .resumeFailed ∨ pc = .recordResume)
      (hpc' : pc' = .waiting ∨ pc' = .exited) :
      MonitorMove env choice q g m pc m pc'
  | probe : MonitorMove env choice q g m .waiting m (.probe m.networkPaused)
  | pause {dead : Bool} : MonitorMove env choice q g m (.probe false) m (.pausing dead (.lock .pause))
  | resume : MonitorMove env choice q g m (.probe true) m (.resuming (.host (.lock .delete)))
  | pausing {dead : Bool} {pc : HostPC} {m' : Manager} {out : Outcome HostPC}
      (hm : mutateHost env (.monitor g) q g choice.ok m pc = some (m', out)) :
      MonitorMove env choice q g m (.pausing dead pc) m' (.afterPause dead out)
  | recordPause {dead : Bool} {pc' : MonitorPC} (howns : m.ownsProcess q g)
      (hpc' : pc' = .waiting ∨ pc' = .exited) :
      MonitorMove env choice q g m (.recordPause dead) { m with networkPaused := true } pc'
  | dropPause {dead : Bool} (h : ¬(m.ownsProcess q g ∧ ¬m.testing)) :
      MonitorMove env choice q g m (.recordPause dead) m .exited
  | resuming {pc : SetupPC} {m' : Manager} {out : Outcome SetupPC}
      (hm : setupTransparentProxy env (.monitor g) q g choice.ok m pc = some (m', out)) :
      MonitorMove env choice q g m (.resuming pc) m' (.afterResume out)
  | recordResume (howns : m.ownsProcess q g) :
      MonitorMove env choice q g m .recordResume { m with networkPaused := false } .waiting

lemma monitorMove_of_syncConnectivityState {choice : Choice} {q : Process} {g : ℕ}
    {m m' : Manager} {pc pc' : MonitorPC}
    (h : syncConnectivityState env q g choice m pc = some (m', pc')) :
    MonitorMove env choice q g m pc m' pc' := by
  cases pc <;> simp only [syncConnectivityState] at h
  case waiting =>
    split_ifs at h <;> cases h
    · exact .rest (.inl rfl) (.inr rfl)
    · exact .rest (.inl rfl) (.inl rfl)
    · exact .probe
  case probe paused =>
    split_ifs at h with hmu howns hhealthy hpaused hpaused <;>
      cases h
    · subst hpaused
      exact .resume
    · exact .rest (.inr (.inl ⟨paused, rfl⟩)) (.inl rfl)
    · exact .rest (.inr (.inl ⟨paused, rfl⟩)) (.inl rfl)
    · obtain rfl : paused = false := by simpa using hpaused
      exact .pause
    · exact .rest (.inr (.inl ⟨paused, rfl⟩)) (.inr rfl)
  case pausing dead pc =>
    cases hm : mutateHost env (.monitor g) q g choice.ok m pc with
    | none => simp [hm] at h
    | some r =>
      simp only [hm] at h
      cases h
      exact .pausing hm
  case recordPause dead =>
    split_ifs at h with hmu howns hdead <;> cases h
    · exact .recordPause howns.1 (.inr rfl)
    · exact .recordPause howns.1 (.inl rfl)
    · exact .dropPause howns
  case resuming pc =>
    cases hm : setupTransparentProxy env (.monitor g) q g choice.ok m pc with
    | none => simp [hm] at h
    | some r =>
      simp only [hm] at h
      cases h
      exact .resuming hm
  case resumeFailed =>
    split_ifs at h <;> cases h
    · exact .rest (.inr (.inr (.inl rfl))) (.inl rfl)
    · exact .rest (.inr (.inr (.inl rfl))) (.inr rfl)
  case recordResume =>
    split_ifs at h with hmu howns <;> cases h
    · exact .recordResume howns.1
    · exact .rest (.inr (.inr (.inr rfl))) (.inr rfl)
  case exited => cases h

section Monitors

variable {env : Environment} {s t : ManagerState} {g : ℕ}

lemma monitorStep_eq_some {choice : Choice} (ht : monitorStep env s g choice = some t) :
    ∃ μ, s.monitors g = some μ ∧ ∃ m pc, MonitorMove env choice μ.process g s.m μ.pc m pc ∧
      t = { s with m, monitors := update s.monitors g (some { μ with pc }) } := by
  cases hg : s.monitors g with
  | none => simp [monitorStep, hg] at ht
  | some μ =>
    cases hm : syncConnectivityState env μ.process g choice s.m μ.pc with
    | none => simp [monitorStep, hg, hm] at ht
    | some r =>
      simp only [monitorStep, hg, hm, some.injEq] at ht
      exact ⟨μ, rfl, r.1, r.2, monitorMove_of_syncConnectivityState hm, ht.symm⟩

lemma quit_eq_some (env : Environment) (ht : s.next env (.quit g) = some t) :
    ∃ μ, s.monitors g = some μ ∧ μ.pc = .waiting ∧
      MonitorMove env {} μ.process g s.m μ.pc s.m .exited ∧
      t = { s with monitors := update s.monitors g (some { μ with pc := .exited }) } := by
  cases hg : s.monitors g with
  | none => simp [ManagerState.next, hg] at ht
  | some μ =>
    simp only [ManagerState.next, hg] at ht
    split_ifs at ht with hμ
    exact ⟨μ, rfl, hμ.1, .rest (.inl hμ.1) (.inr rfl), (some.inj ht).symm⟩

end Monitors

/-! ### The invariant -/

/-- What holds of the locks and of the processes whatever happens. -/
structure Ownership (s : ManagerState) : Prop where
  /-- `m.mu` is held across steps by a start that waits for `hostMu`. -/
  mu_iff : s.m.mu = true ↔ ∃ t retained, s.start = .locked t retained
  /-- A start that has created its process is the last start, and its process is not replaced. -/
  startup : ∀ c, s.start.startup = some c →
    c.generation = s.m.generation ∧ (s.m.p = none ∨ s.m.p = some c.process)
  start_host : s.start.mutating = true ↔ s.m.hostMu = some .start
  /-- The process is not stopped while the start changes the host for it. -/
  start_owns : s.start.mutating = true → s.m.p ≠ none
  monitor_host : ∀ g, (∃ μ, s.monitors g = some μ ∧ μ.pc.mutating = true) ↔
    s.m.hostMu = some (.monitor g)
  /-- The process is not stopped while its monitor changes the host. -/
  monitor_owns : ∀ g μ, s.monitors g = some μ → μ.pc.mutating = true →
    s.m.ownsProcess μ.process g
  monitor_le : ∀ g μ, s.monitors g = some μ → g ≤ s.m.generation
  /-- The monitor of the last generation watches the process that the manager owns. -/
  monitor_process : ∀ q μ, s.m.p = some q → s.monitors s.m.generation = some μ → μ.process = q
  /-- There is no monitor of a generation before the start of that generation comes to it. -/
  unmonitored : s.start.unmonitored = true → s.monitors s.m.generation = none
  /-- A setting is retained by a start that keeps the rules. -/
  retained : s.m.retainedSetting ≠ none → s.start.retaining = true

namespace Ownership

variable {env : Environment} {s t : ManagerState} {choice : Choice}

lemma not_locked (h : Ownership s) {p : Prop} (hmu : ¬(s.m.mu ∨ p)) (t r) :
    s.start ≠ .locked t r :=
  fun hs => hmu (.inl (h.mu_iff.mpr ⟨t, r, hs⟩))

variable {m : Manager}

section

variable (h : Ownership s)
include h

/-- The process may be stopped while `hostMu` is free. -/
lemma of_stop (hfree : s.m.hostMu = none) : Ownership { s with m.p := none } where
  mu_iff := h.mu_iff
  startup c hc := ⟨(h.startup c hc).1, .inl rfl⟩
  start_host := h.start_host
  start_owns hs := absurd (h.start_host.mp hs) (by simp [hfree])
  monitor_host := h.monitor_host
  monitor_owns g μ hg hμ := absurd ((h.monitor_host g).mp ⟨μ, hg, hμ⟩) (by simp [hfree])
  monitor_le := h.monitor_le
  monitor_process := by simp
  unmonitored := h.unmonitored
  retained := h.retained

/-- The invariant depends on the manager through its process, its locks and what it retains. -/
lemma of_eq (hp : m.p = s.m.p) (hgen : m.generation = s.m.generation)
    (hmu : m.mu = s.m.mu) (hhost : m.hostMu = s.m.hostMu)
    (hret : m.retainedSetting ≠ none → s.m.retainedSetting ≠ none) :
    Ownership { s with m } where
  mu_iff := hmu ▸ h.mu_iff
  startup := by simpa only [hp, hgen] using h.startup
  start_host := by simpa only [hhost] using h.start_host
  start_owns := by simpa only [hp] using h.start_owns
  monitor_host := by simpa only [hhost] using h.monitor_host
  monitor_owns := by simpa only [ownsProcess, hp, hgen] using h.monitor_owns
  monitor_le := by simpa only [hgen] using h.monitor_le
  monitor_process := by simpa only [hp, hgen] using h.monitor_process
  unmonitored := by simpa only [hgen] using h.unmonitored
  retained hne := h.retained (hret hne)

/-- The start goes on to `pc`, and takes `hostMu` or lets go of it as the two points say. -/
lemma start_move (pc : StartPC) (hostMu : Option Actor)
    (hmu : s.m.mu = false) (hlocked : ∀ t r, pc ≠ .locked t r)
    (hhost : pc.mutating ↔ hostMu = some .start)
    (howns : pc.mutating → s.m.p ≠ none)
    (hother : ∀ g, hostMu = some (.monitor g) ↔ s.m.hostMu = some (.monitor g))
    (hstartup : ∀ c, pc.startup = some c → s.start.startup = some c)
    (hmon : pc.unmonitored → s.start.unmonitored)
    (hret : s.m.retainedSetting ≠ none → s.start.retaining → pc.retaining) :
    Ownership { s with m := { s.m with hostMu }, start := pc } where
  mu_iff := by simp [hmu, hlocked]
  startup c hc := h.startup c (hstartup c hc)
  start_host := hhost
  start_owns := howns
  monitor_host g := (h.monitor_host g).trans (hother g).symm
  monitor_owns := h.monitor_owns
  monitor_le := h.monitor_le
  monitor_process := h.monitor_process
  unmonitored hpc := h.unmonitored (hmon hpc)
  retained hne := hret hne (h.retained hne)

/-- The monitor of a generation goes on to `pc`, and takes `hostMu` or lets go of it as the two
points say. -/
lemma monitor_move {g : ℕ} {μ : Monitor} (hg : s.monitors g = some μ)
    (pc : MonitorPC) (hostMu : Option Actor)
    (hhost : pc.mutating ↔ hostMu = some (.monitor g))
    (howns : pc.mutating → s.m.ownsProcess μ.process g)
    (hother : ∀ a, a ≠ .monitor g → (hostMu = some a ↔ s.m.hostMu = some a)) :
    Ownership
      { s with
        m := { s.m with hostMu }
        monitors := update s.monitors g (some { μ with pc }) } where
  mu_iff := h.mu_iff
  startup := h.startup
  start_host := h.start_host.trans (hother .start (by simp)).symm
  start_owns := h.start_owns
  monitor_host g' := by
    by_cases hg' : g' = g
    · subst hg'
      simpa using hhost
    · simpa [hg'] using (h.monitor_host g').trans (hother (.monitor g') (by simpa using hg')).symm
  monitor_owns g' μ' hμ' hmut := by
    by_cases hg' : g' = g
    · subst hg'
      obtain rfl : { μ with pc } = μ' := by simpa using hμ'
      exact howns hmut
    · exact h.monitor_owns g' μ' (by simpa [hg'] using hμ') hmut
  monitor_le g' μ' hμ' := by
    by_cases hg' : g' = g
    · exact hg' ▸ h.monitor_le g μ hg
    · exact h.monitor_le g' μ' (by simpa [hg'] using hμ')
  monitor_process q μ' hq hμ' := by
    by_cases hg' : s.m.generation = g
    · obtain rfl : { μ with pc } = μ' := by simpa [hg'] using hμ'
      exact h.monitor_process q μ hq (hg'.symm ▸ hg)
    · exact h.monitor_process q μ' hq (by simpa [hg'] using hμ')
  unmonitored hs := by
    have hnone := h.unmonitored hs
    have hg' : s.m.generation ≠ g := by
      rintro rfl
      simp [hnone] at hg
    simpa [hg'] using hnone
  retained := h.retained

/-- The start goes on without touching the host. -/
lemma start_skip {pc : StartPC} (hmu : s.m.mu = false)
    (hlocked : ∀ t r, pc ≠ .locked t r) (hfrom : s.start.mutating = false)
    (hto : pc.mutating = false) (hstartup : ∀ c, pc.startup = some c → s.start.startup = some c)
    (hmon : pc.unmonitored → s.start.unmonitored)
    (hret : s.m.retainedSetting ≠ none → s.start.retaining → pc.retaining) :
    Ownership { s with start := pc } := by
  have hhost : s.m.hostMu ≠ some .start := fun hh => by simp [h.start_host.mpr hh] at hfrom
  exact h.start_move _ _ hmu hlocked (by simp [hto, hhost]) (by simp [hto]) (fun _ => Iff.rfl) hstartup
    hmon hret

/-- A start decides whether to keep the rules. -/
lemma lock {t : Setting} {preserve : Bool}
    (hs : s.start = .entered t preserve) {retained : Bool} :
    Ownership { s with m := s.m.lockForStart retained, start := .locked t retained } where
  mu_iff := by simp [lockForStart]
  startup c hc := by simp [StartPC.startup] at hc
  start_host := by simpa [hs, StartPC.mutating, lockForStart] using h.start_host
  start_owns hpc := by simp [StartPC.mutating] at hpc
  monitor_host := h.monitor_host
  monitor_owns := h.monitor_owns
  monitor_le := h.monitor_le
  monitor_process := h.monitor_process
  unmonitored hpc := by simp [StartPC.unmonitored] at hpc
  retained hne := by
    -- Nothing was retained before, so what is retained now is retained by this start.
    have hnone : s.m.retainedSetting = none := by
      by_contra hne
      simpa [hs, StartPC.retaining] using h.retained hne
    cases retained with
    | true => rfl
    | false => simp [lockForStart, hnone] at hne

/-- The state that a start reaches when it lets go of `m.mu`. -/
lemma replace {t : Setting} {retained : Bool}
    (hs : s.start = .locked t retained) (hhost : s.m.hostMu = none) {pc : StartPC}
    (hgen : m.generation = s.m.generation + 1) (hmu : m.mu = false) (hfree : m.hostMu = none)
    (hlocked : ∀ t r, pc ≠ .locked t r) (hmut : pc.mutating = false)
    (hstartup : ∀ c, pc.startup = some c → c.generation = m.generation ∧ m.p = some c.process)
    (hret : m.retainedSetting ≠ none → s.m.retainedSetting ≠ none ∧ pc.retaining = retained) :
    Ownership { s with m, start := pc } := by
  have hmon : ∀ g μ, s.monitors g = some μ → μ.pc.mutating = false := by
    intro g μ hg
    by_contra hμ
    simpa [hhost] using (h.monitor_host g).mp ⟨μ, hg, by simpa using hμ⟩
  have hnew : s.monitors m.generation = none := by
    by_contra hne
    obtain ⟨μ, hμ⟩ := ne_none_iff_exists'.mp hne
    have := h.monitor_le _ _ hμ
    omega
  exact
    { mu_iff := by simp [hmu, hlocked]
      startup := fun c hc => ⟨(hstartup c hc).1, .inr (hstartup c hc).2⟩
      start_host := by simp [hmut, hfree]
      start_owns := by simp [hmut]
      monitor_host := fun g => by
        simp only [hfree, reduceCtorEq, iff_false, not_exists, not_and]
        intro μ hg
        simp [hmon g μ hg]
      monitor_owns := fun g μ hg hμ => by simp [hmon g μ hg] at hμ
      monitor_le := fun g μ hg => by
        have := h.monitor_le g μ hg
        show g ≤ m.generation
        omega
      monitor_process := fun q μ _ hμ => by simp [hnew] at hμ
      unmonitored := fun _ => hnew
      retained := fun hne => by
        obtain ⟨hne, heq⟩ := hret hne
        show pc.retaining = true
        rw [heq]
        simpa [hs, retaining] using h.retained hne }

end

variable {c : Startup}

/-- The start goes through a section of `setupTransparentProxy`. -/
lemma setup (h : Ownership s) {pc : SetupPC} (hs : s.start = .setup c pc) {out : Outcome SetupPC}
    (hm : setupTransparentProxy env .start c.process c.generation choice.ok s.m pc =
      some (m, out)) :
    Ownership { s with m, start := c.afterSetup out } := by
  have hmu : s.m.mu = false := by
    by_contra hmu
    obtain ⟨t, r, hl⟩ := h.mu_iff.mp (by simpa using hmu)
    simp [hs] at hl
  have hstartup : s.start.startup = some c := by rw [hs]; rfl
  have hmon : s.start.unmonitored := by rw [hs]; rfl
  have hret : s.start.retaining = c.retained := by rw [hs]; rfl
  rcases setupTransparentProxy_cases hm with ⟨hpc, -, rfl, hout⟩ |
    ⟨call, rfl, -, howns, hhost, rfl, rfl⟩ | ⟨call, rfl, rfl, rfl⟩
  · have hfrom : s.start.mutating = false := by rw [hs]; exact hpc
    have hto : (c.afterSetup out).mutating = false := by
      rcases hout with rfl | ⟨rfl, -⟩ | ⟨pc', rfl, hpc', -⟩
      exacts [rfl, rfl, hpc']
    exact h.start_skip hmu (by simp) hfrom hto (by simp [hstartup]) (by simp [hmon])
      (by simp [hret])
  · exact h.start_move _ _ hmu (by simp) (by simp [Startup.afterSetup, mutating,
      SetupPC.mutating]) (by simp [howns.1]) (by simp [hhost]) (by simp [hstartup]) (by simp [hmon])
      (by simp [hret])
  · have hheld : s.m.hostMu = some .start := h.start_host.mp (by rw [hs]; rfl)
    have hmove := h.start_move
      (c.afterSetup (.more (.host (.verify call (!call.succeeds env choice.ok))))) none hmu (by simp)
      (by simp [Startup.afterSetup, mutating, SetupPC.mutating])
      (by simp [Startup.afterSetup, mutating, SetupPC.mutating]) (by simp [hheld])
      (by simp [hstartup]) (by simp [hmon]) (by simp [hret])
    cases call <;> exact hmove.of_eq rfl rfl rfl rfl id

/-- The start spawns its monitor. -/
lemma spawn (h : Ownership s) (hs : s.start = .monitor c)
    (howns : s.m.ownsProcess c.process c.generation) :
    Ownership
      { s with
        m := { s.m with connectivityStop := some c.generation }
        monitors := update s.monitors c.generation (some ⟨c.process, .waiting⟩)
        start := .postStartHook c } := by
  have hnone : s.monitors c.generation = none :=
    howns.2 ▸ h.unmonitored (by simp [hs, StartPC.unmonitored])
  exact
    { mu_iff := by simpa [hs] using h.mu_iff
      startup := fun c' hc' => h.startup c' (by simpa [hs, StartPC.startup] using hc')
      start_host := by simpa [hs, StartPC.mutating] using h.start_host
      start_owns := by simp [StartPC.mutating]
      monitor_host := fun g => by
        by_cases hg : g = c.generation
        · subst hg
          simpa [hnone, MonitorPC.mutating] using h.monitor_host c.generation
        · simpa [hg] using h.monitor_host g
      monitor_owns := fun g μ hμ hmut => by
        by_cases hg : g = c.generation
        · subst hg
          obtain rfl : ⟨c.process, .waiting⟩ = μ := by simpa using hμ
          simp [MonitorPC.mutating] at hmut
        · exact h.monitor_owns g μ (by simpa [hg] using hμ) hmut
      monitor_le := fun g μ hμ => by
        by_cases hg : g = c.generation
        · exact (hg.trans howns.2.symm).le
        · exact h.monitor_le g μ (by simpa [hg] using hμ)
      monitor_process := fun q μ hq hμ => by
        obtain rfl : ⟨c.process, .waiting⟩ = μ := by simpa [howns.2] using hμ
        exact some.inj (howns.1.symm.trans hq)
      unmonitored := by simp [StartPC.unmonitored]
      retained := fun hne => by simpa [hs, StartPC.retaining] using h.retained hne }

/-- A failed start cleans up. -/
lemma abandon (h : Ownership s) (hs : s.start = .fail c) (hmu : s.m.mu = false)
    (hhost : s.m.hostMu = none) :
    Ownership { s with m := s.m.abandon c choice, start := .clear c.generation false } := by
  have hframe : (s.m.abandon c choice).p = none ∧
      (s.m.abandon c choice).generation = s.m.generation ∧
      (s.m.abandon c choice).mu = s.m.mu ∧ (s.m.abandon c choice).hostMu = s.m.hostMu ∧
      ((s.m.abandon c choice).retainedSetting ≠ none →
        s.m.retainedSetting ≠ none ∧ c.retained = false) := by
    obtain ⟨hgen, hp⟩ := h.startup c (by rw [hs]; rfl)
    have hframe := Manager.abandonProcess_frame choice hgen hp
    cases hr : c.retained <;> simp [Manager.abandon, hr, hframe]
  obtain ⟨hp, hgen, hmu', hhost', hret⟩ := hframe
  have hstop := (h.of_stop hhost).of_eq hp hgen hmu' hhost' fun hne => (hret hne).1
  refine hstop.start_skip (hmu'.trans hmu) (by simp) (by simp [hs, StartPC.mutating]) rfl
    (by simp [StartPC.startup]) (by simp [StartPC.unmonitored]) fun hne hpc => ?_
  simp [hs, StartPC.retaining, (hret hne).2] at hpc

attribute [local simp] StartPC.mutating StartPC.retaining StartPC.startup StartPC.unmonitored in
lemma of_startMove (h : Ownership s) (ht : StartMove env choice s t) : Ownership t := by
  have hmu (hl : ∀ t r, s.start ≠ .locked t r) : s.m.mu = false := by
    by_contra hmu
    obtain ⟨t, r, hs⟩ := h.mu_iff.mp (by simpa using hmu)
    exact hl t r hs
  cases ht with
  | lock hs _ => exact h.lock hs
  | @noCore st retained hs hhost =>
    have hret : (s.m.noCore retained choice).retainedSetting = none := by
      cases retained with
      | true => simp [noCore]
      | false =>
        by_contra hne
        simpa [hs] using h.retained (by simpa [noCore] using hne)
    refine h.replace hs hhost ?_ ?_ ?_ (by simp) rfl (by simp) fun hne => absurd hret hne
    all_goals cases retained <;> simp [noCore, hhost]
  | @newCore st c hs hhost hc hgen pc hpc =>
    have hpc : pc.mutating = false ∧ pc.startup = some c ∧ pc.retaining = c.retained ∧
        ∀ t r, pc ≠ .locked t r := by
      rcases hpc with rfl | rfl
      · simp
      · unfold Startup.afterStart
        split_ifs <;> simp [SetupPC.mutating]
    obtain ⟨hmut, hstartup, hret, hlocked⟩ := hpc
    exact h.replace hs hhost (by simp [newCore]) rfl (by simp [newCore, hhost])
      hlocked hmut (by simp [hstartup, newCore, hgen, -StartPC.startup])
      (by simp [hret, newCore, -StartPC.retaining])
  | setup hs hm => exact h.setup hs hm
  | spawn hs _ howns => exact h.spawn hs howns
  | go hpc =>
    generalize hs : s.start = pc at hpc
    cases hpc <;>
      exact h.start_skip (hmu (by simp [hs])) (by simp) (by simp [hs]) rfl
        (by simp [hs]) (by simp) (by simp [hs])
  | @commit c hs howns =>
    have hskip := h.of_eq (m := { s.m with hostState := false, retainedSetting := none })
      rfl rfl rfl rfl (by simp)
    exact hskip.start_skip (hmu (by simp [hs])) (by simp) (by simp [hs]) rfl
      (by simp) (by simp) (by simp)
  | fail hs hmu hhost => exact h.abandon hs hmu hhost
  | clear hs =>
    have hskip := h.of_eq (m := { s.m with retainingInterception := false }) rfl rfl rfl rfl id
    exact hskip.start_skip (hmu (by simp [hs])) (by simp) (by simp [hs]) rfl
      (by simp) (by simp) (by simp [hs])
  | leave hs =>
    have hskip : Ownership { s with start := .idle } :=
      h.start_skip (hmu (by simp [hs])) (by simp) (by simp [hs]) rfl
        (by simp) (by simp) (by simp [hs])
    exact { hskip with }

section Monitor

variable {g : ℕ} {μ : Monitor} {pc : MonitorPC} (h : Ownership s) (hg : s.monitors g = some μ)
include h hg

/-- A monitor goes on without touching the host. -/
lemma monitor_skip (pc : MonitorPC) (hfrom : μ.pc.mutating = false) (hto : pc.mutating = false) :
    Ownership { s with monitors := update s.monitors g (some { μ with pc }) } := by
  have hhost : s.m.hostMu ≠ some (.monitor g) := by
    intro hheld
    obtain ⟨μ', hμ', hmut⟩ := (h.monitor_host g).mpr hheld
    obtain rfl : μ = μ' := some.inj (hg.symm.trans hμ')
    simp [hfrom] at hmut
  exact h.monitor_move hg pc s.m.hostMu (by simp [hto, hhost]) (by simp [hto]) (by simp)

/-- A monitor takes `hostMu`. -/
lemma monitor_acquire (howns : s.m.ownsProcess μ.process g) (hhost : s.m.hostMu = none)
    (hto : pc.mutating) :
    Ownership
      { s with
        m := { s.m with hostMu := some (.monitor g) }
        monitors := update s.monitors g (some { μ with pc }) } :=
  h.monitor_move hg pc (some (.monitor g)) (by simp [hto]) (fun _ => howns)
    fun a ha => by simpa [hhost] using Ne.symm ha

/-- A monitor changes the host and lets go of `hostMu`. -/
lemma monitor_release (hfrom : μ.pc.mutating) (hto : pc.mutating = false) {ok : Bool}
    {call : HostCall} :
    Ownership
      { s with
        m := { s.m.mutate ok call with hostMu := none }
        monitors := update s.monitors g (some { μ with pc }) } := by
  have hheld : s.m.hostMu = some (.monitor g) := (h.monitor_host g).mp ⟨μ, hg, hfrom⟩
  have hmove := h.monitor_move hg pc none (by simp [hto]) (by simp [hto])
    fun a ha => by simpa [hheld] using Ne.symm ha
  cases call <;> exact hmove.of_eq rfl rfl rfl rfl id

lemma of_monitorMove {m : Manager} (hm : MonitorMove env choice μ.process g s.m μ.pc m pc) :
    Ownership { s with m, monitors := update s.monitors g (some { μ with pc }) } := by
  generalize hpc : μ.pc = before at hm
  cases hm with
  | rest hfrom hto =>
    refine h.monitor_skip hg _ ?_ (by rcases hto with rfl | rfl <;> rfl)
    rw [hpc]
    rcases hfrom with rfl | ⟨_, rfl⟩ | rfl | rfl <;> rfl
  | probe => exact h.monitor_skip hg _ (by rw [hpc]; rfl) rfl
  | pause => exact h.monitor_skip hg _ (by rw [hpc]; rfl) rfl
  | resume => exact h.monitor_skip hg _ (by rw [hpc]; rfl) rfl
  | pausing hm =>
    rcases mutateHost_cases hm with ⟨call, rfl, -, -, rfl, rfl⟩ |
      ⟨call, rfl, -, howns, hhost, rfl, rfl⟩ | ⟨call, rfl, rfl, rfl⟩ |
      ⟨call, failed, rfl, -, rfl, rfl⟩
    · exact h.monitor_skip hg _ (by rw [hpc]; rfl) rfl
    · exact h.monitor_acquire hg howns hhost rfl
    · exact h.monitor_release hg (by rw [hpc]; rfl) rfl
    · refine h.monitor_skip hg _ (by rw [hpc]; rfl) ?_
      cases !failed && decide (s.m.ownsProcess μ.process g) <;> rfl
  | recordPause howns hto =>
    have hmove := h.monitor_skip hg pc (by rw [hpc]; rfl)
      (by rcases hto with rfl | rfl <;> rfl)
    exact hmove.of_eq rfl rfl rfl rfl id
  | dropPause _ => exact h.monitor_skip hg _ (by rw [hpc]; rfl) rfl
  | resuming hm =>
    rcases setupTransparentProxy_cases hm with ⟨hfrom, -, rfl, hout⟩ |
      ⟨call, rfl, -, howns, hhost, rfl, rfl⟩ | ⟨call, rfl, rfl, rfl⟩
    · refine h.monitor_skip hg _ (by rw [hpc]; exact hfrom) ?_
      rcases hout with rfl | ⟨rfl, -⟩ | ⟨pc', rfl, hpc', -⟩
      exacts [rfl, rfl, hpc']
    · exact h.monitor_acquire hg howns hhost rfl
    · exact h.monitor_release hg (by rw [hpc]; rfl) rfl
  | recordResume howns =>
    have hmove := h.monitor_skip hg .waiting (by rw [hpc]; rfl) rfl
    exact hmove.of_eq rfl rfl rfl rfl id

end Monitor

/-- Whatever happens next, the invariant holds again. -/
lemma next {a : ManagerAction} (h : Ownership s) (ht : s.next env a = some t) :
    Ownership t := by
  cases a <;> simp only [ManagerState.next] at ht
  case begin st preserve =>
    split_ifs at ht with hs
    have hmu : s.m.mu = false := by
      by_contra hmu
      obtain ⟨t, r, hl⟩ := h.mu_iff.mp (by simpa using hmu)
      simp [hs] at hl
    exact some.inj ht ▸ h.start_skip hmu (by simp) (by rw [hs]; rfl) rfl
      (by simp [StartPC.startup]) (by simp [StartPC.unmonitored]) (by simp [hs, StartPC.retaining])
  case start choice => exact h.of_startMove (startMove_of_startStep ht)
  case stop =>
    split_ifs at ht with hbusy
    obtain ⟨hp, hgen, hmu, hhost, hret⟩ := s.m.stop_frame
    exact some.inj ht ▸
      (h.of_stop (not_not.mp (not_or.mp hbusy).2)).of_eq hp hgen hmu hhost (absurd hret)
  case coreExit q =>
    split_ifs at ht with hbusy hq
    · exact some.inj ht ▸ h
    · exact some.inj ht ▸
        (h.of_stop (not_not.mp (not_or.mp hbusy).2)).of_eq (by simp) (by simp) (by simp)
          (by simp) (by simp)
  case setLatencyTesting testing =>
    split_ifs at ht
    exact some.inj ht ▸ h.of_eq rfl rfl rfl rfl id
  case monitor g choice =>
    obtain ⟨μ, hg, m, pc, hm, rfl⟩ := monitorStep_eq_some ht
    exact h.of_monitorMove hg hm
  case quit g =>
    obtain ⟨μ, hg, -, hm, rfl⟩ := quit_eq_some env ht
    exact h.of_monitorMove hg hm

end Ownership

/-- The locks and the processes are in order in every state. -/
lemma ownership_of_reachableWhen {P : ManagerState → ManagerAction → Prop} {s : ManagerState}
    (h : (managerSystem env).ReachableWhen P s) : Ownership s := by
  refine h.invariant ?_ fun s a t hs _ ht => hs.next ht
  rintro _ ⟨hostState, rfl⟩
  constructor <;> simp [startup, mutating]

/-- The host is changed by the holder of `hostMu`, and for the process that the manager owns. -/
theorem hostMu_iff {s : ManagerState} (hs : (managerSystem env).Reachable s) :
    (s.start.mutating ↔ s.m.hostMu = some .start) ∧ (s.start.mutating → s.m.p ≠ none) ∧
      ∀ g, ((∃ μ, s.monitors g = some μ ∧ μ.pc.mutating) ↔ s.m.hostMu = some (.monitor g)) ∧
        ∀ μ, s.monitors g = some μ → μ.pc.mutating → s.m.ownsProcess μ.process g :=
  have h := ownership_of_reachableWhen hs
  ⟨h.start_host, h.start_owns, fun g => ⟨h.monitor_host g, h.monitor_owns g⟩⟩

end V2rayA
