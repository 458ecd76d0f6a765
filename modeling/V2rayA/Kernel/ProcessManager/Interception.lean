import V2rayA.Kernel.ProcessManager.Ownership

/-!
# No orphaned interception

When no start is in progress and there is no core, the manager has no transparent proxy on and
its rules are off the host. This holds in every state of a run in which no core exits between
the commit of a start that kept the rules and the deferred reset of its flag
(`no_orphan_of_reachableWhen`). Without that condition it fails: the handler of the exit leaves
the rules because the flag is still set, and nobody is left to remove them
(`exists_reachable_orphan`).
-/

namespace V2rayA

open StartPC

namespace Manager

variable {env : Environment} {m : Manager}

/-- The transparent proxy is off and its rules are gone. -/
def Torn (m : Manager) : Prop := m.transparentOn = false ∧ m.rules = false

/-- A teardown with the setting of a transparent proxy that is on. -/
lemma torn_checkAndStopTransparentProxy {setting : Setting}
    (hrules : m.rules → m.transparentOn)
    (hon : m.transparentOn → isTransparentOn env setting) :
    (m.checkAndStopTransparentProxy setting).Torn := by
  rw [checkAndStopTransparentProxy_eq]
  refine ⟨rfl, ?_⟩
  cases htr : m.transparentOn with
  | false => cases hr : m.rules <;> simp_all
  | true => simp [transparent_ne_close (hon htr)]

/-- A cleanup removes the rules if the setting they were written for is retained. -/
lemma torn_cleanupRetainedInterception (env : Environment)
    (hrules : m.rules → m.transparentOn)
    (hon : ∀ st, m.retainedSetting = some st → isTransparentOn env st)
    (hret : m.transparentOn → m.retainedSetting ≠ none) :
    m.cleanupRetainedInterception.Torn := by
  cases hst : m.retainedSetting with
  | none =>
    have htr : m.transparentOn = false := by simpa [hst] using hret
    have hr : m.rules = false := by simpa [htr] using hrules
    simpa [cleanupRetainedInterception, hst] using ⟨htr, hr⟩
  | some st =>
    have htorn := torn_checkAndStopTransparentProxy hrules fun _ => hon st hst
    simp only [cleanupRetainedInterception, hst]
    exact htorn

/-- Stopping a core removes its rules, unless they are kept. -/
lemma torn_stopProcess (hrules : m.rules → m.transparentOn)
    (hon : ∀ q, m.p = some q → m.transparentOn → isTransparentOn env q.setting)
    (hp : m.p = none → m.transparentOn = false) (hr : m.retainingInterception = false) :
    m.stopProcess.Torn := by
  cases hq : m.p with
  | none =>
    have htr := hp hq
    have hr : m.rules = false := by simpa [htr] using hrules
    simpa [stopProcess, hq] using ⟨htr, hr⟩
  | some q =>
    have htorn := torn_checkAndStopTransparentProxy
      (m := { m with connectivityStop := none, networkPaused := false }) hrules (hon q hq)
    simp only [stopProcess, hq, hr, Bool.false_eq_true]
    exact hq ▸ hr ▸ htorn

/-- Stopping a core whose rules are kept leaves them. -/
lemma stopProcess_of_retaining (hr : m.retainingInterception) :
    m.stopProcess.transparentOn = m.transparentOn ∧ m.stopProcess.rules = m.rules := by
  cases hq : m.p <;> simp [stopProcess, hq, hr]

end Manager

/-- What holds of the transparent proxy. -/
structure Interception (env : Environment) (s : ManagerState) : Prop where
  rules_on : s.m.rules = true → s.m.transparentOn = true
  on_process : ∀ q, s.m.p = some q → s.m.transparentOn = true →
    isTransparentOn env q.setting = true
  /-- Without a core the rules stay only if their setting is retained. -/
  on_none : s.m.p = none → s.m.transparentOn = true → s.m.retainedSetting ≠ none
  retained_on : ∀ st, s.m.retainedSetting = some st → isTransparentOn env st = true
  /-- The flag is set for a start that keeps the rules, until its deferred reset. -/
  retaining : s.m.retainingInterception = true →
    (s.start.retaining = true ∧ s.m.retainedSetting ≠ none) ∨ ∃ g ok, s.start = .clear g ok
  locked : ∀ t r, s.start = .locked t r →
    s.m.retainingInterception = r ∧ (r = true → isTransparentOn env t = true)
  startup_on : ∀ c, s.start.startup = some c → c.retained = true →
    isTransparentOn env c.process.setting = true
  setup_on : ∀ c pc, s.start = .setup c pc → isTransparentOn env c.process.setting = true
  monitor_on : ∀ g μ, s.monitors g = some μ → isTransparentOn env μ.process.setting = true

namespace Interception

variable {env : Environment} {s t : ManagerState} {choice : Choice}

section

variable (h : Interception env s)
include h

/-- A state with the transparent proxy torn down. -/
lemma of_torn {m : Manager} {pc : StartPC} (hm : m.Torn)
    (hret : m.retainedSetting ≠ none → m.retainedSetting = s.m.retainedSetting)
    (hflag : m.retainingInterception →
      (pc.retaining ∧ m.retainedSetting ≠ none) ∨ ∃ g ok, pc = .clear g ok)
    (hlocked : ∀ t r, pc ≠ .locked t r)
    (hstartup : ∀ c, pc.startup = some c → s.start.startup = some c)
    (hsetup : ∀ c x, pc = .setup c x → s.start = .setup c x) :
    Interception env { s with m, start := pc } where
  rules_on hr := by simp [hm.2] at hr
  on_process _ _ htr := by simp [hm.1] at htr
  on_none _ htr := by simp [hm.1] at htr
  retained_on st hst := by
    have hst : m.retainedSetting = some st := hst
    exact h.retained_on st (hret (by simp [hst]) ▸ hst)
  retaining := hflag
  locked t r hs := absurd hs (hlocked t r)
  startup_on c hc := h.startup_on c (hstartup c hc)
  setup_on c x hpc := h.setup_on c x (hsetup c x hpc)
  monitor_on := h.monitor_on

/-- The start goes on to `pc`. -/
lemma start_move {pc : StartPC}
    (hret : s.start.retaining → pc.retaining)
    (hclear : ∀ g ok, s.start ≠ .clear g ok) (hlocked : ∀ t r, pc ≠ .locked t r)
    (hstartup : ∀ c, pc.startup = some c → s.start.startup = some c)
    (hsetup : ∀ c x, pc = .setup c x → ∃ y, s.start = .setup c y) :
    Interception env { s with start := pc } where
  rules_on := h.rules_on
  on_process := h.on_process
  on_none := h.on_none
  retained_on := h.retained_on
  retaining hr := by
    obtain ⟨hs, hne⟩ | ⟨g, ok, hs⟩ := h.retaining hr
    · exact .inl ⟨hret hs, hne⟩
    · exact absurd hs (hclear g ok)
  locked t r hpc := absurd hpc (hlocked t r)
  startup_on c hc := h.startup_on c (hstartup c hc)
  setup_on c x hpc := by
    obtain ⟨y, hs⟩ := hsetup c x hpc
    exact h.setup_on c y hs
  monitor_on := h.monitor_on

/-- The host is changed for a process that the manager owns. -/
lemma mutate {q : Process} (hq : s.m.p = some q)
    (hon : isTransparentOn env q.setting) (ok : Bool) (call : HostCall)
    (hostMu : Option Actor) :
    Interception env { s with m := { s.m.mutate ok call with hostMu } } := by
  have hframe : (s.m.mutate ok call).p = s.m.p ∧
      (s.m.mutate ok call).retainedSetting = s.m.retainedSetting ∧
      (s.m.mutate ok call).retainingInterception = s.m.retainingInterception := by
    cases call <;> simp [Manager.mutate]
  obtain ⟨hp, hret, hflag⟩ := hframe
  exact
    { rules_on := by
        cases call with
        | delete => simp [Manager.mutate]
        | preStartHook => exact h.rules_on
        | write => simp [Manager.mutate]
        | postStartHook => exact h.rules_on
        | pause => simp [Manager.mutate]
      on_process := fun q' hq' _ => by
        obtain rfl : q = q' := Option.some.inj (hq.symm.trans (hp.symm.trans hq'))
        exact hon
      on_none := fun hnone => by simp [hp, hq] at hnone
      retained_on := by simpa only [hret] using h.retained_on
      retaining := by simpa only [hret, hflag] using h.retaining
      locked := by simpa only [hflag] using h.locked
      startup_on := h.startup_on
      setup_on := h.setup_on
      monitor_on := h.monitor_on }

variable {c : Startup}

/-- The start goes through a section of `setupTransparentProxy`. -/
lemma setup (ho : Ownership s) {pc : SetupPC} (hs : s.start = .setup c pc) {m : Manager}
    {out : Outcome SetupPC}
    (hm : setupTransparentProxy env .start c.process c.generation choice.ok s.m pc =
      some (m, out)) :
    Interception env { s with m, start := c.afterSetup out } := by
  have hstartup : s.start.startup = some c := by rw [hs]; rfl
  have hret : s.start.retaining = c.retained := by rw [hs]; rfl
  have hmove : Interception env { s with start := c.afterSetup out } := by
    refine h.start_move (by simp [hret]) (by simp [hs]) (by simp) (by simp [hstartup])
      fun c' x hout => ⟨pc, ?_⟩
    obtain rfl : c = c' := by simpa [hout, startup] using (c.startup_afterSetup out).symm
    exact hs
  rcases setupTransparentProxy_cases hm with ⟨-, -, rfl, -⟩ | ⟨call, rfl, -, -, -, rfl, rfl⟩ |
    ⟨call, rfl, rfl, rfl⟩
  · exact hmove
  · exact { hmove with }
  · have hmut : s.start.mutating := by rw [hs]; rfl
    obtain ⟨-, hp⟩ := ho.startup c hstartup
    exact hmove.mutate (hp.resolve_left (ho.start_owns hmut)) (h.setup_on c _ hs) choice.ok call none

attribute [local simp] StartPC.startup StartPC.retaining

/-- A start decides whether to keep the rules. -/
lemma lock {t : Setting} {preserve : Bool} :
    Interception env
      { s with
        m := s.m.lockForStart (s.m.retains env t preserve)
        start := .locked t (s.m.retains env t preserve) } where
  rules_on := h.rules_on
  on_process := h.on_process
  on_none hp htr := by
    have hne := h.on_none hp htr
    simp only [Manager.lockForStart, Manager.previous] at hp ⊢
    simpa [hp] using hne
  retained_on st hst := by
    cases hr : s.m.retains env t preserve with
    | false => exact h.retained_on st (by simpa [Manager.lockForStart, hr] using hst)
    | true =>
      obtain ⟨-, -, -, hprev, hon⟩ := Manager.retains_eq_true hr
      obtain rfl : t = st := by simpa [Manager.lockForStart, hr, hprev] using hst
      exact hon
  retaining hr := by
    have hr : s.m.retains env t preserve := hr
    obtain ⟨-, -, -, hprev, -⟩ := Manager.retains_eq_true hr
    exact .inl ⟨hr, by simp [Manager.lockForStart, hr, hprev]⟩
  locked t' r hpc := by
    obtain ⟨rfl, rfl⟩ := locked.inj hpc
    exact ⟨rfl, fun hr => (Manager.retains_eq_true hr).2.2.2.2⟩
  startup_on c hc := by simp at hc
  setup_on c x hpc := by simp at hpc
  monitor_on := h.monitor_on

/-- After a start that keeps the rules has stopped the old core, the rules are as before; after
another start they are gone. -/
lemma replaceOld (choice : Choice) (ho : Ownership s) {t : Setting}
    {retained : Bool} (hs : s.start = .locked t retained) :
    (retained → (s.m.replaceOld retained choice).transparentOn = s.m.transparentOn ∧
      (s.m.replaceOld retained choice).rules = s.m.rules ∧ s.m.retainedSetting ≠ none) ∧
    (retained = false → (s.m.replaceOld retained choice).Torn) := by
  obtain ⟨hflag, -⟩ := h.locked t retained hs
  constructor
  · rintro rfl
    obtain ⟨htr, hr⟩ := Manager.stopProcess_of_retaining hflag
    refine ⟨by simpa [Manager.replaceOld] using htr, by simpa [Manager.replaceOld] using hr, ?_⟩
    simpa [hs] using (h.retaining hflag).imp And.right id
  · rintro rfl
    have hp : s.m.p = none → s.m.transparentOn = false := by
      intro hp
      by_contra htr
      have hret := ho.retained (h.on_none hp (by simpa using htr))
      simp [hs] at hret
    obtain ⟨htr, hr⟩ := Manager.torn_stopProcess h.rules_on h.on_process hp hflag
    cases hst : s.m.stopProcess.hostState <;>
      simp [Manager.replaceOld, Manager.recoverHostState, Manager.Torn, hst, htr, hr]

/-- The new core does not start. -/
lemma noCore (ho : Ownership s) {t : Setting} {retained : Bool}
    (hs : s.start = .locked t retained) (g : ℕ) :
    Interception env { s with m := s.m.noCore retained choice, start := .clear g false } := by
  obtain ⟨hkept, htorn⟩ := h.replaceOld choice ho hs
  have hm : (s.m.noCore retained choice).Torn := by
    cases retained with
    | true =>
      obtain ⟨htr, hr, hne⟩ := hkept rfl
      exact Manager.torn_cleanupRetainedInterception env
        (m := { s.m.replaceOld true choice with mu := false }) (by simpa [htr, hr] using h.rules_on)
        (by simpa using h.retained_on) (by simp [hne])
    | false => exact htorn rfl
  refine h.of_torn hm ?_ (fun _ => .inr ⟨g, false, rfl⟩) (by simp) (by simp)
    (by simp)
  cases retained <;> simp [Manager.noCore]

attribute [local simp] Manager.newCore

/-- The new core has started. -/
lemma newCore (ho : Ownership s) {t : Setting} (hs : s.start = .locked t c.retained)
    (hc : c.process = ⟨s.m.generation + 1, t⟩)
    {pc : StartPC} (hpc : pc = .fail c ∨ pc = c.afterStart env) :
    Interception env
      { s with m := s.m.newCore c.retained choice c.process, start := pc } := by
  obtain ⟨hkept, htorn⟩ := h.replaceOld choice ho hs
  obtain ⟨hflag, hon⟩ := h.locked t c.retained hs
  have hpc' : pc.startup = some c ∧ pc.retaining = c.retained ∧ (∀ t r, pc ≠ .locked t r) ∧
      ∀ c' x, pc = .setup c' x → isTransparentOn env c'.process.setting = true := by
    rcases hpc with rfl | rfl
    · simp
    · unfold Startup.afterStart
      split_ifs with hr htr <;> simp
      exact htr
  obtain ⟨hstartup, hretaining, hlocked, hsetup⟩ := hpc'
  have hcOn : c.retained → isTransparentOn env c.process.setting := by
    simpa [hc] using hon
  have hkeeps : (s.m.replaceOld c.retained choice).transparentOn → c.retained := by
    intro htr
    by_contra hr
    simp [(htorn (by simpa using hr)).1] at htr
  have hrules : (s.m.replaceOld c.retained choice).rules = true →
      (s.m.replaceOld c.retained choice).transparentOn = true := by
    intro hr
    by_cases hret : c.retained = true
    · obtain ⟨htr, hrules, -⟩ := hkept hret
      exact htr.trans (h.rules_on (hrules.symm.trans hr))
    · simp [(htorn (by simpa using hret)).2] at hr
  exact
    { rules_on := hrules
      on_process := fun q hq htr => by
        obtain rfl : c.process = q := by simpa using hq
        exact hcOn (hkeeps htr)
      on_none := fun hnone => by simp at hnone
      retained_on := by simpa using h.retained_on
      retaining := fun hr => by
        have hr : c.retained := by simpa [hflag] using hr
        exact .inl ⟨hretaining.trans hr, by simpa using (hkept hr).2.2⟩
      locked := fun t r hl => absurd hl (hlocked t r)
      startup_on := fun c' hc' => by
        obtain rfl : c = c' := Option.some.inj (hstartup.symm.trans hc')
        exact hcOn
      setup_on := hsetup
      monitor_on := h.monitor_on }

/-- What a failed start leaves before the cleanup: without the flag the rules go with the
process, and the flag is set only while a setting is retained. -/
lemma abandonProcess (choice : Choice) (hs : s.start = .fail c)
    (hp : s.m.p = none ∨ s.m.ownsProcess c.process c.generation) :
    ((s.m.abandonProcess c choice).rules →
      (s.m.abandonProcess c choice).transparentOn) ∧
    ((s.m.abandonProcess c choice).transparentOn → s.m.retainedSetting ≠ none) := by
  rcases hp with hp | howns
  · have hframe : (s.m.abandonProcess c choice).transparentOn = s.m.transparentOn ∧
        ((s.m.abandonProcess c choice).rules = true → s.m.rules = true) := by
      simp only [Manager.abandonProcess, Manager.ownsProcess, Manager.recoverHostState, hp]
      split_ifs <;> simp_all
    rw [hframe.1]
    exact ⟨fun hr => h.rules_on (hframe.2 hr), h.on_none hp⟩
  · simp only [Manager.abandonProcess, howns]
    cases hflag : s.m.retainingInterception with
    | true =>
      obtain ⟨htr, hr⟩ := Manager.stopProcess_of_retaining hflag
      have hne : s.m.retainedSetting ≠ none := by
        simpa [hs] using (h.retaining hflag).imp And.right id
      rw [htr, hr]
      exact ⟨h.rules_on, fun _ => hne⟩
    | false =>
      obtain ⟨htr, hr⟩ := Manager.torn_stopProcess h.rules_on h.on_process
        (fun hp => by simp [howns.1] at hp) hflag
      simp [htr, hr]

/-- A failed start leaves nothing behind. -/
lemma abandon (ho : Ownership s) (hs : s.start = .fail c) :
    Interception env
      { s with m := s.m.abandon c choice, start := .clear c.generation false } := by
  obtain ⟨hgen, hp⟩ := ho.startup c (by rw [hs]; rfl)
  obtain ⟨-, -, -, -, hret⟩ := Manager.abandonProcess_frame choice hgen hp
  obtain ⟨hrules, hkept⟩ := h.abandonProcess choice hs (hp.imp_right fun hp => ⟨hp, hgen.symm⟩)
  have hm : (s.m.abandon c choice).Torn := by
    cases hr : c.retained with
    | true =>
      simp only [Manager.abandon, hr]
      exact Manager.torn_cleanupRetainedInterception env hrules
        (by simpa only [hret] using h.retained_on) (by simpa only [hret] using hkept)
    | false =>
      have htr : (s.m.abandonProcess c choice).transparentOn = false := by
        by_contra htr
        have := ho.retained (hkept (by simpa using htr))
        simp [hs, hr] at this
      have hrules : (s.m.abandonProcess c choice).rules = false := by simpa [htr] using hrules
      simpa [Manager.abandon, hr] using ⟨htr, hrules⟩
  have hret : (s.m.abandon c choice).retainedSetting ≠ none →
      (s.m.abandon c choice).retainedSetting = s.m.retainedSetting := by
    cases hr : c.retained <;> simp [Manager.abandon, hr, hret]
  exact h.of_torn hm hret (fun _ => .inr ⟨_, _, rfl⟩) (by simp) (by simp)
    (by simp)

lemma of_startMove (ho : Ownership s)
    (ht : StartMove env choice s t) : Interception env t := by
  cases ht with
  | lock hs _ => exact h.lock
  | noCore hs _ => exact h.noCore ho hs _
  | newCore hs _ hc _ hpc => exact h.newCore ho hs hc hpc
  | setup hs hm => exact h.setup ho hs hm
  | @spawn c hs hon howns =>
    have hmove : Interception env { s with start := .postStartHook c } :=
      h.start_move (by simp [hs]) (by simp [hs]) (by simp)
        (by simp [hs]) (by simp)
    refine { hmove with monitor_on := fun g μ hμ => ?_ }
    by_cases hg : g = c.generation
    · subst hg
      obtain rfl : ⟨c.process, .waiting⟩ = μ := by simpa using hμ
      exact hon
    · exact h.monitor_on g μ (by simpa [hg] using hμ)
  | go hpc =>
    generalize hs : s.start = pc at hpc
    cases hpc <;>
      exact h.start_move (by simp [hs]) (by simp [hs]) (by simp)
        (by simp [hs]) (by simp)
  | commit hs howns =>
    exact
      { h with
        on_none := fun hnone => by simp [howns.1] at hnone
        retained_on := by simp
        retaining := fun _ => .inr ⟨_, _, rfl⟩
        locked := by simp
        startup_on := by simp
        setup_on := by simp }
  | fail hs _ _ => exact h.abandon ho hs
  | clear hs =>
    exact
      { h with
        retaining := by simp
        locked := by simp
        startup_on := by simp
        setup_on := by simp }
  | leave hs =>
    have hmove : Interception env { s with start := .idle } :=
      h.start_move (by simp [hs]) (by simp [hs]) (by simp)
        (by simp) (by simp)
    exact { hmove with }

lemma of_monitorMove (ho : Ownership s) {g : ℕ} {μ : Monitor}
    (hg : s.monitors g = some μ) {m : Manager} {pc : MonitorPC}
    (hm : MonitorMove env choice μ.process g s.m μ.pc m pc) :
    Interception env
      { s with m, monitors := Function.update s.monitors g (some { μ with pc }) } := by
  have hmove : Interception env
      { s with monitors := Function.update s.monitors g (some { μ with pc }) } := by
    refine { h with monitor_on := fun g' μ' hμ' => ?_ }
    by_cases hg' : g' = g
    · subst hg'
      obtain rfl : { μ with pc } = μ' := by simpa using hμ'
      exact h.monitor_on g' μ hg
    · exact h.monitor_on g' μ' (by simpa [hg'] using hμ')
  have hmutate (hmut : μ.pc.mutating = true) (ok : Bool) (call : HostCall) :=
    hmove.mutate (ho.monitor_owns g μ hg hmut).1 (h.monitor_on g μ hg) ok call none
  generalize hpc : μ.pc = before at hm
  cases hm with
  | rest | probe | pause | resume | dropPause => exact hmove
  | recordPause | recordResume => exact { hmove with }
  | pausing hm =>
    rcases mutateHost_cases hm with ⟨call, rfl, -, -, rfl, rfl⟩ | ⟨call, rfl, -, -, -, rfl, rfl⟩ |
      ⟨call, rfl, rfl, rfl⟩ | ⟨call, failed, rfl, -, rfl, rfl⟩
    · exact hmove
    · exact { hmove with }
    · exact hmutate (by rw [hpc]; rfl) choice.ok call
    · exact hmove
  | resuming hm =>
    rcases setupTransparentProxy_cases hm with ⟨-, -, rfl, -⟩ | ⟨call, rfl, -, -, -, rfl, rfl⟩ |
      ⟨call, rfl, rfl, rfl⟩
    · exact hmove
    · exact { hmove with }
    · exact hmutate (by rw [hpc]; rfl) choice.ok call

/-- `Stop` leaves no rules. -/
lemma torn_stop : s.m.stop.Torn := by
  by_cases hp : s.m.p = none
  · have htorn := Manager.torn_cleanupRetainedInterception env
      (m := { s.m with retainingInterception := false }) h.rules_on h.retained_on (h.on_none hp)
    simpa [Manager.stop, hp] using htorn
  · have htorn := Manager.torn_stopProcess (m := { s.m with retainingInterception := false })
      h.rules_on h.on_process (fun hp' => absurd hp' hp) rfl
    simp only [Manager.stop, hp]
    exact htorn

end

end Interception

/-! ### The condition -/

/-- The start is about to reset its flag. -/
def StartPC.clearing : StartPC → Bool
  | clear _ _ => true
  | _ => false

/-- No core exits after the commit of a start that kept the rules and before the start has
reset its flag. -/
def ManagerAction.ExitTimely (s : ManagerState) : ManagerAction → Prop
  | .coreExit q =>
    ¬(s.m.p = some q ∧ s.start.clearing = true ∧ s.m.retainingInterception = true)
  | _ => True

instance (s : ManagerState) : (a : ManagerAction) → Decidable (a.ExitTimely s)
  | .coreExit _ => inferInstanceAs (Decidable (¬_))
  | .begin _ _ | .start _ | .stop | .setLatencyTesting _ | .monitor _ _ | .quit _ =>
    inferInstanceAs (Decidable True)

/-- The handler of the exit of a core leaves no rules, or leaves them to a start. -/
lemma Interception.coreExit {env : Environment} {s : ManagerState} {q : Process}
    (h : Interception env s) (hq : s.m.p = some q) (hlocked : ∀ t r, s.start ≠ .locked t r)
    (htimely : (ManagerAction.coreExit q).ExitTimely s) :
    Interception env { s with m := s.m.stopProcess } := by
  cases hflag : s.m.retainingInterception with
  | false =>
    exact h.of_torn
      (Manager.torn_stopProcess h.rules_on h.on_process (fun hp => by simp [hq] at hp) hflag)
      (by simp) (by simp [hflag]) hlocked (fun _ hc => hc) (fun _ _ hs => hs)
  | true =>
    obtain ⟨htr, hr⟩ := Manager.stopProcess_of_retaining hflag
    have hret : s.start.retaining ∧ s.m.retainedSetting ≠ none := by
      refine (h.retaining hflag).resolve_right ?_
      rintro ⟨g, ok, hs⟩
      exact htimely ⟨hq, by rw [hs]; rfl, hflag⟩
    exact
      { h with
        rules_on := by simpa only [htr, hr] using h.rules_on
        on_process := by simp
        on_none := fun _ _ => by simpa using hret.2
        retained_on := by simpa using h.retained_on
        retaining := fun _ => .inl ⟨hret.1, by simpa using hret.2⟩
        locked := fun t r hs => absurd hs (hlocked t r) }

lemma Interception.next {env : Environment} {s t : ManagerState} {a : ManagerAction}
    (h : Interception env s) (ho : Ownership s) (ha : a.ExitTimely s)
    (ht : s.next env a = some t) : Interception env t := by
  cases a <;> simp only [ManagerState.next] at ht
  case begin st preserve =>
    split_ifs at ht with hs
    exact Option.some.inj ht ▸ h.start_move (by simp [hs, StartPC.retaining]) (by simp [hs])
      (by simp) (by simp [StartPC.startup]) (by simp)
  case start choice => exact h.of_startMove ho (startMove_of_startStep ht)
  case stop =>
    split_ifs at ht with hbusy
    have hflag : s.m.stop.retainingInterception = false := by
      cases hp : s.m.p <;> simp [Manager.stop, hp]
    exact Option.some.inj ht ▸ h.of_torn h.torn_stop (absurd s.m.stop_frame.2.2.2.2)
      (by simp [hflag]) (ho.not_locked hbusy) (fun _ hc => hc) (fun _ _ hs => hs)
  case coreExit q =>
    split_ifs at ht with hbusy hq
    · exact Option.some.inj ht ▸ h
    · exact Option.some.inj ht ▸ h.coreExit (not_not.mp hq) (ho.not_locked hbusy) ha
  case setLatencyTesting testing =>
    split_ifs at ht
    exact Option.some.inj ht ▸ { h with }
  case monitor g choice =>
    obtain ⟨μ, hg, m, pc, hm, rfl⟩ := monitorStep_eq_some ht
    exact h.of_monitorMove ho hg hm
  case quit g =>
    obtain ⟨μ, hg, -, hm, rfl⟩ := quit_eq_some env ht
    exact h.of_monitorMove ho hg hm

lemma interception_of_reachableWhen {env : Environment} {s : ManagerState}
    (hs : (managerSystem env).ReachableWhen (fun s a => a.ExitTimely s) s) :
    Ownership s ∧ Interception env s := by
  refine hs.invariant (I := fun s => Ownership s ∧ Interception env s) ?_
    fun s a t h ha ht => ⟨h.1.next ht, h.2.next h.1 ha ht⟩
  intro s hinit
  refine ⟨ownership_of_reachableWhen (P := fun _ _ => True) (.init hinit), ?_⟩
  obtain ⟨hostState, rfl⟩ := hinit
  constructor <;> simp [startup]

/-- In a run in which every core exits before the commit of its start or after the reset of the
flag, there are no rules left when there is no core and no start is in progress. -/
theorem no_orphan_of_reachableWhen {env : Environment} {s : ManagerState}
    (hs : (managerSystem env).ReachableWhen (fun s a => a.ExitTimely s) s)
    (hidle : s.start = .idle) (hp : s.m.p = none) :
    s.m.transparentOn = false ∧ s.m.rules = false := by
  obtain ⟨ho, hi⟩ := interception_of_reachableWhen hs
  have htr : s.m.transparentOn = false := by
    by_contra htr
    have hret := ho.retained (hi.on_none hp (by simpa using htr))
    simp [hidle, retaining] at hret
  exact ⟨htr, by simpa [htr] using hi.rules_on⟩

/-! ### Runs -/

/-- Traffic is redirected to the core by TPROXY rules. -/
def tproxySetting : Setting := { transparent := .proxy, transparentType := .tproxy }

/-- A start with everything succeeding, from the call to the return. -/
def fullStart : List ManagerAction :=
  .begin tproxySetting false :: List.replicate 21 (.start {})

theorem hostMu_fullStart :
    ∃ s, (managerSystem {}).run { m := {} } (fullStart.take 7) = some s ∧ s.m.hostMu = some .start :=
  ⟨_, rfl, (@hostMu_iff {} _ (.run (.init ⟨false, rfl⟩) (fullStart.take 7) rfl)).1.mp rfl⟩

/-- A start that keeps the rules, from the call to its commit. -/
def preservingStart : List ManagerAction :=
  .begin tproxySetting true :: List.replicate 6 (.start {})

/-- A core is started and replaced with its rules kept; the new core exits when the start has
returned. -/
def lateExit : Option ManagerState :=
  (managerSystem {}).runWhen (fun s a => a.ExitTimely s) { m := {} }
    (fullStart ++ preservingStart ++ [.start {}, .start {}, .coreExit ⟨2, tproxySetting⟩])

/-- The rules that were kept are removed when the core exits late enough. -/
theorem no_orphan_of_lateExit :
    (lateExit.getD { m := {} }).m.transparentOn = false ∧
      (lateExit.getD { m := {} }).m.rules = false :=
  no_orphan_of_reachableWhen (.run (.init ⟨false, rfl⟩) _ (show lateExit = some _ from rfl)) rfl rfl

/-- A core is started and replaced with its rules kept; the new core exits when the start has
committed but has not reset its flag. The start returns `nil`, there is no core, and the rules
are on the host. -/
theorem exists_reachable_orphan :
    ∃ s, (managerSystem {}).Reachable s ∧ s.start = .idle ∧ s.m.p = none ∧
      s.m.transparentOn = true ∧ s.m.rules = true := by
  have hinit : (managerSystem {}).Reachable { m := {} } := .init ⟨false, rfl⟩
  exact ⟨_, hinit.run (fullStart ++ preservingStart ++
    [.coreExit ⟨2, tproxySetting⟩, .start {}, .start {}]) rfl, rfl, rfl, rfl, rfl⟩

end V2rayA
