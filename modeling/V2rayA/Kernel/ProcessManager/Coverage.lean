import V2rayA.Kernel.ProcessManager.Interception

/-!
# Interception is present after a start

When a start has returned `nil` and its core is still the one that the manager owns, the rules
are on the host unless the monitor has paused the transparent proxy. This holds in every state
of a run in which no start that may keep the rules decides to while a check of the monitor is
removing them, and in which no latency test begins between the removal of the rules and the
record of the pause (`rules_of_reachableWhen`). Each of the two conditions is needed
(`exists_reachable_uncovered`).
-/

namespace V2rayA

open Function Option StartPC Manager

/-! ### Points of the threads -/

/-- The rules have been removed and the pause has not been recorded. -/
def MonitorPC.unrecorded : MonitorPC → Bool
  | pausing _ (.verify _ _) => true
  | recordPause _ => true
  | _ => false

/-- The rules are being removed. -/
def MonitorPC.removing : MonitorPC → Bool
  | pausing _ (.mutate _) => true
  | _ => false

/-- The check resumes a transparent proxy that it has found paused. -/
def MonitorPC.resumes : MonitorPC → Bool
  | probe paused => paused
  | resuming _ => true
  | recordResume => true
  | _ => false

/-- The rules have been written again. -/
def MonitorPC.rewritten : MonitorPC → Bool
  | resuming pc => pc.written
  | recordResume => true
  | _ => false

/-- The call of `mutateHost` is the one that removes the rules, which does not fail. -/
def HostPC.Pauses : HostPC → Prop
  | lock call => call = .pause
  | mutate call => call = .pause
  | verify call failed => call = .pause ∧ failed = false

/-- The start has not written the rules yet, or it has failed. -/
def StartPC.unwritten : StartPC → Bool
  | setup _ pc => !pc.written
  | fail _ => true
  | _ => false

/-- The monitor of the last generation, if its point satisfies `f`. -/
def ManagerState.current (s : ManagerState) (f : MonitorPC → Bool) : Prop :=
  ∃ μ, s.monitors s.m.generation = some μ ∧ f μ.pc = true

/-! ### The invariant -/

/-- What holds of the rules while there is a core. -/
structure Coverage (env : Environment) (s : ManagerState) : Prop where
  covered : ∀ q, s.m.p = some q → isTransparentOn env q.setting = true →
    s.m.networkPaused = false →
    s.m.rules = true ∨ s.current MonitorPC.unrecorded ∨ s.start.unwritten = true
  resumes : s.m.p ≠ none → s.current MonitorPC.resumes → s.m.networkPaused = true
  rewritten : s.m.p ≠ none → s.current MonitorPC.rewritten → s.m.rules = true
  pauses : ∀ g μ dead pc, s.monitors g = some μ → μ.pc = .pausing dead pc → pc.Pauses
  /-- A start that keeps the rules finds them on the host, and nobody is changing the host. -/
  locked : ∀ t r, s.start = .locked t r → s.m.retainingInterception = r ∧
    (r = true → s.m.rules = true ∧ s.m.hostMu = none)
  returned_le : ∀ g, s.returnedNil = some g → g ≤ s.m.generation
  returned_lt : ∀ c, s.start.startup = some c → ∀ g, s.returnedNil = some g → g < s.m.generation
  leaving_le : ∀ g ok, s.start = .clear g ok ∨ s.start = .leave g ok → g ≤ s.m.generation

namespace Coverage

variable {env : Environment} {s t : ManagerState} {choice : Choice}

variable {pc : StartPC}

/-- There is no process, so only the locks and the generations matter. -/
lemma of_none (h : Coverage env s) {m : Manager} (hp : m.p = none)
    (hgen : s.m.generation ≤ m.generation) (hlocked : ∀ t r, pc ≠ .locked t r)
    (hstartup : ∀ c, pc.startup = some c → s.start.startup = some c)
    (hleaving : ∀ g ok, pc = .clear g ok ∨ pc = .leave g ok → g ≤ m.generation) :
    Coverage env { s with m, start := pc } where
  covered q hq := by simp [hp] at hq
  resumes hne := absurd hp hne
  rewritten hne := absurd hp hne
  pauses := h.pauses
  locked t r hs := absurd hs (hlocked t r)
  returned_le g hg := (h.returned_le g hg).trans hgen
  returned_lt c hc g hg := (h.returned_lt c (hstartup c hc) g hg).trans_le hgen
  leaving_le := hleaving

/-- The start goes on to `pc`. -/
lemma start_move (h : Coverage env s)
    (hunwritten : s.start.unwritten → pc.unwritten)
    (hlocked : ∀ t r, pc ≠ .locked t r)
    (hstartup : ∀ c, pc.startup = some c → s.start.startup = some c)
    (hleaving : ∀ g ok, pc = .clear g ok ∨ pc = .leave g ok → g ≤ s.m.generation) :
    Coverage env { s with start := pc } where
  covered q hq hon hpaused :=
    (h.covered q hq hon hpaused).imp_right (Or.imp_right hunwritten)
  resumes := h.resumes
  rewritten := h.rewritten
  pauses := h.pauses
  locked t r hs := absurd hs (hlocked t r)
  returned_le := h.returned_le
  returned_lt c hc := h.returned_lt c (hstartup c hc)
  leaving_le := hleaving

attribute [local simp] StartPC.unwritten

/-- A start decides whether to keep the rules, while no check is removing them. -/
lemma lock (h : Coverage env s) (ho : Ownership s) {t : Setting} {preserve : Bool}
    (hs : s.start = .entered t preserve)
    (hquiet : preserve → ¬s.current fun pc => pc.removing || pc.unrecorded) :
    Coverage env
      { s with
        m := s.m.lockForStart (s.m.retains env t preserve)
        start := .locked t (s.m.retains env t preserve) } := by
  refine
    { h with
      covered := fun q hq hon hpaused => ?_
      locked := fun t' r hpc => ?_
      returned_lt := by simp [startup]
      leaving_le := by simp }
  · refine (h.covered q hq hon hpaused).imp_right (Or.imp_right fun hun => ?_)
    simp [hs] at hun
  · obtain ⟨rfl, rfl⟩ := locked.inj hpc
    refine ⟨rfl, fun hr => ?_⟩
    obtain ⟨hpres, hpaused, -, hprev, hon⟩ := retains_eq_true hr
    have hquiet := hquiet hpres
    -- A setting that outlives its core is retained by a start, and this one has none yet.
    obtain ⟨q, hq⟩ : ∃ q, s.m.p = some q := by
      by_contra hnone
      simp at hnone
      have hp : s.m.p = none := eq_none_iff_forall_ne_some.mpr hnone
      have hret := ho.retained (by simpa [previous, hp] using ne_of_eq_of_ne hprev (by simp))
      simp [hs, retaining] at hret
    obtain rfl : q.setting = t := by simpa [previous, hq] using hprev
    constructor
    · rcases h.covered q hq hon hpaused with hr | ⟨μ, hμ, hopen⟩ | hun
      · exact hr
      · exact absurd ⟨μ, hμ, by simp [hopen]⟩ hquiet
      · simp [hs] at hun
    · show s.m.hostMu = none
      by_contra hbusy
      obtain ⟨a, ha⟩ := ne_none_iff_exists'.mp hbusy
      cases a with
      | start => simpa [hs, mutating] using ho.start_host.mpr ha
      | monitor g =>
        obtain ⟨μ, hμ, hmut⟩ := (ho.monitor_host g).mpr ha
        obtain ⟨-, rfl⟩ := ho.monitor_owns g μ hμ hmut
        -- A check that resumes has found the proxy paused, so this one is removing the rules.
        by_cases hres : μ.pc.resumes = true
        · simp [h.resumes (by simp [hq]) ⟨μ, hμ, hres⟩] at hpaused
        · refine hquiet ⟨μ, hμ, ?_⟩
          cases hpc : μ.pc with
          | pausing dead pc =>
            cases pc <;> simp_all [MonitorPC.mutating, MonitorPC.removing]
          | _ => simp_all [MonitorPC.mutating, MonitorPC.resumes]

variable {c : Startup}

attribute [local simp] ManagerState.current

/-- The new core has started. -/
lemma newCore (h : Coverage env s) (ho : Ownership s) {t : Setting}
    (hs : s.start = .locked t c.retained) (hpc : pc = .fail c ∨ pc = c.afterStart env) :
    Coverage env { s with m := s.m.newCore c.retained choice c.process, start := pc } := by
  obtain ⟨hflag, hkept⟩ := h.locked t c.retained hs
  have hgen : (s.m.newCore c.retained choice c.process).generation = s.m.generation + 1 := by
    simp [Manager.newCore]
  have hnew : s.monitors (s.m.generation + 1) = none := by
    by_contra hne
    obtain ⟨μ, hμ⟩ := ne_none_iff_exists'.mp hne
    have := ho.monitor_le _ _ hμ
    omega
  have hcurrent (f : MonitorPC → Bool) : ¬ManagerState.current
      { s with m := s.m.newCore c.retained choice c.process, start := pc } f := by
    simp [hgen, hnew]
  have hpc' : (∀ t r, pc ≠ .locked t r) ∧ ∀ g ok, ¬(pc = .clear g ok ∨ pc = .leave g ok) := by
    rcases hpc with rfl | rfl
    · simp
    · unfold Startup.afterStart
      split_ifs <;> simp
  refine
    { covered := fun q hq hon _ => ?_
      resumes := fun _ hc => absurd hc (hcurrent _)
      rewritten := fun _ hc => absurd hc (hcurrent _)
      pauses := h.pauses
      locked := fun t r hl => absurd hl (hpc'.1 t r)
      returned_le := fun g hg => by
        have := h.returned_le g hg
        show g ≤ (s.m.newCore c.retained choice c.process).generation
        omega
      returned_lt := fun _ _ g hg => by
        have := h.returned_le g hg
        show g < (s.m.newCore c.retained choice c.process).generation
        omega
      leaving_le := fun g ok hl => absurd hl (hpc'.2 g ok) }
  obtain rfl : c.process = q := by simpa [Manager.newCore] using hq
  rcases hpc with rfl | rfl
  · exact .inr (.inr rfl)
  · by_cases hr : c.retained = true
    · left
      have hflag := hflag.trans hr
      simpa [Manager.newCore, Manager.replaceOld, hr,
        (Manager.stopProcess_of_retaining hflag).2] using (hkept hr).1
    · refine .inr (.inr ?_)
      simp [Startup.afterStart, hr, hon, SetupPC.written, HostPC.call]

/-- The start goes through a section of `setupTransparentProxy`. It has no monitor yet. -/
lemma setup (h : Coverage env s) (ho : Ownership s) {pc : SetupPC} (hs : s.start = .setup c pc)
    {m : Manager} {out : Outcome SetupPC}
    (hm : setupTransparentProxy env .start c.process c.generation choice.ok s.m pc =
      some (m, out)) :
    Coverage env { s with m, start := c.afterSetup out } := by
  have hstartup : s.start.startup = some c := by rw [hs]; rfl
  have hnone : s.monitors s.m.generation = none := ho.unmonitored (by rw [hs]; rfl)
  have hmove (hun : s.start.unwritten = true → (c.afterSetup out).unwritten = true) :
      Coverage env { s with start := c.afterSetup out } :=
    h.start_move hun (by simp) (by simp [hstartup])
      fun g ok hl => absurd hl (c.afterSetup_not_leaving out g ok)
  rcases setupTransparentProxy_cases hm with ⟨-, -, rfl, hout⟩ | ⟨call, rfl, -, -, -, rfl, rfl⟩ |
    ⟨call, rfl, rfl, rfl⟩
  · apply hmove
    rcases hout with rfl | ⟨rfl, hw, -⟩ | ⟨pc', rfl, -, hw⟩
    · exact fun _ => rfl
    · simp [hs, hw]
    · simp only [hs, unwritten, Startup.afterSetup, Bool.not_eq_true']
      exact fun hpc => by simpa [hpc] using hw
  · have hmove := hmove (by rw [hs]; exact id)
    exact { hmove with locked := fun t r hl => by simp at hl }
  · have hframe : (s.m.mutate choice.ok call).p = s.m.p ∧
        (s.m.mutate choice.ok call).generation = s.m.generation ∧
        (s.m.mutate choice.ok call).networkPaused = s.m.networkPaused := by
      cases call <;> simp [mutate]
    obtain ⟨hp, hgen, hpaused⟩ := hframe
    have hcurrent (f : MonitorPC → Bool) : ¬s.current f := by simp [hnone]
    refine
      { covered := fun q hq hon hnot => ?_
        resumes := fun _ hc => absurd (by simpa [hgen] using hc) (hcurrent _)
        rewritten := fun _ hc =>
          absurd (by simpa [hgen] using hc) (hcurrent _)
        pauses := h.pauses
        locked := fun t r hl => by simp at hl
        returned_le := by simpa [hgen] using h.returned_le
        returned_lt := by simpa [hgen] using h.returned_lt c hstartup
        leaving_le := fun g ok hl => by simp [Startup.afterSetup] at hl }
    cases call with
    | delete | preStartHook | pause => exact .inr (.inr rfl)
    | write =>
      cases hok : choice.ok with
      | true => exact .inl rfl
      | false => exact .inr (.inr rfl)
    | postStartHook =>
      left
      rcases h.covered q hq hon hnot with hr | hc | hun
      · exact hr
      · exact absurd hc (hcurrent _)
      · simp [hs, SetupPC.written, HostPC.call] at hun

/-- The start spawns its monitor. -/
lemma spawn (h : Coverage env s) (ho : Ownership s) (hs : s.start = .monitor c)
    (howns : s.m.ownsProcess c.process c.generation) :
    Coverage env
      { s with
        m := { s.m with connectivityStop := some c.generation }
        monitors := update s.monitors c.generation (some ⟨c.process, .waiting⟩)
        start := .postStartHook c } := by
  have hnone : s.monitors s.m.generation = none := ho.unmonitored (by rw [hs]; rfl)
  refine
    { covered := fun q hq hon hpaused => ?_
      resumes := by simp [howns.2, MonitorPC.resumes]
      rewritten := by simp [howns.2, MonitorPC.rewritten]
      pauses := fun g μ dead pc hμ hpc => ?_
      locked := by simp
      returned_le := h.returned_le
      returned_lt := fun c' _ => h.returned_lt c (by rw [hs]; rfl)
      leaving_le := by simp }
  · rcases h.covered q hq hon hpaused with hr | ⟨μ, hμ, -⟩ | hun
    · exact .inl hr
    · simp [hnone] at hμ
    · simp [hs] at hun
  · by_cases hg : g = c.generation
    · subst hg
      obtain rfl : ⟨c.process, .waiting⟩ = μ := by simpa using hμ
      simp at hpc
    · exact h.pauses g μ dead pc (by simpa [hg] using hμ) hpc

lemma of_startMove (h : Coverage env s) (ho : Ownership s)
    (hquiet : ∀ t, s.start = .entered t true →
      ¬s.current fun pc => pc.removing || pc.unrecorded)
    (ht : StartMove env choice s t) : Coverage env t := by
  cases ht with
  | lock hs _ => exact h.lock ho hs fun hpres => hquiet _ (hpres ▸ hs)
  | @noCore st retained hs _ =>
    have hframe : (s.m.noCore retained choice).p = none ∧
        (s.m.noCore retained choice).generation = s.m.generation + 1 := by
      cases retained <;> simp [noCore]
    refine h.of_none hframe.1 (by omega) (by simp) (by simp [startup]) ?_
    rintro g ok (hl | hl) <;> simp at hl
    omega
  | newCore hs _ _ _ hpc => exact h.newCore ho hs hpc
  | setup hs hm => exact h.setup ho hs hm
  | spawn hs _ howns => exact h.spawn ho hs howns
  | go hpc =>
    generalize hs : s.start = pc at hpc
    cases hpc <;>
      exact h.start_move (by simp [hs]) (by simp) (by simp [hs, startup])
        (by simp)
  | @commit c hs howns =>
    have hmove : Coverage env { s with start := .clear c.generation true } :=
      h.start_move (by simp [hs]) (by simp) (by simp [startup])
        (by simp [howns.2])
    exact { hmove with }
  | @fail c hs _ _ =>
    obtain ⟨hgen, hp⟩ := ho.startup c (by rw [hs]; rfl)
    have hframe := abandonProcess_frame choice hgen hp
    have hframe : (s.m.abandon c choice).p = none ∧
        (s.m.abandon c choice).generation = s.m.generation := by
      cases hr : c.retained <;> simp [abandon, hr, hframe]
    refine h.of_none hframe.1 hframe.2.ge (by simp) (by simp [startup]) ?_
    rintro g ok (hl | hl) <;> simp at hl
    omega
  | @clear g ok hs =>
    have hmove : Coverage env { s with start := .leave g ok } :=
      h.start_move (by simp [hs]) (by simp) (by simp [startup])
        (by simpa using h.leaving_le g ok (.inl hs))
    exact { hmove with locked := by simp }
  | @leave g ok hs =>
    have hmove : Coverage env { s with start := .idle } :=
      h.start_move (by simp [hs]) (by simp) (by simp [startup])
        (by simp)
    refine { hmove with returned_le := fun g' hg' => ?_, returned_lt := by simp [startup] }
    cases ok with
    | true =>
      obtain rfl : g = g' := by simpa using hg'
      exact h.leaving_le g true (.inr hs)
    | false => exact h.returned_le g' (by simpa using hg')

section Monitor

variable {g : ℕ} {μ : Monitor} {m : Manager} {pc : MonitorPC}

@[simp]
lemma resumes_afterPause {dead : Bool} {out : Outcome HostPC} :
    (MonitorPC.afterPause dead out).resumes = false := by
  rcases out with _ | (_ | _) <;> rfl

@[simp]
lemma rewritten_afterPause {dead : Bool} {out : Outcome HostPC} :
    (MonitorPC.afterPause dead out).rewritten = false := by
  rcases out with _ | (_ | _) <;> rfl

/-- The monitor of the last generation owns the process, if there is one. -/
private lemma owns_of_current (ho : Ownership s) (hg : s.monitors g = some μ)
    (hg' : g = s.m.generation) (hne : s.m.p ≠ none) : s.m.ownsProcess μ.process g := by
  obtain ⟨q, hq⟩ := ne_none_iff_exists'.mp hne
  exact ⟨by rw [hq, ho.monitor_process q μ hq (hg' ▸ hg)], hg'.symm⟩

variable (h : Coverage env s) (hg : s.monitors g = some μ)
include h hg

/-- The monitor of a generation goes on to `pc` and leaves the manager in the state `m`. Only the
monitor of the last generation matters while there is a process. -/
lemma monitor_move
    (hframe : m.p = s.m.p ∧ m.generation = s.m.generation ∧
      m.retainingInterception = s.m.retainingInterception)
    (hother : g ≠ s.m.generation →
      m.rules = s.m.rules ∧ m.networkPaused = s.m.networkPaused)
    (hcovered : g = s.m.generation → ∀ q, s.m.p = some q →
      isTransparentOn env q.setting → m.networkPaused = false →
      m.rules ∨ pc.unrecorded ∨ s.start.unwritten)
    (hresumes : g = s.m.generation → s.m.p ≠ none → pc.resumes → m.networkPaused)
    (hrewritten : g = s.m.generation → s.m.p ≠ none → pc.rewritten → m.rules)
    (hpauses : ∀ dead x, pc = .pausing dead x → x.Pauses)
    (hlocked : ∀ t, s.start = .locked t true → m.rules ∧ m.hostMu = none) :
    Coverage env { s with m, monitors := update s.monitors g (some { μ with pc }) } := by
  obtain ⟨hp, hgen, hflag⟩ := hframe
  have hcur (f : MonitorPC → Bool) : ManagerState.current
      { s with m, monitors := update s.monitors g (some { μ with pc }) } f ↔
      (g = s.m.generation ∧ f pc = true) ∨ (g ≠ s.m.generation ∧ s.current f) := by
    by_cases hg' : g = s.m.generation
    · subst hg'
      simp [hgen]
    · simp [hgen, hg', update_of_ne (Ne.symm hg')]
  exact
    { covered := fun q hq hon hpaused => by
        have hq : s.m.p = some q := hp.symm.trans hq
        rw [hcur]
        by_cases hg' : g = s.m.generation
        · exact (hcovered hg' q hq hon hpaused).imp_right (Or.imp_left fun hun => .inl ⟨hg', hun⟩)
        · obtain ⟨hr, hpaused'⟩ := hother hg'
          exact hr ▸ (h.covered q hq hon (hpaused'.symm.trans hpaused)).imp_right
            (Or.imp_left fun hun => .inr ⟨hg', hun⟩)
      resumes := fun hne hc => by
        have hne : s.m.p ≠ none := hp ▸ hne
        rcases (hcur _).mp hc with ⟨hg', hc⟩ | ⟨hg', hc⟩
        · exact hresumes hg' hne hc
        · exact (hother hg').2.trans (h.resumes hne hc)
      rewritten := fun hne hc => by
        have hne : s.m.p ≠ none := hp ▸ hne
        rcases (hcur _).mp hc with ⟨hg', hc⟩ | ⟨hg', hc⟩
        · exact hrewritten hg' hne hc
        · exact (hother hg').1.trans (h.rewritten hne hc)
      pauses := fun g' μ' dead x hμ' hx => by
        by_cases hg' : g' = g
        · subst hg'
          obtain rfl : { μ with pc } = μ' := by simpa using hμ'
          exact hpauses dead x hx
        · exact h.pauses g' μ' dead x (by simpa [hg'] using hμ') hx
      locked := fun t r hl => by
        refine ⟨hflag.trans (h.locked t r hl).1, ?_⟩
        rintro rfl
        exact hlocked t hl
      returned_le := by simpa only [hgen] using h.returned_le
      returned_lt := by simpa only [hgen] using h.returned_lt
      leaving_le := by simpa only [hgen] using h.leaving_le }

/-- A monitor goes on without touching the manager. -/
lemma monitor_skip
    (hunrecorded : g = s.m.generation → s.m.p ≠ none → μ.pc.unrecorded →
      pc.unrecorded)
    (hresumes : pc.resumes → μ.pc.resumes ∨ s.m.networkPaused)
    (hrewritten : pc.rewritten → μ.pc.rewritten)
    (hpauses : ∀ dead x, pc = .pausing dead x → x.Pauses) :
    Coverage env { s with monitors := update s.monitors g (some { μ with pc }) } := by
  have hcur {f : MonitorPC → Bool} (hg' : g = s.m.generation) : s.current f ↔ f μ.pc := by
    simp [← hg', hg]
  refine h.monitor_move hg ⟨rfl, rfl, rfl⟩ (fun _ => ⟨rfl, rfl⟩) (fun hg' q hq hon hpaused => ?_)
    (fun hg' hne hpc => ?_) (fun hg' hne hpc => ?_) hpauses fun t hl => (h.locked t true hl).2 rfl
  · refine (h.covered q hq hon hpaused).imp_right (Or.imp_left fun hun => ?_)
    exact hunrecorded hg' (by simp [hq]) ((hcur hg').mp hun)
  · exact (hresumes hpc).elim (fun hμ => h.resumes hne ((hcur hg').mpr hμ)) id
  · exact h.rewritten hne ((hcur hg').mpr (hrewritten hpc))

/-- A monitor takes `hostMu`, which no start holds `m.mu` for. -/
lemma monitor_acquire (ho : Ownership s) (hmu : s.m.mu = false)
    (hunrecorded : μ.pc.unrecorded = false)
    (hresumes : pc.resumes → μ.pc.resumes)
    (hrewritten : pc.rewritten → μ.pc.rewritten)
    (hpauses : ∀ dead x, pc = .pausing dead x → x.Pauses) :
    Coverage env
      { s with
        m := { s.m with hostMu := some (.monitor g) }
        monitors := update s.monitors g (some { μ with pc }) } := by
  have hskip := h.monitor_skip hg (by simp [hunrecorded]) (fun hpc => .inl (hresumes hpc))
    hrewritten hpauses
  refine { hskip with locked := fun t r hl => ?_ }
  simpa [hmu] using ho.mu_iff.mpr ⟨t, r, hl⟩

/-- The monitor of the last generation changes the host. -/
lemma monitor_mutate (ho : Ownership s) (hmut : μ.pc.mutating) {ok : Bool} {call : HostCall}
    (hcovered : pc.unrecorded ∨ s.m.networkPaused)
    (hresumes : pc.resumes → s.m.networkPaused)
    (hrewritten : pc.rewritten → (s.m.mutate ok call).rules)
    (hpauses : ∀ dead x, pc = .pausing dead x → x.Pauses) :
    Coverage env
      { s with
        m := { s.m.mutate ok call with hostMu := none }
        monitors := update s.monitors g (some { μ with pc }) } := by
  have hgen : s.m.generation = g := (ho.monitor_owns g μ hg hmut).2
  have hpaused : (s.m.mutate ok call).networkPaused = s.m.networkPaused := by cases call <;> rfl
  refine h.monitor_move hg (by cases call <;> simp [mutate]) (fun hne => absurd hgen.symm hne)
    (fun _ q _ _ hnot => ?_) (fun _ _ hpc => hpaused.trans (hresumes hpc)) (fun _ _ => hrewritten)
    hpauses fun t hl => ?_
  · refine .inr (.inl (hcovered.resolve_right fun hp => ?_))
    simp [hpaused, hp] at hnot
  · -- A start that keeps the rules has seen `hostMu` free.
    have hfree := ((h.locked t true hl).2 rfl).2
    simpa [hfree] using (ho.monitor_host g).mp ⟨μ, hg, hmut⟩

attribute [local simp] MonitorPC.unrecorded MonitorPC.afterResume MonitorPC.afterPause
  MonitorPC.resumes MonitorPC.rewritten

lemma of_monitorMove (ho : Ownership s)
    (hrecord : ∀ dead, μ.pc = .recordPause dead → s.m.ownsProcess μ.process g →
      s.m.testing = false)
    (hm : MonitorMove env choice μ.process g s.m μ.pc m pc) :
    Coverage env { s with m, monitors := update s.monitors g (some { μ with pc }) } := by
  generalize hpc : μ.pc = before at hm
  cases hm with
  | rest hfrom hto =>
    refine h.monitor_skip hg (fun _ _ hun => ?_) ?_ ?_ ?_
    · rw [hpc] at hun
      rcases hfrom with rfl | ⟨_, rfl⟩ | rfl | rfl <;> simp at hun
    all_goals rcases hto with rfl | rfl <;> simp
  | probe =>
    exact h.monitor_skip hg (by simp [hpc]) (fun hpaused => .inr hpaused)
      (by simp) (by simp)
  | pause =>
    exact h.monitor_skip hg (by simp [hpc]) (by simp)
      (by simp) (by simp [HostPC.Pauses])
  | resume =>
    exact h.monitor_skip hg (by simp [hpc]) (by simp [hpc])
      (by simp [SetupPC.written, HostPC.call]) (by simp)
  | @pausing dead x m' out hm =>
    have hx := h.pauses g μ dead x hg hpc
    rcases mutateHost_cases hm with ⟨call, rfl, -, -, rfl, rfl⟩ | ⟨call, rfl, hmu, -, -, rfl, rfl⟩ |
      ⟨call, rfl, rfl, rfl⟩ | ⟨call, failed, rfl, -, rfl, rfl⟩
    · exact h.monitor_skip hg (by simp [hpc]) (by simp) (by simp)
        (by simp)
    · refine h.monitor_acquire hg ho hmu (by simp [hpc]) (by simp) (by simp) ?_
      rintro _ _ ⟨⟩
      exact hx
    · refine h.monitor_mutate hg ho (by rw [hpc]; rfl) (.inl rfl) (by simp) (by simp) ?_
      rintro _ _ ⟨⟩
      obtain rfl : call = .pause := hx
      exact ⟨rfl, rfl⟩
    · obtain ⟨rfl, rfl⟩ := hx
      by_cases howns : s.m.ownsProcess μ.process g
      · simp only [howns, decide_true]
        exact h.monitor_skip hg (fun _ _ _ => rfl) (by simp) (by simp)
          (by simp)
      · simp only [howns]
        exact h.monitor_skip hg (fun hg' hne => absurd (owns_of_current ho hg hg' hne) howns)
          (by simp) (by simp) (by simp)
  | @recordPause dead pc' howns hto =>
    refine h.monitor_move hg ⟨rfl, rfl, rfl⟩ (fun hne => absurd howns.2.symm hne) (by simp)
      (fun _ _ _ => rfl) (fun _ _ hpc' => ?_) (fun _ _ hpc' => ?_)
      fun t hl => (h.locked t true hl).2 rfl
    all_goals rcases hto with rfl | rfl <;> simp at hpc'
  | @dropPause dead hnot =>
    refine h.monitor_skip hg (fun hg' hne _ => ?_) (by simp)
      (by simp) (by simp)
    have howns := owns_of_current ho hg hg' hne
    exact absurd ⟨howns, by simp [hrecord dead hpc howns]⟩ hnot
  | @resuming x m' out hm =>
    rcases setupTransparentProxy_cases hm with ⟨-, -, rfl, hout⟩ |
      ⟨call, rfl, hmu, -, -, rfl, rfl⟩ | ⟨call, rfl, rfl, rfl⟩
    · refine h.monitor_skip hg (by simp [hpc])
        (fun _ => .inl (by rw [hpc]; rfl)) ?_ ?_
      · rw [hpc]
        rcases hout with rfl | ⟨rfl, hw, -⟩ | ⟨x', rfl, -, hw⟩
        · simp
        · exact fun _ => hw
        · exact hw
      · rcases hout with rfl | ⟨rfl, -⟩ | ⟨x', rfl, -⟩ <;> simp
    · exact h.monitor_acquire hg ho hmu (by simp [hpc])
        (fun _ => by rw [hpc]; rfl) (by rw [hpc]; exact id) (by simp)
    · obtain ⟨hq, hgen⟩ := ho.monitor_owns g μ hg (by rw [hpc]; rfl)
      have hpaused : s.m.networkPaused = true :=
        h.resumes (by simp [hq]) ⟨μ, hgen.symm ▸ hg, by rw [hpc]; rfl⟩
      refine h.monitor_mutate hg ho (by rw [hpc]; rfl) (.inr hpaused) (fun _ => hpaused) ?_
        (by simp)
      cases call with
      | delete | preStartHook | pause =>
        simp [SetupPC.written, HostPC.call]
      | write =>
        simp [SetupPC.written, HostCall.succeeds, mutate]
      | postStartHook =>
        exact fun _ => h.rewritten (by simp [hq]) ⟨μ, hgen.symm ▸ hg, by rw [hpc]; rfl⟩
  | recordResume howns =>
    have hr : s.m.rules = true :=
      h.rewritten (by simp [howns.1]) ⟨μ, howns.2.symm ▸ hg, by rw [hpc]; rfl⟩
    exact h.monitor_move hg ⟨rfl, rfl, rfl⟩ (fun hne => absurd howns.2.symm hne)
      (fun _ _ _ _ _ => .inl hr) (by simp) (by simp)
      (by simp) fun t hl => (h.locked t true hl).2 rfl

end Monitor

end Coverage

/-! ### The condition -/

/-- The start may keep the rules and has not decided yet. -/
def StartPC.deciding : StartPC → Bool
  | entered _ preserve => preserve
  | _ => false

/-- The point of the monitor of a generation. -/
def ManagerState.monitorPC (s : ManagerState) (g : ℕ) : MonitorPC :=
  ((s.monitors g).map Monitor.pc).getD .exited

/-- A check of the monitor of the last generation is removing the rules or has removed them
without recording it. -/
def ManagerState.pausing (s : ManagerState) : Bool :=
  (s.monitorPC s.m.generation).removing || (s.monitorPC s.m.generation).unrecorded

/-- The monitor of a generation is about to record the pause. -/
def ManagerState.recording (s : ManagerState) (g : ℕ) : Bool :=
  match s.monitors g with
  | some ⟨q, .recordPause _⟩ => s.m.ownsProcess q g
  | _ => false

/-- No start decides to keep the rules while a check is removing them, and no latency test is
on when a check records that it has removed them. -/
def ManagerAction.PauseSettled (s : ManagerState) : ManagerAction → Prop
  | .start _ => ¬(s.start.deciding = true ∧ s.pausing = true)
  | .monitor g _ => ¬(s.recording g = true ∧ s.m.testing = true)
  | _ => True

instance (s : ManagerState) : (a : ManagerAction) → Decidable (a.PauseSettled s)
  | .start _ | .monitor _ _ => inferInstanceAs (Decidable (¬_))
  | .begin _ _ | .stop | .coreExit _ | .setLatencyTesting _ | .quit _ =>
    inferInstanceAs (Decidable True)

lemma Coverage.next {env : Environment} {s t : ManagerState} {a : ManagerAction}
    (h : Coverage env s) (ho : Ownership s) (ha : a.PauseSettled s)
    (ht : s.next env a = some t) : Coverage env t := by
  cases a <;> simp only [ManagerState.next] at ht
  case begin st preserve =>
    split_ifs at ht with hs
    exact some.inj ht ▸ h.start_move (by simp [hs, unwritten]) (by simp)
      (by simp [startup]) (by simp)
  case start choice =>
    refine h.of_startMove ho (fun st hs hcur => ha ⟨by rw [hs]; rfl, ?_⟩) (startMove_of_startStep ht)
    obtain ⟨μ, hμ, hpc⟩ := hcur
    simpa [ManagerState.pausing, ManagerState.monitorPC, hμ] using hpc
  case stop =>
    split_ifs at ht with hbusy
    obtain ⟨hp, hgen, -⟩ := s.m.stop_frame
    exact some.inj ht ▸ h.of_none hp hgen.ge (ho.not_locked hbusy) (fun _ hc => hc)
      (by simpa only [hgen] using h.leaving_le)
  case coreExit q =>
    split_ifs at ht with hbusy hq
    · exact some.inj ht ▸ h
    · exact some.inj ht ▸ h.of_none (by simp) (by simp) (ho.not_locked hbusy)
        (fun _ hc => hc) (by simpa using h.leaving_le)
  case setLatencyTesting testing =>
    split_ifs at ht
    exact some.inj ht ▸ { h with }
  case monitor g choice =>
    obtain ⟨⟨q, pc⟩, hg, m, pc', hm, rfl⟩ := monitorStep_eq_some ht
    refine h.of_monitorMove hg ho (fun dead hpc howns => ?_) hm
    obtain rfl : pc = .recordPause dead := hpc
    by_contra htest
    exact ha ⟨by simpa [ManagerState.recording, hg] using howns, by simpa using htest⟩
  case quit g =>
    obtain ⟨μ, hg, hμ, hm, rfl⟩ := quit_eq_some env ht
    exact h.of_monitorMove hg ho (by simp [hμ]) hm

lemma coverage_of_reachableWhen {env : Environment} {s : ManagerState}
    (hs : (managerSystem env).ReachableWhen (fun s a => a.PauseSettled s) s) :
    Ownership s ∧ Coverage env s := by
  refine hs.invariant (I := fun s => Ownership s ∧ Coverage env s) ?_
    fun s a t h ha ht => ⟨h.1.next ht, h.2.next h.1 ha ht⟩
  intro s hinit
  refine ⟨ownership_of_reachableWhen (P := fun _ _ => True) (.init hinit), ?_⟩
  obtain ⟨hostState, rfl⟩ := hinit
  constructor <;> simp

/-- In a run whose steps satisfy the condition: when a start has returned `nil`, its core is the
one that the manager owns, the transparent proxy is on in its setting and no check is between
the removal of the rules and its record, then the rules are on the host unless they are paused. -/
theorem rules_of_reachableWhen {env : Environment} {s : ManagerState} {q : Process} {g : ℕ}
    (hs : (managerSystem env).ReachableWhen (fun s a => a.PauseSettled s) s)
    (hret : s.returnedNil = some g) (howns : s.m.ownsProcess q g)
    (hon : isTransparentOn env q.setting = true)
    (hmid : ∀ μ, s.monitors g = some μ → μ.pc.unrecorded = false)
    (hpaused : s.m.networkPaused = false) : s.m.rules = true := by
  obtain ⟨-, hc⟩ := coverage_of_reachableWhen hs
  obtain ⟨hq, rfl⟩ := howns
  rcases hc.covered q hq hon hpaused with hr | ⟨μ, hμ, hun⟩ | hun
  · exact hr
  · simp [hmid μ hμ] at hun
  · -- A start that is still setting up belongs to a generation that has not returned.
    obtain ⟨c, hstartup⟩ : ∃ c, s.start.startup = some c := by
      cases hpc : s.start <;> simp [hpc, unwritten, startup] at hun ⊢
    exact absurd (hc.returned_lt c hstartup _ hret) (lt_irrefl _)

/-! ### Runs -/

/-- The monitor of the first generation finds that the core does not answer and removes the
rules, up to the check of the owner. -/
def failedCheck : List ManagerAction :=
  [.monitor 1 {}, .monitor 1 { ok := false }, .monitor 1 {}, .monitor 1 {}]

/-- A core is started, its transparent proxy is paused, and resumed when the core answers
again. -/
def resumed : Option ManagerState :=
  (managerSystem {}).runWhen (fun s a => a.PauseSettled s) { m := {} }
    (fullStart ++ failedCheck ++ List.replicate 18 (.monitor 1 {}))

/-- The rules are back when the transparent proxy has been resumed. -/
theorem rules_of_resumed :
    (resumed.getD { m := {} }).m.networkPaused = false ∧
      (resumed.getD { m := {} }).m.rules = true := by
  refine ⟨rfl, rules_of_reachableWhen (q := ⟨1, tproxySetting⟩) (g := 1)
    (.run (.init ⟨false, rfl⟩) _ (show resumed = some _ from rfl)) rfl ⟨rfl, rfl⟩ (by decide) ?_ rfl⟩
  intro μ hμ
  obtain rfl := some.inj hμ
  rfl

/-- A core is replaced with its rules kept while the check of its monitor has removed them. -/
def replacedWhilePausing : List ManagerAction :=
  fullStart ++ failedCheck ++ preservingStart ++ [.start {}, .start {}, .monitor 1 {}]

/-- A latency test begins while the check of the monitor has removed the rules. -/
def testedWhilePausing : List ManagerAction :=
  fullStart ++ failedCheck ++ [.setLatencyTesting true, .monitor 1 {}, .monitor 1 {}]

/-- Each of the two conditions is needed: in both runs the last start has returned `nil`, its
core is the one that the manager owns, no check is in progress and nothing is paused, but the
rules are gone. -/
theorem exists_reachable_uncovered :
    isTransparentOn {} tproxySetting = true ∧
    (∃ s, (managerSystem {}).Reachable s ∧ s.returnedNil = some 2 ∧
      s.m.ownsProcess ⟨2, tproxySetting⟩ 2 ∧
      (∀ g, s.monitorPC g = .waiting ∨ s.monitorPC g = .exited) ∧
      s.m.networkPaused = false ∧ s.m.rules = false) ∧
    ∃ s, (managerSystem {}).Reachable s ∧ s.returnedNil = some 1 ∧
      s.m.ownsProcess ⟨1, tproxySetting⟩ 1 ∧
      (∀ g, s.monitorPC g = .waiting ∨ s.monitorPC g = .exited) ∧
      s.m.networkPaused = false ∧ s.m.rules = false := by
  have hinit : (managerSystem {}).Reachable { m := {} } := .init ⟨false, rfl⟩
  refine ⟨by decide,
    ⟨_, hinit.run replacedWhilePausing rfl, rfl, ⟨rfl, rfl⟩, fun g => ?_, rfl, rfl⟩,
    ⟨_, hinit.run testedWhilePausing rfl, rfl, ⟨rfl, rfl⟩, fun g => ?_, rfl, rfl⟩⟩
  · match g with
    | 0 => exact .inr rfl
    | 1 => exact .inr rfl
    | 2 => exact .inl rfl
    | _ + 3 => exact .inr rfl
  · match g with
    | 0 => exact .inr rfl
    | 1 => exact .inr rfl
    | _ + 2 => exact .inr rfl

end V2rayA
