import V2rayA.Kernel.Socks
import V2rayA.Service.Automation

/-!
# The schedule of subscription updates

A call of `process` looks at the deadlines of one subscription and does what is due: it evaluates
the health of its nodes, fetches the subscription, or both. The context can be cancelled at any
time; the call notices it at five points. The scheduler is the sequence of these calls, with a
clock that never goes back and with a log of what the calls did.

* `reaches_process`: a call is a run of the worker, with requests that cancel the step.
* `sound_of_reachableWhen`: which deadlines are set between two calls. It fails for a call that is
  cancelled between its last health evaluation and its return, if that evaluation has found a
  healthy node.
-/

namespace V2rayA

open List SubscriptionSchedule

/-- `anyHealthy`. -/
def anyHealthy (results : List Bool) : Bool := results.any id

/-- What a health evaluation meets. -/
structure HealthOutcome where
  /-- Every node can be probed in isolation. -/
  probeable : Bool := true
  /-- Which nodes answer. -/
  results : List Bool := []

/-- `subscriptionUnavailable`: a node that cannot be probed is no evidence. -/
def HealthOutcome.unavailable (outcome : HealthOutcome) : Bool :=
  outcome.probeable && !anyHealthy outcome.results

/-- A call of `process` with what it meets. Whether the fetch succeeds and whether its result can
be stored makes no difference to the schedule. -/
structure ProcessCall (ν : Type) where
  sub : SubscriptionRaw ν
  /-- The readings of the clock, three for each section of the call, and the time of its return at
  position 15. -/
  clock : ℕ → ℤ
  clock_mono : Monotone clock
  /-- The first look at the context that finds it cancelled. The looks are those after the health
  evaluation (0), after the fetch (1), before the update is stored (2), after the evaluation that
  follows the update (3), and in the deferred function (4). -/
  cancel : ℕ := 5
  /-- The health evaluation that comes first. -/
  health : HealthOutcome := {}
  /-- The health evaluation that follows the update. -/
  check : HealthOutcome := {}

/-- What is seen of the calls. -/
inductive SchedulerEvent
  /-- A health evaluation ran to completion. -/
  | evaluated (signature : PolicySignature) (unavailable : Bool)
  /-- `fetch` was called, with or without the permission to download directly. -/
  | fetch (signature : PolicySignature) (direct : Bool)
  /-- The call got past its fetch without cancellation. -/
  | fetched (signature : PolicySignature)
  deriving DecidableEq

/-- The policy under which something happened. -/
def SchedulerEvent.signature : SchedulerEvent → PolicySignature
  | evaluated signature _ | fetch signature _ | fetched signature => signature

/-- What a call leaves behind. -/
structure ProcessResult where
  schedule : SubscriptionSchedule
  /-- The latest event comes first. -/
  events : List SchedulerEvent := []
  /-- The call returns an error. -/
  failed : Bool := false

namespace ProcessCall

variable {ν : Type}

/-- The readings of the clock in a section of the call. -/
def reading (c : ProcessCall ν) (part : ℕ) (i : ℕ) : ℤ := c.clock (3 * part + i)

/-- The time at which the call returns. -/
def returned (c : ProcessCall ν) : ℤ := c.clock 15

/-- A look at the context finds it cancelled. -/
def cancelledAt (c : ProcessCall ν) (look : ℕ) : Bool := c.cancel ≤ look

/-- The function that `process` defers when it updates a fail-safe subscription. -/
def deferred (c : ProcessCall ν) (regularDue : Bool) (state : SubscriptionSchedule) :
    SubscriptionSchedule :=
  if c.sub.updateMode = .intervalFailsafe ∧ c.cancelledAt 4 then
    state.reserve c.sub regularDue (c.reading 4)
  else state

/-- `process` from the fetch on. -/
def update (c : ProcessCall ν) (regularDue retryDue : Bool) (state : SubscriptionSchedule) :
    ProcessResult :=
  let signature := subscriptionPolicySignature c.sub
  let fetch := SchedulerEvent.fetch signature (retryDue && c.sub.allowDirectRecovery)
  if c.cancelledAt 1 then
    { schedule := c.deferred regularDue state, events := [fetch], failed := true }
  else
    let state := state.afterFetch c.sub regularDue (c.reading 2)
    let events := [.fetched signature, fetch]
    if c.sub.updateMode ≠ .intervalFailsafe then { schedule := state, events }
    else if c.cancelledAt 3 then
      { schedule := c.deferred regularDue state, events, failed := true }
    else
      { schedule := c.deferred regularDue
          (state.afterCheck c.sub c.check.unavailable (c.reading 3))
        events := .evaluated signature c.check.unavailable :: events }

/-- `process`, `state` being the schedule of the subscription. -/
def process (c : ProcessCall ν) (state : SubscriptionSchedule) : ProcessResult :=
  let now := c.clock 0
  let signature := subscriptionPolicySignature c.sub
  let regularDue := due state.nextUpdate now
  let retryDue := due state.nextRetry now
  if due state.nextHealth now ∧ ¬regularDue ∧ ¬retryDue then
    -- Every branch sets the deadline that stands during the evaluation anew.
    let next := some (c.reading 1 0 + failureInterval c.sub)
    if c.cancelledAt 0 then { schedule := { state with nextHealth := next }, failed := true }
    else if ¬c.health.unavailable then
      { schedule := { state with nextHealth := next }, events := [.evaluated signature false] }
    else
      let result := c.update false true
        ({ state with nextHealth := none }.beforeFetch c.sub false (c.reading 1))
      { result with events := result.events ++ [.evaluated signature true] }
  else if ¬regularDue ∧ ¬retryDue then { schedule := state }
  else c.update regularDue retryDue (state.beforeFetch c.sub regularDue (c.reading 0))

/-- The call fetches the subscription. -/
def Updates (c : ProcessCall ν) (state : SubscriptionSchedule) : Prop :=
  due state.nextUpdate (c.clock 0) ∨ due state.nextRetry (c.clock 0) ∨
    (due state.nextHealth (c.clock 0) ∧ ¬c.cancelledAt 0 ∧ c.health.unavailable)

instance (c : ProcessCall ν) (state : SubscriptionSchedule) : Decidable (c.Updates state) :=
  inferInstanceAs (Decidable (_ ∨ _ ∨ _))

end ProcessCall

/-! ### The scheduler -/

/-- The schedules between two calls. -/
structure Scheduler where
  schedules : Automation := {}
  /-- The time at which the last call has returned. -/
  time : ℤ
  /-- The latest event comes first. -/
  log : List SchedulerEvent := []

/-- What a step of the worker does with subscriptions. -/
inductive SchedulerAction (ν : Type)
  | process (call : ProcessCall ν)
  /-- The schedules of subscriptions that are gone are forgotten. -/
  | keep (active : List ℤ)

section System

variable {ν : Type}

/-- The schedule that a call starts with. -/
def Scheduler.scheduleFor (s : Scheduler) (c : ProcessCall ν) : SubscriptionSchedule :=
  s.schedules.scheduleOf c.sub (c.clock 0)

/-- What an action does; a call does not start before the last one has returned. -/
def Scheduler.next (s : Scheduler) : SchedulerAction ν → Option Scheduler
  | .process c =>
    let result := c.process (s.scheduleFor c)
    if s.time ≤ c.clock 0 then
      some
        { schedules := s.schedules.putSubscription c.sub.databaseID result.schedule
          time := c.returned
          log := result.events ++ s.log }
    else none
  | .keep active =>
    some { s with
      schedules := { s.schedules with subscriptions := s.schedules.subscriptions.keep active } }

variable (ν) in
/-- The scheduler, which starts without schedules. -/
def schedulerSystem : Transition.System Scheduler (SchedulerAction ν) where
  init s := s.schedules.subscriptions = [] ∧ s.log = []
  next := Scheduler.next

end System

/-! ### A call is a run of the worker -/

section Worker

variable {ν : Type} [ServerObj ν] {parseURL : String → Option ParsedURL} {s : AutomationState ν}
  {pc : WorkerPC ν} {a : Automation} {b b' : Bool} {c : ProcessCall ν}

/-- The worker is at a point of `process`, with these schedules; the context is cancelled or can
be. -/
structure AutomationState.At (s : AutomationState ν) (pc : WorkerPC ν) (a : Automation) (b : Bool) :
    Prop where
  worker : s.worker = pc
  schedules : s.schedules = a
  cancelled : s.cancelled = b
  lock : s.lock = none
  turn : s.turn ≠ some .holding
  free : b = false → s.turn = none ∧ s.cancellable = true

/-- A run leads the worker to a point of `process`. -/
def Reaches (parseURL : String → Option ParsedURL) (s : AutomationState ν) (pc : WorkerPC ν)
    (a : Automation) (b : Bool) : Prop :=
  ∃ s', (automationSystem ν parseURL).Leads s s' ∧ s'.At pc a b

variable {pc' : WorkerPC ν}

variable {a' : Automation}

lemma Reaches.trans (h : Reaches parseURL s pc a b)
    (h' : ∀ s' : AutomationState ν, s'.At pc a b → Reaches parseURL s' pc' a' b') :
    Reaches parseURL s pc' a' b' := by
  obtain ⟨u, hu, hat⟩ := h
  obtain ⟨t, ht, hat'⟩ := h' u hat
  exact ⟨t, hu.trans ht, hat'⟩

lemma Reaches.trans_exists (h : Reaches parseURL s pc a b)
    (h' : ∀ s' : AutomationState ν, s'.At pc a b → ∃ b', Reaches parseURL s' pc' a' b') :
    ∃ b', Reaches parseURL s pc' a' b' := by
  obtain ⟨u, hu, hat⟩ := h
  obtain ⟨b', t, ht, hat'⟩ := h' u hat
  exact ⟨b', t, hu.trans ht, hat'⟩

/-- Between two looks at the context, a request may cancel it. -/
lemma AutomationState.At.look (h : s.At pc a b) (hb : b → b') :
    Reaches parseURL s pc a b' := by
  cases b with
  | true => exact hb rfl ▸ ⟨s, .refl s, h⟩
  | false =>
    cases b' with
    | false => exact ⟨s, .refl s, h⟩
    | true =>
      obtain ⟨hturn, hcancellable⟩ := h.free rfl
      refine ⟨{ s with cancelled := true, turn := some (.trying true) },
        ⟨[.arrive, .takeTurn, .cancelAutomation], ?_⟩, h.worker, h.schedules, rfl, h.lock,
        by simp, by simp⟩
      simp [Transition.System.run, automationSystem, AutomationState.next, hturn, hcancellable]

/-- A step of the worker. -/
lemma AutomationState.At.step (h : s.At pc a b) (choice : WorkerChoice ν)
    (hstep : workerStep parseURL s choice = some { s with worker := pc', schedules := a' }) :
    Reaches parseURL s pc' a' b :=
  ⟨_, .step (a := .worker choice) hstep, rfl, rfl, h.cancelled, h.lock, h.turn, h.free⟩

section Sections

variable {regularDue retryDue failed : Bool} {state : SubscriptionSchedule}
  {pass : SubscriptionPass ν}

lemma modifySubscription_putSubscription {id : ℤ}
    {f : SubscriptionSchedule → SubscriptionSchedule} :
    (a.putSubscription id state).modifySubscription id f = a.putSubscription id (f state) := by
  simp [Automation.putSubscription, Automation.modifySubscription, Go.Map.modify_put]

/-- Where the worker goes on after a call. -/
def ProcessResult.exit (result : ProcessResult) (a : Automation) (pass : SubscriptionPass ν) :
    WorkerPC ν :=
  if result.failed then .leave a.nextDeadline else .process pass

variable (parseURL) in
/-- The deferred function. -/
lemma reaches_deferred (hmode : c.sub.updateMode = .intervalFailsafe)
    (h : s.At (.deferred c.sub regularDue failed pass)
      (a.putSubscription c.sub.databaseID state) b)
    (hb : b → c.cancelledAt 4) :
    let a' := a.putSubscription c.sub.databaseID (c.deferred regularDue state)
    Reaches parseURL s (if failed then .leave a'.nextDeadline else .process pass) a'
      (c.cancelledAt 4) := by
  refine (h.look hb).trans fun s' h' => ?_
  refine h'.step { clock := c.reading 4 } ?_
  unfold workerStep ProcessCall.deferred
  rw [h'.worker, h'.schedules, h'.cancelled]
  dsimp only
  rw [modifySubscription_putSubscription]
  cases c.cancelledAt 4 <;> simp [hmode]

/-- The evaluation after an update. -/
lemma reaches_check
    (h : s.At (.check c.sub regularDue pass) (a.putSubscription c.sub.databaseID state) b)
    (hb : b → c.cancelledAt 3) :
    let state' :=
      if c.cancelledAt 3 then state
      else state.afterCheck c.sub c.check.unavailable (c.reading 3)
    Reaches parseURL s (.deferred c.sub regularDue (c.cancelledAt 3) pass)
      (a.putSubscription c.sub.databaseID state') (c.cancelledAt 3) := by
  refine (h.look hb).trans fun s' h' => ?_
  refine h'.step { clock := c.reading 3, unavailable := c.check.unavailable } ?_
  unfold workerStep
  rw [h'.worker, h'.schedules, h'.cancelled]
  dsimp only
  rw [modifySubscription_putSubscription]
  cases c.cancelledAt 3 <;> simp

attribute [local simp] modifySubscription_putSubscription workerStep

/-- Storing the update, whatever comes of it. -/
lemma reaches_apply {nodes : List ν} {info : String}
    (h : s.At (.apply c.sub regularDue nodes info pass)
      (a.putSubscription c.sub.databaseID state) b)
    (hb : b → c.cancelledAt 2) (status : String) :
    Reaches parseURL s (.afterFetch c.sub regularDue pass)
      (a.putSubscription c.sub.databaseID (state.afterFetch c.sub regularDue (c.reading 2)))
      (c.cancelledAt 2) := by
  refine (h.look hb).trans fun s' h' => ?_
  let choice : WorkerChoice ν := { clock := c.reading 2, status }
  -- the worker takes the lock and goes on with it
  have hlock : workerStep parseURL s' {} = some { s' with lock := some s'.cancelled } := by
    simp [h'.worker, AutomationState.withLock, h'.lock, h'.turn]
  have hbody : ∃ world, workerStep parseURL { s' with lock := some s'.cancelled } choice =
      some { s' with
        world
        worker := .afterFetch c.sub regularDue pass
        schedules := a.putSubscription c.sub.databaseID
          (state.afterFetch c.sub regularDue (c.reading 2)) } := by
    simp [h'.worker, AutomationState.withLock, h'.schedules, h'.lock, choice]
  obtain ⟨world, hbody⟩ := hbody
  exact ⟨_, .trans (.step (a := .worker {}) hlock) (.step (a := .worker choice) hbody), rfl, rfl,
    h'.cancelled, h'.lock, h'.turn, h'.free⟩

variable (parseURL) in
/-- The fetch, whatever it returns. -/
lemma reaches_fetch (h : s.At (.fetch c.sub regularDue pass)
      (a.putSubscription c.sub.databaseID state) false)
    (fetched : Except Go.Error (List ν × String)) (status : String) :
    ∃ b', (b' = true → c.cancelledAt 2 = true) ∧
      Reaches parseURL s (.afterFetch c.sub regularDue pass)
        (a.putSubscription c.sub.databaseID (state.afterFetch c.sub regularDue (c.reading 2))) b' := by
  let choice : WorkerChoice ν := { clock := c.reading 2, fetched }
  cases fetched with
  | error e =>
    refine ⟨false, by simp, h.step choice ?_⟩
    simp [h.worker, h.cancelled, h.schedules, choice]
  | ok found =>
    refine ⟨c.cancelledAt 2, id, ?_⟩
    have happly : Reaches parseURL s (.apply c.sub regularDue found.1 found.2 pass)
        (a.putSubscription c.sub.databaseID state) false := by
      refine h.step choice ?_
      simp [h.worker, h.cancelled, ← h.schedules, choice]
    exact happly.trans fun s' h' => reaches_apply h' (by simp) status

/-- `process` from the fetch on. -/
lemma reaches_update (h : s.At (.fetch c.sub regularDue pass)
      (a.putSubscription c.sub.databaseID state) b)
    (hb : b = true → c.cancelledAt 1 = true) :
    let result := c.update regularDue retryDue state
    let a' := a.putSubscription c.sub.databaseID result.schedule
    ∃ b', Reaches parseURL s (result.exit a' pass) a' b' := by
  -- a look at the context never finds it alive again
  have hmono {m n : ℕ} (hmn : m ≤ n) (h : c.cancelledAt m = true) : c.cancelledAt n = true := by
    simp only [ProcessCall.cancelledAt, decide_eq_true_eq] at h ⊢
    omega
  unfold ProcessCall.update
  cases hfetch : c.cancelledAt 1 with
  | true =>
    have hstart : Reaches parseURL s (.fetch c.sub regularDue pass)
        (a.putSubscription c.sub.databaseID state) true :=
      h.look fun _ => rfl
    by_cases hmode : c.sub.updateMode = .intervalFailsafe
    · refine ⟨c.cancelledAt 4, hstart.trans fun s' h' => ?_⟩
      have hdeferred : Reaches parseURL s' (.deferred c.sub regularDue true pass)
          (a.putSubscription c.sub.databaseID state) true := by
        refine h'.step {} ?_
        simp [h'.worker, h'.cancelled, ← h'.schedules, hmode]
      exact hdeferred.trans fun s'' h'' =>
        reaches_deferred parseURL hmode h'' fun _ => hmono (by omega) hfetch
    · refine ⟨_, hstart.trans fun s' h' => h'.step {} ?_⟩
      simp [h'.worker, h'.cancelled, ← h'.schedules, hmode, ProcessResult.exit,
        ProcessCall.deferred]
  | false =>
    cases b with
    | true => simp [hfetch] at hb
    | false =>
      obtain ⟨b', hb', hfetched⟩ := reaches_fetch parseURL h (.ok ([], "")) ""
      by_cases hmode : c.sub.updateMode = .intervalFailsafe
      · rw [WorkerPC.afterFetch, if_pos hmode] at hfetched
        have hdeferred := hfetched.trans fun s' h' =>
          reaches_check h' fun hb => hmono (by omega) (hb' hb)
        refine ⟨c.cancelledAt 4, hdeferred.trans fun s' h' => ?_⟩
        have hexit := reaches_deferred parseURL hmode h' (hmono (by omega))
        cases hcheck : c.cancelledAt 3 <;> simp_all [ProcessResult.exit]
      · rw [WorkerPC.afterFetch] at hfetched
        refine ⟨b', ?_⟩
        simpa [hmode, ProcessResult.exit] using hfetched

/-- A call of `process` is a run of the worker, with requests that cancel its step. -/
theorem reaches_process {rest : List (SubscriptionRaw ν)} {active : List ℤ}
    (h : s.At (.process ⟨c.sub :: rest, active⟩) a false) :
    let result := c.process (a.scheduleOf c.sub (c.clock 0))
    let a' := a.putSubscription c.sub.databaseID result.schedule
    ∃ b', Reaches parseURL s (result.exit a' ⟨rest, active⟩) a' b' := by
  let state := a.scheduleOf c.sub (c.clock 0)
  let pass : SubscriptionPass ν := ⟨rest, active⟩
  -- the first section of the call
  have hbegin (a' : Automation) (pc : WorkerPC ν)
      (heq : a.beginProcess c.sub (c.reading 0) pass = (a', pc)) :
      Reaches parseURL s pc a' false := by
    refine h.step { clock := c.reading 0 } ?_
    simp [h.worker, h.schedules, heq, pass]
  have hzero : c.reading 0 0 = c.clock 0 := rfl
  unfold ProcessCall.process
  unfold Automation.beginProcess at hbegin
  rw [hzero] at hbegin
  by_cases hhealth : due state.nextHealth (c.clock 0) ∧ ¬due state.nextUpdate (c.clock 0) ∧
      ¬due state.nextRetry (c.clock 0)
  · rw [if_pos hhealth] at hbegin ⊢
    have hlooked : Reaches parseURL s (.health c.sub pass) _ (c.cancelledAt 0) :=
      (hbegin _ _ rfl).trans fun s' h' => h'.look (by simp)
    split_ifs with hcancelled hunavailable
    · refine ⟨_, hlooked.trans fun s' h' => h'.step { clock := c.reading 1 } ?_⟩
      simp [h'.worker, h'.cancelled, h'.schedules, hcancelled, ProcessResult.exit]
    · let choice : WorkerChoice ν := { clock := c.reading 1, unavailable := true }
      have hfetch : Reaches parseURL s (.fetch c.sub false pass)
          (a.putSubscription c.sub.databaseID
            ({ state with nextHealth := none }.beforeFetch c.sub false (c.reading 1)))
          (c.cancelledAt 0) := by
        refine hlooked.trans fun s' h' => h'.step choice ?_
        simp [h'.worker, h'.cancelled, h'.schedules, hcancelled, choice, state]
      exact hfetch.trans_exists fun s' h' =>
        reaches_update h' (fun h => absurd h hcancelled)
    · refine ⟨_, hlooked.trans fun s' h' => h'.step { clock := c.reading 1 } ?_⟩
      simp [h'.worker, h'.cancelled, h'.schedules, hcancelled, ProcessResult.exit, pass]
  · rw [if_neg hhealth] at hbegin ⊢
    split_ifs with hidle
    · rw [if_pos hidle] at hbegin
      exact ⟨_, hbegin _ _ rfl⟩
    · rw [if_neg hidle] at hbegin
      exact (hbegin _ _ rfl).trans_exists fun s' h' => reaches_update h' (by simp)

end Sections

end Worker

/-! ### Which deadlines are set -/

/-- The deadlines of a fail-safe subscription at a time. -/
structure SubscriptionSchedule.Failsafe (state : SubscriptionSchedule) (time : ℤ) : Prop where
  update : state.nextUpdate ≠ none
  one : state.nextHealth = none ↔ state.nextRetry ≠ none
  soon : ∀ t, state.nextHealth = some t ∨ state.nextRetry = some t →
    t ≤ time + state.signature.failsafe * minute

/-- Which deadlines are set between two calls, `time` being the time at which the last one has
returned. -/
def SubscriptionSchedule.Sound (state : SubscriptionSchedule) (time : ℤ) : Prop :=
  match state.signature.mode with
  | .intervalFailsafe => state.Failsafe time
  | .atInterval => state.nextUpdate ≠ none ∧ state.nextHealth = none ∧ state.nextRetry = none
  | _ => state.nextHealth = none ∧ state.nextRetry = none

section Sound

variable {ν : Type} {c : ProcessCall ν} {state : SubscriptionSchedule} {regularDue retryDue : Bool}
  {time time' : ℤ}

lemma reading_le_returned (c : ProcessCall ν) (part i : ℕ) (hpart : part ≤ 4) (hi : i < 3) :
    c.reading part i ≤ c.returned :=
  c.clock_mono (by omega)

lemma SubscriptionSchedule.Failsafe.mono (h : state.Failsafe time) (htime : time ≤ time') :
    state.Failsafe time' :=
  ⟨h.update, h.one, fun t ht => (h.soon t ht).trans (by omega)⟩

lemma SubscriptionSchedule.Sound.mono (h : state.Sound time) (htime : time ≤ time') :
    state.Sound time' := by
  unfold Sound at h ⊢
  split at h
  · exact Failsafe.mono h htime
  · exact h
  · exact h

lemma sound_iff_of_ne (hmode : state.signature.mode ≠ .intervalFailsafe) :
    state.Sound time ↔ state.nextHealth = none ∧ state.nextRetry = none ∧
      (isIntervalMode state.signature.mode → state.nextUpdate ≠ none) := by
  unfold Sound
  split
  · next h => exact absurd h hmode
  · next h => simp [h, isIntervalMode, and_comm, and_assoc]
  · next hne =>
    have hne : state.signature.mode ≠ .atInterval := hne
    simp [isIntervalMode, hmode, hne]

/-- Reserved deadlines are sound if no health evaluation is due. -/
lemma failsafe_reserve (hsig : state.signature = subscriptionPolicySignature c.sub)
    (hhealth : state.nextHealth = none) (hupdate : state.nextUpdate ≠ none) :
    (state.reserve c.sub regularDue (c.reading 4)).Failsafe c.returned where
  update := by
    unfold reserve
    split_ifs
    · simp
    · exact hupdate
  one := by simp [reserve, hhealth]
  soon := by
    rintro t (ht | ht)
    · cases hhealth.symm.trans ht
    · cases ht
      have hle := reading_le_returned c 4 1 le_rfl (by omega)
      simp only [reserve, hsig]
      exact Int.add_le_add_right hle _

lemma failsafe_afterCheck (hsig : state.signature = subscriptionPolicySignature c.sub)
    (hupdate : state.nextUpdate ≠ none) (unavailable : Bool) :
    (state.afterCheck c.sub unavailable (c.reading 3)).Failsafe c.returned := by
  have hle := reading_le_returned c 3 0 (by omega) (by omega)
  have hsoon : c.reading 3 0 + failureInterval c.sub ≤
      c.returned + state.signature.failsafe * minute := by
    rw [hsig]
    exact Int.add_le_add_right hle _
  unfold afterCheck
  split_ifs
  · exact ⟨hupdate, by simp, by simpa using hsoon⟩
  · exact ⟨hupdate, by simp, by simpa using hsoon⟩

/-- The schedule after the update of a fail-safe subscription, by the look at the context that finds
it cancelled. -/
lemma schedule_update (hmode : c.sub.updateMode = .intervalFailsafe) :
    (c.update regularDue retryDue state).schedule =
      if c.cancel ≤ 1 then state.reserve c.sub regularDue (c.reading 4)
      else
        let state := state.afterFetch c.sub regularDue (c.reading 2)
        if c.cancel ≤ 3 then state.reserve c.sub regularDue (c.reading 4)
        else
          let state := state.afterCheck c.sub c.check.unavailable (c.reading 3)
          if c.cancel = 4 then state.reserve c.sub regularDue (c.reading 4) else state := by
  unfold ProcessCall.update ProcessCall.deferred ProcessCall.cancelledAt
  simp only [hmode, ne_eq, not_true, if_false, true_and, decide_eq_true_eq]
  split_ifs <;> first | rfl | omega

lemma events_update (hmode : c.sub.updateMode = .intervalFailsafe) :
    (c.update regularDue retryDue state).events =
      let signature := subscriptionPolicySignature c.sub
      let fetch := .fetch signature (retryDue && c.sub.allowDirectRecovery)
      if c.cancel ≤ 1 then [fetch]
      else if c.cancel ≤ 3 then [.fetched signature, fetch]
      else [.evaluated signature c.check.unavailable, .fetched signature, fetch] := by
  unfold ProcessCall.update ProcessCall.cancelledAt
  simp only [ne_eq, decide_eq_true_eq]
  split_ifs <;> rfl

/-- The update of a subscription that is not fail-safe. -/
lemma update_of_ne (hmode : c.sub.updateMode ≠ .intervalFailsafe) :
    c.update regularDue retryDue state =
      let signature := subscriptionPolicySignature c.sub
      let fetch := .fetch signature (retryDue && c.sub.allowDirectRecovery)
      if c.cancel ≤ 1 then { schedule := state, events := [fetch], failed := true }
      else
        { schedule := state.afterFetch c.sub regularDue (c.reading 2)
          events := [.fetched signature, fetch] } := by
  unfold ProcessCall.update ProcessCall.deferred ProcessCall.cancelledAt
  simp [hmode]

/-- The update of a fail-safe subscription sets one of the two deadlines, and both if it is
cancelled after an evaluation that has found a healthy node. -/
lemma failsafe_update_iff (hmode : c.sub.updateMode = .intervalFailsafe)
    (hsig : state.signature = subscriptionPolicySignature c.sub)
    (hhealth : state.nextHealth = none) (hupdate : state.nextUpdate ≠ none) :
    (c.update regularDue retryDue state).schedule.Failsafe c.returned ↔
      (c.cancel = 4 → c.check.unavailable) := by
  -- the end of the update itself keeps what the reservation has set
  obtain ⟨hsig', hhealth', hupdate'⟩ :
      (state.afterFetch c.sub regularDue (c.reading 2)).signature = state.signature ∧
      (state.afterFetch c.sub regularDue (c.reading 2)).nextHealth = none ∧
      (state.afterFetch c.sub regularDue (c.reading 2)).nextUpdate ≠ none := by
    unfold afterFetch
    cases regularDue <;> simp [hmode, isIntervalMode, hhealth, hupdate]
  have hcheck := failsafe_afterCheck (hsig'.trans hsig) hupdate' c.check.unavailable
  rw [schedule_update hmode]
  split_ifs with hfetch hlook hlast
  · exact iff_of_true (failsafe_reserve hsig hhealth hupdate) (by omega)
  · exact iff_of_true (failsafe_reserve (hsig'.trans hsig) hhealth' hupdate') (by omega)
  · cases hunavailable : c.check.unavailable with
    | true =>
      rw [hunavailable] at hcheck
      exact iff_of_true (failsafe_reserve (hsig'.trans hsig) rfl hcheck.update) fun _ => rfl
    | false =>
      -- the deadline of the next evaluation stands beside the reserved one
      refine iff_of_false (fun h => ?_) fun h => Bool.false_ne_true (h hlast)
      have hnone := h.one.mpr (by simp [reserve])
      simp [reserve, afterCheck] at hnone
  · exact iff_of_true hcheck fun h => absurd h hlast

/-- What is reserved before the fetch. -/
lemma beforeFetch_failsafe (state : SubscriptionSchedule) (regularDue : Bool) (clock : ℕ → ℤ)
    (hmode : c.sub.updateMode = .intervalFailsafe) (hupdate : state.nextUpdate ≠ none) :
    (state.beforeFetch c.sub regularDue clock).signature = state.signature ∧
      (state.beforeFetch c.sub regularDue clock).nextHealth = none ∧
      (state.beforeFetch c.sub regularDue clock).nextUpdate ≠ none := by
  unfold beforeFetch reserve
  cases regularDue <;> simp [hmode, hupdate]

/-- A health evaluation that leads to no update moves its own deadline. -/
lemma failsafe_evaluated (h : state.Failsafe time)
    (hsig : state.signature = subscriptionPolicySignature c.sub)
    (hdue : due state.nextHealth (c.clock 0)) :
    { state with nextHealth := some (c.reading 1 0 + failureInterval c.sub) }.Failsafe
      c.returned := by
  have hretry : state.nextRetry = none := by
    by_contra hretry
    simp [due, h.one.mpr hretry] at hdue
  refine ⟨h.update, by simp [hretry], ?_⟩
  rintro t (ht | ht)
  · cases ht
    rw [hsig]
    exact Int.add_le_add_right (reading_le_returned c 1 0 (by omega) (by omega)) _
  · cases hretry.symm.trans ht

/-- The deadlines of a fail-safe subscription after a call. A new schedule is due at once. -/
lemma failsafe_process_iff (hmode : c.sub.updateMode = .intervalFailsafe)
    (hsig : state.signature = subscriptionPolicySignature c.sub)
    (hstate : state.Failsafe time ∨ due state.nextUpdate (c.clock 0))
    (htime : time ≤ c.clock 0) :
    (c.process state).schedule.Failsafe c.returned ↔
      (c.Updates state → c.cancel = 4 → c.check.unavailable) := by
  have hupdate : state.nextUpdate ≠ none := by
    rcases hstate with h | h
    · exact h.update
    · intro hnone
      simp [due, hnone] at h
  have hlater : time ≤ c.returned := htime.trans (c.clock_mono (by omega))
  unfold ProcessCall.process ProcessCall.Updates
  dsimp only
  split_ifs with hhealth hcancelled hunavailable hidle
  · obtain ⟨hdue, hregular, hretry⟩ := hhealth
    have hstate := hstate.resolve_right hregular
    refine iff_of_true (failsafe_evaluated hstate hsig hdue) ?_
    simp [hregular, hretry, hcancelled]
  · obtain ⟨hdue, hregular, hretry⟩ := hhealth
    obtain ⟨hsig', hhealth', hupdate'⟩ :=
      beforeFetch_failsafe { state with nextHealth := none } false (c.reading 1) hmode hupdate
    rw [failsafe_update_iff hmode (hsig'.trans hsig) hhealth' hupdate']
    simp [hdue, hcancelled, hunavailable]
  · obtain ⟨hdue, hregular, hretry⟩ := hhealth
    have hstate := hstate.resolve_right hregular
    refine iff_of_true (failsafe_evaluated hstate hsig hdue) ?_
    simp [hregular, hretry, hunavailable]
  · obtain ⟨hregular, hretry⟩ := hidle
    have hstate := hstate.resolve_right hregular
    refine iff_of_true (hstate.mono hlater) ?_
    rintro (h | h | h)
    · exact absurd h hregular
    · exact absurd h hretry
    · exact absurd ⟨h.1, hregular, hretry⟩ hhealth
  · obtain ⟨hsig', hhealth', hupdate'⟩ := beforeFetch_failsafe state
      (due state.nextUpdate (c.clock 0)) (c.reading 0) hmode hupdate
    rw [failsafe_update_iff hmode (hsig'.trans hsig) hhealth' hupdate']
    refine ⟨fun h _ => h, fun h => h ?_⟩
    by_contra hnot
    exact hidle ⟨fun h => hnot (.inl h), fun h => hnot (.inr (.inl h))⟩

@[simp]
lemma signature_deferred : (c.deferred regularDue state).signature = state.signature := by
  unfold ProcessCall.deferred
  split_ifs <;> simp

@[simp]
lemma signature_update :
    (c.update regularDue retryDue state).schedule.signature = state.signature := by
  unfold ProcessCall.update
  split_ifs <;> simp

/-- A call keeps the policy of the schedule. -/
@[simp]
lemma signature_process : (c.process state).schedule.signature = state.signature := by
  unfold ProcessCall.process
  dsimp only
  split_ifs <;> simp

section

variable (hmode : c.sub.updateMode ≠ .intervalFailsafe)
include hmode

/-- The call for a subscription that is not fail-safe, without other deadlines than that of its
update. -/
lemma process_of_quiet
    (hhealth : state.nextHealth = none) (hretry : state.nextRetry = none) :
    c.process state =
      let signature := subscriptionPolicySignature c.sub
      if due state.nextUpdate (c.clock 0) = false then { schedule := state }
      else if c.cancel ≤ 1 then
        { schedule := state, events := [.fetch signature false], failed := true }
      else
        { schedule := state.afterFetch c.sub true (c.reading 2)
          events := [.fetched signature, .fetch signature false] } := by
  have hdue (now : ℤ) : due none now = false := rfl
  unfold ProcessCall.process
  simp only [update_of_ne hmode]
  cases due state.nextUpdate (c.clock 0) with
  | false => simp [hhealth, hretry, hdue]
  | true => simp [hretry, hdue, hmode, beforeFetch]

/-- The end of an update that was due leaves the deadline of the next one, if there is one. -/
lemma afterFetch_of_ne (clock : ℕ → ℤ) :
    state.afterFetch c.sub true clock =
      { state with
        nextUpdate :=
          if isIntervalMode c.sub.updateMode then some (clock 0 + updateInterval c.sub) else none
        nextHealth := none
        nextRetry := none } := by
  simp [afterFetch, hmode]

/-- A subscription that is not fail-safe has no other deadline than that of its update. -/
lemma quiet_process
    (hhealth : state.nextHealth = none) (hretry : state.nextRetry = none) :
    (c.process state).schedule.nextHealth = none ∧ (c.process state).schedule.nextRetry = none ∧
      (isIntervalMode c.sub.updateMode → state.nextUpdate ≠ none →
        (c.process state).schedule.nextUpdate ≠ none) := by
  rw [process_of_quiet hmode hhealth hretry]
  split_ifs
  · exact ⟨hhealth, hretry, fun _ h => h⟩
  · exact ⟨hhealth, hretry, fun _ h => h⟩
  · rw [afterFetch_of_ne hmode]
    exact ⟨rfl, rfl, fun hinterval _ => by simp [hinterval]⟩

end

end Sound

/-- The schedules between two calls are sound. -/
def Scheduler.Sound (s : Scheduler) : Prop :=
  ∀ id state, s.schedules.subscriptions.get? id = some state → state.Sound s.time

/-- The call is not cancelled between its last health evaluation and its return, unless that
evaluation has found no healthy node. -/
def ProcessCall.CheckSeen {ν : Type} (c : ProcessCall ν) (state : SubscriptionSchedule) : Prop :=
  c.sub.updateMode = .intervalFailsafe → c.Updates state → c.cancel = 4 →
    c.check.unavailable = true

instance {ν : Type} (c : ProcessCall ν) (state : SubscriptionSchedule) :
    Decidable (c.CheckSeen state) :=
  inferInstanceAs (Decidable (_ → _ → _ → _))

section Reach

variable {ν : Type} {c : ProcessCall ν} {s s' : Scheduler}

/-- A call starts with the stored schedule, if it has the policy of the subscription, or with a new
one. -/
lemma scheduleFor_cases (s : Scheduler) (c : ProcessCall ν) :
    (s.scheduleFor c).signature = subscriptionPolicySignature c.sub ∧
      (s.schedules.subscriptions.get? c.sub.databaseID = some (s.scheduleFor c) ∨
        s.scheduleFor c =
          { signature := subscriptionPolicySignature c.sub, nextUpdate := some (c.clock 0) }) := by
  unfold Scheduler.scheduleFor Automation.scheduleOf
  split
  · next state hstate =>
    split_ifs with hsig
    · exact ⟨hsig, .inl hstate⟩
    · exact ⟨rfl, .inr rfl⟩
  · exact ⟨rfl, .inr rfl⟩

/-- A call leaves a sound schedule exactly if it is not cancelled after an evaluation that has found
a healthy node. -/
lemma sound_process_iff (h : s.Sound) (htime : s.time ≤ c.clock 0) :
    (c.process (s.scheduleFor c)).schedule.Sound c.returned ↔ c.CheckSeen (s.scheduleFor c) := by
  obtain ⟨hsig, hstate⟩ := scheduleFor_cases s c
  have hmode : (s.scheduleFor c).signature.mode = c.sub.updateMode := by rw [hsig]; rfl
  by_cases hfailsafe : c.sub.updateMode = .intervalFailsafe
  · have hstart : (s.scheduleFor c).Failsafe s.time ∨
        due (s.scheduleFor c).nextUpdate (c.clock 0) = true := by
      rcases hstate with hstored | hfresh
      · have hsound := h _ _ hstored
        rw [Sound, hmode, hfailsafe] at hsound
        exact .inl hsound
      · rw [hfresh]
        exact .inr (by simp [due])
    rw [Sound, signature_process, hmode, hfailsafe]
    rw [ProcessCall.CheckSeen, imp_iff_right hfailsafe]
    exact failsafe_process_iff hfailsafe hsig hstart htime
  · refine iff_of_true ?_ (absurd · hfailsafe)
    have hquiet : (s.scheduleFor c).nextHealth = none ∧ (s.scheduleFor c).nextRetry = none ∧
        (isIntervalMode c.sub.updateMode = true → (s.scheduleFor c).nextUpdate ≠ none) := by
      rcases hstate with hstored | hfresh
      · exact hmode ▸ (sound_iff_of_ne (hmode ▸ hfailsafe)).mp (h _ _ hstored)
      · rw [hfresh]
        simp
    obtain ⟨hhealth, hretry, hupdate⟩ := hquiet
    rw [sound_iff_of_ne (by rwa [signature_process, hmode]), signature_process, hmode]
    obtain ⟨hhealth', hretry', hupdate'⟩ := quiet_process hfailsafe hhealth hretry
    exact ⟨hhealth', hretry', fun hinterval => hupdate' hinterval (hupdate hinterval)⟩

/-- The calls of a run are not cancelled after an evaluation that has found a healthy node. -/
def SchedulerAction.CheckSeen (s : Scheduler) : SchedulerAction ν → Prop
  | .process c => c.CheckSeen (s.scheduleFor c)
  | .keep _ => True

instance (s : Scheduler) : (a : SchedulerAction ν) → Decidable (a.CheckSeen s)
  | .process c => inferInstanceAs (Decidable (c.CheckSeen _))
  | .keep _ => isTrue trivial

variable {state : SubscriptionSchedule}

lemma signature_of_mem_update {regularDue retryDue : Bool} {e : SchedulerEvent}
    (h : e ∈ (c.update regularDue retryDue state).events) :
    e.signature = subscriptionPolicySignature c.sub := by
  unfold ProcessCall.update at h
  split_ifs at h <;> simp at h
  · exact h ▸ rfl
  · rcases h with rfl | rfl | rfl <;> rfl
  · rcases h with rfl | rfl <;> rfl
  · rcases h with rfl | rfl | rfl <;> rfl

/-- What happens in a call happens under the policy of its subscription. -/
lemma signature_of_mem_events {e : SchedulerEvent} (h : e ∈ (c.process state).events) :
    e.signature = subscriptionPolicySignature c.sub := by
  unfold ProcessCall.process at h
  dsimp only at h
  split_ifs at h
  · cases h
  · rcases mem_append.mp h with h | h
    · exact signature_of_mem_update h
    · exact mem_singleton.mp h ▸ rfl
  · exact mem_singleton.mp h ▸ rfl
  · cases h
  · exact signature_of_mem_update h

/-- What a call does to the scheduler. -/
lemma next_process (h : Scheduler.next s (.process c) = some s') :
    s.time ≤ c.clock 0 ∧ s'.time = c.returned ∧
      s'.log = (c.process (s.scheduleFor c)).events ++ s.log ∧
      ∀ id, s'.schedules.subscriptions.get? id =
        if id = c.sub.databaseID then some (c.process (s.scheduleFor c)).schedule
        else s.schedules.subscriptions.get? id := by
  unfold Scheduler.next at h
  dsimp only at h
  split_ifs at h with htime
  cases h
  exact ⟨htime, rfl, rfl, fun id => Go.Map.get?_put⟩

lemma time_le_returned (h : Scheduler.next s (.process c) = some s') : s.time ≤ s'.time := by
  obtain ⟨htime, htime', -⟩ := next_process h
  exact htime' ▸ htime.trans (c.clock_mono (Nat.zero_le _))

lemma Scheduler.Sound.step {a : SchedulerAction ν} (h : s.Sound) (ha : a.CheckSeen s)
    (hs' : Scheduler.next s a = some s') : s'.Sound := by
  cases a with
  | process c =>
    obtain ⟨htime, htime', -, hget⟩ := next_process hs'
    intro id state hstate
    rw [hget] at hstate
    split_ifs at hstate with hid
    · cases hstate
      exact htime' ▸ (sound_process_iff h htime).mpr ha
    · exact (h id state hstate).mono (time_le_returned hs')
  | keep active =>
    cases hs'
    intro id state hstate
    rw [Go.Map.get?_keep] at hstate
    split_ifs at hstate with hid
    exact h id state hstate

/-! ### Updates on start -/

section OnStart

variable {sig : PolicySignature}

/-- The update on start has happened. -/
def Scheduler.Spent (s : Scheduler) (sig : PolicySignature) : Prop :=
  s.schedules.subscriptions.get? sig.id = some { signature := sig }

/-- There is no other deadline than that of the update. -/
def Scheduler.Quiet (s : Scheduler) (sig : PolicySignature) : Prop :=
  ∀ state, s.schedules.subscriptions.get? sig.id = some state → state.signature = sig →
    state.nextHealth = none ∧ state.nextRetry = none

/-- Another subscription. -/
lemma unchanged_of_ne (hs' : Scheduler.next s (.process c) = some s')
    (hne : c.sub.databaseID ≠ sig.id) :
    s'.schedules.subscriptions.get? sig.id = s.schedules.subscriptions.get? sig.id ∧
      s'.log.count (.fetched sig) = s.log.count (.fetched sig) := by
  obtain ⟨-, -, hlog, hget⟩ := next_process hs'
  refine ⟨by rw [hget, if_neg hne.symm], ?_⟩
  rw [hlog, count_append, count_eq_zero.mpr, Nat.zero_add]
  intro hmem
  have hsig := signature_of_mem_events hmem
  exact hne (congrArg PolicySignature.id hsig).symm

/-- The schedule that a call finds for a subscription without other deadlines. -/
lemma Scheduler.Quiet.scheduleFor (h : s.Quiet sig)
    (hsig : subscriptionPolicySignature c.sub = sig) :
    (s.scheduleFor c).nextHealth = none ∧ (s.scheduleFor c).nextRetry = none := by
  obtain ⟨hsig', hstored | hfresh⟩ := scheduleFor_cases s c
  · exact h _ (hsig ▸ hstored) (hsig'.trans hsig)
  · rw [hfresh]
    exact ⟨rfl, rfl⟩

lemma Scheduler.Spent.scheduleFor (h : s.Spent sig)
    (hsig : subscriptionPolicySignature c.sub = sig) : s.scheduleFor c = { signature := sig } := by
  subst hsig
  have hget : s.schedules.subscriptions.get? c.sub.databaseID = some _ := h
  rw [Scheduler.scheduleFor, Automation.scheduleOf, hget]
  exact if_pos rfl

variable (hmode : sig.mode = .onStart)
include hmode

/-- A call for a subscription that is updated on start gets past its fetch only if the update has
not happened, which then has. -/
lemma Scheduler.Quiet.step (h : s.Quiet sig) (hsig : subscriptionPolicySignature c.sub = sig)
    (hs' : Scheduler.next s (.process c) = some s') :
    s'.Quiet sig ∧
      (s'.log.count (.fetched sig) = s.log.count (.fetched sig) ∧ (s.Spent sig → s'.Spent sig) ∨
        s'.log.count (.fetched sig) = s.log.count (.fetched sig) + 1 ∧ ¬s.Spent sig ∧
          s'.Spent sig) := by
  subst hsig
  obtain ⟨-, -, hlog, hget⟩ := next_process hs'
  have hget := hget c.sub.databaseID
  rw [if_pos rfl] at hget
  obtain ⟨hhealth, hretry⟩ := h.scheduleFor rfl
  have hmode : c.sub.updateMode = .onStart := hmode
  have hne : c.sub.updateMode ≠ .intervalFailsafe := by simp [hmode]
  rw [process_of_quiet hne hhealth hretry] at hlog hget
  -- a call that does not get past its fetch leaves the schedule as it finds it
  have hkept (hget : s'.schedules.subscriptions.get? c.sub.databaseID = some (s.scheduleFor c)) :
      s'.Quiet (subscriptionPolicySignature c.sub) ∧
        (s.Spent (subscriptionPolicySignature c.sub) →
          s'.Spent (subscriptionPolicySignature c.sub)) := by
    refine ⟨fun state hstate _ => ?_, fun hspent => hget.trans (by rw [hspent.scheduleFor rfl])⟩
    cases hget.symm.trans hstate
    exact ⟨hhealth, hretry⟩
  split_ifs at hlog hget with hdue
  · exact (hkept hget).imp_right fun hspent => .inl ⟨by rw [hlog]; rfl, hspent⟩
  · exact (hkept hget).imp_right fun hspent => .inl ⟨by simp [hlog], hspent⟩
  · rw [afterFetch_of_ne hne, (scheduleFor_cases s c).1, hmode] at hget
    refine ⟨fun state hstate _ => ?_, .inr ⟨by simp [hlog], fun hspent => hdue ?_, hget⟩⟩
    · cases hget.symm.trans hstate
      exact ⟨rfl, rfl⟩
    · rw [hspent.scheduleFor rfl]
      rfl

/-- At most one call gets past its fetch, and none if the update has happened. -/
lemma Scheduler.Quiet.run {calls : List (ProcessCall ν)}
    (hcalls : ∀ c ∈ calls, subscriptionPolicySignature c.sub = sig ∨ c.sub.databaseID ≠ sig.id)
    (h : s.Quiet sig) (hrun : (schedulerSystem ν).run s (calls.map .process) = some s') :
    s'.log.count (.fetched sig) ≤ s.log.count (.fetched sig) + 1 ∧
      (s.Spent sig → s'.log.count (.fetched sig) = s.log.count (.fetched sig)) := by
  induction calls generalizing s with
  | nil =>
    cases hrun
    exact ⟨Nat.le_succ _, fun _ => rfl⟩
  | cons c calls ih =>
    obtain ⟨hc, hcalls⟩ := forall_mem_cons.mp hcalls
    obtain ⟨u, hu, hrun⟩ := Option.bind_eq_some_iff.mp hrun
    rcases hc with hsig | hne
    · obtain ⟨hquiet, ⟨hcount, hkept⟩ | ⟨hcount, hnot, hspent⟩⟩ := h.step hmode hsig hu
      · have hrest := ih hcalls hquiet hrun
        exact hcount ▸ ⟨hrest.1, fun hspent => hrest.2 (hkept hspent)⟩
      · exact ⟨(((ih hcalls hquiet hrun).2 hspent).trans hcount).le, fun h => absurd h hnot⟩
    · obtain ⟨hget, hcount⟩ := unchanged_of_ne hu hne
      have hrest := ih hcalls (fun state hstate => h state (hget ▸ hstate)) hrun
      exact hcount ▸ ⟨hrest.1, fun hspent => hrest.2 (hget.trans hspent)⟩

end OnStart

/-- The deadlines after each call, and the number of updates on start. In a run in which no call is
cancelled after an evaluation that has found a healthy node, all schedules are sound; the first call
that is breaks its own. -/
theorem sound_of_reachableWhen
    (hs : (schedulerSystem ν).ReachableWhen (fun s a => a.CheckSeen s) s) :
    s.Sound ∧
      (∀ (c : ProcessCall ν) (s' : Scheduler), Scheduler.next s (.process c) = some s' →
        ((∃ state, s'.schedules.subscriptions.get? c.sub.databaseID = some state ∧
          state.signature = subscriptionPolicySignature c.sub ∧ state.Sound s'.time) ↔
            c.CheckSeen (s.scheduleFor c))) ∧
      ∀ (sig : PolicySignature) (calls : List (ProcessCall ν)) (s' : Scheduler),
        sig.mode = .onStart →
        (∀ c ∈ calls, subscriptionPolicySignature c.sub = sig ∨ c.sub.databaseID ≠ sig.id) →
        (schedulerSystem ν).run s (calls.map .process) = some s' →
        s'.log.count (.fetched sig) ≤ s.log.count (.fetched sig) + 1 := by
  have hsound : s.Sound := by
    refine hs.invariant (I := Scheduler.Sound) (fun s hinit id state hstate => ?_)
      fun s a s' h ha hs' => h.step ha hs'
    simp [hinit.1, Go.Map.get?] at hstate
  refine ⟨hsound, fun c s' hs' => ?_, fun sig calls s' hmode hcalls hrun => ?_⟩
  · obtain ⟨htime, htime', -, hget⟩ := next_process hs'
    rw [hget, if_pos rfl, htime', ← sound_process_iff hsound htime]
    simp [(scheduleFor_cases s c).1]
  · refine (Scheduler.Quiet.run hmode hcalls (fun state hstate hsig => ?_) hrun).1
    have hstate := hsound _ _ hstate
    rw [sound_iff_of_ne (by rw [hsig, hmode]; decide)] at hstate
    exact ⟨hstate.1, hstate.2.1⟩

end Reach

/-! ### Runs -/

/-- A fail-safe subscription. -/
def failsafeSub : SubscriptionRaw SOCKS :=
  { databaseID := 1
    updateMode := .intervalFailsafe
    updateIntervalMinutes := 60
    failureIntervalMinutes := 1
    allowDirectRecovery := true }

/-- A call at a time. -/
def failsafeCall (time : ℤ) (cancel : ℕ) (results : List Bool) : ProcessCall SOCKS where
  sub := failsafeSub
  clock _ := time
  clock_mono := monotone_const
  cancel := cancel
  check := { results }

/-- An update that ends with a healthy node. -/
def healthyRun : Option Scheduler :=
  (schedulerSystem SOCKS).runWhen (fun s a => a.CheckSeen s) { time := 0 }
    [.process (failsafeCall 0 5 [true])]

/-- The next evaluation is due one minute later. -/
theorem sound_of_healthyRun :
    (healthyRun.getD { time := 0 }).Sound ∧
      (healthyRun.getD { time := 0 }).schedules.nextDeadline = some minute :=
  ⟨(sound_of_reachableWhen (.run (.init ⟨rfl, rfl⟩) _ (show healthyRun = some _ from rfl))).1,
    by decide +kernel⟩

theorem reaches_failsafeCall :
    let r := (failsafeCall 0 5 [true]).process (Automation.scheduleOf {} failsafeSub 0)
    let a := Automation.putSubscription {} 1 r.schedule
    ∃ b, Reaches (fun _ => none)
      { world := { store := {} }, worker := .process ⟨[failsafeSub], []⟩, cancellable := true }
      (r.exit a ⟨[], []⟩) a b :=
  reaches_process (c := failsafeCall 0 5 [true]) ⟨rfl, rfl, rfl, rfl, nofun, fun _ => ⟨rfl, rfl⟩⟩

/-- A call that is cancelled after its evaluation has found a healthy node leaves both deadlines. -/
theorem not_sound_cancelledRun :
    ∃ s, (schedulerSystem SOCKS).run { time := 0 } [.process (failsafeCall 0 4 [true])] = some s ∧
      s.schedules.subscriptions.get? 1 = some
        { signature := subscriptionPolicySignature failsafeSub
          nextUpdate := some (60 * minute)
          nextHealth := some minute
          nextRetry := some minute } ∧
      ¬s.Sound := by
  refine ⟨_, rfl, by decide +kernel, fun h => ?_⟩
  have hfailsafe : Failsafe _ _ := h 1 _ rfl
  exact absurd (hfailsafe.one.mpr (by decide +kernel)) (by decide +kernel)

end V2rayA
