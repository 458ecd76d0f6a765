import V2rayA.Kernel.Socks
import V2rayA.Service.Automation

/-!
# The automation worker is woken up

The worker does not sleep without a timer while it has work to do and no request is about to
wake it up. This holds in every state of a run in which no request that has cancelled a step
gives up waiting for the configuration lock (`awake_of_reachableWhen`). Without that condition it
fails: a step that is cancelled while it checks a group leaves without a deadline, and the
request that cancelled it may give up without waking the worker (`exists_reachable_stalled`).
-/

namespace V2rayA

open List Option Go.Map SubscriptionSchedule World

variable {ν : Type}

/-- A group with this setting is checked by the worker. -/
def OutboundSetting.Checked (parseURL : String → Option ParsedURL) (setting : OutboundSetting) :
    Prop :=
  setting.FailClosed ∧ validateOutboundSetting parseURL setting = none

/-! ### The worker keeps the settings of the groups -/

/-- The groups are the same, and their settings are up to the current members. -/
structure SameGroups (s s' : Store ν) : Prop where
  names : s'.outboundNames = s.outboundNames
  settings : ∀ name, ∃ sticky,
    s'.getOutboundSetting name = { s.getOutboundSetting name with stickyCurrent := sticky }

namespace SameGroups

variable {s s' s'' : Store ν}

lemma refl (s : Store ν) : SameGroups s s := ⟨rfl, fun _ => ⟨_, rfl⟩⟩

lemma trans (h : SameGroups s s') (h' : SameGroups s' s'') : SameGroups s s'' where
  names := h'.names.trans h.names
  settings name := by
    obtain ⟨a, ha⟩ := h.settings name
    obtain ⟨b, hb⟩ := h'.settings name
    exact ⟨b, by rw [hb, ha]⟩

lemma getOutbounds (h : SameGroups s s') : s'.getOutbounds = s.getOutbounds := by
  simp only [Store.getOutbounds, h.names]

lemma checked_iff (h : SameGroups s s') {parseURL : String → Option ParsedURL} {name : String} :
    (s'.getOutboundSetting name).Checked parseURL ↔
      (s.getOutboundSetting name).Checked parseURL := by
  obtain ⟨sticky, hs⟩ := h.settings name
  rw [hs]
  exact Iff.rfl

lemma replaceConnects (outbound : String) (members : List NodeRef) (s : Store ν) :
    SameGroups s (replaceConnects outbound members s) := by
  unfold V2rayA.replaceConnects
  split_ifs <;> exact ⟨rfl, fun _ => ⟨_, rfl⟩⟩

lemma restoreConnects (outbound : String) (members : Option (List NodeRef)) (s : Store ν) :
    SameGroups s (restoreConnects outbound members s) := by
  unfold V2rayA.restoreConnects
  split_ifs <;> exact ⟨rfl, fun _ => ⟨_, rfl⟩⟩

lemma setOutboundSetting (h : SameGroups s s') {outbound : String} {setting : OutboundSetting}
    {sticky : String} (hset : s'.setOutboundSetting outbound setting = .ok s'')
    (hsetting : setting = { s.getOutboundSetting outbound with stickyCurrent := sticky }) :
    SameGroups s s'' := by
  rw [Store.setOutboundSetting_eq_ok hset]
  refine ⟨h.names, fun name => ?_⟩
  by_cases hname : name = outbound
  · subst hname
    exact ⟨sticky, by simpa [Store.getOutboundSetting] using hsetting⟩
  · simpa [Store.getOutboundSetting, hname] using h.settings name

end SameGroups

section Apply

variable {outbound : String} {members : List NodeRef} {replaceMembers : Bool}

lemma sameGroups_storeGroupState {sticky : String} {next : OutboundSetting} {s : Store ν}
    (hnext : next = { s.getOutboundSetting outbound with stickyCurrent := sticky }) :
    SameGroups s (storeGroupState outbound next members replaceMembers s).2 := by
  set written := if replaceMembers then
      replaceConnects outbound (members.map fun member => { member with outbound }) s else s
    with hwritten
  have hsame : SameGroups s written := by
    rw [hwritten]
    split_ifs
    exacts [.replaceConnects _ _ s, .refl s]
  unfold storeGroupState
  simp only [← hwritten]
  cases hset : written.setOutboundSetting outbound next with
  | error e =>
    split_ifs
    exacts [hsame.trans (.restoreConnects _ _ written), hsame]
  | ok store => exact hsame.setOutboundSetting hset hnext

lemma sameGroups_restoreGroupState {setting : OutboundSetting}
    (previous : Option (List NodeRef)) (replaceMembers : Bool) {s : Store ν} (sticky : String)
    (hsetting : setting = { s.getOutboundSetting outbound with stickyCurrent := sticky }) :
    SameGroups s (restoreGroupState outbound setting previous replaceMembers s).2 := by
  set restored := if replaceMembers then restoreConnects outbound previous s else s with hrestored
  have hsame : SameGroups s restored := by
    rw [hrestored]
    split_ifs
    exacts [.restoreConnects _ _ s, .refl s]
  unfold restoreGroupState
  simp
  cases hset : restored.setOutboundSetting outbound setting with
  | error e => exact hsame
  | ok store => exact hsame.setOutboundSetting hset hsetting

variable [ServerObj ν] (w : World ν)

lemma sameGroups_replaceOutboundConnections (managed : Bool) :
    SameGroups w.store (replaceOutboundConnections outbound members managed w).2.store := by
  unfold replaceOutboundConnections
  generalize (if outbound = "" then "proxy" else outbound) = name
  by_cases hauto : (w.store.getOutboundSetting name).autoAdd ≠ managed
  · rw [if_pos hauto]
    split_ifs <;> exact .refl _
  rw [if_neg hauto]
  cases normalizeTouches name members with
  | error e => exact .refl _
  | ok normalized =>
    dsimp only
    have hreplaced := SameGroups.replaceConnects name normalized w.store
    split_ifs
    · set w' : World ν := { w with store := replaceConnects name normalized w.store }
      rcases hupd : updateGroupConfig w' with ⟨_ | e, w''⟩
      · exact store_of_updateConfig hupd ▸ hreplaced
      · have hstore : w''.store = w'.store := store_of_updateConfig hupd
        simp
        exact hreplaced.trans (hstore ▸ .restoreConnects _ _ w''.store)
    · exact hreplaced

/-- What `ApplyGroupConfig` leaves in the store. -/
lemma store_applyGroupConfig (restore store : Store ν → Option Go.Error × Store ν) :
    (applyGroupConfig restore store w).2.store = (store w.store).2 ∨
      (applyGroupConfig restore store w).2.store = (restore (store w.store).2).2 := by
  unfold applyGroupConfig
  rcases store w.store with ⟨_ | e, written⟩
  · by_cases hrunning : w.running = true
    · simp only [hrunning]
      rcases hupd : updateGroupConfig
        { w with store := written, running := true } with ⟨_ | updateErr, w'⟩
      · exact .inl (store_of_updateConfig hupd)
      · obtain rfl : w'.store = written := store_of_updateConfig hupd
        right
        dsimp only
        rcases restore w'.store with ⟨_ | e, restored⟩
        · dsimp only
          rcases hupd' : updateGroupConfig { w' with store := restored } with ⟨_ | e, w''⟩ <;>
            exact store_of_updateConfig hupd'
        · rfl
    · simp [hrunning]
  · exact .inl rfl

lemma sameGroups_applyManagedGroupState {sticky : String} {next : OutboundSetting}
    (hnext : next = { w.store.getOutboundSetting outbound with stickyCurrent := sticky }) :
    SameGroups w.store
      (applyManagedGroupState outbound next members replaceMembers w).2.store := by
  have hstored : SameGroups w.store
      (storeGroupState outbound next members replaceMembers w.store).2 :=
    sameGroups_storeGroupState hnext
  rcases store_applyGroupConfig w
      (restoreGroupState outbound (w.store.getOutboundSetting outbound)
        (w.store.getConnectedServersByOutbound outbound) replaceMembers)
      (storeGroupState outbound next members replaceMembers) with heq | heq
  · exact heq ▸ hstored
  · obtain ⟨a, ha⟩ := hstored.settings outbound
    exact heq ▸ hstored.trans (sameGroups_restoreGroupState _ _
      (w.store.getOutboundSetting outbound).stickyCurrent (by rw [ha]))

lemma sameGroups_applyMembership (cancelled : Bool) (task : GroupTask ν) (results : List Bool) :
    SameGroups w.store (applyMembership cancelled task results w).2.store := by
  unfold applyMembership
  dsimp only
  split_ifs
  · exact .refl _
  · exact .refl _
  · exact sameGroups_applyManagedGroupState w rfl
  · exact sameGroups_replaceOutboundConnections w true
  · exact .refl _

end Apply

/-! ### Deadlines -/

namespace Automation

lemma earlier_eq_none_iff {next candidate : Option ℤ} :
    earlier next candidate = none ↔ next = none ∧ candidate = none := by
  cases next <;> cases candidate <;> simp [earlier]
  split_ifs <;> simp

private lemma foldl_earlier_eq_none_iff {α : Type} (f : Option ℤ → α → Option ℤ)
    (p : α → Prop) (hf : ∀ next x, f next x = none ↔ next = none ∧ p x) (l : List α)
    (next : Option ℤ) : l.foldl f next = none ↔ next = none ∧ ∀ x ∈ l, p x := by
  induction l generalizing next with
  | nil => simp
  | cons x l ih => rw [foldl_cons, ih, hf, forall_mem_cons, and_assoc]

/-- There is no next deadline exactly if none is pending. -/
lemma nextDeadline_eq_none_iff (a : Automation) :
    a.nextDeadline = none ↔
      (∀ e ∈ a.subscriptions, ¬e.2.Pending) ∧ ∀ e ∈ a.groups, e.2.next = none := by
  unfold nextDeadline
  rw [foldl_earlier_eq_none_iff _ (fun e : String × GroupSchedule => e.2.next = none)
      fun _ _ => earlier_eq_none_iff,
    foldl_earlier_eq_none_iff _ (fun e : ℤ × SubscriptionSchedule => ¬e.2.Pending)]
  · simp
  · intro next e
    simp only [foldl_cons, foldl_nil, earlier_eq_none_iff, Pending]
    tauto

lemma nextDeadline_ne_none {a : Automation} {id : ℤ} {state : SubscriptionSchedule}
    (hmem : (id, state) ∈ a.subscriptions) (hpending : state.Pending) : a.nextDeadline ≠ none :=
  fun h => (a.nextDeadline_eq_none_iff.mp h).1 _ hmem hpending

end Automation

/-! ### The invariant -/

/-- The request that has its turn holds the lock or waits for it, or it has released the lock and
has not told the worker yet. -/
def TurnPC.Busy : TurnPC → Prop
  | trying _ | waiting _ | holding | unlocked => True
  | taken | notified => False

/-- The request that has its turn will tell the worker, unless it gives up after it has cancelled
a step. -/
def TurnPC.Promises : TurnPC → Prop
  | trying hit | waiting hit => hit = true
  | holding | unlocked => True
  | taken | notified => False

/-- The schedule of the subscription that is processed. -/
def Automation.Current (a : Automation) (sub : SubscriptionRaw ν)
    (p : SubscriptionSchedule → Prop) : Prop :=
  (∃ state, (sub.databaseID, state) ∈ a.subscriptions) ∧
    ∀ state, (sub.databaseID, state) ∈ a.subscriptions →
      state.signature = subscriptionPolicySignature sub ∧ p state

/-- A group has a deadline. -/
def Automation.Scheduled (a : Automation) (name : String) : Prop :=
  ∃ state, (name, state) ∈ a.groups ∧ state.next ≠ none

/-- The groups of a step are scheduled or left for the rest of the step. -/
def Automation.Handled (a : Automation) (parseURL : String → Option ParsedURL)
    (pass : GroupPass ν) (name : String) : Prop :=
  (∃ task ∈ pass.rest, task.name = name ∧ task.setting.Checked parseURL) ∨
    (name ∈ pass.active ∧ a.Scheduled name)

/-- Only the failsafe mode has health checks and retries. -/
def Automation.Modes (a : Automation) : Prop :=
  ∀ e ∈ a.subscriptions, e.2.signature.mode ≠ .intervalFailsafe →
    e.2.nextHealth = none ∧ e.2.nextRetry = none

namespace AutomationState

variable (s : AutomationState ν)

/-- The worker has been told to go on, or will be. -/
def Promised : Prop := s.wake = true ∨ ∃ pc, s.turn = some pc ∧ pc.Promises

/-- The groups that the worker has to check. -/
def ToCheck (parseURL : String → Option ParsedURL) (name : String) : Prop :=
  name ∈ s.world.store.getOutbounds ∧ (s.world.store.getOutboundSetting name).Checked parseURL

/-- There is nothing to do for the worker. -/
def Quiet (parseURL : String → Option ParsedURL) : Prop :=
  (∀ e ∈ s.schedules.subscriptions, ¬e.2.Pending) ∧ ∀ name, ¬s.ToCheck parseURL name

end AutomationState

/-- The worker is in a step. -/
def WorkerPC.inStep : WorkerPC ν → Bool
  | begin => false
  | wait _ => false
  | _ => true

/-- What holds at a point of the worker. -/
def WorkerPC.Ok (parseURL : String → Option ParsedURL) (s : AutomationState ν) :
    WorkerPC ν → Prop
  | begin | readSubscriptions | process _ | readGroups => True
  | health sub _ | check sub _ _ =>
    sub.updateMode = .intervalFailsafe ∧ s.schedules.Current sub fun _ => True
  | fetch sub _ _ => s.schedules.Current sub fun state =>
      if sub.updateMode = .intervalFailsafe then state.nextRetry ≠ none
      else state.nextUpdate ≠ none
  | apply sub _ _ _ _ => s.schedules.Current sub fun _ => True
  | deferred sub _ failed _ =>
    sub.updateMode = .intervalFailsafe ∧ (s.schedules.Current sub fun _ => True) ∧
      (failed = true → s.cancelled = true)
  | groups pass | groupDone pass =>
    s.Promised ∨ ∀ name, s.ToCheck parseURL name → s.schedules.Handled parseURL pass name
  | probe task pass | membership task _ pass =>
    task.name ∈ pass.active ∧ (∃ state, (task.name, state) ∈ s.schedules.groups) ∧
      (s.Promised ∨ ∀ name, s.ToCheck parseURL name →
        name = task.name ∨ s.schedules.Handled parseURL pass name)
  | leave next | wait next => next = none → s.Promised ∨ s.Quiet parseURL

/-- What holds in every state. -/
structure Awake (parseURL : String → Option ParsedURL) (s : AutomationState ν) : Prop where
  pc : s.worker.Ok parseURL s
  cancellable : s.cancellable = s.worker.inStep
  /-- Whoever has cancelled the step will tell the worker. -/
  cancelled : s.cancellable = true → s.cancelled = true → s.Promised
  modes : s.schedules.Modes

section Steps

variable {parseURL : String → Option ParsedURL} {s s' : AutomationState ν}

/-- A request does not touch the schedules, and it changes the store only if it will tell the
worker. -/
lemma WorkerPC.Ok.mono {pc : WorkerPC ν} (h : pc.Ok parseURL s)
    (hsched : s'.schedules = s.schedules) (hprom : s.Promised → s'.Promised)
    (hcancel : s.cancelled → s'.cancelled)
    (hstore : s'.world.store = s.world.store ∨ s'.Promised) : pc.Ok parseURL s' := by
  have hcurrent {sub : SubscriptionRaw ν} {p : SubscriptionSchedule → Prop}
      (h : s.schedules.Current sub p) : s'.schedules.Current sub p := hsched ▸ h
  have hgroups {p p' : String → Prop} (hp : ∀ name, p name → p' name)
      (h : s.Promised ∨ ∀ name, s.ToCheck parseURL name → p name) :
      s'.Promised ∨ ∀ name, s'.ToCheck parseURL name → p' name := by
    rcases hstore with hstore | hpromised
    · refine h.imp hprom fun h name hname => hp name (h name ?_)
      simpa only [AutomationState.ToCheck, hstore] using hname
    · exact .inl hpromised
  have hhandled (pass : GroupPass ν) (name : String) (h : s.schedules.Handled parseURL pass name) :
      s'.schedules.Handled parseURL pass name := hsched ▸ h
  cases pc with
  | begin | readSubscriptions | process | readGroups => trivial
  | health | check => exact ⟨h.1, hcurrent h.2⟩
  | fetch | apply => exact hcurrent h
  | deferred => exact ⟨h.1, hcurrent h.2.1, fun hf => hcancel (h.2.2 hf)⟩
  | groups pass | groupDone pass => exact hgroups (hhandled pass) h
  | probe task pass | membership task results pass =>
    exact ⟨h.1, hsched ▸ h.2.1, hgroups (fun name => Or.imp_right (hhandled pass name)) h.2.2⟩
  | leave next | wait next =>
    intro hnext
    rcases hstore with hstore | hpromised
    · refine (h hnext).imp hprom fun hquiet => ?_
      simpa only [AutomationState.Quiet, AutomationState.ToCheck, hsched, hstore] using hquiet
    · exact .inl hpromised

/-- A step of a request. -/
lemma Awake.of_request (h : Awake parseURL s) (hworker : s'.worker = s.worker)
    (hsched : s'.schedules = s.schedules) (hcancellable : s'.cancellable = s.cancellable)
    (hprom : s.Promised → s'.Promised) (hcancel : s.cancelled → s'.cancelled)
    (hnew : s'.cancellable → s'.cancelled → s.cancelled ∨ s'.Promised)
    (hstore : s'.world.store = s.world.store ∨ s'.Promised) : Awake parseURL s' where
  pc := hworker ▸ h.pc.mono hsched hprom hcancel hstore
  cancellable := by rw [hcancellable, hworker, h.cancellable]
  cancelled hon hc := (hnew hon hc).elim (fun hc => hprom (h.cancelled (hcancellable ▸ hon) hc)) id
  modes := hsched ▸ h.modes

end Steps

/-! #### Processing a subscription -/

namespace Automation

variable {a : Automation} {sub : SubscriptionRaw ν} {p q : SubscriptionSchedule → Prop}

lemma Current.modify (h : a.Current sub p) (f : SubscriptionSchedule → SubscriptionSchedule)
    (hsig : ∀ state, (f state).signature = state.signature) (hq : ∀ state, p state → q (f state)) :
    (a.modifySubscription sub.databaseID f).Current sub q := by
  obtain ⟨⟨state, hstate⟩, hall⟩ := h
  refine ⟨⟨f state, mem_modify.mpr (by simpa using ⟨state, hstate, rfl⟩)⟩, ?_⟩
  intro state' hstate'
  obtain ⟨old, hold, rfl⟩ : ∃ old, (sub.databaseID, old) ∈ a.subscriptions ∧ state' = f old := by
    simpa using mem_modify.mp hstate'
  exact ⟨(hsig old).trans (hall old hold).1, hq old (hall old hold).2⟩

lemma Current.mono (h : a.Current sub p) (hq : ∀ state, p state → q state) : a.Current sub q :=
  ⟨h.1, fun state hstate => ⟨(h.2 state hstate).1, hq state (h.2 state hstate).2⟩⟩

variable {state : SubscriptionSchedule}

lemma Current.put (hsig : state.signature = subscriptionPolicySignature sub) (hp : p state) :
    (a.putSubscription sub.databaseID state).Current sub p := by
  refine ⟨⟨state, mem_put.mpr (.inl ⟨rfl, rfl⟩)⟩, fun state' hstate' => ?_⟩
  rcases mem_put.mp hstate' with ⟨-, rfl⟩ | ⟨hne, -⟩
  · exact ⟨hsig, hp⟩
  · exact absurd rfl hne

/-- The deadline that is reserved for the processed subscription keeps the worker from leaving
without one. -/
lemma Current.nextDeadline_ne_none (h : a.Current sub p) (hp : ∀ state, p state → state.Pending) :
    a.nextDeadline ≠ none := by
  obtain ⟨⟨state, hstate⟩, hall⟩ := h
  exact Automation.nextDeadline_ne_none hstate (hp state (hall state hstate).2)

lemma Modes.modify (h : a.Modes) (hcur : a.Current sub p)
    (f : SubscriptionSchedule → SubscriptionSchedule)
    (hsig : ∀ state, (f state).signature = state.signature)
    (hf : sub.updateMode ≠ .intervalFailsafe → ∀ state, state.nextHealth = none →
      state.nextRetry = none → (f state).nextHealth = none ∧ (f state).nextRetry = none) :
    (a.modifySubscription sub.databaseID f).Modes := by
  rintro ⟨id, state⟩ he hmode
  have he := mem_modify.mp he
  split_ifs at he with hid
  · subst hid
    obtain ⟨old, hold, rfl⟩ := he
    have hsub : sub.updateMode ≠ .intervalFailsafe := by
      have := (hcur.2 old hold).1
      simpa [hsig, this, subscriptionPolicySignature] using hmode
    obtain ⟨hh, hr⟩ := h _ hold (by simpa [hsig] using hmode)
    exact hf hsub old hh hr
  · exact h _ he hmode

lemma Modes.put (h : a.Modes) (hsig : state.signature = subscriptionPolicySignature sub)
    (hstate : sub.updateMode ≠ .intervalFailsafe →
      state.nextHealth = none ∧ state.nextRetry = none) :
    (a.putSubscription sub.databaseID state).Modes := by
  rintro ⟨id, state'⟩ he hmode
  rcases mem_put.mp he with ⟨-, rfl⟩ | ⟨-, he⟩
  · exact hstate (by simpa [hsig, subscriptionPolicySignature] using hmode)
  · exact h _ he hmode

/-- The schedule that `process` works with. -/
lemma Modes.scheduleOf (h : a.Modes) (sub : SubscriptionRaw ν) (now : ℤ) :
    (a.scheduleOf sub now).signature = subscriptionPolicySignature sub ∧
      (sub.updateMode ≠ .intervalFailsafe →
        (a.scheduleOf sub now).nextHealth = none ∧ (a.scheduleOf sub now).nextRetry = none) := by
  unfold Automation.scheduleOf
  cases hget : a.subscriptions.get? sub.databaseID with
  | none => exact ⟨rfl, fun _ => ⟨rfl, rfl⟩⟩
  | some state =>
    dsimp only
    split_ifs with hsig
    · refine ⟨hsig, fun hmode => h _ (mem_of_get? hget) ?_⟩
      simpa [hsig, subscriptionPolicySignature] using hmode
    · exact ⟨rfl, fun _ => ⟨rfl, rfl⟩⟩

end Automation

section Steps

variable {parseURL : String → Option ParsedURL} {s s' : AutomationState ν}

/-- The lock is not part of the invariant. -/
lemma Awake.withLock (h : Awake parseURL s) {body : Bool → AutomationState ν}
    (hbody : ∀ seen, Awake parseURL (body seen)) (hs' : s.withLock body = some s') :
    Awake parseURL s' := by
  unfold AutomationState.withLock at hs'
  split at hs'
  · exact some.inj hs' ▸
      (hbody _).of_request rfl rfl rfl id id (fun _ => .inl) (.inl rfl)
  · split_ifs at hs'
    exact some.inj hs' ▸ h.of_request rfl rfl rfl id id (fun _ => .inl) (.inl rfl)

namespace Awake

/-- The worker goes on within a step. -/
lemma of_worker (h : Awake parseURL s) {pc : WorkerPC ν} {schedules : Automation}
    {world : World ν} (hfrom : s.worker.inStep) (hto : pc.inStep)
    (hpc : pc.Ok parseURL { s with world, worker := pc, schedules }) (hmodes : schedules.Modes) :
    Awake parseURL { s with world, worker := pc, schedules } where
  pc := hpc
  cancellable := by simpa [hto, hfrom] using h.cancellable
  cancelled := h.cancelled
  modes := hmodes

attribute [local simp] SubscriptionSchedule.reserve

/-- `process` up to the first point at which it looks at the context. -/
lemma beginProcess (h : Awake parseURL s) (sub : SubscriptionRaw ν)
    (hs : s.worker.inStep) (clock : ℕ → ℤ) (pass : SubscriptionPass ν) :
    Awake parseURL
      { s with
        worker := (s.schedules.beginProcess sub clock pass).2
        schedules := (s.schedules.beginProcess sub clock pass).1 } := by
  obtain ⟨hsig, hmode⟩ := h.modes.scheduleOf sub (clock 0)
  unfold Automation.beginProcess
  dsimp only
  split_ifs with hhealth hidle
  · -- A health check is due, so the mode is the failsafe mode.
    have hsafe : sub.updateMode = .intervalFailsafe := by
      by_contra hne
      simp [due, (hmode hne).1] at hhealth
    refine h.of_worker hs rfl ⟨hsafe, .put ?_ trivial⟩ (h.modes.put ?_ (absurd hsafe))
    all_goals exact hsig
  · exact h.of_worker hs rfl trivial (h.modes.put hsig hmode)
  · by_cases hsafe : sub.updateMode = .intervalFailsafe
    · simp only [beforeFetch, hsafe]
      refine h.of_worker hs rfl (.put ?_ ?_) (h.modes.put ?_ (absurd hsafe))
      · exact hsig
      · simp [hsafe]
      · exact hsig
    · -- Without retries only a regular update can be due.
      simp only [beforeFetch, hsafe]
      refine h.of_worker hs rfl (.put hsig ?_) (h.modes.put hsig hmode)
      simp only [hsafe, if_false]
      intro hnone
      simp [due, (hmode hsafe).2, hnone] at hidle

variable {p : SubscriptionSchedule → Prop} {sub : SubscriptionRaw ν}

/-- The worker leaves with the deadline of the processed subscription. -/
lemma leave_of_current (h : Awake parseURL s) (hfrom : s.worker.inStep)
    {schedules : Automation} (hcur : schedules.Current sub p)
    (hp : ∀ state, p state → state.Pending) (hmodes : schedules.Modes) :
    Awake parseURL { s with worker := .leave schedules.nextDeadline, schedules } :=
  h.of_worker hfrom rfl (fun hnone => absurd hnone (hcur.nextDeadline_ne_none hp)) hmodes

/-- The update of a subscription is over. -/
lemma afterFetch (h : Awake parseURL s) (hfrom : s.worker.inStep)
    (hcur : s.schedules.Current sub p) (regularDue : Bool) (clock : ℕ → ℤ)
    (pass : SubscriptionPass ν) (world : World ν) :
    Awake parseURL
      { s with
        world
        worker := .afterFetch sub regularDue pass
        schedules := s.schedules.modifySubscription sub.databaseID fun st =>
          st.afterFetch sub regularDue clock } := by
  have hsig (state : SubscriptionSchedule) := state.signature_afterFetch sub regularDue clock
  have hmodes := h.modes.modify hcur (fun st => st.afterFetch sub regularDue clock) hsig
    fun hne state _ _ => by simp [SubscriptionSchedule.afterFetch, hne]
  by_cases hsafe : sub.updateMode = .intervalFailsafe
  · have hworker : WorkerPC.afterFetch sub regularDue pass = .check sub regularDue pass := by
      simp [WorkerPC.afterFetch, hsafe]
    rw [hworker]
    exact h.of_worker hfrom rfl ⟨hsafe, hcur.modify _ hsig fun _ _ => trivial⟩ hmodes
  · have hworker : WorkerPC.afterFetch sub regularDue pass = .process pass := by
      simp [WorkerPC.afterFetch, hsafe]
    rw [hworker]
    exact h.of_worker hfrom rfl trivial hmodes

/-! #### Checking a group -/

variable {cache : Go.Map String Bool}

/-- All groups have been handled. -/
lemma quiet_of_handled {active : List String}
    (h : ∀ name, s.ToCheck parseURL name →
      s.schedules.Handled parseURL (⟨[], active, cache⟩ : GroupPass ν) name)
    (hnone : { s.schedules with groups := s.schedules.groups.keep active }.nextDeadline = none) :
    s.Quiet parseURL := by
  obtain ⟨hsubs, hgroups⟩ := (Automation.nextDeadline_eq_none_iff _).mp hnone
  refine ⟨hsubs, fun name hname => ?_⟩
  rcases h name hname with ⟨task, htask, -⟩ | ⟨hactive, state, hstate, hnext⟩
  · simp at htask
  · exact hnext (hgroups _ (mem_keep.mpr ⟨hstate, hactive⟩))

/-- `processGroup` up to the probes. -/
lemma beginGroup (h : Awake parseURL s) {task : GroupTask ν} {rest : List (GroupTask ν)}
    {active : List String} (hs : s.worker = .groups ⟨task :: rest, active, cache⟩) (now : ℤ) :
    Awake parseURL
      { s with
        worker := (s.schedules.beginGroup task now ⟨rest, task.name :: active, cache⟩).2
        schedules := (s.schedules.beginGroup task now ⟨rest, task.name :: active, cache⟩).1 } := by
  have hpc := h.pc
  rw [hs] at hpc
  have hfrom : s.worker.inStep := by rw [hs]; rfl
  -- A group that is left is this one or one of the rest.
  have hsplit {name : String}
      (hname : s.schedules.Handled parseURL (⟨task :: rest, active, cache⟩ : GroupPass ν) name) :
      name = task.name ∨
        s.schedules.Handled parseURL (⟨rest, task.name :: active, cache⟩ : GroupPass ν) name := by
    rcases hname with ⟨task', htask', hname', hchecked⟩ | ⟨hactive, hsched⟩
    · rcases mem_cons.mp htask' with rfl | htask'
      · exact .inl hname'.symm
      · exact .inr (.inl ⟨task', htask', hname', hchecked⟩)
    · exact .inr (.inr ⟨mem_cons_of_mem _ hactive, hsched⟩)
  have hprobe (state : GroupSchedule) : Awake parseURL
      { s with
        worker := .probe task ⟨rest, task.name :: active, cache⟩
        schedules := { s.schedules with groups := s.schedules.groups.put task.name state } } := by
    refine h.of_worker hfrom rfl ⟨mem_cons_self, ⟨state, mem_put.mpr (.inl ⟨rfl, rfl⟩)⟩,
      hpc.imp_right fun hpc name hname => ?_⟩ h.modes
    by_cases heq : name = task.name
    · exact .inl heq
    · refine .inr (((hsplit (hpc name hname)).resolve_left heq).imp_right ?_)
      rintro ⟨hactive, st, hst, hnext⟩
      exact ⟨hactive, st, mem_put.mpr (.inr ⟨heq, hst⟩), hnext⟩
  unfold Automation.beginGroup
  cases hget : s.schedules.groups.get? task.name with
  | none => exact hprobe _
  | some state =>
    dsimp only
    split_ifs with hdue
    · refine h.of_worker hfrom rfl (hpc.imp_right fun hpc name hname => ?_) h.modes
      rcases hsplit (hpc name hname) with rfl | hhandled
      · refine .inr ⟨mem_cons_self, state, mem_of_get? hget, fun hnone => ?_⟩
        simp [hnone] at hdue
      · exact hhandled
    · exact hprobe _

/-- The next check of a group is scheduled. -/
lemma groupDone (h : Awake parseURL s) (hfrom : s.worker.inStep) {task : GroupTask ν}
    {pass : GroupPass ν} (hactive : task.name ∈ pass.active)
    (hstate : ∃ state, (task.name, state) ∈ s.schedules.groups)
    (hpc : s.Promised ∨ ∀ name, s.ToCheck parseURL name →
      name = task.name ∨ s.schedules.Handled parseURL pass name)
    (next : ℤ) {world : World ν} (hworld : SameGroups s.world.store world.store) :
    Awake parseURL
      { s with
        world
        worker := .groupDone pass
        schedules := s.schedules.setGroupNext task.name next } := by
  obtain ⟨state, hstate⟩ := hstate
  have hscheduled : (s.schedules.setGroupNext task.name next).Scheduled task.name := by
    refine ⟨{ state with next := some next }, ?_, by simp⟩
    rw [Automation.setGroupNext, mem_modify, if_pos rfl]
    exact ⟨state, hstate, rfl⟩
  refine h.of_worker hfrom rfl (hpc.imp_right fun hpc name hname => ?_) h.modes
  have hname : s.ToCheck parseURL name := ⟨hworld.getOutbounds ▸ hname.1, hworld.checked_iff.mp hname.2⟩
  by_cases heq : name = task.name
  · exact .inr ⟨heq ▸ hactive, heq ▸ hscheduled⟩
  · refine ((hpc name hname).resolve_left heq).imp_right ?_
    rintro ⟨hactive, st, hst, hnext⟩
    refine ⟨hactive, st, ?_, hnext⟩
    rw [Automation.setGroupNext, mem_modify, if_neg heq]
    exact hst

variable [ServerObj ν]

attribute [local simp] SubscriptionSchedule.beforeFetch

/-- Every section of the worker keeps the invariant. -/
lemma workerStep {choice : WorkerChoice ν} (h : Awake parseURL s)
    (hs' : workerStep parseURL s choice = some s') : Awake parseURL s' := by
  have hpc := h.pc
  have hin := h.cancellable
  unfold V2rayA.workerStep at hs'
  cases hw : s.worker <;> simp only [hw] at hs' hpc
  case begin =>
    cases hs'
    exact ⟨trivial, rfl, by simp, h.modes⟩
  case readSubscriptions =>
    refine h.withLock (fun _ => ?_) hs'
    exact h.of_worker (hw ▸ rfl) rfl trivial h.modes
  case process pass =>
    obtain ⟨_ | ⟨sub, rest⟩, active⟩ := pass
    · simp only at hs'
      refine some.inj hs' ▸ h.of_worker (hw ▸ rfl) rfl trivial ?_
      rintro ⟨id, state⟩ he
      exact h.modes _ (mem_keep.mp he).1
    · simp only at hs'
      exact some.inj hs' ▸ h.beginProcess sub (hw ▸ rfl) choice.clock ⟨rest, active⟩
  case health sub pass =>
    obtain ⟨hsafe, hcur⟩ := hpc
    have hmodes (f : SubscriptionSchedule → SubscriptionSchedule)
        (hsig : ∀ state, (f state).signature = state.signature) :=
      h.modes.modify hcur f hsig (absurd hsafe)
    split_ifs at hs' with hc hu
    · refine some.inj hs' ▸ h.leave_of_current (hw ▸ rfl)
        (hcur.modify (q := fun state => state.nextHealth ≠ none) _ (fun _ => rfl) (by simp))
        (fun _ hp => .inr (.inl hp)) (hmodes _ fun _ => rfl)
    · exact some.inj hs' ▸ h.of_worker (hw ▸ rfl) rfl
        (hcur.modify _ (fun _ => by simp [hsafe])
          (by simp [hsafe]))
        (hmodes _ fun _ => by simp [hsafe])
    · exact some.inj hs' ▸ h.of_worker (hw ▸ rfl) rfl trivial (hmodes _ fun _ => rfl)
  case fetch sub regularDue pass =>
    change s.schedules.Current sub _ at hpc
    split_ifs at hs' with hc hsafe
    · exact some.inj hs' ▸ h.of_worker (hw ▸ rfl) rfl
        ⟨hsafe, hpc.mono fun _ _ => trivial, fun _ => hc⟩ h.modes
    · refine some.inj hs' ▸ h.leave_of_current (hw ▸ rfl) hpc (fun state hp => ?_)
        h.modes
      rw [if_neg hsafe] at hp
      exact .inl hp
    · cases hf : choice.fetched with
      | error e =>
        simp only [hf] at hs'
        exact some.inj hs' ▸
          h.afterFetch (hw ▸ rfl) hpc regularDue choice.clock pass s.world
      | ok r =>
        simp only [hf] at hs'
        exact some.inj hs' ▸ h.of_worker (hw ▸ rfl) rfl
          (hpc.mono fun _ _ => trivial) h.modes
  case apply sub regularDue nodes info pass =>
    exact h.withLock
      (fun _ => h.afterFetch (hw ▸ rfl) hpc regularDue choice.clock pass _) hs'
  case check sub regularDue pass =>
    obtain ⟨hsafe, hcur⟩ := hpc
    split_ifs at hs' with hc
    · exact some.inj hs' ▸ h.of_worker (hw ▸ rfl) rfl
        ⟨hsafe, hcur, fun _ => hc⟩ h.modes
    · have hsig (state : SubscriptionSchedule) :=
        state.signature_afterCheck sub choice.unavailable choice.clock
      exact some.inj hs' ▸ h.of_worker (hw ▸ rfl) rfl
        ⟨hsafe, hcur.modify _ hsig fun _ _ => trivial, by simp⟩
        (h.modes.modify hcur _ hsig (absurd hsafe))
  case deferred sub regularDue failed pass =>
    obtain ⟨hsafe, hcur, hfailed⟩ := hpc
    have hreserved := hcur.modify (q := fun state => state.nextRetry ≠ none)
      (fun st => st.reserve sub regularDue choice.clock) (fun _ => rfl)
      (by simp)
    have hmodes := h.modes.modify hcur (fun st => st.reserve sub regularDue choice.clock)
      (fun _ => rfl) (absurd hsafe)
    cases failed with
    | true =>
      rw [if_pos (hfailed rfl), if_pos rfl] at hs'
      exact some.inj hs' ▸ h.leave_of_current (hw ▸ rfl) hreserved
        (fun _ hp => .inr (.inr hp)) hmodes
    | false =>
      rw [if_neg Bool.false_ne_true] at hs'
      split_ifs at hs'
      · exact some.inj hs' ▸ h.of_worker (hw ▸ rfl) rfl trivial hmodes
      · exact some.inj hs' ▸ h.of_worker (hw ▸ rfl) rfl trivial h.modes
  case readGroups =>
    refine h.withLock (fun _ => ?_) hs'
    refine h.of_worker (hw ▸ rfl) rfl (.inr ?_) h.modes
    rintro name ⟨hname, hchecked⟩
    refine .inl ⟨_, (choice.runtime.mem_mapOrder).mpr (mem_map.mpr ⟨name, hname, rfl⟩), rfl, ?_⟩
    exact hchecked
  case groups pass =>
    obtain ⟨_ | ⟨task, rest⟩, active, cache⟩ := pass
    · simp only at hs'
      exact some.inj hs' ▸ h.of_worker (hw ▸ rfl) rfl
        (fun hnone => hpc.imp_right fun hpc => quiet_of_handled (s := s) hpc hnone) h.modes
    · have hskip {active' : List String} (hsub : active ⊆ active')
          (hnot : ¬task.setting.Checked parseURL) :
          Awake parseURL { s with worker := .groups ⟨rest, active', cache⟩ } := by
        refine h.of_worker (hw ▸ rfl) rfl (hpc.imp_right fun hpc name hname => ?_) h.modes
        rcases hpc name hname with ⟨task', htask', hname', hchecked⟩ | ⟨hactive, hsched⟩
        · rcases mem_cons.mp htask' with rfl | htask'
          · exact absurd hchecked hnot
          · exact .inl ⟨task', htask', hname', hchecked⟩
        · exact .inr ⟨hsub hactive, hsched⟩
      simp only at hs'
      split_ifs at hs' with hclosed hvalid
      · exact some.inj hs' ▸ hskip (subset_cons_self _ _) fun hc => by
          simp [hc.2] at hvalid
      · exact some.inj hs' ▸ h.beginGroup hw _
      · exact some.inj hs' ▸ hskip (List.Subset.refl _) fun hc => hclosed hc.1
  case probe task pass =>
    obtain ⟨hactive, hstate, hpc⟩ := hpc
    cases hprobe : probeCached s.cancelled choice.probes pass.cache (probeKeys task) with
    | none =>
      simp only [hprobe] at hs'
      exact some.inj hs' ▸
        h.groupDone (hw ▸ rfl) hactive hstate hpc _ (.refl s.world.store)
    | some r =>
      simp only [hprobe] at hs'
      exact some.inj hs' ▸ h.of_worker (hw ▸ rfl) rfl ⟨hactive, hstate, hpc⟩ h.modes
  case membership task results pass =>
    obtain ⟨hactive, hstate, hpc⟩ := hpc
    exact h.withLock (fun seen => h.groupDone (hw ▸ rfl) hactive hstate hpc _
      (sameGroups_applyMembership s.world seen task results)) hs'
  case groupDone pass =>
    split_ifs at hs' with hc
    · refine some.inj hs' ▸ h.of_worker (hw ▸ rfl) rfl (fun _ => .inl ?_) h.modes
      exact h.cancelled (by rw [hin, hw]; rfl) hc
    · exact some.inj hs' ▸ h.of_worker (hw ▸ rfl) rfl hpc h.modes
  case leave next =>
    exact some.inj hs' ▸ ⟨hpc, rfl, by simp, h.modes⟩
  case wait next =>
    rw [hw] at hin
    split_ifs at hs'
    · exact some.inj hs' ▸ ⟨trivial, hin, by simp [hin, WorkerPC.inStep], h.modes⟩
    · exact some.inj hs' ▸ ⟨trivial, hin, by simp [hin, WorkerPC.inStep], h.modes⟩

end Awake

/-! ### The condition -/

/-- No request that has cancelled a step gives up waiting for the lock. -/
def AutomationAction.Patient (s : AutomationState ν) : AutomationAction ν → Prop
  | .giveUp => s.turn ≠ some (.waiting true)
  | _ => True

instance (s : AutomationState ν) : (a : AutomationAction ν) → Decidable (a.Patient s)
  | .giveUp => inferInstanceAs (Decidable (_ ≠ _))
  | .worker _ | .arrive | .giveUpTurn | .takeTurn | .cancelAutomation | .tryLock | .retry
  | .mutate _ | .unlock | .notifyAutomation | .release => inferInstanceAs (Decidable True)

variable [ServerObj ν]

lemma Awake.next {a : AutomationAction ν} (h : Awake parseURL s) (ha : a.Patient s)
    (hs' : s.next parseURL a = some s') : Awake parseURL s' := by
  -- The actions of a request that leave the store alone and cancel nothing.
  have hturn {turn : Option TurnPC} {queued : ℕ}
      (hprom : ∀ pc, s.turn = some pc → pc.Promises → ∃ pc', turn = some pc' ∧ pc'.Promises) :
      Awake parseURL { s with queued, turn } :=
    h.of_request rfl rfl rfl (Or.imp_right fun ⟨pc, hpc, hp⟩ => hprom pc hpc hp) id
      (fun _ => .inl) (.inl rfl)
  cases a <;> simp only [AutomationState.next] at hs'
  case worker choice => exact h.workerStep hs'
  case arrive => exact some.inj hs' ▸ hturn fun pc hpc hp => ⟨pc, hpc, hp⟩
  case giveUpTurn =>
    split_ifs at hs'
    exact some.inj hs' ▸ hturn fun pc hpc hp => ⟨pc, hpc, hp⟩
  case takeTurn =>
    split_ifs at hs' with hbusy
    exact some.inj hs' ▸ hturn fun pc hpc _ => absurd hpc (by simp_all)
  case cancelAutomation =>
    split_ifs at hs' with htaken
    cases hs'
    refine h.of_request rfl rfl rfl (Or.imp_right ?_) (by simp +contextual)
      (fun hon _ => .inr (.inr ⟨_, rfl, hon⟩)) (.inl rfl)
    rintro ⟨pc, hpc, hp⟩
    obtain rfl : .taken = pc := some.inj (htaken.symm.trans hpc)
    exact hp.elim
  case tryLock =>
    split at hs'
    · rename_i hit htrying
      refine some.inj hs' ▸ hturn fun pc hpc hp => ⟨_, rfl, ?_⟩
      obtain rfl : .trying hit = pc := some.inj (htrying.symm.trans hpc)
      split_ifs
      exacts [hp, trivial]
    · simp at hs'
  case retry =>
    split at hs'
    · rename_i hit hwaiting
      refine some.inj hs' ▸ hturn fun pc hpc hp => ⟨_, rfl, ?_⟩
      obtain rfl : .waiting hit = pc := some.inj (hwaiting.symm.trans hpc)
      exact hp
    · simp at hs'
  case giveUp =>
    split at hs'
    · rename_i hit hwaiting
      refine some.inj hs' ▸ hturn fun pc hpc hp => absurd hwaiting ?_
      obtain rfl : .waiting hit = pc := some.inj (hwaiting.symm.trans hpc)
      obtain rfl : hit = true := hp
      exact ha
    · simp at hs'
  case mutate world =>
    split_ifs at hs' with hholding
    exact some.inj hs' ▸ h.of_request rfl rfl rfl id id (fun _ => .inl)
      (.inr (.inr ⟨_, hholding, trivial⟩))
  case unlock =>
    split_ifs at hs'
    exact some.inj hs' ▸ hturn fun _ _ _ => ⟨_, rfl, trivial⟩
  case notifyAutomation =>
    split_ifs at hs'
    exact some.inj hs' ▸ h.of_request rfl rfl rfl (fun _ => .inl rfl) id
      (fun _ => .inl) (.inl rfl)
  case release =>
    split_ifs at hs' with hnotified
    refine some.inj hs' ▸ hturn fun pc hpc hp => ?_
    obtain rfl : .notified = pc := some.inj (hnotified.symm.trans hpc)
    exact hp.elim

end Steps

section Runs

variable [ServerObj ν] {parseURL : String → Option ParsedURL} {s : AutomationState ν}

lemma awake_of_init (h : (automationSystem ν parseURL).init s) : Awake parseURL s := by
  obtain ⟨world, rfl⟩ := h
  exact ⟨trivial, rfl, by simp, by simp [Automation.Modes]⟩

/-- The worker has something to do: a subscription with a deadline that is not disabled, or a
group to check. -/
def AutomationState.HasWork (parseURL : String → Option ParsedURL) (s : AutomationState ν) : Prop :=
  (∃ sub ∈ s.world.store.subscriptions, sub.updateMode ≠ .disabled ∧
    ∃ state, (sub.databaseID, state) ∈ s.schedules.subscriptions ∧ state.Pending) ∨
  ∃ name, s.ToCheck parseURL name

/-- A request counts as holding the lock until its release has told the worker. -/
def AutomationState.Engaged (s : AutomationState ν) : Prop := ∃ pc, s.turn = some pc ∧ pc.Busy

/-- The worker does not sleep for good while it has work: in every run in which no request that
has cancelled a step gives up waiting for the lock, a worker that waits without a timer and
without a token has nothing to do, or a request holds the lock or waits for it. -/
theorem awake_of_reachableWhen
    (hs : (automationSystem ν parseURL).ReachableWhen (fun s a => a.Patient s) s)
    (hwait : s.worker = .wait none) (hwake : s.wake = false) :
    s.Engaged ∨ ¬s.HasWork parseURL := by
  have hpc := (hs.invariant (I := Awake parseURL) (fun _ => awake_of_init)
    fun _ _ _ h ha => h.next ha).pc
  rw [hwait] at hpc
  rcases hpc rfl with (htoken | ⟨pc, hturn, hpromises⟩) | ⟨hsubs, hgroups⟩
  · rw [hwake] at htoken
    contradiction
  · refine .inl ⟨pc, hturn, ?_⟩
    cases pc <;> trivial
  · refine .inr ?_
    rintro (⟨sub, -, -, state, hmem, hpending⟩ | ⟨name, hname⟩)
    · exact hsubs _ hmem hpending
    · exact hgroups name hname

end Runs

/-! ### Runs -/

/-- One node, and the default group is managed by the worker. -/
def managedWorld : World SOCKS where
  store :=
    { servers := [{ serverObj := { name := "a", server := "h.example", port := 1080 } }]
      outboundSetting := fun _ => some { defaultOutboundSetting with autoAdd := true } }

/-- What `url.Parse` makes of the probe URL. -/
def parseProbeURL (raw : String) : Option ParsedURL :=
  if raw = defaultOutboundSetting.probeURL then some ⟨"https", "www.gstatic.com"⟩ else none

/-- The worker adds the node to the group, and a request cancels the step while the worker holds
the lock. -/
def cancelledStep : List (AutomationAction SOCKS) :=
  List.replicate 7 (.worker {}) ++ [.worker { probes := [true] }, .worker {}] ++
    [.arrive, .takeTurn, .cancelAutomation, .tryLock]

/-- The worker leaves the cancelled step. -/
def leftStep : List (AutomationAction SOCKS) := List.replicate 3 (.worker {})

/-- The request still waits for the lock when the worker has left the step. -/
def waitedStep : Option (AutomationState SOCKS) :=
  (automationSystem SOCKS parseProbeURL).runWhen (fun s a => a.Patient s)
    { world := managedWorld } (cancelledStep ++ leftStep)

/-- The worker waits without a timer although there is a group to check, since the request that
cancelled its step has not given up. -/
theorem awake_of_waitedStep :
    (waitedStep.getD { world := managedWorld }).worker = .wait none ∧
      (waitedStep.getD { world := managedWorld }).wake = false ∧
      ((waitedStep.getD { world := managedWorld }).Engaged ∨
        ¬(waitedStep.getD { world := managedWorld }).HasWork parseProbeURL) :=
  ⟨rfl, rfl, awake_of_reachableWhen
    (.run (.init ⟨managedWorld, rfl⟩) _ (show waitedStep = some _ from rfl)) rfl rfl⟩

/-- The request gives up while the worker applies the members: nothing wakes the worker up, which
has left the step without a deadline. -/
theorem exists_reachable_stalled :
    ∃ s, (automationSystem SOCKS parseProbeURL).Reachable s ∧ s.worker = .wait none ∧
      s.wake = false ∧ s.queued = 0 ∧ s.turn = none ∧ s.ToCheck parseProbeURL "proxy" := by
  have hinit : (automationSystem SOCKS parseProbeURL).Reachable { world := managedWorld } :=
    .init ⟨managedWorld, rfl⟩
  exact ⟨_, hinit.run (cancelledStep ++ [.giveUp] ++ leftStep) rfl, rfl, rfl, rfl, rfl,
    mem_cons_self, .inl rfl, by decide +kernel⟩

end V2rayA
