import V2rayA.Service.Schedule

/-!
# Direct recovery

A fail-safe subscription may be downloaded directly when the route through its own nodes is down.
`process` takes a retry that is due as evidence for that: a retry is set when a health evaluation
has found no healthy node. But a retry is also reserved before every update, so that an update that
is cancelled is made up for, and that one has no evidence behind it.

* `Justified`: a pending retry follows an evaluation that has found no healthy node.
* `evidenced_of_reachableWhen`: if no regular update is cancelled without a retry pending, and no
  update after an evaluation that has found a healthy node, direct downloads have evidence.
-/

namespace V2rayA

open SubscriptionSchedule

/-- The last health evaluation under a policy that ran to completion. -/
def lastEvaluation (log : List SchedulerEvent) (sig : PolicySignature) : Option Bool :=
  log.findSome? fun
    | .evaluated signature unavailable => if signature = sig then some unavailable else none
    | _ => none

/-- `fetch` is called with the permission to download directly only if the subscription allows it
and the last evaluation before has found no healthy node. -/
def Evidenced : List SchedulerEvent → Prop
  | [] => True
  | .fetch sig direct :: log =>
    (direct = true → sig.allowDirect = true ∧ lastEvaluation log sig = some true) ∧ Evidenced log
  | _ :: log => Evidenced log

instance instDecidableEvidenced : (log : List SchedulerEvent) → Decidable (Evidenced log)
  | [] => isTrue trivial
  | .fetch _ _ :: log =>
    have := instDecidableEvidenced log
    inferInstanceAs (Decidable (_ ∧ _))
  | .fetched _ :: log => instDecidableEvidenced log
  | .evaluated _ _ :: log => instDecidableEvidenced log

/-- A retry that is pending has evidence. -/
structure Justified (log : List SchedulerEvent) (state : SubscriptionSchedule) : Prop where
  retry : state.nextRetry ≠ none → lastEvaluation log state.signature = some true
  health : state.nextHealth = none ∨ state.nextRetry = none

section LastEvaluation

variable {log : List SchedulerEvent} {sig sig' : PolicySignature} {b : Bool}

@[simp]
lemma lastEvaluation_fetch : lastEvaluation (.fetch sig' b :: log) sig = lastEvaluation log sig :=
  rfl

@[simp]
lemma lastEvaluation_fetched : lastEvaluation (.fetched sig' :: log) sig = lastEvaluation log sig :=
  rfl

@[simp]
lemma lastEvaluation_evaluated : lastEvaluation (.evaluated sig b :: log) sig = some b := by
  simp [lastEvaluation]

/-- What happens under another policy is no evaluation. -/
lemma lastEvaluation_append {events : List SchedulerEvent}
    (h : ∀ e ∈ events, e.signature ≠ sig) :
    lastEvaluation (events ++ log) sig = lastEvaluation log sig := by
  unfold lastEvaluation
  rw [List.findSome?_append, List.findSome?_eq_none_iff.mpr, Option.none_or]
  intro e he
  cases e with
  | evaluated signature unavailable => exact if_neg (h _ he)
  | fetch signature direct => rfl
  | fetched signature => rfl

end LastEvaluation

section Process

variable {ν : Type} {c : ProcessCall ν} {log : List SchedulerEvent} {state : SubscriptionSchedule}
  {regularDue retryDue : Bool}

/-- A reserved retry has the evidence that was there before. -/
lemma justified_reserve (hevidence : lastEvaluation log state.signature = some true)
    (hhealth : state.nextHealth = none) (clock : ℕ → ℤ) :
    Justified log (state.reserve c.sub regularDue clock) :=
  ⟨fun _ => hevidence, .inl hhealth⟩

/-- The evaluation after an update is the evidence for the retry. -/
lemma justified_afterCheck (clock : ℕ → ℤ) (unavailable : Bool) :
    Justified (.evaluated state.signature unavailable :: log)
      (state.afterCheck c.sub unavailable clock) := by
  unfold afterCheck
  split_ifs with h
  · exact ⟨fun _ => by simp [h], .inl rfl⟩
  · exact ⟨fun hne => absurd rfl hne, .inr rfl⟩

/-- An update leaves a retry that has evidence: what is reserved for it must have, unless the update
ends with an evaluation. -/
lemma justified_update (hsig : state.signature = subscriptionPolicySignature c.sub)
    (hstate : c.cancel ≤ 3 ∨ c.sub.updateMode ≠ .intervalFailsafe → Justified log state)
    (hreserved : c.sub.updateMode = .intervalFailsafe →
      state.nextHealth = none ∧ state.nextRetry ≠ none)
    (hlast : c.sub.updateMode = .intervalFailsafe → c.cancel = 4 → c.check.unavailable) :
    Justified ((c.update regularDue retryDue state).events ++ log)
      (c.update regularDue retryDue state).schedule := by
  by_cases hmode : c.sub.updateMode = .intervalFailsafe
  · obtain ⟨hhealth, hretry⟩ := hreserved hmode
    have hevidence (h : c.cancel ≤ 3) :
        lastEvaluation log (subscriptionPolicySignature c.sub) = some true :=
      hsig ▸ (hstate (.inl h)).retry hretry
    -- the end of the update keeps the two deadlines
    obtain ⟨hsig', hhealth'⟩ :
        (state.afterFetch c.sub regularDue (c.reading 2)).signature =
          subscriptionPolicySignature c.sub ∧
        (state.afterFetch c.sub regularDue (c.reading 2)).nextHealth = none := by
      refine ⟨(state.signature_afterFetch ..).trans hsig, ?_⟩
      cases regularDue <;> simp [afterFetch, hmode, hhealth]
    rw [events_update hmode, schedule_update hmode]
    split_ifs with hfetch hlook hlate
    · exact justified_reserve (by simpa [hsig] using hevidence (by omega)) hhealth _
    · exact justified_reserve (by simpa [hsig] using hevidence hlook) hhealth' _
    · refine justified_reserve ?_ ?_ _
      · simp [hsig, hlast hmode hlate]
      · simp [afterCheck, hlast hmode hlate]
    · rw [← hsig']
      exact justified_afterCheck _ _
  · rw [update_of_ne hmode]
    split_ifs
    · have h := hstate (.inr hmode)
      exact ⟨h.retry, h.health⟩
    · refine ⟨fun hne => absurd ?_ hne, .inl ?_⟩ <;> simp [afterFetch, hmode]

lemma evidenced_update (h : Evidenced log)
    (hretry : retryDue → c.sub.allowDirectRecovery →
      lastEvaluation log (subscriptionPolicySignature c.sub) = some true) :
    Evidenced ((c.update regularDue retryDue state).events ++ log) := by
  have hfetch : Evidenced (.fetch (subscriptionPolicySignature c.sub)
      (retryDue && c.sub.allowDirectRecovery) :: log) := by
    refine ⟨fun hdirect => ?_, h⟩
    obtain ⟨hretryDue, hallow⟩ := Bool.and_eq_true_iff.mp hdirect
    exact ⟨hallow, hretry hretryDue hallow⟩
  unfold ProcessCall.update
  split_ifs <;> exact hfetch

/-- The call is not cancelled while it makes a regular update without a retry pending, nor after an
evaluation that has found a healthy node. -/
def ProcessCall.KeepsEvidence (c : ProcessCall ν) (state : SubscriptionSchedule) : Prop :=
  c.sub.updateMode = .intervalFailsafe → c.sub.allowDirectRecovery = true →
    (c.cancel ≤ 3 → due state.nextUpdate (c.clock 0) = true → state.nextRetry ≠ none) ∧
      (c.cancel = 4 → c.Updates state → c.check.unavailable = true)

instance (c : ProcessCall ν) (state : SubscriptionSchedule) : Decidable (c.KeepsEvidence state) :=
  inferInstanceAs (Decidable (_ → _ → _ ∧ _))

/-- A deadline that is due is set. -/
lemma ne_none_of_due {deadline : Option ℤ} {now : ℤ} (h : due deadline now) :
    deadline ≠ none := by
  rintro rfl
  exact Bool.false_ne_true h

/-- What is reserved before the fetch has evidence, if the evidence is there. -/
lemma justified_beforeFetch (h : c.sub.updateMode ≠ .intervalFailsafe → Justified log state)
    (hevidence : c.sub.updateMode = .intervalFailsafe →
      lastEvaluation log state.signature = some true)
    (clock : ℕ → ℤ) : Justified log (state.beforeFetch c.sub regularDue clock) := by
  unfold beforeFetch
  split_ifs with hmode
  · exact ⟨fun _ => hevidence hmode, .inl rfl⟩
  · exact h hmode

/-- A call leaves a retry that has evidence, if direct recovery is allowed. -/
lemma justified_process (hsig : state.signature = subscriptionPolicySignature c.sub)
    (hallow : c.sub.allowDirectRecovery) (h : Justified log state)
    (hc : c.KeepsEvidence state) :
    Justified ((c.process state).events ++ log) (c.process state).schedule := by
  have hnone (hdue : due state.nextHealth (c.clock 0) = true) : state.nextRetry = none :=
    h.health.resolve_left (ne_none_of_due hdue)
  have hlast (hupdates : c.Updates state) (hmode : c.sub.updateMode = .intervalFailsafe)
      (hcancel : c.cancel = 4) : c.check.unavailable = true :=
    (hc hmode hallow).2 hcancel hupdates
  unfold ProcessCall.process
  dsimp only
  split_ifs with hhealth hcancelled hunavailable hidle
  · exact ⟨h.retry, .inr (hnone hhealth.1)⟩
  · -- the evaluation that has led to the update is the evidence
    have hupdates : c.Updates state := .inr (.inr ⟨hhealth.1, hcancelled, hunavailable⟩)
    rw [List.append_assoc]
    refine justified_update (by simpa using hsig) (fun _ => ?_)
      (fun hmode => by simp [beforeFetch, reserve, hmode]) (hlast hupdates)
    refine justified_beforeFetch (fun _ => ?_) (fun _ => by simp [hsig]) _
    exact ⟨fun hne => absurd (hnone hhealth.1) hne, .inl rfl⟩
  · exact ⟨fun hne => absurd (hnone hhealth.1) hne, .inr (hnone hhealth.1)⟩
  · exact h
  · have hdue : due state.nextUpdate (c.clock 0) ∨ due state.nextRetry (c.clock 0) := by
      by_contra hnot
      exact hidle (not_or.mp hnot)
    have hupdates : c.Updates state := hdue.imp_right .inl
    refine justified_update (by simpa using hsig) (fun hcancel => ?_)
      (fun hmode => by simp [beforeFetch, reserve, hmode]) (hlast hupdates)
    refine justified_beforeFetch (fun _ => h) (fun hmode => h.retry ?_) _
    rcases hdue with hregular | hretry
    · exact (hc hmode hallow).1 (hcancel.resolve_right (absurd hmode)) hregular
    · exact ne_none_of_due hretry

/-- A call fetches directly only with evidence. -/
lemma evidenced_process (hsig : state.signature = subscriptionPolicySignature c.sub)
    (hlog : Evidenced log) (h : c.sub.allowDirectRecovery → Justified log state) :
    Evidenced ((c.process state).events ++ log) := by
  unfold ProcessCall.process
  dsimp only
  split_ifs
  · exact hlog
  · rw [List.append_assoc]
    exact evidenced_update hlog fun _ _ => by simp
  · exact hlog
  · exact hlog
  · refine evidenced_update hlog fun hretry hallow => ?_
    exact hsig ▸ (h hallow).retry (ne_none_of_due hretry)

end Process

/-! ### Runs of the scheduler -/

/-- The log has evidence for the direct downloads, and the pending retries have it for the next
ones. -/
structure Scheduler.Evidenced (s : Scheduler) : Prop where
  log : V2rayA.Evidenced s.log
  id : ∀ id state, s.schedules.subscriptions.get? id = some state → state.signature.id = id
  justified : ∀ id state, s.schedules.subscriptions.get? id = some state →
    state.signature.allowDirect = true → Justified s.log state

section Reach

variable {ν : Type} {s s' : Scheduler}

/-- No call of a run loses the evidence for the retry that it leaves. -/
def SchedulerAction.KeepsEvidence (s : Scheduler) : SchedulerAction ν → Prop
  | .process c => c.KeepsEvidence (s.scheduleFor c)
  | .keep _ => True

instance (s : Scheduler) : (a : SchedulerAction ν) → Decidable (a.KeepsEvidence s)
  | .process c => inferInstanceAs (Decidable (c.KeepsEvidence _))
  | .keep _ => isTrue trivial

lemma Scheduler.Evidenced.step {a : SchedulerAction ν} (h : s.Evidenced)
    (ha : a.KeepsEvidence s) (hs' : Scheduler.next s a = some s') : s'.Evidenced := by
  cases a with
  | process c =>
    obtain ⟨-, -, hlog, hget⟩ := next_process hs'
    obtain ⟨hsig, hstored⟩ := scheduleFor_cases s c
    have hjustified (hallow : c.sub.allowDirectRecovery = true) :
        Justified s.log (s.scheduleFor c) := by
      rcases hstored with hstored | hfresh
      · exact h.justified _ _ hstored (hsig ▸ hallow)
      · rw [hfresh]
        exact ⟨fun hne => absurd rfl hne, .inl rfl⟩
    refine ⟨hlog ▸ evidenced_process hsig h.log hjustified, fun id state hstate => ?_,
      fun id state hstate hallow => ?_⟩
    · rw [hget] at hstate
      split_ifs at hstate with hid
      · cases hstate
        rw [signature_process, hsig, hid]
        rfl
      · exact h.id id state hstate
    · rw [hget] at hstate
      rw [hlog]
      split_ifs at hstate with hid
      · cases hstate
        rw [signature_process, hsig] at hallow
        exact justified_process hsig hallow (hjustified hallow) ha
      · -- the log of another subscription
        have hold := h.justified id state hstate hallow
        refine ⟨fun hne => ?_, hold.health⟩
        rw [lastEvaluation_append, hold.retry hne]
        intro e he heq
        have hsame := signature_of_mem_events he
        rw [heq] at hsame
        exact hid ((h.id id state hstate).symm.trans (congrArg PolicySignature.id hsame))
  | keep active =>
    cases hs'
    have hkeep {id : ℤ} {state : SubscriptionSchedule}
        (hstate : (s.schedules.subscriptions.keep active).get? id = some state) :
        s.schedules.subscriptions.get? id = some state := by
      rw [Go.Map.get?_keep] at hstate
      split_ifs at hstate
      exact hstate
    exact ⟨h.log, fun id state hstate => h.id id state (hkeep hstate),
      fun id state hstate => h.justified id state (hkeep hstate)⟩

/-- Direct recovery has evidence in every run whose calls keep it. -/
theorem evidenced_of_reachableWhen
    (hs : (schedulerSystem ν).ReachableWhen (fun s a => a.KeepsEvidence s) s) :
    Evidenced s.log := by
  refine (hs.invariant (I := Scheduler.Evidenced) (fun s hinit => ?_)
    fun s a s' h ha hs' => h.step ha hs').log
  obtain ⟨hschedules, hlog⟩ := hinit
  refine ⟨by simp [hlog, V2rayA.Evidenced], fun id state hstate => ?_,
    fun id state hstate _ => ?_⟩ <;> simp [hschedules, Go.Map.get?] at hstate

end Reach

/-- No node answers after the update, and the retry is made one minute later. -/
def outageRun : Option Scheduler :=
  (schedulerSystem SOCKS).runWhen (fun s a => a.KeepsEvidence s) { time := 0 }
    [.process (failsafeCall 0 5 [false]), .process (failsafeCall minute 5 [true])]

/-- The retry may download directly. -/
theorem evidenced_of_outageRun :
    Evidenced (outageRun.getD { time := 0 }).log ∧
      .fetch (subscriptionPolicySignature failsafeSub) true ∈
        (outageRun.getD { time := 0 }).log :=
  ⟨evidenced_of_reachableWhen
      (.run (.init ⟨rfl, rfl⟩) _ (show outageRun = some _ from rfl)), by decide +kernel⟩

/-- The first update is cancelled during its fetch, and one minute later the subscription may be
downloaded directly, although no node was ever probed. The same happens if the first update is
cancelled after its evaluation has found that a node answers. -/
theorem not_evidenced_cancelledRun :
    (∃ s, (schedulerSystem SOCKS).run { time := 0 }
        [.process (failsafeCall 0 1 [true]), .process (failsafeCall minute 5 [true])] = some s ∧
      ¬Evidenced s.log) ∧
    ∃ s, (schedulerSystem SOCKS).run { time := 0 }
        [.process (failsafeCall 0 4 [true]), .process (failsafeCall minute 5 [true])] = some s ∧
      ¬Evidenced s.log :=
  ⟨⟨_, rfl, by decide +kernel⟩, _, rfl, by decide +kernel⟩

end V2rayA
