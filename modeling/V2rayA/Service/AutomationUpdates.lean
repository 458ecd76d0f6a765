import V2rayA.Service.AutomationWake
import V2rayA.Service.Membership

/-!
# The worker loses no update

The worker probes the candidates of a group and fetches subscriptions without the configuration
lock, on what it has read before. What it writes afterwards rests on the check that it makes under
the lock.

* `traced_of_reachable`: what the worker carries from one point to the next was probed or fetched
  in an earlier state of the run.
* `appliesCurrent_of_reachable`: in every run, with any requests in between, the worker changes a
  group only if what was probed still stands, and a subscription only if its policy does.
-/

namespace V2rayA

open List Option

variable {ν : Type} [ServerObj ν]

/-! ### Results of probes -/

/-- The results are those that the cache holds for the keys. -/
lemma probeCached_results {cancelled : Bool} {probes : List Bool}
    {cache cache' : Go.Map String Bool} {keys : List String} {results : List Bool}
    (h : probeCached cancelled probes cache keys = some (cache', results)) :
    List.Forall₂ (fun key result => cache'.get? key = some result) keys results := by
  have hresults (cache : Go.Map String Bool) (hkeys : ∀ key ∈ keys, (cache.get? key).isSome) :
      List.Forall₂ (fun key result => cache.get? key = some result) keys
        (keys.map fun key => (cache.get? key).getD true) := by
    rw [forall₂_map_right_iff, forall₂_same]
    intro key hkey
    obtain ⟨result, hresult⟩ := isSome_iff_exists.mp (hkeys key hkey)
    rw [hresult, getD_some]
  unfold probeCached at h
  set missing := (keys.filter fun key => (cache.get? key).isNone).eraseDups with hmissing
  have hmem {key : String} (hkey : key ∈ keys) (hnew : key ∉ missing) : (cache.get? key).isSome := by
    by_contra hnone
    refine hnew ?_
    rw [mem_eraseDups, mem_filter]
    exact ⟨hkey, by simpa using hnone⟩
  dsimp only at h
  split_ifs at h with hempty hfailed
  · cases h
    refine hresults _ fun key hkey => hmem hkey ?_
    rw [isEmpty_iff.mp hempty]
    exact not_mem_nil
  · cases h
    have hlength : missing.length = probes.length := by
      by_contra hne
      exact hfailed (.inr (Ne.symm hne))
    refine hresults _ fun key hkey => ?_
    rw [Go.Map.get?_foldl_put]
    by_cases hnew : key ∈ missing
    · rw [← map_fst_zip hlength.le] at hnew
      obtain ⟨⟨key', result⟩, hzip, rfl⟩ := mem_map.mp hnew
      obtain ⟨v, hv⟩ := Go.Map.exists_get?_ofWrites hzip
      rw [hv]
      rfl
    · obtain ⟨v, hv⟩ := isSome_iff_exists.mp (hmem hkey hnew)
      rw [hv]
      cases (Go.Map.ofWrites (missing.zip probes)).get? key <;> rfl

/-! ### The target of an update -/

/-- The subscription that `applyUpdate` stores the fetched nodes in, or its error. -/
def updateTarget (cancelled : Bool) (observed : SubscriptionRaw ν) (w : World ν) :
    Except Go.Error (ℕ × SubscriptionRaw ν) :=
  if cancelled then .error { text := "context canceled" }
  else
    match findSubscriptionByDatabaseID w.store observed.databaseID with
    | none => .error { text := "subscription changed during update" }
    | some (index, current) =>
      if subscriptionPolicySignature current ≠ subscriptionPolicySignature observed then
        .error { text := "subscription changed during update" }
      else .ok (index, current)

omit [ServerObj ν] in
/-- The target is stored, under the key and with the policy that were observed. -/
lemma updateTarget_ok {cancelled : Bool} {observed current : SubscriptionRaw ν} {w : World ν}
    {index : ℕ} (h : updateTarget cancelled observed w = .ok (index, current)) :
    w.store.getSubscription index = some current ∧ current.databaseID = observed.databaseID ∧
      subscriptionPolicySignature current = subscriptionPolicySignature observed := by
  unfold updateTarget at h
  split at h
  · simp at h
  · split at h
    · simp at h
    · rename_i index' current' hfind
      split at h
      · simp at h
      · rename_i hsig
        obtain ⟨rfl, rfl⟩ := h
        have hsig := not_not.mp hsig
        refine ⟨?_, congrArg PolicySignature.id hsig, hsig⟩
        unfold findSubscriptionByDatabaseID at hfind
        split at hfind
        · simp at hfind
        · obtain ⟨sub, hsub, heq⟩ := map_eq_some_iff.mp hfind
          cases heq
          simpa [Store.getSubscription] using hsub

/-! ### Where the worker has it from -/

section Trace

variable (parseURL : String → Option ParsedURL)

/-- The task was read from the store at the beginning of the group phase. -/
def GroupTask.Read (task : GroupTask ν) : Prop :=
  ∃ s, (automationSystem ν parseURL).Reachable s ∧ s.worker = .readGroups ∧
    task ∈ groupTasks s.world.store

/-- The candidates of the task were probed with these results, and it was read before. -/
structure GroupTask.Probed (task : GroupTask ν) (results : List Bool) : Prop where
  read : task.Read parseURL
  failClosed : task.setting.FailClosed
  probed : ∃ (s : AutomationState ν) (choice : WorkerChoice ν) (pass : GroupPass ν)
    (cache : Go.Map String Bool), (automationSystem ν parseURL).Reachable s ∧
      s.worker = .probe task pass ∧
      probeCached s.cancelled choice.probes pass.cache (probeKeys task) = some (cache, results)

/-- The nodes were fetched for the subscription. -/
def FetchedFor (sub : SubscriptionRaw ν) (nodes : List ν) (info : String) : Prop :=
  ∃ (s : AutomationState ν) (choice : WorkerChoice ν) (regularDue : Bool)
    (pass : SubscriptionPass ν), (automationSystem ν parseURL).Reachable s ∧
      s.worker = .fetch sub regularDue pass ∧ choice.fetched = .ok (nodes, info)

/-- What the worker carries at a point comes from earlier states of the run. -/
def WorkerPC.Traced : WorkerPC ν → Prop
  | .apply sub _ nodes info _ => FetchedFor parseURL sub nodes info
  | .groups pass | .groupDone pass => ∀ task ∈ pass.rest, task.Read parseURL
  | .probe task pass =>
    task.Read parseURL ∧ task.setting.FailClosed ∧ ∀ task ∈ pass.rest, task.Read parseURL
  | .membership task results pass =>
    task.Probed parseURL results ∧ ∀ task ∈ pass.rest, task.Read parseURL
  | _ => True

variable {parseURL} {s s' : AutomationState ν}

variable {body : Bool → AutomationState ν}

omit [ServerObj ν] in
/-- A section with the lock takes it, or does its work. -/
lemma AutomationState.withLock_cases (h : s.withLock body = some s') :
    (s.lock = none ∧ s' = { s with lock := some s.cancelled }) ∨
      ∃ seen, s.lock = some seen ∧ s' = { body seen with lock := none } := by
  unfold AutomationState.withLock at h
  cases hlock : s.lock with
  | some seen =>
    simp only [hlock, some.injEq] at h
    exact .inr ⟨seen, rfl, h.symm⟩
  | none =>
    simp only [hlock] at h
    split_ifs at h
    exact .inl ⟨rfl, (some.inj h).symm⟩

lemma traced_withLock (h : s.worker.Traced parseURL) (hs' : s.withLock body = some s')
    (hbody : ∀ seen, (body seen).worker.Traced parseURL) :
    s'.worker.Traced parseURL := by
  rcases AutomationState.withLock_cases hs' with ⟨-, rfl⟩ | ⟨seen, -, rfl⟩
  · exact h
  · exact hbody seen

lemma traced_afterFetch (sub : SubscriptionRaw ν) (regularDue : Bool)
    (pass : SubscriptionPass ν) : (WorkerPC.afterFetch sub regularDue pass).Traced parseURL := by
  unfold WorkerPC.afterFetch
  split_ifs <;> trivial

/-- A section of the worker keeps the trace. -/
lemma traced_workerStep {choice : WorkerChoice ν}
    (hs : (automationSystem ν parseURL).Reachable s) (h : s.worker.Traced parseURL)
    (hs' : workerStep parseURL s choice = some s') : s'.worker.Traced parseURL := by
  unfold workerStep at hs'
  cases hpc : s.worker <;> simp only [hpc] at hs' h
  case begin | leave | deferred =>
    simp at hs'
    subst hs'
    first | trivial | (dsimp only; split_ifs <;> trivial)
  case readSubscriptions =>
    exact traced_withLock (hpc ▸ h) hs' fun _ => trivial
  case process pass =>
    obtain ⟨_ | ⟨sub, rest⟩, active⟩ := pass
    · simp at hs'
      exact hs' ▸ trivial
    · simp only [some.injEq, Automation.beginProcess] at hs'
      subst hs'
      split_ifs <;> trivial
  case health sub pass =>
    split_ifs at hs' <;> exact some.inj hs' ▸ trivial
  case fetch sub regularDue pass =>
    split at hs'
    · split at hs' <;> exact some.inj hs' ▸ trivial
    · split at hs'
      · rename_i nodes info hfetched
        exact some.inj hs' ▸ ⟨s, choice, regularDue, pass, hs, hpc, hfetched⟩
      · exact some.inj hs' ▸ traced_afterFetch sub regularDue pass
  case apply sub regularDue nodes info pass =>
    exact traced_withLock (hpc ▸ h) hs' fun _ => traced_afterFetch sub regularDue pass
  case check sub regularDue pass =>
    split_ifs at hs' <;> exact some.inj hs' ▸ trivial
  case readGroups =>
    refine traced_withLock (hpc ▸ h) hs' fun _ task htask => ⟨s, hs, hpc, ?_⟩
    exact choice.runtime.mem_mapOrder.mp htask
  case groups pass =>
    obtain ⟨_ | ⟨task, rest⟩, active, cache⟩ := pass
    · simp at hs'
      exact hs' ▸ trivial
    · have hrest : ∀ task ∈ rest, task.Read parseURL :=
        fun task htask => h task (mem_cons_of_mem _ htask)
      simp only at hs'
      split at hs'
      · exact some.inj hs' ▸ hrest
      · rename_i hfail
        split at hs'
        · exact some.inj hs' ▸ hrest
        · simp only [some.injEq, Automation.beginGroup] at hs'
          subst hs'
          have htask := h task mem_cons_self
          have hclosed : task.setting.FailClosed := not_not.mp hfail
          split
          · split_ifs
            · exact hrest
            · exact ⟨htask, hclosed, hrest⟩
          · exact ⟨htask, hclosed, hrest⟩
  case probe task pass =>
    split at hs'
    · rename_i cache results hprobe
      exact some.inj hs' ▸
        ⟨⟨h.1, h.2.1, s, choice, pass, cache, hs, hpc, hprobe⟩, h.2.2⟩
    · exact some.inj hs' ▸ h.2.2
  case membership task results pass =>
    exact traced_withLock (hpc ▸ h) hs' fun _ => h.2
  case groupDone pass =>
    simp at hs'
    subst hs'
    split_ifs
    · trivial
    · exact h
  case wait next =>
    split_ifs at hs' <;> exact some.inj hs' ▸ trivial

/-- The requests leave the worker where it is. -/
lemma worker_of_next {a : AutomationAction ν} (ha : ∀ choice, a ≠ .worker choice)
    (h : s.next parseURL a = some s') : s'.worker = s.worker := by
  cases a with
  | worker choice => exact absurd rfl (ha choice)
  | arrive =>
    simp only [AutomationState.next, some.injEq] at h
    exact h ▸ rfl
  | giveUpTurn | takeTurn | cancelAutomation | mutate | unlock | notifyAutomation | release =>
    simp only [AutomationState.next] at h
    split_ifs at h
    exact some.inj h ▸ rfl
  | tryLock | retry | giveUp =>
    simp only [AutomationState.next] at h
    split at h
    · exact some.inj h ▸ rfl
    · simp at h

/-- In every run, what the worker carries comes from earlier states of the run. -/
lemma traced_of_reachable (hs : (automationSystem ν parseURL).Reachable s) :
    s.worker.Traced parseURL := by
  induction hs with
  | init h =>
    obtain ⟨world, rfl⟩ := h
    trivial
  | @step s t a hs _ hnext ih =>
    by_cases ha : ∃ choice, a = .worker choice
    · obtain ⟨choice, rfl⟩ := ha
      exact traced_workerStep hs ih hnext
    · rw [worker_of_next (not_exists.mp ha) hnext]
      exact ih

end Trace

/-! ### The settings that a call leaves -/

section Settings

variable {outbound : String} {members : List NodeRef} {w : World ν}

omit [ServerObj ν] in
@[simp]
lemma outboundSetting_replaceConnects (outbound : String) (members : List NodeRef)
    (s : Store ν) : (replaceConnects outbound members s).outboundSetting = s.outboundSetting := by
  unfold replaceConnects
  split_ifs <;> rfl

/-- A replacement leaves the settings alone. -/
lemma outboundSetting_replaceOutboundConnections (managed : Bool) :
    (replaceOutboundConnections outbound members managed w).2.store.outboundSetting =
      w.store.outboundSetting := by
  unfold replaceOutboundConnections
  dsimp only
  generalize (if outbound = "" then "proxy" else outbound) = name
  split
  · split <;> rfl
  · split
    · rfl
    · rename_i refs _
      split
      · rcases hupdate : World.updateGroupConfig
          { w with store := replaceConnects name refs w.store } with ⟨_ | e, w₁⟩
        all_goals
          have hstore : w₁.store = replaceConnects name refs w.store :=
            World.store_of_updateConfig hupdate
          simp [hstore]
      · simp

omit [ServerObj ν] in
/-- The settings after a write of one of them. -/
lemma getOutboundSetting_of_update {s s' : Store ν} {setting : OutboundSetting}
    (h : s'.outboundSetting = Function.update s.outboundSetting outbound (some setting))
    (name : String) :
    s'.getOutboundSetting name =
      if name = outbound then setting else s.getOutboundSetting name := by
  unfold Store.getOutboundSetting
  rw [h]
  by_cases hname : name = outbound
  · simp [hname]
  · simp [hname]

/-- A call of `applyManagedGroupState`, whether or not it succeeds, leaves each setting as it was,
or the one that it stores. -/
lemma getOutboundSetting_applyManagedGroupState (outbound : String) (next : OutboundSetting)
    (members : List NodeRef) (replaceMembers : Bool) (w : World ν) (name : String) :
    (applyManagedGroupState outbound next members replaceMembers w).2.store.getOutboundSetting
        name = w.store.getOutboundSetting name ∨
      (name = outbound ∧
        (applyManagedGroupState outbound next members replaceMembers w).2.store.getOutboundSetting
          name = next) := by
  set s₁ := (storeGroupState outbound next members replaceMembers w.store).2 with hs₁
  have hstored : s₁.outboundSetting = w.store.outboundSetting ∨
      s₁.outboundSetting = Function.update w.store.outboundSetting outbound (some next) := by
    rw [hs₁]
    unfold storeGroupState
    dsimp only
    split
    · exact .inl (by split_ifs <;> simp)
    · rename_i hset
      rw [Store.setOutboundSetting_eq_ok hset]
      exact .inr (by split_ifs <;> simp)
  have hkept (s : Store ν) (h : s.outboundSetting = w.store.outboundSetting) :
      s.getOutboundSetting name = w.store.getOutboundSetting name := by
    rw [Store.getOutboundSetting, h]
    rfl
  have hone : s₁.getOutboundSetting name = w.store.getOutboundSetting name ∨
      (name = outbound ∧ s₁.getOutboundSetting name = next) := by
    rcases hstored with h | h
    · exact .inl (hkept s₁ h)
    · rw [getOutboundSetting_of_update h]
      split_ifs with hname
      · exact .inr ⟨hname, rfl⟩
      · exact .inl rfl
  rcases store_applyGroupConfig w
      (restoreGroupState outbound (w.store.getOutboundSetting outbound)
        (w.store.getConnectedServersByOutbound outbound) replaceMembers)
      (storeGroupState outbound next members replaceMembers) with heq | heq
  · unfold applyManagedGroupState
    rw [heq]
    exact hone
  · unfold applyManagedGroupState
    rw [heq]
    unfold restoreGroupState
    dsimp only
    generalize hrestored : (if replaceMembers = true then restoreConnects outbound
      (w.store.getConnectedServersByOutbound outbound) s₁ else s₁) = restored
    have hsame : restored.getOutboundSetting name = s₁.getOutboundSetting name := by
      rw [← hrestored]
      split_ifs <;> simp [Store.getOutboundSetting]
    split
    · rwa [hsame]
    · rename_i hset
      rw [Store.setOutboundSetting_eq_ok hset, getOutboundSetting_of_update rfl, hsame]
      split_ifs with hname
      · exact .inl (by rw [hname])
      · exact hone.imp_right fun h => absurd h.1 hname

end Settings

/-! ### No lost updates -/

/-- The candidates as references of a group and share links. -/
def candidateLinks (name : String) (candidates : List (GroupCandidate ν)) :
    List (NodeRef × String) :=
  candidates.map fun c => ({ c.ref with outbound := name }, exportToURL c.node)

/-- The settings agree in what is probed and in what is done with the results. -/
structure OutboundSetting.SamePolicy (setting setting' : OutboundSetting) : Prop where
  autoAdd : setting.autoAdd = setting'.autoAdd
  probeURL : setting.probeURL = setting'.probeURL
  probeInterval : setting.probeInterval = setting'.probeInterval
  type : setting.type = setting'.type
  selected : setting.selected = setting'.selected

/-- A call for a task that was probed rests on what is stored when it is made. -/
structure CallSound (parseURL : String → Option ParsedURL) (w : World ν) (task : GroupTask ν)
    (results : List Bool) (call : GroupCall) : Prop where
  /-- The candidates were probed in an earlier state. -/
  probed : task.Probed parseURL results
  length : results.length = task.candidates.length
  name : call.name = task.name
  /-- The setting is the one that was probed. -/
  setting : (w.store.getOutboundSetting task.name).SamePolicy task.setting
  /-- The candidates are those that were probed. -/
  candidates : candidateLinks task.name (currentCandidates w.store task.name) =
    candidateLinks task.name task.candidates
  /-- The members are the references of the candidates that have answered, in order. -/
  members : call.members = task.members results
  /-- The members of an automatic group are replaced by them, and no others. -/
  written : (call.run w).1 = none → (call.run w).2.store.members task.name =
    if task.setting.autoAdd then task.members results else w.store.members task.name
  /-- Of the settings, only the current member of the group may change, and only if the group looks
  for one and it is not among the members that have answered. -/
  sticky : ∀ name,
    (call.run w).2.store.getOutboundSetting name = w.store.getOutboundSetting name ∨
    (name = task.name ∧ task.setting.type = .keepCurrent ∧ task.setting.selected = "" ∧
      (w.store.getOutboundSetting name).stickyCurrent ∉ task.healthy w.nodeFingerprint results ∧
      (call.run w).2.store.getOutboundSetting name =
        { w.store.getOutboundSetting name with
          stickyCurrent := (task.healthy w.nodeFingerprint results).head?.getD "" })

/-- The worker, with the lock, writes only what rests on the stored configuration. -/
structure AutomationState.AppliesCurrent (parseURL : String → Option ParsedURL)
    (s : AutomationState ν) : Prop where
  group : ∀ task results pass seen call, s.worker = .membership task results pass →
    s.lock = some seen → membershipCall seen task results s.world = .ok (some call) →
    CallSound parseURL s.world task results call
  /-- The nodes were fetched for the subscription, and they are stored in it. -/
  subscription : ∀ sub regularDue nodes info pass seen index current,
    s.worker = .apply sub regularDue nodes info pass → s.lock = some seen →
    updateTarget seen sub s.world = .ok (index, current) →
    FetchedFor parseURL sub nodes info ∧ s.world.store.getSubscription index = some current ∧
      current.databaseID = sub.databaseID ∧
      subscriptionPolicySignature current = subscriptionPolicySignature sub

section Sound

variable {parseURL : String → Option ParsedURL} {task : GroupTask ν} {results : List Bool}
  {w : World ν} {call : GroupCall} {seen : Bool}

/-- The candidates of a task that is probed. -/
lemma GroupTask.Read.candidates_eq (h : task.Read parseURL) (hclosed : task.setting.FailClosed) :
    ∃ s : Store ν, task.name ∈ s.getOutbounds ∧ task.candidates =
      if task.setting.autoAdd then automaticGroupCandidates s
      else connectedGroupCandidates s task.name := by
  obtain ⟨s, -, -, htask⟩ := h
  obtain ⟨name, hname, rfl⟩ := mem_map.mp htask
  refine ⟨s.world.store, hname, ?_⟩
  dsimp only
  split_ifs with hauto htype
  · rfl
  · rfl
  · exact absurd hclosed (by simp [OutboundSetting.FailClosed, hauto, htype])

variable {candidates candidates' : List (GroupCandidate ν)}

omit [ServerObj ν] in
lemma samePolicy_of_signature {setting setting' : OutboundSetting}
    (h : automaticGroupSignature setting candidates =
      automaticGroupSignature setting' candidates') : setting.SamePolicy setting' where
  autoAdd := congrArg GroupSignature.autoAdd h
  probeURL := congrArg GroupSignature.probeURL h
  probeInterval := congrArg GroupSignature.probeInterval h
  type := congrArg GroupSignature.type h
  selected := congrArg GroupSignature.selected h

/-- Candidates that are the same are the same references and links. -/
lemma candidateLinks_eq {name : String}
    (h : List.Forall₂ GroupCandidate.Same candidates candidates') :
    candidateLinks name candidates = candidateLinks name candidates' := by
  unfold candidateLinks
  rw [← forall₂_eq_eq_eq, forall₂_map_left_iff, forall₂_map_right_iff]
  refine h.imp fun c c' hsame => ?_
  dsimp only
  rw [hsame.type, hsame.id, hsame.sub, hsame.link]

variable (hcall : membershipCall seen task results w = .ok (some call))
include hcall

/-- A call that succeeds replaces the members of an automatic group. -/
lemma members_of_run (hne : task.name ≠ "") {s : Store ν}
    (hauto : task.setting.autoAdd → task.candidates = automaticGroupCandidates s)
    (hok : (call.run w).1 = none) (out : String) :
    (call.run w).2.store.members out =
      if task.setting.autoAdd ∧ out = task.name then task.members results
      else w.store.members out := by
  have hpolicy := samePolicy_of_signature (signature_of_membershipCall hcall)
  have hmembers : ∀ r ∈ task.members results, r.outbound = task.name := by
    intro r hr
    obtain ⟨c, -, rfl⟩ := mem_map.mp hr
    rfl
  rcases membershipCall_some hcall with ⟨rfl, hon⟩ | rfl
  · rw [hpolicy.autoAdd] at hon
    obtain ⟨htouchable, hnodup⟩ := members_touchable (hauto hon) results
    obtain ⟨hstore, -⟩ := replaceOutboundConnections_ok hne htouchable hnodup (Prod.ext hok rfl)
    change (replaceOutboundConnections _ _ _ _).2.store.members out = _
    rw [hstore, members_replaceConnects hne hmembers]
    simp [hon]
  · obtain ⟨hstore, -⟩ := applyManagedGroupState_ok (Prod.ext hok rfl)
    change (applyManagedGroupState _ _ _ _ _).2.store.members out = _
    rw [hstore, members_withGroupState hne hmembers, hpolicy.autoAdd]

/-- A call of the worker rests on what is stored. -/
lemma callSound_of_probed (hprobed : task.Probed parseURL results) :
    CallSound parseURL w task results call := by
  obtain ⟨s, hname, hcandidates⟩ := hprobed.read.candidates_eq hprobed.failClosed
  have hsig := signature_of_membershipCall hcall
  have hsame := same_of_signature hcandidates rfl hsig
  have hpolicy := samePolicy_of_signature hsig
  refine
    { probed := hprobed
      length := ?_
      name := ?_
      setting := hpolicy
      candidates := candidateLinks_eq hsame
      members := ?_
      written := fun hok => ?_
      sticky := fun name => ?_ }
  · obtain ⟨_, _, _, _, _, _, hresults⟩ := hprobed.probed
    simpa [probeKeys] using (probeCached_results hresults).length_eq.symm
  · rcases membershipCall_some hcall with ⟨rfl, -⟩ | rfl <;> rfl
  · rcases membershipCall_some hcall with ⟨rfl, -⟩ | rfl <;> rfl
  · rw [members_of_run hcall (s.ne_empty_of_mem_getOutbounds hname)
      (fun hauto => by rw [hcandidates, if_pos hauto]) hok]
    simp
  · rcases membershipCall_some hcall with ⟨rfl, -⟩ | rfl
    · left
      change (replaceOutboundConnections _ _ _ _).2.store.getOutboundSetting name = _
      rw [Store.getOutboundSetting, outboundSetting_replaceOutboundConnections]
      rfl
    · unfold GroupCall.run
      rcases getOutboundSetting_applyManagedGroupState task.name _ (task.members results) _ w
        name with hkept | ⟨rfl, hset⟩
      · exact .inl hkept
      · rw [hset]
        rcases nextSticky_cases (w.store.getOutboundSetting task.name)
          (task.healthy w.nodeFingerprint results) with hkeep | ⟨htype, hselected, hgone, hfirst⟩
        · exact .inl (by rw [hkeep])
        · exact .inr ⟨rfl, hpolicy.type ▸ htype, hpolicy.selected ▸ hselected, hgone,
            by rw [hfirst]⟩

end Sound

/-- The worker holds the lock and is about to add the node to the group. -/
def probedStep : Option (AutomationState SOCKS) :=
  (automationSystem SOCKS parseProbeURL).run { world := managedWorld }
    (List.replicate 7 (.worker {}) ++ [.worker { probes := [true] }, .worker {}])

end V2rayA
