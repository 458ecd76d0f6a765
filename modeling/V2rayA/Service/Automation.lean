import V2rayA.Go.Map
import V2rayA.Service.Connect
import V2rayA.Service.Subscription
import V2rayA.ToMathlib.Transition

/-!
# The automation worker and the requests that interrupt it

The worker updates subscriptions and checks the members of automatic groups, one step after
another, and sleeps between two steps until the next deadline or until it is woken up. A
request that changes the configuration waits for its turn, cancels the running step, waits for
the configuration lock, and wakes the worker up when it releases the lock.

`automationSystem` is the transition system of the worker with any number of requests. A step
of the worker is a section between two points at which it looks at its context or takes the
configuration lock. A section that holds the lock is two steps: in the first the worker takes the
lock and looks at its context, in the second it does the work and releases the lock. Fetches,
probes and the clock are chosen by the environment. While a request holds the lock it changes the
world in any way.

A deadline is a time in nanoseconds, and `none` is the zero time.
-/

namespace V2rayA

/-! ### Schedules -/

/-- What `url.Parse` finds in a URL. -/
structure ParsedURL where
  scheme : String
  host : String

/-- `ValidateOutboundSetting`, given `url.Parse`. -/
def validateOutboundSetting (parseURL : String → Option ParsedURL) (setting : OutboundSetting) :
    Option Go.Error :=
  match parseURL setting.probeURL with
  | none => some { text := "probe URL must be HTTP or HTTPS" }
  | some url =>
    if url.host = "" ∨ (url.scheme ≠ "http" ∧ url.scheme ≠ "https") then
      some { text := "probe URL must be HTTP or HTTPS" }
    else
      let outOfRange : Go.Error :=
        { text := "probe interval must be between 1 second and 365 days" }
      match Go.parseDuration setting.probeInterval with
      | .error _ => some outOfRange
      | .ok interval =>
        if interval < Go.Duration.second ∨ interval > 365 * 24 * Go.Duration.hour then
          some outOfRange
        else
          match setting.type with
          | .leastPing | .keepCurrent | .roundRobin | .random => none
          | .other _ => some { text := "unsupported group type" }

/-- What `subscriptionPolicySignature` encodes. -/
structure PolicySignature where
  id : ℤ
  address : String
  mode : SubscriptionUpdateMode
  regular : ℤ
  allowDirect : Bool
  failsafe : ℤ
  deriving DecidableEq

/-- The deadlines of a subscription. -/
structure SubscriptionSchedule where
  signature : PolicySignature
  nextUpdate : Option ℤ := none
  nextHealth : Option ℤ := none
  nextRetry : Option ℤ := none
  deriving DecidableEq

/-- A deadline is pending. -/
def SubscriptionSchedule.Pending (state : SubscriptionSchedule) : Prop :=
  state.nextUpdate ≠ none ∨ state.nextHealth ≠ none ∨ state.nextRetry ≠ none

/-- What `automaticGroupSignature` encodes. -/
structure GroupSignature where
  autoAdd : Bool
  probeURL : String
  probeInterval : String
  type : ObservatoryType
  selected : String
  candidates : List String
  deriving DecidableEq

/-- The deadline of a group. -/
structure GroupSchedule where
  signature : GroupSignature
  next : Option ℤ := none
  deriving DecidableEq

/-- The schedules of the worker. -/
structure Automation where
  subscriptions : Go.Map ℤ SubscriptionSchedule := []
  groups : Go.Map String GroupSchedule := []

namespace Automation

/-- The earlier of two deadlines. -/
def earlier (next candidate : Option ℤ) : Option ℤ :=
  match candidate, next with
  | none, next => next
  | some c, none => some c
  | some c, some n => if c < n then some c else some n

/-- `nextDeadline`. -/
def nextDeadline (a : Automation) : Option ℤ :=
  let next := a.subscriptions.foldl
    (fun next e => [e.2.nextUpdate, e.2.nextHealth, e.2.nextRetry].foldl earlier next) none
  a.groups.foldl (fun next e => earlier next e.2.next) next

/-- Write the schedule of a subscription. -/
def putSubscription (a : Automation) (id : ℤ) (state : SubscriptionSchedule) : Automation :=
  { a with subscriptions := a.subscriptions.put id state }

/-- Change the schedule of a subscription. -/
def modifySubscription (a : Automation) (id : ℤ)
    (f : SubscriptionSchedule → SubscriptionSchedule) : Automation :=
  { a with subscriptions := a.subscriptions.modify id f }

/-- Change the deadline of a group. -/
def setGroupNext (a : Automation) (name : String) (next : ℤ) : Automation :=
  { a with groups := a.groups.modify name fun state => { state with next := some next } }

end Automation

/-! ### Processing a subscription -/

section Process

variable {ν : Type}

/-- `subscriptionPolicySignature`. -/
def subscriptionPolicySignature (sub : SubscriptionRaw ν) : PolicySignature where
  id := sub.databaseID
  address := sub.address
  mode := sub.updateMode
  regular := sub.updateIntervalMinutes
  allowDirect := sub.allowDirectRecovery
  failsafe := sub.failureIntervalMinutes

/-- One minute in nanoseconds. -/
def minute : ℤ := 60 * Go.Duration.second

/-- The interval of the health checks. -/
def failureInterval (sub : SubscriptionRaw ν) : ℤ := sub.failureIntervalMinutes * minute

/-- The interval of the regular updates. -/
def updateInterval (sub : SubscriptionRaw ν) : ℤ := sub.updateIntervalMinutes * minute

/-- `isIntervalMode`. -/
def isIntervalMode (mode : SubscriptionUpdateMode) : Bool :=
  mode = .atInterval || mode = .intervalFailsafe

/-- A deadline has passed. -/
def due (deadline : Option ℤ) (now : ℤ) : Bool := deadline.any fun t => t ≤ now

/-- The deadlines that `process` reserves before it does work that can be cancelled, and again
when that work has been cancelled. `clock` is what `a.now()` returns, one value for each call. -/
def SubscriptionSchedule.reserve (state : SubscriptionSchedule) (sub : SubscriptionRaw ν)
    (regularDue : Bool) (clock : ℕ → ℤ) : SubscriptionSchedule :=
  { state with
    nextRetry := some (clock 1 + failureInterval sub)
    nextUpdate := if regularDue then some (clock 2 + updateInterval sub) else state.nextUpdate }

/-- The schedule before the subscription is fetched. -/
def SubscriptionSchedule.beforeFetch (state : SubscriptionSchedule) (sub : SubscriptionRaw ν)
    (regularDue : Bool) (clock : ℕ → ℤ) : SubscriptionSchedule :=
  if sub.updateMode = .intervalFailsafe then
    { state with nextHealth := none }.reserve sub regularDue clock
  else state

/-- The schedule when the update is over, whether or not it has succeeded. -/
def SubscriptionSchedule.afterFetch (state : SubscriptionSchedule) (sub : SubscriptionRaw ν)
    (regularDue : Bool) (clock : ℕ → ℤ) : SubscriptionSchedule :=
  let state :=
    if regularDue then
      { state with
        nextUpdate :=
          if isIntervalMode sub.updateMode then some (clock 0 + updateInterval sub) else none }
    else state
  if sub.updateMode = .intervalFailsafe then state
  else { state with nextHealth := none, nextRetry := none }

/-- The schedule after the health check that follows an update. -/
def SubscriptionSchedule.afterCheck (state : SubscriptionSchedule) (sub : SubscriptionRaw ν)
    (unavailable : Bool) (clock : ℕ → ℤ) : SubscriptionSchedule :=
  if unavailable then
    { state with nextHealth := none, nextRetry := some (clock 0 + failureInterval sub) }
  else { state with nextHealth := some (clock 0 + failureInterval sub), nextRetry := none }

section Signature

variable (state : SubscriptionSchedule) (sub : SubscriptionRaw ν) (b : Bool) (clock : ℕ → ℤ)

@[simp]
lemma SubscriptionSchedule.signature_reserve :
    (state.reserve sub b clock).signature = state.signature := rfl

@[simp]
lemma SubscriptionSchedule.signature_beforeFetch :
    (state.beforeFetch sub b clock).signature = state.signature := by
  unfold SubscriptionSchedule.beforeFetch
  split_ifs <;> rfl

@[simp]
lemma SubscriptionSchedule.signature_afterFetch :
    (state.afterFetch sub b clock).signature = state.signature := by
  unfold SubscriptionSchedule.afterFetch
  split_ifs <;> rfl

@[simp]
lemma SubscriptionSchedule.signature_afterCheck :
    (state.afterCheck sub b clock).signature = state.signature := by
  unfold SubscriptionSchedule.afterCheck
  split_ifs <;> rfl

end Signature

/-- `findSubscriptionByDatabaseID`. -/
def findSubscriptionByDatabaseID (s : Store ν) (id : ℤ) : Option (ℕ × SubscriptionRaw ν) :=
  match s.subscriptions.findIdx? fun sub => sub.databaseID = id with
  | none => none
  | some index => s.subscriptions[index]?.map fun sub => (index, sub)

/-- `applyUpdate`, in the section that holds the configuration lock. -/
def applyUpdate [ServerObj ν] (cancelled : Bool) (observed : SubscriptionRaw ν) (nodes : List ν)
    (status info : String) : Go.Op (World ν) := fun w =>
  if cancelled then (some { text := "context canceled" }, w)
  else
    match findSubscriptionByDatabaseID w.store observed.databaseID with
    | none => (some { text := "subscription changed during update" }, w)
    | some (index, current) =>
      if subscriptionPolicySignature current ≠ subscriptionPolicySignature observed then
        (some { text := "subscription changed during update" }, w)
      else storeSubscriptionUpdate index current nodes status info false w

end Process

/-! ### Checking a group -/

/-- A node that may become a member of a group. -/
structure GroupCandidate (ν : Type) where
  ref : NodeRef
  node : ν
  identity : String

section Group

variable {ν : Type} [ServerObj ν]

/-- `automaticGroupCandidates`: all nodes of the catalog. -/
def automaticGroupCandidates (s : Store ν) : List (GroupCandidate ν) :=
  (s.servers.zipIdx.map fun (raw, index) =>
    { ref := ⟨.server, index + 1, 0, ""⟩
      node := raw.serverObj
      identity := s!"server/{index}/" ++ exportToURL raw.serverObj }) ++
  s.subscriptions.zipIdx.flatMap fun (sub, subIndex) =>
    sub.servers.zipIdx.map fun (raw, nodeIndex) =>
      { ref := ⟨.subscriptionServer, nodeIndex + 1, subIndex, ""⟩
        node := raw.serverObj
        identity := s!"subscription/{sub.databaseID}/{subIndex}/{nodeIndex}/" ++
          exportToURL raw.serverObj }

/-- `connectedGroupCandidates`: the members of a group that resolve. -/
def connectedGroupCandidates (s : Store ν) (name : String) : List (GroupCandidate ν) :=
  ((s.getConnectedServersByOutbound name).getD []).filterMap fun ref =>
    match s.locate ref with
    | .error _ => none
    | .ok located => some
      { ref
        node := located.serverObj
        identity := ref.type.text ++ s!"/{ref.sub}/{ref.id}/" ++ exportToURL located.serverObj }

omit [ServerObj ν] in
/-- `automaticGroupSignature`. -/
def automaticGroupSignature (setting : OutboundSetting) (candidates : List (GroupCandidate ν)) :
    GroupSignature where
  autoAdd := setting.autoAdd
  probeURL := setting.probeURL
  probeInterval := setting.probeInterval
  type := setting.type
  selected := setting.selected
  candidates := candidates.map GroupCandidate.identity

/-- `sameMembers`. -/
def sameMembers (current desired : List NodeRef) : Bool :=
  current.length = desired.length ∧ ∀ ref ∈ desired, ref ∈ current

/-- If no desired member is repeated, `sameMembers` says whether the stored members are these, in
any order. -/
theorem sameMembers_iff_perm {current desired : List NodeRef} (h : desired.Nodup) :
    sameMembers current desired = true ↔ current.Perm desired := by
  rw [sameMembers, decide_eq_true_iff]
  constructor
  · rintro ⟨hlength, hsub⟩
    -- the desired members are as many different stored ones, so that there are no others
    exact ((h.subperm hsub).perm_of_length_le hlength.le).symm
  · intro hperm
    exact ⟨hperm.length_eq, fun ref => hperm.mem_iff.mpr⟩

theorem sameMembers_swapped :
    sameMembers [⟨.server, 1, 0, ""⟩, ⟨.server, 2, 0, ""⟩]
      [⟨.server, 2, 0, ""⟩, ⟨.server, 1, 0, ""⟩] = true :=
  (sameMembers_iff_perm (by decide)).mpr (.swap ..)

/-- Store the members and the setting of a group; on an error the members are restored. -/
def storeGroupState (outbound : String) (next : OutboundSetting) (members : List NodeRef)
    (replaceMembers : Bool) (s : Store ν) : Option Go.Error × Store ν :=
  let previousMembers := s.getConnectedServersByOutbound outbound
  let written :=
    if replaceMembers then
      replaceConnects outbound (members.map fun member => { member with outbound }) s
    else s
  match written.setOutboundSetting outbound next with
  | .error e =>
    (some e, if replaceMembers then restoreConnects outbound previousMembers written else written)
  | .ok store => (none, store)

/-- The restore function of `applyManagedGroupState`. -/
def restoreGroupState (outbound : String) (setting : OutboundSetting)
    (members : Option (List NodeRef)) (replaceMembers : Bool) (s : Store ν) :
    Option Go.Error × Store ν :=
  let restored := if replaceMembers then restoreConnects outbound members s else s
  match restored.setOutboundSetting outbound setting with
  | .error e => (some e, restored)
  | .ok store => (none, store)

/-- `ApplyGroupConfig`: write to the store and reload a running core; when it cannot be, write the
previous value again. -/
def applyGroupConfig (restore store : Store ν → Option Go.Error × Store ν) : Go.Op (World ν) :=
  fun w =>
    match store w.store with
    | (some e, store) => (some e, { w with store })
    | (none, store) =>
      let w := { w with store }
      if w.running then
        match World.updateGroupConfig w with
        | (none, w) => (none, w)
        | (some updateErr, w) =>
          match restore w.store with
          | (some e, store) =>
            (some { updateErr with text := updateErr.text ++
                "; the previous value could not be restored (" ++ e.text ++ ")" },
              { w with store })
          | (none, store) =>
            match World.updateGroupConfig { w with store } with
            | (none, w) => (some updateErr, w)
            | (some e, w) =>
              (some { updateErr with text := updateErr.text ++
                  "; the core could not be restarted with the previous value (" ++ e.text ++ ")" },
                w)
      else (none, w)

/-- `applyManagedGroupState`: store the state of a group that the worker owns. -/
def applyManagedGroupState (outbound : String) (next : OutboundSetting) (members : List NodeRef)
    (replaceMembers : Bool) : Go.Op (World ν) := fun w =>
  applyGroupConfig
    (restoreGroupState outbound (w.store.getOutboundSetting outbound)
      (w.store.getConnectedServersByOutbound outbound) replaceMembers)
    (storeGroupState outbound next members replaceMembers) w

/-- A group of the snapshot that a step takes. -/
structure GroupTask (ν : Type) where
  name : String
  setting : OutboundSetting
  candidates : List (GroupCandidate ν)

/-- The groups with their settings and candidates. -/
def groupTasks (s : Store ν) : List (GroupTask ν) :=
  s.getOutbounds.map fun name =>
    let setting := s.getOutboundSetting name
    { name
      setting
      candidates :=
        if setting.autoAdd then automaticGroupCandidates s
        else if setting.type = .keepCurrent then connectedGroupCandidates s name
        else [] }

/-- The keys under which the results of probes are remembered. -/
def probeKeys (task : GroupTask ν) : List String :=
  task.candidates.map fun candidate => task.setting.probeURL ++ "\n" ++ exportToURL candidate.node

/-- The function `probe` of a step: the nodes that were not probed before in this step are, unless
the context is cancelled or results are missing. -/
def probeCached (cancelled : Bool) (probes : List Bool) (cache : Go.Map String Bool)
    (keys : List String) : Option (Go.Map String Bool × List Bool) :=
  let missing := (keys.filter fun key => (cache.get? key).isNone).eraseDups
  let results (cache : Go.Map String Bool) := keys.map fun key => (cache.get? key).getD true
  if missing.isEmpty then some (cache, results cache)
  else if cancelled ∨ probes.length ≠ missing.length then none
  else
    let cache := (missing.zip probes).foldl (fun cache e => cache.put e.1 e.2) cache
    some (cache, results cache)

/-- The candidates of a group when its membership is applied. -/
def currentCandidates (s : Store ν) (name : String) : List (GroupCandidate ν) :=
  if (s.getOutboundSetting name).autoAdd then automaticGroupCandidates s
  else connectedGroupCandidates s name

omit [ServerObj ν] in
/-- The member that a group stays with, given the fingerprints of those that answer. -/
def nextSticky (setting : OutboundSetting) (available : List String) : String :=
  if setting.type = .keepCurrent ∧ setting.selected = "" ∧ setting.stickyCurrent ∉ available then
    available.head?.getD ""
  else setting.stickyCurrent

/-- The section of `processGroup` that holds the configuration lock. -/
def applyMembership (cancelled : Bool) (task : GroupTask ν) (results : List Bool) :
    Go.Op (World ν) := fun w =>
  let available := ((task.candidates.zip results).filter Prod.snd).map Prod.fst
  let members := available.map fun candidate => { candidate.ref with outbound := task.name }
  if cancelled then (some { text := "context canceled" }, w)
  else
    let setting := w.store.getOutboundSetting task.name
    if automaticGroupSignature setting (currentCandidates w.store task.name) ≠
        automaticGroupSignature task.setting task.candidates then
      (some { text := "catalog or group setting changed during membership check" }, w)
    else
      let stickyCurrent := nextSticky setting
        (available.map fun candidate => w.nodeFingerprint (exportToURL candidate.node))
      let current := (w.store.getConnectedServersByOutbound task.name).getD []
      let membershipChanged := setting.autoAdd ∧ ¬sameMembers current members
      if stickyCurrent ≠ setting.stickyCurrent ∨
          (membershipChanged ∧ setting.type = .keepCurrent) then
        applyManagedGroupState task.name { setting with stickyCurrent } members setting.autoAdd w
      else if membershipChanged then replaceOutboundConnections task.name members true w
      else (none, w)

end Group

/-! ### The worker -/

/-- The subscriptions that are left for a step, and the keys of those that are not disabled. -/
structure SubscriptionPass (ν : Type) where
  rest : List (SubscriptionRaw ν)
  active : List ℤ

/-- The groups that are left for a step, those that are automatic, and the results of probes. -/
structure GroupPass (ν : Type) where
  rest : List (GroupTask ν)
  active : List String := []
  cache : Go.Map String Bool := []

/-- A point in the loop of the worker. -/
inductive WorkerPC (ν : Type)
  /-- Before a step sets `automationCancel`. -/
  | begin
  /-- Before the subscriptions are read. -/
  | readSubscriptions
  /-- Before `process` of the next subscription. -/
  | process (pass : SubscriptionPass ν)
  /-- In the health check that may come before an update. -/
  | health (sub : SubscriptionRaw ν) (pass : SubscriptionPass ν)
  | fetch (sub : SubscriptionRaw ν) (regularDue : Bool) (pass : SubscriptionPass ν)
  /-- Before `applyUpdate`. -/
  | apply (sub : SubscriptionRaw ν) (regularDue : Bool) (nodes : List ν) (info : String)
      (pass : SubscriptionPass ν)
  /-- In the health check that comes after an update. -/
  | check (sub : SubscriptionRaw ν) (regularDue : Bool) (pass : SubscriptionPass ν)
  /-- Before the deferred function of `process`, which returns an error if `failed`. -/
  | deferred (sub : SubscriptionRaw ν) (regularDue failed : Bool) (pass : SubscriptionPass ν)
  /-- Before the groups are read. -/
  | readGroups
  /-- Before the next group. -/
  | groups (pass : GroupPass ν)
  | probe (task : GroupTask ν) (pass : GroupPass ν)
  /-- Before the locked section of `processGroup`. -/
  | membership (task : GroupTask ν) (results : List Bool) (pass : GroupPass ν)
  /-- After `processGroup`. -/
  | groupDone (pass : GroupPass ν)
  /-- Before the deferred function of a step, which returns `next`. -/
  | leave (next : Option ℤ)
  /-- Waiting for the timer, if there is one, or to be woken up. -/
  | wait (next : Option ℤ)

/-- A point in a request that has its turn. -/
inductive TurnPC
  /-- Before `CancelAutomation`. -/
  | taken
  /-- Before `TryLock`. `hit` says that a step was running when the request cancelled the worker. -/
  | trying (hit : Bool)
  /-- After `TryLock` has failed. -/
  | waiting (hit : Bool)
  /-- With the configuration lock. -/
  | holding
  /-- After the lock was released and before `NotifyAutomation`. -/
  | unlocked
  /-- Before the turn is given back. -/
  | notified
  deriving DecidableEq

/-- The worker, the requests and what they share. -/
structure AutomationState (ν : Type) where
  world : World ν
  worker : WorkerPC ν := .begin
  schedules : Automation := {}
  /-- `automationCancel` is not nil. -/
  cancellable : Bool := false
  /-- The context of the step is cancelled. -/
  cancelled : Bool := false
  /-- The worker holds the configuration lock, and what it has seen of its context. -/
  lock : Option Bool := none
  /-- There is a token in `automationWake`. -/
  wake : Bool := false
  /-- The number of requests that wait for their turn. -/
  queued : ℕ := 0
  /-- The request that has its turn. -/
  turn : Option TurnPC := none

/-- What the outside contributes to a step of the worker. -/
structure WorkerChoice (ν : Type) where
  /-- What the calls of `a.now()` return. -/
  clock : ℕ → ℤ := fun _ => 0
  /-- No node of the subscription answers. -/
  unavailable : Bool := false
  fetched : Except Go.Error (List ν × String) := .ok ([], "")
  /-- The time of an update, as it is stored. -/
  status : String := ""
  /-- Which of the probed nodes answer. -/
  probes : List Bool := []
  /-- The order in which the groups are visited. -/
  runtime : Go.Runtime := .inOrder
  /-- The timer ends the wait. -/
  timer : Bool := false

section Worker

variable {ν : Type} [ServerObj ν]

omit [ServerObj ν] in
/-- The schedule of a subscription; a new one is due at once. -/
def Automation.scheduleOf (a : Automation) (sub : SubscriptionRaw ν) (now : ℤ) :
    SubscriptionSchedule :=
  let fresh : SubscriptionSchedule :=
    { signature := subscriptionPolicySignature sub, nextUpdate := some now }
  match a.subscriptions.get? sub.databaseID with
  | some state => if state.signature = subscriptionPolicySignature sub then state else fresh
  | none => fresh

omit [ServerObj ν] in
/-- `process` up to the first point at which it looks at the context. -/
def Automation.beginProcess (a : Automation) (sub : SubscriptionRaw ν) (clock : ℕ → ℤ)
    (pass : SubscriptionPass ν) : Automation × WorkerPC ν :=
  let now := clock 0
  let state := a.scheduleOf sub now
  let regularDue := due state.nextUpdate now
  let retryDue := due state.nextRetry now
  if due state.nextHealth now ∧ ¬regularDue ∧ ¬retryDue then
    (a.putSubscription sub.databaseID
      { state with nextHealth := some (now + failureInterval sub) }, .health sub pass)
  else if ¬regularDue ∧ ¬retryDue then (a.putSubscription sub.databaseID state, .process pass)
  else
    (a.putSubscription sub.databaseID (state.beforeFetch sub regularDue clock),
      .fetch sub regularDue pass)

/-- Where `process` goes on when the update is over. -/
def WorkerPC.afterFetch (sub : SubscriptionRaw ν) (regularDue : Bool)
    (pass : SubscriptionPass ν) : WorkerPC ν :=
  if sub.updateMode = .intervalFailsafe then .check sub regularDue pass else .process pass

/-- `processGroup` up to the probes. -/
def Automation.beginGroup (a : Automation) (task : GroupTask ν) (now : ℤ) (pass : GroupPass ν) :
    Automation × WorkerPC ν :=
  let signature := automaticGroupSignature task.setting task.candidates
  match a.groups.get? task.name with
  | some state =>
    if state.signature = signature ∧ state.next.any fun next => now < next then
      (a, .groupDone pass)
    else
      ({ a with groups := a.groups.put task.name { state with signature } }, .probe task pass)
  | none => ({ a with groups := a.groups.put task.name { signature } }, .probe task pass)

/-- The time until the next check of a group. -/
def groupDelay (setting : OutboundSetting) (failed : Bool) : ℤ :=
  let interval := match Go.parseDuration setting.probeInterval with
    | .ok interval => interval
    | .error _ => 30 * Go.Duration.second
  if failed then max interval (30 * Go.Duration.second) else interval

/-- Take the configuration lock, which is free if no request holds it, or go on with it. -/
def AutomationState.withLock (s : AutomationState ν)
    (body : Bool → AutomationState ν) : Option (AutomationState ν) :=
  match s.lock with
  | some seen => some { body seen with lock := none }
  | none => if s.turn = some .holding then none else some { s with lock := some s.cancelled }

/-- The next section of the worker. -/
def workerStep (parseURL : String → Option ParsedURL) (s : AutomationState ν)
    (choice : WorkerChoice ν) : Option (AutomationState ν) :=
  let a := s.schedules
  let clock := choice.clock
  match s.worker with
  | .begin =>
    some { s with worker := .readSubscriptions, cancellable := true, cancelled := false }
  | .readSubscriptions =>
    s.withLock fun _ =>
      let subs := s.world.store.subscriptions.filter fun sub => sub.updateMode ≠ .disabled
      { s with worker := .process ⟨subs, subs.map SubscriptionRaw.databaseID⟩ }
  | .process ⟨[], active⟩ =>
    some
      { s with
        worker := .readGroups
        schedules := { a with subscriptions := a.subscriptions.keep active } }
  | .process ⟨sub :: rest, active⟩ =>
    let (schedules, worker) := a.beginProcess sub clock ⟨rest, active⟩
    some { s with worker, schedules }
  | .health sub pass =>
    let next := some (clock 0 + failureInterval sub)
    if s.cancelled then
      let schedules := a.modifySubscription sub.databaseID fun st => { st with nextHealth := next }
      some { s with worker := .leave schedules.nextDeadline, schedules }
    else if ¬choice.unavailable then
      let schedules := a.modifySubscription sub.databaseID fun st => { st with nextHealth := next }
      some { s with worker := .process pass, schedules }
    else
      let schedules := a.modifySubscription sub.databaseID fun st =>
        { st with nextHealth := none }.beforeFetch sub false clock
      some { s with worker := .fetch sub false pass, schedules }
  | .fetch sub regularDue pass =>
    if s.cancelled then
      if sub.updateMode = .intervalFailsafe then
        some { s with worker := .deferred sub regularDue true pass }
      else some { s with worker := .leave a.nextDeadline }
    else
      match choice.fetched with
      | .ok (nodes, info) => some { s with worker := .apply sub regularDue nodes info pass }
      | .error _ =>
        some
          { s with
            worker := .afterFetch sub regularDue pass
            schedules := a.modifySubscription sub.databaseID fun st =>
              st.afterFetch sub regularDue clock }
  | .apply sub regularDue nodes info pass =>
    s.withLock fun seen =>
      -- The update keeps the policy of the subscription, so `sub` stands for both versions.
      let (_, world) := applyUpdate seen sub nodes choice.status info s.world
      { s with
        world
        worker := .afterFetch sub regularDue pass
        schedules := a.modifySubscription sub.databaseID fun st =>
          st.afterFetch sub regularDue clock }
  | .check sub regularDue pass =>
    if s.cancelled then some { s with worker := .deferred sub regularDue true pass }
    else
      some
        { s with
          worker := .deferred sub regularDue false pass
          schedules := a.modifySubscription sub.databaseID fun st =>
            st.afterCheck sub choice.unavailable clock }
  | .deferred sub regularDue failed pass =>
    let schedules :=
      if s.cancelled then
        a.modifySubscription sub.databaseID fun st => st.reserve sub regularDue clock
      else a
    some
      { s with
        worker := if failed then .leave schedules.nextDeadline else .process pass
        schedules }
  | .readGroups =>
    s.withLock fun _ =>
      { s with worker := .groups { rest := choice.runtime.mapOrder 1 (groupTasks s.world.store) } }
  | .groups ⟨[], active, _⟩ =>
    let schedules := { a with groups := a.groups.keep active }
    some { s with worker := .leave schedules.nextDeadline, schedules }
  | .groups ⟨task :: rest, active, cache⟩ =>
    if ¬task.setting.FailClosed then some { s with worker := .groups ⟨rest, active, cache⟩ }
    else if (validateOutboundSetting parseURL task.setting).isSome then
      some { s with worker := .groups ⟨rest, task.name :: active, cache⟩ }
    else
      let (schedules, worker) := a.beginGroup task (clock 0) ⟨rest, task.name :: active, cache⟩
      some { s with worker, schedules }
  | .probe task pass =>
    match probeCached s.cancelled choice.probes pass.cache (probeKeys task) with
    | some (cache, results) =>
      some { s with worker := .membership task results { pass with cache } }
    | none =>
      some
        { s with
          worker := .groupDone pass
          schedules := a.setGroupNext task.name (clock 0 + groupDelay task.setting true) }
  | .membership task results pass =>
    s.withLock fun seen =>
      let (err, world) := applyMembership seen task results s.world
      { s with
        world
        worker := .groupDone pass
        schedules := a.setGroupNext task.name (clock 0 + groupDelay task.setting err.isSome) }
  | .groupDone pass =>
    -- A step that is cancelled here leaves without a deadline.
    some { s with worker := if s.cancelled then .leave none else .groups pass }
  | .leave next =>
    some { s with worker := .wait next, cancellable := false, cancelled := true }
  | .wait next =>
    -- When both channels are ready, either may be chosen; the timer leaves the token.
    if choice.timer then
      if next.isSome then some { s with worker := .begin } else none
    else if s.wake then some { s with worker := .begin, wake := false }
    else none

/-- What can happen. -/
inductive AutomationAction (ν : Type)
  /-- The next section of the worker. -/
  | worker (choice : WorkerChoice ν)
  /-- A request comes and waits for its turn. -/
  | arrive
  /-- A request that waits for its turn times out or loses its client. -/
  | giveUpTurn
  | takeTurn
  | cancelAutomation
  | tryLock
  /-- The request that waits for the lock tries again. -/
  | retry
  /-- The request that waits for the lock times out or loses its client. -/
  | giveUp
  /-- The request that holds the lock changes the world. -/
  | mutate (world : World ν)
  | unlock
  | notifyAutomation
  | release

/-- What an action does. The actions of `beginMutation` and of the function that it returns are
those of the request that has its turn. -/
def AutomationState.next (parseURL : String → Option ParsedURL) (s : AutomationState ν) :
    AutomationAction ν → Option (AutomationState ν)
  | .worker choice => workerStep parseURL s choice
  | .arrive => some { s with queued := s.queued + 1 }
  | .giveUpTurn => if s.queued = 0 then none else some { s with queued := s.queued - 1 }
  | .takeTurn =>
    if s.queued = 0 ∨ s.turn ≠ none then none
    else some { s with queued := s.queued - 1, turn := some .taken }
  | .cancelAutomation =>
    if s.turn = some .taken then
      some
        { s with
          cancelled := s.cancelled || s.cancellable
          turn := some (.trying s.cancellable) }
    else none
  | .tryLock =>
    match s.turn with
    | some (.trying hit) =>
      some { s with turn := some (if s.lock.isSome then .waiting hit else .holding) }
    | _ => none
  | .retry =>
    match s.turn with
    | some (.waiting hit) => some { s with turn := some (.trying hit) }
    | _ => none
  | .giveUp =>
    match s.turn with
    | some (.waiting _) => some { s with turn := none }
    | _ => none
  | .mutate world => if s.turn = some .holding then some { s with world } else none
  | .unlock => if s.turn = some .holding then some { s with turn := some .unlocked } else none
  | .notifyAutomation =>
    if s.turn = some .unlocked then some { s with wake := true, turn := some .notified } else none
  | .release => if s.turn = some .notified then some { s with turn := none } else none

/-- The worker with the requests, started on any stored configuration. -/
def automationSystem (ν : Type) [ServerObj ν] (parseURL : String → Option ParsedURL) :
    Transition.System (AutomationState ν) (AutomationAction ν) where
  init s := ∃ world, s = { world }
  next := AutomationState.next parseURL

end Worker

end V2rayA
