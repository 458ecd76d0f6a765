import V2rayA.Service.AutomationUpdates

/-!
# The group phase of a step

A step of the worker checks the groups one after another, in the order in which the runtime ranges
over a map. All of them come from one snapshot, they share a cache of probe results, and each check
reads the store again, which the checks before it have changed.

* `leads_visit`: a visit of a group is a run of the worker.
* `leads_groupPhase`: the phase is a run of the worker.
* `Visited`: what holds between two visits. A group that was visited has what it would get if its
  nodes were probed for it alone, and the others have what they had.
* `sameMembership_of_groupPhase`: neither the order of the groups nor the shared cache changes what
  is stored. This takes share links without line breaks, since the keys of the cache separate the
  probe URL and the link by one, and groups that are looked at at the same times in every order.
-/

namespace V2rayA

open List Go.Map Store Automation

variable {ν : Type} [ServerObj ν]

/-! ### What the check of a group stores -/

/-- The member that the group stays with after the check. -/
def GroupTask.stickyAfter (task : GroupTask ν) (fingerprint : String → String)
    (results : List Bool) : String :=
  nextSticky task.setting (task.healthy fingerprint results)

/-- The members after the check, `current` being those before it. An automatic group whose current
member changes gets its members in the order of the candidates, even if they are the same. -/
def GroupTask.membersAfter (task : GroupTask ν) (fingerprint : String → String)
    (results : List Bool) (current : List NodeRef) : List NodeRef :=
  if task.setting.autoAdd = true ∧
      (task.stickyAfter fingerprint results ≠ task.setting.stickyCurrent ∨
        ¬sameMembers current (task.members results)) then
    task.members results
  else current

/-- The store after the check of a group. -/
structure CheckedStore (task : GroupTask ν) (results : List Bool) (w : World ν) (s' : Store ν) :
    Prop where
  servers : s'.servers = w.store.servers
  subscriptions : s'.subscriptions = w.store.subscriptions
  members : ∀ out, s'.members out =
    if out = task.name then
      task.membersAfter w.nodeFingerprint results (w.store.members task.name)
    else w.store.members out
  setting : ∀ name, s'.getOutboundSetting name =
    if name = task.name then
      { task.setting with stickyCurrent := task.stickyAfter w.nodeFingerprint results }
    else w.store.getOutboundSetting name

/-- The locked section has made a call that has failed. -/
def callFailed (task : GroupTask ν) (results : List Bool) (w : World ν) : Bool :=
  match membershipCall false task results w with
  | .ok (some call) => (call.run w).1.isSome
  | _ => false

section Check

variable {task : GroupTask ν} {results : List Bool} {w : World ν}

omit [ServerObj ν] in
lemma replaceConnects_frame (outbound : String) (members : List NodeRef) (s : Store ν) :
    (replaceConnects outbound members s).servers = s.servers ∧
      (replaceConnects outbound members s).subscriptions = s.subscriptions := by
  unfold replaceConnects
  split_ifs <;> exact ⟨rfl, rfl⟩

omit [ServerObj ν] in
lemma withGroupState_frame (outbound : String) (next : OutboundSetting)
    (members : List NodeRef) (replaceMembers : Bool) (s : Store ν) :
    (s.withGroupState outbound next members replaceMembers).servers = s.servers ∧
      (s.withGroupState outbound next members replaceMembers).subscriptions = s.subscriptions := by
  cases replaceMembers with
  | false => exact ⟨rfl, rfl⟩
  | true => exact replaceConnects_frame _ _ s

omit [ServerObj ν] in
/-- The references of a task name its group. -/
lemma outbound_of_mem_members {r : NodeRef} (hr : r ∈ task.members results) :
    r.outbound = task.name := by
  obtain ⟨c, -, rfl⟩ := mem_map.mp hr
  rfl

/-- A check that stores the state of its group. -/
lemma checked_withGroupState (hne : task.name ≠ "")
    (hchanged : task.stickyAfter w.nodeFingerprint results ≠ task.setting.stickyCurrent ∨
      (task.setting.autoAdd ∧
        ¬sameMembers (w.store.members task.name) (task.members results))) :
    CheckedStore task results w (w.store.withGroupState task.name
      { task.setting with stickyCurrent := task.stickyAfter w.nodeFingerprint results }
      (task.members results) task.setting.autoAdd) := by
  obtain ⟨hservers, hsubs⟩ := withGroupState_frame task.name
    { task.setting with stickyCurrent := task.stickyAfter w.nodeFingerprint results }
    (task.members results) task.setting.autoAdd w.store
  refine ⟨hservers, hsubs, fun out => ?_, fun name => ?_⟩
  · rw [members_withGroupState hne fun r hr => outbound_of_mem_members hr]
    unfold GroupTask.membersAfter
    by_cases hout : out = task.name
    · by_cases hauto : task.setting.autoAdd = true
      · have hwrite : task.stickyAfter w.nodeFingerprint results ≠ task.setting.stickyCurrent ∨
            ¬sameMembers (w.store.members task.name) (task.members results) :=
          hchanged.imp_right And.right
        rw [if_pos ⟨hauto, hout⟩, if_pos hout, if_pos ⟨hauto, hwrite⟩]
      · simp [hout, hauto]
    · simp [hout]
  · rw [getOutboundSetting_of_update rfl]

variable (hsetting : w.store.getOutboundSetting task.name = task.setting)
include hsetting

/-- A check that replaces the members of its group. -/
lemma checked_replaceConnects (hne : task.name ≠ "")
    (hsticky : task.stickyAfter w.nodeFingerprint results = task.setting.stickyCurrent)
    (hauto : task.setting.autoAdd)
    (hchanged : ¬sameMembers (w.store.members task.name) (task.members results)) :
    CheckedStore task results w (replaceConnects task.name (task.members results) w.store) := by
  obtain ⟨hservers, hsubs⟩ :=
    replaceConnects_frame task.name (task.members results) w.store
  refine ⟨hservers, hsubs, fun out => ?_, fun name => ?_⟩
  · rw [members_replaceConnects hne fun r hr => outbound_of_mem_members hr]
    simp [GroupTask.membersAfter, hauto, hchanged]
  · rw [getOutboundSetting, outboundSetting_replaceConnects, hsticky]
    split_ifs with hname
    · rw [hname]
      exact hsetting
    · rfl

/-- A check that writes nothing. -/
lemma checked_unchanged
    (hsticky : task.stickyAfter w.nodeFingerprint results = task.setting.stickyCurrent)
    (hsame : ¬(task.setting.autoAdd ∧
      ¬sameMembers (w.store.members task.name) (task.members results))) :
    CheckedStore task results w w.store := by
  refine ⟨rfl, rfl, fun out => ?_, fun name => ?_⟩
  · have hkeep : ¬(task.setting.autoAdd = true ∧
        (task.stickyAfter w.nodeFingerprint results ≠ task.setting.stickyCurrent ∨
          ¬sameMembers (w.store.members task.name) (task.members results))) := by
      rintro ⟨hauto, hne | hne⟩
      · exact hne hsticky
      · exact hsame ⟨hauto, hne⟩
    rw [GroupTask.membersAfter]
    split_ifs with hout
    · rw [hout]
    · rfl
  · rw [hsticky]
    split_ifs with hname
    · rw [hname]
      exact hsetting
    · rfl

/-- On the setting and the candidates that were read, a check whose calls succeed stores its
result. -/
lemma checked_of_current (hne : task.name ≠ "")
    (hcandidates : currentCandidates w.store task.name = task.candidates)
    (hauto : task.setting.autoAdd → task.candidates = automaticGroupCandidates w.store)
    (hok : callFailed task results w = false) :
    CheckedStore task results w (applyMembership false task results w).2.store ∧
      (applyMembership false task results w).2.nodeFingerprint = w.nodeFingerprint := by
  have hcurrent : (w.store.getConnectedServersByOutbound task.name).getD [] =
      w.store.members task.name := by
    rw [getConnectedServersByOutbound_of_ne hne, members]
  have hcall : membershipCall false task results w =
      if task.stickyAfter w.nodeFingerprint results ≠ task.setting.stickyCurrent ∨
          ((task.setting.autoAdd = true ∧
            ¬sameMembers (w.store.members task.name) (task.members results)) ∧
              task.setting.type = .keepCurrent) then
        .ok (some (.applyState task.name
          { task.setting with stickyCurrent := task.stickyAfter w.nodeFingerprint results }
          (task.members results) task.setting.autoAdd))
      else if task.setting.autoAdd = true ∧
          ¬sameMembers (w.store.members task.name) (task.members results) then
        .ok (some (.applyGroup task.name (task.members results)))
      else .ok none := by
    unfold membershipCall
    simp only [hsetting, hcandidates, hcurrent, ne_eq]
    rfl
  rw [applyMembership_eq]
  unfold callFailed at hok
  rw [hcall] at hok ⊢
  split_ifs at hok ⊢ with hstate hmembers
  · obtain ⟨hstore, hfingerprint⟩ := applyManagedGroupState_ok
      (Prod.ext (Option.isSome_eq_false_iff.mp hok |> Option.isNone_iff_eq_none.mp) rfl)
    dsimp only [GroupCall.run]
    rw [hstore]
    exact ⟨checked_withGroupState hne (hstate.imp_right And.left), hfingerprint⟩
  · obtain ⟨hsticky, -⟩ := not_or.mp hstate
    obtain ⟨htouchable, hnodup⟩ := members_touchable (hauto hmembers.1) results
    obtain ⟨hstore, hfingerprint⟩ := replaceOutboundConnections_ok hne htouchable hnodup
      (Prod.ext (Option.isSome_eq_false_iff.mp hok |> Option.isNone_iff_eq_none.mp) rfl)
    dsimp only [GroupCall.run]
    rw [hstore]
    exact ⟨checked_replaceConnects hsetting hne (not_not.mp hsticky) hmembers.1 hmembers.2,
      hfingerprint⟩
  · obtain ⟨hsticky, -⟩ := not_or.mp hstate
    exact ⟨checked_unchanged hsetting (not_not.mp hsticky) hmembers, rfl⟩

end Check

/-! ### The phase -/

/-- What a phase depends on besides the configuration. -/
structure PassEnv where
  /-- `url.Parse`. -/
  parseURL : String → Option ParsedURL
  /-- Whether the node with this share link answers a probe of this URL. -/
  answers : (link probeURL : String) → Bool
  /-- The time at which a group is looked at. -/
  looked : String → ℤ
  /-- The time at which the check of a group is over. -/
  finished : String → ℤ

/-- The variables of a phase. -/
structure PassState (ν : Type) where
  world : World ν
  schedules : Automation := {}
  /-- The groups that the worker manages. -/
  active : List String := []
  /-- The results of the probes so far. -/
  cache : Go.Map String Bool := []
  /-- The number of calls that have failed. -/
  failures : ℕ := 0

/-- The key under which the result for a candidate is remembered. -/
def probeKey (task : GroupTask ν) (candidate : GroupCandidate ν) : String :=
  task.setting.probeURL ++ "\n" ++ exportToURL candidate.node

/-- What the probes of a group answer: one result for each key that has none, by the first
candidate with that key. -/
def PassEnv.probes (env : PassEnv) (task : GroupTask ν) (cache : Go.Map String Bool) : List Bool :=
  let missing := ((probeKeys task).filter fun key => (cache.get? key).isNone).eraseDups
  missing.map fun key => (task.candidates.find? fun c => probeKey task c = key).any fun c =>
    env.answers (exportToURL c.node) task.setting.probeURL

/-- The check of a group is due. -/
def Automation.groupDue (a : Automation) (task : GroupTask ν) (now : ℤ) : Bool :=
  match a.groups.get? task.name with
  | some state =>
    ¬(state.signature = automaticGroupSignature task.setting task.candidates ∧
      state.next.any fun next => now < next)
  | none => true

/-- The visit of one group. -/
def PassState.visit (env : PassEnv) (st : PassState ν) (task : GroupTask ν) : PassState ν :=
  if ¬task.setting.FailClosed then st
  else
    let st := { st with active := task.name :: st.active }
    if (validateOutboundSetting env.parseURL task.setting).isSome then st
    else if ¬st.schedules.groupDue task (env.looked task.name) then st
    else
      let schedules := (st.schedules.beginGroup task (env.looked task.name) ⟨[], [], []⟩).1
      let finish (failed : Bool) :=
        schedules.setGroupNext task.name (env.finished task.name + groupDelay task.setting failed)
      match probeCached false (env.probes task st.cache) st.cache (probeKeys task) with
      | none => { st with schedules := finish true }
      | some (cache, results) =>
        let (err, world) := applyMembership false task results st.world
        { st with
          world
          schedules := finish err.isSome
          cache
          failures := st.failures + (callFailed task results st.world).toNat }

/-- The group phase of a step that is not cancelled. -/
def groupPhase (env : PassEnv) (rt : Go.Runtime) (w : World ν) (schedules : Automation) :
    PassState ν :=
  (rt.mapOrder 1 (groupTasks w.store)).foldl (PassState.visit env) { world := w, schedules }

/-! ### A visit is a run of the worker -/

section Worker

variable {env : PassEnv} {s : AutomationState ν} {st : PassState ν} {task : GroupTask ν}
  {rest : List (GroupTask ν)}

/-- The worker before the next group, with the variables of a phase. -/
def PassState.toWorker (st : PassState ν) (s : AutomationState ν) (rest : List (GroupTask ν)) :
    AutomationState ν :=
  { s with
    world := st.world
    schedules := st.schedules
    worker := .groups ⟨rest, st.active, st.cache⟩ }

omit [ServerObj ν] in
lemma beginGroup_eq (a : Automation) (task : GroupTask ν) (now : ℤ) (pass : GroupPass ν) :
    a.beginGroup task now pass =
      if a.groupDue task now then ((a.beginGroup task now ⟨[], [], []⟩).1, .probe task pass)
      else (a, .groupDone pass) := by
  unfold beginGroup groupDue
  cases a.groups.get? task.name with
  | none => rfl
  | some state =>
    dsimp only
    split_ifs <;> simp_all

attribute [local simp] Transition.System.run AutomationState.next PassState.toWorker automationSystem

/-- The visit of a group is a run of the worker. -/
lemma leads_visit (hcancelled : s.cancelled = false) (hlock : s.lock = none)
    (hturn : s.turn ≠ some .holding) :
    (automationSystem ν env.parseURL).Leads (st.toWorker s (task :: rest))
      ((st.visit env task).toWorker s rest) := by
  let looked : WorkerChoice ν := { clock := fun _ => env.looked task.name }
  let probed : WorkerChoice ν :=
    { probes := env.probes task st.cache, clock := fun _ => env.finished task.name }
  let finished : WorkerChoice ν := { clock := fun _ => env.finished task.name }
  unfold PassState.visit
  by_cases hclosed : task.setting.FailClosed
  swap
  · refine ⟨[.worker looked], ?_⟩
    simp [workerStep, hclosed]
  by_cases hvalid : (validateOutboundSetting env.parseURL task.setting).isSome
  · refine ⟨[.worker looked], ?_⟩
    simp [workerStep, hclosed, hvalid]
  by_cases hdue : st.schedules.groupDue task (env.looked task.name)
  swap
  · have hbegin (pass : GroupPass ν) :
        st.schedules.beginGroup task (env.looked task.name) pass =
          (st.schedules, .groupDone pass) := by
      rw [beginGroup_eq, if_neg hdue]
    refine ⟨[.worker looked, .worker {}], ?_⟩
    simp [workerStep, hclosed, hvalid, hbegin, hdue, looked, hcancelled]
  cases hprobe : probeCached false (env.probes task st.cache) st.cache (probeKeys task) with
  | none =>
    refine ⟨[.worker looked, .worker probed, .worker {}], ?_⟩
    simp [workerStep, hclosed, hvalid, beginGroup_eq _ _ _ ⟨rest, _, _⟩, hdue, looked, probed,
      hcancelled, hprobe]
  | some found =>
    refine ⟨[.worker looked, .worker probed, .worker {}, .worker finished, .worker {}], ?_⟩
    simp [workerStep, AutomationState.withLock, hclosed, hvalid, beginGroup_eq _ _ _ ⟨rest, _, _⟩,
      hdue, looked, probed, finished, hcancelled, hprobe, hlock, hturn]

/-- The visits of the groups are a run of the worker. -/
lemma leads_foldl_visit (hcancelled : s.cancelled = false) (hlock : s.lock = none)
    (hturn : s.turn ≠ some .holding) :
    (automationSystem ν env.parseURL).Leads (st.toWorker s rest)
      ((rest.foldl (PassState.visit env) st).toWorker s []) := by
  induction rest generalizing st with
  | nil => exact .refl _
  | cons task rest ih => exact (leads_visit hcancelled hlock hturn).trans ih

/-- The worker behind the last group. -/
def PassState.leave (st : PassState ν) (s : AutomationState ν) : AutomationState ν :=
  let schedules := { st.schedules with groups := st.schedules.groups.keep st.active }
  { s with world := st.world, worker := .leave schedules.nextDeadline, schedules }

/-- The phase is a run of the worker, from reading the groups to leaving the step. -/
theorem leads_groupPhase (hreads : s.worker = .readGroups) (hcancelled : s.cancelled = false)
    (hlock : s.lock = none) (hturn : s.turn ≠ some .holding) (rt : Go.Runtime) :
    (automationSystem ν env.parseURL).Leads s
      ((groupPhase env rt s.world s.schedules).leave s) := by
  let start : PassState ν := { world := s.world, schedules := s.schedules }
  let tasks := rt.mapOrder 1 (groupTasks s.world.store)
  have hread : (automationSystem ν env.parseURL).Leads s (start.toWorker s tasks) := by
    refine ⟨[.worker {}, .worker { runtime := rt }], ?_⟩
    simp [workerStep, hreads, AutomationState.withLock, hlock, hturn, start, tasks]
  have hvisits : (automationSystem ν env.parseURL).Leads (start.toWorker s tasks)
      ((groupPhase env rt s.world s.schedules).toWorker s []) :=
    leads_foldl_visit hcancelled hlock hturn
  exact (hread.trans hvisits).trans (.step (a := .worker {}) rfl)

end Worker

/-! ### Keys of the cache -/

/-- No share link of the catalog contains a line break. -/
structure Store.OneLineLinks (s : Store ν) : Prop where
  servers : ∀ raw ∈ s.servers, '\n' ∉ (exportToURL raw.serverObj).toList
  subscriptions : ∀ sub ∈ s.subscriptions, ∀ raw ∈ sub.servers,
    '\n' ∉ (exportToURL raw.serverObj).toList

section Keys

variable {s : Store ν} {task task' : GroupTask ν} {c c' : GroupCandidate ν}

lemma oneLine_of_locate (h : s.OneLineLinks) {ref : NodeRef} {raw : ServerRaw ν}
    (hloc : s.locate ref = .ok raw) : '\n' ∉ (exportToURL raw.serverObj).toList := by
  rcases s.cases_of_locate hloc with ⟨i, -, -, hraw⟩ | ⟨i, j, sub, -, -, -, hsub, hraw⟩
  · exact h.servers raw (mem_of_getElem? hraw)
  · exact h.subscriptions sub (mem_of_getElem? hsub) raw (mem_of_getElem? hraw)

/-- The candidates of a task come from the catalog. -/
lemma oneLine_of_mem (h : s.OneLineLinks) (htask : task ∈ groupTasks s)
    (hc : c ∈ task.candidates) : '\n' ∉ (exportToURL c.node).toList := by
  obtain ⟨name, -, rfl⟩ := mem_map.mp htask
  dsimp only at hc
  split_ifs at hc
  · rcases mem_append.mp hc with hc | hc
    · obtain ⟨⟨raw, index⟩, hraw, rfl⟩ := mem_map.mp hc
      exact h.servers raw (fst_mem_of_mem_zipIdx hraw)
    · obtain ⟨⟨sub, subIndex⟩, hsub, hc⟩ := mem_flatMap.mp hc
      obtain ⟨⟨raw, nodeIndex⟩, hraw, rfl⟩ := mem_map.mp hc
      exact h.subscriptions sub (fst_mem_of_mem_zipIdx hsub) raw
        (fst_mem_of_mem_zipIdx hraw)
  · obtain ⟨ref, -, located, hloc, rfl⟩ := mem_connectedGroupCandidates.mp hc
    exact oneLine_of_locate h hloc
  · simp at hc

/-- The last line break of a key separates the probe URL from the link. -/
lemma probeKey_inj (hc : '\n' ∉ (exportToURL c.node).toList)
    (hc' : '\n' ∉ (exportToURL c'.node).toList) (h : probeKey task c = probeKey task' c') :
    task.setting.probeURL = task'.setting.probeURL ∧ exportToURL c.node = exportToURL c'.node := by
  have hlist := congrArg String.toList h
  have hkey (task : GroupTask ν) (c : GroupCandidate ν) : (probeKey task c).toList =
      task.setting.probeURL.toList ++ '\n' :: (exportToURL c.node).toList := by
    unfold probeKey
    simp only [String.toList_append, append_assoc]
    rfl
  rw [hkey, hkey, append_sep_inj_right hc hc'] at hlist
  exact ⟨String.toList_injective hlist.1, String.toList_injective hlist.2⟩

end Keys

/-! ### Probing with the cache -/

/-- The results of probing the candidates of a group on their own. -/
def PassEnv.results (env : PassEnv) (task : GroupTask ν) : List Bool :=
  task.candidates.map fun c => env.answers (exportToURL c.node) task.setting.probeURL

section Probing

variable {env : PassEnv} {task : GroupTask ν} {cache : Go.Map String Bool}

/-- Within one group, equal keys are equal links. -/
lemma link_of_probeKey {c c' : GroupCandidate ν}
    (h : probeKey task c = probeKey task c') : exportToURL c.node = exportToURL c'.node := by
  exact String.append_right_inj _ |>.mp h

/-- The first candidate with the key of a candidate has its share link. -/
lemma any_find?_probeKey {c : GroupCandidate ν} (hc : c ∈ task.candidates) :
    (task.candidates.find? fun c' => probeKey task c' = probeKey task c).any
        (fun c' => env.answers (exportToURL c'.node) task.setting.probeURL) =
      env.answers (exportToURL c.node) task.setting.probeURL := by
  cases hfind : task.candidates.find? fun c' => probeKey task c' = probeKey task c with
  | none => simpa using find?_eq_none.mp hfind c hc
  | some c' =>
    have hkey : probeKey task c' = probeKey task c := by simpa using find?_some hfind
    rw [Option.any_some, link_of_probeKey hkey]

/-- With a cache that holds true answers, a group gets the answers for its own candidates, and the
cache goes on to hold true answers. -/
lemma probeCached_answers (hcache : ∀ c ∈ task.candidates, ∀ result,
      cache.get? (probeKey task c) = some result →
        result = env.answers (exportToURL c.node) task.setting.probeURL) :
    ∃ cache', probeCached false (env.probes task cache) cache (probeKeys task) =
        some (cache', env.results task) ∧
      ∀ key result, cache'.get? key = some result → cache.get? key = some result ∨
        ∃ c ∈ task.candidates, key = probeKey task c ∧
          result = env.answers (exportToURL c.node) task.setting.probeURL := by
  let missing := ((probeKeys task).filter fun key => (cache.get? key).isNone).eraseDups
  let answer (key : String) : Bool :=
    (task.candidates.find? fun c => probeKey task c = key).any fun c =>
      env.answers (exportToURL c.node) task.setting.probeURL
  let cache' := (missing.zip (missing.map answer)).foldl (fun cache e => cache.put e.1 e.2) cache
  have hget (key : String) : cache'.get? key =
      if key ∈ missing then some (answer key) else cache.get? key := by
    rw [get?_foldl_put, get?_ofWrites_zip_map]
    split_ifs <;> rfl
  have hmissing {key : String} : key ∈ missing ↔
      (∃ c ∈ task.candidates, probeKey task c = key) ∧ cache.get? key = none := by
    rw [mem_eraseDups, mem_filter, Option.isNone_iff_eq_none, probeKeys, mem_map]
    rfl
  have hanswer (c : GroupCandidate ν) (hc : c ∈ task.candidates) :
      (cache'.get? (probeKey task c)).getD true =
        env.answers (exportToURL c.node) task.setting.probeURL := by
    rw [hget]
    split_ifs with hkey
    · exact any_find?_probeKey hc
    · cases hfound : cache.get? (probeKey task c) with
      | none => exact absurd (hmissing.mpr ⟨⟨c, hc, rfl⟩, hfound⟩) hkey
      | some result => exact hcache c hc result hfound
  have hresults : (probeKeys task).map (fun key => (cache'.get? key).getD true) =
      env.results task := by
    rw [probeKeys, map_map]
    exact map_congr_left hanswer
  refine ⟨cache', ?_, fun key result hfound => ?_⟩
  · unfold probeCached
    rw [show env.probes task cache = missing.map answer from rfl]
    by_cases hempty : missing = []
    · have hcache' : cache' = cache := by simp [cache', hempty]
      rw [if_pos (isEmpty_iff.mpr hempty), ← hresults, hcache']
    · rw [if_neg (by simpa using hempty), if_neg (by simp [missing]), ← hresults]
  · rw [hget] at hfound
    split_ifs at hfound with hkey
    · obtain ⟨⟨c, hc, rfl⟩, -⟩ := hmissing.mp hkey
      exact .inr ⟨c, hc, rfl, (Option.some.inj hfound).symm.trans (any_find?_probeKey hc)⟩
    · exact .inl hfound

end Probing

/-! ### Groups do not affect each other -/

/-- The group is checked in a phase that starts with these schedules. -/
def PassEnv.Checks (env : PassEnv) (a : Automation) (task : GroupTask ν) : Prop :=
  task.setting.FailClosed ∧ (validateOutboundSetting env.parseURL task.setting).isNone ∧
    a.groupDue task (env.looked task.name)

instance (env : PassEnv) (a : Automation) (task : GroupTask ν) : Decidable (env.Checks a task) :=
  inferInstanceAs (Decidable (_ ∧ _))

/-- The members of a group after its nodes were probed for it alone. -/
def PassEnv.membersFor (env : PassEnv) (a : Automation) (w : World ν) (task : GroupTask ν) :
    List NodeRef :=
  if env.Checks a task then
    task.membersAfter w.nodeFingerprint (env.results task) (w.store.members task.name)
  else w.store.members task.name

/-- The member that a group stays with after its nodes were probed for it alone. -/
def PassEnv.stickyFor (env : PassEnv) (a : Automation) (w : World ν) (task : GroupTask ν) :
    String :=
  if env.Checks a task then task.stickyAfter w.nodeFingerprint (env.results task)
  else task.setting.stickyCurrent

/-- What holds between two visits of a phase that has started in `w` with the schedules `a`,
`done` being the groups that were visited. -/
structure Visited (env : PassEnv) (a : Automation) (w : World ν) (done : List (GroupTask ν))
    (st : PassState ν) : Prop where
  servers : st.world.store.servers = w.store.servers
  subscriptions : st.world.store.subscriptions = w.store.subscriptions
  fingerprint : st.world.nodeFingerprint = w.nodeFingerprint
  members : ∀ task ∈ done, st.world.store.members task.name = env.membersFor a w task
  sticky : ∀ task ∈ done,
    (st.world.store.getOutboundSetting task.name).stickyCurrent = env.stickyFor a w task
  untouched : ∀ name, (∀ task ∈ done, name ≠ task.name) →
    st.world.store.members name = w.store.members name ∧
      st.world.store.getOutboundSetting name = w.store.getOutboundSetting name ∧
      st.schedules.groups.get? name = a.groups.get? name
  cache : ∀ key result, st.cache.get? key = some result → ∃ task ∈ done, ∃ c ∈ task.candidates,
    key = probeKey task c ∧ result = env.answers (exportToURL c.node) task.setting.probeURL

section Phase

variable {env : PassEnv} {a a' : Automation} {w w' : World ν} {s s' : Store ν} {st : PassState ν}
  {task : GroupTask ν} {done : List (GroupTask ν)}

lemma automaticGroupCandidates_congr (hservers : s'.servers = s.servers)
    (hsubs : s'.subscriptions = s.subscriptions) :
    automaticGroupCandidates s' = automaticGroupCandidates s := by
  unfold automaticGroupCandidates
  rw [hservers, hsubs]

lemma connectedGroupCandidates_congr {name : String} (hne : name ≠ "")
    (hservers : s'.servers = s.servers) (hsubs : s'.subscriptions = s.subscriptions)
    (hmembers : s'.members name = s.members name) :
    connectedGroupCandidates s' name = connectedGroupCandidates s name := by
  have hlocate : s'.locate = s.locate := by
    unfold locate
    rw [hservers, hsubs]
  have hconnected (s : Store ν) : (s.getConnectedServersByOutbound name).getD [] =
      s.members name := by
    rw [getConnectedServersByOutbound_of_ne hne, members]
  unfold connectedGroupCandidates
  rw [hconnected, hconnected, hmembers, hlocate]

omit [ServerObj ν] in
lemma groupDue_congr {now : ℤ} (h : a'.groups.get? task.name = a.groups.get? task.name) :
    a'.groupDue task now = a.groupDue task now := by
  unfold groupDue
  rw [h]

omit [ServerObj ν] in
/-- The schedules of other groups stay. -/
lemma get?_setGroupNext_beginGroup {now next : ℤ} {pass : GroupPass ν} {name : String}
    (h : name ≠ task.name) :
    ((a.beginGroup task now pass).1.setGroupNext task.name next).groups.get? name =
      a.groups.get? name := by
  unfold setGroupNext beginGroup
  dsimp only
  rw [get?_modify, if_neg h]
  split
  · split
    · rfl
    · rw [get?_put, if_neg h]
  · rw [get?_put, if_neg h]

/-- A task holds what the store holds. -/
lemma setting_of_mem_groupTasks (htask : task ∈ groupTasks s) :
    task.name ∈ s.getOutbounds ∧ task.setting = s.getOutboundSetting task.name := by
  obtain ⟨name, hname, rfl⟩ := mem_map.mp htask
  exact ⟨hname, rfl⟩

lemma currentCandidates_of_mem_groupTasks (htask : task ∈ groupTasks s)
    (hclosed : task.setting.FailClosed) : currentCandidates s task.name = task.candidates := by
  obtain ⟨name, hname, rfl⟩ := mem_map.mp htask
  unfold currentCandidates
  dsimp only
  split_ifs with hauto htype
  · rfl
  · rfl
  · exact absurd hclosed (by simp [OutboundSetting.FailClosed, hauto, htype])

/-- A group that is not checked changes nothing. -/
lemma visit_of_not_checks (h : ¬env.Checks st.schedules task) :
    (st.visit env task).world = st.world ∧ (st.visit env task).schedules = st.schedules ∧
      (st.visit env task).cache = st.cache := by
  unfold PassState.visit
  dsimp only
  split_ifs with hclosed hvalid hdue
  · exact ⟨rfl, rfl, rfl⟩
  · exact absurd ⟨hclosed, by simpa using hvalid, hdue⟩ h
  · exact ⟨rfl, rfl, rfl⟩
  · exact ⟨rfl, rfl, rfl⟩

/-- A group that is checked. -/
lemma visit_of_checks (h : env.Checks st.schedules task) {cache : Go.Map String Bool}
    {results : List Bool} (hprobe : probeCached false (env.probes task st.cache) st.cache
      (probeKeys task) = some (cache, results)) :
    (st.visit env task).world = (applyMembership false task results st.world).2 ∧
      (∃ next, (st.visit env task).schedules = (st.schedules.beginGroup task
        (env.looked task.name) ⟨[], [], []⟩).1.setGroupNext task.name next) ∧
      (st.visit env task).cache = cache ∧
      (st.visit env task).failures =
        st.failures + (callFailed task results st.world).toNat := by
  obtain ⟨hclosed, hvalid, hdue⟩ := h
  unfold PassState.visit
  simp only [hclosed, Option.isNone_iff_eq_none.mp hvalid, hdue, hprobe, not_true, if_false,
    Option.isSome_none, Bool.false_eq_true, true_and]
  exact ⟨⟨_, rfl⟩, trivial⟩

namespace Visited

lemma start (env : PassEnv) (a : Automation) (w : World ν) :
    Visited env a w [] { world := w, schedules := a } where
  servers := rfl
  subscriptions := rfl
  fingerprint := rfl
  members := by simp
  sticky := by simp
  untouched _ _ := ⟨rfl, rfl, rfl⟩
  cache _ _ h := by simp [get?] at h

section

variable (h : Visited env a w done st)
include h

/-- Nothing that was probed before is needed. -/
lemma forget : Visited env a w done { st with cache := [] } :=
  { h with cache := fun _ _ h => by simp [get?] at h }

variable (hnew : ∀ task' ∈ done, task.name ≠ task'.name) (htask : task ∈ groupTasks w.store)
  (hlinks : w.store.OneLineLinks) (hdone : ∀ task ∈ done, task ∈ groupTasks w.store)

include htask hlinks hdone in
/-- What the cache holds for a candidate was asked for its link with the probe URL of the group. -/
lemma cache_sound {c : GroupCandidate ν} (hc : c ∈ task.candidates) {result : Bool}
    (hresult : st.cache.get? (probeKey task c) = some result) :
    result = env.answers (exportToURL c.node) task.setting.probeURL := by
  obtain ⟨task', htask', c', hc', hkey, rfl⟩ := h.cache _ _ hresult
  obtain ⟨hurl, hlink⟩ := probeKey_inj (oneLine_of_mem hlinks htask hc)
    (oneLine_of_mem hlinks (hdone task' htask') hc') hkey
  rw [hurl, hlink]

include hnew

/-- A group that was not visited is checked on what the phase has started with. -/
lemma checks_iff :
    env.Checks st.schedules task ↔ env.Checks a task := by
  unfold PassEnv.Checks
  rw [groupDue_congr (h.untouched task.name hnew).2.2]

include htask

lemma currentCandidates_eq (hclosed : task.setting.FailClosed) :
    currentCandidates st.world.store task.name = task.candidates := by
  have hne := w.store.ne_empty_of_mem_getOutbounds (setting_of_mem_groupTasks htask).1
  obtain ⟨hmembers, hsetting, -⟩ := h.untouched task.name hnew
  rw [← currentCandidates_of_mem_groupTasks htask hclosed]
  unfold currentCandidates
  rw [hsetting, automaticGroupCandidates_congr h.servers h.subscriptions,
    connectedGroupCandidates_congr hne h.servers h.subscriptions hmembers]

/-- One more group that is not checked. -/
lemma skip (hchecks : ¬env.Checks a task) :
    Visited env a w (task :: done) (st.visit env task) := by
  obtain ⟨hworld, hschedules, hcache⟩ := visit_of_not_checks (mt (h.checks_iff hnew).mp hchecks)
  obtain ⟨hmembers, hsetting, -⟩ := h.untouched task.name hnew
  refine ⟨hworld ▸ h.servers, hworld ▸ h.subscriptions, hworld ▸ h.fingerprint, ?_, ?_, ?_, ?_⟩
  · rw [hworld]
    refine forall_mem_cons.mpr ⟨?_, h.members⟩
    rw [hmembers, PassEnv.membersFor, if_neg hchecks]
  · rw [hworld]
    refine forall_mem_cons.mpr ⟨?_, h.sticky⟩
    rw [hsetting, PassEnv.stickyFor, if_neg hchecks, (setting_of_mem_groupTasks htask).2]
  · rw [hworld, hschedules]
    exact fun name hname => h.untouched name fun task' h' => hname task' (.tail _ h')
  · rw [hcache]
    intro key result hfound
    obtain ⟨task', h', hentry⟩ := h.cache key result hfound
    exact ⟨task', .tail _ h', hentry⟩

include hlinks hdone

/-- One more group that is checked, with calls that succeed. -/
lemma check (hchecks : env.Checks a task)
    (hok : (st.visit env task).failures = st.failures) :
    Visited env a w (task :: done) (st.visit env task) := by
  obtain ⟨hname, hsetting⟩ := setting_of_mem_groupTasks htask
  have hne := w.store.ne_empty_of_mem_getOutbounds hname
  obtain ⟨hmembers, hstored, -⟩ := h.untouched task.name hnew
  -- the cache answers as separate probes do
  obtain ⟨cache, hprobe, hentries⟩ := probeCached_answers
    fun c hc result => h.cache_sound htask hlinks hdone hc
  obtain ⟨hworld, ⟨next, hschedules⟩, hcache, hfailures⟩ :=
    visit_of_checks ((h.checks_iff hnew).mpr hchecks) hprobe
  have hcurrent := h.currentCandidates_eq hnew htask hchecks.1
  have hauto (hauto : task.setting.autoAdd = true) :
      task.candidates = automaticGroupCandidates st.world.store := by
    rw [← hcurrent, currentCandidates, hstored, ← hsetting, if_pos hauto]
  have hsucceeds : callFailed task (env.results task) st.world = false := by
    simpa [hok] using hfailures
  obtain ⟨hchecked, hfingerprint⟩ :=
    checked_of_current (hstored.trans hsetting.symm) hne hcurrent hauto hsucceeds
  rw [← hworld] at hchecked hfingerprint
  refine ⟨hchecked.servers.trans h.servers, hchecked.subscriptions.trans h.subscriptions,
    hfingerprint.trans h.fingerprint, ?_, ?_, ?_, ?_⟩
  · refine forall_mem_cons.mpr ⟨?_, fun task' h' => ?_⟩
    · rw [hchecked.members, if_pos rfl, PassEnv.membersFor, if_pos hchecks, h.fingerprint, hmembers]
    · rw [hchecked.members, if_neg (hnew task' h').symm, h.members task' h']
  · refine forall_mem_cons.mpr ⟨?_, fun task' h' => ?_⟩
    · rw [hchecked.setting, if_pos rfl, PassEnv.stickyFor, if_pos hchecks, h.fingerprint]
    · rw [hchecked.setting, if_neg (hnew task' h').symm, h.sticky task' h']
  · intro name hname
    obtain ⟨hne, hname⟩ := forall_mem_cons.mp hname
    rw [hchecked.members, if_neg hne, hchecked.setting, if_neg hne, hschedules,
      get?_setGroupNext_beginGroup hne]
    exact h.untouched name hname
  · rw [hcache]
    intro key result hfound
    rcases hentries key result hfound with hold | ⟨c, hc, hentry⟩
    · obtain ⟨task', h', hentry⟩ := h.cache key result hold
      exact ⟨task', .tail _ h', hentry⟩
    · exact ⟨task, .head _, c, hc, hentry⟩

/-- One more group, with calls that succeed. -/
lemma visit (hok : (st.visit env task).failures = st.failures) :
    Visited env a w (task :: done) (st.visit env task) := by
  by_cases hchecks : env.Checks a task
  · exact h.check hnew htask hlinks hdone hchecks hok
  · exact h.skip hnew htask hchecks

end

end Visited

/-- The visit of one group whose nodes are probed for it alone. -/
def PassState.visitAlone (env : PassEnv) (st : PassState ν) (task : GroupTask ν) : PassState ν :=
  PassState.visit env { st with cache := [] } task

/-- The group phase without the shared cache. -/
def separatePhase (env : PassEnv) (rt : Go.Runtime) (w : World ν) (schedules : Automation) :
    PassState ν :=
  (rt.mapOrder 1 (groupTasks w.store)).foldl (PassState.visitAlone env) { world := w, schedules }

/-- The groups have the same members, and stay with the same ones. -/
structure SameMembership (s s' : Store ν) : Prop where
  members : ∀ name, s.members name = s'.members name
  sticky : ∀ name,
    (s.getOutboundSetting name).stickyCurrent = (s'.getOutboundSetting name).stickyCurrent

/-- A call that has failed stays counted. -/
lemma failures_le_visit (env : PassEnv) (st : PassState ν) (task : GroupTask ν) :
    st.failures ≤ (st.visit env task).failures := by
  unfold PassState.visit
  dsimp only
  split_ifs
  · exact le_rfl
  · split
    · exact le_rfl
    · exact Nat.le_add_right _ _
  · exact le_rfl
  · exact le_rfl

namespace Visited

/-- A phase in which no call fails. Before each visit the cache may be emptied. -/
lemma foldl {step : PassState ν → GroupTask ν → PassState ν}
    (hstep : step = PassState.visit env ∨ step = PassState.visitAlone env)
    (hlinks : w.store.OneLineLinks) {rest : List (GroupTask ν)} (h : Visited env a w done st)
    (htasks : ∀ task ∈ rest ++ done, task ∈ groupTasks w.store)
    (hnodup : ((rest ++ done).map GroupTask.name).Nodup)
    (hok : (rest.foldl step st).failures = st.failures) :
    Visited env a w (rest.reverse ++ done) (rest.foldl step st) := by
  have hle (st : PassState ν) (task : GroupTask ν) : st.failures ≤ (step st task).failures := by
    rcases hstep with rfl | rfl
    · exact failures_le_visit env st task
    · exact failures_le_visit env { st with cache := [] } task
  have hmono (st : PassState ν) (rest : List (GroupTask ν)) :
      st.failures ≤ (rest.foldl step st).failures := by
    induction rest generalizing st with
    | nil => exact le_rfl
    | cons task rest ih => exact (hle st task).trans (ih _)
  induction rest generalizing done st with
  | nil => exact h
  | cons task rest ih =>
    have hfirst : (step st task).failures = st.failures :=
      le_antisymm (hok ▸ hmono _ rest) (hle st task)
    obtain ⟨hnew, -⟩ := nodup_cons.mp hnodup
    have hnew (task' : GroupTask ν) (h' : task' ∈ done) : task.name ≠ task'.name :=
      fun heq => hnew (heq ▸ mem_map_of_mem (mem_append_right _ h'))
    have htask := htasks task (.head _)
    have hdone (task' : GroupTask ν) (h' : task' ∈ done) : task' ∈ groupTasks w.store :=
      htasks task' (mem_append_right _ h')
    have hvisited : Visited env a w (task :: done) (step st task) := by
      rcases hstep with rfl | rfl
      · exact h.visit hnew htask hlinks hdone hfirst
      · exact h.forget.visit hnew htask hlinks hdone hfirst
    have hperm : (rest ++ task :: done).Perm (task :: rest ++ done) := perm_middle
    rw [reverse_cons, append_assoc]
    refine ih hvisited (fun task' h' => htasks task' (hperm.mem_iff.mp h')) ?_
      (hok.trans hfirst.symm)
    exact (hperm.map _).nodup_iff.mpr hnodup

/-- What is stored does not depend on the order of the visits. -/
lemma sameMembership {done' : List (GroupTask ν)} {st' : PassState ν}
    (h : Visited env a w done st) (h' : Visited env a w done' st')
    (hmem : ∀ task, task ∈ done ↔ task ∈ done') :
    SameMembership st.world.store st'.world.store := by
  have hname (name : String) : (∃ task ∈ done, name = task.name) ∨
      ∀ task ∈ done, name ≠ task.name := by
    by_cases hname : ∃ task ∈ done, name = task.name
    · exact .inl hname
    · exact .inr fun task htask heq => hname ⟨task, htask, heq⟩
  constructor <;> intro name <;> rcases hname name with ⟨task, htask, rfl⟩ | hnew
  · rw [h.members task htask, h'.members task ((hmem task).mp htask)]
  · rw [(h.untouched name hnew).1,
      (h'.untouched name fun task htask => hnew task ((hmem task).mpr htask)).1]
  · rw [h.sticky task htask, h'.sticky task ((hmem task).mp htask)]
  · rw [(h.untouched name hnew).2.1,
      (h'.untouched name fun task htask => hnew task ((hmem task).mpr htask)).2.1]

end Visited

/-- A phase in which no call fails visits every group. -/
lemma visited_of_phase {step : PassState ν → GroupTask ν → PassState ν}
    (hstep : step = PassState.visit env ∨ step = PassState.visitAlone env)
    (hlinks : w.store.OneLineLinks) {rt : Go.Runtime}
    (hok : ((rt.mapOrder 1 (groupTasks w.store)).foldl step
      { world := w, schedules := a }).failures = 0) :
    ∃ done, Visited env a w done ((rt.mapOrder 1 (groupTasks w.store)).foldl step
      { world := w, schedules := a }) ∧ ∀ task, task ∈ done ↔ task ∈ groupTasks w.store := by
  have hperm := rt.mapOrder_perm 1 (groupTasks w.store)
  have hnodup : ((groupTasks w.store).map GroupTask.name).Nodup := by
    rw [groupTasks, map_map]
    exact (map_id _).symm ▸ w.store.nodup_getOutbounds
  refine ⟨_, (Visited.start env a w).foldl hstep hlinks ?_ ?_ hok, fun task => ?_⟩
  · intro task htask
    rw [append_nil] at htask
    exact hperm.mem_iff.mp htask
  · rw [append_nil]
    exact (hperm.map _).nodup_iff.mpr hnodup
  · rw [append_nil, mem_reverse, hperm.mem_iff]

/-- Neither the order of the groups nor the shared cache changes what a phase stores, if no call
fails and no link has a line break. -/
theorem sameMembership_of_groupPhase (hlinks : w.store.OneLineLinks) {rt : Go.Runtime}
    (hok : (groupPhase env rt w a).failures = 0) :
    (∀ rt' : Go.Runtime, (groupPhase env rt' w a).failures = 0 →
      SameMembership (groupPhase env rt w a).world.store (groupPhase env rt' w a).world.store) ∧
    (∀ rt' : Go.Runtime, (separatePhase env rt' w a).failures = 0 →
      SameMembership (groupPhase env rt w a).world.store
        (separatePhase env rt' w a).world.store) := by
  obtain ⟨done, hvisited, hdone⟩ := visited_of_phase (.inl rfl) hlinks hok
  refine ⟨fun rt' hok' => ?_, fun rt' hok' => ?_⟩
  · obtain ⟨done', hvisited', hdone'⟩ := visited_of_phase (.inl rfl) hlinks hok'
    exact hvisited.sameMembership hvisited' fun task => (hdone task).trans (hdone' task).symm
  · obtain ⟨done', hvisited', hdone'⟩ := visited_of_phase (.inr rfl) hlinks hok'
    exact hvisited.sameMembership hvisited' fun task => (hdone task).trans (hdone' task).symm

end Phase

/-! ### Runs -/

private lemma notMem_backup : "" ∉ ["backup"] := by decide

/-- Two groups that share one node. -/
def sharedWorld : World SOCKS where
  store :=
    { servers := [{ serverObj := { name := "a", server := "h.example", port := 1080 } }]
      outboundNames := ["backup"]
      outboundNames_ne_empty := notMem_backup
      outboundSetting := fun _ => some { defaultOutboundSetting with autoAdd := true } }

/-- The node answers, and all checks are over at one time. -/
def answeringEnv (looked : String → ℤ) (finished : ℤ) : PassEnv where
  parseURL := parseProbeURL
  answers _ _ := true
  looked := looked
  finished _ := finished

theorem leads_sharedWorld :
    (automationSystem SOCKS (answeringEnv (fun _ => 0) 0).parseURL).Leads
      { world := sharedWorld, worker := .readGroups }
      ((groupPhase (answeringEnv (fun _ => 0) 0) .inOrder sharedWorld {}).leave
        { world := sharedWorld, worker := .readGroups }) :=
  leads_groupPhase (s := { world := sharedWorld, worker := .readGroups }) rfl rfl rfl nofun .inOrder

/-- Both orders give both groups the node. -/
theorem sameMembership_sharedWorld :
    SameMembership (groupPhase (answeringEnv (fun _ => 0) 0) .inOrder sharedWorld {}).world.store
        (separatePhase (answeringEnv (fun _ => 0) 0) .reversed sharedWorld {}).world.store ∧
      (groupPhase (answeringEnv (fun _ => 0) 0) .inOrder sharedWorld {}).world.store.members "backup" =
        [⟨.server, 1, 0, "backup"⟩] := by
  have hlinks : sharedWorld.store.OneLineLinks := by
    constructor <;> decide +kernel
  exact ⟨(sameMembership_of_groupPhase hlinks (by decide +kernel)).2 .reversed (by decide +kernel),
    by decide +kernel⟩

/-- A node whose link has two lines and one whose link is the second of them, in two groups. The
probe URL of the second group ends with the first line. -/
def twoLineWorld : World AnyTLS where
  store :=
    { servers :=
        [{ serverObj := { server := "h", port := 1, link := "anytls://p@h:1#x\nanytls://p@h:2" } },
          { serverObj := { server := "h", port := 2, link := "anytls://p@h:2" } }]
      outboundNames := ["backup"]
      outboundNames_ne_empty := notMem_backup
      outboundSetting := fun name => some
        { defaultOutboundSetting with
          autoAdd := true
          probeURL :=
            if name = "backup" then "http://h/#a\nanytls://p@h:1#x" else "http://h/#a" } }

/-- The nodes answer the probes of the first group only. -/
def firstOnlyEnv : PassEnv where
  parseURL _ := some ⟨"http", "h"⟩
  answers _ probeURL := probeURL = "http://h/#a"
  looked _ := 0
  finished _ := 0

/-- The check of the first group is due at 100. -/
def dueSchedules : Automation where
  groups := (groupTasks sharedWorld.store).take 1 |>.map fun task =>
    (task.name, { signature := automaticGroupSignature task.setting task.candidates
                  next := some 100 })

/-- With two lines in a link, the second group takes over an answer that was given to the first
one. And a group whose check becomes due during the phase is checked in one order and not in the
other: at 99 it is not due, at 101, after the check of the second group, it is. -/
theorem not_sameMembership_groupPhase :
    (groupPhase firstOnlyEnv .inOrder twoLineWorld {}).failures = 0 ∧
      (separatePhase firstOnlyEnv .inOrder twoLineWorld {}).failures = 0 ∧
      ¬SameMembership (groupPhase firstOnlyEnv .inOrder twoLineWorld {}).world.store
        (separatePhase firstOnlyEnv .inOrder twoLineWorld {}).world.store ∧
      (groupPhase (answeringEnv (fun _ => 99) 101) .inOrder sharedWorld dueSchedules).failures = 0 ∧
      (groupPhase (answeringEnv (fun name => if name = "backup" then 99 else 101) 101)
        .reversed sharedWorld dueSchedules).failures = 0 ∧
      ¬SameMembership
        (groupPhase (answeringEnv (fun _ => 99) 101) .inOrder sharedWorld dueSchedules).world.store
        (groupPhase (answeringEnv (fun name => if name = "backup" then 99 else 101) 101)
          .reversed sharedWorld dueSchedules).world.store := by
  refine ⟨by decide +kernel, by decide +kernel, fun h => ?_, by decide +kernel, by decide +kernel,
    fun h => ?_⟩
  · exact absurd (h.members "backup") (by decide +kernel)
  · exact absurd (h.members "proxy") (by decide +kernel)

end V2rayA
