import V2rayA.Service.GroupEdit

/-!
# What the worker applies to a group

The locked section of `processGroup` reads the setting and the candidates of the group again and
goes on only if their signature is the one that was probed.

* `same_of_signature`: equal signatures mean the same references and share links, in order.
* `applyMembership_eq`: the section is one of two calls, or none.
* `GroupCall.run_ok`: what a call that succeeds leaves in the store.
-/

namespace V2rayA

open List

variable {ν : Type} [ServerObj ν]

/-! ### Candidates are identified by their signature -/

/-- Two candidates stand for the same position in the catalog and have the same share link. -/
structure GroupCandidate.Same (c c' : GroupCandidate ν) : Prop where
  type : c.ref.type = c'.ref.type
  id : c.ref.id = c'.ref.id
  sub : c.ref.sub = c'.ref.sub
  link : exportToURL c.node = exportToURL c'.node

namespace GroupCandidate

/-- The candidate for the server at a position. -/
def ofServer (raw : ServerRaw ν) (index : ℕ) : GroupCandidate ν where
  ref := ⟨.server, index + 1, 0, ""⟩
  node := raw.serverObj
  identity := s!"server/{index}/" ++ exportToURL raw.serverObj

/-- The candidate for the node at a position in a subscription. -/
def ofSubscription (databaseID : ℤ) (raw : ServerRaw ν) (subIndex nodeIndex : ℕ) :
    GroupCandidate ν where
  ref := ⟨.subscriptionServer, nodeIndex + 1, subIndex, ""⟩
  node := raw.serverObj
  identity := s!"subscription/{databaseID}/{subIndex}/{nodeIndex}/" ++ exportToURL raw.serverObj

/-- The candidate for a member. -/
def ofMember (ref : NodeRef) (located : ServerRaw ν) : GroupCandidate ν where
  ref := ref
  node := located.serverObj
  identity := ref.type.text ++ s!"/{ref.sub}/{ref.id}/" ++ exportToURL located.serverObj

lemma toList_identity_ofServer (raw : ServerRaw ν) (index : ℕ) :
    (ofServer raw index).identity.toList =
      "server".toList ++ '/' :: ((toString index).toList ++
        '/' :: (exportToURL raw.serverObj).toList) := by
  change ("server/" ++ toString index ++ "/" ++ exportToURL raw.serverObj).toList = _
  simp only [String.toList_append, append_assoc]
  rfl

lemma toList_identity_ofSubscription (databaseID : ℤ) (raw : ServerRaw ν)
    (subIndex nodeIndex : ℕ) :
    (ofSubscription databaseID raw subIndex nodeIndex).identity.toList =
      "subscription".toList ++ '/' :: ((toString databaseID).toList ++
        '/' :: ((toString subIndex).toList ++ '/' :: ((toString nodeIndex).toList ++
          '/' :: (exportToURL raw.serverObj).toList))) := by
  change ("subscription/" ++ toString databaseID ++ "/" ++ toString subIndex ++ "/" ++
    toString nodeIndex ++ "/" ++ exportToURL raw.serverObj).toList = _
  simp only [String.toList_append, append_assoc]
  rfl

lemma toList_identity_ofMember (ref : NodeRef) (located : ServerRaw ν) :
    (ofMember ref located).identity.toList =
      ref.type.text.toList ++ '/' :: ((toString ref.sub).toList ++ '/' ::
        ((toString ref.id).toList ++ '/' :: (exportToURL located.serverObj).toList)) := by
  change (ref.type.text ++ ("/" ++ toString ref.sub ++ "/" ++ toString ref.id ++ "/") ++
    exportToURL located.serverObj).toList = _
  simp only [String.toList_append, append_assoc]
  rfl

/-- The kinds of candidates of an automatic group. -/
inductive FromCatalog : GroupCandidate ν → Prop
  | server (raw : ServerRaw ν) (index : ℕ) : FromCatalog (ofServer raw index)
  | subscription (databaseID : ℤ) (raw : ServerRaw ν) (subIndex nodeIndex : ℕ) :
      FromCatalog (ofSubscription databaseID raw subIndex nodeIndex)

/-- Candidates from the catalog are the same if their identities are. -/
lemma FromCatalog.same {c c' : GroupCandidate ν} (h : c.FromCatalog) (h' : c'.FromCatalog)
    (hid : c.identity = c'.identity) : c.Same c' := by
  have hdigit (n : ℕ) : '/' ∉ (toString n).toList := Go.notMem_toString_nat (by decide) n
  have hint (n : ℤ) : '/' ∉ (toString n).toList := Go.notMem_toString_int (by decide) (by decide) n
  have hlist := congrArg String.toList hid
  cases h with
  | server raw index =>
    cases h' with
    | server raw' index' =>
      rw [toList_identity_ofServer, toList_identity_ofServer,
        append_sep_inj (by decide) (by decide), append_sep_inj (hdigit _) (hdigit _)] at hlist
      obtain ⟨-, hindex, hlink⟩ := hlist
      obtain rfl := Go.toList_toString_nat_inj hindex
      exact ⟨rfl, rfl, rfl, String.toList_injective hlink⟩
    | subscription databaseID' raw' subIndex' nodeIndex' =>
      rw [toList_identity_ofServer, toList_identity_ofSubscription,
        append_sep_inj (by decide) (by decide)] at hlist
      exact absurd hlist.1 (by decide)
  | subscription databaseID raw subIndex nodeIndex =>
    cases h' with
    | server raw' index' =>
      rw [toList_identity_ofServer, toList_identity_ofSubscription,
        append_sep_inj (by decide) (by decide)] at hlist
      exact absurd hlist.1 (by decide)
    | subscription databaseID' raw' subIndex' nodeIndex' =>
      rw [toList_identity_ofSubscription, toList_identity_ofSubscription,
        append_sep_inj (by decide) (by decide), append_sep_inj (hint _) (hint _),
        append_sep_inj (hdigit _) (hdigit _), append_sep_inj (hdigit _) (hdigit _)] at hlist
      obtain ⟨-, -, hsub, hnode, hlink⟩ := hlist
      obtain rfl := Go.toList_toString_nat_inj hsub
      obtain rfl := Go.toList_toString_nat_inj hnode
      exact ⟨rfl, rfl, rfl, String.toList_injective hlink⟩

/-- Members are the same if their identities are. -/
lemma same_of_identity_ofMember {ref ref' : NodeRef} {located located' : ServerRaw ν}
    (htype : ref.type = .server ∨ ref.type = .subscriptionServer)
    (htype' : ref'.type = .server ∨ ref'.type = .subscriptionServer)
    (hid : (ofMember ref located).identity = (ofMember ref' located').identity) :
    (ofMember ref located).Same (ofMember ref' located') := by
  have hint (n : ℤ) : '/' ∉ (toString n).toList := Go.notMem_toString_int (by decide) (by decide) n
  have htext {t : TouchType} (h : t = .server ∨ t = .subscriptionServer) :
      '/' ∉ t.text.toList := by
    rcases h with rfl | rfl <;> decide
  have hlist := congrArg String.toList hid
  rw [toList_identity_ofMember, toList_identity_ofMember,
    append_sep_inj (htext htype) (htext htype'), append_sep_inj (hint _) (hint _),
    append_sep_inj (hint _) (hint _)] at hlist
  obtain ⟨hkind, hsub, hnode, hlink⟩ := hlist
  refine ⟨?_, Go.toList_toString_int_inj hnode, Go.toList_toString_int_inj hsub,
    String.toList_injective hlink⟩
  change ref.type = ref'.type
  rcases htype with htype | htype <;> rcases htype' with htype' | htype' <;>
    rw [htype, htype'] at hkind ⊢ <;> exact absurd hkind (by decide)

end GroupCandidate

section Candidates

variable {s s' : Store ν} {name : String} {c : GroupCandidate ν}

/-- The candidates of an automatic group stand for the nodes of the catalog. -/
lemma fromCatalog_of_mem (h : c ∈ automaticGroupCandidates s) : c.FromCatalog := by
  rcases mem_append.mp h with h | h
  · obtain ⟨⟨raw, index⟩, -, rfl⟩ := mem_map.mp h
    exact .server raw index
  · obtain ⟨⟨sub, subIndex⟩, -, h⟩ := mem_flatMap.mp h
    obtain ⟨⟨raw, nodeIndex⟩, -, rfl⟩ := mem_map.mp h
    exact .subscription sub.databaseID raw subIndex nodeIndex

/-- The candidates of a group that is not automatic are its members that resolve. -/
lemma mem_connectedGroupCandidates :
    c ∈ connectedGroupCandidates s name ↔
      ∃ ref ∈ (s.getConnectedServersByOutbound name).getD [], ∃ located,
        s.locate ref = .ok located ∧ c = .ofMember ref located := by
  unfold connectedGroupCandidates
  rw [mem_filterMap]
  refine exists_congr fun ref => and_congr_right fun _ => ?_
  cases s.locate ref with
  | error e => simp
  | ok located => simp [GroupCandidate.ofMember, eq_comm]

omit [ServerObj ν] in
/-- Only references to servers are located. -/
lemma type_of_locate {ref : NodeRef} {located : ServerRaw ν} (h : s.locate ref = .ok located) :
    ref.type = .server ∨ ref.type = .subscriptionServer := by
  rcases s.cases_of_locate h with ⟨_, htype, _⟩ | ⟨_, _, _, htype, _⟩
  · exact .inl htype
  · exact .inr htype

/-- Candidates with one signature are the same, in order. -/
lemma same_of_signature {setting setting' : OutboundSetting}
    {candidates candidates' : List (GroupCandidate ν)}
    (hsnapshot : candidates' = if setting'.autoAdd then automaticGroupCandidates s'
      else connectedGroupCandidates s' name)
    (hcurrent : candidates = if setting.autoAdd then automaticGroupCandidates s
      else connectedGroupCandidates s name)
    (h : automaticGroupSignature setting candidates = automaticGroupSignature setting' candidates') :
    List.Forall₂ GroupCandidate.Same candidates candidates' := by
  have hauto : setting.autoAdd = setting'.autoAdd := congrArg GroupSignature.autoAdd h
  have hids := congrArg GroupSignature.candidates h
  refine (forall₂_of_map_eq_map hids).imp fun {c c'} ⟨hc, hc', hid⟩ => ?_
  rw [hcurrent, hauto] at hc
  rw [hsnapshot] at hc'
  split_ifs at hc hc'
  · exact (fromCatalog_of_mem hc).same (fromCatalog_of_mem hc') hid
  · obtain ⟨ref, -, located, hloc, rfl⟩ := mem_connectedGroupCandidates.mp hc
    obtain ⟨ref', -, located', hloc', rfl⟩ := mem_connectedGroupCandidates.mp hc'
    exact GroupCandidate.same_of_identity_ofMember (type_of_locate hloc) (type_of_locate hloc') hid

end Candidates

/-! ### Calls -/

/-- The candidates that have answered. -/
def GroupTask.answering (task : GroupTask ν) (results : List Bool) : List (GroupCandidate ν) :=
  ((task.candidates.zip results).filter Prod.snd).map Prod.fst

/-- The references of the candidates that have answered. -/
def GroupTask.members (task : GroupTask ν) (results : List Bool) : List NodeRef :=
  (task.answering results).map fun candidate => { candidate.ref with outbound := task.name }

/-- The fingerprints of the candidates that have answered. -/
def GroupTask.healthy (task : GroupTask ν) (fingerprint : String → String)
    (results : List Bool) : List String :=
  (task.answering results).map fun candidate => fingerprint (exportToURL candidate.node)

/-- The calls by which `processGroup` changes a group. -/
inductive GroupCall
  /-- `applyGroup`, which replaces the members. -/
  | applyGroup (name : String) (members : List NodeRef)
  /-- `applyState`, which stores the setting and replaces the members if they are managed. -/
  | applyState (name : String) (next : OutboundSetting) (members : List NodeRef)
      (replaceMembers : Bool)

namespace GroupCall

/-- The group of a call. -/
def name : GroupCall → String
  | applyGroup name _ => name
  | applyState name _ _ _ => name

/-- The members that a call is given. -/
def members : GroupCall → List NodeRef
  | applyGroup _ members => members
  | applyState _ _ members _ => members

/-- What a call does. -/
def run : GroupCall → Go.Op (World ν)
  | applyGroup name members => replaceOutboundConnections name members true
  | applyState name next members replaceMembers =>
    applyManagedGroupState name next members replaceMembers

end GroupCall

/-- The call of the locked section of `processGroup`, or its error. -/
def membershipCall (cancelled : Bool) (task : GroupTask ν) (results : List Bool) (w : World ν) :
    Except Go.Error (Option GroupCall) :=
  let members := task.members results
  if cancelled then .error { text := "context canceled" }
  else
    let setting := w.store.getOutboundSetting task.name
    if automaticGroupSignature setting (currentCandidates w.store task.name) ≠
        automaticGroupSignature task.setting task.candidates then
      .error { text := "catalog or group setting changed during membership check" }
    else
      let stickyCurrent := nextSticky setting (task.healthy w.nodeFingerprint results)
      let current := (w.store.getConnectedServersByOutbound task.name).getD []
      let membershipChanged := setting.autoAdd ∧ ¬sameMembers current members
      if stickyCurrent ≠ setting.stickyCurrent ∨
          (membershipChanged ∧ setting.type = .keepCurrent) then
        .ok (some (.applyState task.name { setting with stickyCurrent } members setting.autoAdd))
      else if membershipChanged then .ok (some (.applyGroup task.name members))
      else .ok none

/-- The locked section makes its call and nothing else. -/
lemma applyMembership_eq (cancelled : Bool) (task : GroupTask ν) (results : List Bool)
    (w : World ν) :
    applyMembership cancelled task results w =
      match membershipCall cancelled task results w with
      | .error e => (some e, w)
      | .ok none => (none, w)
      | .ok (some call) => call.run w := by
  unfold applyMembership membershipCall GroupTask.healthy GroupTask.members GroupTask.answering
  dsimp only
  split_ifs <;> rfl

section Call

variable {cancelled : Bool} {task : GroupTask ν} {results : List Bool} {w : World ν}

/-- A section that does not fail has found the signature that was probed. -/
lemma signature_of_membershipCall {call : Option GroupCall}
    (h : membershipCall cancelled task results w = .ok call) :
    automaticGroupSignature (w.store.getOutboundSetting task.name)
        (currentCandidates w.store task.name) =
      automaticGroupSignature task.setting task.candidates := by
  unfold membershipCall at h
  by_contra hne
  simp only [hne, ne_eq] at h
  split at h <;> simp at h

/-- What a call is given. -/
lemma membershipCall_some {call : GroupCall}
    (h : membershipCall cancelled task results w = .ok (some call)) :
    (call = .applyGroup task.name (task.members results) ∧
      (w.store.getOutboundSetting task.name).autoAdd) ∨
    call = .applyState task.name
      { w.store.getOutboundSetting task.name with
        stickyCurrent := nextSticky (w.store.getOutboundSetting task.name)
          (task.healthy w.nodeFingerprint results) }
      (task.members results) (w.store.getOutboundSetting task.name).autoAdd := by
  unfold membershipCall at h
  dsimp only at h
  split_ifs at h with _ _ _ hchanged <;>
    simp at h
  · exact .inr h.symm
  · exact .inl ⟨h.symm, hchanged.1⟩

/-- The member that a group stays with changes only if the group looks for one and does not find
it among those that have answered. -/
lemma nextSticky_cases (setting : OutboundSetting) (available : List String) :
    nextSticky setting available = setting.stickyCurrent ∨
      (setting.type = .keepCurrent ∧ setting.selected = "" ∧
        setting.stickyCurrent ∉ available ∧
        nextSticky setting available = available.head?.getD "") := by
  unfold nextSticky
  split_ifs with h
  · exact .inr ⟨h.1, h.2.1, h.2.2, rfl⟩
  · exact .inl rfl

end Call

/-! ### What a call leaves -/

section Effect

variable {outbound : String} {members : List NodeRef} {w w' : World ν}

/-- A reference that a replacement stores as it is. -/
structure NodeRef.Touchable (r : NodeRef) (outbound : String) : Prop where
  outbound : r.outbound = outbound
  id : 0 < r.id
  type : (r.type = .server ∧ r.sub = 0) ∨ (r.type = .subscriptionServer ∧ 0 ≤ r.sub)

omit [ServerObj ν] in
lemma normalizeTouch_of_touchable {acc : List NodeRef} {r : NodeRef} (i : ℕ)
    (hacc : ∀ v ∈ acc, v.outbound = outbound) (hr : r.Touchable outbound) (hnew : r ∉ acc) :
    normalizeTouch outbound acc (r, i) = .ok (acc ++ [r]) := by
  have hadd : addTouch outbound acc r r.sub = acc ++ [r] := by
    have hself : { r with outbound } = r := by rw [← hr.outbound]
    have habsent : ¬(acc.any fun v => v.type = r.type ∧ v.id = r.id ∧ v.sub = r.sub) = true := by
      simp only [any_eq_true, decide_eq_true_eq, not_exists, not_and]
      rintro v hv htype hid hsub
      have hsame : v = r := by
        rw [NodeRef.mk.injEq]
        exact ⟨htype, hid, hsub, (hacc _ hv).trans hr.outbound.symm⟩
      exact hnew (hsame ▸ hv)
    rw [addTouch, if_neg habsent, hself]
  have hid : ¬r.id ≤ 0 := not_le.mpr hr.id
  unfold normalizeTouch
  rcases hr.type with ⟨htype, hsub⟩ | ⟨htype, hsub⟩
  · simp only [hid, if_false, htype]
    rw [← hsub, hadd]
  · simp only [hid, if_false, htype, not_lt.mpr hsub]
    rw [hadd]

omit [ServerObj ν] in
/-- A replacement stores distinct references to its own group as they are. -/
lemma normalizeTouches_of_touchable (hmembers : ∀ r ∈ members, r.Touchable outbound)
    (hnodup : members.Nodup) : normalizeTouches outbound members = .ok members := by
  -- Induction on the rest of the touches, after those that have been normalized.
  suffices ∀ (acc : List NodeRef) (k : ℕ), (acc ++ members).Nodup →
      (∀ v ∈ acc, v.outbound = outbound) →
      (members.zipIdx k).foldlM (normalizeTouch outbound) acc = .ok (acc ++ members) from
    this [] 0 hnodup (by simp)
  clear hnodup
  induction members with
  | nil => intro acc k _ _; simp [pure, Except.pure]
  | cons r members ih =>
    intro acc k hnodup hacc
    have hr := hmembers r mem_cons_self
    have hnew : r ∉ acc := fun h =>
      (nodup_append.mp hnodup).2.2 r h r mem_cons_self rfl
    rw [zipIdx_cons, foldlM_cons, normalizeTouch_of_touchable k hacc hr hnew]
    have hrest := ih (fun v hv => hmembers v (mem_cons_of_mem _ hv)) (acc ++ [r]) (k + 1)
      (by simpa using hnodup)
      (forall_mem_append.mpr ⟨hacc, forall_mem_singleton.mpr hr.outbound⟩)
    simpa [bind, Except.bind] using hrest

/-- A replacement that succeeds has stored its references. -/
lemma replaceOutboundConnections_ok (hne : outbound ≠ "")
    (hmembers : ∀ r ∈ members, r.Touchable outbound) (hnodup : members.Nodup) {managed : Bool}
    (h : replaceOutboundConnections outbound members managed w = (none, w')) :
    w'.store = replaceConnects outbound members w.store ∧
      w'.nodeFingerprint = w.nodeFingerprint := by
  unfold replaceOutboundConnections at h
  dsimp only at h
  rw [if_neg hne, normalizeTouches_of_touchable hmembers hnodup] at h
  split at h
  · split at h <;> simp at h
  · dsimp only at h
    split at h
    · rcases hupdate : World.updateGroupConfig
        { w with store := replaceConnects outbound members w.store } with ⟨_ | e, w₁⟩
      · rw [hupdate] at h
        obtain rfl : w₁ = w' := by simpa using h
        exact ⟨World.store_of_updateConfig hupdate,
          by simpa using (congrArg (fun p => p.2.nodeFingerprint) hupdate).symm⟩
      · simp [hupdate] at h
    · obtain rfl := (Prod.mk.inj h).2
      exact ⟨rfl, rfl⟩

/-- The store with the state of a group. -/
def Store.withGroupState (s : Store ν) (outbound : String) (next : OutboundSetting)
    (members : List NodeRef) (replaceMembers : Bool) : Store ν :=
  { (if replaceMembers then
      replaceConnects outbound (members.map fun member => { member with outbound }) s else s) with
    outboundSetting := Function.update s.outboundSetting outbound (some next) }

variable {next : OutboundSetting} {replaceMembers : Bool}

omit [ServerObj ν] in
lemma members_withGroupState {s : Store ν} (hne : outbound ≠ "")
    (hmembers : ∀ r ∈ members, r.outbound = outbound) (out : String) :
    (s.withGroupState outbound next members replaceMembers).members out =
      if replaceMembers ∧ out = outbound then members else s.members out := by
  have hself : (members.map fun member => { member with outbound }) = members := by
    refine (map_congr_left fun r hr => ?_).trans (map_id members)
    rw [← hmembers r hr]
    rfl
  unfold Store.withGroupState
  rw [hself]
  cases replaceMembers with
  | false => simp [Store.members]
  | true =>
    simp
    exact members_replaceConnects hne hmembers out

omit [ServerObj ν] in
lemma storeGroupState_ok {s s' : Store ν}
    (h : storeGroupState outbound next members replaceMembers s = (none, s')) :
    s' = s.withGroupState outbound next members replaceMembers := by
  unfold storeGroupState at h
  dsimp only at h
  split at h
  · simp at h
  · rename_i hset
    obtain rfl := (Prod.mk.inj h).2
    rw [Store.setOutboundSetting_eq_ok hset]
    unfold Store.withGroupState
    cases replaceMembers with
    | false => rfl
    | true =>
      rw [if_pos rfl]
      unfold replaceConnects
      split <;> rfl

/-- A call of `applyManagedGroupState` that succeeds has stored the members and the setting. -/
lemma applyManagedGroupState_ok
    (h : applyManagedGroupState outbound next members replaceMembers w = (none, w')) :
    w'.store = w.store.withGroupState outbound next members replaceMembers ∧
      w'.nodeFingerprint = w.nodeFingerprint := by
  unfold applyManagedGroupState applyGroupConfig at h
  rcases hstore : storeGroupState outbound next members replaceMembers w.store with ⟨_ | e, store⟩
  · have hwritten := storeGroupState_ok hstore
    simp only [hstore] at h
    split at h
    · rcases hupdate : World.updateGroupConfig { w with store } with ⟨_ | e, w₁⟩
      · rw [hupdate] at h
        obtain rfl : w₁ = w' := by simpa using h
        rw [← hwritten]
        exact ⟨World.store_of_updateConfig hupdate,
          by simpa using (congrArg (fun p => p.2.nodeFingerprint) hupdate).symm⟩
      · simp only [hupdate] at h
        split at h
        · simp at h
        · split at h <;> simp at h
    · obtain rfl := (Prod.mk.inj h).2
      exact ⟨hwritten, rfl⟩
  · simp [hstore] at h

/-! ### The members of automatic groups -/

omit [ServerObj ν] in
private lemma pairwise_zipIdx {α : Type} (l : List α) :
    l.zipIdx.Pairwise fun p q => p.2 < q.2 := by
  rw [← pairwise_map, zipIdx_map_snd]
  exact pairwise_lt_range'

/-- Each node of the catalog is one candidate. -/
lemma nodup_ref_automaticGroupCandidates (s : Store ν) :
    ((automaticGroupCandidates s).map GroupCandidate.ref).Nodup := by
  unfold automaticGroupCandidates
  rw [map_append, map_map, map_flatMap]
  refine nodup_append.mpr ⟨?_, nodup_flatMap.mpr ⟨?_, ?_⟩, ?_⟩
  · refine pairwise_map.mpr ((pairwise_zipIdx _).imp fun {p q} hlt heq => ?_)
    simp only [Function.comp, NodeRef.mk.injEq] at heq
    omega
  · rintro ⟨sub, i⟩ -
    rw [map_map]
    refine pairwise_map.mpr ((pairwise_zipIdx _).imp fun {p q} hlt heq => ?_)
    simp only [Function.comp, NodeRef.mk.injEq] at heq
    omega
  · refine (pairwise_zipIdx _).imp fun {p q} hlt => ?_
    intro r hr hr'
    simp only [map_map, mem_map] at hr hr'
    obtain ⟨_, _, rfl⟩ := hr
    obtain ⟨_, _, heq⟩ := hr'
    simp at heq
    omega
  · intro r hr r' hr' heq
    simp only [map_map, mem_map, mem_flatMap] at hr hr'
    obtain ⟨_, _, rfl⟩ := hr
    obtain ⟨_, _, _, _, rfl⟩ := hr'
    simp at heq

variable {task : GroupTask ν} {results : List Bool}

omit [ServerObj ν] in
/-- The candidates that have answered are candidates, in order. -/
lemma answering_sublist : (task.answering results).Sublist task.candidates := by
  refine (filter_sublist.map Prod.fst).trans ?_
  generalize task.candidates = l
  induction l generalizing results with
  | nil => simp
  | cons c l ih =>
    cases results with
    | nil => simp
    | cons _ results => simpa using ih

/-- The members of an automatic group are references that are stored as they are. -/
lemma members_touchable {s : Store ν} (hauto : task.candidates = automaticGroupCandidates s)
    (results : List Bool) :
    (∀ r ∈ task.members results, r.Touchable task.name) ∧ (task.members results).Nodup := by
  have hsub : (task.answering results).Sublist (automaticGroupCandidates s) :=
    hauto ▸ answering_sublist
  constructor
  · intro r hr
    obtain ⟨c, hc, rfl⟩ := mem_map.mp hr
    cases fromCatalog_of_mem (hsub.subset hc) with
    | server raw index => exact ⟨rfl, Int.natCast_succ_pos index, .inl ⟨rfl, rfl⟩⟩
    | subscription databaseID raw subIndex nodeIndex =>
      exact ⟨rfl, Int.natCast_succ_pos nodeIndex, .inr ⟨rfl, Int.natCast_nonneg subIndex⟩⟩
  · have hnodup := (hsub.map GroupCandidate.ref).nodup (nodup_ref_automaticGroupCandidates s)
    refine pairwise_map.mpr ((pairwise_map.mp hnodup).imp_of_mem ?_)
    intro c c' hc hc' hne heq
    have hout {c : GroupCandidate ν} (hc : c ∈ task.answering results) : c.ref.outbound = "" := by
      cases fromCatalog_of_mem (hsub.subset hc) <;> rfl
    refine hne ?_
    have hc := hout hc
    have hc' := hout hc'
    generalize c.ref = r at *
    generalize c'.ref = r' at *
    obtain ⟨_, _, _, _⟩ := r
    obtain ⟨_, _, _, _⟩ := r'
    simp_all

end Effect

end V2rayA
