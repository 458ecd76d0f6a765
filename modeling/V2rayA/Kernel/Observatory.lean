import V2rayA.Kernel.Template.Passes

/-!
# What the observatory reports

The core reports the state of the outbounds that the observer of a group watches, by their tags.
The producer looks a tag up among the tags of the connections that the selection kept, and takes
the reference at that position of all connections.

* `RoutedSpec.remembered`: a tag stands for the last connection of its node.
* `attributed_iff`: the reports name the right references if and only if there, among all
  connections, the right references stand.
* `not_attributed_pinned`: they do not when a group before is pinned to one of its nodes.
-/

namespace V2rayA

open List OutboundObject

variable {ν : Type}

/-! ### The producer -/

/-- What the core reports about one outbound. -/
structure Observed where
  alive : Bool := true
  delay : ℤ := 0
  outboundTag : String
  lastSeenTime : ℤ := 0
  lastTryTime : ℤ := 0
  deriving DecidableEq, Repr

/-- What is published about one outbound. -/
structure OutboundStatus extends Observed where
  which : NodeRef
  deriving DecidableEq, Repr

/-- The position that is remembered for each tag. -/
def tag2WhichIndex (t : Template ν) : Go.Map String ℕ :=
  if t.multiObservatory.isSome then .ofWrites t.outboundTags.zipIdx else []

/-- The statuses in the message for a group. -/
def outboundStatus (index : Go.Map String ℕ) (css : List NodeRef) (observed : List Observed) :
    List OutboundStatus :=
  observed.filterMap fun o =>
    ((index.get? o.outboundTag).bind fun i => css[i]?).map fun which => { o with which }

/-- One round of `ObservatoryProducer`: the messages for the responses of the groups. -/
def observatoryMessages (t : Template ν) (css : List NodeRef)
    (resps : List (String × List Observed)) : List (String × List OutboundStatus) :=
  resps.map fun r => (r.1, outboundStatus (tag2WhichIndex t) css r.2)

/-- The responses are about outbounds that the observers of the groups watch. -/
def Template.Watches (t : Template ν) (resps : List (String × List Observed)) : Prop :=
  ∀ r ∈ resps, ∀ o ∈ r.2, ∃ item ∈ t.multiObservatory.getD [],
    item.tag = r.1 ∧ o.outboundTag ∈ item.subjectSelector

/-- A reference is to a connection of group `g` with the node that the tag was given to. -/
def Template.Attributes [ServerObj ν] (t : Template ν) (s : Store ν) (g tag : String)
    (w : NodeRef) : Prop :=
  w.outbound = g ∧ ∃ sr info, s.locate w = .ok sr ∧ t.serverInfoMap.get? tag = some info ∧
    exportToURL sr.serverObj = exportToURL info.info

/-- What is published about a group is about its own connections. -/
def Template.Attributed [ServerObj ν] (t : Template ν) (s : Store ν) : Prop :=
  ∀ resps, t.Watches resps → ∀ m ∈ observatoryMessages t s.getConnectedServers resps,
    ∀ status ∈ m.2, t.Attributes s m.1 status.outboundTag status.which

variable [Configurable ν] {env : TemplateEnv ν} {serverInfos : List (ServerInfo ν)}
  {mode : RulePortMode}

/-! ### The connections -/

/-- The connection at position `i` is one of several in its group, with a node of the link. -/
def ConnectsAt (serverInfos : List (ServerInfo ν)) (link : String) (i : ℕ) : Prop :=
  ∃ info, serverInfos[i]? = some info ∧ exportToURL info.info = link ∧
    1 < serverInfos.countP fun other => other.outboundName = info.outboundName

/-- A group with several nodes, for which no single outbound stands. -/
def IsBalancer (env : TemplateEnv ν) (serverInfos : List (ServerInfo ν)) (mode : RulePortMode)
    (g : String) : Prop :=
  (1 < serverInfos.countP fun info => info.outboundName = g) ∧ g ∉ ["direct", "block"] ∧
    (∀ o ∈ definedOutbounds env mode, o.tag ≠ g) ∧
    ∀ c, Contributed env (newServerData env serverInfos) c → ∀ o ∈ c.extraOutbounds, o.tag ≠ g

/-- At the position of the last connection of each node of an observed group, among the
connections that were kept, stands a reference of the group to the node, among all of them. -/
def Aligned (env : TemplateEnv ν) (serverInfos : List (ServerInfo ν)) (mode : RulePortMode) :
    Prop :=
  ∀ info ∈ serverInfos, IsBalancer env serverInfos mode info.outboundName →
    (env.store.getOutboundSetting info.outboundName).type.observed = true →
    ∀ i, ConnectsAt serverInfos (exportToURL info.info) i →
      (∀ j, ConnectsAt serverInfos (exportToURL info.info) j → j ≤ i) →
      ∀ w, env.store.getConnectedServers[i]? = some w → w.outbound = info.outboundName ∧
        ∃ sr, env.store.locate w = .ok sr ∧ exportToURL sr.serverObj = exportToURL info.info

/-! ### Balancers -/

lemma balanced_iff {p : ServerInfo ν × ℕ} : (newServerData env serverInfos).balanced p ↔
    1 < serverInfos.countP fun info => info.outboundName = p.1.outboundName := by
  rw [ServerData.balanced, decide_eq_true_eq, length_outboundName2ServerObjs]

lemma mem_selector {g tag : String} : tag ∈ (newServerData env serverInfos).selector g ↔
    ∃ node ∈ (newServerData env serverInfos).nodes, ∃ p ∈ node.infos, p.1.outboundName = g ∧
      groupWrapper (getName node.obj) = tag := by
  simp only [ServerData.selector, newServerData, serverObjsOf, mem_map, mem_flatMap,
    mem_filter, Go.Runtime.mem_mapOrder, decide_eq_true_eq]
  constructor
  · rintro ⟨_, ⟨node, hnode, p, ⟨hp, hname⟩, rfl⟩, htag⟩
    exact ⟨node, hnode, p, hp, hname, htag⟩
  · rintro ⟨node, hnode, p, hp, hname, htag⟩
    exact ⟨_, ⟨node, hnode, p, ⟨hp, hname⟩, rfl⟩, htag⟩

/-- A group with a connection, in terms of the nodes. -/
lemma exists_node_of_countP (env : TemplateEnv ν) {g : String}
    (h : 1 < serverInfos.countP fun info => info.outboundName = g) :
    ∃ node ∈ (newServerData env serverInfos).nodes, ∃ p ∈ node.infos, p.1.outboundName = g ∧
      (newServerData env serverInfos).balanced p := by
  obtain ⟨info, hinfo, hname⟩ := countP_pos_iff.mp (Nat.zero_lt_of_lt h)
  obtain ⟨node, hnode, i, hp⟩ := (linked_newServerData env serverInfos).exists_node_of_mem hinfo
  obtain rfl := of_decide_eq_true hname
  exact ⟨node, hnode, _, hp, rfl, balanced_iff.mpr h⟩

variable {setting : Setting} {t₀ t : Template ν} {g : String}

/-- The outbounds of the nodes, and of the groups without one. -/
def nodeOutbounds (env : TemplateEnv ν) (data : ServerData ν) (cs : List (Contribution ν)) :
    List OutboundObject :=
  env.store.getOutbounds.foldl (addBlackhole env data)
    ((env.runtime.sort (fun a b => a.weight < b.weight) cs).map Contribution.outbound)

/-- The outbounds that come after them. -/
def plainOutbounds (env : TemplateEnv ν) (cs : List (Contribution ν)) (mode : RulePortMode) :
    List OutboundObject :=
  [directOutbound, blackhole "block"] ++ cs.flatMap Contribution.extraOutbounds ++
    definedOutbounds env mode

section Names

variable {cs : List (Contribution ν)}

omit [Configurable ν] in
lemma mem_plainOutbounds {o : OutboundObject} :
    o ∈ plainOutbounds env cs mode ↔ o = directOutbound ∨ o = blackhole "block" ∨
      (∃ c ∈ cs, o ∈ c.extraOutbounds) ∨ o ∈ definedOutbounds env mode := by
  simp [plainOutbounds]

omit [Configurable ν] in
lemma resolvedOutbounds_append (data : ServerData ν) :
    resolvedOutbounds env data [] cs ++ definedOutbounds env mode =
      nodeOutbounds env data cs ++ plainOutbounds env cs mode := by
  simp [resolvedOutbounds, nodeOutbounds, plainOutbounds]

section

variable (hcs : contributions env (newServerData env serverInfos) = .ok cs)
include hcs

lemma balancers_plainOutbounds {o : OutboundObject}
    (ho : o ∈ plainOutbounds env cs mode) : o.balancers = [] := by
  rcases mem_plainOutbounds.mp ho with rfl | rfl | ⟨c, hc, ho⟩ | ho
  · rfl
  · rfl
  · exact (contributed_of_mem hcs hc).balancers_extraOutbounds o ho
  · exact balancers_definedOutbounds ho

/-- The later outbounds stand for their tags. -/
lemma outNames_plainOutbounds {isGroup : Bool}
    (hget : (outNames (plainOutbounds env cs mode)).get? g = some isGroup) :
    isGroup = false ∧ ∃ o ∈ plainOutbounds env cs mode, o.tag = g := by
  obtain ⟨o, ho, hname⟩ := exists_of_outNames hget
  rw [mem_names, balancers_plainOutbounds hcs ho] at hname
  cases isGroup with
  | true => simp at hname
  | false => exact ⟨rfl, o, ho, hname.2⟩

/-- A group with several nodes is a balancer, as far as the outbounds of the nodes go. -/
lemma outNames_nodeOutbounds :
    (outNames (nodeOutbounds env (newServerData env serverInfos) cs)).get? g = some true ↔
      1 < serverInfos.countP fun info => info.outboundName = g := by
  have hmem {o : OutboundObject} :
      o ∈ nodeOutbounds env (newServerData env serverInfos) cs ↔ (∃ c ∈ cs, c.outbound = o) ∨
        ∃ name ∈ env.store.getOutbounds, (env.store.getOutboundSetting name).FailClosed ∧
          (newServerData env serverInfos).outboundName2ServerObjs name = [] ∧
            o = blackhole name := by
    rw [nodeOutbounds, mem_foldl_addBlackhole]
    simp
  constructor
  · intro hget
    obtain ⟨o, ho, hgroup⟩ := mem_balancers_of_outNames hget
    rcases hmem.mp ho with ⟨c, hc, rfl⟩ | ⟨name, -, -, -, rfl⟩
    · obtain ⟨node, -, p, -, rfl, hbalanced, -⟩ :=
        (contributed_of_mem hcs hc).exists_of_mem_balancers hgroup
      exact balanced_iff.mp hbalanced
    · exact absurd hgroup not_mem_nil
  · intro hcount
    obtain ⟨node, hnode, p, hp, rfl, hbalanced⟩ := exists_node_of_countP env hcount
    obtain ⟨c, hc, -, hgroups, -⟩ := exists_sharedContribution hcs hnode hp hbalanced
    obtain ⟨isGroup, hget⟩ := exists_outNames_of_mem_balancers
      (hmem.mpr (.inl ⟨c, hc, rfl⟩)) (hgroups p hp hbalanced)
    cases isGroup with
    | true => exact hget
    | false =>
      -- Neither the outbound of another group nor a blackhole has the name.
      exfalso
      obtain ⟨o, ho, hname⟩ := exists_of_outNames hget
      obtain ⟨hplain, htag⟩ := mem_names.mp hname
      rcases hmem.mp ho with ⟨c', hc', rfl⟩ | ⟨name, -, -, hempty, rfl⟩
      · have hcontributed := contributed_of_mem hcs hc'
        obtain ⟨node', hnode', p', hp', hname', hbalanced'⟩ :=
          hcontributed.exists_of_balancers_eq_nil hplain
        rw [hcontributed.tag_outbound, ← hname'] at htag
        rw [← htag] at hcount
        have hbalanced : (newServerData env serverInfos).balanced p' = true :=
          balanced_iff.mpr hcount
        simp [hbalanced'] at hbalanced
      · obtain ⟨info, hinfo, hname'⟩ := countP_pos_iff.mp (Nat.zero_lt_of_lt hcount)
        exact outboundName2ServerObjs_eq_nil.mp hempty info hinfo
          ((of_decide_eq_true hname').trans htag.symm)

end

end Names

/-- The groups that are balancers in a template. -/
lemma RoutedSpec.outNames_eq_true_iff (h : RoutedSpec env serverInfos setting t₀) :
    (outNames t₀.outbounds).get? g = some true ↔
      IsBalancer env serverInfos setting.rulePortMode g := by
  obtain ⟨cs, hcs, houtbounds, -, -⟩ := h.resolved
  have hplain : (∀ o ∈ plainOutbounds env cs setting.rulePortMode, o.tag ≠ g) ↔
      g ∉ ["direct", "block"] ∧ (∀ o ∈ definedOutbounds env setting.rulePortMode, o.tag ≠ g) ∧
        ∀ c, Contributed env (newServerData env serverInfos) c → ∀ o ∈ c.extraOutbounds,
          o.tag ≠ g := by
    have hextra : (∀ c ∈ cs, ∀ o ∈ c.extraOutbounds, o.tag ≠ g) ↔ ∀ c, Contributed env
        (newServerData env serverInfos) c → ∀ o ∈ c.extraOutbounds, o.tag ≠ g :=
      forall_congr' fun c => imp_congr_left
        ⟨contributed_of_mem hcs, mem_of_contributed hcs⟩
    rw [← hextra]
    simp only [mem_plainOutbounds, or_imp, forall_and, forall_eq, forall_exists_index, and_imp]
    simp only [mem_cons, not_mem_nil, or_false, not_or]
    constructor
    · rintro ⟨hdirect, hblock, hextra, hdefined⟩
      exact ⟨⟨hdirect.symm, hblock.symm⟩, hdefined, fun c hc o ho => hextra o c hc ho⟩
    · rintro ⟨⟨hdirect, hblock⟩, hdefined, hextra⟩
      exact ⟨Ne.symm hdirect, Ne.symm hblock, fun o c hc ho => hextra c hc o ho, hdefined⟩
  rw [houtbounds, resolvedOutbounds_append, outNames_append, IsBalancer, ← hplain,
    ← outNames_nodeOutbounds hcs]
  cases hget : (outNames (plainOutbounds env cs setting.rulePortMode)).get? g with
  | none =>
    rw [Option.none_or, and_iff_left]
    rintro o ho rfl
    have hplain : o.balancers = [] := balancers_plainOutbounds hcs ho
    obtain ⟨isGroup, hsome⟩ := exists_outNames_of_tag ho hplain
    simp [hget] at hsome
  | some isGroup =>
    obtain ⟨rfl, o, ho, htag⟩ := outNames_plainOutbounds hcs hget
    simp only [Option.some_or, Option.some.injEq, Bool.false_eq_true, false_iff, not_and]
    exact fun _ hne => hne o ho htag

/-! ### The tags of the nodes -/

omit [Configurable ν] in
lemma sublist_foldl_addBlackhole {data : ServerData ν} {names : List String}
    {outbounds : List OutboundObject} :
    outbounds.Sublist (names.foldl (addBlackhole env data) outbounds) := by
  induction names generalizing outbounds with
  | nil => exact List.Sublist.refl _
  | cons name names ih =>
    refine List.Sublist.trans ?_ ih
    unfold addBlackhole
    split_ifs
    · exact sublist_cons_self _ _
    · exact sublist_append_left _ _
    · exact List.Sublist.refl _

/-- If no two outbounds have the same tag, no two nodes give the same. -/
lemma nodup_tag_of_nodup {cs : List (Contribution ν)}
    (hcs : contributions env (newServerData env serverInfos) = .ok cs)
    (h : ((resolvedOutbounds env (newServerData env serverInfos) [] cs ++
      definedOutbounds env mode).map tag).Nodup) :
    (cs.map Contribution.tag).Nodup := by
  rw [resolvedOutbounds_append, map_append] at h
  have hsorted := (h.of_append_left).sublist (sublist_foldl_addBlackhole.map tag)
  have htags : cs.map Contribution.tag = (cs.map Contribution.outbound).map tag := by
    rw [map_map]
    exact map_congr_left fun c hc => (contributed_of_mem hcs hc).tag_outbound.symm
  rw [htags]
  exact ((((env.runtime.sort_perm _ cs).map _).map _).nodup_iff).mp hsorted

lemma connectsAt_iff {node : LinkedNode ν} (hnode : node ∈ (newServerData env serverInfos).nodes)
    {i : ℕ} : ConnectsAt serverInfos node.link i ↔
      ∃ info, (info, i) ∈ node.infos ∧ (newServerData env serverInfos).balanced (info, i) := by
  refine exists_congr fun info => ?_
  rw [(linked_newServerData env serverInfos).mem_infos hnode, balanced_iff, and_assoc]

/-- What is remembered for the tag that the balancers of a node share. -/
structure Remembered (serverInfos : List (ServerInfo ν)) (t : Template ν) (link tag : String) :
    Prop where
  /-- The last of the connections. -/
  index : ∀ i, (Go.Map.ofWrites t.outboundTags.zipIdx).get? tag = some i ↔
    ConnectsAt serverInfos link i ∧ ∀ j, ConnectsAt serverInfos link j → j ≤ i
  info : ∃ info, t.serverInfoMap.get? tag = some info ∧ exportToURL info.info = link

lemma Remembered.attributes_iff {link tag : String} {s : Store ν} {w : NodeRef}
    (h : Remembered serverInfos t link tag) : t.Attributes s g tag w ↔ w.outbound = g ∧
      ∃ sr, s.locate w = .ok sr ∧ exportToURL sr.serverObj = link := by
  obtain ⟨info, hinfo, rfl⟩ := h.info
  simp [Template.Attributes, hinfo]

lemma RoutedSpec.remembered (h : RoutedSpec env serverInfos setting t₀)
    (hnodup : (t₀.outbounds.map tag).Nodup) {node : LinkedNode ν}
    (hnode : node ∈ (newServerData env serverInfos).nodes) {p : ServerInfo ν × ℕ}
    (hp : p ∈ node.infos) (hbalanced : (newServerData env serverInfos).balanced p) :
    Remembered serverInfos t₀ node.link (groupWrapper (getName node.obj)) := by
  obtain ⟨cs, hcs, houtbounds, htags, hmap⟩ := h.resolved
  obtain ⟨c, hc, htag, -, hindices, i, hinfo⟩ := exists_sharedContribution hcs hnode hp hbalanced
  rw [houtbounds] at hnodup
  replace hnodup := nodup_tag_of_nodup hcs hnodup
  rw [← htag]
  refine ⟨fun i => ?_, c.serverInfo, ?_, ?_⟩
  · rw [Go.Map.get?_ofWrites_zipIdx, htags]
    simp only [getElem?_assignTags hcs hnodup hc, hindices, connectsAt_iff hnode]
  · rw [hmap]
    refine Go.Map.get?_ofWrites_of_unique (mem_map.mpr ⟨c, hc, rfl⟩) fun info hmem => ?_
    obtain ⟨c', hc', hpair⟩ := mem_map.mp hmem
    obtain ⟨htag', rfl⟩ := Prod.mk.inj hpair
    rw [inj_on_of_nodup_map hnodup hc' hc htag']
  · exact (linked_newServerData env serverInfos).link node hnode _ hinfo

/-- The observers of a template. -/
lemma RoutedSpec.mem_multiObservatory (h : RoutedSpec env serverInfos setting t₀)
    {item : ObservatoryItem} : item ∈ t₀.multiObservatory.getD [] ↔
      ∃ g, IsBalancer env serverInfos setting.rulePortMode g ∧
        (env.store.getOutboundSetting g).type.observed ∧
        item = (newServerData env serverInfos).observer env g := by
  have hgetD {l : List ObservatoryItem} {p : Prop} [Decidable p] (hp : p → l = []) :
      (if p then none else some l).getD [] = l := by
    split_ifs with h
    · exact (hp h).symm
    · rfl
  have htype {g : String} (hg : IsBalancer env serverInfos setting.rulePortMode g) :
      (newServerData env serverInfos).outboundName2Setting g = env.store.getOutboundSetting g := by
    have hne : (newServerData env serverInfos).outboundName2ServerObjs g ≠ [] := by
      rw [← List.length_pos_iff_ne_nil, length_outboundName2ServerObjs]
      exact Nat.zero_lt_of_lt hg.1
    exact if_neg (by rwa [List.isEmpty_iff])
  rw [h.multiObservatory, hgetD (fun hnil => by rw [hnil, List.map_nil])]
  simp only [List.mem_map, List.mem_filter, mem_groupNames, h.outNames_eq_true_iff, and_assoc]
  refine exists_congr fun g => and_congr_right fun hg => ?_
  rw [htype hg, eq_comm (a := item)]

/-! ### The reports -/

/-- A reference that a report names. -/
lemma mem_outboundStatus {index : Go.Map String ℕ} {css : List NodeRef}
    {observed : List Observed} {status : OutboundStatus} :
    status ∈ outboundStatus index css observed ↔ status.toObserved ∈ observed ∧
      ∃ i, index.get? status.outboundTag = some i ∧ css[i]? = some status.which := by
  simp only [outboundStatus, mem_filterMap, Option.map_eq_some_iff, Option.bind_eq_some_iff]
  constructor
  · rintro ⟨o, ho, w, ⟨i, hi, hw⟩, rfl⟩
    exact ⟨ho, i, hi, hw⟩
  · rintro ⟨ho, i, hi, hw⟩
    exact ⟨_, ho, _, ⟨i, hi, hw⟩, rfl⟩

omit [Configurable ν] in
lemma tag2WhichIndex_of_mem {item : ObservatoryItem} (h : item ∈ t.multiObservatory.getD []) :
    tag2WhichIndex t = .ofWrites t.outboundTags.zipIdx :=
  if_pos (by cases hnone : t.multiObservatory <;> simp_all)

section Reports

variable (h : RoutedSpec env serverInfos setting t₀)
  (hnodup : (t₀.outbounds.map OutboundObject.tag).Nodup)

include h hnodup

lemma RoutedSpec.attributed_of_aligned (haligned : Aligned env serverInfos setting.rulePortMode) :
    t₀.Attributed env.store := by
  intro resps hwatched m hm status hstatus
  obtain ⟨r, hr, rfl⟩ := mem_map.mp hm
  obtain ⟨ho, i, hi, hw⟩ := mem_outboundStatus.mp hstatus
  obtain ⟨item, hitem, hname, hsubject⟩ := hwatched r hr _ ho
  have hindex := tag2WhichIndex_of_mem hitem
  obtain ⟨g, hbalancer, hobserved, rfl⟩ := h.mem_multiObservatory.mp hitem
  obtain ⟨node, hnode, p, hp, rfl, htag⟩ := mem_selector.mp hsubject
  have hlinked := linked_newServerData env serverInfos
  have hremembered := h.remembered hnodup hnode hp (balanced_iff.mpr hbalancer.1)
  rw [hindex, ← htag, hremembered.index] at hi
  rw [← hlinked.link node hnode p hp] at hi hremembered
  rw [← htag, ← hname, hremembered.attributes_iff]
  exact haligned p.1 (fst_mem_of_mem_zipIdx (hlinked.mem_zipIdx hnode hp)) hbalancer hobserved
    i hi.1 hi.2 status.which hw

lemma RoutedSpec.aligned_of_attributed (hattributed : t₀.Attributed env.store) :
    Aligned env serverInfos setting.rulePortMode := by
  intro info hinfo hbalancer hobserved i hi hlast w hw
  have hlinked := linked_newServerData env serverInfos
  obtain ⟨node, hnode, j, hp⟩ := hlinked.exists_node_of_mem hinfo
  have hremembered := h.remembered hnodup hnode hp (balanced_iff.mpr hbalancer.1)
  rw [← hlinked.link node hnode _ hp] at hremembered
  -- The core reports about the node in the message for the group.
  have hitem := h.mem_multiObservatory.mpr ⟨_, hbalancer, hobserved, rfl⟩
  let status : OutboundStatus :=
    { outboundTag := groupWrapper (getName node.obj), which := w }
  have hwatched : t₀.Watches [(info.outboundName, [status.toObserved])] := by
    simp only [Template.Watches, forall_mem_singleton]
    exact ⟨_, hitem, rfl, mem_selector.mpr ⟨node, hnode, _, hp, rfl, rfl⟩⟩
  refine hremembered.attributes_iff.mp (hattributed _ hwatched _ mem_cons_self status ?_)
  refine mem_outboundStatus.mpr ⟨mem_cons_self, i, ?_, hw⟩
  rw [tag2WhichIndex_of_mem hitem, hremembered.index]
  exact ⟨hi, hlast⟩

end Reports

/-- What is published about the groups is about their own connections if and only if, at the
positions that are remembered, the references of those connections stand. -/
theorem attributed_iff {setting : Option Setting}
    (hinfos : getConnectedServerObjs env.nodeFingerprint env.store = .ok serverInfos)
    (h : newTemplateFromConnectedServers env setting = .ok t) :
    t.Attributed env.store ↔
      Aligned env (assignPluginPorts env serverInfos) (setting.getD env.setting).rulePortMode := by
  obtain ⟨_, hinfos', h⟩ := Except.bind_eq_ok_iff.mp h
  obtain rfl := Except.ok.inj (hinfos.symm.trans hinfos')
  split_ifs at h
  obtain ⟨t₀, -, hspec, rfl, hnodup⟩ := newTemplate_ok h
  obtain ⟨inbounds, f, -, hfinish⟩ := finishTemplate_eq env t₀
  have hattributed : (finishTemplate env t₀).Attributed env.store ↔ t₀.Attributed env.store := by
    rw [hfinish]
    rfl
  rw [tags_finishTemplate] at hnodup
  rw [hattributed]
  exact ⟨hspec.aligned_of_attributed hnodup, hspec.attributed_of_aligned hnodup⟩

/-! ### A group that is pinned -/

/-- The servers `a`, `b`, `c` and `d`. -/
def fourServers : List (ServerRaw SOCKS) :=
  ["a", "b", "c", "d"].map fun name =>
    { serverObj := { name, server := name ++ ".example", port := 1080 } }

/-- A connection of a server to a group. -/
def serverRef (id : ℤ) (outbound : String) : NodeRef := ⟨.server, id, 0, outbound⟩

/-- The template for the connected servers. -/
def templateOf (env : TemplateEnv SOCKS) : Template SOCKS :=
  (newTemplateFromConnectedServers env none).toOption.getD { setting := {} }

/-- Two servers in one group. -/
def pairEnv : TemplateEnv SOCKS where
  store :=
    { servers := fourServers
      connectedServers := fun name =>
        if name = "proxy" then some [serverRef 1 "proxy", serverRef 2 "proxy"] else none }

/-- The connections of the group. -/
def pairInfos : List (ServerInfo SOCKS) :=
  (fourServers.take 2).map fun sr => { info := sr.serverObj, outboundName := "proxy" }

/-- Nothing is left out of the one group: the reports are right. -/
theorem attributed_pairEnv : (templateOf pairEnv).Attributed pairEnv.store := by
  have hinfos : getConnectedServerObjs pairEnv.nodeFingerprint pairEnv.store = .ok pairInfos := rfl
  have hok : newTemplateFromConnectedServers pairEnv none = .ok (templateOf pairEnv) := rfl
  have hright : ∀ info ∈ pairInfos, ∀ p ∈ pairInfos.zip pairEnv.store.getConnectedServers,
      exportToURL p.1.info = exportToURL info.info → p.2.outbound = info.outboundName ∧
        pairEnv.store.locate p.2 = .ok { serverObj := p.1.info } := by decide +kernel
  refine (attributed_iff hinfos hok).mpr ?_
  rintro info hinfo - - i ⟨info', hget, hlink, -⟩ - w hw
  obtain ⟨hgroup, hlocate⟩ := hright info hinfo (info', w)
    (mem_iff_getElem?.mpr ⟨i, getElem?_zip_eq_some.mpr ⟨hget, hw⟩⟩) hlink
  exact ⟨hgroup, _, hlocate, hlink⟩

/-- Two groups of two servers, of which the first is pinned to its second server. -/
def pinnedEnv : TemplateEnv SOCKS where
  store :=
    { servers := fourServers
      outboundNames := ["work"]
      connectedServers := fun name =>
        if name = "proxy" then some [serverRef 1 "proxy", serverRef 2 "proxy"]
        else if name = "work" then some [serverRef 3 "work", serverRef 4 "work"]
        else none
      outboundSetting := fun name =>
        if name = "proxy" then
          some { defaultOutboundSetting with selected := "socks5://b.example:1080#b" }
        else none }

/-- The report about `c` in the message for `work` names `b`, in `proxy`. -/
theorem not_attributed_pinned :
    newTemplateFromConnectedServers pinnedEnv none = .ok (templateOf pinnedEnv) ∧
      ¬(templateOf pinnedEnv).Attributed pinnedEnv.store := by
  refine ⟨rfl, fun hattributed => ?_⟩
  let resps : List (String × List Observed) := [("work", [{ outboundTag := "『c』" }])]
  have hwatched : (templateOf pinnedEnv).Watches resps := by
    unfold Template.Watches
    decide +kernel
  have hmessages : observatoryMessages (templateOf pinnedEnv) pinnedEnv.store.getConnectedServers
      resps = [("work", [{ outboundTag := "『c』", which := serverRef 2 "proxy" }])] := by
    decide +kernel
  have hwrong := hattributed resps hwatched
  rw [hmessages] at hwrong
  have hgroup := (hwrong _ mem_cons_self _ mem_cons_self).1
  exact absurd hgroup (by decide)

end V2rayA
