import V2rayA.Kernel.Observatory

/-!
# The selectors of balancers

A balancer selects the outbounds whose tags begin with one of its selectors. These are the names of
its nodes in corner brackets, which are also the tags of their outbounds.

* `RoutedSpec.mem_outbounds_iff`: which tags are not those of the nodes of a group.
* `selectorsExact_iff`: when a balancer selects the outbounds of its own nodes only.
* `selects_other_node`: a node whose name continues that of another behind a bracket.
-/

namespace V2rayA

open List OutboundObject

variable {ν : Type}

/-- The rule of the core: a tag is selected if it begins with a selector. -/
def Selects (selector : List String) (tag : String) : Prop :=
  ∃ sel ∈ selector, sel.toList <+: tag.toList

/-- A node is connected to a group. -/
def LinkedNode.MemberOf (node : LinkedNode ν) (g : String) : Prop :=
  ∃ p ∈ node.infos, p.1.outboundName = g

/-- A selector selects the outbounds of the members of a group, one for each link. -/
structure SelectsMembers [ServerObj ν] (tags : List String) (nodes : List (LinkedNode ν))
    (g : String) (selector : List String) : Prop where
  only : ∀ tag ∈ tags, Selects selector tag →
    ∃ node ∈ nodes, node.MemberOf g ∧ groupWrapper (getName node.obj) = tag
  all : ∀ node ∈ nodes, node.MemberOf g →
    Selects selector (groupWrapper (getName node.obj)) ∧
      tags.count (groupWrapper (getName node.obj)) = 1
  distinct : ∀ node ∈ nodes, ∀ node' ∈ nodes, node.MemberOf g → node'.MemberOf g →
    groupWrapper (getName node.obj) = groupWrapper (getName node'.obj) → node = node'

/-- The selectors of the balancers and of their observers are exact. -/
structure Template.SelectorsExact [ServerObj ν] (t : Template ν) (nodes : List (LinkedNode ν)) :
    Prop where
  balancer : ∀ b ∈ t.balancers,
    SelectsMembers (t.outbounds.map OutboundObject.tag) nodes b.tag b.selector
  observer : ∀ item ∈ t.multiObservatory.getD [],
    SelectsMembers (t.outbounds.map OutboundObject.tag) nodes item.tag item.subjectSelector

variable [Configurable ν] {env : TemplateEnv ν} {serverInfos : List (ServerInfo ν)}
  {mode : RulePortMode} {setting : Setting} {t₀ t : Template ν} {g : String}

/-- The tags that do not belong to the nodes of a group: those of nodes of other balancers, of groups
with one node, of empty groups that are fail-closed, of outbounds that nodes need besides, and of
outbounds that the routing rules define. -/
inductive OtherTag (env : TemplateEnv ν) (serverInfos : List (ServerInfo ν)) (mode : RulePortMode)
    (g : String) : String → Prop
  | node {node : LinkedNode ν} {p : ServerInfo ν × ℕ}
      (hnode : node ∈ (newServerData env serverInfos).nodes) (hp : p ∈ node.infos)
      (hbalanced : (newServerData env serverInfos).balanced p = true) (hg : ¬node.MemberOf g) :
      OtherTag env serverInfos mode g (groupWrapper (getName node.obj))
  | single {info : ServerInfo ν} (hinfo : info ∈ serverInfos)
      (hone : ¬1 < serverInfos.countP fun other => other.outboundName = info.outboundName) :
      OtherTag env serverInfos mode g info.outboundName
  | failClosed {name : String} (hname : name ∈ env.store.getOutbounds)
      (hclosed : (env.store.getOutboundSetting name).FailClosed)
      (hempty : ∀ info ∈ serverInfos, info.outboundName ≠ name) :
      OtherTag env serverInfos mode g name
  | extra {c : Contribution ν} {o : OutboundObject}
      (hc : Contributed env (newServerData env serverInfos) c) (ho : o ∈ c.extraOutbounds) :
      OtherTag env serverInfos mode g o.tag
  | defined {o : OutboundObject} (ho : o ∈ definedOutbounds env mode) :
      OtherTag env serverInfos mode g o.tag

/-- No other tag begins with the name of a node of a balancer in corner brackets. -/
def Separate (env : TemplateEnv ν) (serverInfos : List (ServerInfo ν)) (mode : RulePortMode) :
    Prop :=
  ∀ g, IsBalancer env serverInfos mode g → ∀ node ∈ (newServerData env serverInfos).nodes,
    node.MemberOf g → ∀ tag, OtherTag env serverInfos mode g tag →
      ¬(groupWrapper (getName node.obj)).toList <+: tag.toList

/-- A position belongs to one node. -/
lemma node_eq_of_position {node node' : LinkedNode ν} {p p' : ServerInfo ν × ℕ}
    (hnode : node ∈ (newServerData env serverInfos).nodes)
    (hnode' : node' ∈ (newServerData env serverInfos).nodes) (hp : p ∈ node.infos)
    (hp' : p' ∈ node'.infos) (heq : p.2 = p'.2) : node = node' := by
  have hlinked := linked_newServerData env serverInfos
  have hget := mem_zipIdx_iff_getElem?.mp (hlinked.mem_zipIdx hnode hp)
  have hget' := mem_zipIdx_iff_getElem?.mp (hlinked.mem_zipIdx hnode' hp')
  rw [heq, hget'] at hget
  have hpair : p' = p := Prod.ext (Option.some.inj hget) heq.symm
  exact hlinked.node_unique hnode hnode' hp (hpair ▸ hp')

section

variable (h : RoutedSpec env serverInfos setting t₀)
include h

/-- The outbound that the balancers of a node share. Its groups are groups of the node. -/
lemma RoutedSpec.exists_shared {node : LinkedNode ν}
    (hnode : node ∈ (newServerData env serverInfos).nodes) {p : ServerInfo ν × ℕ}
    (hp : p ∈ node.infos) (hbalanced : (newServerData env serverInfos).balanced p) :
    ∃ o ∈ t₀.outbounds, o.tag = groupWrapper (getName node.obj) ∧
      p.1.outboundName ∈ o.balancers ∧ ∀ g ∈ o.balancers, node.MemberOf g := by
  obtain ⟨cs, hcs, houtbounds, -, -⟩ := h.resolved
  obtain ⟨c, hc, htag, hgroups, hindices, -⟩ := exists_sharedContribution hcs hnode hp hbalanced
  have hcontributed := contributed_of_mem hcs hc
  refine ⟨c.outbound, ?_, hcontributed.tag_outbound.trans htag, hgroups p hp hbalanced,
    fun g hg => ?_⟩
  · rw [houtbounds]
    exact mem_append_left _ (mem_resolvedOutbounds.mpr (.inl ⟨c, hc, rfl⟩))
  · -- the node that has the group is the one at the position
    obtain ⟨node', hnode', p', hp', rfl, -, hindex, -⟩ := hcontributed.exists_of_mem_balancers hg
    obtain ⟨info, hinfo, -⟩ := (hindices p'.2).mp hindex
    obtain rfl := node_eq_of_position hnode' hnode hp' hinfo rfl
    exact ⟨p', hp', rfl⟩

/-- A member of a balancer has an outbound. -/
lemma RoutedSpec.exists_member_outbound
    (hg : IsBalancer env serverInfos mode g) {node : LinkedNode ν}
    (hnode : node ∈ (newServerData env serverInfos).nodes) (hmember : node.MemberOf g) :
    ∃ o ∈ t₀.outbounds, o.tag = groupWrapper (getName node.obj) ∧ g ∈ o.balancers ∧
      ∀ g ∈ o.balancers, node.MemberOf g := by
  obtain ⟨p, hp, rfl⟩ := hmember
  exact h.exists_shared hnode hp (balanced_iff.mpr hg.1)

/-- An outbound with the group is that of a member. -/
lemma RoutedSpec.exists_of_balancer
    {o : OutboundObject} (ho : o ∈ t₀.outbounds) (hg : g ∈ o.balancers) :
    ∃ node ∈ (newServerData env serverInfos).nodes, node.MemberOf g ∧
      groupWrapper (getName node.obj) = o.tag := by
  obtain ⟨cs, hcs, houtbounds, -, -⟩ := h.resolved
  rw [houtbounds, mem_append, mem_resolvedOutbounds] at ho
  rcases ho with (⟨c, hc, rfl⟩ | ⟨name, -, -, -, rfl⟩ | rfl | rfl | ⟨c, hc, ho⟩) | ho
  · have hcontributed := contributed_of_mem hcs hc
    obtain ⟨node, hnode, p, hp, rfl, -, -, htag⟩ := hcontributed.exists_of_mem_balancers hg
    exact ⟨node, hnode, ⟨p, hp, rfl⟩, htag.symm.trans hcontributed.tag_outbound.symm⟩
  · exact absurd hg not_mem_nil
  · exact absurd hg not_mem_nil
  · exact absurd hg not_mem_nil
  · simp [(contributed_of_mem hcs hc).balancers_extraOutbounds o ho] at hg
  · simp [balancers_definedOutbounds ho] at hg

/-- Which tags the outbounds without the group have. -/
lemma RoutedSpec.mem_outbounds_iff
    (hg : IsBalancer env serverInfos setting.rulePortMode g) {tag : String} :
    (∃ o ∈ t₀.outbounds, o.tag = tag ∧ g ∉ o.balancers) ↔
      OtherTag env serverInfos setting.rulePortMode g tag ∨ tag = "direct" ∨ tag = "block" := by
  obtain ⟨cs, hcs, houtbounds, -, -⟩ := h.resolved
  simp only [houtbounds, mem_append, mem_resolvedOutbounds]
  constructor
  · rintro ⟨o, ho, rfl, hnot⟩
    rcases ho with (⟨c, hc, rfl⟩ | ⟨name, hname, hclosed, hempty, rfl⟩ | rfl | rfl |
      ⟨c, hc, ho⟩) | ho
    · have hcontributed := contributed_of_mem hcs hc
      rw [hcontributed.tag_outbound]
      left
      cases hcontributed with
      | @pure node p conf hnode hp hbalanced hconf =>
        have hinfo := (linked_newServerData env serverInfos).mem_zipIdx hnode hp
        refine .single (fst_mem_of_mem_zipIdx hinfo) fun hcount => ?_
        rw [balanced_iff.mpr hcount] at hbalanced
        cases hbalanced
      | @shared node first rest conf hnode hinfos hconf =>
        have hfirst := mem_filter.mp (hinfos ▸ mem_cons_self (a := first) (l := rest))
        refine .node hnode hfirst.1 hfirst.2 ?_
        rintro ⟨p, hp, rfl⟩
        refine hnot (mem_append_right _ (mem_map.mpr ⟨p, ?_, rfl⟩))
        rw [← hinfos]
        exact mem_filter.mpr ⟨hp, balanced_iff.mpr hg.1⟩
    · exact .inl (.failClosed hname hclosed (outboundName2ServerObjs_eq_nil.mp hempty))
    · exact .inr (.inl rfl)
    · exact .inr (.inr rfl)
    · exact .inl (.extra (contributed_of_mem hcs hc) ho)
    · exact .inl (.defined ho)
  · rintro (hother | rfl | rfl)
    · cases hother with
      | @node node p hnode hp hbalanced hnot =>
        obtain ⟨o, ho, htag, -, hgroups⟩ := h.exists_shared hnode hp hbalanced
        rw [houtbounds, mem_append, mem_resolvedOutbounds] at ho
        exact ⟨o, ho, htag, fun hg => hnot (hgroups g hg)⟩
      | @single info hinfo hone =>
        obtain ⟨node, hnode, i, hp⟩ :=
          (linked_newServerData env serverInfos).exists_node_of_mem hinfo
        have hbalanced : (newServerData env serverInfos).balanced (info, i) = false := by
          rw [← Bool.not_eq_true, balanced_iff]
          exact hone
        obtain ⟨c, hc, -, htag, hnil⟩ := exists_contribution hcs hnode hp
        rw [tagOf, hbalanced] at htag
        rw [hbalanced] at hnil
        refine ⟨c.outbound, (.inl (.inl ⟨c, hc, rfl⟩)),
          (contributed_of_mem hcs hc).tag_outbound.trans htag, ?_⟩
        simp only [Bool.false_eq_true, if_false] at hnil
        simp [hnil]
      | failClosed hname hclosed hempty =>
        exact ⟨blackhole tag, (.inl (.inr (.inl ⟨tag, hname, hclosed,
          outboundName2ServerObjs_eq_nil.mpr hempty, rfl⟩))), rfl, not_mem_nil⟩
      | @extra c o hc ho =>
        refine ⟨o, (.inl (.inr (.inr (.inr (.inr
          ⟨c, mem_of_contributed hcs hc, ho⟩))))), rfl, ?_⟩
        simp [hc.balancers_extraOutbounds o ho]
      | @defined o ho =>
        refine ⟨o, (.inr ho), rfl, ?_⟩
        simp [balancers_definedOutbounds ho]
    · exact ⟨directOutbound, (.inl (.inr (.inr (.inl rfl)))), rfl, not_mem_nil⟩
    · exact ⟨blackhole "block", (.inl (.inr (.inr (.inr (.inl rfl))))), rfl,
        not_mem_nil⟩

/-- The members of a balancer have names of their own. -/
lemma RoutedSpec.node_unique
    (hnodup : (t₀.outbounds.map tag).Nodup) (hg : IsBalancer env serverInfos mode g)
    {node node' : LinkedNode ν} (hnode : node ∈ (newServerData env serverInfos).nodes)
    (hnode' : node' ∈ (newServerData env serverInfos).nodes) (hmember : node.MemberOf g)
    (hmember' : node'.MemberOf g)
    (heq : groupWrapper (getName node.obj) = groupWrapper (getName node'.obj)) : node = node' := by
  obtain ⟨cs, hcs, houtbounds, -, -⟩ := h.resolved
  rw [houtbounds] at hnodup
  obtain ⟨p, hp, rfl⟩ := hmember
  obtain ⟨p', hp', hname⟩ := hmember'
  have hbalanced : (newServerData env serverInfos).balanced p := balanced_iff.mpr hg.1
  have hbalanced' : (newServerData env serverInfos).balanced p' = true :=
    balanced_iff.mpr (hname ▸ hg.1)
  obtain ⟨c, hc, htag, -, hindices, -⟩ := exists_sharedContribution hcs hnode hp hbalanced
  obtain ⟨c', hc', htag', -, hindices', -⟩ := exists_sharedContribution hcs hnode' hp' hbalanced'
  have hsame : c = c' := inj_on_of_nodup_map (nodup_tag_of_nodup hcs hnodup) hc hc'
    (htag.trans (heq.trans htag'.symm))
  -- the outbound that both share stands at a position of either node
  have hindex : p.2 ∈ c.indices := (hindices p.2).mpr ⟨p.1, hp, hbalanced⟩
  rw [hsame] at hindex
  obtain ⟨info, hinfo, -⟩ := (hindices' p.2).mp hindex
  exact node_eq_of_position hnode hnode' hp hinfo rfl

end

/-- What begins with a name in corner brackets begins with a bracket. -/
lemma not_groupWrapper_begins {name tag : String} (h : tag.toList.head? ≠ some '『') :
    ¬(groupWrapper name).toList <+: tag.toList := by
  rintro ⟨rest, hrest⟩
  apply h
  rw [← hrest]
  simp [groupWrapper]

/-- The selector of a balancer is exact if no other tag begins with a name in it. -/
lemma RoutedSpec.selectsMembers_iff (h : RoutedSpec env serverInfos setting t₀)
    (hnodup : (t₀.outbounds.map tag).Nodup)
    (hg : IsBalancer env serverInfos setting.rulePortMode g) :
    SelectsMembers (t₀.outbounds.map tag) (newServerData env serverInfos).nodes g
        ((newServerData env serverInfos).selector g) ↔
      ∀ node ∈ (newServerData env serverInfos).nodes, node.MemberOf g → ∀ tag,
        OtherTag env serverInfos setting.rulePortMode g tag →
          ¬(groupWrapper (getName node.obj)).toList <+: tag.toList := by
  have hselector {node : LinkedNode ν} (hnode : node ∈ (newServerData env serverInfos).nodes)
      (hmember : node.MemberOf g) :
      groupWrapper (getName node.obj) ∈ (newServerData env serverInfos).selector g := by
    obtain ⟨p, hp, hname⟩ := hmember
    exact mem_selector.mpr ⟨node, hnode, p, hp, hname, rfl⟩
  constructor
  · intro hexact node hnode hmember tag hother hprefix
    obtain ⟨o, ho, rfl, hnot⟩ := (h.mem_outbounds_iff hg).mpr (.inl hother)
    obtain ⟨node', hnode', hmember', htag⟩ := hexact.only o.tag (mem_map_of_mem ho)
      ⟨_, hselector hnode hmember, hprefix⟩
    -- the outbound of that member has the same tag
    obtain ⟨o', ho', htag', hg', -⟩ := h.exists_member_outbound hg hnode' hmember'
    exact hnot (inj_on_of_nodup_map hnodup ho' ho (htag'.trans htag) ▸ hg')
  · intro hseparate
    refine ⟨fun tag htag hselects => ?_, fun node hnode hmember => ⟨?_, ?_⟩,
      fun node hnode node' hnode' hmember hmember' heq => ?_⟩
    · obtain ⟨o, ho, rfl⟩ := mem_map.mp htag
      by_cases hgroup : g ∈ o.balancers
      · exact h.exists_of_balancer ho hgroup
      · obtain ⟨sel, hsel, hprefix⟩ := hselects
        obtain ⟨node, hnode, p, hp, hname, rfl⟩ := mem_selector.mp hsel
        rcases (h.mem_outbounds_iff hg).mp ⟨o, ho, rfl, hgroup⟩ with hother | hdirect | hblock
        · exact absurd hprefix (hseparate node hnode ⟨p, hp, hname⟩ o.tag hother)
        · exact absurd (hdirect ▸ hprefix) (not_groupWrapper_begins (by decide))
        · exact absurd (hblock ▸ hprefix) (not_groupWrapper_begins (by decide))
    · exact ⟨_, hselector hnode hmember, List.prefix_rfl⟩
    · obtain ⟨o, ho, htag, -⟩ := h.exists_member_outbound hg hnode hmember
      exact count_eq_one_of_mem hnodup (htag ▸ mem_map_of_mem ho)
    · exact h.node_unique hnodup hg hnode hnode' hmember hmember' heq

/-- The selectors of the balancers and of their observers are exact if and only if no other tag
begins with the name of a node in corner brackets. -/
theorem selectorsExact_iff {setting : Option Setting}
    (h : newTemplate env serverInfos setting = .ok t) :
    t.SelectorsExact (newServerData env serverInfos).nodes ↔
      Separate env serverInfos (setting.getD env.setting).rulePortMode := by
  obtain ⟨t₀, -, hspec, rfl, hnodup⟩ := newTemplate_ok h
  obtain ⟨inbounds, f, -, hfinish⟩ := finishTemplate_eq env t₀
  rw [tags_finishTemplate] at hnodup
  have hbalancers : (finishTemplate env t₀).balancers = t₀.balancers := by rw [hfinish]
  have hobservers : (finishTemplate env t₀).multiObservatory = t₀.multiObservatory := by
    rw [hfinish]
  constructor
  · intro hexact g hg
    refine (hspec.selectsMembers_iff hnodup hg).mp ?_
    rw [← tags_finishTemplate]
    refine hexact.balancer ((newServerData env serverInfos).balancer g) ?_
    rw [hbalancers, hspec.balancers]
    exact mem_map_of_mem (mem_groupNames.mpr (hspec.outNames_eq_true_iff.mpr hg))
  · intro hseparate
    refine ⟨fun b hb => ?_, fun item hitem => ?_⟩
    · rw [hbalancers, hspec.balancers] at hb
      obtain ⟨g, hname, rfl⟩ := mem_map.mp hb
      have hg := hspec.outNames_eq_true_iff.mp (mem_groupNames.mp hname)
      rw [tags_finishTemplate]
      exact (hspec.selectsMembers_iff hnodup hg).mpr (hseparate g hg)
    · rw [hobservers] at hitem
      obtain ⟨g, hg, -, rfl⟩ := hspec.mem_multiObservatory.mp hitem
      rw [tags_finishTemplate]
      exact (hspec.selectsMembers_iff hnodup hg).mpr (hseparate g hg)

/-- The template for some connections. -/
def templateFor (env : TemplateEnv SOCKS) (serverInfos : List (ServerInfo SOCKS)) :
    Template SOCKS :=
  (newTemplate env serverInfos none).toOption.getD { setting := {} }

/-- Two groups, where the name of a server of the second continues that of one of the first. -/
def continuedInfos : List (ServerInfo SOCKS) :=
  [("a", "proxy"), ("b", "proxy"), ("a』b", "work"), ("d", "work")].map fun (name, outboundName) =>
    { info := { name, server := "example", port := 1080 }, outboundName }

/-- The balancer `proxy` selects a server of `work`. -/
theorem selects_other_node :
    newTemplate pairEnv continuedInfos none = .ok (templateFor pairEnv continuedInfos) ∧
      ¬(templateFor pairEnv continuedInfos).SelectorsExact
        (newServerData pairEnv continuedInfos).nodes := by
  refine ⟨rfl, fun hexact => ?_⟩
  have hbalancer : ∃ b ∈ (templateFor pairEnv continuedInfos).balancers,
      b.tag = "proxy" ∧ "『a』" ∈ b.selector := by decide +kernel
  have htag : "『a』b』" ∈ (templateFor pairEnv continuedInfos).outbounds.map tag := by
    decide +kernel
  obtain ⟨b, hb, hgroup, hselector⟩ := hbalancer
  obtain ⟨node, hnode, ⟨p, hp, hname⟩, hnodeTag⟩ := (hexact.balancer b hb).only _ htag
    ⟨_, hselector, by decide⟩
  have hnone : ∀ node ∈ (newServerData pairEnv continuedInfos).nodes, ∀ p ∈ node.infos,
      p.1.outboundName = "proxy" → groupWrapper (getName node.obj) ≠ "『a』b』" := by decide +kernel
  exact hnone node hnode p hp (hname.trans hgroup) hnodeTag

/-- The selectors of the one group of `a` and `b` are exact. -/
theorem selectorsExact_pairInfos :
    (templateFor pairEnv pairInfos).SelectorsExact (newServerData pairEnv pairInfos).nodes := by
  have hok : newTemplate pairEnv pairInfos none = .ok (templateFor pairEnv pairInfos) := rfl
  have hproxy : ∀ node ∈ (newServerData pairEnv pairInfos).nodes, ∀ p ∈ node.infos,
      p.1.outboundName = "proxy" := by decide +kernel
  have hcount : ∀ info ∈ pairInfos,
      1 < pairInfos.countP fun other => other.outboundName = info.outboundName := by decide +kernel
  have hconnected : ∀ name ∈ pairEnv.store.getOutbounds, ∃ info ∈ pairInfos,
      info.outboundName = name := by decide +kernel
  have hextra : ∃ cs, contributions pairEnv (newServerData pairEnv pairInfos) = .ok cs ∧
      ∀ c ∈ cs, c.extraOutbounds = [] := ⟨_, rfl, by decide +kernel⟩
  have hdefined : definedOutbounds pairEnv pairEnv.setting.rulePortMode = [] := by decide +kernel
  refine (selectorsExact_iff hok).mpr fun g hg node hnode hmember tag hother => ?_
  -- there is no other tag at all
  obtain ⟨p, hp, rfl⟩ := hmember
  cases hother with
  | @node node' p' hnode' hp' hbalanced hnot =>
    exact absurd ⟨p', hp', (hproxy _ hnode' _ hp').trans (hproxy _ hnode _ hp).symm⟩ hnot
  | single hinfo hone => exact absurd (hcount _ hinfo) hone
  | failClosed hname hclosed hempty =>
    obtain ⟨info, hinfo, heq⟩ := hconnected _ hname
    exact absurd heq (hempty info hinfo)
  | @extra c o hc ho =>
    obtain ⟨cs, hcs, hnil⟩ := hextra
    simp [hnil c (mem_of_contributed hcs hc)] at ho
  | defined ho =>
    rw [Option.getD_none, hdefined] at ho
    cases ho

end V2rayA
