import V2rayA.Kernel.Template.Passes

/-!
# Where the rules of a template go

Only one pass checks that what a rule goes to is there: the rules of the custom inbounds and the
rule that all other traffic falls through to name their targets unseen.

* `targetsExist_iff`: the core finds every target if and only if the template has `proxy` and what
  the custom inbounds ask for.
* `not_targetsExist_withoutProxy`: a template whose only nodes are in another group.
-/

namespace V2rayA

open List

variable {ν : Type} [Configurable ν] {env : TemplateEnv ν} {serverInfos : List (ServerInfo ν)}
  {mode : RulePortMode} {outbounds : List OutboundObject} {x : String}

/-- The core finds what the rules of the template go to. -/
def Template.TargetsExist (t : Template ν) : Prop :=
  ∀ r ∈ t.rules,
    (r.outboundTag ≠ "" → (∃ o ∈ t.outbounds, o.tag = r.outboundTag) ∨
      t.api.map APIObject.tag = some r.outboundTag) ∧
    (r.balancerTag ≠ "" → ∃ b ∈ t.balancers, b.tag = r.balancerTag)

omit [Configurable ν] in
instance (t : Template ν) : Decidable t.TargetsExist := by
  unfold Template.TargetsExist
  infer_instance

/-- Names that a template for the connections has an outbound or a balancer for. -/
inductive Routable (env : TemplateEnv ν) (serverInfos : List (ServerInfo ν))
    (mode : RulePortMode) : String → Prop
  /-- A group with a node. -/
  | member {info : ServerInfo ν} (h : info ∈ serverInfos) :
      Routable env serverInfos mode info.outboundName
  /-- A group that is closed when it has no node. -/
  | closed {name : String} (h : name ∈ env.store.getOutbounds)
      (hclosed : (env.store.getOutboundSetting name).FailClosed) :
      Routable env serverInfos mode name
  | direct : Routable env serverInfos mode "direct"
  | block : Routable env serverInfos mode "block"
  /-- An outbound that the rule port defines. -/
  | defined {o : OutboundObject} (h : o ∈ definedOutbounds env mode) :
      Routable env serverInfos mode o.tag
  /-- The tag that a node is configured with. -/
  | node {c : Contribution ν} (h : Contributed env (newServerData env serverInfos) c) :
      Routable env serverInfos mode c.tag
  /-- An outbound that a node brings along. -/
  | extra {c : Contribution ν} (h : Contributed env (newServerData env serverInfos) c)
      {o : OutboundObject} (ho : o ∈ c.extraOutbounds) : Routable env serverInfos mode o.tag

/-- What the rules of a template for the connections go to is there. -/
def TargetsRoutable (env : TemplateEnv ν) (serverInfos : List (ServerInfo ν)) (setting : Setting) :
    Prop :=
  Routable env serverInfos setting.rulePortMode "proxy" ∧
    ∀ x ∈ customTargets env, x = "api-out" ∨ Routable env serverInfos setting.rulePortMode x

/-! ### Names that stand for outbounds -/

/-- An outbound has the name, or is in the group of that name. -/
def Stands (outbounds : List OutboundObject) (x : String) : Prop :=
  ∃ o ∈ outbounds, o.tag = x ∨ x ∈ o.balancers

lemma stands_iff_outNames : Stands outbounds x ↔
    (outNames outbounds).get? x = some true ∨ ∃ o ∈ outbounds, o.tag = x := by
  constructor
  · rintro ⟨o, ho, htag | hgroup⟩
    · exact .inr ⟨o, ho, htag⟩
    · obtain ⟨isGroup, hget⟩ := exists_outNames_of_mem_balancers ho hgroup
      cases isGroup with
      | true => exact .inl hget
      | false => exact .inr (mem_outbounds_of_outNames hget)
  · rintro (hget | ⟨o, ho, htag⟩)
    · obtain ⟨o, ho, hgroup⟩ := mem_balancers_of_outNames hget
      exact ⟨o, ho, .inr hgroup⟩
    · exact ⟨o, ho, .inl htag⟩

lemma stands_of_outNames {isGroup : Bool} (h : (outNames outbounds).get? x = some isGroup) :
    Stands outbounds x := by
  rw [stands_iff_outNames]
  cases isGroup with
  | true => exact .inl h
  | false => exact .inr (mem_outbounds_of_outNames h)

section Stands

variable {cs : List (Contribution ν)}

section

variable (hcs : contributions env (newServerData env serverInfos) = .ok cs)
include hcs

lemma routable_of_stands
    (h : Stands (resolvedOutbounds env (newServerData env serverInfos) [] cs ++
      definedOutbounds env mode) x) :
    Routable env serverInfos mode x := by
  obtain ⟨o, ho, hx⟩ := h
  -- Only the outbounds of nodes are in groups.
  have hplain (hbalancers : o.balancers = []) : o.tag = x := by simpa [hbalancers] using hx
  rw [mem_append, mem_resolvedOutbounds] at ho
  rcases ho with (⟨c, hc, rfl⟩ | ⟨name, hname, hclosed, -, rfl⟩ | rfl | rfl | ⟨c, hc, ho⟩) | ho
  · have hcontributed := contributed_of_mem hcs hc
    rcases hx with rfl | hgroup
    · rw [hcontributed.tag_outbound]
      exact .node hcontributed
    · obtain ⟨info, hinfo, rfl⟩ := hcontributed.exists_member hgroup
      exact .member hinfo
  · rw [← hplain rfl]
    exact .closed hname hclosed
  · rw [← hplain rfl]
    exact .direct
  · rw [← hplain rfl]
    exact .block
  · have hcontributed := contributed_of_mem hcs hc
    rw [← hplain (hcontributed.balancers_extraOutbounds o ho)]
    exact .extra hcontributed ho
  · rw [← hplain (balancers_definedOutbounds ho)]
    exact .defined ho

/-- A group with a node has an outbound, or is a balancer. -/
lemma exists_contribution_of_member {info : ServerInfo ν}
    (hinfo : info ∈ serverInfos) :
    ∃ c ∈ cs, c.outbound.tag = info.outboundName ∨ info.outboundName ∈ c.outbound.balancers := by
  obtain ⟨node, hnode, i, hp⟩ := (linked_newServerData env serverInfos).exists_node_of_mem hinfo
  obtain ⟨c, hc, -, htag, hgroup⟩ := exists_contribution hcs hnode hp
  refine ⟨c, hc, ?_⟩
  rw [(contributed_of_mem hcs hc).tag_outbound, htag]
  cases hbalanced : (newServerData env serverInfos).balanced (info, i) with
  | true => exact .inr (by simpa [hbalanced] using hgroup)
  | false => exact .inl (by simp [tagOf, hbalanced])

lemma stands_of_routable
    (h : Routable env serverInfos mode x) :
    Stands (resolvedOutbounds env (newServerData env serverInfos) [] cs ++
      definedOutbounds env mode) x := by
  set outbounds := resolvedOutbounds env (newServerData env serverInfos) [] cs with houtbounds
  have hmember {info : ServerInfo ν} (hinfo : info ∈ serverInfos) :
      Stands (outbounds ++ definedOutbounds env mode) info.outboundName := by
    obtain ⟨c, hc, hname⟩ := exists_contribution_of_member hcs hinfo
    exact ⟨c.outbound, mem_append_left _ (mem_resolvedOutbounds.mpr (.inl ⟨c, hc, rfl⟩)),
      hname⟩
  have htag {o : OutboundObject} (ho : o ∈ outbounds) :
      Stands (outbounds ++ definedOutbounds env mode) o.tag :=
    ⟨o, mem_append_left _ ho, .inl rfl⟩
  cases h with
  | member hinfo => exact hmember hinfo
  | closed hname hclosed =>
    by_cases hempty : (newServerData env serverInfos).outboundName2ServerObjs x = []
    · exact htag (mem_resolvedOutbounds.mpr
        (.inr (.inl ⟨x, hname, hclosed, hempty, rfl⟩)))
    · rw [outboundName2ServerObjs_eq_nil] at hempty
      push Not at hempty
      obtain ⟨info, hinfo, rfl⟩ := hempty
      exact hmember hinfo
  | direct => exact htag (mem_resolvedOutbounds.mpr (.inr (.inr (.inl rfl))))
  | block => exact htag (mem_resolvedOutbounds.mpr (.inr (.inr (.inr (.inl rfl)))))
  | defined ho => exact ⟨_, mem_append_right _ ho, .inl rfl⟩
  | node hc =>
    rw [← hc.tag_outbound]
    exact htag (mem_resolvedOutbounds.mpr (.inl ⟨_, mem_of_contributed hcs hc, rfl⟩))
  | extra hc ho =>
    exact htag (mem_resolvedOutbounds.mpr
      (.inr (.inr (.inr (.inr ⟨_, mem_of_contributed hcs hc, ho⟩)))))

end

end Stands

/-! ### The rules -/

variable {setting : Setting} {t₀ t : Template ν}

section

variable (h : RoutedSpec env serverInfos setting t₀)
include h

/-- The outbounds of a template stand for the names that the connections give. -/
lemma RoutedSpec.stands_iff :
    Stands t₀.outbounds x ↔ Routable env serverInfos setting.rulePortMode x := by
  obtain ⟨cs, hcs, houtbounds, -, -⟩ := h.resolved
  rw [houtbounds]
  exact ⟨routable_of_stands hcs, stands_of_routable hcs⟩

/-- What is known before the last passes stands for something, apart from what is taken on
trust. -/
lemma RoutedSpec.forall_targets_iff :
    (∀ r ∈ t₀.rules, r.outboundTag = "" ∨ r.outboundTag = "api-out" ∨
      Stands t₀.outbounds r.outboundTag) ↔ TargetsRoutable env serverInfos setting := by
  constructor
  · intro hall
    have htarget (x : String) (hx : x ∈ t₀.targets) :
        x = "" ∨ x = "api-out" ∨ Routable env serverInfos setting.rulePortMode x := by
      obtain ⟨r, hr, rfl⟩ := mem_map.mp hx
      exact (hall r hr).imp_right (Or.imp_right h.stands_iff.mp)
    refine ⟨?_, fun x hx => ?_⟩
    · exact ((htarget _ h.proxy).resolve_left (by decide)).resolve_left (by decide)
    · obtain ⟨r, hr, rfl⟩ := mem_map.mp hx
      exact (htarget _ (h.routed.custom _ hx)).resolve_left (mem_customRules hr).2
  · rintro ⟨hproxy, hcustom⟩ r hr
    rcases (h.routed.rules r hr).2 with hempty | hfixed | hasked | ⟨isGroup, hnamed⟩
    · exact .inl hempty
    · refine .inr ?_
      rw [h.stands_iff]
      simp only [mem_cons, not_mem_nil, or_false] at hfixed
      rcases hfixed with hdirect | hfallback | hapi
      · exact .inr (hdirect ▸ .direct)
      · exact .inr (hfallback ▸ hproxy)
      · exact .inl hapi
    · exact .inr ((hcustom _ hasked).imp_right h.stands_iff.mpr)
    · exact .inr (.inr (stands_of_outNames hnamed))

/-- A name that is a balancer's has a balancer. -/
lemma RoutedSpec.exists_balancer
    (hget : (outNames t₀.outbounds).get? x = some true) : ∃ b ∈ t₀.balancers, b.tag = x := by
  rw [h.balancers]
  exact ⟨_, mem_map_of_mem (mem_groupNames.mpr hget), rfl⟩

/-- The core finds what a rule goes to after the last passes if the name stands for something
before. -/
lemma RoutedSpec.targetsExist_finish_iff :
    (finishTemplate env t₀).TargetsExist ↔ ∀ r ∈ t₀.rules, r.outboundTag = "" ∨
      r.outboundTag = "api-out" ∨ Stands t₀.outbounds r.outboundTag := by
  obtain ⟨inbounds, f, hf, hfinish⟩ := finishTemplate_eq env t₀
  obtain ⟨api, hapi, htag⟩ := h.api
  unfold Template.TargetsExist
  rw [hfinish]
  simp only [forall_mem_map, hf _, hapi, Option.map_some, htag]
  simp only [mem_map, exists_exists_and_eq_and, (setSockopt_frame env _ _).1]
  refine forall₂_congr fun r hr => ?_
  have hplain := (h.routed.rules r hr).1
  unfold RoutingRule.regroup
  split_ifs with hgroup
  · have hstands := stands_of_outNames hgroup.2
    have hbalancer := h.exists_balancer hgroup.2
    simp [hstands, hbalancer]
  · rw [stands_iff_outNames, hplain]
    by_cases hempty : r.outboundTag = ""
    · simp [hempty]
    · have hsingle : (outNames t₀.outbounds).get? r.outboundTag ≠ some true :=
        fun hget => hgroup ⟨hempty, hget⟩
      have hswap : "api-out" = r.outboundTag ↔ r.outboundTag = "api-out" := eq_comm
      simp [hempty, hsingle, hswap, or_comm]

end

/-- The core finds every target if and only if the template has `proxy` and what the custom
inbounds ask for. -/
theorem targetsExist_iff {setting : Option Setting}
    (h : newTemplate env serverInfos setting = .ok t) :
    t.TargetsExist ↔ TargetsRoutable env serverInfos (setting.getD env.setting) := by
  obtain ⟨t₀, -, hspec, rfl, -⟩ := newTemplate_ok h
  rw [hspec.targetsExist_finish_iff, hspec.forall_targets_iff]

/-! ### A group that nothing is connected to -/

/-- A machine with the default settings, where nothing is stored. -/
def plainEnv : TemplateEnv SOCKS where
  store := {}

/-- One node in a group. -/
def connectedTo (name : String) : List (ServerInfo SOCKS) :=
  [{ info := { name := "a", server := "h.example", port := 1080 }, outboundName := name }]

/-- The template for one node. -/
def singleTemplate (name : String) : Template SOCKS :=
  (newTemplate plainEnv (connectedTo name) none).toOption.getD { setting := {} }

theorem targetsExist_singleTemplate_proxy : (singleTemplate "proxy").TargetsExist := by
  have hok : newTemplate plainEnv (connectedTo "proxy") none = .ok (singleTemplate "proxy") := rfl
  have hcustom : customTargets plainEnv = [] := rfl
  exact (targetsExist_iff hok).mpr ⟨.member mem_cons_self, by simp [hcustom]⟩

/-- The only node is in a group besides `proxy`: the rule that all other traffic falls through to
goes nowhere. -/
theorem not_targetsExist_withoutProxy :
    newTemplate plainEnv (connectedTo "work") none = .ok (singleTemplate "work") ∧
      ¬(singleTemplate "work").TargetsExist :=
  ⟨rfl, by decide +kernel⟩

end V2rayA
