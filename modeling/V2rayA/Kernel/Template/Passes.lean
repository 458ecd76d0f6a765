import V2rayA.Kernel.Template.Core

/-!
# What the passes over a template leave

Every pass keeps the rules that are there and what they go to, up to the one that has rules go to
balancers. New rules go to the template's own outbounds, to `proxy`, to names that are known, or
to what a custom inbound asks for.

* `RoutedSpec`: what holds of a template before its last passes (`routedSpec_of_ok`).
* `finishTemplate_eq`: what the last passes change.
-/

namespace V2rayA

open Except (bind_eq_ok_iff)

open List OutboundObject RoutingRule

variable {ν : Type} {env : TemplateEnv ν} {t t' : Template ν}

/-- Where the rules of a template go. -/
def Template.targets (t : Template ν) : List String := t.rules.map RoutingRule.outboundTag

/-- The rules of the custom inbounds. -/
def customRules (env : TemplateEnv ν) : List RoutingRule :=
  (env.store.customInbounds.filter CustomInbound.usable).flatMap (CustomInbound.rules env)

/-- Where the rules of the custom inbounds go. -/
def customTargets (env : TemplateEnv ν) : List String :=
  (customRules env).map RoutingRule.outboundTag

/-- The outbounds that a mode of the rule port defines. -/
def definedOutbounds (env : TemplateEnv ν) : RulePortMode → List OutboundObject
  | .routingA =>
    match env.parseRoutingA env.routingA with
    | .error _ => []
    | .ok rules => rules.filterMap RoutingA.Rule.outbound
  | _ => []

/-- A target that a pass may give to a rule. -/
def Known (env : TemplateEnv ν) (outbounds : List OutboundObject) (x : String) : Prop :=
  x = "" ∨ x ∈ ["direct", "proxy", "api-out"] ∨ x ∈ customTargets env ∨
    ∃ b, (outNames outbounds).get? x = some b

/-- A rule that a pass may add. -/
def Admissible (env : TemplateEnv ν) (outbounds : List OutboundObject) (r : RoutingRule) : Prop :=
  r.balancerTag = "" ∧ Known env outbounds r.outboundTag

/-- The rules of a template while passes add to them. -/
structure Routed (env : TemplateEnv ν) (t : Template ν) : Prop where
  rules : ∀ r ∈ t.rules, Admissible env t.outbounds r
  custom : ∀ x ∈ customTargets env, x ∈ t.targets

/-- A change of rules that keeps where they go. -/
def KeepsTarget (f : RoutingRule → RoutingRule) : Prop :=
  ∀ r, (f r).outboundTag = r.outboundTag ∧ (f r).balancerTag = r.balancerTag

/-! ### Single rules -/

variable {outbounds : List OutboundObject}

lemma Known.append {x : String} (h : Known env outbounds x) (more : List OutboundObject) :
    Known env (outbounds ++ more) x := by
  refine h.imp_right (Or.imp_right (Or.imp_right ?_))
  rintro ⟨b, hb⟩
  obtain ⟨o, ho, hname⟩ := exists_of_outNames hb
  exact exists_outNames (mem_append_left more ho) hname

lemma known_firstProxyOutboundName (env : TemplateEnv ν) (outbounds : List OutboundObject) :
    Known env outbounds (firstProxyOutboundName outbounds) := by
  by_cases h : firstProxyOutboundName outbounds = ""
  · exact .inl h
  · exact .inr (.inr (.inr (outNames_firstProxyOutboundName h)))

lemma keepsTarget_followRulePort (tag : String) : KeepsTarget (followRulePort tag) := by
  intro r
  unfold followRulePort
  split_ifs <;> exact ⟨rfl, rfl⟩

lemma keepsTarget_addPrivate (privateAddrs : List String) :
    KeepsTarget (addPrivate privateAddrs) := by
  intro r
  unfold addPrivate
  split_ifs <;> exact ⟨rfl, rfl⟩

lemma keepsTarget_addLocalDns : KeepsTarget RoutingRule.addLocalDns := by
  intro r
  unfold RoutingRule.addLocalDns
  split_ifs <;> exact ⟨rfl, rfl⟩

lemma keepsTarget_twin (ipv6 : Bool) (tags : List String) :
    KeepsTarget (twin ipv6 tags) := fun _ => ⟨rfl, rfl⟩

variable {r : RoutingRule}

/-- A statement only decides which connections its rule applies to. -/
lemma translate_ok {inboundTags : List String} {conditions : List RoutingA.Function}
    {out : String} (h : RoutingA.translate env inboundTags conditions out = .ok r) :
    r.outboundTag = out ∧ r.balancerTag = "" := by
  refine Except.invariant_foldlM (P := fun r => r.outboundTag = out ∧ r.balancerTag = "") h
    ⟨rfl, rfl⟩ ?_
  intro f _ r r' hr hf
  unfold RoutingA.addCondition at hf
  split at hf
  all_goals
    first
      | (obtain ⟨entries, -, hf⟩ := bind_eq_ok_iff.mp hf
         cases hf
         exact hr)
      | (cases hf
         exact hr)

/-! ### Passes that add rules -/

/-- A pass that keeps the rules and adds admissible ones. -/
lemma Routed.extend (h : Routed env t) (pre : List RoutingRule) (f : RoutingRule → RoutingRule)
    (post : List RoutingRule) (more : List OutboundObject)
    (houtbounds : t'.outbounds = t.outbounds ++ more)
    (hrules : t'.rules = pre ++ t.rules.map f ++ post) (hf : KeepsTarget f)
    (hpre : ∀ r ∈ pre, Admissible env t'.outbounds r)
    (hpost : ∀ r ∈ post, Admissible env t'.outbounds r) : Routed env t' where
  rules r hr := by
    rw [hrules, mem_append, mem_append] at hr
    rcases hr with (hr | hr) | hr
    · exact hpre r hr
    · obtain ⟨r₀, hr₀, rfl⟩ := mem_map.mp hr
      obtain ⟨hplain, hknown⟩ := h.rules r₀ hr₀
      refine ⟨(hf r₀).2.trans hplain, ?_⟩
      rw [(hf r₀).1, houtbounds]
      exact hknown.append more
    · exact hpost r hr
  custom x hx := by
    obtain ⟨r, hr, rfl⟩ := mem_map.mp (h.custom x hx)
    rw [← (hf r).1]
    refine mem_map_of_mem ?_
    rw [hrules]
    exact mem_append_left _ (mem_append_right _ (mem_map_of_mem hr))

variable {inbounds : List String}

/-- The rules of the modes go to the first outbound, to `proxy` or to `direct`. -/
lemma mem_whitelistRules {first : String} :
    ∀ r ∈ whitelistRules env first inbounds,
      r.balancerTag = "" ∧ r.outboundTag ∈ [first, "direct", "proxy"] := by
  simp [whitelistRules]

lemma mem_gfwlistRules {first : String} :
    ∀ r ∈ gfwlistRules env first inbounds,
      r.balancerTag = "" ∧ r.outboundTag ∈ [first, "direct", "proxy"] := by
  unfold gfwlistRules
  split_ifs <;> simp

lemma admissible_of_mem
    (h : r.balancerTag = "" ∧
      r.outboundTag ∈ [firstProxyOutboundName outbounds, "direct", "proxy"]) :
    Admissible env outbounds r := by
  refine ⟨h.1, ?_⟩
  rcases mem_cons.mp h.2 with heq | hown
  · rw [heq]
    exact known_firstProxyOutboundName env outbounds
  · exact .inr (.inl (mem_append_left ["api-out"] hown))

lemma admissible_appleRule (outbounds : List OutboundObject) (inbounds : List String) :
    Admissible env outbounds (appleRule inbounds) :=
  ⟨rfl, .inr (.inl (by simp [appleRule]))⟩

lemma setInbound_ok (h : setInbound env t = .ok t') :
    ∃ inbounds, t' = { t with inbounds, rules := t.rules ++ customRules env } := by
  obtain ⟨clients, -, h⟩ := bind_eq_ok_iff.mp h
  exact ⟨_, (Except.ok.inj h).symm⟩

lemma mem_customRules (hr : r ∈ customRules env) :
    r.balancerTag = "" ∧ r.outboundTag ≠ "" := by
  obtain ⟨ci, -, hr⟩ := mem_flatMap.mp hr
  unfold CustomInbound.rules at hr
  split at hr
  · simp at hr
  · rename_i houtbound
    split at hr
    · obtain rfl := mem_singleton.mp hr
      exact ⟨rfl, houtbound⟩
    · split at hr
      · simp at hr
      · split at hr
        · simp at hr
        · rename_i rules hrules
          obtain ⟨statements, -, hrules⟩ := bind_eq_ok_iff.mp hrules
          refine Except.invariant_foldlM (P := fun rules : List RoutingRule =>
            ∀ r ∈ rules, r.balancerTag = "" ∧ r.outboundTag ≠ "") hrules (by simp) ?_ r hr
          intro statement _ acc acc' hacc hstep
          split at hstep
          · cases hstep
            exact hacc
          · obtain ⟨rr, hrr, hstep⟩ := bind_eq_ok_iff.mp hstep
            cases hstep
            split_ifs with hne
            · exact forall_mem_append.mpr
                ⟨hacc, forall_mem_singleton.mpr ⟨(translate_ok hrr).2, hne⟩⟩
            · exact hacc
    · simp at hr

/-- The rules of the RoutingA text go to names that are known. -/
lemma parseRoutingA_ok (h : parseRoutingA env inbounds t = .ok t') :
    ∃ rules statements, env.parseRoutingA env.routingA = .ok statements ∧
      t' = { t with
        outbounds := t.outbounds ++ statements.filterMap RoutingA.Rule.outbound
        rules := t.rules ++ rules } ∧
      ∀ r ∈ rules, Admissible env t'.outbounds r := by
  obtain ⟨statements, hstatements, h⟩ := bind_eq_ok_iff.mp h
  obtain ⟨⟨defaultOutbound, parsed⟩, hparsed, h⟩ := bind_eq_ok_iff.mp h
  cases h
  set outbounds := t.outbounds ++ statements.filterMap RoutingA.Rule.outbound with houtbounds
  -- The default outbound and the rules so far, statement by statement.
  have hinv : Known env outbounds defaultOutbound ∧ ∀ r ∈ parsed, Admissible env outbounds r := by
    refine Except.invariant_foldlM (P := fun acc : String × List RoutingRule =>
      Known env outbounds acc.1 ∧ ∀ r ∈ acc.2, Admissible env outbounds r) hparsed
      ⟨(known_firstProxyOutboundName env t.outbounds).append _, by simp⟩ ?_
    rintro rule - ⟨default₀, rules₀⟩ acc' ⟨hdefault, hrules⟩ hstep
    unfold RoutingA.parseStep at hstep
    split at hstep
    · split_ifs at hstep with hname
      cases hstep
      exact ⟨.inr (.inr (.inr (Option.isSome_iff_exists.mp hname))), hrules⟩
    · cases hstep
      exact ⟨hdefault, hrules⟩
    · obtain ⟨rr, hrr, hstep⟩ := bind_eq_ok_iff.mp hstep
      split_ifs at hstep with hname
      cases hstep
      refine ⟨hdefault, fun r hr => ?_⟩
      rcases mem_append.mp hr with hr | hr
      · exact hrules r hr
      · obtain rfl := mem_singleton.mp hr
        refine ⟨(translate_ok hrr).2, ?_⟩
        by_cases hempty : r.outboundTag = ""
        · exact .inl hempty
        · have hsome : ((outNames outbounds).get? r.outboundTag).isSome := by
            simpa [hempty, Option.isSome_iff_ne_none] using hname
          exact .inr (.inr (.inr (Option.isSome_iff_exists.mp hsome)))
  refine ⟨_, statements, hstatements, by rw [append_assoc], fun r hr => ?_⟩
  rcases mem_append.mp hr with hr | hr
  · exact hinv.2 r hr
  · obtain rfl := mem_singleton.mp hr
    exact ⟨rfl, hinv.1⟩

attribute [local simp] definedOutbounds

/-- The rules of a mode. -/
lemma appendRoutingRuleByMode_ok {mode : RulePortMode}
    (h : appendRoutingRuleByMode env mode inbounds t = .ok t') :
    ∃ rules, t' = { t with
        outbounds := t.outbounds ++ definedOutbounds env mode
        rules := t.rules ++ rules } ∧
      ∀ r ∈ rules, Admissible env t'.outbounds r := by
  -- Every mode begins with the rule for the push service of Apple.
  have hcons (rules : List RoutingRule) (hrules : ∀ r ∈ rules, Admissible env t'.outbounds r) :
      ∀ r ∈ appleRule inbounds :: rules, Admissible env t'.outbounds r :=
    forall_mem_cons.mpr ⟨admissible_appleRule _ _, hrules⟩
  cases mode with
  | whitelist =>
    refine ⟨appleRule inbounds :: whitelistRules env (firstProxyOutboundName t.outbounds) inbounds,
      ?_, ?_⟩
    · simp [← Except.ok.inj h]
    · refine hcons _ fun r hr => admissible_of_mem ?_
      rw [← Except.ok.inj h]
      exact mem_whitelistRules r hr
  | gfwlist =>
    refine ⟨appleRule inbounds :: gfwlistRules env (firstProxyOutboundName t.outbounds) inbounds,
      ?_, ?_⟩
    · simp [← Except.ok.inj h]
    · refine hcons _ fun r hr => admissible_of_mem ?_
      rw [← Except.ok.inj h]
      exact mem_gfwlistRules r hr
  | routingA =>
    obtain ⟨rules, statements, hstatements, ht', hrules⟩ := parseRoutingA_ok h
    refine ⟨appleRule inbounds :: rules, ?_, hcons _ hrules⟩
    simp [ht', hstatements]
  | custom | other raw =>
    exact ⟨[appleRule inbounds], by simp [← Except.ok.inj h], hcons [] (by simp)⟩

/-- The rules for intercepted traffic. -/
lemma setTransparentRouting_ok (h : setTransparentRouting env t = .ok t') :
    ∃ f rules, KeepsTarget f ∧ t' = { t with rules := t.rules.map f ++ rules } ∧
      ∀ r ∈ rules, Admissible env t'.outbounds r := by
  have hid : KeepsTarget id := fun _ => ⟨rfl, rfl⟩
  unfold setTransparentRouting at h
  split at h
  · cases h
    refine ⟨id, _, hid, by rw [map_id], ?_⟩
    exact forall_mem_singleton.mpr ⟨rfl, known_firstProxyOutboundName env t.outbounds⟩
  · obtain ⟨rules, ht', hrules⟩ := appendRoutingRuleByMode_ok h
    exact ⟨id, rules, hid, by simpa using ht', hrules⟩
  · obtain ⟨rules, ht', hrules⟩ := appendRoutingRuleByMode_ok h
    exact ⟨id, rules, hid, by simpa using ht', hrules⟩
  · exact ⟨followRulePort "transparent", [], keepsTarget_followRulePort _,
      by simp [← Except.ok.inj h], by simp⟩
  · exact ⟨id, [], hid, by simp [← Except.ok.inj h], by simp⟩

lemma routeTransparent_ok {setting : Setting} (h : routeTransparent env setting t = .ok t') :
    ∃ f rules, KeepsTarget f ∧ t' = { t with rules := t.rules.map f ++ rules } ∧
      ∀ r ∈ rules, Admissible env t'.outbounds r := by
  unfold routeTransparent at h
  split_ifs at h
  · exact setTransparentRouting_ok h
  · cases h
    exact ⟨id, [], fun _ => ⟨rfl, rfl⟩, by simp, by simp⟩

namespace Routed

lemma setVmessInboundRouting (h : Routed env t) : Routed env (setVmessInboundRouting env t) := by
  unfold V2rayA.setVmessInboundRouting
  split_ifs
  · exact h
  · exact h.extend [] (followRulePort "vmess") [] [] (by simp) (by simp)
      (keepsTarget_followRulePort _) (by simp) (by simp)

lemma setAPI [ServerObj ν] (h : Routed env t) (data : ServerData ν) :
    Routed env (setAPI env data t) :=
  h.extend [] id [{ inboundTag := ["api-in"], outboundTag := "api-out" }] []
    (by simp [V2rayA.setAPI]) (by simp [V2rayA.setAPI]) (fun _ => ⟨rfl, rfl⟩) (by simp)
    (forall_mem_singleton.mpr ⟨rfl, .inr (.inl (by simp))⟩)

lemma setWhitelistRouting [ServerObj ν] (h : Routed env t) (serverInfos : List (ServerInfo ν)) :
    Routed env (setWhitelistRouting env serverInfos t) := by
  refine h.extend (serverInfos.map (whitelistRule env)) id [] [] (by simp [V2rayA.setWhitelistRouting])
    (by simp [V2rayA.setWhitelistRouting]) (fun _ => ⟨rfl, rfl⟩) (fun r hr => ?_) (by simp)
  obtain ⟨info, -, rfl⟩ := mem_map.mp hr
  unfold whitelistRule
  dsimp only
  split_ifs <;> exact ⟨rfl, .inr (.inl (by simp))⟩

lemma updatePrivateRouting (h : Routed env t) : Routed env (updatePrivateRouting env t) :=
  h.extend [] (addPrivate env.localCIDR) [] [] (by simp [V2rayA.updatePrivateRouting])
    (by simp [V2rayA.updatePrivateRouting]) (keepsTarget_addPrivate _) (by simp) (by simp)

/-- The passes after those that can fail. -/
lemma completeRouting [ServerObj ν] (h : Routed env t) (data : ServerData ν) :
    Routed env (completeRouting env data t) := by
  have hrouted := (((h.setVmessInboundRouting).setAPI data).setWhitelistRouting
    data.serverInfos).updatePrivateRouting
  exact hrouted.extend [] id [spareTireRule] [] (by simp [V2rayA.completeRouting])
    (by simp [V2rayA.completeRouting]) (fun _ => ⟨rfl, rfl⟩) (by simp)
    (forall_mem_singleton.mpr ⟨rfl, .inr (.inl (by simp [spareTireRule]))⟩)

end Routed

/-! ### The template before its last passes -/

lemma RoutingA.Rule.balancers_outbound {rule : RoutingA.Rule} {o : OutboundObject}
    (h : rule.outbound = some o) : o.balancers = [] := by
  unfold RoutingA.Rule.outbound at h
  repeat' split at h
  all_goals first | contradiction | (obtain rfl := Option.some.inj h; rfl)

lemma balancers_definedOutbounds {mode : RulePortMode} {o : OutboundObject}
    (ho : o ∈ definedOutbounds env mode) :
    o.balancers = [] := by
  unfold definedOutbounds at ho
  split at ho
  · split at ho
    · simp at ho
    · obtain ⟨rule, -, hrule⟩ := mem_filterMap.mp ho
      exact RoutingA.Rule.balancers_outbound hrule
  · simp at ho

lemma mem_groupNames {site : ℕ} {name : String} :
    name ∈ groupNames env site outbounds ↔ (outNames outbounds).get? name = some true := by
  simp only [groupNames, mem_map, mem_filter, Go.Runtime.mem_mapOrder]
  constructor
  · rintro ⟨⟨_, _⟩, ⟨hmem, rfl⟩, rfl⟩
    exact Go.Map.mem_ofWrites.mp hmem
  · intro hget
    exact ⟨(name, true), ⟨Go.Map.mem_ofWrites.mpr hget, rfl⟩, rfl⟩

section Spec

variable [Configurable ν] {serverInfos : List (ServerInfo ν)} {setting : Setting}

/-- What holds of a template before its last passes. -/
structure RoutedSpec (env : TemplateEnv ν) (serverInfos : List (ServerInfo ν)) (setting : Setting)
    (t : Template ν) : Prop where
  resolved : ∃ cs, contributions env (newServerData env serverInfos) = .ok cs ∧
    t.outbounds = resolvedOutbounds env (newServerData env serverInfos) [] cs ++
      definedOutbounds env setting.rulePortMode ∧
    t.outboundTags = assignTags serverInfos.length cs ∧
    t.serverInfoMap = .ofWrites (cs.map fun c => (c.tag, c.serverInfo))
  routed : Routed env t
  /-- The rule that all other traffic falls through to. -/
  proxy : "proxy" ∈ t.targets
  balancers : t.balancers =
    (groupNames env 6 t.outbounds).map (newServerData env serverInfos).balancer
  multiObservatory : t.multiObservatory =
    let data := newServerData env serverInfos
    let observed := (groupNames env 6 t.outbounds).filter fun name =>
      (data.outboundName2Setting name).type.observed
    if observed = [] then none else some (observed.map (data.observer env))
  api : ∃ api, t.api = some api ∧ api.tag = "api-out"
  /-- The traffic is always polled. -/
  apiCloses : t.apiCloses ≠ []
  setting : t.setting = setting

/-- The groups of an outbound have a connection. -/
lemma Contributed.exists_member {c : Contribution ν}
    (h : Contributed env (newServerData env serverInfos) c) {name : String}
    (hname : name ∈ c.outbound.balancers) : ∃ info ∈ serverInfos, info.outboundName = name := by
  obtain ⟨node, hnode, p, hp, rfl, -⟩ := h.exists_of_mem_balancers hname
  have hmem := (linked_newServerData env serverInfos).mem_zipIdx hnode hp
  exact ⟨p.1, fst_mem_of_mem_zipIdx hmem, rfl⟩

/-- A group that is a balancer has a connection. -/
lemma RoutedSpec.exists_member (h : RoutedSpec env serverInfos setting t) {name : String}
    (hget : (outNames t.outbounds).get? name = some true) :
    ∃ info ∈ serverInfos, info.outboundName = name := by
  obtain ⟨cs, hcs, houtbounds, -, -⟩ := h.resolved
  obtain ⟨o, ho, hgroup⟩ := mem_balancers_of_outNames hget
  rw [houtbounds, mem_append, mem_resolvedOutbounds] at ho
  have hplain (hbalancers : o.balancers = []) : False := by simp [hbalancers] at hgroup
  rcases ho with (⟨c, hc, rfl⟩ | ⟨_, -, -, -, rfl⟩ | rfl | rfl | ⟨c, hc, ho⟩) | ho
  · exact (contributed_of_mem hcs hc).exists_member hgroup
  · exact (hplain rfl).elim
  · exact (hplain rfl).elim
  · exact (hplain rfl).elim
  · exact (hplain ((contributed_of_mem hcs hc).balancers_extraOutbounds o ho)).elim
  · exact (hplain (balancers_definedOutbounds ho)).elim

/-- What the passes after those that can fail do besides routing. -/
lemma completeRouting_eq (env : TemplateEnv ν) (data : ServerData ν) (t : Template ν) :
    ∃ rules, completeRouting env data t = { setAPI env data t with rules } := by
  unfold completeRouting setVmessInboundRouting
  split_ifs <;> exact ⟨_, rfl⟩

lemma routedSpec_of_ok (h : routedTemplate env serverInfos setting = .ok t) :
    RoutedSpec env serverInfos setting t := by
  obtain ⟨t₁, ht₁, h⟩ := bind_eq_ok_iff.mp h
  obtain ⟨t₂, ht₂, h⟩ := bind_eq_ok_iff.mp h
  obtain ⟨dns, -, h⟩ := bind_eq_ok_iff.mp h
  obtain ⟨t₄, ht₄, h⟩ := bind_eq_ok_iff.mp h
  obtain ⟨t₅, ht₅, h⟩ := bind_eq_ok_iff.mp h
  cases h
  obtain ⟨cs, hcs, rfl⟩ := resolveOutbounds_eq_ok ht₁
  obtain ⟨inbounds, rfl⟩ := setInbound_ok ht₂
  obtain ⟨rules, ht₄, hrules⟩ := appendRoutingRuleByMode_ok ht₄
  obtain ⟨f, rules', hf, ht₅, hrules'⟩ := routeTransparent_ok ht₅
  -- The rules, from the custom inbounds on.
  have hcustom : Routed env t₄ := by
    subst ht₄
    refine ⟨fun r hr => ?_, fun x hx => ?_⟩
    · rcases mem_append.mp hr with hr | hr
      · exact ⟨(mem_customRules hr).1,
          .inr (.inr (.inl (mem_map_of_mem hr)))⟩
      · exact hrules r hr
    · obtain ⟨r, hr, rfl⟩ := mem_map.mp hx
      exact mem_map_of_mem (mem_append_left _ (mem_append_right _ hr))
  have hrouted : Routed env t₅ :=
    hcustom.extend [] f rules' [] (by simp [ht₅]) (by simp [ht₅]) hf (by simp) hrules'
  have hstate : t₅.outbounds = resolvedOutbounds env (newServerData env serverInfos) [] cs ++
      definedOutbounds env setting.rulePortMode ∧
      t₅.outboundTags = assignTags serverInfos.length cs ∧
      t₅.serverInfoMap = .ofWrites (cs.map fun c => (c.tag, c.serverInfo)) ∧
      t₅.balancers = [] ∧ t₅.multiObservatory = none ∧ t₅.setting = setting := by
    rw [ht₅, ht₄]
    exact ⟨rfl, rfl, rfl, rfl, rfl, rfl⟩
  obtain ⟨houtbounds, htags, hmap, hbalancers, hobservatory, hsetting⟩ := hstate
  obtain ⟨final, hfinal⟩ := completeRouting_eq env (newServerData env serverInfos) t₅
  exact
    { resolved := ⟨cs, hcs, by rw [hfinal]; exact houtbounds, by rw [hfinal]; exact htags,
        by rw [hfinal]; exact hmap⟩
      routed := hrouted.completeRouting _
      proxy := by simp [Template.targets, completeRouting, spareTireRule]
      balancers := by simp [hfinal, setAPI, hbalancers]
      multiObservatory := by simp [hfinal, setAPI, hobservatory]
      api := by rw [hfinal]; exact ⟨_, rfl, rfl⟩
      apiCloses := by simp [hfinal, setAPI]
      setting := by rw [hfinal]; exact hsetting }

end Spec

/-! ### The last passes -/

/-- `t'` differs from `t` in its inbounds and in what the rules say about them. -/
def Readdressed (t t' : Template ν) : Prop :=
  ∃ inbounds f, KeepsTarget f ∧ t' = { t with inbounds, rules := t.rules.map f }

lemma Readdressed.trans {t₁ t₂ t₃ : Template ν} (h₁ : Readdressed t₁ t₂)
    (h₂ : Readdressed t₂ t₃) : Readdressed t₁ t₃ := by
  obtain ⟨_, f, hf, rfl⟩ := h₁
  obtain ⟨inbounds, g, hg, rfl⟩ := h₂
  refine ⟨inbounds, g ∘ f, fun r => ⟨?_, ?_⟩, by simp⟩
  · exact (hg (f r)).1.trans (hf r).1
  · exact (hg (f r)).2.trans (hf r).2

lemma readdressed_optimizeGeoip (env : TemplateEnv ν) (t : Template ν) :
    Readdressed t (optimizeGeoipMemoryOccupation env t) := by
  unfold optimizeGeoipMemoryOccupation
  split_ifs
  · exact ⟨_, smallGeoip, fun _ => ⟨rfl, rfl⟩, rfl⟩
  · exact ⟨_, id, fun _ => ⟨rfl, rfl⟩, by rw [map_id]⟩

lemma readdressed_addTwins (env : TemplateEnv ν) (t : Template ν) :
    Readdressed t (addTwins env t) :=
  ⟨_, _, keepsTarget_twin env.ipv6Supported _, rfl⟩

lemma readdressed_addLocalDns (env : TemplateEnv ν) (t : Template ν) :
    Readdressed t (addLocalDns env t) := by
  unfold addLocalDns
  split
  · exact ⟨_, id, fun _ => ⟨rfl, rfl⟩, by rw [map_id]⟩
  · split_ifs
    · exact ⟨_, id, fun _ => ⟨rfl, rfl⟩, by rw [map_id]⟩
    · exact ⟨_, RoutingRule.addLocalDns, keepsTarget_addLocalDns, rfl⟩

/-- What the last passes do: name the balancers in the rules, and set the sockets. -/
lemma finishTemplate_eq (env : TemplateEnv ν) (t : Template ν) :
    ∃ inbounds f, KeepsTarget f ∧ finishTemplate env t =
      { t with
        inbounds
        outbounds := t.outbounds.map (setSockopt env t.setting)
        rules := (t.rules.map (regroup (outNames t.outbounds))).map f } := by
  obtain ⟨_, f, hf, hgeoip⟩ := readdressed_optimizeGeoip env (setGroupRouting t)
  obtain ⟨inbounds, g, hg, hdual⟩ := (readdressed_addTwins env _).trans
    (readdressed_addLocalDns env
      (addTwins env (setOutboundSockopt env (optimizeGeoipMemoryOccupation env
        (setGroupRouting t)))))
  refine ⟨inbounds, g ∘ f, fun r => ⟨(hg (f r)).1.trans (hf r).1, (hg (f r)).2.trans (hf r).2⟩, ?_⟩
  unfold finishTemplate setDualStack
  rw [hdual, hgeoip]
  simp [setOutboundSockopt, setGroupRouting]

/-- The last passes keep the tags of the outbounds. -/
lemma tags_finishTemplate {env : TemplateEnv ν} {t : Template ν} :
    (finishTemplate env t).outbounds.map tag =
      t.outbounds.map tag := by
  obtain ⟨inbounds, f, -, hfinish⟩ := finishTemplate_eq env t
  rw [hfinish, map_map]
  exact map_congr_left fun o _ => (setSockopt_frame env _ o).1

/-- A template comes from the passes before, by the last passes, and has passed the checks. -/
lemma newTemplate_ok [Configurable ν] {env : TemplateEnv ν} {serverInfos : List (ServerInfo ν)}
    {setting : Option Setting} {t : Template ν} (h : newTemplate env serverInfos setting = .ok t) :
    ∃ t₀, routedTemplate env serverInfos (setting.getD env.setting) = .ok t₀ ∧
      RoutedSpec env serverInfos (setting.getD env.setting) t₀ ∧ t = finishTemplate env t₀ ∧
      (t.outbounds.map tag).Nodup := by
  obtain ⟨t₀, ht₀, h⟩ := bind_eq_ok_iff.mp h
  obtain ⟨_, htags, h⟩ := bind_eq_ok_iff.mp h
  obtain ⟨_, _, h⟩ := bind_eq_ok_iff.mp h
  cases h
  exact ⟨t₀, ht₀, routedSpec_of_ok ht₀, rfl, nodup_of_checkDuplicatedTags htags⟩

end V2rayA
