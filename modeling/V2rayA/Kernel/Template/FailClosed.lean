import V2rayA.Kernel.Template.Passes

/-!
# Groups without a node

The traffic of a managed group that has no node must not leave by another way: the group stands
for a blackhole, and a balancer without a live node falls back to one.

* `staysClosed_of_newTemplate`: the template for the nodes that the selection keeps.
-/

namespace V2rayA

open List

variable {ν : Type} [Configurable ν] {env : TemplateEnv ν} {serverInfos : List (ServerInfo ν)}
  {setting : Setting} {t₀ t : Template ν} {g : String}

/-- The traffic that the passes before the last ones send to the group `g` ends in a blackhole. -/
structure FailsClosed (env : TemplateEnv ν) (serverInfos : List (ServerInfo ν)) (setting : Setting)
    (t : Template ν) (g : String) : Prop where
  outbound : t.outbounds.filter (fun o => o.tag = g) = [blackhole g]
  rules : ∃ t₀, routedTemplate env serverInfos setting = .ok t₀ ∧
    List.Forall₂ (fun r₀ r => r₀.outboundTag = g → r.outboundTag = g ∧ r.balancerTag = "")
      t₀.rules t.rules
  /-- Traffic that no rule applies to leaves by the first outbound. -/
  proxy : g = defaultOutboundName → t.outbounds.head? = some (blackhole g)

/-- A balancer without a live node falls back to a blackhole. -/
def Template.FallsBack (t : Template ν) : Prop :=
  t.outbounds.filter (fun o => o.tag = "block") = [blackhole "block"] ∧
    ∀ b ∈ t.balancers, b.fallbackTag = "block"

/-! ### The blackhole -/

omit [Configurable ν] in
/-- The blackhole of `proxy` stays the first outbound. -/
lemma head?_foldl_addBlackhole {data : ServerData ν} {outbounds : List OutboundObject}
    {names : List String} (h : outbounds.head? = some (blackhole defaultOutboundName)) :
    (names.foldl (addBlackhole env data) outbounds).head? =
      some (blackhole defaultOutboundName) := by
  induction names generalizing outbounds with
  | nil => exact h
  | cons name names ih =>
    refine ih ?_
    unfold addBlackhole
    split_ifs with hclosed hproxy
    · rw [hproxy]
      rfl
    · rw [head?_append, h]
      rfl
    · exact h

omit [Configurable ν] in
lemma head?_resolvedOutbounds {data : ServerData ν} {cs : List (Contribution ν)}
    (hname : defaultOutboundName ∈ env.store.getOutbounds)
    (hclosed : (env.store.getOutboundSetting defaultOutboundName).FailClosed)
    (hempty : data.outboundName2ServerObjs defaultOutboundName = []) :
    (resolvedOutbounds env data [] cs).head? = some (blackhole defaultOutboundName) := by
  obtain ⟨before, after, hnames⟩ := append_of_mem hname
  have hfold (outbounds : List OutboundObject) :
      (env.store.getOutbounds.foldl (addBlackhole env data) outbounds).head? =
        some (blackhole defaultOutboundName) := by
    rw [hnames, foldl_append, foldl_cons]
    refine head?_foldl_addBlackhole ?_
    simp [addBlackhole, hclosed, hempty]
  simp [resolvedOutbounds, hfold]

/-- The blackhole of a group without a node is an outbound. -/
lemma RoutedSpec.blackhole_mem (h : RoutedSpec env serverInfos setting t₀)
    (hg : g ∈ env.store.getOutbounds) (hclosed : (env.store.getOutboundSetting g).FailClosed)
    (hempty : ∀ info ∈ serverInfos, info.outboundName ≠ g) : blackhole g ∈ t₀.outbounds := by
  obtain ⟨cs, hcs, houtbounds, -, -⟩ := h.resolved
  rw [houtbounds]
  exact mem_append_left _ (mem_resolvedOutbounds.mpr
    (.inr (.inl ⟨g, hg, hclosed, outboundName2ServerObjs_eq_nil.mpr hempty, rfl⟩)))

lemma RoutedSpec.block_mem (h : RoutedSpec env serverInfos setting t₀) :
    blackhole "block" ∈ t₀.outbounds := by
  obtain ⟨cs, hcs, houtbounds, -, -⟩ := h.resolved
  rw [houtbounds]
  exact mem_append_left _ (mem_resolvedOutbounds.mpr
    (.inr (.inr (.inr (.inl rfl)))))

/-! ### The last passes -/

omit [Configurable ν] in
/-- The last passes leave blackholes alone. -/
lemma blackhole_mem_finishTemplate (env : TemplateEnv ν) (h : blackhole g ∈ t₀.outbounds) :
    blackhole g ∈ (finishTemplate env t₀).outbounds := by
  obtain ⟨inbounds, f, -, hfinish⟩ := finishTemplate_eq env t₀
  rw [hfinish, ← setSockopt_blackhole env t₀.setting g]
  exact mem_map_of_mem h

/-- A rule that goes to a group without a node still does. -/
lemma RoutedSpec.forall₂_rules (h : RoutedSpec env serverInfos setting t₀)
    (hempty : ∀ info ∈ serverInfos, info.outboundName ≠ g) :
    List.Forall₂ (fun r₀ r => r₀.outboundTag = g → r.outboundTag = g ∧ r.balancerTag = "")
      t₀.rules (finishTemplate env t₀).rules := by
  obtain ⟨inbounds, f, hf, hfinish⟩ := finishTemplate_eq env t₀
  rw [hfinish, map_map, forall₂_map_right_iff, forall₂_same]
  rintro r hr rfl
  have hsingle : (outNames t₀.outbounds).get? r.outboundTag ≠ some true := by
    intro hget
    obtain ⟨info, hinfo, hname⟩ := h.exists_member hget
    exact hempty info hinfo hname
  have hkeep : RoutingRule.regroup (outNames t₀.outbounds) r = r := if_neg fun h => hsingle h.2
  rw [Function.comp_apply, hkeep, (hf r).1, (hf r).2]
  exact ⟨rfl, (h.routed.rules r hr).1⟩

variable {setting : Option Setting}

/-- A group that must stay routable stands for a blackhole when it has no node. -/
lemma failsClosed_of_ok (h : newTemplate env serverInfos setting = .ok t)
    (hg : g ∈ env.store.getOutbounds) (hclosed : (env.store.getOutboundSetting g).FailClosed)
    (hempty : ∀ info ∈ serverInfos, info.outboundName ≠ g) :
    FailsClosed env serverInfos (setting.getD env.setting) t g := by
  obtain ⟨t₀, ht₀, hspec, rfl, hnodup⟩ := newTemplate_ok h
  have hmem := blackhole_mem_finishTemplate env (hspec.blackhole_mem hg hclosed hempty)
  refine ⟨filter_eq_singleton_of_nodup_map hnodup hmem, ⟨t₀, ht₀, hspec.forall₂_rules hempty⟩,
    ?_⟩
  rintro rfl
  obtain ⟨cs, -, houtbounds, -, -⟩ := hspec.resolved
  obtain ⟨inbounds, f, -, hfinish⟩ := finishTemplate_eq env t₀
  rw [hfinish, houtbounds]
  simp [head?_resolvedOutbounds hg hclosed (outboundName2ServerObjs_eq_nil.mpr hempty)]

lemma fallsBack_of_ok (h : newTemplate env serverInfos setting = .ok t) : t.FallsBack := by
  obtain ⟨t₀, -, hspec, rfl, hnodup⟩ := newTemplate_ok h
  have hmem := blackhole_mem_finishTemplate env hspec.block_mem
  refine ⟨filter_eq_singleton_of_nodup_map hnodup hmem, fun b hb => ?_⟩
  obtain ⟨inbounds, f, -, hfinish⟩ := finishTemplate_eq env t₀
  rw [hfinish] at hb
  rw [hspec.balancers] at hb
  obtain ⟨name, -, rfl⟩ := mem_map.mp hb
  rfl

/-! ### The nodes that the selection keeps -/

lemma outboundName_assignPluginPorts {info : ServerInfo ν}
    (h : info ∈ assignPluginPorts env serverInfos) :
    ∃ info' ∈ serverInfos, info'.outboundName = info.outboundName := by
  obtain ⟨p, hp, rfl⟩ := mem_map.mp h
  refine ⟨p.1, fst_mem_of_mem_zipIdx hp, ?_⟩
  split_ifs <;> rfl

/-- The groups that must stay routable stand for blackholes when the selection leaves them no
node, and the balancers fall back to one. -/
def StaysClosed (env : TemplateEnv ν) (raw : List (ServerInfo ν)) (setting : Setting)
    (t : Template ν) : Prop :=
  let kept := applySelection env.nodeFingerprint env.store.getOutboundSetting raw
  (∀ g ∈ env.store.getOutbounds, (env.store.getOutboundSetting g).FailClosed →
    (∀ info ∈ kept, info.outboundName ≠ g) →
      FailsClosed env (assignPluginPorts env kept) setting t g) ∧ t.FallsBack

theorem staysClosed_of_newTemplate {raw : List (ServerInfo ν)} {setting : Option Setting}
    (h : newTemplate env (assignPluginPorts env
      (applySelection env.nodeFingerprint env.store.getOutboundSetting raw)) setting = .ok t) :
    StaysClosed env raw (setting.getD env.setting) t := by
  refine ⟨fun g hg hclosed hempty => failsClosed_of_ok h hg hclosed fun info hinfo hname => ?_,
    fallsBack_of_ok h⟩
  obtain ⟨info', hinfo', hname'⟩ := outboundName_assignPluginPorts hinfo
  exact hempty info' hinfo' (hname'.trans hname)

/-- `proxy` keeps to a node that is no longer connected. -/
def lostEnv : TemplateEnv SOCKS where
  store :=
    { outboundSetting := fun _ =>
        some { defaultOutboundSetting with type := .keepCurrent, stickyCurrent := "gone" } }

/-- The other node that is connected to `proxy`. -/
def lostInfos : List (ServerInfo SOCKS) :=
  [{ info := { name := "a", server := "h.example", port := 1080 }, outboundName := "proxy" }]

/-- The template without a node. -/
def lostTemplate : Template SOCKS :=
  (newTemplate lostEnv [] none).toOption.getD { setting := {} }

theorem staysClosed_lostTemplate :
    applySelection lostEnv.nodeFingerprint lostEnv.store.getOutboundSetting lostInfos = [] ∧
      FailsClosed lostEnv [] {} lostTemplate "proxy" ∧ lostTemplate.FallsBack := by
  have hkept : applySelection lostEnv.nodeFingerprint lostEnv.store.getOutboundSetting
    lostInfos = [] := by decide
  have hok : newTemplate lostEnv (assignPluginPorts lostEnv (applySelection
    lostEnv.nodeFingerprint lostEnv.store.getOutboundSetting lostInfos)) none =
      .ok lostTemplate := rfl
  obtain ⟨hclosed, hfallback⟩ := staysClosed_of_newTemplate hok
  rw [hkept] at hclosed
  exact ⟨hkept, hclosed "proxy" mem_cons_self (.inr rfl) (by simp), hfallback⟩

end V2rayA
