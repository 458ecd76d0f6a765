import V2rayA.Core.Dns.Rule
import V2rayA.Go.Map

/-!
# The router of the DNS module

The router keeps the rules with their matchers, where the upstreams are, and which of them answers
what no rule matches. `Reload` replaces these one after the other.

* `pick_of_isCompiled`: a query is answered by the first rule that matches it.
* `reload_law_iff`: when a reload leaves the router of the new configuration, or the old one after
  an error.
-/

namespace V2rayA.Dns

open List

/-- `RouteResult`. -/
structure RouteResult where
  upstreamID : String
  upstreamAddr : String
  action : String
  ruleID : String
  policy : String
  proxyTag : String
  deriving DecidableEq, Repr

/-- `Router`. -/
structure Router where
  rules : List DnsRule := []
  matchers : List (List RuleMatcher) := []
  /-- The addresses of the upstreams. -/
  upstreamMap : Go.Map String String := []
  /-- The outbounds of the upstreams that have one. -/
  upstreamProxyTag : Go.Map String String := []
  defaultUpstream : String := ""
  geositeResolver : Option GeositeResolver := none

variable {lib : Library} {resolver : Option GeositeResolver}

/-! ### Rules -/

/-- The matchers of rules. -/
def compileRules (lib : Library) (resolver : Option GeositeResolver) (rules : List DnsRule) :
    Except Go.Error (List (List RuleMatcher)) :=
  rules.zipIdx.mapM fun e =>
    (buildMatchers lib resolver e.1).mapError
      (·.wrap ("rule " ++ toString e.2 ++ " (id=" ++ Go.quote e.1.id ++ ")"))

variable {rules : List DnsRule}

variable {matchers : List (List RuleMatcher)}

lemma compileRules_eq_ok_iff :
    compileRules lib resolver rules = .ok matchers ↔
      List.Forall₂ (fun rule ms => buildMatchers lib resolver rule = .ok ms) rules matchers := by
  have hrules : rules = rules.zipIdx.map Prod.fst := by simp
  rw [compileRules, mapM_eq_ok_iff]
  conv_rhs => rw [hrules, forall₂_map_left_iff]
  simp only [Except.mapError_eq_ok_iff]

/-- Rules can be compiled exactly if each of them can be read. -/
lemma exists_compileRules_iff (resolver : Option GeositeResolver) :
    (∃ matchers, compileRules lib resolver rules = .ok matchers) ↔
      ∀ rule ∈ rules, rule.Compiles lib := by
  have hbuild (rule : DnsRule) :
      (∃ ms, buildMatchers lib resolver rule = .ok ms) ↔ rule.Compiles lib := by
    rw [← exists_texts_iff, buildMatchers]
    cases rule.texts lib <;> simp [Except.map]
  simp only [compileRules_eq_ok_iff, ← mapM_eq_ok_iff, exists_mapM_eq_ok_iff, hbuild]

/-- `UpdateRules`. -/
def Router.updateRules (lib : Library) (rules : List DnsRule) : Go.Op Router := fun r =>
  match compileRules lib r.geositeResolver rules with
  | .error err => (some err, r)
  | .ok matchers => (none, { r with rules, matchers })

/-! ### Upstreams -/

/-- The addresses and the outbounds of upstreams. -/
def upstreamMaps (upstreams : List UpstreamConfig) : Go.Map String String × Go.Map String String :=
  upstreams.foldl (fun maps u =>
    if u.id = "" then maps
    else (maps.1.put u.id u.addr, if u.proxyTag = "" then maps.2 else maps.2.put u.id u.proxyTag))
    ([], [])

/-- A router for rules and upstreams with a resolver in place. -/
def buildRouter (lib : Library) (resolver : Option GeositeResolver) (rules : List DnsRule)
    (upstreams : List UpstreamConfig) (defaultUpstream : String) : Except Go.Error Router :=
  let maps := upstreamMaps upstreams
  let r : Router :=
    { upstreamMap := maps.1, upstreamProxyTag := maps.2, defaultUpstream,
      geositeResolver := resolver }
  match r.updateRules lib rules with
  | (some err, _) => .error (err.wrap "new router")
  | (none, r) => .ok r

variable {r : Router}

lemma buildRouter_eq_ok_iff {upstreams : List UpstreamConfig} {defaultUpstream : String} :
    buildRouter lib resolver rules upstreams defaultUpstream = .ok r ↔
      ∃ matchers, compileRules lib resolver rules = .ok matchers ∧
        r = { rules, matchers, defaultUpstream, geositeResolver := resolver
              upstreamMap := (upstreamMaps upstreams).1
              upstreamProxyTag := (upstreamMaps upstreams).2 } := by
  simp only [buildRouter, Router.updateRules]
  cases compileRules lib resolver rules <;> simp [eq_comm]

/-- What is found under the name of an upstream: the last one counts, and an empty outbound does
not. -/
lemma get?_upstreamMaps (upstreams : List UpstreamConfig) {k : String} (hk : k ≠ "") :
    (upstreamMaps upstreams).1.get? k =
        (upstreams.reverse.find? fun u => u.id = k).map (·.addr) ∧
      (upstreamMaps upstreams).2.get? k =
        (upstreams.reverse.find? fun u => u.id = k ∧ u.proxyTag ≠ "").map (·.proxyTag) := by
  induction upstreams using reverseRecOn with
  | nil => exact ⟨rfl, rfl⟩
  | append_singleton us u ih =>
    have hstep : upstreamMaps (us ++ [u]) =
        if u.id = "" then upstreamMaps us
        else ((upstreamMaps us).1.put u.id u.addr,
          if u.proxyTag = "" then (upstreamMaps us).2
          else (upstreamMaps us).2.put u.id u.proxyTag) := by
      rw [upstreamMaps, foldl_append]
      rfl
    rw [hstep, reverse_append, reverse_singleton, singleton_append]
    by_cases hid : u.id = k
    · by_cases htag : u.proxyTag = "" <;> simp [hk, hid, htag, Go.Map.get?_put, ih]
    · by_cases hempty : u.id = "" <;> by_cases htag : u.proxyTag = "" <;>
        simp [hempty, hid, htag, Go.Map.get?_put, Ne.symm hid, Ne.symm hk, ih]

/-- Upstreams with other names do not change where an upstream is. -/
lemma get?_upstreamMaps_append {us : List UpstreamConfig} (us' : List UpstreamConfig)
    {k : String} (hk : k ≠ "") (h : ∀ u ∈ us, u.id ≠ k) :
    (upstreamMaps (us ++ us')).1.get? k = (upstreamMaps us').1.get? k ∧
      (upstreamMaps (us ++ us')).2.get? k = (upstreamMaps us').2.get? k := by
  have hnone {p : UpstreamConfig → Bool} (hp : ∀ u, p u = true → u.id = k) :
      us.reverse.find? p = none := by
    rw [find?_eq_none]
    exact fun u hu hpu => h u (mem_reverse.mp hu) (hp u hpu)
  simp only [get?_upstreamMaps _ hk, reverse_append, find?_append]
  rw [hnone (by simp), hnone fun u hu => (of_decide_eq_true hu).1]
  simp

/-- `NewRouter`. -/
def newRouter (lib : Library) (rules : List DnsRule) (upstreams : List UpstreamConfig)
    (defaultUpstream : String) : Except Go.Error Router :=
  buildRouter lib none rules upstreams defaultUpstream

/-- `SetGeositeResolver`. -/
def Router.setGeositeResolver (r : Router) (resolver : Option GeositeResolver) : Router :=
  { r with geositeResolver := resolver }

/-- `Reload`. -/
def Router.reload (lib : Library) : Option DnsModuleConfig → Go.Op Router
  | none => fun r => (some ⟨"router reload: config is nil", "", []⟩, r)
  | some cfg => fun r =>
    -- the upstreams are replaced before the rules are known to be usable
    let maps := upstreamMaps cfg.upstreams
    { r with upstreamMap := maps.1, upstreamProxyTag := maps.2 }.updateRules lib cfg.rules

/-! ### Routing -/

/-- The value of a key, empty if there is none. -/
def lookup (m : Go.Map String String) (k : String) : String := (m.get? k).getD ""

/-- The rule that a query is answered by. -/
def Router.pick (r : Router) (q : DnsQuery) : Option DnsRule :=
  ((r.rules.zip r.matchers).find? fun e => matchAll e.2 q).map Prod.fst

/-- Where a rule, or the lack of one, sends a query. -/
def Router.result (r : Router) : Option DnsRule → RouteResult
  | some rule =>
    { upstreamID := rule.upstream
      upstreamAddr := lookup r.upstreamMap rule.upstream
      action := if rule.action = "" then "route" else rule.action
      ruleID := rule.id
      policy := if rule.policy = "" then "single" else rule.policy
      proxyTag := lookup r.upstreamProxyTag rule.upstream }
  | none =>
    { upstreamID := r.defaultUpstream
      upstreamAddr := lookup r.upstreamMap r.defaultUpstream
      action := "route"
      ruleID := ""
      policy := "single"
      proxyTag := lookup r.upstreamProxyTag r.defaultUpstream }

/-- `Route`. -/
def Router.route (r : Router) (q : DnsQuery) : RouteResult := r.result (r.pick q)

/-- The matchers of a router are those of its rules. -/
def Router.IsCompiled (lib : Library) (resolver : Option GeositeResolver) (r : Router) : Prop :=
  compileRules lib resolver r.rules = .ok r.matchers

/-- A query is answered by the first rule that matches it. -/
lemma pick_of_isCompiled (h : r.IsCompiled lib resolver) (q : DnsQuery) :
    r.pick q = r.rules.find? (·.matches lib resolver q) := by
  have hall : List.Forall₂ (fun rule ms => rule.matches lib resolver q = matchAll ms q)
      r.rules r.matchers :=
    (compileRules_eq_ok_iff.mp h).imp fun rule ms hrule => by rw [DnsRule.matches, hrule]
  exact hall.find?_zip

/-- Where a query is sent when the rules are compiled. -/
lemma route_of_compileRules (h : compileRules lib resolver rules = .ok matchers)
    (hrules : r.rules = rules) (hmatchers : r.matchers = matchers) (q : DnsQuery) :
    r.route q = r.result (rules.find? (·.matches lib resolver q)) := by
  subst hrules hmatchers
  rw [Router.route, pick_of_isCompiled h]

/-! ### What a reload leaves -/

/-- A reload that succeeds leaves a router that answers as a new one for the configuration, with the
same resolver. One that fails leaves a router that answers as before. -/
def ReloadLaw (lib : Library) (r : Router) (cfg : Option DnsModuleConfig) : Prop :=
  match r.reload lib cfg with
  | (some _, r') => ∀ q, r'.route q = r.route q
  | (none, r') => ∃ cfg', cfg = some cfg' ∧ ∃ fresh,
      buildRouter lib r.geositeResolver cfg'.rules cfg'.upstreams (selectDefaultUpstream cfg') =
        .ok fresh ∧ ∀ q, r'.route q = fresh.route q

/-- The upstream that a router sends a query to. -/
def Router.sentTo (r : Router) (q : DnsQuery) : String :=
  (r.pick q).elim r.defaultUpstream DnsRule.upstream

/-- What a configuration has to be like for a reload to keep to the law. -/
def Reloadable (lib : Library) (r : Router) : Option DnsModuleConfig → Prop
  | none => True
  | some cfg =>
    ((∀ rule ∈ cfg.rules, rule.Compiles lib) →
      r.defaultUpstream = selectDefaultUpstream cfg ∨
        ∀ q, ∃ rule ∈ cfg.rules, rule.matches lib r.geositeResolver q = true) ∧
    (¬(∀ rule ∈ cfg.rules, rule.Compiles lib) → ∀ q,
      lookup (upstreamMaps cfg.upstreams).1 (r.sentTo q) = lookup r.upstreamMap (r.sentTo q) ∧
      lookup (upstreamMaps cfg.upstreams).2 (r.sentTo q) = lookup r.upstreamProxyTag (r.sentTo q))

/-- Replacing the upstreams changes the answers to the queries that are sent to a changed one. -/
lemma route_withMaps_iff {addrs tags : Go.Map String String} {q : DnsQuery} :
    { r with upstreamMap := addrs, upstreamProxyTag := tags }.route q = r.route q ↔
      lookup addrs (r.sentTo q) = lookup r.upstreamMap (r.sentTo q) ∧
        lookup tags (r.sentTo q) = lookup r.upstreamProxyTag (r.sentTo q) := by
  have hpick : { r with upstreamMap := addrs, upstreamProxyTag := tags }.pick q = r.pick q := rfl
  unfold Router.route Router.sentTo
  rw [hpick]
  cases r.pick q <;> simp [Router.result]

/-- Another default changes the answers to the queries that no rule matches. -/
lemma route_withDefault_iff {d : String} {q : DnsQuery} :
    r.route q = { r with defaultUpstream := d }.route q ↔
      (r.pick q = none → r.defaultUpstream = d) := by
  have hpick : { r with defaultUpstream := d }.pick q = r.pick q := rfl
  unfold Router.route
  rw [hpick]
  cases r.pick q with
  | some rule => simp [Router.result]
  | none =>
    simp only [Router.result, RouteResult.mk.injEq, forall_const]
    constructor
    · exact fun h => h.1
    · rintro rfl
      simp

/-- A reload keeps to its law exactly if the configuration is `Reloadable`. -/
theorem reload_law_iff (lib : Library) (r : Router) (cfg : Option DnsModuleConfig) :
    ReloadLaw lib r cfg ↔ Reloadable lib r cfg := by
  cases cfg with
  | none => simp [ReloadLaw, Router.reload, Reloadable]
  | some cfg =>
    by_cases hcomp : ∀ rule ∈ cfg.rules, rule.Compiles lib
    · -- the rules are replaced, and only the default is that of the old configuration
      obtain ⟨matchers, hms⟩ :=
        (exists_compileRules_iff r.geositeResolver).mpr hcomp
      let r' : Router :=
        { r with
          upstreamMap := (upstreamMaps cfg.upstreams).1
          upstreamProxyTag := (upstreamMaps cfg.upstreams).2
          rules := cfg.rules
          matchers := matchers }
      have hreload : r.reload lib (some cfg) = (none, r') := by
        simp [Router.reload, Router.updateRules, hms, r']
      have hfresh : buildRouter lib r.geositeResolver cfg.rules cfg.upstreams
          (selectDefaultUpstream cfg) =
          .ok { r' with defaultUpstream := selectDefaultUpstream cfg } := by
        simp [buildRouter, Router.updateRules, hms, r']
      have hcompiled : r'.IsCompiled lib r.geositeResolver := hms
      have hpick (q : DnsQuery) : r'.pick q = none ↔
          ¬∃ rule ∈ cfg.rules, rule.matches lib r.geositeResolver q = true := by
        rw [pick_of_isCompiled hcompiled]
        simp [r']
      have hlaw : ReloadLaw lib r (some cfg) ↔
          ∀ q, r'.route q = { r' with defaultUpstream := selectDefaultUpstream cfg }.route q := by
        simp [ReloadLaw, hreload, hfresh]
      rw [hlaw]
      simp only [route_withDefault_iff, hpick]
      constructor
      · intro h
        refine ⟨fun _ => ?_, fun hno => absurd hcomp hno⟩
        by_contra hcon
        rw [not_or, not_forall] at hcon
        obtain ⟨hdefault, q, hq⟩ := hcon
        exact hdefault (h q hq)
      · rintro ⟨h, -⟩ q hq
        exact (h hcomp).resolve_right fun hall => hq (hall q)
    · -- the rules are left, and the upstreams are those of the new configuration
      obtain ⟨err, herr⟩ : ∃ err, compileRules lib r.geositeResolver cfg.rules = .error err := by
        cases hms : compileRules lib r.geositeResolver cfg.rules with
        | error err => exact ⟨err, rfl⟩
        | ok matchers => exact absurd ((exists_compileRules_iff _).mp ⟨matchers, hms⟩) hcomp
      have hreload : r.reload lib (some cfg) =
          (some err, { r with
            upstreamMap := (upstreamMaps cfg.upstreams).1
            upstreamProxyTag := (upstreamMaps cfg.upstreams).2 }) := by
        simp [Router.reload, Router.updateRules, herr]
      simp only [ReloadLaw, hreload, route_withMaps_iff]
      exact ⟨fun h => ⟨fun hyes => absurd hyes hcomp, fun _ => h⟩, fun h => h.2 hcomp⟩

/-- A router with one upstream, which answers everything. -/
def runningRouter : Router :=
  { upstreamMap := [("upstream-0", "8.8.8.8:53")]
    upstreamProxyTag := [("upstream-0", "direct")]
    defaultUpstream := "upstream-0" }

/-- A configuration with another upstream. -/
def otherConfig : DnsModuleConfig :=
  { upstreams := [{ id := "upstream-1", addr := "1.1.1.1:53", proxyTag := "direct" }] }

/-- A router that is told to use another upstream keeps sending queries to the one that it had, at
no address. -/
theorem reload_keeps_old_default :
    let r' := (runningRouter.reload .blank (some otherConfig)).2
    newRouter .blank [] [{ id := "upstream-0", addr := "8.8.8.8:53", proxyTag := "direct" }]
      "upstream-0" = .ok runningRouter ∧
    (runningRouter.reload .blank (some otherConfig)).1 = none ∧
    selectDefaultUpstream otherConfig = "upstream-1" ∧
    (r'.route ⟨"example.com.", 1, []⟩).upstreamID = "upstream-0" ∧
    (r'.route ⟨"example.com.", 1, []⟩).upstreamAddr = "" ∧
    ¬ReloadLaw .blank runningRouter (some otherConfig) := by
  refine ⟨rfl, rfl, by decide, by decide, by decide, ?_⟩
  rintro ⟨cfg, hcfg, fresh, hfresh, hall⟩
  obtain rfl : otherConfig = cfg := Option.some.inj hcfg
  cases hfresh
  exact absurd (hall ⟨"example.com.", 1, []⟩) (by decide)

end V2rayA.Dns
