import V2rayA.Core.Dns.Bootstrap
import V2rayA.Core.Dns.Router
import V2rayA.ToMathlib.Transition

/-!
# Starting the DNS module

The module listens as soon as `Start` has built the router. The resolver for geosite tags is
installed afterwards, and the rules are compiled with it when they are reloaded. Queries that arrive
in between are routed with what is there.

* `startup_invariant`: which resolver the rules are compiled with at each point.
* `picks_configured_iff`: when the rule that answers a query is the first one that was configured
  for it.
-/

namespace V2rayA.Dns

open List DnsRule

/-! ### The steps of the start -/

/-- `DnsModule.Start`, up to the listener. `resolved` are the names of the bootstrap list that were
resolved. -/
def start (lib : Library) (resolved : String → Option String) (cfg : DnsModuleConfig) :
    Except Go.Error Router :=
  match cfg.validate with
  | some err => .error (err.wrap "dns module: invalid config")
  | none =>
    let cfg := rewriteUpstreams lib resolved cfg
    (newRouter lib cfg.rules cfg.upstreams (selectDefaultUpstream cfg)).mapError
      (·.wrap "dns module: failed to create router")

/-- How far `startDnsModuleWithXray` has come. -/
inductive Phase
  | started
  | resolverSet
  | reloaded
  deriving DecidableEq, Repr

/-- A step of `startDnsModuleWithXray` after `Start`. -/
inductive StartupStep
  | setGeositeResolver (resolve : GeositeResolver)
  | reload

/-- The start of the module: the states in which it answers queries. -/
def startup (lib : Library) (resolved : String → Option String) (cfg : DnsModuleConfig) :
    Transition.System (Phase × Router) StartupStep where
  init s := s.1 = .started ∧ start lib resolved cfg = .ok s.2
  next
    | (.started, r), .setGeositeResolver resolve =>
      some (.resolverSet, r.setGeositeResolver (some resolve))
    | (.resolverSet, r), .reload =>
      -- the error that `Reload` returns is not looked at
      some (.reloaded, (r.reload lib (some (rewriteUpstreams lib resolved cfg))).2)
    | _, _ => none

/-- The resolver that the rules are compiled with. -/
def compiledWith : Phase × Router → Option GeositeResolver
  | (.reloaded, r) => r.geositeResolver
  | _ => none

variable {lib : Library} {resolved : String → Option String} {cfg : DnsModuleConfig}

/-- What is true of the router whenever it answers queries. -/
structure Serves (lib : Library) (cfg : DnsModuleConfig) (s : Phase × Router) : Prop where
  rules : s.2.rules = cfg.rules
  isCompiled : s.2.IsCompiled lib (compiledWith s)

lemma serves_of_start {r : Router} (h : start lib resolved cfg = .ok r) :
    Serves lib cfg (.started, r) := by
  unfold start at h
  split at h
  next => cases h
  next =>
    have h := Except.mapError_eq_ok_iff.mp h
    simp only [newRouter, buildRouter, Router.updateRules] at h
    cases hms : compileRules lib none (rewriteUpstreams lib resolved cfg).rules with
    | error err => simp [hms] at h
    | ok matchers =>
      simp only [hms, Except.ok.injEq] at h
      subst h
      exact ⟨rfl, hms⟩

lemma Serves.step {s t : Phase × Router} {a : StartupStep} (hs : Serves lib cfg s)
    (h : (startup lib resolved cfg).next s a = some t) : Serves lib cfg t := by
  obtain ⟨phase, r⟩ := s
  cases phase <;> cases a <;> simp [startup] at h
  case started.setGeositeResolver resolve =>
    subst h
    exact ⟨hs.rules, hs.isCompiled⟩
  case resolverSet.reload =>
    subst h
    -- rules that were compiled without a resolver can be compiled with one
    have hcomp : ∀ rule ∈ cfg.rules, rule.Compiles lib :=
      hs.rules ▸ (exists_compileRules_iff _).mp ⟨_, hs.isCompiled⟩
    obtain ⟨matchers, hms⟩ := (exists_compileRules_iff r.geositeResolver).mpr hcomp
    have hrules : (rewriteUpstreams lib resolved cfg).rules = cfg.rules := rfl
    simp only [Router.reload, Router.updateRules, hrules, hms]
    exact ⟨rfl, hms⟩

/-- The rules of the router are those of the configuration at every point of the start, and until
they are reloaded they are compiled without a resolver. -/
lemma startup_invariant {s : Phase × Router} (h : (startup lib resolved cfg).Reachable s) :
    Serves lib cfg s := by
  refine h.invariant ?_ ?_
  · rintro ⟨phase, r⟩ ⟨rfl, hstart⟩
    exact serves_of_start hstart
  · exact fun s t a hs _ hstep => hs.step hstep

/-! ### What was configured -/

/-- Whether a rule has a condition on the domain. -/
def DnsRule.hasDomain (rule : DnsRule) : Bool :=
  rule.domain ≠ [] ∨ rule.domainSuffix ≠ [] ∨ rule.domainRegex ≠ []

/-- Whether one of the entries of the domain fields matches, where a geosite tag stands for what a
resolver returns for it. -/
def DnsRule.inDomain (rule : DnsRule) (resolver : Option GeositeResolver) (texts : Texts)
    (q : DnsQuery) : Bool :=
  (rule.groups resolver texts).domain.any (·.matches q)

/-- Whether the other fields that are not empty have an entry that matches. -/
def DnsRule.othersApply (rule : DnsRule) (texts : Texts) (q : DnsQuery) : Bool :=
  (rule.ip = [] ∨ texts.ips.any (·.contains q.clientIP)) ∧
    (rule.queryType = [] ∨ q.qtype ∈ rule.queryType) ∧
    (rule.clientIP = [] ∨
      texts.clientIPs.any fun cidr => q.clientIP ≠ [] ∧ cidr.contains q.clientIP)

/-- Whether every field of a rule that is not empty has an entry that matches. -/
def DnsRule.applies (lib : Library) (current : Option GeositeResolver) (rule : DnsRule)
    (q : DnsQuery) : Bool :=
  match rule.texts lib with
  | .error _ => false
  | .ok texts => (¬rule.hasDomain ∨ rule.inDomain current texts q) ∧ rule.othersApply texts q

/-- The fields other than the domain mean what was configured. -/
lemma othersApply_iff {rule : DnsRule} {texts : Texts} (h : rule.texts lib = .ok texts)
    (resolver : Option GeositeResolver) (q : DnsQuery) :
    FieldHolds (rule.groups resolver texts).ip q ∧
      FieldHolds (rule.groups resolver texts).queryType q ∧
      FieldHolds (rule.groups resolver texts).clientIP q ↔ rule.othersApply texts q := by
  obtain ⟨-, hips, hclients⟩ := length_texts h
  have hip : texts.ips = [] ↔ rule.ip = [] := by
    rw [← length_eq_zero_iff, hips, length_eq_zero_iff]
  have hclient : texts.clientIPs = [] ↔ rule.clientIP = [] := by
    rw [← length_eq_zero_iff, hclients, length_eq_zero_iff]
  simp [FieldHolds, groups, othersApply, FieldMatcher.matches, hip, hclient]

/-- The domain of a rule means what was configured, as far as a query can tell: the matchers that it
was compiled to say the same as the names that its tags stand for now. A domain without a matcher
matches everything. -/
structure DnsRule.Settled (rule : DnsRule) (compiled current : Option GeositeResolver)
    (texts : Texts) (q : DnsQuery) : Prop where
  empty : (rule.groups compiled texts).domain = [] → rule.inDomain current texts q = true
  same : (rule.groups compiled texts).domain ≠ [] →
    rule.inDomain compiled texts q = rule.inDomain current texts q

/-- A rule matches the queries that it was configured for, exactly if its domain is settled or
another field keeps it from matching. -/
lemma matches_eq_applies_iff {rule : DnsRule} {texts : Texts} (h : rule.texts lib = .ok texts)
    {compiled current : Option GeositeResolver} {q : DnsQuery} :
    rule.matches lib compiled q = rule.applies lib current q ↔
      (rule.hasDomain → rule.othersApply texts q →
        rule.Settled compiled current texts q) := by
  have hmatches : rule.matches lib compiled q = true ↔
      FieldHolds (rule.groups compiled texts).domain q ∧ rule.othersApply texts q = true := by
    rw [matches_iff h, othersApply_iff h]
  have happlies : rule.applies lib current q = true ↔
      (rule.hasDomain = false ∨ rule.inDomain current texts q = true) ∧
        rule.othersApply texts q = true := by
    simp [applies, h]
  have hholds : FieldHolds (rule.groups compiled texts).domain q ↔
      (rule.groups compiled texts).domain = [] ∨ rule.inDomain compiled texts q = true := by
    simp [FieldHolds, inDomain]
  rw [Bool.eq_iff_iff, hmatches, happlies, hholds]
  cases hdomain : rule.hasDomain with
  | false =>
    -- no entry, and so no matcher
    have hnil : (rule.groups compiled texts).domain = [] := by
      have hregex := (length_texts h).1
      simp only [hasDomain, decide_eq_false_iff_not, not_or, not_not] at hdomain
      obtain ⟨hdom, hsuf, hre⟩ := hdomain
      rw [hre, length_nil, length_eq_zero_iff] at hregex
      simp [groups, domainEntries, hdom, hsuf, hregex]
    simp [hnil]
  | true =>
    cases hothers : rule.othersApply texts q with
    | false => simp
    | true =>
      simp only [and_true, reduceCtorEq, false_or, forall_const]
      constructor
      · intro hiff
        refine ⟨fun hnil => hiff.mp (.inl hnil), fun hne => ?_⟩
        rw [Bool.eq_iff_iff, ← hiff]
        simp [hne]
      · rintro ⟨hempty, hsame⟩
        by_cases hnil : (rule.groups compiled texts).domain = []
        · simp [hnil, hempty hnil]
        · simp [hnil, hsame hnil]

/-- At every point of the start a query is answered by the first rule that was configured for it,
exactly if each rule that no such rule stands in front of, and whose other fields apply, has a
settled domain. -/
theorem picks_configured_iff (lib : Library) (resolved : String → Option String)
    (cfg : DnsModuleConfig) {s : Phase × Router} (hs : (startup lib resolved cfg).Reachable s)
    (q : DnsQuery) :
    s.2.pick q = cfg.rules.find? (·.applies lib s.2.geositeResolver q) ↔
      ∀ before rule after, cfg.rules = before ++ rule :: after →
        (∀ b ∈ before, b.applies lib s.2.geositeResolver q = false) →
        ∀ texts, rule.texts lib = .ok texts → rule.hasDomain = true →
          rule.othersApply texts q = true →
          rule.Settled (compiledWith s) s.2.geositeResolver texts q := by
  have hserves := startup_invariant hs
  rw [pick_of_isCompiled hserves.isCompiled, hserves.rules, find?_eq_find?_iff]
  have hcomp : ∀ rule ∈ cfg.rules, rule.Compiles lib :=
    hserves.rules ▸ (exists_compileRules_iff _).mp ⟨_, hserves.isCompiled⟩
  refine forall₃_congr fun before rule after => forall₂_congr fun hrules _ => ?_
  obtain ⟨texts, htexts⟩ := exists_texts_iff.mpr (hcomp rule (hrules ▸ by simp))
  rw [matches_eq_applies_iff htexts]
  constructor
  · intro h texts' htexts'
    obtain rfl : texts = texts' := Except.ok.inj (htexts.symm.trans htexts')
    exact h
  · exact fun h => h texts htexts

/-- A configuration with one rule. -/
def oneRule (rule : DnsRule) : DnsModuleConfig :=
  { upstreams := [{ id := "upstream-0", addr := "8.8.8.8:53", proxyTag := "direct" }]
    rules := [rule] }

/-- The router for one rule, before there is a resolver. -/
def oneRuleRouter (rule : DnsRule) (matchers : List RuleMatcher) : Router :=
  { rules := [rule]
    matchers := [matchers]
    upstreamMap := [("upstream-0", "8.8.8.8:53")]
    upstreamProxyTag := [("upstream-0", "direct")]
    defaultUpstream := "upstream-0" }

/-- A rule for a name. -/
def nameRule : DnsRule := { id := "rule-0", domain := ["example.com"], upstream := "upstream-0" }

/-- A rule for a name answers the queries for it from the first moment on. -/
theorem picks_configured_example_com :
    let r := oneRuleRouter nameRule [.single (.domain (.exact "example.com"))]
    (startup .blank (fun _ => none) (oneRule nameRule)).Reachable (.started, r) ∧
      r.pick ⟨"example.com.", 1, []⟩ =
        (oneRule nameRule).rules.find? (·.applies .blank none ⟨"example.com.", 1, []⟩) := by
  have hreach : (startup .blank (fun _ => none) (oneRule nameRule)).Reachable
      (.started, oneRuleRouter nameRule [.single (.domain (.exact "example.com"))]) :=
    .init ⟨rfl, rfl⟩
  refine ⟨hreach, (picks_configured_iff .blank _ _ hreach ⟨"example.com.", 1, []⟩).mpr ?_⟩
  intro before rule after hrules _ texts _ _ _
  obtain rfl : nameRule = rule := by
    cases before with
    | nil => exact (cons.inj hrules).1
    | cons b before => simp [oneRule] at hrules
  have hentries : domainEntries none nameRule = [.exact "example.com"] := rfl
  exact ⟨fun hnil => by simp [groups, compiledWith, hentries] at hnil, fun _ => rfl⟩

/-- A rule that rejects the names of a geosite tag. -/
def geositeRule : DnsRule :=
  { id := "rule-0", domain := ["geosite:cn"], upstream := "upstream-0", action := "reject" }

/-- Until the tag is resolved, and after that if it stands for no name, the rule rejects every
query. -/
theorem geosite_rule_rejects_everything :
    let q : DnsQuery := ⟨"example.com.", 1, []⟩
    let r := oneRuleRouter geositeRule []
    let r' := r.setGeositeResolver (some fun _ => ([], []))
    (startup .blank (fun _ => none) (oneRule geositeRule)).Reachable (.started, r) ∧
      (startup .blank (fun _ => none) (oneRule geositeRule)).Reachable (.reloaded, r') ∧
      r.pick q = some geositeRule ∧ r'.pick q = some geositeRule ∧
      (oneRule geositeRule).rules.find? (·.applies .blank r.geositeResolver q) = none ∧
      (oneRule geositeRule).rules.find? (·.applies .blank r'.geositeResolver q) = none := by
  have hstarted : (startup .blank (fun _ => none) (oneRule geositeRule)).Reachable
      (.started, oneRuleRouter geositeRule []) := .init ⟨rfl, rfl⟩
  have hset : (startup .blank (fun _ => none) (oneRule geositeRule)).Reachable
      (.resolverSet, (oneRuleRouter geositeRule []).setGeositeResolver
        (some fun _ => ([], []))) :=
    .step (a := .setGeositeResolver fun _ => ([], [])) hstarted trivial rfl
  exact ⟨hstarted, .step (a := .reload) hset trivial rfl, rfl, rfl, by decide, by decide⟩

end V2rayA.Dns
