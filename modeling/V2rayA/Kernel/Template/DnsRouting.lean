import V2rayA.Core.Dns.Startup
import V2rayA.Kernel.Template.Dns

/-!
# The generated configuration in the core

The core reads the configuration of the DNS module, completes the addresses of the upstreams and
builds its router. The names of connected servers are answered by a rule in front of the others,
which must not disturb them: their upstreams are found by name, and the one that answers what no
rule matches may be the last of the list.

* `loadRouter_of_startup`: at every point of the start the router is the one that is loaded.
* `node_names_resolved_directly`: the names of servers are resolved directly, and other names as if
  no server were connected.
-/

namespace V2rayA

open List Except Dns DnsModuleRule

/-- Load the configuration of the module into a router with a resolver. -/
def loadRouter (lib : Dns.Library) (resolved : String → Option String)
    (resolver : Option Dns.GeositeResolver) (cfg : DnsModuleJson) :
    Except Go.Error Dns.Router := do
  let cfg ← cfg.load lib
  let cfg := Dns.rewriteUpstreams lib resolved cfg
  Dns.buildRouter lib resolver cfg.rules cfg.upstreams (Dns.selectDefaultUpstream cfg)

section

variable {lib : Dns.Library} {resolved : String → Option String}

/-- A rule that is read keeps its texts. -/
lemma load_rule_eq_ok_iff {rule : DnsModuleRule} {loaded : Dns.DnsRule} :
    rule.load lib = .ok loaded ↔
      ∃ types, List.Forall₂ (fun name type => lib.stringToType (Go.toUpper name) = some type)
          rule.queryType types ∧
        loaded =
          { id := rule.id, upstream := rule.upstream, action := rule.action, policy := rule.policy
            domain := rule.domain, domainSuffix := rule.domainSuffix, ip := rule.ip
            clientIP := rule.clientIP, queryType := types } := by
  simp only [load, bind_eq_ok_iff, mapM_eq_ok_iff, ofOption_eq_ok_iff]
  refine exists_congr fun rules => and_congr_right fun _ => ?_
  exact ⟨fun h => (ok.inj h).symm, fun h => h ▸ rfl⟩

/-- The router that is loaded. -/
lemma loadRouter_eq_ok_iff {resolver : Option GeositeResolver} {cfg : DnsModuleJson}
    {r : Router} :
    loadRouter lib resolved resolver cfg = .ok r ↔
      ∃ rules matchers, cfg.rules.mapM (load lib) = .ok rules ∧
        compileRules lib resolver rules = .ok matchers ∧
        r =
          let upstreams := cfg.upstreams.map (rewriteUpstream lib cfg.bootstrap resolved)
          { rules, matchers, geositeResolver := resolver
            upstreamMap := (upstreamMaps upstreams).1
            upstreamProxyTag := (upstreamMaps upstreams).2
            defaultUpstream := selectDefaultUpstream
              { upstreams, rules, defaultUpstream := cfg.defaultUpstream
                bootstrap := cfg.bootstrap } } := by
  simp only [loadRouter, DnsModuleJson.load, bind_eq_ok_iff, mapError_eq_ok_iff,
    buildRouter_eq_ok_iff]
  constructor
  · rintro ⟨_, ⟨rules, hrules, ⟨⟩⟩, matchers, hms, hr⟩
    exact ⟨rules, matchers, hrules, hms, hr⟩
  · rintro ⟨rules, matchers, hrules, hms, hr⟩
    exact ⟨_, ⟨rules, hrules, rfl⟩, matchers, hms, hr⟩

end

/-! ### Names of hosts -/

/-- A label of a DNS name. -/
def IsLabel (s : String) : Prop :=
  s ≠ "" ∧ s.toList.all (fun c => c.isAlphanum || c = '-') = true

instance (s : String) : Decidable (IsLabel s) := inferInstanceAs (Decidable (_ ∧ _))

/-- A DNS name: labels with dots between them. -/
inductive IsDnsName : String → Prop
  | label {s : String} (h : IsLabel s) : IsDnsName s
  | cons {s t : String} (h : IsLabel s) (ht : IsDnsName t) : IsDnsName (s ++ "." ++ t)

variable {s : String}

lemma IsLabel.notMem (h : IsLabel s) {c : Char} (hc : c.isAlphanum = false) (hminus : c ≠ '-') :
    c ∉ s.toList := by
  intro hmem
  have hall := all_eq_true.mp h.2 c hmem
  simp [hc, hminus] at hall

lemma IsDnsName.notMem_colon (h : IsDnsName s) : ':' ∉ s.toList := by
  induction h with
  | label h => exact h.notMem (by decide) (by decide)
  | cons h _ ih => simp [h.notMem (c := ':') (by decide) (by decide), ih]

lemma IsDnsName.hasPrefix_dot (h : IsDnsName s) : Go.hasPrefix s "." = false := by
  rw [Bool.eq_false_iff, Ne, Go.hasPrefix_iff]
  have hlabel {s : String} (h : IsLabel s) (t : List Char) : ¬".".toList <+: s.toList ++ t := by
    rintro ⟨rest, hrest⟩
    obtain ⟨c, cs, hcs⟩ := exists_cons_of_ne_nil
      fun hnil => h.1 (String.toList_eq_nil_iff.mp hnil)
    rw [hcs] at hrest
    have hdot : '.' ∈ s.toList := by
      rw [hcs, ← (cons.inj hrest).1]
      exact mem_cons_self
    exact h.notMem (by decide) (by decide) hdot
  cases h with
  | label h => simpa using hlabel h []
  | cons h ht => simpa using hlabel h _

lemma IsDnsName.ne_empty (h : IsDnsName s) : s.toList ≠ [] := by
  cases h with
  | label h => exact fun hnil => h.1 (String.toList_eq_nil_iff.mp hnil)
  | cons => simp

/-- What stands in front of a text does not change how it ends. -/
lemma hasSuffix_dot_append {s t : String} (ht : t.toList ≠ [])
    (h : Go.hasSuffix t "." = false) : Go.hasSuffix (s ++ t) "." = false := by
  rw [Bool.eq_false_iff, Ne, Go.hasSuffix_iff] at h ⊢
  intro hdot
  have htail : t.toList <:+ (s ++ t).toList := ⟨s.toList, by simp⟩
  rcases List.suffix_or_suffix_of_suffix hdot htail with hsuf | hsuf
  · exact h hsuf
  · rcases List.suffix_cons_iff.mp hsuf with heq | hnil
    · exact h (heq ▸ List.suffix_rfl)
    · exact ht (List.suffix_nil.mp hnil)

lemma IsDnsName.hasSuffix_dot (h : IsDnsName s) : Go.hasSuffix s "." = false := by
  induction h with
  | label h =>
    rw [Bool.eq_false_iff, Ne, Go.hasSuffix_iff]
    rintro ⟨rest, hrest⟩
    exact h.notMem (c := '.') (by decide) (by decide) (hrest ▸ by simp)
  | cons _ ht ih => exact hasSuffix_dot_append ht.ne_empty ih

/-- A query asks for a host or for a name below it, with or without the dot at the end. -/
def AsksFor (q : Dns.DnsQuery) (host : String) : Prop :=
  ∃ name, (q.name = name ∨ q.name = name ++ ".") ∧
    (name = host ∨ ∃ sub, name = sub ++ "." ++ host)

/-- The rule for a host matches the queries that ask for it. -/
lemma matches_suffix_iff {host : String} (h : IsDnsName host) {q : DnsQuery} :
    (DomainRule.suffix host).matches q ↔ AsksFor q host := by
  have hhost : Go.trimSuffix host "." = host := Go.trimSuffix_of_hasSuffix_eq_false h.hasSuffix_dot
  have hmatches : (DomainRule.suffix host).matches q = true ↔
      Go.trimSuffix q.name "." = host ∨
        ∃ sub, Go.trimSuffix q.name "." = sub ++ "." ++ host := by
    have hsuffix (name : String) :
        Go.hasSuffix name ("." ++ host) = true ↔ ∃ sub, name = sub ++ "." ++ host := by
      rw [Go.hasSuffix_iff]
      constructor
      · rintro ⟨sub, hsub⟩
        exact ⟨String.ofList sub, String.toList_injective (by simp [← hsub])⟩
      · rintro ⟨sub, rfl⟩
        exact ⟨sub.toList, by simp⟩
    simp [DomainRule.matches, hhost, h.hasPrefix_dot, hsuffix]
  rw [hmatches]
  constructor
  · exact fun hname => ⟨_, Go.eq_or_eq_append_of_trimSuffix q.name ".", hname⟩
  · rintro ⟨name, hq, hname⟩
    have htrim : Go.trimSuffix q.name "." = name := by
      rcases hq with rfl | hq
      · -- a name that ends in that of the host does not end in a dot
        apply Go.trimSuffix_of_hasSuffix_eq_false
        rcases hname with rfl | ⟨sub, hsub⟩
        · exact h.hasSuffix_dot
        · rw [hsub]
          exact hasSuffix_dot_append h.ne_empty h.hasSuffix_dot
      · rw [hq, Go.trimSuffix_append]
    rw [htrim]
    exact hname

/-! ### The rule for the names of servers -/

/-- The rule for the names of servers as the core reads it. -/
def coreNodeRule (domains : List String) : Dns.DnsRule where
  id := "rule-node"
  upstream := nodeUpstreamID
  action := "route"
  policy := "single"
  domainSuffix := domains

lemma load_nodeRule (lib : Library) (domains : List String) :
    (nodeRule domains).load lib = .ok (coreNodeRule domains) := rfl

lemma matches_coreNodeRule_iff (lib : Library) (resolver : Option GeositeResolver)
    {domains : List String} (hne : domains ≠ []) (hnames : ∀ d ∈ domains, IsDnsName d)
    {q : DnsQuery} :
    (coreNodeRule domains).matches lib resolver q ↔ ∃ d ∈ domains, AsksFor q d := by
  have htexts : (coreNodeRule domains).texts lib = .ok ⟨[], [], []⟩ := rfl
  -- a DNS name is not a geosite tag
  have hentry : ∀ d ∈ domains, domainEntry resolver .suffix d = [.suffix d] := by
    intro d hd
    refine if_neg fun hpre => (hnames d hd).notMem_colon ?_
    exact (Go.hasPrefix_iff.mp hpre).subset (by decide)
  have hentries : domainEntries resolver (coreNodeRule domains) =
      domains.map DomainRule.suffix := by
    rw [domainEntries, coreNodeRule, flatMap_nil, map_eq_flatMap]
    exact flatMap_congr hentry
  rw [matches_iff htexts]
  simp only [FieldHolds, DnsRule.groups, hentries, map_nil, append_nil,
    map_map, map_eq_nil_iff, hne, false_or]
  constructor
  · rintro ⟨⟨m, hm, hmatches⟩, -⟩
    obtain ⟨d, hd, rfl⟩ := mem_map.mp hm
    exact ⟨d, hd, (matches_suffix_iff (hnames d hd)).mp hmatches⟩
  · rintro ⟨d, hd, hasks⟩
    refine ⟨⟨_, mem_map_of_mem hd, (matches_suffix_iff (hnames d hd)).mpr hasks⟩, ?_⟩
    simp [coreNodeRule]

/-! ### The other rules -/

section

variable {env : DnsEnv} {rules : List DnsRule} {resolved : String → Option String}

lemma upstreamName_ne_empty (i : ℕ) : upstreamName i ≠ "" := by
  intro h
  simpa [upstreamName] using congrArg String.toList h

variable {loaded : List Dns.DnsRule}

/-- The rules refer to upstreams by position. -/
lemma exists_upstreamName_of_mem
    (h : (generateRules env rules).rules.mapM (load env.lib) = .ok loaded)
    {rule : Dns.DnsRule} (hrule : rule ∈ loaded) : ∃ i, rule.upstream = upstreamName i := by
  obtain ⟨written, hwritten, hload⟩ := (mapM_eq_ok_iff.mp h).exists_of_mem_right hrule
  obtain ⟨stored, -, n, rfl⟩ :=
    (generated_generateRules env rules).forall₂_rules.exists_of_mem_right hwritten
  obtain ⟨types, -, rfl⟩ := load_rule_eq_ok_iff.mp hload
  exact ⟨_, rfl⟩

lemma exists_upstreamName_of_mem_upstreams {u : UpstreamConfig}
    (h : u ∈ (generateRules env rules).upstreams) :
    (∃ i, u.id = upstreamName i) ∧ u.bootstrap = false ∧ u.proxyTag ≠ "" := by
  obtain ⟨i, hi⟩ := mem_iff_getElem?.mp h
  obtain ⟨rule, -, rfl⟩ := (generated_generateRules env rules).upstream i u hi
  refine ⟨⟨i, rfl⟩, rfl, ?_⟩
  change rule.tag ≠ ""
  unfold DnsRule.tag orElse
  grind

/-- There is an upstream if a rule supplies one. -/
lemma upstreams_ne_nil (env : DnsEnv) (h : ∃ rule ∈ rules, rule.upstreamText ≠ "") :
    (generateRules env rules).upstreams ≠ [] := by
  obtain ⟨rule, hrule, htext⟩ := h
  have hmem : rule.migrate ∈ suppliers rules :=
    mem_filter.mpr ⟨mem_map_of_mem hrule, by simpa using htext⟩
  have hkey : rule.migrate.key ∈ upstreamKeys (suppliers rules) :=
    mem_deduplicate.mpr (mem_map_of_mem hmem)
  rw [← (generated_generateRules env rules).keys] at hkey
  intro hnil
  simp [hnil] at hkey

/-- What the core starts with when no server is connected. -/
def ownConfig (env : DnsEnv) (rules : List DnsRule) (resolved : String → Option String)
    (loaded : List Dns.DnsRule) : Dns.DnsModuleConfig where
  upstreams := (generateRules env rules).upstreams.map
    (Dns.rewriteUpstream env.lib (deduplicate (generateRules env rules).bootstrap) resolved)
  rules := loaded
  defaultUpstream := (generateRules env rules).defaultUpstream
  bootstrap := deduplicate (generateRules env rules).bootstrap

lemma exists_upstreamName_of_mem_ownConfig {u : UpstreamConfig}
    (h : u ∈ (ownConfig env rules resolved loaded).upstreams) :
    (∃ i, u.id = upstreamName i) ∧ u.bootstrap = false ∧ u.proxyTag ≠ "" := by
  obtain ⟨v, hv, rfl⟩ := mem_map.mp h
  obtain ⟨hid, htag, hboot⟩ := rewriteUpstream_id env.lib
    (deduplicate (generateRules env rules).bootstrap) resolved v
  rw [hid, htag, hboot]
  exact exists_upstreamName_of_mem_upstreams hv

/-- The default is named by position too. -/
lemma exists_upstreamName_of_default (h : ∃ rule ∈ rules, rule.upstreamText ≠ "") :
    ∃ i, selectDefaultUpstream (ownConfig env rules resolved loaded) = upstreamName i := by
  have hne : (ownConfig env rules resolved loaded).upstreams ≠ [] := by
    simpa [ownConfig] using upstreams_ne_nil env h
  rcases selectDefaultUpstream_cases _ hne with ⟨hdefault, heq⟩ | ⟨u, hu, heq⟩
  · rw [heq]
    change (generateRules env rules).defaultUpstream ≠ "" at hdefault
    change ∃ i, (generateRules env rules).defaultUpstream = _
    rw [(generated_generateRules env rules).default] at hdefault ⊢
    cases hlast : ((suppliers rules).filter (¬·.isConditional)).getLast? with
    | none =>
      rw [hlast] at hdefault
      exact absurd rfl hdefault
    | some last => exact ⟨_, rfl⟩
  · obtain ⟨⟨i, hi⟩, -⟩ := exists_upstreamName_of_mem_ownConfig hu
    refine ⟨i, ?_⟩
    rw [heq, UpstreamConfig.name, hi, if_neg (upstreamName_ne_empty i)]

end

/-! ### Connected servers -/

section

variable {env : DnsEnv} {rules : List DnsRule} {hosts : List String}
  {resolved : String → Option String} {resolver : Option Dns.GeositeResolver}

/-- The names that are answered by the rule for servers. -/
lemma mem_nodeDomains_iff {lib : Library}
    (hhosts : ∀ host ∈ hosts, (lib.parseIP host).isSome ∨ IsDnsName host) {d : String} :
    d ∈ nodeDomains lib hosts ↔ d ∈ hosts ∧ lib.parseIP d = none := by
  simp only [nodeDomains, mem_deduplicate, mem_filter, decide_eq_true_iff,
    Option.isNone_iff_eq_none]
  refine and_congr_right fun hmem => and_iff_right_of_imp fun hnone => ?_
  rintro rfl
  rcases hhosts _ hmem with hip | hname
  · simp [hnone] at hip
  · exact hname.ne_empty rfl

/-- The rules for the names of servers as the core reads them. -/
def coreNodeRules (lib : Dns.Library) (hosts : List String) : List Dns.DnsRule :=
  if nodeDomains lib hosts = [] then [] else [coreNodeRule (nodeDomains lib hosts)]

/-- The upstreams that the core starts with. -/
def coreUpstreams (env : DnsEnv) (rules : List DnsRule) (hosts : List String)
    (resolved : String → Option String) : List Dns.UpstreamConfig :=
  (generateDnsModuleConfig env rules hosts).upstreams.map
    (Dns.rewriteUpstream env.lib (deduplicate (generateRules env rules).bootstrap) resolved)

/-- The router for the generated configuration. -/
lemma loadRouter_generate_iff {r : Dns.Router} :
    loadRouter env.lib resolved resolver (generateDnsModuleConfig env rules hosts) = .ok r ↔
      ∃ loaded matchers, (generateRules env rules).rules.mapM (load env.lib) =
          .ok loaded ∧
        Dns.compileRules env.lib resolver (coreNodeRules env.lib hosts ++ loaded) = .ok matchers ∧
        r =
          { rules := coreNodeRules env.lib hosts ++ loaded, matchers, geositeResolver := resolver
            upstreamMap := (Dns.upstreamMaps (coreUpstreams env rules hosts resolved)).1
            upstreamProxyTag := (Dns.upstreamMaps (coreUpstreams env rules hosts resolved)).2
            defaultUpstream := Dns.selectDefaultUpstream
              { ownConfig env rules resolved loaded with
                upstreams := coreUpstreams env rules hosts resolved } } := by
  have hmapM (all : List Dns.DnsRule) :
      (nodeRules env.lib hosts ++ (generateRules env rules).rules).mapM
          (load env.lib) = .ok all ↔
        ∃ loaded, (generateRules env rules).rules.mapM (load env.lib) = .ok loaded ∧
          all = coreNodeRules env.lib hosts ++ loaded := by
    unfold nodeRules coreNodeRules
    split
    · simp
    · rw [singleton_append, mapM_cons, load_nodeRule]
      simp only [bind_eq_ok_iff, ok.injEq, exists_eq_left']
      refine exists_congr fun loaded => and_congr_right fun _ => ?_
      exact ⟨fun h => (ok.inj h).symm, fun h => h ▸ rfl⟩
  rw [loadRouter_eq_ok_iff, rules_generateDnsModuleConfig]
  constructor
  · rintro ⟨all, matchers, hall, hms, hr⟩
    obtain ⟨loaded, hloaded, rfl⟩ := (hmapM all).mp hall
    exact ⟨loaded, matchers, hloaded, hms, hr⟩
  · rintro ⟨loaded, matchers, hloaded, hms, hr⟩
    exact ⟨_, matchers, (hmapM _).mpr ⟨loaded, hloaded, rfl⟩, hms, hr⟩

lemma coreUpstreams_eq (env : DnsEnv) (rules : List DnsRule) (hosts : List String)
    (resolved : String → Option String) (loaded : List Dns.DnsRule) :
    coreUpstreams env rules hosts resolved =
      (nodeUpstreams env rules hosts).map (Dns.rewriteUpstream env.lib
        (deduplicate (generateRules env rules).bootstrap) resolved) ++
        (ownConfig env rules resolved loaded).upstreams := by
  rw [coreUpstreams, upstreams_generateDnsModuleConfig, map_append]
  rfl

/-- The upstream in front is not the default, because it is not the last one. -/
lemma selectDefaultUpstream_coreUpstreams (hsup : ∃ rule ∈ rules, rule.upstreamText ≠ "")
    (loaded : List Dns.DnsRule) :
    Dns.selectDefaultUpstream { ownConfig env rules resolved loaded with
        upstreams := coreUpstreams env rules hosts resolved } =
      Dns.selectDefaultUpstream (ownConfig env rules resolved loaded) := by
  obtain ⟨u, hu⟩ := exists_mem_of_ne_nil _
    (show (ownConfig env rules resolved loaded).upstreams ≠ [] by
      simpa [ownConfig] using upstreams_ne_nil env hsup)
  rw [coreUpstreams_eq env rules hosts resolved loaded]
  exact Dns.selectDefaultUpstream_append hu (exists_upstreamName_of_mem_ownConfig hu).2.1

/-- The router when servers are connected by name. -/
lemma loadRouter_hosts (hsup : ∃ rule ∈ rules, rule.upstreamText ≠ "")
    (hdomains : nodeDomains env.lib hosts ≠ []) {r : Router}
    (hr : loadRouter env.lib resolved resolver (generateDnsModuleConfig env rules hosts) = .ok r) :
    ∃ loaded matchers matchers₀, ∃ node : UpstreamConfig,
      (generateRules env rules).rules.mapM (load env.lib) = .ok loaded ∧
      compileRules env.lib resolver loaded = .ok matchers₀ ∧
      compileRules env.lib resolver
        (coreNodeRule (nodeDomains env.lib hosts) :: loaded) = .ok matchers ∧
      (node.id = nodeUpstreamID ∧ node.proxyTag = "direct") ∧
      r =
        let upstreams := node :: (ownConfig env rules resolved loaded).upstreams
        { rules := coreNodeRule (nodeDomains env.lib hosts) :: loaded, matchers
          geositeResolver := resolver
          upstreamMap := (upstreamMaps upstreams).1
          upstreamProxyTag := (upstreamMaps upstreams).2
          defaultUpstream :=
            selectDefaultUpstream (ownConfig env rules resolved loaded) } := by
  obtain ⟨loaded, matchers, hloaded, hms, rfl⟩ := loadRouter_generate_iff.mp hr
  have hrules : coreNodeRules env.lib hosts = [coreNodeRule (nodeDomains env.lib hosts)] :=
    if_neg hdomains
  rw [hrules] at hms
  have hcompiles := (exists_compileRules_iff resolver).mp ⟨_, hms⟩
  obtain ⟨matchers₀, hms₀⟩ := (exists_compileRules_iff resolver).mpr
    fun rule hrule => hcompiles rule (mem_cons_of_mem _ hrule)
  obtain ⟨hid, htag, -⟩ := rewriteUpstream_id env.lib
    (deduplicate (generateRules env rules).bootstrap) resolved
    (nodeUpstream env rules (deduplicate (env.systemDns ++ directDnsServers env.lib rules)))
  refine ⟨loaded, matchers, matchers₀, _, hloaded, hms₀, hms, ⟨hid, htag⟩, ?_⟩
  have hnode : nodeUpstreams env rules hosts = [nodeUpstream env rules
      (deduplicate (env.systemDns ++ directDnsServers env.lib rules))] := if_neg hdomains
  rw [selectDefaultUpstream_coreUpstreams hsup, coreUpstreams_eq env rules hosts resolved loaded,
    hnode, hrules]
  rfl

variable {node : Dns.UpstreamConfig}

/-- The upstream for the names of servers is found under its name. -/
lemma lookup_node {us : List Dns.UpstreamConfig} (hid : node.id = nodeUpstreamID)
    (htag : node.proxyTag = "direct") (hus : ∀ u ∈ us, ∃ i, u.id = upstreamName i) :
    Dns.lookup (Dns.upstreamMaps (node :: us)).2 nodeUpstreamID = "direct" := by
  have hnone : us.reverse.find? (fun u => u.id = nodeUpstreamID ∧ u.proxyTag ≠ "") = none := by
    rw [find?_eq_none]
    intro u hu hp
    obtain ⟨i, hi⟩ := hus u (mem_reverse.mp hu)
    exact upstreamName_ne_nodeUpstreamID i (hi.symm.trans (of_decide_eq_true hp).1)
  rw [Dns.lookup, (Dns.get?_upstreamMaps _ (by decide)).2, reverse_cons, find?_append,
    hnone]
  simp [hid, htag]

/-- An upstream in front of the list does not change what is sent to the others. -/
lemma result_append {r r₀ : Dns.Router} (us : List Dns.UpstreamConfig)
    (hnode : node.id = nodeUpstreamID)
    (hmap : r.upstreamMap = (Dns.upstreamMaps (node :: us)).1 ∧
      r.upstreamProxyTag = (Dns.upstreamMaps (node :: us)).2)
    (hmap₀ : r₀.upstreamMap = (Dns.upstreamMaps us).1 ∧
      r₀.upstreamProxyTag = (Dns.upstreamMaps us).2)
    (hdefault : r.defaultUpstream = r₀.defaultUpstream) {picked : Option Dns.DnsRule}
    (hpicked : ∃ i, picked.elim r₀.defaultUpstream Dns.DnsRule.upstream = upstreamName i) :
    r.result picked = r₀.result picked := by
  have hlookup (i : ℕ) :
      Dns.lookup r.upstreamMap (upstreamName i) = Dns.lookup r₀.upstreamMap (upstreamName i) ∧
      Dns.lookup r.upstreamProxyTag (upstreamName i) =
        Dns.lookup r₀.upstreamProxyTag (upstreamName i) := by
    have hne : ∀ u ∈ [node], u.id ≠ upstreamName i := by
      simpa [hnode] using (upstreamName_ne_nodeUpstreamID i).symm
    obtain ⟨haddr, htag⟩ :=
      Dns.get?_upstreamMaps_append us (upstreamName_ne_empty i) hne
    simp only [hmap, hmap₀]
    exact ⟨congrArg (·.getD "") haddr, congrArg (·.getD "") htag⟩
  obtain ⟨i, hi⟩ := hpicked
  cases picked with
  | none =>
    change r₀.defaultUpstream = _ at hi
    simp [Dns.Router.result, hdefault, hi, hlookup]
  | some rule =>
    change rule.upstream = _ at hi
    simp [Dns.Router.result, hi, hlookup]

/-- The names of connected servers, and the names below them, are resolved directly. Other names are
resolved as if no server were connected. -/
theorem node_names_resolved_directly (env : DnsEnv) (rules : List DnsRule) (hosts : List String)
    (resolved : String → Option String) (resolver : Option Dns.GeositeResolver)
    (hsup : ∃ rule ∈ rules, rule.upstreamText ≠ "")
    (hhosts : ∀ host ∈ hosts, (env.lib.parseIP host).isSome ∨ IsDnsName host) {r : Dns.Router}
    (hr : loadRouter env.lib resolved resolver (generateDnsModuleConfig env rules hosts) = .ok r) :
    ∃ r₀, loadRouter env.lib resolved resolver (generateDnsModuleConfig env rules []) = .ok r₀ ∧
      ∀ q, ((∃ host ∈ hosts, env.lib.parseIP host = none ∧ AsksFor q host) →
          (r.route q).upstreamID = "upstream-node" ∧ (r.route q).proxyTag = "direct" ∧
            (r.route q).action = "route") ∧
        (¬(∃ host ∈ hosts, env.lib.parseIP host = none ∧ AsksFor q host) →
          r.route q = r₀.route q) := by
  have hasks (q : DnsQuery) : (∃ host ∈ hosts, env.lib.parseIP host = none ∧ AsksFor q host) ↔
      ∃ d ∈ nodeDomains env.lib hosts, AsksFor q d := by
    simp only [mem_nodeDomains_iff hhosts, and_assoc]
  simp only [hasks]
  by_cases hdomains : nodeDomains env.lib hosts = []
  · -- all servers are known by address, and nothing is added
    have hsame : generateDnsModuleConfig env rules hosts = generateDnsModuleConfig env rules [] := by
      have hnil : nodeDomains env.lib [] = [] := rfl
      simp [generateDnsModuleConfig, hdomains, hnil]
    exact ⟨r, hsame ▸ hr, fun q => by simp [hdomains]⟩
  · obtain ⟨loaded, matchers, matchers₀, node, hloaded, hms₀, hms, ⟨hid, htag⟩, rfl⟩ :=
      loadRouter_hosts hsup hdomains hr
    refine ⟨_, loadRouter_generate_iff.mpr ⟨loaded, matchers₀, hloaded, hms₀, rfl⟩, fun q => ?_⟩
    have hnames : ∀ d ∈ nodeDomains env.lib hosts, IsDnsName d := by
      intro d hd
      obtain ⟨hmem, hnone⟩ := (mem_nodeDomains_iff hhosts).mp hd
      exact (hhosts d hmem).resolve_left (by simp [hnone])
    rw [← matches_coreNodeRule_iff env.lib resolver hdomains hnames]
    rw [route_of_compileRules hms rfl rfl, route_of_compileRules hms₀ rfl rfl]
    constructor
    · intro hmatch
      have hfind : (coreNodeRule (nodeDomains env.lib hosts) :: loaded).find?
          (·.matches env.lib resolver q) = some (coreNodeRule (nodeDomains env.lib hosts)) := by
        rw [find?_cons, hmatch]
      rw [hfind]
      exact ⟨rfl, lookup_node hid htag fun u hu => (exists_upstreamName_of_mem_ownConfig hu).1, rfl⟩
    · intro hno
      have hfind : (coreNodeRule (nodeDomains env.lib hosts) :: loaded).find?
          (·.matches env.lib resolver q) = loaded.find? (·.matches env.lib resolver q) := by
        rw [find?_cons, Bool.eq_false_iff.mpr hno]
      rw [hfind]
      apply result_append (ownConfig env rules resolved loaded).upstreams hid
      · exact ⟨rfl, rfl⟩
      · exact ⟨rfl, rfl⟩
      · rfl
      · cases hpicked : loaded.find? (·.matches env.lib resolver q) with
        | none => exact exists_upstreamName_of_default hsup
        | some rule => exact exists_upstreamName_of_mem hloaded (mem_of_find?_eq_some hpicked)

/-- A rule that sends everything through a proxy. -/
def proxyRule : DnsRule := { upstream := "8.8.8.8", outbound := "proxy" }

/-- The name of a server is resolved directly although everything is to be resolved through a
proxy. -/
theorem node_names_resolved_directly_example :
    ∃ r, loadRouter .blank (fun _ => none) none
        (generateDnsModuleConfig { lib := .blank } [proxyRule] ["node.example.com"]) = .ok r ∧
      (r.route ⟨"node.example.com.", 1, []⟩).proxyTag = "direct" := by
  obtain ⟨r, hr⟩ : ∃ r, loadRouter .blank (fun _ => none) none
      (generateDnsModuleConfig { lib := .blank } [proxyRule] ["node.example.com"]) = .ok r :=
    ⟨_, rfl⟩
  have hname : IsDnsName "node.example.com" :=
    .cons (s := "node") (t := "example.com") (by decide)
      (.cons (s := "example") (t := "com") (by decide) (.label (by decide)))
  obtain ⟨r₀, -, hall⟩ := node_names_resolved_directly { lib := .blank } [proxyRule]
    ["node.example.com"] (fun _ => none) none ⟨proxyRule, by decide, by decide⟩
    (by simpa using .inr hname) hr
  refine ⟨r, hr, ((hall ⟨"node.example.com.", 1, []⟩).1 ?_).2.1⟩
  exact ⟨"node.example.com", by simp, rfl, "node.example.com", .inr (by decide), .inl rfl⟩

end

end V2rayA
