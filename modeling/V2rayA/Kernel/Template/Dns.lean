import V2rayA.Core.Dns.Config
import V2rayA.Go.Map
import V2rayA.ToMathlib.Except

/-!
# The configuration of the DNS module

`generateDnsModuleConfig` turns the stored DNS rules into the configuration of the core's DNS module.
Rules with the same address and outbound share an upstream, whose name is its position in the list.
Rules that match on something become rules of the module, and the last one of the others names the
default. The names of connected servers are resolved directly, by a rule in front of the others.

* `generated_generateRules`: what the loop over the rules leaves, in closed form.
-/

namespace V2rayA

open List

/-! ### Stored rules

A rule of an older release has `Server` and `Domains` in the place of `Upstream` and `Domain`;
`migrateDnsRules` fills in whichever is missing.
-/

/-- A stored DNS rule. The conditions are texts: one domain a line, and addresses and types with
commas between them. -/
structure DnsRule where
  server : String := ""
  domains : String := ""
  outbound : String := ""
  id : ℤ := 0
  domain : String := ""
  ip : String := ""
  /-- Empty or `*` for every type. -/
  queryType : String := ""
  clientIP : String := ""
  upstream : String := ""
  action : String := ""
  policy : String := ""
  ruleID : String := ""
  deriving DecidableEq, Repr

/-- A text, or another one if it is empty. -/
def orElse (s default : String) : String := if s = "" then default else s

/-- `MigrateDnsRules`, for one rule. -/
def DnsRule.migrate (rule : DnsRule) : DnsRule :=
  { rule with
    upstream := orElse rule.upstream rule.server
    server := orElse rule.server rule.upstream
    domain := orElse rule.domain rule.domains
    domains := orElse rule.domains rule.domain
    action := orElse rule.action "route"
    policy := orElse rule.policy "single"
    outbound := orElse rule.outbound "direct"
    queryType := orElse rule.queryType "*"
    ruleID := orElse rule.ruleID ("rule-" ++ toString rule.id) }

/-- `MigrateDnsRules`. -/
def migrateDnsRules (rules : List DnsRule) : List DnsRule := rules.map DnsRule.migrate

/-! ### Lists without repetitions -/

/-- `common.Deduplicate`. -/
def deduplicate {α : Type} [DecidableEq α] (l : List α) : List α :=
  l.foldl (fun res v => if v ∈ res then res else res ++ [v]) []

section

variable {α : Type} [DecidableEq α]

lemma deduplicate_concat (l : List α) (v : α) :
    deduplicate (l ++ [v]) = if v ∈ deduplicate l then deduplicate l else deduplicate l ++ [v] := by
  rw [deduplicate, foldl_append]
  rfl

@[simp] lemma mem_deduplicate {l : List α} {v : α} : v ∈ deduplicate l ↔ v ∈ l := by
  induction l using reverseRecOn generalizing v with
  | nil => simp [deduplicate]
  | append_singleton l w ih =>
    rw [deduplicate_concat]
    split
    next hw =>
      rw [ih, mem_append, mem_singleton]
      exact ⟨.inl, fun h => h.elim id fun heq => heq ▸ ih.mp hw⟩
    next => simp [ih]

lemma nodup_deduplicate (l : List α) : (deduplicate l).Nodup := by
  induction l using reverseRecOn with
  | nil => simp [deduplicate]
  | append_singleton l w ih =>
    rw [deduplicate_concat]
    split
    next => exact ih
    next hw =>
      rw [nodup_append]
      exact ⟨ih, by simp, fun a ha b hb => by rintro rfl; simp_all⟩

/-- What stands behind a list does not move the first occurrences in it. -/
lemma idxOf_deduplicate_concat {l : List α} {v w : α} (h : v ∈ l) :
    (deduplicate (l ++ [w])).idxOf v = (deduplicate l).idxOf v := by
  rw [deduplicate_concat]
  split
  · rfl
  · exact idxOf_append_of_mem (mem_deduplicate.mpr h)

end

/-! ### Upstreams -/

/-- `CheckDnsUpstream`. -/
def checkDnsUpstream (lib : Dns.Library) (upstream : String) : Option Go.Error :=
  match Go.cutText upstream "://" with
  | none => if Go.trimSpace upstream = "" then some ⟨"DNS upstream is empty", "", []⟩ else none
  | some (scheme, rest) =>
    let name := Go.toLower scheme
    if name = "udp" ∨ name = "tcp" ∨ name = "tls" then
      if rest = "" then
        some ⟨"DNS upstream " ++ Go.quote upstream ++ " has no address after the scheme", "", []⟩
      else none
    else if name = "https" then
      if (lib.urlHostname upstream).getD "" = "" then
        some ⟨"DNS upstream " ++ Go.quote upstream ++ " is not a URL with a host", "", []⟩
      else none
    else if name = "quic" then
      some ⟨"DNS upstream " ++ Go.quote upstream ++ ": DNS over QUIC is not supported; " ++
        "use an address (8.8.8.8), tls://host or https://host/dns-query", "", []⟩
    else
      some ⟨"DNS upstream " ++ Go.quote upstream ++ ": unknown scheme " ++ Go.quote scheme ++
        "; use an address, tcp://, tls:// or https://", "", []⟩

/-- Add a port to an address that has none. -/
def withDefaultPort (port addr : String) : String :=
  if (Go.splitHostPort addr).isSome then addr else Go.joinHostPort addr port

/-- The protocol and the address of an upstream. -/
structure DnsTarget where
  protocol : String
  addr : String
  deriving DecidableEq, Repr

/-- The text of an upstream without its special name for the resolver of the system. -/
def unaliased (upstream : String) : String :=
  if upstream = "localhost" then "127.0.0.1" else upstream

/-- The protocol and the address that `generateDnsModuleConfig` reads from the text of an
upstream. -/
def parseDnsUpstream (upstream : String) : DnsTarget :=
  let upstream := unaliased upstream
  if Go.contains upstream "://" then
    if Go.hasPrefix upstream "https://" then ⟨"https", upstream⟩
    else if Go.hasPrefix upstream "tcp://" then
      ⟨"tcp", withDefaultPort "53" (Go.trimPrefix upstream "tcp://")⟩
    else if Go.hasPrefix upstream "tls://" then
      ⟨"tcp-tls", withDefaultPort "853" (Go.trimPrefix upstream "tls://")⟩
    else if Go.hasPrefix upstream "quic://" then
      ⟨"quic", withDefaultPort "53" (Go.trimPrefix upstream "quic://")⟩
    else ⟨"udp", withDefaultPort "53" upstream⟩
  else ⟨"udp", withDefaultPort "53" upstream⟩

/-- `upstreamKey`: what rules have to have in common to share an upstream. -/
structure UpstreamKey where
  addr : String
  tag : String
  deriving DecidableEq, Repr

/-! ### The parts of a rule -/

/-- The entries of a text with commas between them. -/
def splitEntries (s : String) : List String :=
  if s = "" then [] else ((Go.split ',' s).map Go.trimSpace).filter (· ≠ "")

namespace DnsRule

variable (rule : DnsRule)

/-- The text of the upstream. -/
def upstreamText : String := orElse rule.upstream rule.server

/-- The protocol and the address of the upstream. -/
def target : DnsTarget := parseDnsUpstream rule.upstreamText

/-- The outbound of the upstream. -/
def tag : String := orElse rule.outbound "direct"

/-- What the upstream is known by. -/
def key : UpstreamKey := ⟨rule.target.addr, rule.tag⟩

/-- The lines of the domain. -/
def domainLines : List String :=
  let domain := orElse rule.domain rule.domains
  if domain = "" then []
  else ((Go.lines (Go.trimSpace domain)).map Go.trimSpace).filter (· ≠ "")

/-- The lines that stand for a name with its subdomains. -/
def suffixes : List String :=
  (rule.domainLines.filter (Go.hasPrefix · "domain:")).map (Go.trimPrefix · "domain:")

/-- The other lines. -/
def names : List String := rule.domainLines.filter fun d => ¬Go.hasPrefix d "domain:"

/-- The addresses that an answer is matched against. -/
def ips : List String := splitEntries rule.ip

/-- The addresses of clients. -/
def clientIPs : List String := splitEntries rule.clientIP

/-- The names of the query types. -/
def queryTypes : List String :=
  if rule.queryType = "" ∨ rule.queryType = "*" then []
  else (splitEntries rule.queryType).map Go.toUpper

/-- Whether the rule becomes one of the module. -/
def isConditional : Bool :=
  rule.names ≠ [] ∨ rule.suffixes ≠ [] ∨ rule.clientIPs ≠ [] ∨ rule.ips ≠ []

/-! Filling in the fields of older releases changes none of this. -/

@[simp] lemma upstreamText_migrate : rule.migrate.upstreamText = rule.upstreamText := by
  simp only [upstreamText, migrate, orElse]
  grind

@[simp] lemma target_migrate : rule.migrate.target = rule.target := by
  simp [target]

@[simp] lemma tag_migrate : rule.migrate.tag = rule.tag := by
  simp only [tag, migrate, orElse]
  grind

@[simp] lemma key_migrate : rule.migrate.key = rule.key := by
  simp [key]

@[simp] lemma domainLines_migrate : rule.migrate.domainLines = rule.domainLines := by
  have hdomain : orElse rule.migrate.domain rule.migrate.domains =
      orElse rule.domain rule.domains := by
    simp only [migrate, orElse]
    grind
  simp [domainLines, hdomain]

@[simp] lemma suffixes_migrate : rule.migrate.suffixes = rule.suffixes := by
  simp [suffixes]

@[simp] lemma names_migrate : rule.migrate.names = rule.names := by
  simp [names]

@[simp] lemma ips_migrate : rule.migrate.ips = rule.ips := rfl

@[simp] lemma clientIPs_migrate : rule.migrate.clientIPs = rule.clientIPs := rfl

@[simp] lemma queryTypes_migrate : rule.migrate.queryTypes = rule.queryTypes := by
  simp only [queryTypes, migrate, orElse]
  grind

@[simp] lemma isConditional_migrate : rule.migrate.isConditional = rule.isConditional := by
  simp [isConditional]

end DnsRule

/-! ### The generated configuration -/

/-- A rule of the module as it is written, with the names of query types. -/
structure DnsModuleRule where
  id : String
  upstream : String
  action : String
  policy : String
  domain : List String := []
  domainSuffix : List String := []
  ip : List String := []
  clientIP : List String := []
  queryType : List String := []
  deriving DecidableEq, Repr

/-- The configuration of the module as it is written. -/
structure DnsModuleJson where
  upstreams : List Dns.UpstreamConfig := []
  rules : List DnsModuleRule := []
  defaultUpstream : String := ""
  /-- The names of upstreams that have to be resolved. -/
  bootstrap : List String := []
  bootstrapDns : List String := []
  /-- The local proxies of the outbounds. -/
  proxyMap : Go.Map String String := []
  deriving DecidableEq, Repr

/-- What the configuration depends on besides the rules and the servers. -/
structure DnsEnv where
  lib : Dns.Library
  socksPort : ℤ := 20170
  /-- `getSystemDnsServers`. -/
  systemDns : List String := []

/-- What the loop over the rules has collected. -/
structure DnsGen where
  upstreams : List Dns.UpstreamConfig := []
  /-- `seenUpstream`: the positions of the upstreams. -/
  seen : Go.Map UpstreamKey ℕ := []
  rules : List DnsModuleRule := []
  defaultUpstream : String := ""
  bootstrap : List String := []
  proxyMap : Go.Map String String := []

/-- The name of the upstream at a position. -/
def upstreamName (i : ℕ) : String := "upstream-" ++ toString i

/-- The upstream of a rule. -/
def DnsRule.upstreamConfig (rule : DnsRule) (i : ℕ) : Dns.UpstreamConfig where
  id := upstreamName i
  addr := rule.target.addr
  protocol := rule.target.protocol
  proxyTag := rule.tag

/-- The name that the module has to resolve before it can use the upstream of a rule. -/
def DnsRule.bootHost (lib : Dns.Library) (rule : DnsRule) : String :=
  if rule.target.protocol = "https" then
    (lib.urlHostname (unaliased rule.upstreamText)).getD rule.target.addr
  else match Go.splitHostPort rule.target.addr with
    | some (host, _) => host
    | none => rule.target.addr

/-- The rule of the module for a rule that is not the default. `n` is the number of rules before
it. -/
def DnsRule.moduleRule (rule : DnsRule) (upstreamID : String) (n : ℕ) : DnsModuleRule where
  id := orElse rule.ruleID ("rule-" ++ toString n)
  upstream := upstreamID
  action := orElse rule.action "route"
  policy := orElse rule.policy "single"
  domain := rule.names
  domainSuffix := rule.suffixes
  ip := rule.ips
  clientIP := rule.clientIPs
  queryType := rule.queryTypes

/-- A rule with its fields filled in is written in the same way, under a name of its own. -/
lemma DnsRule.moduleRule_migrate (rule : DnsRule) (upstreamID : String) (n : ℕ) :
    rule.migrate.moduleRule upstreamID n =
      { rule.moduleRule upstreamID n with
        id := orElse rule.ruleID ("rule-" ++ toString rule.id) } := by
  have hid : orElse (orElse rule.ruleID ("rule-" ++ toString rule.id)) ("rule-" ++ toString n) =
      orElse rule.ruleID ("rule-" ++ toString rule.id) := by
    unfold orElse
    split_ifs <;> simp_all
  have haction (s t : String) : orElse (orElse s t) t = orElse s t := by
    unfold orElse
    grind
  simp only [moduleRule, names_migrate, suffixes_migrate, ips_migrate, clientIPs_migrate,
    queryTypes_migrate]
  simp only [migrate, hid, haction]

/-- Note the name to resolve and the outbound of a rule. -/
def DnsGen.note (env : DnsEnv) (g : DnsGen) (rule : DnsRule) : DnsGen :=
  let host := rule.bootHost env.lib
  let g := if host ≠ "" ∧ (env.lib.parseIP host).isNone then
    { g with bootstrap := g.bootstrap ++ [host] } else g
  if rule.tag ≠ "direct" ∧ rule.tag ≠ "block" ∧ (g.proxyMap.get? rule.tag).isNone then
    { g with proxyMap := g.proxyMap.put rule.tag ("127.0.0.1:" ++ toString env.socksPort) } else g

/-- The upstream of a rule, which is added unless there is one with its address and outbound,
whatever the protocols. -/
def DnsGen.supply (g : DnsGen) (rule : DnsRule) : String × DnsGen :=
  match g.seen.get? rule.key with
  | some i => (upstreamName i, g)
  | none =>
    (upstreamName g.upstreams.length,
      { g with
        seen := g.seen.put rule.key g.upstreams.length
        upstreams := g.upstreams ++ [rule.upstreamConfig g.upstreams.length] })

/-- The body of the loop over the rules. -/
def DnsGen.step (env : DnsEnv) (g : DnsGen) (rule : DnsRule) : DnsGen :=
  if rule.upstreamText = "" then g
  else
    let (upstreamID, g) := (g.note env rule).supply rule
    if rule.isConditional then
      { g with rules := g.rules ++ [rule.moduleRule upstreamID g.rules.length] }
    else { g with defaultUpstream := upstreamID }

/-- The loop over the stored rules. -/
def generateRules (env : DnsEnv) (rules : List DnsRule) : DnsGen :=
  (migrateDnsRules rules).foldl (DnsGen.step env) {}

/-- `directDnsServers`: the plain upstreams that are reached directly, by address. -/
def directDnsServers (lib : Dns.Library) (rules : List DnsRule) : List String :=
  deduplicate <| (migrateDnsRules rules).filterMap fun rule => do
    if rule.outbound ≠ "" ∧ rule.outbound ≠ "direct" then none
    else
      let addr ← match Go.cutText rule.upstreamText "://" with
        | some (scheme, rest) => if scheme = "udp" ∨ scheme = "tcp" then some rest else none
        | none => some rule.upstreamText
      let (host, port) := (Go.splitHostPort addr).getD (addr, "53")
      let ip ← lib.parseIP host
      if ip.isLoopback ∨ ip.isUnspecified then none else some (Go.joinHostPort host port)

/-- The name of the upstream for the names of servers. -/
def nodeUpstreamID : String := "upstream-node"

/-- The upstream for the names of servers: the first one that is not on this host. -/
def nodeUpstream (env : DnsEnv) (rules : List DnsRule) (bootstrapDns : List String) :
    Dns.UpstreamConfig where
  id := nodeUpstreamID
  addr := ((directDnsServers env.lib rules ++ bootstrapDns).find? fun s =>
    match Go.splitHostPort s with
    | some (host, _) => (env.lib.parseIP host).any fun ip => ¬ip.isLoopback
    | none => false).getD "223.5.5.5:53"
  protocol := "udp"
  proxyTag := "direct"

/-- The rule for the names of servers. -/
def nodeRule (domains : List String) : DnsModuleRule where
  id := "rule-node"
  upstream := nodeUpstreamID
  action := "route"
  policy := "single"
  domainSuffix := domains

/-- The names among the hosts of servers. -/
def nodeDomains (lib : Dns.Library) (hosts : List String) : List String :=
  deduplicate (hosts.filter fun host => host ≠ "" ∧ (lib.parseIP host).isNone)

/-- `generateDnsModuleConfig`, for the hosts of the connected servers. -/
def generateDnsModuleConfig (env : DnsEnv) (rules : List DnsRule) (hosts : List String) :
    DnsModuleJson :=
  let bootstrapDns := deduplicate (env.systemDns ++ directDnsServers env.lib rules)
  let g := generateRules env rules
  let domains := nodeDomains env.lib hosts
  -- not behind the others: the module takes its last upstream for the default
  let front := if domains = [] then ([], [])
    else ([nodeUpstream env rules bootstrapDns], [nodeRule domains])
  { upstreams := front.1 ++ g.upstreams
    rules := front.2 ++ g.rules
    defaultUpstream := g.defaultUpstream
    bootstrap := deduplicate g.bootstrap
    bootstrapDns
    proxyMap := g.proxyMap }

/-! ### Loading the configuration -/

/-- A rule as the core reads it. The names of query types have to be known. -/
def DnsModuleRule.load (lib : Dns.Library) (rule : DnsModuleRule) :
    Except Go.Error Dns.DnsRule := do
  let queryType ← rule.queryType.mapM fun name =>
    Except.ofOption (lib.stringToType (Go.toUpper name))
      (⟨"dns: unknown query type " ++ Go.quote name, "", []⟩ : Go.Error)
  pure
    { id := rule.id, upstream := rule.upstream, action := rule.action, policy := rule.policy
      domain := rule.domain, domainSuffix := rule.domainSuffix, ip := rule.ip
      clientIP := rule.clientIP, queryType }

/-- `extractDnsModuleConfig`. -/
def DnsModuleJson.load (lib : Dns.Library) (cfg : DnsModuleJson) :
    Except Go.Error Dns.DnsModuleConfig := do
  let rules ← (cfg.rules.mapM (DnsModuleRule.load lib)).mapError
    (·.wrap "unmarshal dns_module config")
  pure
    { upstreams := cfg.upstreams, rules, defaultUpstream := cfg.defaultUpstream
      bootstrap := cfg.bootstrap }

/-! ### What the loop leaves -/

/-- The rules that supply an upstream, as they are read. -/
def suppliers (rules : List DnsRule) : List DnsRule :=
  (migrateDnsRules rules).filter (·.upstreamText ≠ "")

/-- The addresses and outbounds of rules, in the order of the upstreams. -/
def upstreamKeys (rules : List DnsRule) : List UpstreamKey :=
  deduplicate (rules.map DnsRule.key)

/-- The upstream that a rule refers to, among those of all rules. -/
def DnsRule.upstreamID (rule : DnsRule) (rules : List DnsRule) : String :=
  upstreamName ((upstreamKeys rules).idxOf rule.key)

lemma upstreamKeys_concat (rules : List DnsRule) (rule : DnsRule) :
    upstreamKeys (rules ++ [rule]) =
      if rule.key ∈ upstreamKeys rules then upstreamKeys rules
      else upstreamKeys rules ++ [rule.key] := by
  rw [upstreamKeys, map_append, map_cons, map_nil, deduplicate_concat]
  rfl

variable {rule : DnsRule}

/-- Rules that follow do not change which upstream a rule refers to. -/
lemma upstreamID_concat {rules : List DnsRule} (h : rule ∈ rules) (next : DnsRule) :
    rule.upstreamID (rules ++ [next]) = rule.upstreamID rules := by
  unfold DnsRule.upstreamID upstreamKeys
  rw [map_append, map_cons, map_nil,
    idxOf_deduplicate_concat (mem_map_of_mem h)]

/-- The upstreams that the loop has collected. -/
structure Supplied (rules : List DnsRule) (g : DnsGen) : Prop where
  /-- There is one upstream for each address and outbound. -/
  keys : g.upstreams.map (fun u => ⟨u.addr, u.proxyTag⟩) = upstreamKeys rules
  /-- An upstream is that of the first rule with its address and outbound. -/
  upstream : ∀ (i : ℕ) (u : Dns.UpstreamConfig), g.upstreams[i]? = some u →
    ∃ rule, rules.find? (fun r => r.key = ⟨u.addr, u.proxyTag⟩) = some rule ∧
      u = rule.upstreamConfig i
  seen : ∀ (key : UpstreamKey) (i : ℕ),
    g.seen.get? key = some i ↔ (upstreamKeys rules)[i]? = some key

variable {g : DnsGen}

/-- A rule gets the upstream with its address and outbound. -/
lemma Supplied.supply {rules : List DnsRule} (h : Supplied rules g) (rule : DnsRule) :
    Supplied (rules ++ [rule]) (g.supply rule).2 ∧
      (g.supply rule).1 = rule.upstreamID (rules ++ [rule]) := by
  have hlen : g.upstreams.length = (upstreamKeys rules).length := by
    rw [← h.keys, List.length_map]
  unfold DnsGen.supply DnsRule.upstreamID
  rw [upstreamKeys_concat]
  cases hseen : g.seen.get? rule.key with
  | some i =>
    have hi := (h.seen _ _).mp hseen
    have hmem : rule.key ∈ upstreamKeys rules := List.mem_of_getElem? hi
    have hkeys : upstreamKeys (rules ++ [rule]) = upstreamKeys rules := by
      rw [upstreamKeys_concat, if_pos hmem]
    refine ⟨⟨hkeys ▸ h.keys, fun j u hu => ?_, hkeys ▸ h.seen⟩, ?_⟩
    · obtain ⟨first, hfirst, rfl⟩ := h.upstream j u hu
      exact ⟨first, by rw [List.find?_append, hfirst]; rfl, rfl⟩
    · rw [if_pos hmem]
      obtain ⟨hlt, hget⟩ := List.getElem?_eq_some_iff.mp hi
      rw [← hget]
      exact congrArg upstreamName ((nodup_deduplicate _).idxOf_getElem i hlt).symm
  | none =>
    have hmem : rule.key ∉ upstreamKeys rules := by
      intro hmem
      obtain ⟨i, hi⟩ := List.mem_iff_getElem?.mp hmem
      rw [(h.seen _ _).mpr hi] at hseen
      cases hseen
    have hkeys : upstreamKeys (rules ++ [rule]) = upstreamKeys rules ++ [rule.key] := by
      rw [upstreamKeys_concat, if_neg hmem]
    refine ⟨⟨?_, fun j u hu => ?_, fun key j => ?_⟩, ?_⟩
    · rw [hkeys, List.map_append, h.keys]
      rfl
    · rcases List.getElem?_concat_eq_some_iff.mp hu with hu | ⟨rfl, rfl⟩
      · obtain ⟨first, hfirst, rfl⟩ := h.upstream j u hu
        exact ⟨first, by rw [List.find?_append, hfirst]; rfl, rfl⟩
      · -- no earlier rule has the key
        refine ⟨rule, ?_, rfl⟩
        have hnone : rules.find? (fun r => r.key = rule.key) = none := by
          rw [List.find?_eq_none]
          intro r hr heq
          exact hmem (mem_deduplicate.mpr (of_decide_eq_true heq ▸ List.mem_map_of_mem hr))
        rw [List.find?_append]
        change (rules.find? fun r => r.key = rule.key).or _ = _
        rw [hnone]
        simp [DnsRule.upstreamConfig, DnsRule.key]
    · rw [Go.Map.get?_put, hkeys, List.getElem?_concat_eq_some_iff, ← h.seen, ← hlen]
      by_cases hkey : key = rule.key
      · simp [hkey, hseen, eq_comm]
      · simp [hkey, Ne.symm hkey]
    · rw [if_neg hmem, List.idxOf_append_of_notMem hmem, hlen]
      simp

/-- What the loop has collected from some rules. -/
structure Generated (done : List DnsRule) (g : DnsGen) : Prop extends Supplied done g where
  rules : g.rules = (done.filter (·.isConditional)).zipIdx.map fun e =>
    e.1.moduleRule (e.1.upstreamID done) e.2
  default : g.defaultUpstream =
    ((done.filter (¬·.isConditional)).getLast?.map (·.upstreamID done)).getD ""

variable {done : List DnsRule}

/-- The part of the loop that does not depend on the upstreams leaves them alone. -/
lemma Generated.note (h : Generated done g) (env : DnsEnv) (rule : DnsRule) :
    Generated done (g.note env rule) := by
  have hsame : (g.note env rule).upstreams = g.upstreams ∧ (g.note env rule).seen = g.seen ∧
      (g.note env rule).rules = g.rules ∧
      (g.note env rule).defaultUpstream = g.defaultUpstream := by
    unfold DnsGen.note
    grind
  obtain ⟨hupstreams, hseen, hrules, hdefault⟩ := hsame
  exact ⟨⟨hupstreams ▸ h.keys, hupstreams ▸ h.upstream, hseen ▸ h.seen⟩, hrules ▸ h.rules,
    hdefault ▸ h.default⟩

lemma supply_rules (g : DnsGen) (rule : DnsRule) :
    (g.supply rule).2.rules = g.rules ∧
      (g.supply rule).2.defaultUpstream = g.defaultUpstream := by
  unfold DnsGen.supply
  split <;> exact ⟨rfl, rfl⟩

lemma Generated.step (h : Generated done g) (env : DnsEnv) (htext : rule.upstreamText ≠ "") :
    Generated (done ++ [rule]) (g.step env rule) := by
  have hnote := h.note env rule
  obtain ⟨hsupplied, hid⟩ := hnote.supply rule
  obtain ⟨hrules, hdefault⟩ := supply_rules (g.note env rule) rule
  -- the rules so far refer to the upstreams that they referred to
  have hold : ((done.filter (·.isConditional)).zipIdx.map fun e =>
        e.1.moduleRule (e.1.upstreamID (done ++ [rule])) e.2) = (g.note env rule).rules := by
    rw [hnote.rules]
    refine map_congr_left fun e he => ?_
    have hmem : e.1 ∈ done := mem_of_mem_filter (fst_mem_of_mem_zipIdx he)
    rw [upstreamID_concat hmem]
  have hlast : ((done.filter (¬·.isConditional)).getLast?.map
      (·.upstreamID (done ++ [rule]))).getD "" = (g.note env rule).defaultUpstream := by
    rw [hnote.default]
    cases hlast : (done.filter (¬·.isConditional)).getLast? with
    | none => rfl
    | some last =>
      have hmem : last ∈ done := mem_of_mem_filter (mem_of_getLast? hlast)
      simp [upstreamID_concat hmem]
  unfold DnsGen.step
  rw [if_neg htext]
  cases hcond : rule.isConditional with
  | true =>
    refine ⟨⟨hsupplied.keys, hsupplied.upstream, hsupplied.seen⟩, ?_, ?_⟩
    · simp [hcond, zipIdx_append, hrules, hid, ← hold]
    · simp [hcond, hdefault, ← hlast]
  | false =>
    refine ⟨⟨hsupplied.keys, hsupplied.upstream, hsupplied.seen⟩, ?_, ?_⟩
    · simp [hcond, hrules, ← hold]
    · simp [hcond, hid]

/-- What the loop leaves when it has seen all rules. -/
lemma generated_generateRules (env : DnsEnv) (rules : List DnsRule) :
    Generated (suppliers rules) (generateRules env rules) := by
  unfold generateRules suppliers
  induction migrateDnsRules rules using reverseRecOn with
  | nil => exact ⟨⟨rfl, by simp, by simp [upstreamKeys, deduplicate, Go.Map.get?]⟩, rfl, rfl⟩
  | append_singleton rules rule ih =>
    rw [foldl_append, foldl_cons, foldl_nil]
    by_cases htext : rule.upstreamText = ""
    · have hstep (g : DnsGen) : g.step env rule = g := by simp [DnsGen.step, htext]
      rw [hstep]
      simpa [htext] using ih
    · simpa [htext] using ih.step env htext

/-! ### Names of upstreams -/

lemma upstreamName_injective {i j : ℕ} (h : upstreamName i = upstreamName j) : i = j := by
  have hlist := congrArg String.toList h
  simp only [upstreamName, String.toList_append, append_cancel_left_eq] at hlist
  exact Go.toList_toString_nat_inj hlist

/-- The upstream for the names of servers is none of the others. -/
lemma upstreamName_ne_nodeUpstreamID (i : ℕ) : upstreamName i ≠ nodeUpstreamID := by
  intro h
  have hlist := congrArg String.toList h
  have hnode : nodeUpstreamID.toList = "upstream-".toList ++ "node".toList := by decide
  rw [upstreamName, String.toList_append, hnode, append_cancel_left_eq] at hlist
  exact Go.notMem_toString_nat (c := 'n') (by decide) i (hlist ▸ by decide)

/-- Each rule that is not a default has its rule in the module. -/
lemma Generated.forall₂_rules (h : Generated done g) :
    List.Forall₂ (fun rule r => ∃ n, r = rule.moduleRule (rule.upstreamID done) n)
      (done.filter (·.isConditional)) g.rules := by
  have hfst : done.filter (·.isConditional) =
      (done.filter (·.isConditional)).zipIdx.map Prod.fst := by simp
  rw [h.rules]
  conv in (filter _ _) => rw [hfst]
  rw [forall₂_map_left_iff, forall₂_map_right_iff, forall₂_same]
  exact fun e _ => ⟨e.2, rfl⟩

variable (env : DnsEnv) (rules : List DnsRule) (hosts : List String)

/-- The upstreams that stand in front of those of the rules. -/
def nodeUpstreams : List Dns.UpstreamConfig :=
  if nodeDomains env.lib hosts = [] then []
  else [nodeUpstream env rules
    (deduplicate (env.systemDns ++ directDnsServers env.lib rules))]

/-- The rules that stand in front of the others. -/
def nodeRules (lib : Dns.Library) (hosts : List String) : List DnsModuleRule :=
  if nodeDomains lib hosts = [] then [] else [nodeRule (nodeDomains lib hosts)]

lemma upstreams_generateDnsModuleConfig :
    (generateDnsModuleConfig env rules hosts).upstreams =
      nodeUpstreams env rules hosts ++ (generateRules env rules).upstreams := by
  unfold generateDnsModuleConfig nodeUpstreams
  split <;> simp_all

lemma rules_generateDnsModuleConfig :
    (generateDnsModuleConfig env rules hosts).rules =
      nodeRules env.lib hosts ++ (generateRules env rules).rules := by
  unfold generateDnsModuleConfig nodeRules
  split <;> simp_all

/-- The upstream that a rule refers to is that of the first rule with its address and outbound. -/
lemma find?_upstreamID (h : rule ∈ suppliers rules) :
    ∃ first i, (suppliers rules).find? (fun r => r.key = rule.key) = some first ∧
      (generateDnsModuleConfig env rules hosts).upstreams.find?
        (fun u => u.id = rule.upstreamID (suppliers rules)) = some (first.upstreamConfig i) := by
  have hgen := generated_generateRules env rules
  have hmem : rule.key ∈ upstreamKeys (suppliers rules) :=
    mem_deduplicate.mpr (List.mem_map_of_mem h)
  obtain ⟨u, hu, hkey⟩ : ∃ u, (generateRules env rules).upstreams[
      (upstreamKeys (suppliers rules)).idxOf rule.key]? = some u ∧
      (⟨u.addr, u.proxyTag⟩ : UpstreamKey) = rule.key := by
    have hget := List.getElem?_idxOf hmem
    rw [← hgen.keys, List.getElem?_map, Option.map_eq_some_iff, hgen.keys] at hget
    exact hget
  obtain ⟨first, hfirst, rfl⟩ := hgen.upstream _ u hu
  rw [hkey] at hfirst
  refine ⟨first, (upstreamKeys (suppliers rules)).idxOf rule.key, hfirst, ?_⟩
  have hnode : (nodeUpstreams env rules hosts).find?
      (fun u => u.id = rule.upstreamID (suppliers rules)) = none := by
    unfold nodeUpstreams
    split
    · rfl
    · have hne : nodeUpstreamID ≠ rule.upstreamID (suppliers rules) :=
        (upstreamName_ne_nodeUpstreamID _).symm
      rw [List.find?_cons_of_neg (by simpa [nodeUpstream] using hne), List.find?_nil]
  rw [upstreams_generateDnsModuleConfig, List.find?_append, hnode]
  -- an upstream is named after its position, so that no other one has the name
  obtain ⟨hlt, hget⟩ := List.getElem?_eq_some_iff.mp hu
  refine List.find?_eq_some_iff_getElem.mpr ⟨decide_eq_true rfl, _, hlt, hget, fun j hj => ?_⟩
  obtain ⟨other, -, hother⟩ := hgen.upstream j _ (List.getElem?_eq_getElem (hj.trans hlt))
  rw [hother, Bool.not_eq_true', decide_eq_false_iff_not]
  exact fun heq => absurd (upstreamName_injective heq) hj.ne

end V2rayA
