import V2rayA.Go.Net

/-!
# The configuration of the DNS module

The part of the core's configuration under `dns_module`, with the checks that `Start` makes of it
and the upstream that answers what no rule matches.

* `selectDefaultUpstream_append`: upstreams in front of the list do not change the default.
-/

namespace V2rayA.Dns

open List

/-- The functions of the packages `net`, `net/url` and `regexp` that look into a text. -/
structure Library where
  /-- `net.ParseIP`. -/
  parseIP : String → Option Go.IP
  /-- `net.ParseCIDR`. -/
  parseCIDR : String → Except Go.Error Go.IPNet
  /-- `regexp.Compile`, with the texts that the expression matches. -/
  compile : String → Except Go.Error (String → Bool)
  /-- The host of the URL that `url.Parse` returns. -/
  urlHostname : String → Option String
  /-- `dns.StringToType`, the names of the query types. -/
  stringToType : String → Option ℕ := fun _ => none
  /-- An address is written without brackets. -/
  unbracketed : ∀ s, (parseIP s).isSome → Go.Unbracketed s

/-- A library that knows some addresses, and nothing else. -/
def Library.knowing (ips : List (String × Go.IP)) (h : ∀ e ∈ ips, Go.Unbracketed e.1) :
    Library where
  parseIP s := (ips.find? fun e => e.1 = s).map Prod.snd
  parseCIDR _ := .error ⟨"invalid CIDR address", "", []⟩
  compile _ := .error ⟨"error parsing regexp", "", []⟩
  urlHostname _ := none
  unbracketed s hs := by
    rw [Option.isSome_map] at hs
    obtain ⟨e, he⟩ := Option.isSome_iff_exists.mp hs
    obtain rfl : e.1 = s := by simpa using List.find?_some he
    exact h e (List.mem_of_find?_eq_some he)

/-- A library that reads nothing. -/
def Library.blank : Library := .knowing [] (by simp)

/-- A DNS server. -/
structure UpstreamConfig where
  id : String := ""
  addr : String := ""
  /-- `udp`, `tcp`, `tcp-tls`, `tls` or `https`; empty for `udp`. -/
  protocol : String := ""
  /-- The outbound that queries leave through; empty for `direct`. -/
  proxyTag : String := ""
  bootstrap : Bool := false
  /-- The name that the certificate of a TLS server is checked against. -/
  serverName : String := ""
  deriving DecidableEq, Repr

/-- A routing rule; `RuleConfig` and `DnsRule` have the same fields. Each list is a condition, and
an empty list is none. -/
structure DnsRule where
  id : String := ""
  domain : List String := []
  domainSuffix : List String := []
  domainRegex : List String := []
  ip : List String := []
  queryType : List ℕ := []
  clientIP : List String := []
  upstream : String := ""
  action : String := ""
  policy : String := ""
  deriving DecidableEq, Repr

/-- Where the module listens. -/
structure DnsListenerConfig where
  listenAddr : String := "0.0.0.0:52353"
  extraListenAddrs : List String := []
  /-- The time for a query, in seconds. -/
  timeout : ℤ := 5
  deriving DecidableEq, Repr

/-- The sizes and lifetimes of the cache. -/
structure CacheConfig where
  enabled : Bool := true
  size : ℤ := 4096
  minTTL : ℤ := 60
  maxTTL : ℤ := 86400
  negativeCache : Bool := false
  deriving DecidableEq, Repr

/-- The configuration of the module. -/
structure DnsModuleConfig where
  listener : DnsListenerConfig := {}
  cache : CacheConfig := {}
  upstreams : List UpstreamConfig := []
  rules : List DnsRule := []
  defaultUpstream : String := ""
  /-- The names of servers that have to be resolved before the module can use them. -/
  bootstrap : List String := []
  deriving DecidableEq, Repr

/-! ### Checks -/

/-- `DnsListenerConfig.Validate`. -/
def DnsListenerConfig.validate (c : DnsListenerConfig) : Option Go.Error :=
  if c.listenAddr = "" then some ⟨"dns listener: listen address must not be empty", "", []⟩
  else if ':' ∉ c.listenAddr.toList then
    some ⟨"dns listener: listen address " ++ Go.quote c.listenAddr ++
      " must include port (e.g. \"0.0.0.0:52353\")", "", []⟩
  else match c.extraListenAddrs.zipIdx.find? fun e => ':' ∉ e.1.toList with
    | some (addr, i) =>
      some ⟨"dns listener: extra address[" ++ toString i ++ "] " ++ Go.quote addr ++
        " must include port", "", []⟩
    | none =>
      if c.timeout ≤ 0 then
        some ⟨"dns listener: timeout must be positive, got " ++ toString c.timeout, "", []⟩
      else none

/-- `DnsModuleConfig.Validate`. -/
def DnsModuleConfig.validate (c : DnsModuleConfig) : Option Go.Error :=
  match c.listener.validate with
  | some err => some err
  | none =>
    if c.cache.size < 0 then
      some ⟨"dns module: cache size must be non-negative, got " ++ toString c.cache.size, "", []⟩
    else if c.cache.minTTL < 0 then
      some ⟨"dns module: min TTL must be non-negative, got " ++ toString c.cache.minTTL, "", []⟩
    else if c.cache.maxTTL < 0 then
      some ⟨"dns module: max TTL must be non-negative, got " ++ toString c.cache.maxTTL, "", []⟩
    else if c.cache.minTTL > c.cache.maxTTL ∧ c.cache.maxTTL > 0 then
      some ⟨"dns module: min TTL (" ++ toString c.cache.minTTL ++ ") must not exceed max TTL (" ++
        toString c.cache.maxTTL ++ ")", "", []⟩
    else none

/-- The defaults are valid. -/
example : ({} : DnsModuleConfig).validate = none := by decide

/-! ### The default upstream -/

/-- The name of an upstream: its id, or else its address. -/
def UpstreamConfig.name (u : UpstreamConfig) : String := if u.id = "" then u.addr else u.id

/-- `selectDefaultUpstream`. -/
def selectDefaultUpstream (config : DnsModuleConfig) : String :=
  if config.defaultUpstream ≠ "" then config.defaultUpstream
  else
    -- the last upstream that is not a bootstrap server wins
    let last := config.upstreams.foldl (fun acc u => if u.bootstrap then acc else u.name) ""
    if last = "" then (config.upstreams.getLast?.map UpstreamConfig.name).getD "" else last

lemma foldl_name_append {us us' : List UpstreamConfig} {u : UpstreamConfig} (hu : u ∈ us')
    (hboot : u.bootstrap = false) (acc : String) :
    (us ++ us').foldl (fun acc u => if u.bootstrap then acc else u.name) acc =
      us'.foldl (fun acc u => if u.bootstrap then acc else u.name) "" := by
  rw [foldl_append]
  generalize us.foldl _ acc = acc
  -- whatever stands before the first server that counts is overwritten by it
  induction us' generalizing acc with
  | nil => simp at hu
  | cons v us' ih =>
    simp
    rcases mem_cons.mp hu with rfl | hu
    · simp [hboot]
    · by_cases hv : v.bootstrap = true
      · simp only [hv]
        exact ih hu acc
      · simp [hv]

/-- Upstreams in front of the list do not change the default. -/
lemma selectDefaultUpstream_append {config : DnsModuleConfig} {us : List UpstreamConfig}
    {u : UpstreamConfig} (hu : u ∈ config.upstreams) (hboot : u.bootstrap = false) :
    selectDefaultUpstream { config with upstreams := us ++ config.upstreams } =
      selectDefaultUpstream config := by
  have hlast : (us ++ config.upstreams).getLast? = config.upstreams.getLast? :=
    getLast?_append_of_ne_nil us (ne_nil_of_mem hu)
  unfold selectDefaultUpstream
  simp only [hlast, foldl_name_append hu hboot]

/-- The default is the one that is configured, or one of the upstreams. -/
lemma selectDefaultUpstream_cases (config : DnsModuleConfig) (h : config.upstreams ≠ []) :
    config.defaultUpstream ≠ "" ∧ selectDefaultUpstream config = config.defaultUpstream ∨
      ∃ u ∈ config.upstreams, selectDefaultUpstream config = u.name := by
  have hfold (us : List UpstreamConfig) (acc : String) :
      us.foldl (fun acc u => if u.bootstrap then acc else u.name) acc = acc ∨
        ∃ u ∈ us, us.foldl (fun acc u => if u.bootstrap then acc else u.name) acc = u.name := by
    induction us using reverseRecOn with
    | nil => exact .inl rfl
    | append_singleton us u ih =>
      rw [foldl_append, foldl_cons, foldl_nil]
      split
      · rcases ih with hacc | ⟨v, hv, heq⟩
        · exact .inl hacc
        · exact .inr ⟨v, mem_append_left _ hv, heq⟩
      · exact .inr ⟨u, by simp, rfl⟩
  unfold selectDefaultUpstream
  split
  next hdefault => exact .inl ⟨hdefault, rfl⟩
  next =>
    right
    dsimp only
    split
    next => exact ⟨_, getLast_mem h, by simp [getLast?_eq_some_getLast h]⟩
    next hne => exact (hfold config.upstreams "").resolve_left hne

end V2rayA.Dns
