import V2rayA.Core.Dns.Cache
import V2rayA.Core.Dns.Router
import V2rayA.ToMathlib.Transition

/-!
# Asking upstreams and remembering their answers

A query that is routed is looked up in the cache under a key made of the upstream, the name and the
type. If it is not there, a message is sent to the upstream. The message also says which subnet the
client is in, if its address is public.

* `message_exchange`: all ways to an upstream send the same message.
* `route_case_iff`: queries whose names differ in the case of letters are not the same to the
  module.
* `key_determines_message_iff`: when two queries with the same key ask the same.
-/

namespace V2rayA.Dns

open Router

/-! ### Messages to upstreams -/

/-- `shouldAttachECS`. -/
def shouldAttachECS (clientIP : Go.IP) : Bool :=
  clientIP ≠ [] ∧ clientIP.isGlobalUnicast ∧ ¬clientIP.isPrivate ∧ ¬clientIP.isLoopback ∧
    ¬clientIP.isLinkLocalUnicast

/-- The option that `AddECSSubnet` adds, with the bytes of the address that are sent. -/
def ecsSubnet (clientIP : Go.IP) : EdnsOption :=
  match clientIP.to4 with
  | some ip4 => .subnet 1 24 0 (ip4.take 3)
  | none => .subnet 2 48 0 (clientIP.take 6)

/-- `AddEDNS0` for one option. -/
def addEDNS0 (m : Msg) (udpSize : ℕ) (option : EdnsOption) : Msg :=
  if m.isEdns0 = none then { m with extra := m.extra ++ [.opt { udpSize, options := [option] }] }
  else m.modifyEdns0 fun o => { o with udpSize, options := o.options ++ [option] }

/-- The message for a query, as all three ways to an upstream build it. -/
def buildMessage (id : ℕ) (token : List UInt8) (q : DnsQuery) : Msg :=
  let m := ({} : Msg).setQuestion id (fqdn q.name) q.qtype
  let m := markOutgoing token (m.setEdns0 4096 true)
  if shouldAttachECS q.clientIP then addEDNS0 m 4096 (ecsSubnet q.clientIP) else m

/-- `UpstreamInstance`. -/
structure UpstreamInstance where
  id : String := ""
  addr : String := ""
  protocol : String := ""
  proxyTag : String := ""
  serverName : String := ""
  deriving DecidableEq, Repr

/-- How a message gets to an upstream. -/
inductive Transport
  | direct (protocol serverName addr : String)
  | socks5 (proxyAddr addr : String)
  | dispatcher (protocol addr proxyTag : String)
  deriving DecidableEq, Repr

/-- What an `UpstreamManager` knows about proxies. -/
structure UpstreamManager where
  /-- `ProxyAddrResolver`; the empty text for an unknown tag. -/
  proxyAddrResolver : String → String := fun _ => ""
  /-- The core's dispatcher has been set. -/
  dispatcher : Bool := false

namespace UpstreamManager

variable (mgr : UpstreamManager) (id : ℕ) (token : List UInt8)

/-- `resolveProxyAddr`. -/
def resolveProxyAddr (proxyTag : String) : String :=
  if mgr.proxyAddrResolver proxyTag ≠ "" then mgr.proxyAddrResolver proxyTag
  else if proxyTag = "proxy" then "127.0.0.1:1080"
  else ""

/-- `exchangeDirect`: the way and the message. -/
def exchangeDirect (u : UpstreamInstance) (q : DnsQuery) : Transport × Msg :=
  (.direct (if u.protocol = "" then "udp" else u.protocol) u.serverName u.addr,
    buildMessage id token q)

/-- `exchangeViaProxy`. -/
def exchangeViaProxy (u : UpstreamInstance) (q : DnsQuery) : Transport × Msg :=
  let proxyAddr := mgr.resolveProxyAddr u.proxyTag
  if proxyAddr = "" then
    exchangeDirect id token { addr := u.addr, protocol := "tcp", proxyTag := "direct" } q
  else (.socks5 proxyAddr u.addr, buildMessage id token q)

/-- `exchangeViaDispatcher`. -/
def exchangeViaDispatcher (u : UpstreamInstance) (q : DnsQuery) : Transport × Msg :=
  (.dispatcher u.protocol u.addr u.proxyTag, buildMessage id token q)

/-- `Exchange`: the way and the message. -/
def exchange (u : UpstreamInstance) (q : DnsQuery) : Transport × Msg :=
  if u.proxyTag ≠ "" ∧ u.proxyTag ≠ "direct" then
    if mgr.dispatcher then exchangeViaDispatcher id token u q
    else mgr.exchangeViaProxy id token u q
  else exchangeDirect id token u q

/-- All ways to an upstream send the same message. -/
lemma message_exchange (u : UpstreamInstance) (q : DnsQuery) :
    (mgr.exchange id token u q).2 = buildMessage id token q := by
  unfold exchange
  split
  · split
    · rfl
    · unfold exchangeViaProxy
      simp only
      split <;> rfl
  · rfl

end UpstreamManager

/-- The subnet that an upstream is told. -/
def clientSubnet (clientIP : Go.IP) : Option EdnsOption :=
  if shouldAttachECS clientIP then some (ecsSubnet clientIP) else none

variable {id : ℕ} {token : List UInt8} {q q₁ q₂ : DnsQuery}

@[simp] lemma question_buildMessage :
    (buildMessage id token q).question = [⟨fqdn q.name, q.qtype, classINET⟩] := by
  unfold buildMessage markOutgoing addEDNS0
  simp only
  split <;> [split; skip] <;> rfl

/-- The options of a message are the token and the subnet of the client. -/
lemma isEdns0_buildMessage :
    (buildMessage id token q).isEdns0 = some
      { udpSize := 4096, dnssecOk := true
        options := .local loopOptionCode token :: (clientSubnet q.clientIP).toList } := by
  have hmark : (markOutgoing token
      ((({} : Msg).setQuestion id (fqdn q.name) q.qtype).setEdns0 4096 true)).isEdns0 =
      some { udpSize := 4096, dnssecOk := true, options := [.local loopOptionCode token] } := by
    simp [markOutgoing, setToken]
  unfold buildMessage clientSubnet
  split
  · simp [addEDNS0, hmark]
  · simpa using hmark

/-- Two messages ask the same: they have the same question and the same options. -/
def SameRequest (m m' : Msg) : Prop := m.question = m'.question ∧ m.isEdns0 = m'.isEdns0

/-- Queries for the same name and type ask the same exactly if the subnets of the clients are the
same. -/
lemma sameRequest_buildMessage_iff {id₁ id₂ : ℕ} (hname : q₁.name = q₂.name)
    (htype : q₁.qtype = q₂.qtype) :
    SameRequest (buildMessage id₁ token q₁) (buildMessage id₂ token q₂) ↔
      clientSubnet q₁.clientIP = clientSubnet q₂.clientIP := by
  simp only [SameRequest, question_buildMessage, isEdns0_buildMessage, hname, htype, true_and]
  constructor
  · intro h
    cases h₁ : clientSubnet q₁.clientIP <;> cases h₂ : clientSubnet q₂.clientIP <;> simp_all
  · intro h
    rw [h]

/-! ### Keys -/

/-- `buildCacheKey`. -/
def buildCacheKey (q : DnsQuery) (u : UpstreamInstance) : CacheKey where
  upstreamAddr := u.addr
  proxyTag := if u.proxyTag = "" then "direct" else u.proxyTag
  name := q.name
  qtype := q.qtype

/-- The default branch of `HandleQuery`: the query is neither refused nor sent past the cache. -/
def RouteResult.isRouted (r : RouteResult) : Bool := r.action ≠ "reject" ∧ r.action ≠ "bypass"

/-- Two queries of one client for the same type, whose names differ in the case of letters only. -/
structure SameUpToCase (q₁ q₂ : DnsQuery) : Prop where
  name : q₁.name.toList.map Char.toLower = q₂.name.toList.map Char.toLower
  qtype : q₁.qtype = q₂.qtype
  clientIP : q₁.clientIP = q₂.clientIP

/-- Two rules send queries to the same place. -/
def DnsRule.SameTarget (rule rule' : DnsRule) : Prop :=
  rule.upstream = rule'.upstream ∧ rule.id = rule'.id ∧
    (if rule.action = "" then "route" else rule.action) =
      (if rule'.action = "" then "route" else rule'.action) ∧
    (if rule.policy = "" then "single" else rule.policy) =
      (if rule'.policy = "" then "single" else rule'.policy)

lemma result_eq_iff {r : Router} {rule rule' : DnsRule} :
    r.result (some rule) = r.result (some rule') ↔ rule.SameTarget rule' := by
  simp only [result, RouteResult.mk.injEq]
  constructor
  · rintro ⟨hup, -, haction, hid, hpolicy, -⟩
    exact ⟨hup, hid, haction, hpolicy⟩
  · rintro ⟨hup, hid, haction, hpolicy⟩
    simp [hup, hid, haction, hpolicy]

/-- Queries whose names differ in the case of letters are routed alike and share a key, exactly if
the names do not differ, or rules with the same target refuse both or send both past the cache. -/
theorem route_case_iff (r : Router) (u : UpstreamInstance) {q₁ q₂ : DnsQuery}
    (h : SameUpToCase q₁ q₂) :
    (r.route q₁ = r.route q₂ ∧
      ((r.route q₁).isRouted = true → buildCacheKey q₁ u = buildCacheKey q₂ u)) ↔
    q₁.name = q₂.name ∨ ∃ rule₁ rule₂, r.pick q₁ = some rule₁ ∧ r.pick q₂ = some rule₂ ∧
      rule₁.SameTarget rule₂ ∧ (rule₁.action = "reject" ∨ rule₁.action = "bypass") := by
  have hkey : buildCacheKey q₁ u = buildCacheKey q₂ u ↔ q₁.name = q₂.name := by
    simp [buildCacheKey, h.qtype]
  rw [hkey]
  constructor
  · rintro ⟨hroute, hname⟩
    cases hrouted : (r.route q₁).isRouted with
    | true => exact .inl (hname hrouted)
    | false =>
      -- a query that no rule matches is routed
      have haction : (r.route q₁).action = "reject" ∨ (r.route q₁).action = "bypass" := by
        by_contra hno
        simp only [RouteResult.isRouted, decide_eq_false_iff_not] at hrouted
        exact hrouted (not_or.mp hno)
      have hsome {q : DnsQuery} (ha : (r.route q).action = "reject" ∨ (r.route q).action = "bypass") :
          ∃ rule, r.pick q = some rule := by
        cases hpick : r.pick q with
        | none => simp [route, hpick, result] at ha
        | some rule => exact ⟨rule, rfl⟩
      obtain ⟨rule₁, h₁⟩ := hsome haction
      obtain ⟨rule₂, h₂⟩ := hsome (hroute ▸ haction)
      refine .inr ⟨rule₁, rule₂, h₁, h₂, ?_, ?_⟩
      · rw [← result_eq_iff (r := r), ← h₁, ← h₂]
        exact hroute
      · simp only [route, h₁, result] at haction
        split at haction
        · simp at haction
        · exact haction
  · rintro (hname | ⟨rule₁, rule₂, h₁, h₂, hsame, haction⟩)
    · obtain rfl : q₁ = q₂ := by
        obtain ⟨n₁, t₁, c₁⟩ := q₁
        obtain ⟨n₂, t₂, c₂⟩ := q₂
        simp
        exact ⟨hname, h.qtype, h.clientIP⟩
      exact ⟨rfl, fun _ => rfl⟩
    · refine ⟨?_, fun hrouted => ?_⟩
      · rw [route, route, h₁, h₂]
        exact result_eq_iff.mpr hsame
      · rcases haction with ha | ha <;>
          simp [route, h₁, result, RouteResult.isRouted, ha] at hrouted

/-- A name in two spellings. -/
def lowerQuery : DnsQuery := ⟨"example.com.", 1, []⟩
@[inherit_doc lowerQuery] def upperQuery : DnsQuery := ⟨"EXAMPLE.com.", 1, []⟩

/-- A router that refuses everything does so in either spelling. -/
theorem route_case_reject :
    let r : Router := { rules := [{ action := "reject" }], matchers := [[]] }
    SameUpToCase lowerQuery upperQuery ∧ r.route lowerQuery = r.route upperQuery ∧
      ((r.route lowerQuery).isRouted = true →
        buildCacheKey lowerQuery {} = buildCacheKey upperQuery {}) := by
  have hcase : SameUpToCase lowerQuery upperQuery := ⟨by decide, rfl, rfl⟩
  exact ⟨hcase, (route_case_iff _ {} hcase).mpr
    (.inr ⟨{ action := "reject" }, { action := "reject" }, rfl, rfl, ⟨rfl, rfl, rfl, rfl⟩,
      .inl rfl⟩)⟩

/-- A rule for a name misses the name in capitals, which is sent to another upstream and is not found
in the cache either. -/
theorem route_misses_capitals :
    let rule : DnsRule := { id := "rule-0", domain := ["example.com"], upstream := "upstream-0" }
    let r : Router :=
      { rules := [rule], matchers := [[.single (.domain (.exact "example.com"))]]
        defaultUpstream := "upstream-1" }
    SameUpToCase lowerQuery upperQuery ∧
      buildMatchers .blank none rule = .ok [.single (.domain (.exact "example.com"))] ∧
      (r.route lowerQuery).upstreamID = "upstream-0" ∧
      (r.route upperQuery).upstreamID = "upstream-1" ∧
      buildCacheKey lowerQuery {} ≠ buildCacheKey upperQuery {} :=
  ⟨⟨by decide, rfl, rfl⟩, rfl, by decide, by decide, by decide⟩

/-! ### Answers from the cache -/

/-- The response to a query made of the message of an upstream. -/
def respond (u : UpstreamInstance) (q : DnsQuery) (msg : Msg) : DnsResponse where
  query := q
  rawMsg := some msg
  rcode := msg.rcode
  answer := msg.answer
  authority := msg.ns
  additional := msg.extra
  ttl := shortestTTL msg.answer
  upstream := u.addr
  proxyTag := u.proxyTag

/-- A query that is routed to an upstream, with the time and with what the upstream answers if it is
asked. -/
structure Ask where
  now : ℤ
  upstream : UpstreamInstance
  query : DnsQuery
  /-- `none` for an error and for an empty answer. -/
  fetched : Option Msg

/-- The key of a query. -/
def Ask.key (a : Ask) : CacheKey := buildCacheKey a.query a.upstream

/-- Store what the upstream answers, as `handleRoute` and `prefetchAsync` do. -/
def DnsCache.store (c : DnsCache) (a : Ask) : DnsCache :=
  match a.fetched with
  | none => c
  | some msg =>
    let resp := respond a.upstream a.query msg
    c.set a.now a.key resp resp.ttl

/-- `handleRoute` with the cache: the response, if there is one that is not made up. -/
def DnsCache.handleRoute (c : DnsCache) (a : Ask) : Option DnsResponse × DnsCache :=
  match c.get a.now a.key with
  | (some cached, c) => (some cached, c)
  | (none, c) => (a.fetched.map (respond a.upstream a.query), c.store a)

/-- What happens to the cache. -/
inductive CacheStep
  | handleRoute (a : Ask)
  | prefetchAsync (a : Ask)

/-- The cache while the module runs. -/
def cacheSystem (config : CacheConfig) : Transition.System DnsCache CacheStep where
  init c := c = newDnsCache config
  next c
    | .handleRoute a => some (c.handleRoute a).2
    | .prefetchAsync a => some (c.store a)

/-- Every entry of a cache answers a query with the key that it is stored under. -/
def Keyed (c : DnsCache) : Prop :=
  ∀ e ∈ c.entries, ∃ u, buildCacheKey e.response.query u = e.key

variable {c : DnsCache}

lemma Keyed.store (h : Keyed c) (a : Ask) : Keyed (c.store a) := by
  unfold DnsCache.store
  split
  · exact h
  · intro e he
    rcases mem_set he with ⟨hkey, hresp⟩ | he
    · exact ⟨a.upstream, by rw [hkey, hresp]; rfl⟩
    · exact h e he

lemma Keyed.get (h : Keyed c) (now : ℤ) (key : CacheKey) :
    Keyed (c.get now key).2 := by
  intro e he
  obtain ⟨e', he', hkey, hresp⟩ := exists_of_mem_get he
  obtain ⟨u, hu⟩ := h e' he'
  exact ⟨u, by rw [← hresp, hu, hkey]⟩

lemma Keyed.handleRoute (h : Keyed c) (a : Ask) : Keyed (c.handleRoute a).2 := by
  have hget := h.get a.now a.key
  unfold DnsCache.handleRoute
  split
  next cached c' heq => exact (heq ▸ hget : Keyed (some cached, c').2)
  next c' heq => exact Keyed.store (heq ▸ hget : Keyed (none, c').2) a

lemma keyed_of_reachable {config : CacheConfig} (h : (cacheSystem config).Reachable c) :
    Keyed c := by
  refine h.invariant ?_ ?_
  · rintro c rfl e he
    simp [newDnsCache] at he
  · rintro c (a | a) c' hc - hstep
    · cases hstep
      exact hc.handleRoute a
    · cases hstep
      exact hc.store a

lemma eq_of_buildCacheKey_eq {u₁ u₂ : UpstreamInstance}
    (h : buildCacheKey q₁ u₁ = buildCacheKey q₂ u₂) :
    q₁.name = q₂.name ∧ q₁.qtype = q₂.qtype := by
  simp only [buildCacheKey, CacheKey.mk.injEq] at h
  exact h.2.2

/-- Two queries with the same key ask the same exactly if their clients are in the same subnet, and
so an answer from the cache is one that the query would have asked for exactly if its client is in
the subnet of the one that it was fetched for. -/
theorem key_determines_message_iff (mgr : UpstreamManager) (token : List UInt8) :
    (∀ id₁ id₂ q₁ q₂ u₁ u₂, buildCacheKey q₁ u₁ = buildCacheKey q₂ u₂ →
      (SameRequest (mgr.exchange id₁ token u₁ q₁).2 (mgr.exchange id₂ token u₂ q₂).2 ↔
        clientSubnet q₁.clientIP = clientSubnet q₂.clientIP)) ∧
    ∀ config c now q u resp, (cacheSystem config).Reachable c →
      (c.get now (buildCacheKey q u)).1 = some resp → ∀ id id' u',
        (SameRequest (mgr.exchange id token u q).2 (mgr.exchange id' token u' resp.query).2 ↔
          clientSubnet q.clientIP = clientSubnet resp.query.clientIP) := by
  constructor
  · intro id₁ id₂ q₁ q₂ u₁ u₂ hkey
    obtain ⟨hname, htype⟩ := eq_of_buildCacheKey_eq hkey
    simpa only [UpstreamManager.message_exchange] using sameRequest_buildMessage_iff hname htype
  · intro config c now q u resp hc hget id id' u'
    obtain ⟨e, he, hkey, hresp, -⟩ := exists_of_get hget
    obtain ⟨v, hv⟩ := keyed_of_reachable hc e he
    obtain ⟨hname, htype⟩ := eq_of_buildCacheKey_eq (hresp ▸ hv.trans hkey)
    simpa only [UpstreamManager.message_exchange] using
      sameRequest_buildMessage_iff hname.symm htype.symm

/-- A client with a public address asks a public server for a name. -/
def askFrom (clientIP : Go.IP) : Ask where
  now := 0
  upstream := { addr := "8.8.8.8:53", proxyTag := "direct" }
  query := ⟨"example.com.", 1, clientIP⟩
  fetched := some
    { response := true, question := [⟨"example.com.", 1, classINET⟩]
      answer := [.record "example.com." 1 classINET 300 [93, 184, 216, 34]] }

/-- Two clients in one subnet ask the same. -/
theorem key_determines_message_same_subnet :
    let a := askFrom [198, 51, 100, 4]
    let b := askFrom [198, 51, 100, 200]
    a.key = b.key ∧
      SameRequest (UpstreamManager.exchange {} 1 [7] a.upstream a.query).2
        (UpstreamManager.exchange {} 2 [7] b.upstream b.query).2 :=
  ⟨rfl, ((key_determines_message_iff {} [7]).1 1 2 _ _ _ _ rfl).mpr (by decide)⟩

/-- A client is given an answer that was fetched for the subnet of another one, and that it would
not have asked for itself. -/
theorem cached_for_another_subnet :
    let a := askFrom [198, 51, 100, 4]
    let b := askFrom [203, 0, 113, 9]
    let c := ((newDnsCache {}).handleRoute a).2
    (cacheSystem {}).Reachable c ∧ a.key = b.key ∧
      ((c.handleRoute b).1.map fun resp => resp.query.clientIP) = some [198, 51, 100, 4] ∧
      ¬SameRequest (buildMessage 1 [7] a.query) (buildMessage 2 [7] b.query) := by
  refine ⟨.step (a := .handleRoute (askFrom [198, 51, 100, 4])) (.init rfl) trivial rfl, rfl, ?_, ?_⟩
  · decide
  · exact fun h => absurd h.2 (by decide)

end V2rayA.Dns
