import V2rayA.Core.Dns.Config
import V2rayA.Go.Map

/-!
# Upstreams that are known by name

Before the module listens it resolves the names in its bootstrap list, puts the addresses in the
place of the names, and adds the port that an upstream lacks. `Denotes` says what an address stands
for, and `Keeps` that an upstream still stands for it.

* `resolveBootstrapMap`: the names that are resolved are those of the list, and addresses
  resolve to themselves.
* `rewriteUpstream_keeps_iff`: what an upstream has to look like to be kept. A TLS server without a
  port is lost, and so is an IPv6 address in brackets.
-/

namespace V2rayA.Dns

open List Go

variable {lib : Library}

/-! ### Resolving the list -/

/-- `resolveBootstrap`. `lookup` is the first IPv4 address that one of the servers returns for a
name. -/
def resolveBootstrap (lib : Library) (lookup : String → Option String) (domains : List String) :
    Go.Map String String :=
  domains.foldl (fun resolved domain =>
    if domain = "" then resolved
    else if (lib.parseIP domain).isSome then resolved.put domain domain
    else match lookup domain with
      | some ip => resolved.put domain ip
      | none => resolved) []

/-- Some of the names of a list with their addresses. -/
structure BootstrapMap (lib : Library) (names : List String) where
  get? : String → Option String
  mem : ∀ {name ip}, get? name = some ip → name ∈ names
  isIP : ∀ {name ip}, get? name = some ip → (lib.parseIP ip).isSome
  /-- Names have no brackets. -/
  unbracketed : ∀ {name ip}, get? name = some ip → Go.Unbracketed name
  /-- An address is not looked up. -/
  self : ∀ {name ip}, get? name = some ip → (lib.parseIP name).isSome → ip = name

/-- What `resolveBootstrap` adds for one name. -/
lemma resolveBootstrap_invariant {P : String → String → Prop} {lookup : String → Option String}
    {domains : List String} (hself : ∀ d ∈ domains, (lib.parseIP d).isSome → P d d)
    (hlookup : ∀ d ∈ domains, ∀ ip, lib.parseIP d = none → lookup d = some ip → P d ip)
    {name ip : String} (h : (resolveBootstrap lib lookup domains).get? name = some ip) :
    P name ip := by
  have hmem := Map.mem_of_get? h
  clear h
  unfold resolveBootstrap at hmem
  induction domains using reverseRecOn with
  | nil => simp at hmem
  | append_singleton ds d ih =>
    rw [foldl_append, foldl_cons, foldl_nil] at hmem
    have hrest := ih (fun d hd => hself d (mem_append_left _ hd))
      (fun d hd => hlookup d (mem_append_left _ hd))
    split at hmem
    · exact hrest hmem
    · split at hmem
      next hip =>
        rcases Map.mem_put.mp hmem with ⟨rfl, rfl⟩ | ⟨-, hmem⟩
        · exact hself _ (by simp) hip
        · exact hrest hmem
      next hip =>
        split at hmem
        next ip' hlook =>
          rcases Map.mem_put.mp hmem with ⟨rfl, rfl⟩ | ⟨-, hmem⟩
          · exact hlookup _ (by simp) _ (by simpa using hip) hlook
          · exact hrest hmem
        next => exact hrest hmem

/-- The map that `resolveBootstrap` returns, when the servers return addresses and know no name
with brackets. -/
def resolveBootstrapMap (lib : Library) (lookup : String → Option String) (domains : List String)
    (hip : ∀ d ip, lookup d = some ip → (lib.parseIP ip).isSome)
    (hname : ∀ d ip, lookup d = some ip → Go.Unbracketed d) : BootstrapMap lib domains where
  get? := (resolveBootstrap lib lookup domains).get?
  mem h := by
    refine resolveBootstrap_invariant (P := fun name _ => name ∈ domains) ?_ ?_ h
    · exact fun d hd _ => hd
    · exact fun d hd _ _ _ => hd
  isIP h := by
    refine resolveBootstrap_invariant (P := fun _ ip => (lib.parseIP ip).isSome) ?_ ?_ h
    · exact fun _ _ hd => hd
    · exact fun d _ ip _ hlook => hip d ip hlook
  unbracketed h := by
    refine resolveBootstrap_invariant (P := fun name _ => Go.Unbracketed name) ?_ ?_ h
    · exact fun d _ hd => lib.unbracketed d hd
    · exact fun d _ ip _ hlook => hname d ip hlook
  self h := by
    refine resolveBootstrap_invariant
      (P := fun name ip => (lib.parseIP name).isSome → ip = name) ?_ ?_ h
    · exact fun _ _ _ _ => rfl
    · exact fun d _ ip hnone _ hsome => by simp [hnone] at hsome

/-! ### Rewriting the upstreams -/

/-- Whether an upstream is spoken to over TLS. -/
def UpstreamConfig.isTLS (u : UpstreamConfig) : Bool := u.protocol = "tcp-tls" ∨ u.protocol = "tls"

/-- The port of a protocol. -/
def UpstreamConfig.defaultPort (u : UpstreamConfig) : String := if u.isTLS then "853" else "53"

/-- The first loop of `Start`, which runs when there are names to resolve. -/
def bootstrapUpstream (lib : Library) (resolved : String → Option String) (u : UpstreamConfig) :
    UpstreamConfig :=
  if u.bootstrap then u
  else if u.protocol = "https" then
    -- the URL stays, and the dialer uses the address
    { u with serverName := (lib.urlHostname u.addr).getD u.serverName }
  else match Go.splitHostPort u.addr with
    | none =>
      match resolved u.addr with
      | some ip => { u with addr := ip ++ ":53" }
      | none => u
    | some (host, port) =>
      if (lib.parseIP host).isSome then u
      else match resolved host with
        | some ip => { u with serverName := host, addr := Go.joinHostPort ip port }
        | none => { u with serverName := host }

/-- The second loop of `Start`, which adds the port that is missing. -/
def addDefaultPort (u : UpstreamConfig) : UpstreamConfig :=
  if u.protocol = "https" then u
  else if (Go.splitHostPort u.addr).isSome then u
  else { u with addr := Go.joinHostPort u.addr u.defaultPort }

/-- Both loops for one upstream. -/
def rewriteUpstream (lib : Library) (names : List String) (resolved : String → Option String)
    (u : UpstreamConfig) : UpstreamConfig :=
  addDefaultPort (if names = [] then u else bootstrapUpstream lib resolved u)

/-- An upstream keeps its name and its outbound. -/
lemma rewriteUpstream_id (lib : Library) (names : List String)
    (resolved : String → Option String) (u : UpstreamConfig) :
    (rewriteUpstream lib names resolved u).id = u.id ∧
      (rewriteUpstream lib names resolved u).proxyTag = u.proxyTag ∧
      (rewriteUpstream lib names resolved u).bootstrap = u.bootstrap := by
  have hboot : (bootstrapUpstream lib resolved u).id = u.id ∧
      (bootstrapUpstream lib resolved u).proxyTag = u.proxyTag ∧
      (bootstrapUpstream lib resolved u).bootstrap = u.bootstrap := by
    unfold bootstrapUpstream
    repeat' split
    all_goals exact ⟨rfl, rfl, rfl⟩
  have hport (u : UpstreamConfig) : (addDefaultPort u).id = u.id ∧
      (addDefaultPort u).proxyTag = u.proxyTag ∧ (addDefaultPort u).bootstrap = u.bootstrap := by
    unfold addDefaultPort
    split_ifs <;> exact ⟨rfl, rfl, rfl⟩
  unfold rewriteUpstream
  split
  · exact hport u
  · simpa [hport] using hboot

/-- The configuration that the module starts with. -/
def rewriteUpstreams (lib : Library) (resolved : String → Option String)
    (config : DnsModuleConfig) : DnsModuleConfig :=
  { config with
    upstreams := config.upstreams.map (rewriteUpstream lib config.bootstrap resolved) }

/-! ### What an upstream stands for -/

/-- A host, and the port if one is given. -/
structure Endpoint where
  host : String
  port : Option String
  deriving DecidableEq, Repr

/-- What the address of an upstream stands for: a host with a port, a host alone, or an IPv6 address
in brackets. -/
inductive Denotes : String → Endpoint → Prop
  | withPort {addr host port : String} (h : Go.splitHostPort addr = some (host, port)) :
    Denotes addr ⟨host, some port⟩
  | alone {addr : String} (h : Go.splitHostPort addr = none) (hname : Go.Unbracketed addr) :
    Denotes addr ⟨addr, none⟩
  | brackets {host : String} (hname : Go.Unbracketed host) (hcolon : ':' ∈ host.toList) :
    Denotes ("[" ++ host ++ "]") ⟨host, none⟩

/-- `u'` is reached where `u` stands for: at the address of its host, at its port or the one of the
protocol, and under the name of its host. -/
structure Keeps (lib : Library) (resolved : String → Option String) (u u' : UpstreamConfig)
    (e : Endpoint) : Prop where
  addr : Go.splitHostPort u'.addr =
    some ((resolved e.host).getD e.host, e.port.getD u.defaultPort)
  serverName : u.isTLS = true → lib.parseIP e.host = none → u'.serverName = e.host

/-- What keeps an upstream. -/
structure Survives (lib : Library) (names : List String) (resolved : String → Option String)
    (u : UpstreamConfig) (e : Endpoint) : Prop where
  noBrackets : u.addr ≠ "[" ++ e.host ++ "]"
  /-- The address that takes the place of a name without a port gets the port 53. -/
  plain : e.port = none → ∀ ip, resolved e.host = some ip →
    ':' ∉ ip.toList ∧ u.isTLS = false
  /-- Only the first loop remembers the name, and only when there is a port. -/
  named : u.isTLS = true → lib.parseIP e.host = none →
    u.serverName = e.host ∨ (e.port ≠ none ∧ names ≠ [])

section

variable {names : List String} (resolved : BootstrapMap lib names) {u : UpstreamConfig}

lemma isPort_defaultPort (u : UpstreamConfig) : IsPort u.defaultPort := by
  unfold UpstreamConfig.defaultPort
  split <;> decide

lemma defaultPort_ne_iff : u.defaultPort = "53" ↔ u.isTLS = false := by
  unfold UpstreamConfig.defaultPort
  cases u.isTLS <;> decide

lemma ne_brackets_of_unbracketed {addr : String} (h : Unbracketed addr) (host : String) :
    addr ≠ "[" ++ host ++ "]" := by
  rintro rfl
  exact h.1 (by simp)

attribute [local simp] rewriteUpstream bootstrapUpstream addDefaultPort

section

variable (hhttps : u.protocol ≠ "https")
include hhttps

/-- A host with a port keeps its port, and is replaced by its address. -/
lemma keeps_withPort_iff {host port : String}
    (hboot : u.bootstrap = false) (h : splitHostPort u.addr = some (host, port)) :
    Keeps lib resolved.get? u (rewriteUpstream lib names resolved.get? u) ⟨host, some port⟩ ↔
      Survives lib names resolved.get? u ⟨host, some port⟩ := by
  obtain ⟨hhost, hport⟩ := unbracketed_of_splitHostPort h
  have hno : u.addr ≠ "[" ++ host ++ "]" := by
    intro heq
    rw [heq, splitHostPort_brackets hhost] at h
    cases h
  by_cases hnames : names = []
  · -- nothing is resolved, and the second loop has nothing to add
    have hnone : resolved.get? host = none := by
      cases hget : resolved.get? host with
      | none => rfl
      | some ip => exact absurd (resolved.mem hget) (by simp [hnames])
    have heq : rewriteUpstream lib names resolved.get? u = u := by
      simp [hnames, h]
    rw [heq]
    exact ⟨fun hk => ⟨hno, by simp, fun ht hip => .inl (hk.serverName ht hip)⟩,
      fun hs => ⟨by simp [h, hnone],
        fun ht hip => (hs.named ht hip).resolve_right fun hn => hn.2 hnames⟩⟩
  · have hkeeps : Keeps lib resolved.get? u (rewriteUpstream lib names resolved.get? u)
        ⟨host, some port⟩ := by
      by_cases hip : (lib.parseIP host).isSome
      · -- an address is not rewritten
        have hself : (resolved.get? host).getD host = host := by
          cases hget : resolved.get? host with
          | none => rfl
          | some ip => exact resolved.self hget hip
        have heq : rewriteUpstream lib names resolved.get? u = u := by
          simp [hhttps, h, hip]
        rw [heq]
        exact ⟨by simp [h, hself], fun _ hnone => by simp [hnone] at hip⟩
      · cases hget : resolved.get? host with
        | none =>
          have heq : rewriteUpstream lib names resolved.get? u = { u with serverName := host } := by
            simp [hnames, hhttps, hboot, h, hip, hget]
          rw [heq]
          exact ⟨by simp [h, hget], fun _ _ => rfl⟩
        | some ip =>
          have hsplit := splitHostPort_joinHostPort
            (lib.unbracketed ip (resolved.isIP hget)) hport
          have heq : rewriteUpstream lib names resolved.get? u =
              { u with serverName := host, addr := joinHostPort ip port } := by
            simp [hnames, hhttps, hboot, h, hip, hget, hsplit]
          rw [heq]
          exact ⟨by simp [hsplit, hget], fun _ _ => rfl⟩
    exact ⟨fun _ => ⟨hno, by simp, fun _ _ => .inr ⟨by simp, hnames⟩⟩, fun _ => hkeeps⟩

/-- A host without a port gets the port of the protocol unless it is resolved. Its name is not
remembered. -/
lemma keeps_alone_iff (hboot : u.bootstrap = false)
    (h : splitHostPort u.addr = none) (hname : Unbracketed u.addr) :
    Keeps lib resolved.get? u (rewriteUpstream lib names resolved.get? u) ⟨u.addr, none⟩ ↔
      Survives lib names resolved.get? u ⟨u.addr, none⟩ := by
  have hno := ne_brackets_of_unbracketed hname u.addr
  cases hget : resolved.get? u.addr with
  | none =>
    have hsplit := splitHostPort_joinHostPort hname (isPort_defaultPort u)
    have heq : rewriteUpstream lib names resolved.get? u =
        { u with addr := joinHostPort u.addr u.defaultPort } := by
      by_cases hnames : names = [] <;>
        simp [hhttps, h, hget]
    rw [heq]
    exact ⟨fun hk => ⟨hno, by simp [hget], fun ht hip => .inl (hk.serverName ht hip)⟩,
      fun hs => ⟨by simp [hsplit, hget],
        fun ht hip => (hs.named ht hip).resolve_right fun hn => hn.1 rfl⟩⟩
  | some ip =>
    have hnames : names ≠ [] := ne_nil_of_mem (resolved.mem hget)
    have hip := lib.unbracketed ip (resolved.isIP hget)
    by_cases hcolon : ':' ∈ ip.toList
    · -- the port behind an IPv6 address is taken for a part of it
      have hsplit := splitHostPort_append_of_mem hip hcolon "53"
      have hlong : splitHostPort (joinHostPort (ip ++ ":53") u.defaultPort) =
          some (ip ++ ":53", u.defaultPort) :=
        splitHostPort_joinHostPort ⟨by simp [hip.1], by simp [hip.2]⟩ (isPort_defaultPort u)
      have hsplit' : splitHostPort (ip ++ ":53") = none := by
        simpa [String.append_assoc] using hsplit
      have heq : (rewriteUpstream lib names resolved.get? u).addr =
          joinHostPort (ip ++ ":53") u.defaultPort := by
        simp [hnames, hhttps, hboot, h, hget, hsplit', UpstreamConfig.defaultPort,
          UpstreamConfig.isTLS]
      constructor
      · intro hk
        have haddr := hk.addr
        rw [heq, hlong] at haddr
        simp only [hget, Option.some.injEq, Prod.mk.injEq] at haddr
        have hlen := congrArg String.length haddr.1
        simp at hlen
      · exact fun hs => absurd hcolon (hs.plain rfl ip hget).1
    · have hsplit : splitHostPort (ip ++ ":53") = some (ip, "53") := by
        have := splitHostPort_joinHostPort hip (show IsPort "53" by decide)
        simpa [joinHostPort, hcolon, String.append_assoc] using this
      have heq : rewriteUpstream lib names resolved.get? u = { u with addr := ip ++ ":53" } := by
        simp [hnames, hhttps, hboot, h, hget, hsplit]
      rw [heq]
      constructor
      · intro hk
        have haddr := hk.addr
        rw [hsplit] at haddr
        have htls : u.isTLS = false := by
          rw [← defaultPort_ne_iff]
          simpa [hget, eq_comm] using haddr
        refine ⟨hno, fun _ ip' hip' => ?_, fun ht => by simp [htls] at ht⟩
        obtain rfl : ip = ip' := Option.some.inj (hget.symm.trans hip')
        exact ⟨hcolon, htls⟩
      · intro hs
        have htls := (hs.plain rfl ip hget).2
        exact ⟨by simp [hsplit, hget, defaultPort_ne_iff.mpr htls], fun ht => by simp [htls] at ht⟩

/-- An IPv6 address in brackets is put in brackets again. -/
lemma not_keeps_brackets {host : String} (haddr : u.addr = "[" ++ host ++ "]")
    (hname : Unbracketed host) (hcolon : ':' ∈ host.toList) (e : Endpoint) :
    ¬Keeps lib resolved.get? u (rewriteUpstream lib names resolved.get? u) e := by
  have hsplit : splitHostPort u.addr = none := haddr ▸ splitHostPort_brackets hname
  have hget : resolved.get? u.addr = none := by
    cases hget : resolved.get? u.addr with
    | none => rfl
    | some ip =>
      exact absurd haddr (ne_brackets_of_unbracketed (resolved.unbracketed hget) host)
  have heq : (rewriteUpstream lib names resolved.get? u).addr =
      joinHostPort u.addr u.defaultPort := by
    simp [hhttps, hsplit, hget]
  intro hk
  have := hk.addr
  rw [heq, haddr, splitHostPort_joinHostPort_brackets hcolon] at this
  cases this

/-- What an upstream stands for is kept exactly if it `Survives`. -/
lemma rewriteUpstream_keeps_iff (hboot : u.bootstrap = false)
    {e : Endpoint} (he : Denotes u.addr e) :
    Keeps lib resolved.get? u (rewriteUpstream lib names resolved.get? u) e ↔
      Survives lib names resolved.get? u e := by
  generalize haddr : u.addr = addr at he
  cases he with
  | withPort h => exact keeps_withPort_iff resolved hhttps hboot (haddr ▸ h)
  | alone h hname =>
    subst haddr
    exact keeps_alone_iff resolved hhttps hboot h hname
  | brackets hname hcolon =>
    exact iff_of_false (not_keeps_brackets resolved hhttps haddr hname hcolon _)
      fun hs => hs.noBrackets haddr

end

end

/-- The upstreams that are queried by address stand for the same after the start, each of them
exactly if it `Survives`. -/
theorem bootstrap_keeps_upstreams_iff (lib : Library) (config : DnsModuleConfig)
    (resolved : BootstrapMap lib config.bootstrap) :
    (∀ (i : ℕ) (u u' : UpstreamConfig), config.upstreams[i]? = some u →
      (rewriteUpstreams lib resolved.get? config).upstreams[i]? = some u' →
      u.bootstrap = false → u.protocol ≠ "https" →
      ∀ e, Denotes u.addr e → Keeps lib resolved.get? u u' e) ↔
    ∀ u ∈ config.upstreams, u.bootstrap = false → u.protocol ≠ "https" →
      ∀ e, Denotes u.addr e → Survives lib config.bootstrap resolved.get? u e := by
  constructor
  · intro h u hu hboot hhttps e he
    obtain ⟨i, hi⟩ := mem_iff_getElem?.mp hu
    have hi' : (rewriteUpstreams lib resolved.get? config).upstreams[i]? =
        some (rewriteUpstream lib config.bootstrap resolved.get? u) := by
      simp [rewriteUpstreams, hi]
    exact (rewriteUpstream_keeps_iff resolved hhttps hboot he).mp (h i u _ hi hi' hboot hhttps e he)
  · intro h i u u' hi hi' hboot hhttps e he
    obtain rfl : rewriteUpstream lib config.bootstrap resolved.get? u = u' := by
      simpa [rewriteUpstreams, hi] using hi'
    exact (rewriteUpstream_keeps_iff resolved hhttps hboot he).mpr
      (h u (mem_of_getElem? hi) hboot hhttps e he)

/-- `tls://dns.google` as the service writes an upstream without its port. -/
def tlsUpstream : UpstreamConfig :=
  { id := "upstream-0", addr := "dns.google", protocol := "tcp-tls", proxyTag := "direct" }

/-- Once its name is resolved, a TLS server is asked at the port of plain DNS, and nothing remembers
the name that its certificate is checked against. -/
theorem tls_upstream_without_port_is_lost :
    let lib := Library.knowing [("8.8.8.8", [8, 8, 8, 8])] (by decide)
    let resolved := (resolveBootstrap lib (fun _ => some "8.8.8.8") ["dns.google"]).get?
    let config : DnsModuleConfig := { upstreams := [tlsUpstream], bootstrap := ["dns.google"] }
    config.validate = none ∧ Denotes tlsUpstream.addr ⟨"dns.google", none⟩ ∧
      (rewriteUpstreams lib resolved config).upstreams =
        [{ tlsUpstream with addr := "8.8.8.8:53" }] ∧
      ¬Keeps lib resolved tlsUpstream { tlsUpstream with addr := "8.8.8.8:53" }
        ⟨"dns.google", none⟩ := by
  refine ⟨by decide, .alone (by decide) (by decide), by decide, fun h => ?_⟩
  exact absurd h.addr (by decide)

end V2rayA.Dns
