import V2rayA.Core.Dns.Config

/-!
# The servers that resolve the names of upstreams

`collectBootstrapDns` puts the configured servers, the system's and the well-known ones in one
list. Repetitions are recognised by the text of an address, and only the system's servers are
compared with the addresses of the module, which are taken from a fixed list.
-/

namespace V2rayA.Dns

open List

/-- `netip.AddrPort`, without zones. -/
structure AddrPort where
  addr : Go.IP
  port : ℕ
  deriving DecidableEq

def wellKnownPublicDns : List String :=
  ["223.5.5.5:53", "223.6.6.6:53", "[2400:3200::1]:53", "[2400:3200:baba::1]:53",
    "119.29.29.29:53", "8.8.8.8:53", "8.8.4.4:53", "[2001:4860:4860::8888]:53",
    "[2001:4860:4860::8844]:53", "1.1.1.1:53", "1.0.0.1:53", "[2606:4700:4700::1111]:53",
    "[2606:4700:4700::1001]:53"]

/-- The variables `servers` and `seen` of `collectBootstrapDns`. -/
structure Servers where
  servers : List AddrPort := []
  seen : List String := []

def Servers.add (c : Servers) (s : String × AddrPort) : Servers :=
  if s.1 ∈ c.seen then c else ⟨c.servers ++ [s.2], s.1 :: c.seen⟩

/-- The entries of a list, each where it stands first. -/
def firsts {α : Type*} [DecidableEq α] (l : List α) : List α := l.reverse.dedup.reverse

/-- If texts differ exactly where addresses do, each address is taken where it stands first. -/
lemma foldl_add {l : List (String × AddrPort)}
    (h : ∀ x ∈ l, ∀ y ∈ l, x.1 = y.1 ↔ x.2 = y.2) :
    (l.foldl Servers.add {}).servers = firsts (l.map Prod.snd) ∧
      ∀ s, s ∈ (l.foldl Servers.add {}).seen ↔ s ∈ l.map Prod.fst := by
  induction l using reverseRecOn with
  | nil => simp [firsts]
  | append_singleton l x ih =>
    obtain ⟨hservers, hseen⟩ := ih fun y hy z hz => h y (by simp [hy]) z (by simp [hz])
    have hmem : x.1 ∈ (l.foldl Servers.add {}).seen ↔ x.2 ∈ l.map Prod.snd := by
      rw [hseen, mem_map, mem_map]
      exact exists_congr fun y => and_congr_right fun hy => h y (by simp [hy]) x (by simp)
    rw [foldl_append, foldl_cons, foldl_nil, Servers.add]
    split_ifs with hx
    · have hx' := mem_reverse.mpr (hmem.mp hx)
      refine ⟨?_, by grind⟩
      rw [hservers, firsts, firsts, map_append, reverse_append, map_singleton,
        reverse_singleton, singleton_append, dedup_cons_of_mem hx']
    · have hx' := mt mem_reverse.mp (mt hmem.mpr hx)
      refine ⟨?_, by grind⟩
      rw [hservers, firsts, firsts, map_append, reverse_append, map_singleton,
        reverse_singleton, singleton_append, dedup_cons_of_notMem hx', reverse_cons]

section

-- `netip.ParseAddrPort` and `AddrPort.String`.
variable (parse : String → Option AddrPort) (string : AddrPort → String)

def isOwnAddress (ap : AddrPort) : Bool :=
  (ap.addr.isLoopback || ap.addr.isPrivate) &&
    ["127.0.0.1:53", "127.2.0.17:53", "127.0.0.1:5353"].any (parse · = some ap)

/-- A text that was seen is not parsed again in the source; `add` ignores it either way. -/
def addServers (c : Servers) (list : List String) : Servers :=
  list.foldl (fun c s =>
    match parse s with
    | some ap => c.add (s, ap)
    | none => c) c

def collectBootstrapDns (bootstrapDns : List String) (sysDns : List AddrPort) : List AddrPort :=
  let c := addServers parse {} bootstrapDns
  let c := sysDns.foldl (fun c ap =>
    if !isOwnAddress parse ap then c.add (string ap, ap) else c) c
  (addServers parse c wellKnownPublicDns).servers

/-- The servers in the order in which they are looked at, with their texts. -/
def candidates (bootstrapDns : List String) (sysDns : List AddrPort) :
    List (String × AddrPort) :=
  let parsed := filterMap fun s => (parse s).map (s, ·)
  parsed bootstrapDns ++
    (sysDns.filter (!isOwnAddress parse ·)).map (fun ap => (string ap, ap)) ++
    parsed wellKnownPublicDns

/-- The addresses the module listens on. -/
def DnsListenerConfig.addrs (c : DnsListenerConfig) : List AddrPort :=
  (c.listenAddr :: c.extraListenAddrs).filterMap parse

variable {parse string}

lemma addServers_eq (c : Servers) (list : List String) :
    addServers parse c list =
      (list.filterMap fun s => (parse s).map (s, ·)).foldl Servers.add c := by
  rw [foldl_filterMap, addServers]
  congr! 3 with c s
  cases parse s <;> rfl

end

/-- A parser that knows three texts, two of them of one address. -/
def parseSome : String → Option AddrPort :=
  (lookup · [("127.0.0.1:53", ⟨[127, 0, 0, 1], 53⟩), ("127.0.0.1:053", ⟨[127, 0, 0, 1], 53⟩),
    ("8.8.8.8:53", ⟨[8, 8, 8, 8], 53⟩)])

end V2rayA.Dns
