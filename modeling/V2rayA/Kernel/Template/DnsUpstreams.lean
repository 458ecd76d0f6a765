import V2rayA.Core.Dns.Bootstrap
import V2rayA.Kernel.Template.Dns

/-!
# What the upstreams of DNS rules stand for

The text of an upstream is a host with an optional port, after an optional scheme. It is checked by
`checkDnsUpstream`, which takes a scheme in whichever letters, and read by `parseDnsUpstream`, which
does not, and which takes `udp://` for a part of the host.

* `target_of_wellSpelled`, `not_isServer_of_not_wellSpelled`: which texts are read as meant.
* `upstreams_meant_iff`: when the upstreams that the generated rules refer to are those that were
  written.
-/

namespace V2rayA

open List Go DnsRule

/-! ### The texts of upstreams -/

/-- A scheme of an upstream. -/
inductive Scheme
  | udp
  | tcp
  | tls
  | https
  deriving DecidableEq, Repr

namespace Scheme

/-- The word for a scheme. -/
def text : Scheme → String
  | udp => "udp"
  | tcp => "tcp"
  | tls => "tls"
  | https => "https"

/-- The protocol that a scheme stands for. -/
def protocol : Scheme → String
  | udp => "udp"
  | tcp => "tcp"
  | tls => "tcp-tls"
  | https => "https"

/-- The port that a server listens on if none is given. -/
def port : Scheme → String
  | udp => "53"
  | tcp => "53"
  | tls => "853"
  | https => "443"

lemma protocol_injective {s t : Scheme} (h : s.protocol = t.protocol) : s = t := by
  revert h
  cases s <;> cases t <;> decide

lemma isPort_port (s : Scheme) : IsPort s.port := by
  cases s <;> decide

lemma notMem_text (s : Scheme) : ':' ∉ s.text.toList := by
  cases s <;> decide

end Scheme

/-- A host with an optional port, after an optional scheme in whichever letters. A URL may have a
path. -/
structure Spelling where
  /-- The scheme as it is written. -/
  word : Option String
  scheme : Scheme
  /-- The host and the port as they are written. -/
  addr : String
  path : String := ""
  endpoint : Dns.Endpoint
  scheme_eq : (word.map Go.toLower).getD "udp" = scheme.text
  /-- `localhost` alone is the resolver of the system. -/
  denotes : if word = none ∧ addr = "localhost" then endpoint = ⟨"127.0.0.1", none⟩
    else Dns.Denotes addr endpoint
  noSlash : '/' ∉ addr.toList
  path_eq : path = "" ∨ scheme = .https ∧ Go.hasPrefix path "/"

namespace Spelling

/-- The text. -/
def text (s : Spelling) : String :=
  match s.word with
  | none => s.addr
  | some word => word ++ "://" ++ (s.addr ++ s.path)

/-- The scheme is left out, or is one of those that are read and is written in lower case. -/
def HasKnownWord (s : Spelling) : Prop :=
  s.word = none ∨ s.word = some s.scheme.text ∧ s.scheme ≠ .udp

instance (s : Spelling) : Decidable s.HasKnownWord := inferInstanceAs (Decidable (_ ∨ _))

/-- The scheme is one that is read, and an IPv6 address stands in brackets only before a port or in
a URL. -/
def WellSpelled (s : Spelling) : Prop :=
  s.HasKnownWord ∧ (s.scheme ≠ .https → s.addr ≠ "[" ++ s.endpoint.host ++ "]")

instance (s : Spelling) : Decidable s.WellSpelled := inferInstanceAs (Decidable (_ ∧ _))

/-- The address that is meant: a URL, or the host with the port as they are written, or the host
with the port of the scheme. -/
def address (s : Spelling) : String :=
  if s.scheme = .https then "https://" ++ (s.addr ++ s.path)
  else if s.endpoint.port.isSome then s.addr
  else Go.joinHostPort s.endpoint.host s.scheme.port

/-- An address stands for what is meant. -/
def IsAddress (s : Spelling) (addr : String) : Prop :=
  if s.scheme = .https then addr = "https://" ++ (s.addr ++ s.path)
  else Go.splitHostPort addr = some (s.endpoint.host, s.endpoint.port.getD s.scheme.port)

end Spelling

/-! ### Texts that are read as meant -/

section

variable {s : Spelling}

lemma Spelling.scheme_eq_of_word (h : s.word = none) : s.scheme = .udp ∧ s.path = "" := by
  have hscheme := s.scheme_eq
  rw [h] at hscheme
  have hudp : s.scheme = .udp := by
    revert hscheme
    cases s.scheme <;> decide
  exact ⟨hudp, s.path_eq.resolve_right fun hpath => by simp [hudp] at hpath⟩

/-- Lowering the letters of a word does not remove a colon. -/
lemma notMem_of_toLower {word : String} {scheme : Scheme} (h : toLower word = scheme.text) :
    ':' ∉ word.toList := by
  intro hmem
  have hlower : ':' ∈ (toLower word).toList := by
    rw [toLower, String.toList_ofList]
    exact mem_map.mpr ⟨':', hmem, by decide⟩
  exact scheme.notMem_text (h ▸ hlower)

lemma hasPrefix_scheme_iff {word scheme rest : String} (hword : ':' ∉ word.toList)
    (hscheme : ':' ∉ scheme.toList) :
    hasPrefix (word ++ "://" ++ rest) (scheme ++ "://") ↔ word = scheme := by
  rw [hasPrefix_iff]
  constructor
  · rintro ⟨tail, htail⟩
    have heq : scheme.toList ++ ':' :: ('/' :: '/' :: tail) =
        word.toList ++ ':' :: ('/' :: '/' :: rest.toList) := by
      simpa using htail
    exact (String.toList_injective ((append_sep_inj hscheme hword).mp heq).1).symm
  · rintro rfl
    exact ⟨rest.toList, by simp⟩

/-- The host and the port have no slash either. -/
lemma Spelling.noSlash_endpoint (s : Spelling) :
    '/' ∉ s.endpoint.host.toList ∧ ∀ port, s.endpoint.port = some port → '/' ∉ port.toList := by
  have hdenotes := s.denotes
  have hslash := s.noSlash
  split at hdenotes
  · rw [hdenotes]
    decide
  · generalize s.addr = addr, s.endpoint = endpoint at hdenotes hslash
    cases hdenotes with
    | withPort h =>
      rw [mem_iff_of_splitHostPort h (by decide), not_or] at hslash
      exact ⟨hslash.1, fun port hport => Option.some.inj hport ▸ hslash.2⟩
    | alone h hname => exact ⟨hslash, by simp⟩
    | brackets hname hcolon =>
      exact ⟨fun hmem => hslash (by simp [hmem]), by simp⟩

/-- How a text with a scheme is read. -/
lemma parseDnsUpstream_url {word : String} (rest : String) (hword : ':' ∉ word.toList) :
    parseDnsUpstream (word ++ "://" ++ rest) =
      if word = "https" then ⟨"https", word ++ "://" ++ rest⟩
      else if word = "tcp" then ⟨"tcp", withDefaultPort "53" rest⟩
      else if word = "tls" then ⟨"tcp-tls", withDefaultPort "853" rest⟩
      else if word = "quic" then ⟨"quic", withDefaultPort "53" rest⟩
      else ⟨"udp", withDefaultPort "53" (word ++ "://" ++ rest)⟩ := by
  have hcontains : contains (word ++ "://" ++ rest) "://" = true :=
    contains_iff.mpr ⟨word.toList, rest.toList, by simp⟩
  have halias : unaliased (word ++ "://" ++ rest) = word ++ "://" ++ rest := by
    refine if_neg fun heq => ?_
    rw [heq] at hcontains
    exact absurd hcontains (by decide)
  have hpre {scheme : String} (hscheme : ':' ∉ scheme.toList) :
      hasPrefix (word ++ "://" ++ rest) (scheme ++ "://") = decide (word = scheme) := by
    rw [Bool.eq_iff_iff, hasPrefix_scheme_iff hword hscheme, decide_eq_true_iff]
  unfold parseDnsUpstream
  simp only [halias, show "https://" = "https" ++ "://" from rfl,
    show "tcp://" = "tcp" ++ "://" from rfl, show "tls://" = "tls" ++ "://" from rfl,
    show "quic://" = "quic" ++ "://" from rfl, hpre (show ':' ∉ "https".toList by decide),
    hpre (show ':' ∉ "tcp".toList by decide), hpre (show ':' ∉ "tls".toList by decide),
    hpre (show ':' ∉ "quic".toList by decide)]
  split_ifs <;> simp_all [trimPrefix_append]

/-- How a text without a scheme is read. -/
lemma parseDnsUpstream_plain {text : String} (h : '/' ∉ text.toList) :
    parseDnsUpstream text = ⟨"udp", withDefaultPort "53" (unaliased text)⟩ := by
  have hslash : '/' ∉ (unaliased text).toList := by
    unfold unaliased
    split
    · decide
    · exact h
  have hcontains : contains (unaliased text) "://" = false := by
    rw [Bool.eq_false_iff]
    intro hyes
    exact hslash ((contains_iff.mp hyes).subset (by decide))
  simp [parseDnsUpstream, hcontains]

/-- Outside a URL an address that does not stand in brackets is completed by its port. -/
lemma withDefaultPort_addr (hno : s.addr ≠ "[" ++ s.endpoint.host ++ "]")
    (hhttps : s.scheme ≠ .https) :
    withDefaultPort s.scheme.port (if s.word = none then unaliased s.addr else s.addr) =
        s.address ∧ s.IsAddress s.address := by
  have hdenotes := s.denotes
  unfold Spelling.address Spelling.IsAddress
  simp only [hhttps, if_false]
  split at hdenotes
  next hlocal =>
    have hudp := (s.scheme_eq_of_word hlocal.1).1
    simp only [hlocal.1, hlocal.2, hudp, hdenotes]
    decide
  next hlocal =>
    have hsame : (if s.word = none then unaliased s.addr else s.addr) = s.addr := by
      split
      next hword => exact if_neg fun heq => hlocal ⟨hword, heq⟩
      next => rfl
    rw [hsame]
    unfold withDefaultPort
    generalize s.addr = addr, s.endpoint = endpoint at hdenotes hno
    cases hdenotes with
    | withPort h => simp [h]
    | alone h hname => simp [h, splitHostPort_joinHostPort hname s.scheme.isPort_port]
    | brackets => exact absurd rfl hno

lemma target_of_hasKnownWord (h : s.HasKnownWord) (hhttps : s.scheme ≠ .https) :
    parseDnsUpstream s.text = ⟨s.scheme.protocol,
      withDefaultPort s.scheme.port (if s.word = none then unaliased s.addr else s.addr)⟩ := by
  unfold Spelling.text
  rcases h with hword | ⟨hword, hudp⟩
  · rw [hword]
    rw [parseDnsUpstream_plain s.noSlash, (s.scheme_eq_of_word hword).1]
    rfl
  · have hpath : s.path = "" := s.path_eq.resolve_right fun hp => hhttps hp.1
    rw [hword, hpath]
    rw [parseDnsUpstream_url _ s.scheme.notMem_text]
    generalize s.scheme = scheme at hhttps hudp
    cases scheme <;> simp [Scheme.text, Scheme.protocol, Scheme.port] at hhttps hudp ⊢

/-- A text that is well spelled is read as meant. -/
lemma target_of_wellSpelled (h : s.WellSpelled) :
    parseDnsUpstream s.text = ⟨s.scheme.protocol, s.address⟩ := by
  obtain ⟨hword, hno⟩ := h
  by_cases hhttps : s.scheme = .https
  · have hexact : s.word = some s.scheme.text :=
      (hword.resolve_left fun hnone => by simp [s.scheme_eq_of_word hnone] at hhttps).1
    unfold Spelling.text
    rw [hexact]
    rw [parseDnsUpstream_url _ s.scheme.notMem_text]
    simp [hhttps, Scheme.text, Scheme.protocol, Spelling.address]
  · rw [target_of_hasKnownWord hword hhttps, (withDefaultPort_addr (hno hhttps) hhttps).1]

lemma isAddress_of_wellSpelled (h : s.WellSpelled) : s.IsAddress s.address := by
  by_cases hhttps : s.scheme = .https
  · simp [Spelling.IsAddress, Spelling.address, hhttps]
  · exact (withDefaultPort_addr (h.2 hhttps) hhttps).2

/-! ### Texts that are not -/

/-- An address that can have been meant: a host with a port, or a URL. -/
def IsServer (addr : String) : Prop :=
  (∃ host port, Go.splitHostPort addr = some (host, port) ∧ '/' ∉ host.toList ∧
    '/' ∉ port.toList) ∨ Go.hasPrefix addr "https://" = true

lemma Spelling.isServer_of_isAddress {addr : String} (h : s.IsAddress addr) : IsServer addr := by
  unfold Spelling.IsAddress at h
  split at h
  · rw [h]
    exact .inr (hasPrefix_iff.mpr ⟨(s.addr ++ s.path).toList, by simp⟩)
  · obtain ⟨hhost, hport⟩ := s.noSlash_endpoint
    refine .inl ⟨_, _, h, hhost, ?_⟩
    cases hp : s.endpoint.port with
    | none => cases s.scheme <;> decide
    | some port => exact hport port hp

/-- A slash that is taken for a part of a host stays there. -/
lemma not_isServer_withDefaultPort {text : String} (port : String) (hslash : '/' ∈ text.toList)
    (hcolon : ':' ∈ text.toList) (hurl : hasPrefix text "https://" = false) :
    ¬IsServer (withDefaultPort port text) := by
  have hjoined : '/' ∈ (withDefaultPort port text).toList := by
    unfold withDefaultPort joinHostPort
    split_ifs <;> simp [hslash]
  rintro (⟨host, port', hsplit, hhost, hport⟩ | hpre)
  · rw [mem_iff_of_splitHostPort hsplit (by decide)] at hjoined
    exact hjoined.elim hhost hport
  · unfold withDefaultPort joinHostPort at hpre
    split_ifs at hpre
    · rw [hurl] at hpre
      cases hpre
    · -- the text stands in brackets
      obtain ⟨tail, htail⟩ := hasPrefix_iff.mp hpre
      simpa using congrArg head? htail

/-- An IPv6 address in brackets. -/
lemma unbracketed_of_brackets (h : s.addr = "[" ++ s.endpoint.host ++ "]") :
    Unbracketed s.endpoint.host ∧ ':' ∈ s.endpoint.host.toList ∧ s.addr ≠ "localhost" := by
  have hlocal : s.addr ≠ "localhost" := by
    intro heq
    simpa [heq] using congrArg (head? ∘ String.toList) h
  have hdenotes := s.denotes
  rw [if_neg fun hl => hlocal hl.2] at hdenotes
  generalize haddr : s.addr = addr, hend : s.endpoint = endpoint at h hdenotes
  refine ⟨?_, ?_, haddr ▸ hlocal⟩ <;> cases hdenotes with
  | withPort hsplit =>
    rw [h, splitHostPort_brackets (unbracketed_of_splitHostPort hsplit).1] at hsplit
    cases hsplit
  | alone hsplit hname => exact absurd h (Dns.ne_brackets_of_unbracketed hname _)
  | brackets hname hcolon => assumption

/-- A text that is not well spelled is not read as anything that can have been meant. -/
lemma not_isServer_of_not_wellSpelled (h : ¬s.WellSpelled) :
    ¬IsServer (parseDnsUpstream s.text).addr := by
  unfold Spelling.WellSpelled at h
  by_cases hword : s.HasKnownWord
  · -- the address stands in brackets, and is put in brackets once more
    rw [not_and, Classical.not_imp, not_not] at h
    obtain ⟨hhttps, haddr⟩ := h hword
    obtain ⟨hhost, hcolon, hlocal⟩ := unbracketed_of_brackets haddr
    have hsame : (if s.word = none then unaliased s.addr else s.addr) = s.addr := by
      simp [unaliased, hlocal]
    rw [target_of_hasKnownWord hword hhttps, hsame, haddr]
    simp only [withDefaultPort, splitHostPort_brackets hhost, Option.isSome_none,
      Bool.false_eq_true, if_false]
    rintro (⟨host, port, hsplit, -⟩ | hpre)
    · rw [splitHostPort_joinHostPort_brackets hcolon] at hsplit
      cases hsplit
    · obtain ⟨tail, htail⟩ := hasPrefix_iff.mp hpre
      simpa [joinHostPort, hcolon] using congrArg head? htail
  · -- the scheme is taken for a part of the host
    have hsome : ∃ word, s.word = some word := by
      cases hw : s.word with
      | none => exact absurd (.inl hw) hword
      | some word => exact ⟨word, rfl⟩
    obtain ⟨word, hw⟩ := hsome
    have hscheme := s.scheme_eq
    rw [hw] at hscheme
    have hcolon := notMem_of_toLower hscheme
    have hneither : word ≠ "https" ∧ word ≠ "tcp" ∧ word ≠ "tls" ∧ word ≠ "quic" := by
      refine ⟨?_, ?_, ?_, ?_⟩ <;>
      · rintro rfl
        refine hword (.inr ⟨hw.trans ?_, ?_⟩) <;> revert hscheme <;> cases s.scheme <;> decide
    have htext : s.text = word ++ "://" ++ (s.addr ++ s.path) := by rw [Spelling.text, hw]
    rw [htext, parseDnsUpstream_url _ hcolon]
    simp only [hneither]
    refine not_isServer_withDefaultPort _ (by simp) (by simp) ?_
    rw [Bool.eq_false_iff]
    exact fun hyes => hneither.1 ((hasPrefix_scheme_iff hcolon (by decide)).mp hyes)

end

/-! ### The upstreams that rules refer to -/

/-- A rule with what the text of its upstream means. -/
structure SpelledRule where
  rule : DnsRule
  spelling : Spelling
  text_eq : rule.upstreamText = spelling.text

/-- An upstream is the one that a rule means. -/
structure IsMeant (r : SpelledRule) (u : Dns.UpstreamConfig) : Prop where
  protocol : u.protocol = r.spelling.scheme.protocol
  addr : r.spelling.IsAddress u.addr
  tag : u.proxyTag = r.rule.tag

/-- The upstream with a name is the one that a rule means. -/
def RefersTo (cfg : DnsModuleJson) (r : SpelledRule) (id : String) : Prop :=
  ∃ u, cfg.upstreams.find? (fun u => u.id = id) = some u ∧ IsMeant r u

/-- The rules that match on something. -/
def conditional (rules : List SpelledRule) : List SpelledRule :=
  rules.filter (·.rule.isConditional)

/-- The rule that names the default. -/
def catchAll (rules : List SpelledRule) : Option SpelledRule :=
  (rules.filter (¬·.rule.isConditional)).getLast?

/-- The generated rules, which stand behind the one for the names of servers, and the generated
default refer to the upstreams that were meant. -/
structure UpstreamsMeant (cfg : DnsModuleJson) (stored : List SpelledRule) : Prop where
  rules : List.Forall₂ (fun r generated => RefersTo cfg r generated.upstream) (conditional stored)
    (cfg.rules.rtake (conditional stored).length)
  default : ∀ r, catchAll stored = some r → RefersTo cfg r cfg.defaultUpstream

/-- What keeps the upstream of a rule: its text is well spelled, and so it is in the first rule with
the same address and outbound, which has the same scheme. -/
structure Intact (rules : List SpelledRule) (r : SpelledRule) : Prop where
  wellSpelled : r.spelling.WellSpelled
  scheme : ∀ first, rules.find? (fun r' => r'.spelling.WellSpelled ∧
      r'.spelling.address = r.spelling.address ∧ r'.rule.tag = r.rule.tag) = some first →
    first.spelling.scheme = r.spelling.scheme

variable {rules : List SpelledRule}

lemma SpelledRule.target_eq (r : SpelledRule) :
    r.rule.target = parseDnsUpstream r.spelling.text := by
  rw [target, r.text_eq]

/-- Among rules that share an upstream, one is well spelled if another is. -/
lemma wellSpelled_of_key_eq {r r' : SpelledRule} (h : r.spelling.WellSpelled)
    (hkey : r'.rule.key = r.rule.key) : r'.spelling.WellSpelled := by
  by_contra hno
  refine not_isServer_of_not_wellSpelled hno ?_
  have haddr : (parseDnsUpstream r'.spelling.text).addr = r.spelling.address := by
    rw [← r'.target_eq]
    change r'.rule.key.addr = _
    rw [hkey, key, r.target_eq, target_of_wellSpelled h]
  rw [haddr]
  exact Spelling.isServer_of_isAddress (isAddress_of_wellSpelled h)

/-- Which rules share the upstream of a rule that is well spelled. -/
lemma key_eq_iff {r r' : SpelledRule} (h : r.spelling.WellSpelled) :
    r'.rule.key = r.rule.key ↔ r'.spelling.WellSpelled ∧
      r'.spelling.address = r.spelling.address ∧ r'.rule.tag = r.rule.tag := by
  have hkey {r : SpelledRule} (h : r.spelling.WellSpelled) :
      r.rule.key = ⟨r.spelling.address, r.rule.tag⟩ := by
    rw [key, r.target_eq, target_of_wellSpelled h]
  constructor
  · intro heq
    have h' := wellSpelled_of_key_eq h heq
    rw [hkey h, hkey h', UpstreamKey.mk.injEq] at heq
    exact ⟨h', heq⟩
  · rintro ⟨h', haddr, htag⟩
    rw [hkey h, hkey h', haddr, htag]

/-- The rules that supply an upstream, when all of them pass the check. -/
lemma suppliers_of_check {env : DnsEnv}
    (hcheck : ∀ r ∈ rules, checkDnsUpstream env.lib r.rule.upstreamText = none) :
    suppliers (rules.map (·.rule)) = rules.map (·.rule.migrate) := by
  have hempty : checkDnsUpstream env.lib "" ≠ none := by
    have hcut : cutText "" "://" = none := by decide
    have htrim : trimSpace "" = "" := by decide
    simp [checkDnsUpstream, hcut, htrim]
  unfold suppliers migrateDnsRules
  rw [map_map, filter_eq_self.mpr]
  · rfl
  · intro rule hrule
    obtain ⟨r, hr, rfl⟩ := mem_map.mp hrule
    have hne : r.rule.upstreamText ≠ "" := fun heq => hempty (heq ▸ hcheck r hr)
    simpa using hne

/-- A rule refers to the upstream that it means exactly if it is intact. -/
lemma refersTo_upstreamID_iff {env : DnsEnv} (hosts : List String)
    (hcheck : ∀ r ∈ rules, checkDnsUpstream env.lib r.rule.upstreamText = none)
    {r : SpelledRule} (hr : r ∈ rules) :
    RefersTo (generateDnsModuleConfig env (rules.map (·.rule)) hosts) r
        (r.rule.migrate.upstreamID (rules.map (·.rule.migrate))) ↔ Intact rules r := by
  have hsup := suppliers_of_check hcheck
  have hmem : r.rule.migrate ∈ suppliers (rules.map (·.rule)) := by
    rw [hsup]
    exact mem_map_of_mem hr
  obtain ⟨found, i, hfound, hfind⟩ := find?_upstreamID env _ hosts hmem
  rw [hsup, find?_map] at hfound
  rw [hsup] at hfind
  obtain ⟨first, hfirst, rfl⟩ := Option.map_eq_some_iff.mp hfound
  have hkey : first.rule.key = r.rule.key := by
    simpa using find?_some hfirst
  have hrefers : RefersTo (generateDnsModuleConfig env (rules.map (·.rule)) hosts) r
      (r.rule.migrate.upstreamID (rules.map (·.rule.migrate))) ↔
      IsMeant r (first.rule.migrate.upstreamConfig i) := by
    unfold RefersTo
    rw [hfind]
    simp
  rw [hrefers]
  -- the upstream has the address and the outbound of the rule, and the protocol of the first one
  have haddr : (first.rule.migrate.upstreamConfig i).addr =
      (parseDnsUpstream r.spelling.text).addr := by
    have := congrArg UpstreamKey.addr hkey
    simpa [key, upstreamConfig, ← r.target_eq] using this
  have htag : (first.rule.migrate.upstreamConfig i).proxyTag = r.rule.tag := by
    have := congrArg UpstreamKey.tag hkey
    simpa [key, upstreamConfig] using this
  by_cases hwell : r.spelling.WellSpelled
  · have hwell' := wellSpelled_of_key_eq hwell hkey
    have hprotocol : (first.rule.migrate.upstreamConfig i).protocol =
        first.spelling.scheme.protocol := by
      simp [upstreamConfig, first.target_eq, target_of_wellSpelled hwell']
    have hshared : rules.find? (fun r' => r'.spelling.WellSpelled ∧
        r'.spelling.address = r.spelling.address ∧ r'.rule.tag = r.rule.tag) = some first := by
      rw [← hfirst]
      refine congrArg (rules.find? ·) (funext fun r' => ?_)
      simp [← key_eq_iff hwell]
    constructor
    · refine fun hmeant => ⟨hwell, fun other hother => ?_⟩
      obtain rfl : first = other := Option.some.inj (hshared.symm.trans hother)
      exact Scheme.protocol_injective (hprotocol.symm.trans hmeant.protocol)
    · intro hintact
      refine ⟨hprotocol.trans (congrArg _ (hintact.scheme first hshared)), ?_, htag⟩
      rw [haddr, target_of_wellSpelled hwell]
      exact isAddress_of_wellSpelled hwell
  · refine iff_of_false (fun hmeant => ?_) fun hintact => hwell hintact.wellSpelled
    exact not_isServer_of_not_wellSpelled hwell
      (Spelling.isServer_of_isAddress (haddr ▸ hmeant.addr))

/-- The generated rules and the generated default refer to the upstreams that were meant, exactly if
the rules that are not replaced by a later default are intact. -/
theorem upstreams_meant_iff (env : DnsEnv) (rules : List SpelledRule) (hosts : List String)
    (hcheck : ∀ r ∈ rules, checkDnsUpstream env.lib r.rule.upstreamText = none) :
    UpstreamsMeant (generateDnsModuleConfig env (rules.map (·.rule)) hosts) rules ↔
      (∀ r ∈ conditional rules, Intact rules r) ∧ ∀ r, catchAll rules = some r → Intact rules r := by
  have hgen := generated_generateRules env (rules.map (·.rule))
  rw [suppliers_of_check hcheck] at hgen
  have hrules := hgen.forall₂_rules
  have hdefault := hgen.default
  rw [filter_map, forall₂_map_left_iff] at hrules
  have hcond : rules.filter ((fun rule => rule.isConditional) ∘ fun r => r.rule.migrate) =
      conditional rules := by
    congr 1
    funext r
    simp
  rw [hcond] at hrules
  have htake : (generateDnsModuleConfig env (rules.map (·.rule)) hosts).rules.rtake
      (conditional rules).length = (generateRules env (rules.map (·.rule))).rules := by
    rw [rules_generateDnsModuleConfig, hrules.length_eq]
    simp [rtake]
  have hlast {r : SpelledRule} (hr : catchAll rules = some r) :
      (generateDnsModuleConfig env (rules.map (·.rule)) hosts).defaultUpstream =
        r.rule.migrate.upstreamID (rules.map (·.rule.migrate)) := by
    have hfilter : rules.filter ((fun rule => decide ¬rule.isConditional = true) ∘
        fun r => r.rule.migrate) = rules.filter (¬·.rule.isConditional) := by
      congr 1
      funext r
      simp
    change (generateRules env (rules.map (·.rule))).defaultUpstream = _
    rw [hdefault, filter_map, hfilter, getLast?_map]
    unfold catchAll at hr
    rw [hr]
    rfl
  have hforall : List.Forall₂ (fun r generated => RefersTo
        (generateDnsModuleConfig env (rules.map (·.rule)) hosts) r generated.upstream)
      (conditional rules) (generateRules env (rules.map (·.rule))).rules ↔
      ∀ r ∈ conditional rules, Intact rules r := by
    refine hrules.forall₂_iff_forall_mem fun r hr generated => ?_
    rintro ⟨n, rfl⟩
    exact refersTo_upstreamID_iff hosts hcheck (mem_of_mem_filter hr)
  have hall : (∀ r, catchAll rules = some r → RefersTo
        (generateDnsModuleConfig env (rules.map (·.rule)) hosts) r
        (generateDnsModuleConfig env (rules.map (·.rule)) hosts).defaultUpstream) ↔
      ∀ r, catchAll rules = some r → Intact rules r := by
    refine forall₂_congr fun r hr => ?_
    rw [hlast hr]
    exact refersTo_upstreamID_iff hosts hcheck
      (mem_of_mem_filter (mem_of_getLast? hr))
  rw [← hforall, ← hall]
  exact ⟨fun h => ⟨htake ▸ h.rules, h.default⟩, fun h => ⟨htake.symm ▸ h.1, h.2⟩⟩

/-- A host without a port after a scheme. -/
def Spelling.ofHost (scheme : Scheme) (host : String) (hhost : Go.splitHostPort host = none)
    (hname : Go.Unbracketed host) (hslash : '/' ∉ host.toList) : Spelling where
  word := some scheme.text
  scheme
  addr := host
  endpoint := ⟨host, none⟩
  scheme_eq := by cases scheme <;> decide
  denotes := by
    rw [if_neg (by simp)]
    exact .alone hhost hname
  noSlash := hslash
  path_eq := .inl rfl

/-- `tls://dns.google` for everything. -/
def tlsRule : SpelledRule where
  rule := { upstream := "tls://dns.google", outbound := "proxy" }
  spelling := .ofHost .tls "dns.google" (by decide) (by decide) (by decide)
  text_eq := by decide

/-- A TLS server alone is asked where it was meant to be. -/
theorem upstreams_meant_tls :
    checkDnsUpstream .blank tlsRule.rule.upstreamText = none ∧
      UpstreamsMeant (generateDnsModuleConfig { lib := .blank } [tlsRule.rule] ["example.com"])
        [tlsRule] := by
  have hcheck : checkDnsUpstream .blank tlsRule.rule.upstreamText = none := by decide
  refine ⟨hcheck, (upstreams_meant_iff { lib := .blank } [tlsRule] ["example.com"] ?_).mpr ⟨?_, ?_⟩⟩
  · simpa using hcheck
  · have hnil : conditional [tlsRule] = [] := by decide
    simp [hnil]
  · intro r hr
    obtain rfl : tlsRule = r := by
      have hlast : catchAll [tlsRule] = some tlsRule := rfl
      exact Option.some.inj (hlast.symm.trans hr)
    refine ⟨by decide, fun first hfirst => ?_⟩
    rw [mem_singleton.mp (mem_of_find?_eq_some hfirst)]

/-- `udp://8.8.8.8` for a domain. -/
def udpRule : SpelledRule where
  rule := { upstream := "udp://8.8.8.8", domain := "domain:example.com" }
  spelling := .ofHost .udp "8.8.8.8" (by decide) (by decide) (by decide)
  text_eq := by decide

/-- `8.8.8.8` for another domain. -/
def plainRule : SpelledRule where
  rule := { upstream := "8.8.8.8", domain := "domain:example.org" }
  spelling :=
    { word := none, scheme := .udp, addr := "8.8.8.8", endpoint := ⟨"8.8.8.8", none⟩
      scheme_eq := by decide
      denotes := by
        rw [if_neg (by decide)]
        exact .alone (by decide) (by decide)
      noSlash := by decide
      path_eq := .inl rfl }
  text_eq := by decide

/-- `tcp://8.8.8.8` for everything else. -/
def tcpRule : SpelledRule where
  rule := { upstream := "tcp://8.8.8.8" }
  spelling := .ofHost .tcp "8.8.8.8" (by decide) (by decide) (by decide)
  text_eq := by decide

/-- The scheme `udp` stays a part of the address, and the default, which was to be asked over TCP,
is asked over UDP because an earlier rule is. -/
theorem tcp_upstream_is_asked_over_udp :
    let rules := [udpRule, plainRule, tcpRule]
    let cfg := generateDnsModuleConfig { lib := .blank } (rules.map (·.rule)) []
    (∀ r ∈ rules, checkDnsUpstream .blank r.rule.upstreamText = none) ∧
      cfg.upstreams =
        [{ id := "upstream-0", addr := "udp://8.8.8.8", protocol := "udp", proxyTag := "direct" },
          { id := "upstream-1", addr := "8.8.8.8:53", protocol := "udp", proxyTag := "direct" }] ∧
      cfg.defaultUpstream = "upstream-1" ∧ ¬UpstreamsMeant cfg rules := by
  have hupstreams : (generateDnsModuleConfig { lib := .blank }
      ([udpRule, plainRule, tcpRule].map (·.rule)) []).upstreams =
      [{ id := "upstream-0", addr := "udp://8.8.8.8", protocol := "udp", proxyTag := "direct" },
        { id := "upstream-1", addr := "8.8.8.8:53", protocol := "udp", proxyTag := "direct" }] := by
    decide
  have hdefault : (generateDnsModuleConfig { lib := .blank }
      ([udpRule, plainRule, tcpRule].map (·.rule)) []).defaultUpstream = "upstream-1" := by
    decide
  refine ⟨by decide, hupstreams, hdefault, fun hmeant => ?_⟩
  have hcatch : catchAll [udpRule, plainRule, tcpRule] = some tcpRule := rfl
  obtain ⟨u, hu, hprotocol, -, -⟩ := hmeant.default tcpRule hcatch
  rw [hupstreams, hdefault] at hu
  cases hu
  exact absurd hprotocol (by decide)

end V2rayA
