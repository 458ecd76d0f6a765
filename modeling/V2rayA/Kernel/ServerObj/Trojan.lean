import V2rayA.Kernel.ServerObj.Basic

/-!
# Trojan nodes

Links with the schemes `trojan` and `trojan-go`. What a link carries depends on the transport, and
the outbound reads only what belongs to it, with one exception: the application protocols of the TLS
handshake are read from a link and never written to one (`Trojan.nodeConfig_readBack`).
-/

namespace V2rayA

open URL (Userinfo Parts Values)

/-- A Trojan server. -/
structure Trojan where
  name : String := ""
  server : String := ""
  port : ℤ := 0
  password : String := ""
  sni : String := ""
  type : String := ""
  encryption : String := ""
  host : String := ""
  path : String := ""
  serviceName : String := ""
  alpn : String := ""
  pinnedPeerCertSha256 : String := ""
  verifyPeerCertByName : String := ""
  protocol : String := "trojan"
  backend : String := ""
  deriving DecidableEq, Repr, Inhabited

namespace Trojan

/-! ### Links -/

/-- The node of a link whose port is known. -/
def ofURL (t : URL) (port : ℤ) : Trojan where
  name := t.fragment
  server := t.hostname
  port := port
  password := t.username
  sni := firstNonEmpty [t.get "peer", t.get "sni", t.hostname]
  type := t.get "type"
  encryption := if t.scheme = "trojan-go" then t.get "encryption" else ""
  host := t.get "host"
  path := t.get "path"
  serviceName := t.get "serviceName"
  alpn := t.get "alpn"
  pinnedPeerCertSha256 := t.get "pinnedPeerCertSha256"
  verifyPeerCertByName := t.get "verifyPeerCertByName"
  protocol := if t.scheme = "trojan-go" then "trojan-go" else "trojan"
  backend := t.get "v2raya-backend"

/-- `ParseTrojanURL`. -/
def parseTrojanURL (lib : Libraries) (link : String) : Except Go.Error Trojan := do
  let expected := "; expected trojan://password@host:port"
  let t ← .ofOption (lib.parseURL link) (malformed ("trojan link is not a valid URL" ++ expected))
  .require (t.username ≠ "") (malformed ("trojan link is missing a password" ++ expected))
  let port ← .ofOption (Go.atoi t.port) (malformed
    ("trojan link for " ++ Go.quote t.hostname ++ " has a missing or invalid port" ++ expected))
  return ofURL t port

/-- The parameters of a link that belong to the transport. -/
def transportQuery (t : Trojan) (q : Values) : Values :=
  match Go.toLower t.type with
  | "websocket" | "ws" | "http" | "h2" => (q.setValue "path" t.path).setValue "host" t.host
  | "mkcp" | "kcp" => (q.setValue "headerType" t.type).setValue "seed" t.path
  | "tcp" =>
    ((q.setValue "headerType" t.type).setValue "host" t.host).setValue "path" t.path
  | "grpc" => q.setValue "serviceName" t.serviceName
  | _ => q

/-- The parameters of a link that belong to Trojan-Go. -/
def goQuery (t : Trojan) (q : Values) : Values :=
  if t.protocol = "trojan-go" then
    ((((q.setValue "host" t.host).setValue "encryption" t.encryption).setValue
      "type" t.type).setValue "path" t.path).setValue "serviceName" t.serviceName
  else q

/-- The parameters of a link. -/
def query (t : Trojan) : Values :=
  (t.goQuery
    ((((t.transportQuery (Values.setValue [] "type" t.type)).setValue
      "pinnedPeerCertSha256" t.pinnedPeerCertSha256).setValue
      "verifyPeerCertByName" t.verifyPeerCertByName).setValue
      "sni" t.sni)).setValue "v2raya-backend" t.backend

/-- The components of a link. -/
def parts (t : Trojan) : Parts where
  scheme := if t.protocol = "trojan-go" then "trojan-go" else "trojan"
  user := some ⟨t.password, none⟩
  hostname := t.server
  port := toString t.port
  query := t.query
  fragment := t.name

/-- `ExportToURL`. -/
def exportToURL (t : Trojan) : String := t.parts.string

/-! ### The outbound -/

/-- The settings of the transport. -/
def streamSettings (t : Trojan) (tls : CoreObj.TLSSettings) : CoreObj.StreamSettings :=
  match Go.toLower t.type with
  | "grpc" =>
    { security := "tls"
      tlsSettings := some tls
      network := "grpc"
      grpcSettings := some { serviceName := t.serviceName } }
  | "ws" | "websocket" =>
    { security := "tls"
      tlsSettings := some tls
      network := "ws"
      wsSettings := some { path := t.path, host := t.host } }
  | _ => { security := "tls", tlsSettings := some tls }

/-- `Configuration`. -/
def nodeConfig (t : Trojan) (info : PriorInfo) : Except Go.Error NodeConfig := do
  let pins ← pinnedPeerCertSha256Hex t.pinnedPeerCertSha256
  return {
    coreOutbound :=
      { tag := info.tag
        protocol := "trojan"
        settings := .servers [{ address := t.server, port := t.port, password := t.password }]
        streamSettings := some (t.streamSettings
          { serverName := some t.sni
            pinnedPeerCertSha256 := pins
            verifyPeerCertByName := t.verifyPeerCertByName
            alpn := if t.alpn = "" then [] else Go.split ',' t.alpn }) }
    udpSupport := true }

/-! ### Reading a link back -/

section ReadBack

variable {lib : Libraries} {link : String} {t : Trojan}

lemma parseTrojanURL_eq_ok_iff :
    parseTrojanURL lib link = .ok t ↔
      ∃ u, lib.parseURL link = some u ∧ u.username ≠ "" ∧
        ∃ port, Go.atoi u.port = some port ∧ ofURL u port = t := by
  simp [parseTrojanURL, Except.bind_eq_ok_iff, pure, Except.pure]

/-- Whether a link carries the path and the host. -/
def carriesPath (t : Trojan) : Prop :=
  t.protocol = "trojan-go" ∨ Go.toLower t.type ∈ ["websocket", "ws", "http", "h2", "tcp"]

instance (t : Trojan) : Decidable t.carriesPath := inferInstanceAs (Decidable (_ ∨ _))

/-- Whether a link carries the name of the service. -/
def carriesService (t : Trojan) : Prop :=
  t.protocol = "trojan-go" ∨ Go.toLower t.type = "grpc"

instance (t : Trojan) : Decidable t.carriesService := inferInstanceAs (Decidable (_ ∨ _))

/-- What comes back of a node. -/
def readBack (t : Trojan) : Trojan :=
  { t with
    alpn := ""
    path := if t.carriesPath then t.path else ""
    host := if t.carriesPath then t.host else ""
    serviceName := if t.carriesService then t.serviceName else "" }

/-- The transport decides about five parameters. -/
lemma value_transportQuery_of_notMem {q : Values} {k : String}
    (hk : k ∉ ["path", "host", "headerType", "seed", "serviceName"]) :
    (t.transportQuery q).value k = q.value k := by
  simp only [List.mem_cons, not_or] at hk
  obtain ⟨hpath, hhost, htype, hseed, hservice⟩ := hk
  unfold transportQuery
  split <;> simp [hpath, hhost, htype, hseed, hservice]

variable {type : String}

lemma value_transportQuery :
    let q := t.transportQuery (Values.setValue [] "type" type)
    let web := Go.toLower t.type ∈ ["websocket", "ws", "http", "h2", "tcp"]
    q.value "path" = (if web then t.path else "") ∧ q.value "host" = (if web then t.host else "") ∧
      q.value "serviceName" = if Go.toLower t.type = "grpc" then t.serviceName else "" := by
  unfold transportQuery
  split <;> simp_all

lemma value_goQuery_of_notMem {q : Values} {k : String}
    (hk : k ∉ ["host", "encryption", "type", "path", "serviceName"]) :
    (t.goQuery q).value k = q.value k := by
  simp only [List.mem_cons, not_or] at hk
  obtain ⟨hhost, hencryption, htype, hpath, hservice⟩ := hk
  unfold goQuery
  split <;> simp [hpath, hhost, htype, hencryption, hservice]

attribute [local simp] value_transportQuery_of_notMem value_goQuery_of_notMem

/-- What can be read from a link that was written. -/
lemma value_query :
    t.query.value "peer" = "" ∧ t.query.value "sni" = t.sni ∧ t.query.value "alpn" = "" ∧
    t.query.value "type" = t.type ∧
    t.query.value "encryption" = (if t.protocol = "trojan-go" then t.encryption else "") ∧
    t.query.value "host" = (if t.carriesPath then t.host else "") ∧
    t.query.value "path" = (if t.carriesPath then t.path else "") ∧
    t.query.value "serviceName" = (if t.carriesService then t.serviceName else "") ∧
    t.query.value "pinnedPeerCertSha256" = t.pinnedPeerCertSha256 ∧
    t.query.value "verifyPeerCertByName" = t.verifyPeerCertByName ∧
    t.query.value "v2raya-backend" = t.backend := by
  unfold query
  refine ⟨?_, ?_, ?_, ?_, ?_, ?_, ?_, ?_, ?_, ?_, ?_⟩
  · simp
  · simp
  · simp
  · by_cases hgo : t.protocol = "trojan-go" <;>
      simp [goQuery, hgo]
  · by_cases hgo : t.protocol = "trojan-go" <;>
      simp [goQuery, hgo]
  · by_cases hgo : t.protocol = "trojan-go" <;>
      simp +contextual [goQuery, hgo, value_transportQuery, carriesPath]
  · by_cases hgo : t.protocol = "trojan-go" <;>
      simp +contextual [goQuery, hgo, value_transportQuery, carriesPath]
  · by_cases hgo : t.protocol = "trojan-go" <;>
      simp +contextual [goQuery, hgo, value_transportQuery, carriesService]
  · simp
  · simp
  · simp

/-- What a node that was read from a link is like. -/
structure IsRead (t : Trojan) : Prop where
  password : t.password ≠ ""
  port : Go.IsInt t.port
  sni : t.sni = "" → t.server = ""
  protocol : t.protocol = "trojan-go" ∨ t.protocol = "trojan" ∧ t.encryption = ""

lemma isRead_of_parseTrojanURL (h : parseTrojanURL lib link = .ok t) : t.IsRead := by
  obtain ⟨u, -, huser, port, hport, rfl⟩ := parseTrojanURL_eq_ok_iff.mp h
  refine ⟨huser, Go.isInt_of_atoi hport, ?_, ?_⟩
  · intro hsni
    by_contra hhost
    change firstNonEmpty _ = "" at hsni
    change u.hostname ≠ "" at hhost
    unfold firstNonEmpty at hsni
    grind
  · by_cases hgo : u.scheme = "trojan-go"
    · exact .inl (if_pos hgo)
    · exact .inr ⟨if_neg hgo, if_neg hgo⟩

lemma parse_string (ht : t.IsRead) (hreads : lib.Reads t.parts) :
    parseTrojanURL lib t.parts.string = .ok t.readBack := by
  obtain ⟨u, hu, hread⟩ := hreads
  have huser : u.username = t.password := by rw [URL.username, hread.user]; rfl
  refine parseTrojanURL_eq_ok_iff.mpr ⟨u, hu, huser ▸ ht.password, t.port, ?_, ?_⟩
  · rw [hread.port]
    exact Go.atoi_toString ht.port
  · have hget : ∀ k, u.get k = t.query.value k := hread.get
    obtain ⟨hpeer, hsni, halpn, htype, henc, hhost, hpath, hservice, hpins, hverify, hbackend⟩ :=
      @value_query t
    have hscheme : u.scheme = if t.protocol = "trojan-go" then "trojan-go" else "trojan" :=
      hread.scheme
    have hfirst : firstNonEmpty ["", t.sni, t.server] = t.sni := by
      by_cases hempty : t.sni = ""
      · simp [firstNonEmpty, hempty, ht.sni hempty]
      · simp [firstNonEmpty, hempty]
    have hname : u.hostname = t.server := hread.hostname
    have hfragment : u.fragment = t.name := hread.fragment
    simp only [ofURL, readBack, hget, hpeer, hsni, halpn, htype, henc, hhost, hpath, hservice,
      hpins, hverify, hbackend, hname, hfragment, huser, hfirst, hscheme]
    rcases ht.protocol with hgo | ⟨hplain, henc⟩
    · simp [hgo]
    · simp [hplain, henc]

/-- The settings of the transport do not depend on what a link does not carry. -/
lemma streamSettings_readBack (tls : CoreObj.TLSSettings) :
    t.readBack.streamSettings tls = t.streamSettings tls := by
  unfold streamSettings readBack carriesPath carriesService
  split <;> simp_all

/-- The outbound of the node that comes back is that of the node without application protocols. -/
lemma nodeConfig_readBack (info : PriorInfo) :
    t.readBack.nodeConfig info = ({ t with alpn := "" } : Trojan).nodeConfig info := by
  unfold nodeConfig
  simp only [streamSettings_readBack]
  rfl

lemma tlsSettings_streamSettings (tls : CoreObj.TLSSettings) :
    (t.streamSettings tls).tlsSettings = some tls := by
  unfold streamSettings
  split <;> rfl

/-- The application protocols matter, unless the certificate pins cannot be read. -/
lemma nodeConfig_readBack_iff :
    (∀ info, (t.readBack.nodeConfig info).toOption = (t.nodeConfig info).toOption) ↔
      t.alpn = "" ∨ ∃ e, pinnedPeerCertSha256Hex t.pinnedPeerCertSha256 = .error e := by
  simp only [nodeConfig_readBack]
  cases hpins : pinnedPeerCertSha256Hex t.pinnedPeerCertSha256 with
  | error e => simp [nodeConfig, hpins]
  | ok pins =>
    have hiff : (∃ e, Except.ok pins = (Except.error e : Except Go.Error String)) ↔ False := by simp
    rw [hiff, or_false]
    constructor
    · intro h
      -- The protocols are the only part of the two outbounds that can differ.
      have hconfig := h { tag := "" }
      simp only [nodeConfig, hpins] at hconfig
      have hstream := congrArg (fun c => c.coreOutbound.streamSettings) (Option.some.inj hconfig)
      have htls := congrArg CoreObj.StreamSettings.tlsSettings (Option.some.inj hstream)
      simp only [tlsSettings_streamSettings, Option.some.injEq] at htls
      have halpn : [] = if t.alpn = "" then [] else Go.split ',' t.alpn :=
        congrArg CoreObj.TLSSettings.alpn htls
      by_contra hne
      rw [if_neg hne] at halpn
      exact Go.split_ne_nil ',' t.alpn halpn.symm
    · intro halpn info
      have hself : ({ t with alpn := "" } : Trojan) = t := by rw [← halpn]
      rw [hself]

end ReadBack

end Trojan

end V2rayA
