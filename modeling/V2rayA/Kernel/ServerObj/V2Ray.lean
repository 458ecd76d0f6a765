import V2rayA.Kernel.ServerObj.Basic

/-!
# VMess and VLESS nodes

Both protocols share one kind of node. Its outbound is made of the server and the user, the
transport and the security of the connection (`V2Ray.nodeConfig`). Two nodes with the same server
have the same outbound if and only if these agree (`V2Ray.nodeConfig_eq_iff`).
-/

namespace V2rayA

namespace V2Ray

/-- The two protocols. -/
inductive Protocol
  | vmess
  | vless
  deriving DecidableEq, Repr, Inhabited

/-- The name of a protocol. -/
def Protocol.text : Protocol → String
  | vmess => "vmess"
  | vless => "vless"

/-- The numbers among the options of the transport XHTTP. -/
inductive Number
  | scMaxEachPostBytesFrom
  | scMaxEachPostBytesTo
  | scMinPostsIntervalFrom
  | scMinPostsIntervalTo
  | scMaxBufferedPosts
  | scStreamUpServerFrom
  | scStreamUpServerTo
  | xPaddingBytesFrom
  | xPaddingBytesTo
  | xmuxMaxConcurFrom
  | xmuxMaxConcurTo
  | xmuxMaxConnFrom
  | xmuxMaxConnTo
  | xmuxCMaxReuseFrom
  | xmuxCMaxReuseTo
  | xmuxHMaxReqFrom
  | xmuxHMaxReqTo
  | xmuxHMaxReusableFrom
  | xmuxHMaxReusableTo
  | xmuxHKeepAlive
  deriving DecidableEq, Repr

namespace Number

/-- The numbers in the order of the source. -/
def all : List Number :=
  [scMaxEachPostBytesFrom, scMaxEachPostBytesTo, scMinPostsIntervalFrom, scMinPostsIntervalTo,
    scMaxBufferedPosts, scStreamUpServerFrom, scStreamUpServerTo, xPaddingBytesFrom,
    xPaddingBytesTo, xmuxMaxConcurFrom, xmuxMaxConcurTo, xmuxMaxConnFrom, xmuxMaxConnTo,
    xmuxCMaxReuseFrom, xmuxCMaxReuseTo, xmuxHMaxReqFrom, xmuxHMaxReqTo, xmuxHMaxReusableFrom,
    xmuxHMaxReusableTo, xmuxHKeepAlive]

/-- The name of a number in links and documents. -/
def key : Number → String
  | scMaxEachPostBytesFrom => "scMaxEachPostBytesFrom"
  | scMaxEachPostBytesTo => "scMaxEachPostBytesTo"
  | scMinPostsIntervalFrom => "scMinPostsIntervalFrom"
  | scMinPostsIntervalTo => "scMinPostsIntervalTo"
  | scMaxBufferedPosts => "scMaxBufferedPosts"
  | scStreamUpServerFrom => "scStreamUpServerFrom"
  | scStreamUpServerTo => "scStreamUpServerTo"
  | xPaddingBytesFrom => "xPaddingBytesFrom"
  | xPaddingBytesTo => "xPaddingBytesTo"
  | xmuxMaxConcurFrom => "xmuxMaxConcurFrom"
  | xmuxMaxConcurTo => "xmuxMaxConcurTo"
  | xmuxMaxConnFrom => "xmuxMaxConnFrom"
  | xmuxMaxConnTo => "xmuxMaxConnTo"
  | xmuxCMaxReuseFrom => "xmuxCMaxReuseFrom"
  | xmuxCMaxReuseTo => "xmuxCMaxReuseTo"
  | xmuxHMaxReqFrom => "xmuxHMaxReqFrom"
  | xmuxHMaxReqTo => "xmuxHMaxReqTo"
  | xmuxHMaxReusableFrom => "xmuxHMaxReusableFrom"
  | xmuxHMaxReusableTo => "xmuxHMaxReusableTo"
  | xmuxHKeepAlive => "xmuxHKeepAlive"

lemma mem_all (n : Number) : n ∈ all := by cases n <;> decide

end Number

end V2Ray

/-- A VMess or VLESS server. -/
@[ext]
structure V2Ray where
  ps : String := ""
  add : String := ""
  port : String := ""
  id : String := ""
  aid : String := ""
  security : String := ""
  net : String := ""
  type : String := ""
  host : String := ""
  sni : String := ""
  path : String := ""
  tls : String := ""
  fingerprint : String := ""
  publicKey : String := ""
  shortId : String := ""
  spiderX : String := ""
  flow : String := ""
  alpn : String := ""
  pinnedPeerCertSha256 : String := ""
  verifyPeerCertByName : String := ""
  key : String := ""
  quicSecurity : String := ""
  xhttpMode : String := ""
  xhttpHeaders : String := ""
  noGRPCHeader : Bool := false
  noSSEHeader : Bool := false
  uplinkHTTPMethod : String := ""
  /-- The fields of the source that are numbers, by their names. -/
  numbers : V2Ray.Number → ℤ := fun _ => 0
  maxEarlyData : String := ""
  earlyDataHeaderName : String := ""
  multiMode : String := ""
  idleTimeout : String := ""
  healthCheckTimeout : String := ""
  permitWithoutStream : String := ""
  initialWindowsSize : String := ""
  v : String := ""
  protocol : V2Ray.Protocol := .vless
  deriving Inhabited

namespace V2Ray

/-! ### The transport -/

/-- The settings of a transport. -/
inductive Transport
  | grpc (settings : CoreObj.GrpcSettings)
  | ws (settings : CoreObj.WsSettings)
  | kcp (settings : CoreObj.KcpSettings)
  /-- Plain TCP, or TCP in disguise. -/
  | tcp (settings : Option CoreObj.TCPSettings)
  | http (settings : CoreObj.HttpSettings)
  | quic (settings : CoreObj.QuicSettings)
  | xhttp (settings : CoreObj.XHTTPSettings)
  deriving DecidableEq

/-- The network of a node. The core calls the transport `raw` that the program calls `tcp`. -/
def network (v : V2Ray) : String := if Go.toLower v.net = "raw" then "tcp" else v.net

/-- A text as a number, `0` if it is none. -/
def intOf (s : String) : ℤ := (Go.atoi s).getD 0

/-- A text as a truth value, `false` if it is none. -/
def boolOf (s : String) : Bool := (Go.parseBool s).getD false

def grpcSettings (v : V2Ray) : CoreObj.GrpcSettings where
  serviceName := if v.path = "" then "GunService" else v.path
  multiMode := boolOf v.multiMode
  idleTimeout := intOf v.idleTimeout
  healthCheckTimeout := intOf v.healthCheckTimeout
  permitWithoutStream := boolOf v.permitWithoutStream
  initialWindowsSize := intOf v.initialWindowsSize

def wsSettings (v : V2Ray) : CoreObj.WsSettings where
  path := v.path
  host := v.host
  maxEarlyData := max (intOf v.maxEarlyData) 0
  earlyDataHeaderName := if intOf v.maxEarlyData > 0 then v.earlyDataHeaderName else ""

/-- The paths of a request in disguise, each with a slash in front. -/
def requestPaths (path : String) : List String :=
  if path = "" then Go.split ',' path
  else (Go.split ',' path).map fun p => if Go.hasPrefix p "/" then p else "/" ++ p

/-- The browsers that a connection in disguise names. -/
def userAgents : List String :=
  ["Mozilla/5.0 (Windows NT 10.0; WOW64) AppleWebKit/537.36 (KHTML, like Gecko) " ++
      "Chrome/55.0.2883.75 Safari/537.36",
    "Mozilla/5.0 (iPhone; CPU iPhone OS 10_0_2 like Mac OS X) AppleWebKit/601.1 " ++
      "(KHTML, like Gecko) CriOS/53.0.2785.109 Mobile/14A456 Safari/601.1.46"]

def tcpSettings (v : V2Ray) : Option CoreObj.TCPSettings :=
  if Go.toLower v.type = "http" then
    some
      { connectionReuse := true
        request :=
          { path := requestPaths v.path
            host := Go.split ',' v.host
            userAgent := userAgents } }
  else none

/-- A conversion to `int32`. -/
def int32 (n : ℤ) : ℤ := n.bmod (2 ^ 32)

/-- The range between two numbers, if one of them is set. -/
def range (v : V2Ray) (lower upper : Number) : Option CoreObj.XHTTPRangeConfig :=
  if v.numbers lower ≠ 0 ∨ v.numbers upper ≠ 0 then
    some ⟨int32 (v.numbers lower), int32 (v.numbers upper)⟩
  else none

/-- The multiplexing of XHTTP, if it is set. -/
def xmux (v : V2Ray) : Option CoreObj.XHTTPXmux :=
  let xmux : CoreObj.XHTTPXmux :=
    { maxConcurrency := v.range .xmuxMaxConcurFrom .xmuxMaxConcurTo
      maxConnections := v.range .xmuxMaxConnFrom .xmuxMaxConnTo
      cMaxReuseTimes := v.range .xmuxCMaxReuseFrom .xmuxCMaxReuseTo
      hMaxRequestTimes := v.range .xmuxHMaxReqFrom .xmuxHMaxReqTo
      hMaxReusableSecs := v.range .xmuxHMaxReusableFrom .xmuxHMaxReusableTo
      hKeepAlivePeriod := v.numbers .xmuxHKeepAlive }
  if xmux = {} then none else some xmux

def xhttpSettings (lib : Libraries) (v : V2Ray) : CoreObj.XHTTPSettings where
  path := v.path
  host := v.host
  mode := v.xhttpMode
  headers := if v.xhttpHeaders = "" then [] else (lib.parseHeaders v.xhttpHeaders).getD []
  xPaddingBytes := v.range .xPaddingBytesFrom .xPaddingBytesTo
  noGRPCHeader := v.noGRPCHeader
  noSSEHeader := v.noSSEHeader
  scMaxEachPostBytes := v.range .scMaxEachPostBytesFrom .scMaxEachPostBytesTo
  scMinPostsIntervalMs := v.range .scMinPostsIntervalFrom .scMinPostsIntervalTo
  scMaxBufferedPosts := v.numbers .scMaxBufferedPosts
  scStreamUpServerSecs := v.range .scStreamUpServerFrom .scStreamUpServerTo
  xmux := v.xmux
  uplinkHTTPMethod := v.uplinkHTTPMethod

/-- The transport of a node, if the program knows it. -/
def transport (lib : Libraries) (v : V2Ray) : Option Transport :=
  match Go.toLower v.network with
  | "grpc" => some (.grpc v.grpcSettings)
  | "ws" => some (.ws v.wsSettings)
  | "mkcp" | "kcp" => some (.kcp { type := v.type, seed := v.path })
  | "tcp" => some (.tcp v.tcpSettings)
  | "h2" | "http" =>
    some (.http { path := v.path, host := if v.host = "" then [] else Go.split ',' v.host })
  | "quic" => some (.quic { type := v.type, key := v.key, security := v.quicSecurity })
  | "xhttp" => some (.xhttp (v.xhttpSettings lib))
  | _ => none

/-! ### The security -/

/-- The security of a connection. -/
inductive Security
  | plain
  | tls (settings : CoreObj.TLSSettings)
  | xtls (settings : CoreObj.TLSSettings)
  | reality (settings : CoreObj.RealitySettings)
  deriving DecidableEq

/-- The settings of TLS and of XTLS, which knows no fingerprints. -/
def tlsSettings (v : V2Ray) (fingerprint : String) : Except Go.Error CoreObj.TLSSettings := do
  let pins ← pinnedPeerCertSha256Hex v.pinnedPeerCertSha256
  return {
    serverName :=
      if v.sni ≠ "" then some v.sni else if v.host ≠ "" then some v.host else none
    alpn := if v.alpn = "" then [] else (Go.split ',' v.alpn).map Go.trimSpace
    pinnedPeerCertSha256 := pins
    verifyPeerCertByName := v.verifyPeerCertByName
    fingerprint }

/-- The security of a node. -/
def connectionSecurity (v : V2Ray) : Except Go.Error Security :=
  match Go.toLower v.tls with
  | "tls" => .tls <$> v.tlsSettings v.fingerprint
  | "xtls" => .xtls <$> v.tlsSettings ""
  | "reality" =>
    .ok <| .reality
      { serverName := v.sni
        fingerprint := v.fingerprint
        publicKey := v.publicKey
        shortId := v.shortId
        spiderX := v.spiderX }
  | _ => .ok .plain

/-! ### The outbound -/

/-- How the traffic of a node is carried. -/
def streamSettings (network : String) (transport : Transport) (security : Security) :
    CoreObj.StreamSettings :=
  let s : CoreObj.StreamSettings :=
    match transport with
    | .grpc settings => { network, grpcSettings := some settings }
    | .ws settings => { network, wsSettings := some settings }
    | .kcp settings => { network, kcpSettings := some settings }
    | .tcp settings => { network, tcpSettings := settings }
    | .http settings => { network, httpSettings := some settings }
    | .quic settings => { network, quicSettings := some settings }
    | .xhttp settings => { network, xhttpSettings := some settings }
  match security with
  | .plain => s
  | .tls settings => { s with security := "tls", tlsSettings := some settings }
  | .xtls settings => { s with security := "xtls", xtlsSettings := some settings }
  | .reality settings => { s with security := "reality", realitySettings := some settings }

/-- The user of the server. An identifier that cannot be a UUID is turned into one. -/
def user (lib : Libraries) (v : V2Ray) : CoreObj.User :=
  let id :=
    if v.id.utf8ByteSize < 32 ∨ v.id.utf8ByteSize > 36 then lib.stringToUUID5 v.id else v.id
  match v.protocol with
  | .vmess =>
    { id
      alterId := intOf v.aid
      security := if v.security = "" then "auto" else v.security
      flow := v.flow }
  | .vless => { id, encryption := "none", flow := v.flow }

/-- Why a node of a protocol cannot be used at all. -/
def clockError (lib : Libraries) (v : V2Ray) : Option Go.Error :=
  match v.protocol with
  | .vmess => lib.clockError
  | .vless => none

/-- `Configuration`. -/
def nodeConfig (lib : Libraries) (v : V2Ray) (info : PriorInfo) : Except Go.Error NodeConfig := do
  (v.clockError lib).elim (.ok ⟨⟩) .error
  let transport ← .ofOption (v.transport lib)
    { text := "unexpected transport type: " ++ v.network }
  let security ← v.connectionSecurity
  return {
    coreOutbound :=
      { tag := info.tag
        protocol := v.protocol.text
        settings := .vnext [{ address := v.add, port := intOf v.port, users := [v.user lib] }]
        streamSettings := some (streamSettings v.network transport security) }
    udpSupport := true }

/-! ### Comparing outbounds -/

/-- The transport that the settings of a connection describe. -/
def transportOf (s : CoreObj.StreamSettings) : Transport :=
  match s.grpcSettings, s.wsSettings, s.kcpSettings, s.httpSettings, s.quicSettings,
    s.xhttpSettings with
  | some settings, _, _, _, _, _ => .grpc settings
  | _, some settings, _, _, _, _ => .ws settings
  | _, _, some settings, _, _, _ => .kcp settings
  | _, _, _, some settings, _, _ => .http settings
  | _, _, _, _, some settings, _ => .quic settings
  | _, _, _, _, _, some settings => .xhttp settings
  | _, _, _, _, _, _ => .tcp s.tcpSettings

/-- The security that the settings of a connection describe. -/
def securityOf (s : CoreObj.StreamSettings) : Security :=
  match s.tlsSettings, s.xtlsSettings, s.realitySettings with
  | some settings, _, _ => .tls settings
  | _, some settings, _ => .xtls settings
  | _, _, some settings => .reality settings
  | _, _, _ => .plain

section Parts

variable {network : String} {t : Transport} {s : Security}

lemma network_streamSettings : (streamSettings network t s).network = network := by
  cases t <;> cases s <;> rfl

lemma transportOf_streamSettings : transportOf (streamSettings network t s) = t := by
  cases t <;> cases s <;> rfl

lemma securityOf_streamSettings : securityOf (streamSettings network t s) = s := by
  cases t <;> cases s <;> rfl

end Parts

/-- Settings of connections agree if their parts do. -/
lemma streamSettings_inj {network network' : String} {t t' : Transport} {s s' : Security} :
    streamSettings network t s = streamSettings network' t' s' ↔
      network = network' ∧ t = t' ∧ s = s' := by
  constructor
  · intro h
    refine ⟨?_, ?_, ?_⟩
    · rw [← @network_streamSettings network t s, h, network_streamSettings]
    · rw [← @transportOf_streamSettings network t s, h, transportOf_streamSettings]
    · rw [← @securityOf_streamSettings network t s, h, securityOf_streamSettings]
  · rintro ⟨rfl, rfl, rfl⟩
    rfl

/-- The parts of an outbound that come from the fields of a node in more than one way, if the node
has an outbound. -/
def essence (lib : Libraries) (v : V2Ray) : Option (Transport × Security × CoreObj.User) :=
  (v.transport lib).bind fun t => v.connectionSecurity.toOption.map fun s => (t, s, v.user lib)

variable {lib : Libraries}

lemma essence_eq_iff {v w : V2Ray} (hv : v.essence lib ≠ none) :
    w.essence lib = v.essence lib ↔
      w.transport lib = v.transport lib ∧
      w.connectionSecurity.toOption = v.connectionSecurity.toOption ∧ w.user lib = v.user lib := by
  unfold essence at *
  cases ht : v.transport lib with
  | none => simp [ht] at hv
  | some t =>
    cases hs : v.connectionSecurity.toOption with
    | none => simp [hs] at hv
    | some s => cases w.transport lib <;> cases w.connectionSecurity.toOption <;> simp

/-- The outbound with these parts. -/
def outbound (v : V2Ray) (info : PriorInfo) (e : Transport × Security × CoreObj.User) :
    NodeConfig where
  coreOutbound :=
    { tag := info.tag
      protocol := v.protocol.text
      settings := .vnext [{ address := v.add, port := intOf v.port, users := [e.2.2] }]
      streamSettings := some (streamSettings v.network e.1 e.2.1) }
  udpSupport := true

lemma toOption_nodeConfig {v : V2Ray} (hclock : v.clockError lib = none) (info : PriorInfo) :
    (v.nodeConfig lib info).toOption = (v.essence lib).map (v.outbound info) := by
  unfold nodeConfig essence
  rw [hclock]
  cases v.transport lib with
  | none => rfl
  | some t =>
    cases v.connectionSecurity with
    | error e => rfl
    | ok s => rfl

lemma outbound_injective (v : V2Ray) (info : PriorInfo) :
    Function.Injective (v.outbound info) := by
  rintro ⟨t, s, u⟩ ⟨t', s', u'⟩ h
  have hstream := congrArg (fun c => c.coreOutbound.streamSettings) h
  have hsettings := congrArg (fun c => c.coreOutbound.settings) h
  obtain ⟨-, rfl, rfl⟩ := streamSettings_inj.mp (Option.some.inj hstream)
  have huser : u = u' := by simpa [outbound] using hsettings
  rw [huser]

/-- When two nodes of one protocol with the same server have the same outbound, or both none. -/
lemma nodeConfig_eq_iff {v w : V2Ray} (hclock : v.clockError lib = none)
    (hprotocol : w.protocol = v.protocol) (hnet : w.network = v.network) (hadd : w.add = v.add)
    (hport : w.port = v.port) :
    (∀ info, (w.nodeConfig lib info).toOption = (v.nodeConfig lib info).toOption) ↔
      w.essence lib = v.essence lib := by
  have hclock' : w.clockError lib = none := by
    rw [clockError, hprotocol]
    exact hclock
  have hsame : w.outbound = v.outbound := by
    funext info e
    unfold outbound
    rw [hprotocol, hnet, hadd, hport]
  simp only [toOption_nodeConfig hclock, toOption_nodeConfig hclock', hsame]
  constructor
  · intro h
    exact Option.map_injective (v.outbound_injective { tag := "" }) (h { tag := "" })
  · intro h info
    rw [h]

end V2Ray

end V2rayA
