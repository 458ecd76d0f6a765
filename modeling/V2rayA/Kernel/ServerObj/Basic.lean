import V2rayA.Encoding.Base64
import V2rayA.Encoding.Json
import V2rayA.Kernel.Template.Basic

/-!
# What a node is read from and configured with

A node is read from a share link and writes one again. What it tells the core is a `NodeConfig`: its
outbound with the settings that only its protocol reads.

The functions of libraries that look into a text are the fields of `Libraries`. `Base64` is taken as
it is; `common.Base64StdDecode` and `common.Base64URLDecode` add the padding that a text lacks
(`base64Decode_encode`).
-/

namespace V2rayA

/-! ### The outbound of a node -/

namespace CoreObj

/-- A user of a VMess or VLESS server. -/
structure User where
  id : String
  alterId : ℤ := 0
  encryption : String := ""
  flow : String := ""
  security : String := ""
  deriving DecidableEq, Repr

/-- A VMess or VLESS server. -/
structure Vnext where
  address : String
  port : ℤ
  users : List User
  deriving DecidableEq, Repr

/-- A server of another protocol. -/
structure Server where
  address : String
  method : String := ""
  password : String := ""
  port : ℤ
  users : List OutboundUser := []
  deriving DecidableEq, Repr

/-- The settings of an outbound. -/
inductive Settings
  | vnext (servers : List Vnext)
  | servers (servers : List Server)
  /-- Settings of a protocol of its own. -/
  | inlined (settings : Json)
  deriving DecidableEq

structure TLSSettings where
  serverName : Option String := none
  alpn : List String := []
  pinnedPeerCertSha256 : String := ""
  verifyPeerCertByName : String := ""
  fingerprint : String := ""
  deriving DecidableEq, Repr

structure RealitySettings where
  serverName : String
  fingerprint : String
  «show» : Bool := false
  publicKey : String
  shortId : String
  spiderX : String
  deriving DecidableEq, Repr

structure GrpcSettings where
  serviceName : String
  multiMode : Bool := false
  idleTimeout : ℤ := 0
  healthCheckTimeout : ℤ := 0
  permitWithoutStream : Bool := false
  initialWindowsSize : ℤ := 0
  deriving DecidableEq, Repr

structure WsSettings where
  path : String
  /-- The header `Host`. -/
  host : String
  maxEarlyData : ℤ := 0
  earlyDataHeaderName : String := ""
  deriving DecidableEq, Repr

structure HTTPRequest where
  version : String := "1.1"
  method : String := "GET"
  path : List String
  host : List String
  userAgent : List String
  acceptEncoding : List String := ["gzip, deflate"]
  connection : List String := ["keep-alive"]
  pragma : String := "no-cache"
  deriving DecidableEq, Repr

structure HTTPResponse where
  version : String := "1.1"
  status : String := "200"
  reason : String := "OK"
  contentType : List String := ["application/octet-stream", "video/mpeg"]
  transferEncoding : List String := ["chunked"]
  connection : List String := ["keep-alive"]
  pragma : String := "no-cache"
  deriving DecidableEq, Repr

/-- The disguise of a TCP connection as HTTP. -/
structure TCPSettings where
  connectionReuse : Bool := false
  type : String := "http"
  request : HTTPRequest
  response : HTTPResponse := {}
  deriving DecidableEq, Repr

structure KcpSettings where
  mtu : ℤ := 1350
  tti : ℤ := 50
  uplinkCapacity : ℤ := 12
  downlinkCapacity : ℤ := 100
  congestion : Bool := false
  readBufferSize : ℤ := 2
  writeBufferSize : ℤ := 2
  /-- The type of the header. -/
  type : String
  seed : String
  deriving DecidableEq, Repr

structure HttpSettings where
  path : String
  host : List String := []
  deriving DecidableEq, Repr

structure QuicSettings where
  /-- The type of the header. -/
  type : String
  key : String
  security : String
  deriving DecidableEq, Repr

structure XHTTPRangeConfig where
  «from» : ℤ
  «to» : ℤ
  deriving DecidableEq, Repr

structure XHTTPXmux where
  maxConcurrency : Option XHTTPRangeConfig := none
  maxConnections : Option XHTTPRangeConfig := none
  cMaxReuseTimes : Option XHTTPRangeConfig := none
  hMaxRequestTimes : Option XHTTPRangeConfig := none
  hMaxReusableSecs : Option XHTTPRangeConfig := none
  hKeepAlivePeriod : ℤ := 0
  deriving DecidableEq, Repr

structure XHTTPSettings where
  path : String
  host : String
  mode : String
  headers : List (String × String) := []
  xPaddingBytes : Option XHTTPRangeConfig := none
  noGRPCHeader : Bool
  noSSEHeader : Bool
  scMaxEachPostBytes : Option XHTTPRangeConfig := none
  scMinPostsIntervalMs : Option XHTTPRangeConfig := none
  scMaxBufferedPosts : ℤ := 0
  scStreamUpServerSecs : Option XHTTPRangeConfig := none
  xmux : Option XHTTPXmux := none
  uplinkHTTPMethod : String
  deriving DecidableEq, Repr

structure HysteriaSettings where
  version : ℤ
  auth : String
  deriving DecidableEq, Repr

/-- A disguise of UDP packets. -/
structure UdpMask where
  type : String
  settings : Json
  deriving DecidableEq

/-- How the traffic of a node is carried. -/
structure StreamSettings where
  network : String := ""
  security : String := ""
  tlsSettings : Option TLSSettings := none
  xtlsSettings : Option TLSSettings := none
  xhttpSettings : Option XHTTPSettings := none
  realitySettings : Option RealitySettings := none
  tcpSettings : Option TCPSettings := none
  kcpSettings : Option KcpSettings := none
  wsSettings : Option WsSettings := none
  httpSettings : Option HttpSettings := none
  grpcSettings : Option GrpcSettings := none
  quicSettings : Option QuicSettings := none
  hysteriaSettings : Option HysteriaSettings := none
  /-- The masks of `finalmask`. -/
  finalMask : List UdpMask := []
  deriving DecidableEq

/-- The outbound of a node. -/
structure OutboundObject where
  tag : String
  protocol : String
  settings : Settings
  streamSettings : Option StreamSettings := none
  mux : Option Mux := none
  deriving DecidableEq

end CoreObj

/-- What `Configuration` of a node returns. -/
structure NodeConfig where
  coreOutbound : CoreObj.OutboundObject
  pluginChain : String := ""
  udpSupport : Bool
  pluginManagerServerLink : String := ""
  deriving DecidableEq

/-! ### Decoding -/

/-- A text as the bytes of its characters. -/
def textBytes (s : String) : List UInt8 := s.toByteArray.data.toList

/-- The text that bytes are, if they are one. -/
def textOfBytes (bytes : List UInt8) : Option String := String.fromUTF8? ⟨bytes.toArray⟩

lemma textOfBytes_textBytes (s : String) : textOfBytes (textBytes s) = some s := by
  have hbytes : (⟨(textBytes s).toArray⟩ : ByteArray) = s.toByteArray := by
    simp [textBytes]
  rw [textOfBytes, hbytes, String.fromUTF8?, dif_pos s.isValidUTF8]
  rfl

/-- `base64.RawStdEncoding` or `base64.RawURLEncoding` of a text. -/
def base64Encode (a : Base64.Alphabet) (s : String) : String :=
  String.ofList (Base64.encodeRaw a (textBytes s))

/-- `common.Base64StdDecode` and `common.Base64URLDecode`. -/
def base64Decode (a : Base64.Alphabet) (s : String) : Option String :=
  let text := Base64.skipLineBreaks (Go.trimSpace s).toList
  (Base64.decodePadded a (Base64.pad text)).bind textOfBytes

lemma Base64.isSpace_char (a : Base64.Alphabet) {n : ℕ} (hn : n < 64) :
    Go.isSpace (a.char n) = false := by
  have h : ∀ n < 64, Go.isSpace (a.char n) = false := by cases a <;> decide
  exact h n hn

lemma Go.trimSpace_eq_self {s : String} (h : ∀ c ∈ s.toList, Go.isSpace c = false) :
    Go.trimSpace s = s := by
  have hdrop : ∀ l : List Char, (∀ c ∈ l, Go.isSpace c = false) →
      l.dropWhile Go.isSpace = l := by
    intro l hl
    cases l with
    | nil => rfl
    | cons c l => simp [hl c List.mem_cons_self]
  rw [Go.trimSpace, hdrop _ h, hdrop _ (by simpa using h), List.reverse_reverse,
    String.ofList_toList]

/-- A text that was encoded can be decoded. -/
lemma base64Decode_encode (a : Base64.Alphabet) (s : String) :
    base64Decode a (base64Encode a s) = some s := by
  have htrim : Go.trimSpace (base64Encode a s) = base64Encode a s := by
    apply Go.trimSpace_eq_self
    intro c hc
    rw [base64Encode, String.toList_ofList] at hc
    obtain ⟨n, hn, rfl⟩ := List.mem_map.mp hc
    exact Base64.isSpace_char a (Base64.lt_of_mem_sextetsOf hn)
  rw [base64Decode, htrim, base64Encode, String.toList_ofList, Base64.skipLineBreaks_encodeRaw,
    Base64.decodePadded_pad_encodeRaw, Option.bind_some, textOfBytes_textBytes]

/-! ### Pins of certificates -/

/-- The value of a hexadecimal digit. -/
def hexDigit? (c : Char) : Option ℕ :=
  if c.isDigit then some (c.toNat - 48)
  else if 'a' ≤ c ∧ c ≤ 'f' then some (c.toNat - 87)
  else if 'A' ≤ c ∧ c ≤ 'F' then some (c.toNat - 55)
  else none

/-- `hex.DecodeString`. -/
def hexDecode : List Char → Option (List UInt8)
  | [] => some []
  | [_] => none
  | c :: d :: text =>
    match hexDigit? c, hexDigit? d, hexDecode text with
    | some m, some n, some bytes => some (UInt8.ofNat (16 * m + n) :: bytes)
    | _, _, _ => none

/-- `hex.EncodeToString`. -/
def hexEncode (bytes : List UInt8) : String :=
  String.ofList (bytes.flatMap fun b => [Nat.digitChar (b.toNat / 16), Nat.digitChar (b.toNat % 16)])

/-- The 32 bytes of one pin, in hexadecimal form or in one of the forms of base64. -/
def decodePin (part : String) : Option (List UInt8) :=
  [hexDecode part.toList, Base64.decodePadded .std part.toList, Base64.decodeRaw .std part.toList,
    Base64.decodePadded .url part.toList, Base64.decodeRaw .url part.toList].findSome? fun raw =>
      raw.filter fun bytes => bytes.length = 32

/-- `PinnedPeerCertSha256Hex`: the pins of a link in the form that the core reads. -/
def pinnedPeerCertSha256Hex (pin : String) : Except Go.Error String := do
  let pin := Go.trimSpace pin
  if pin = "" then return ""
  let parts := (Go.split ',' pin).map fun part =>
    let part := Go.trimPrefix (Go.trimPrefix (Go.trimSpace part) "sha256:") "SHA256:"
    Go.trimSpace (Go.removeAll ':' part)
  let out ← (parts.filter (· ≠ "")).mapM fun part =>
    match decodePin part with
    | some raw => .ok (hexEncode raw)
    | none => .error { text := "unrecognized peer certificate pin: " ++ Go.quote pin }
  return String.intercalate "," out

/-! ### Libraries -/

/-- An external program that knows further protocols. -/
structure PluginManager where
  /-- What it prints for a link: the name, the host, the port and the protocol to show. -/
  parse : String → Except Go.Error (String × String × String × String)
  /-- The outbound that it prints for a link and a local port. -/
  configuration : String → ℤ → Except Go.Error CoreObj.OutboundObject

/-- Functions of libraries, and the machine that the program runs on. -/
structure Libraries where
  /-- `url.Parse`. -/
  parseURL : String → Option URL
  /-- The document that a text is in JSON. -/
  parseJSON : String → Option Json
  /-- The map that a text is in JSON, from names of headers to their values. -/
  parseHeaders : String → Option (List (String × String))
  /-- The number that the JSON library reads from a string where it expects a number. -/
  fuzzyInt : String → Option ℤ
  /-- The groups that the expression of an old VMess link matches: identifier, host and port. -/
  vmessGroups : String → Option (String × String × String)
  /-- `common.StringToUUID5`. -/
  stringToUUID5 : String → String
  /-- Why a VMess node cannot be used: the clock of the machine is wrong. -/
  clockError : Option Go.Error
  pluginManager : Option PluginManager

/-- A text that a node wrote from components is read as these components. -/
def Libraries.Reads (lib : Libraries) (p : URL.Parts) : Prop :=
  ∃ u, lib.parseURL p.string = some u ∧ p.IsReadAs u

/-- Libraries that read the texts of the given URLs, on a machine whose clock is right. -/
def Libraries.knowing (urls : List URL.Parts) : Libraries where
  parseURL text := (urls.find? fun p => p.string = text).map URL.Parts.url
  parseJSON _ := none
  parseHeaders _ := none
  fuzzyInt _ := none
  vmessGroups _ := none
  stringToUUID5 id := id
  clockError := none
  pluginManager := none

lemma Libraries.parseURL_knowing {urls : List URL.Parts} {p : URL.Parts} {text : String}
    (h : urls.find? (fun p => p.string = text) = some p) :
    (Libraries.knowing urls).parseURL text = some p.url :=
  congrArg (Option.map URL.Parts.url) h

lemma Libraries.reads_knowing {urls : List URL.Parts} {p : URL.Parts} :
    (Libraries.knowing (p :: urls)).Reads p := by
  refine ⟨p.url, Libraries.parseURL_knowing ?_, p.isReadAs_url⟩
  simp

/-- The first text that is not empty. -/
def firstNonEmpty (values : List String) : String := (values.find? (· ≠ "")).getD ""

lemma firstNonEmpty_pair (v : String) : firstNonEmpty [v, ""] = v := by
  by_cases hv : v = "" <;> simp [firstNonEmpty, hv]

/-- `ErrInvalidParameter`, with what is wrong. -/
def malformed (detail : String) : Go.Error := { text := "malformed server link: " ++ detail }

end V2rayA
