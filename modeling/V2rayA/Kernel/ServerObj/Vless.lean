import V2rayA.Kernel.ServerObj.V2Ray

/-!
# VLESS links

Reading a VLESS link and writing one. Which parameters a link carries depends on the transport and
on the security of the node, and the outbound depends on them in other ways: `Vless.readBack` is
what comes back of a node, and `Vless.essence_readBack_iff` says when its outbound is the same.
-/

namespace V2rayA.Vless

open List

open URL (Userinfo Parts Values)
open V2Ray (Number intOf Transport Security)

/-! ### Parameters -/

/-- The parameters of a link. -/
inductive Param
  | type | security | aid
  -- the transport
  | path | host | headerType | seed | serviceName | maxEarlyData | earlyDataHeaderName | multiMode
  | idleTimeout | healthCheckTimeout | permitWithoutStream | initialWindowsSize | key
  | quicSecurity | xhttpMode | xhttpHeaders | noGRPCHeader | noSSEHeader | uplinkHTTPMethod
  | number (n : Number)
  -- the security of the connection
  | flow | sni | alpn | pinnedPeerCertSha256 | verifyPeerCertByName | fp | pbk | sid | spx
  deriving DecidableEq, Repr

namespace Param

/-- The name of a parameter. -/
def text : Param → String
  | type => "type"
  | security => "security"
  | aid => "aid"
  | path => "path"
  | host => "host"
  | headerType => "headerType"
  | seed => "seed"
  | serviceName => "serviceName"
  | maxEarlyData => "maxEarlyData"
  | earlyDataHeaderName => "earlyDataHeaderName"
  | multiMode => "multiMode"
  | idleTimeout => "idleTimeout"
  | healthCheckTimeout => "healthCheckTimeout"
  | permitWithoutStream => "permitWithoutStream"
  | initialWindowsSize => "initialWindowsSize"
  | key => "key"
  | quicSecurity => "quicSecurity"
  | xhttpMode => "xhttpMode"
  | xhttpHeaders => "xhttpHeaders"
  | noGRPCHeader => "noGRPCHeader"
  | noSSEHeader => "noSSEHeader"
  | uplinkHTTPMethod => "uplinkHTTPMethod"
  | number n => n.key
  | flow => "flow"
  | sni => "sni"
  | alpn => "alpn"
  | pinnedPeerCertSha256 => "pinnedPeerCertSha256"
  | verifyPeerCertByName => "verifyPeerCertByName"
  | fp => "fp"
  | pbk => "pbk"
  | sid => "sid"
  | spx => "spx"

/-- The parameters in the order of their names. -/
def sorted : List Param :=
  [aid, alpn, earlyDataHeaderName, flow, fp, headerType, healthCheckTimeout, host, idleTimeout,
    initialWindowsSize, key, maxEarlyData, multiMode, noGRPCHeader, noSSEHeader, path, pbk,
    permitWithoutStream, pinnedPeerCertSha256, quicSecurity, number .scMaxBufferedPosts,
    number .scMaxEachPostBytesFrom, number .scMaxEachPostBytesTo, number .scMinPostsIntervalFrom,
    number .scMinPostsIntervalTo, number .scStreamUpServerFrom, number .scStreamUpServerTo,
    security, seed, serviceName, sid, sni, spx, type, uplinkHTTPMethod, verifyPeerCertByName,
    number .xPaddingBytesFrom, number .xPaddingBytesTo, xhttpHeaders, xhttpMode,
    number .xmuxCMaxReuseFrom, number .xmuxCMaxReuseTo, number .xmuxHKeepAlive,
    number .xmuxHMaxReqFrom, number .xmuxHMaxReqTo, number .xmuxHMaxReusableFrom,
    number .xmuxHMaxReusableTo, number .xmuxMaxConcurFrom, number .xmuxMaxConcurTo,
    number .xmuxMaxConnFrom, number .xmuxMaxConnTo]

lemma mem_sorted (p : Param) : p ∈ sorted := by
  cases p with
  | number n => cases n <;> decide
  | _ => decide

lemma isChain_sorted : (sorted.map text).IsChain (· < ·) := by decide +kernel

/-- Different parameters have different names. -/
lemma text_injective : Function.Injective text := by
  have hnodup : (sorted.map text).Nodup :=
    (isChain_iff_pairwise.mp isChain_sorted).imp fun h => h.ne
  intro p p' h
  exact inj_on_of_nodup_map hnodup (mem_sorted p) (mem_sorted p') h

end Param

/-! ### Links -/

/-- A text, or another one if it is empty. -/
def orElse (s other : String) : String := if s = "" then other else s

/-- The network that a link names. -/
def netOf (u : URL) : String := orElse (u.get "type") "tcp"

/-- The path that a link names, under a name that depends on the network. -/
def pathOf (u : URL) : String :=
  if netOf u = "mkcp" ∨ netOf u = "kcp" then u.get "seed"
  else if netOf u = "grpc" then u.get "serviceName"
  else u.get "path"

/-- The node of a link whose port is a number. -/
def ofURL (u : URL) (link : String) : V2Ray where
  ps := u.fragment
  add := u.hostname
  port := u.port
  id := u.username
  aid := u.get "aid"
  net := netOf u
  type := orElse (u.get "headerType") "none"
  host := u.get "host"
  sni := u.get "sni"
  path := pathOf u
  tls := orElse (u.get "security") "none"
  fingerprint := u.get "fp"
  publicKey := u.get "pbk"
  shortId := u.get "sid"
  spiderX := u.get "spx"
  flow := u.get "flow"
  alpn := u.get "alpn"
  pinnedPeerCertSha256 := u.get "pinnedPeerCertSha256"
  verifyPeerCertByName := u.get "verifyPeerCertByName"
  key := u.get "key"
  quicSecurity := if netOf u = "quic" then u.get "quicSecurity" else ""
  xhttpMode := if netOf u = "xhttp" then orElse (u.get "xhttpMode") "auto" else ""
  xhttpHeaders := if netOf u = "xhttp" then u.get "xhttpHeaders" else ""
  noGRPCHeader := netOf u = "xhttp" ∧ u.get "noGRPCHeader" = "true"
  noSSEHeader := netOf u = "xhttp" ∧ u.get "noSSEHeader" = "true"
  uplinkHTTPMethod := if netOf u = "xhttp" then u.get "uplinkHTTPMethod" else ""
  numbers := fun n => if netOf u = "xhttp" then intOf (u.get n.key) else 0
  maxEarlyData := u.get "maxEarlyData"
  earlyDataHeaderName := u.get "earlyDataHeaderName"
  multiMode := u.get "multiMode"
  idleTimeout := u.get "idleTimeout"
  healthCheckTimeout := u.get "healthCheckTimeout"
  permitWithoutStream := u.get "permitWithoutStream"
  initialWindowsSize := u.get "initialWindowsSize"
  v := link
  protocol := .vless

/-- `ParseVlessURL`. The text of the error of the URL library is left out. -/
def parseVlessURL (lib : Libraries) (link : String) : Except Go.Error V2Ray := do
  let expected := "; expected vless://uuid@host:port"
  let u ← .ofOption (lib.parseURL link) (malformed ("vless link is not a valid URL" ++ expected))
  let _ ← .ofOption (Go.atoi u.port) (malformed
    ("vless link for " ++ Go.quote u.hostname ++ " has a missing or invalid port" ++ expected))
  return ofURL u link

/-- A number as a parameter, which is not written if it is zero. -/
def intText (n : ℤ) : String := if n = 0 then "" else toString n

/-- A flag as a parameter, which is not written unless it is set. -/
def flagText (b : Bool) : String := if b then "true" else ""

/-- Networks whose links carry the same parameters. -/
inductive Kind
  | web
  | kcp
  | tcp
  | grpc
  | quic
  | xhttp
  | other
  deriving DecidableEq, Repr

/-- The kind of a network. -/
@[irreducible]
def kind (net : String) : Kind :=
  match Go.toLower net with
  | "websocket" | "ws" | "http" | "h2" => .web
  | "mkcp" | "kcp" => .kcp
  | "tcp" | "raw" => .tcp
  | "grpc" => .grpc
  | "quic" => .quic
  | "xhttp" => .xhttp
  | _ => .other

/-- The parameters that belong to the transport. -/
def transportParams (v : V2Ray) : List (Param × String) :=
  match kind v.net with
  | .web =>
    [(.path, v.path), (.host, v.host), (.maxEarlyData, v.maxEarlyData),
      (.earlyDataHeaderName, v.earlyDataHeaderName)]
  | .kcp => [(.headerType, v.type), (.seed, v.path)]
  | .tcp => [(.headerType, v.type), (.host, v.host), (.path, v.path)]
  | .grpc =>
    [(.serviceName, v.path), (.multiMode, v.multiMode), (.idleTimeout, v.idleTimeout),
      (.healthCheckTimeout, v.healthCheckTimeout),
      (.permitWithoutStream, v.permitWithoutStream),
      (.initialWindowsSize, v.initialWindowsSize)]
  | .quic => [(.headerType, v.type), (.key, v.key), (.quicSecurity, v.quicSecurity)]
  | .xhttp =>
    [(.path, v.path), (.host, v.host), (.xhttpMode, v.xhttpMode), (.xhttpHeaders, v.xhttpHeaders),
      (.noGRPCHeader, flagText v.noGRPCHeader), (.noSSEHeader, flagText v.noSSEHeader),
      (.uplinkHTTPMethod, v.uplinkHTTPMethod)] ++
      Number.all.map fun n => (.number n, intText (v.numbers n))
  | .other => []

/-- The parameters that belong to the security of the connection. -/
def securityParams (v : V2Ray) : List (Param × String) :=
  if v.tls ≠ "none" then
    [(.flow, v.flow), (.sni, v.sni), (.alpn, v.alpn),
      (.pinnedPeerCertSha256, v.pinnedPeerCertSha256),
      (.verifyPeerCertByName, v.verifyPeerCertByName), (.fp, v.fingerprint)] ++
      if v.tls = "reality" then [(.pbk, v.publicKey), (.sid, v.shortId), (.spx, v.spiderX)] else []
  else []

/-- The parameters of a link. -/
def params (v : V2Ray) : List (Param × String) :=
  [(.type, v.net), (.security, v.tls)] ++ transportParams v ++ securityParams v

/-- The query of a link. -/
def query (v : V2Ray) : Values :=
  Values.setAll [] ((params v).map fun e => (e.1.text, e.2))

/-- The components of a link. -/
def parts (v : V2Ray) : Parts where
  scheme := "vless"
  user := some ⟨v.id, none⟩
  hostname := v.add
  port := v.port
  query := query v
  fragment := v.ps

lemma parts_query (v : V2Ray) : (parts v).query = query v := rfl

/-! ### What a link carries -/

section Values

open URL.Values (said said_append)

variable {v : V2Ray} {p : Param}

lemma value_query (p : Param) : (query v).value p.text = said (params v) p := by
  rw [query, Values.value_setAll_map Param.text_injective, Values.value_nil, URL.ite_eq_empty]

/-- What the link of a node says about a parameter of the transport. -/
def carried (v : V2Ray) (p : Param) : String :=
  match p with
  | .path => if kind v.net ∈ [.web, .tcp, .xhttp] then v.path else ""
  | .host => if kind v.net ∈ [.web, .tcp, .xhttp] then v.host else ""
  | .headerType => if kind v.net ∈ [.kcp, .tcp, .quic] then v.type else ""
  | .seed => if kind v.net = .kcp then v.path else ""
  | .serviceName => if kind v.net = .grpc then v.path else ""
  | .maxEarlyData => if kind v.net = .web then v.maxEarlyData else ""
  | .earlyDataHeaderName => if kind v.net = .web then v.earlyDataHeaderName else ""
  | .multiMode => if kind v.net = .grpc then v.multiMode else ""
  | .idleTimeout => if kind v.net = .grpc then v.idleTimeout else ""
  | .healthCheckTimeout => if kind v.net = .grpc then v.healthCheckTimeout else ""
  | .permitWithoutStream => if kind v.net = .grpc then v.permitWithoutStream else ""
  | .initialWindowsSize => if kind v.net = .grpc then v.initialWindowsSize else ""
  | .key => if kind v.net = .quic then v.key else ""
  | .quicSecurity => if kind v.net = .quic then v.quicSecurity else ""
  | .xhttpMode => if kind v.net = .xhttp then v.xhttpMode else ""
  | .xhttpHeaders => if kind v.net = .xhttp then v.xhttpHeaders else ""
  | .noGRPCHeader => if kind v.net = .xhttp then flagText v.noGRPCHeader else ""
  | .noSSEHeader => if kind v.net = .xhttp then flagText v.noSSEHeader else ""
  | .uplinkHTTPMethod => if kind v.net = .xhttp then v.uplinkHTTPMethod else ""
  | .number n => if kind v.net = .xhttp then intText (v.numbers n) else ""
  | _ => ""

lemma said_numbers (v : V2Ray) (p : Param) :
    said (Number.all.map fun n => (Param.number n, intText (v.numbers n))) p =
      match p with
      | .number n => intText (v.numbers n)
      | _ => "" := by
  cases p with
  | number n => exact Values.said_map (fun _ _ => Param.number.inj) n.mem_all
  | _ => exact Values.said_eq_empty_of_notMem (by simp)

lemma said_transportParams (p : Param) : said (transportParams v) p = carried v p := by
  unfold transportParams carried
  cases hkind : kind v.net with
  | xhttp => cases p <;> simp [said_numbers]
  | _ => cases p <;> simp

/-- What the link of a node says about a parameter of the security. -/
def secured (v : V2Ray) (p : Param) : String :=
  match p with
  | .flow => if v.tls ≠ "none" then v.flow else ""
  | .sni => if v.tls ≠ "none" then v.sni else ""
  | .alpn => if v.tls ≠ "none" then v.alpn else ""
  | .pinnedPeerCertSha256 => if v.tls ≠ "none" then v.pinnedPeerCertSha256 else ""
  | .verifyPeerCertByName => if v.tls ≠ "none" then v.verifyPeerCertByName else ""
  | .fp => if v.tls ≠ "none" then v.fingerprint else ""
  | .pbk => if v.tls = "reality" then v.publicKey else ""
  | .sid => if v.tls = "reality" then v.shortId else ""
  | .spx => if v.tls = "reality" then v.spiderX else ""
  | _ => ""

lemma said_securityParams (p : Param) : said (securityParams v) p = secured v p := by
  unfold securityParams secured
  by_cases hnone : v.tls = "none"
  · cases p <;> simp [hnone]
  · by_cases hreality : v.tls = "reality"
    · cases p <;> simp [hreality]
    · cases p <;> simp [hnone, hreality]

/-- What the link of a node says about a parameter. -/
def linkValue (v : V2Ray) (p : Param) : String :=
  match p with
  | .type => v.net
  | .security => v.tls
  | .flow | .sni | .alpn | .pinnedPeerCertSha256 | .verifyPeerCertByName | .fp | .pbk | .sid
  | .spx => secured v p
  | p => carried v p

lemma get_of_isReadAs {u : URL} (hread : (parts v).IsReadAs u) (p : Param) :
    u.get p.text = linkValue v p := by
  rw [hread.get, parts_query, value_query, params, said_append, said_append,
    said_securityParams, said_transportParams]
  cases p <;> simp [linkValue, secured, carried]

end Values

/-! ### Reading a link back -/

section ReadBack

variable {lib : Libraries} {link : String} {v : V2Ray}

lemma parseVlessURL_eq_ok_iff :
    parseVlessURL lib link = .ok v ↔
      ∃ u, lib.parseURL link = some u ∧ (∃ port, Go.atoi u.port = some port) ∧ ofURL u link = v := by
  simp [parseVlessURL, Except.bind_eq_ok_iff, pure, Except.pure]

/-- What a node that was read from a link is like. -/
structure IsRead (v : V2Ray) : Prop where
  port : ∃ port, Go.atoi v.port = some port
  security : v.security = ""
  net : v.net ≠ ""
  type : v.type ≠ ""
  tls : v.tls ≠ ""
  protocol : v.protocol = .vless
  quicSecurity : v.net ≠ "quic" → v.quicSecurity = ""
  xhttpMode : v.net = "xhttp" → v.xhttpMode ≠ ""
  numbers : ∀ n, Go.IsInt (v.numbers n)
  /-- Only a link for XHTTP has options for it. -/
  xhttp : v.net ≠ "xhttp" →
    v.xhttpMode = "" ∧ v.xhttpHeaders = "" ∧ v.noGRPCHeader = false ∧ v.noSSEHeader = false ∧
      v.uplinkHTTPMethod = "" ∧ ∀ n, v.numbers n = 0

variable {s other : String}

lemma orElse_ne_empty (h : other ≠ "") : orElse s other ≠ "" := by
  unfold orElse
  split_ifs with hs
  · exact h
  · exact hs

lemma isInt_intOf (s : String) : Go.IsInt (intOf s) := by
  unfold intOf
  cases h : Go.atoi s with
  | none => decide
  | some n => exact Go.isInt_of_atoi h

lemma isRead_of_parseVlessURL (h : parseVlessURL lib link = .ok v) : IsRead v := by
  obtain ⟨u, -, hport, rfl⟩ := parseVlessURL_eq_ok_iff.mp h
  refine ⟨hport, rfl, orElse_ne_empty (by simp), orElse_ne_empty (by simp),
    orElse_ne_empty (by simp), rfl, fun hnet => if_neg hnet, fun hnet => ?_, fun n => ?_,
    fun hnet => ?_⟩
  · change netOf u = "xhttp" at hnet
    change (if netOf u = "xhttp" then orElse (u.get "xhttpMode") "auto" else "") ≠ ""
    rw [if_pos hnet]
    exact orElse_ne_empty (by simp)
  · change Go.IsInt (if netOf u = "xhttp" then intOf (u.get n.key) else 0)
    split_ifs
    · exact isInt_intOf _
    · decide
  · change netOf u ≠ "xhttp" at hnet
    simp [ofURL, hnet]

/-- What comes back of a node. -/
def readBack (v : V2Ray) (link : String) : V2Ray :=
  { v with
    aid := ""
    type := if kind v.net ∈ [.kcp, .tcp, .quic] then v.type else "none"
    host := carried v .host
    sni := secured v .sni
    path := if v.net ∈ ["mkcp", "kcp", "grpc"] then v.path else carried v .path
    fingerprint := secured v .fp
    publicKey := secured v .pbk
    shortId := secured v .sid
    spiderX := secured v .spx
    flow := secured v .flow
    alpn := secured v .alpn
    pinnedPeerCertSha256 := secured v .pinnedPeerCertSha256
    verifyPeerCertByName := secured v .verifyPeerCertByName
    key := carried v .key
    maxEarlyData := carried v .maxEarlyData
    earlyDataHeaderName := carried v .earlyDataHeaderName
    multiMode := carried v .multiMode
    idleTimeout := carried v .idleTimeout
    healthCheckTimeout := carried v .healthCheckTimeout
    permitWithoutStream := carried v .permitWithoutStream
    initialWindowsSize := carried v .initialWindowsSize
    v := link }

lemma orElse_self (h : s ≠ "") : orElse s other = s := if_neg h

lemma orElse_ite {c : Prop} [Decidable c] (h : s ≠ "") :
    orElse (if c then s else "") other = if c then s else other := by
  by_cases hc : c <;> simp [hc, orElse, h]

lemma intOf_intText {n : ℤ} (hn : Go.IsInt n) : intOf (intText n) = n := by
  unfold intText intOf
  split_ifs with hzero
  · rw [hzero]
    decide
  · rw [Go.atoi_toString hn]
    rfl

lemma kind_of_mem {net : String} :
    (net = "mkcp" ∨ net = "kcp" → kind net = .kcp) ∧ (net = "grpc" → kind net = .grpc) ∧
      (net = "quic" → kind net = .quic) ∧ (net = "xhttp" → kind net = .xhttp) := by
  refine ⟨?_, ?_, ?_, ?_⟩
  · rintro (rfl | rfl) <;> decide +kernel
  · rintro rfl
    decide +kernel
  · rintro rfl
    decide +kernel
  · rintro rfl
    decide +kernel

lemma parse_string (hv : IsRead v) (hreads : lib.Reads (parts v)) :
    parseVlessURL lib (parts v).string = .ok (readBack v (parts v).string) := by
  obtain ⟨u, hu, hread⟩ := hreads
  refine parseVlessURL_eq_ok_iff.mpr ⟨u, hu, hread.port ▸ hv.port, ?_⟩
  have hget := get_of_isReadAs hread
  obtain ⟨hkcp, hgrpc, hquic, hxhttp⟩ := @kind_of_mem v.net
  have hnet : netOf u = v.net := by
    change orElse (u.get Param.type.text) "tcp" = v.net
    rw [hget]
    exact orElse_self hv.net
  -- What is read for one network only.
  have honly {α : Type} {name : String} {a b c : α} (hpos : v.net = name → a = c)
      (hneg : v.net ≠ name → b = c) : (if netOf u = name then a else b) = c := by
    rw [hnet]
    split_ifs with h
    exacts [hpos h, hneg h]
  have hflag {p : Param} {flag : Bool} (hx : v.net = "xhttp" → linkValue v p = flagText flag)
      (hother : v.net ≠ "xhttp" → flag = false) :
      decide (netOf u = "xhttp" ∧ u.get p.text = "true") = flag := by
    rw [hnet, hget]
    by_cases h : v.net = "xhttp"
    · rw [hx h]
      cases flag <;> simp [h, flagText]
    · simp [h, hother h]
  apply V2Ray.ext
  · exact hread.fragment
  · exact hread.hostname
  · exact hread.port
  · change u.username = v.id
    rw [URL.username, hread.user]
    rfl
  · exact hget .aid
  · exact hv.security.symm
  · exact hnet
  · change orElse (u.get Param.headerType.text) "none" = _
    rw [hget]
    exact orElse_ite hv.type
  · exact hget .host
  · exact hget .sni
  · change pathOf u = if v.net ∈ ["mkcp", "kcp", "grpc"] then v.path else carried v .path
    have hpath : u.get "path" = carried v .path := hget .path
    have hseed : u.get "seed" = if kind v.net = .kcp then v.path else "" := hget .seed
    have hservice : u.get "serviceName" = if kind v.net = .grpc then v.path else "" :=
      hget .serviceName
    rw [pathOf, hnet, hpath, hseed, hservice]
    by_cases hk : v.net = "mkcp" ∨ v.net = "kcp"
    · rw [if_pos hk, if_pos (hkcp hk)]
      rcases hk with hk | hk <;> simp [hk]
    · rw [if_neg hk]
      by_cases hg : v.net = "grpc"
      · rw [if_pos hg, if_pos (hgrpc hg), if_pos (by simp [hg])]
      · simp_all
  · change orElse (u.get Param.security.text) "none" = v.tls
    rw [hget]
    exact orElse_self hv.tls
  · exact hget .fp
  · exact hget .pbk
  · exact hget .sid
  · exact hget .spx
  · exact hget .flow
  · exact hget .alpn
  · exact hget .pinnedPeerCertSha256
  · exact hget .verifyPeerCertByName
  · exact hget .key
  · exact honly (fun hq => (hget .quicSecurity).trans (if_pos (hquic hq)))
      fun hq => (hv.quicSecurity hq).symm
  · refine honly (fun hx => ?_) fun hx => (hv.xhttp hx).1.symm
    change orElse (u.get Param.xhttpMode.text) "auto" = v.xhttpMode
    rw [hget, show linkValue v .xhttpMode = v.xhttpMode from if_pos (hxhttp hx)]
    exact orElse_self (hv.xhttpMode hx)
  · exact honly (fun hx => (hget .xhttpHeaders).trans (if_pos (hxhttp hx)))
      fun hx => (hv.xhttp hx).2.1.symm
  · exact hflag (p := .noGRPCHeader) (fun hx => if_pos (hxhttp hx)) fun hx => (hv.xhttp hx).2.2.1
  · exact hflag (p := .noSSEHeader) (fun hx => if_pos (hxhttp hx)) fun hx => (hv.xhttp hx).2.2.2.1
  · exact honly (fun hx => (hget .uplinkHTTPMethod).trans (if_pos (hxhttp hx)))
      fun hx => (hv.xhttp hx).2.2.2.2.1.symm
  · funext n
    refine honly (fun hx => ?_) fun hx => ((hv.xhttp hx).2.2.2.2.2 n).symm
    change intOf (u.get (Param.number n).text) = v.numbers n
    rw [hget, show linkValue v (.number n) = intText (v.numbers n) from if_pos (hxhttp hx)]
    exact intOf_intText (hv.numbers n)
  · exact hget .maxEarlyData
  · exact hget .earlyDataHeaderName
  · exact hget .multiMode
  · exact hget .idleTimeout
  · exact hget .healthCheckTimeout
  · exact hget .permitWithoutStream
  · exact hget .initialWindowsSize
  · rfl
  · exact hv.protocol.symm

end ReadBack

/-! ### The outbound of what comes back -/

section Essence

variable {lib : Libraries} {link : String} {v : V2Ray}

/-- The networks that the outbound of a node can have. -/
def supportedNets : List String :=
  ["grpc", "ws", "mkcp", "kcp", "tcp", "raw", "h2", "http", "quic", "xhttp"]

/-- The kind of a network, by its name in lower case. -/
lemma kind_cases (net : String) :
    (kind net = .web ∧ Go.toLower net ∈ ["websocket", "ws", "http", "h2"]) ∨
    (kind net = .kcp ∧ Go.toLower net ∈ ["mkcp", "kcp"]) ∨
    (kind net = .tcp ∧ Go.toLower net ∈ ["tcp", "raw"]) ∨
    (kind net = .grpc ∧ Go.toLower net = "grpc") ∨
    (kind net = .quic ∧ Go.toLower net = "quic") ∨
    (kind net = .xhttp ∧ Go.toLower net = "xhttp") ∨
    (kind net = .other ∧ Go.toLower net ∉ supportedNets) := by
  unfold kind
  split <;> simp_all [supportedNets]

lemma toLower_network :
    Go.toLower v.network = if Go.toLower v.net = "raw" then "tcp" else Go.toLower v.net := by
  unfold V2Ray.network
  split_ifs
  · decide +kernel
  · rfl

lemma transport_eq_none_iff :
    v.transport lib = none ↔ Go.toLower v.net ∉ supportedNets := by
  unfold V2Ray.transport
  rw [toLower_network]
  by_cases hraw : Go.toLower v.net = "raw"
  · simp [hraw, supportedNets]
  · split <;> simp_all [supportedNets]

lemma path_readBack_of_kind (h : kind v.net ∈ [.web, .tcp, .xhttp]) :
    (readBack v link).path = v.path := by
  change (if v.net ∈ ["mkcp", "kcp", "grpc"] then v.path else carried v .path) = v.path
  rw [show carried v .path = v.path from if_pos h, ite_self]

lemma host_readBack_of_kind (h : kind v.net ∈ [.web, .tcp, .xhttp]) :
    (readBack v link).host = v.host := if_pos h

/-- A seed comes back if the name of the network is not written with capital letters. -/
lemma path_readBack_of_kcp (h : kind v.net = .kcp) :
    (readBack v link).path = if v.net = "mkcp" ∨ v.net = "kcp" then v.path else "" := by
  change (if v.net ∈ ["mkcp", "kcp", "grpc"] then v.path else carried v .path) = _
  have hgrpc : v.net ≠ "grpc" := fun hnet => by simp [kind_of_mem.2.1 hnet] at h
  rw [show carried v .path = "" from if_neg (by simp [h])]
  simp [hgrpc]

/-- The name of a service comes back if the name of the network is not written with capital
letters. -/
lemma path_readBack_of_grpc (h : kind v.net = .grpc) :
    (readBack v link).path = if v.net = "grpc" then v.path else "" := by
  change (if v.net ∈ ["mkcp", "kcp", "grpc"] then v.path else carried v .path) = _
  have hkcp : ¬(v.net = "mkcp" ∨ v.net = "kcp") := fun hnet => by simp [kind_of_mem.1 hnet] at h
  rw [not_or] at hkcp
  rw [show carried v .path = "" from if_neg (by simp [h])]
  simp [hkcp]

lemma grpcSettings_readBack_iff (h : kind v.net = .grpc) :
    (readBack v link).grpcSettings = v.grpcSettings ↔
      (v.net ≠ "grpc" → v.path = "" ∨ v.path = "GunService") := by
  have hpath := @path_readBack_of_grpc link v h
  have hm : (readBack v link).multiMode = v.multiMode := if_pos h
  have hi : (readBack v link).idleTimeout = v.idleTimeout := if_pos h
  have hc : (readBack v link).healthCheckTimeout = v.healthCheckTimeout := if_pos h
  have hw : (readBack v link).permitWithoutStream = v.permitWithoutStream := if_pos h
  have hs : (readBack v link).initialWindowsSize = v.initialWindowsSize := if_pos h
  unfold V2Ray.grpcSettings
  simp only [hpath, hm, hi, hc, hw, hs]
  by_cases hnet : v.net = "grpc"
  · simp [hnet]
  · by_cases hempty : v.path = ""
    · simp [hempty]
    · simp [hnet, hempty, eq_comm]

/-- The transport that comes back. -/
lemma transport_readBack_iff :
    (readBack v link).transport lib = v.transport lib ↔
      (kind v.net = .grpc → v.net ≠ "grpc" → v.path = "" ∨ v.path = "GunService") ∧
      (kind v.net = .kcp → ¬(v.net = "mkcp" ∨ v.net = "kcp") → v.path = "") := by
  have hnetwork : (readBack v link).network = v.network := rfl
  unfold V2Ray.transport
  rw [hnetwork, toLower_network]
  rcases kind_cases v.net with
    ⟨hk, hn⟩ | ⟨hk, hn⟩ | ⟨hk, hn⟩ | ⟨hk, hn⟩ | ⟨hk, hn⟩ | ⟨hk, hn⟩ | ⟨hk, hn⟩
  · -- The path and the host of a web transport are in every link.
    have hp := @path_readBack_of_kind link v (by simp [hk])
    have hh := @host_readBack_of_kind link v (by simp [hk])
    have hm : (readBack v link).maxEarlyData = v.maxEarlyData := if_pos hk
    have he : (readBack v link).earlyDataHeaderName = v.earlyDataHeaderName := if_pos hk
    simp only [mem_cons, not_mem_nil, or_false] at hn
    rcases hn with hn | hn | hn | hn <;> simp [hn, hk, V2Ray.wsSettings, hp, hh, hm, he]
  · have hp := @path_readBack_of_kcp link v hk
    have ht : (readBack v link).type = v.type := if_pos (by simp [hk])
    simp only [mem_cons, not_mem_nil, or_false] at hn
    by_cases hnet : v.net = "mkcp" ∨ v.net = "kcp"
    · rcases hn with hn | hn <;> simp [hn, hk, hp, ht]
    · rcases hn with hn | hn <;> simp [hn, hk, hp, ht]
  · have hp := @path_readBack_of_kind link v (by simp [hk])
    have hh := @host_readBack_of_kind link v (by simp [hk])
    have ht : (readBack v link).type = v.type := if_pos (by simp [hk])
    simp only [mem_cons, not_mem_nil, or_false] at hn
    rcases hn with hn | hn <;> simp [hn, hk, V2Ray.tcpSettings, hp, hh, ht]
  · simp [hn, hk, grpcSettings_readBack_iff hk]
  · have ht : (readBack v link).type = v.type := if_pos (by simp [hk])
    have hkey : (readBack v link).key = v.key := if_pos hk
    have hsec : (readBack v link).quicSecurity = v.quicSecurity := rfl
    simp [hn, hk, ht, hkey, hsec]
  · have hp := @path_readBack_of_kind link v (by simp [hk])
    have hh := @host_readBack_of_kind link v (by simp [hk])
    have hx : (readBack v link).xhttpSettings lib = v.xhttpSettings lib := by
      unfold V2Ray.xhttpSettings
      rw [hp, hh]
      rfl
    simp [hn, hk, hx]
  · -- Without a transport there is nothing to compare.
    simp only [supportedNets, mem_cons, not_or] at hn
    simp [hn, hk]

/-- What comes back of the settings of TLS: the name of the server may be the host, which the link of
some transports does not carry. -/
lemma tlsSettings_readBack_iff {fingerprint : String} (h : v.tls ≠ "none") :
    ((readBack v link).tlsSettings fingerprint).toOption =
        (v.tlsSettings fingerprint).toOption ↔
      ((pinnedPeerCertSha256Hex v.pinnedPeerCertSha256).toOption.isSome → v.sni = "" →
        kind v.net ∉ [.web, .tcp, .xhttp] → v.host = "") := by
  have hsni : (readBack v link).sni = v.sni := if_pos h
  have halpn : (readBack v link).alpn = v.alpn := if_pos h
  have hpins : (readBack v link).pinnedPeerCertSha256 = v.pinnedPeerCertSha256 := if_pos h
  have hname : (readBack v link).verifyPeerCertByName = v.verifyPeerCertByName := if_pos h
  unfold V2Ray.tlsSettings
  rw [hsni, halpn, hpins, hname]
  cases pinnedPeerCertSha256Hex v.pinnedPeerCertSha256 with
  | error e => simp [Except.toOption]
  | ok pins =>
    by_cases hempty : v.sni = ""
    · by_cases hkind : kind v.net ∈ [.web, .tcp, .xhttp]
      · have hhost := @host_readBack_of_kind link v hkind
        simp [hhost, hkind]
      · have hhost : (readBack v link).host = "" := if_neg hkind
        by_cases hv : v.host = "" <;>
          simp [bind, Except.bind, Except.toOption, pure, Except.pure, hempty, hhost, hkind]
    · simp [bind, pure, Except.pure, hempty]

lemma ne_none_of_toLower {tls : String} (h : Go.toLower tls ∈ ["tls", "xtls", "reality"]) :
    tls ≠ "none" := by
  rintro rfl
  revert h
  decide +kernel

lemma toOption_map_inj {α β : Type} {f : α → β} (hf : Function.Injective f)
    {x y : Except Go.Error α} : (f <$> x).toOption = (f <$> y).toOption ↔ x.toOption = y.toOption := by
  have hmap (x : Except Go.Error α) : (f <$> x).toOption = x.toOption.map f := by cases x <;> rfl
  rw [hmap, hmap]
  exact (Option.map_injective hf).eq_iff

/-- What comes back of the security of the connection. -/
lemma connectionSecurity_readBack_iff :
    (readBack v link).connectionSecurity.toOption = v.connectionSecurity.toOption ↔
      (Go.toLower v.tls ∈ ["tls", "xtls"] →
        (pinnedPeerCertSha256Hex v.pinnedPeerCertSha256).toOption.isSome → v.sni = "" →
          kind v.net ∉ [.web, .tcp, .xhttp] → v.host = "") ∧
      (Go.toLower v.tls = "reality" → v.tls ≠ "reality" →
        v.publicKey = "" ∧ v.shortId = "" ∧ v.spiderX = "") := by
  have htls : (readBack v link).tls = v.tls := rfl
  unfold V2Ray.connectionSecurity
  rw [htls]
  split
  next h =>
    have hnone := @ne_none_of_toLower v.tls (by simp [h])
    have hfp : (readBack v link).fingerprint = v.fingerprint := if_pos hnone
    rw [toOption_map_inj fun _ _ => Security.tls.inj, hfp, tlsSettings_readBack_iff hnone]
    simp [h]
  next h =>
    have hnone := @ne_none_of_toLower v.tls (by simp [h])
    rw [toOption_map_inj fun _ _ => Security.xtls.inj, tlsSettings_readBack_iff hnone]
    simp [h]
  next h =>
    have hnone := @ne_none_of_toLower v.tls (by simp [h])
    have hsni : (readBack v link).sni = v.sni := if_pos hnone
    have hfp : (readBack v link).fingerprint = v.fingerprint := if_pos hnone
    by_cases hreality : v.tls = "reality"
    · have hkey : (readBack v link).publicKey = v.publicKey := if_pos hreality
      have hid : (readBack v link).shortId = v.shortId := if_pos hreality
      have hspider : (readBack v link).spiderX = v.spiderX := if_pos hreality
      rw [hsni, hfp, hkey, hid, hspider]
      simp only [h]
      simp [hreality]
    · have hkey : (readBack v link).publicKey = "" := if_neg hreality
      have hid : (readBack v link).shortId = "" := if_neg hreality
      have hspider : (readBack v link).spiderX = "" := if_neg hreality
      rw [hsni, hfp, hkey, hid, hspider]
      simp [h, hreality, Except.toOption]
  next htls hxtls hreality =>
    refine iff_of_true rfl ⟨fun h => ?_, fun h => absurd h hreality⟩
    rcases mem_pair.mp h with h | h
    · exact absurd h htls
    · exact absurd h hxtls

/-- What comes back of the user. -/
lemma user_readBack_iff (hv : v.protocol = .vless) :
    (readBack v link).user lib = v.user lib ↔ (v.tls = "none" → v.flow = "") := by
  have hprotocol : (readBack v link).protocol = v.protocol := rfl
  have hid : (readBack v link).id = v.id := rfl
  unfold V2Ray.user
  rw [hprotocol, hv, hid]
  by_cases hnone : v.tls = "none"
  · have hflow : (readBack v link).flow = "" := if_neg (by simpa using hnone)
    simp [hflow, hnone]
  · have hflow : (readBack v link).flow = v.flow := if_pos hnone
    simp [hflow, hnone]

/-- The node has an outbound. -/
structure HasOutbound (v : V2Ray) : Prop where
  net : Go.toLower v.net ∈ supportedNets
  pins : Go.toLower v.tls ∈ ["tls", "xtls"] →
    (pinnedPeerCertSha256Hex v.pinnedPeerCertSha256).toOption.isSome

/-- The link of the node carries everything that its outbound depends on. -/
structure IsCarried (v : V2Ray) : Prop where
  /-- A flow is only written with a security. -/
  flow : v.tls = "none" → v.flow = ""
  /-- The name of a service is only read if the network is named in small letters. -/
  service : kind v.net = .grpc → v.net ≠ "grpc" → v.path = "" ∨ v.path = "GunService"
  seed : kind v.net = .kcp → ¬(v.net = "mkcp" ∨ v.net = "kcp") → v.path = ""
  /-- The host stands for a missing name of the server, but not every transport writes it. -/
  host : Go.toLower v.tls ∈ ["tls", "xtls"] → v.sni = "" → kind v.net ∉ [.web, .tcp, .xhttp] →
    v.host = ""
  /-- The keys are only written if the security is named in small letters. -/
  reality : Go.toLower v.tls = "reality" → v.tls ≠ "reality" →
    v.publicKey = "" ∧ v.shortId = "" ∧ v.spiderX = ""

lemma isSome_connectionSecurity :
    v.connectionSecurity.toOption.isSome ↔
      (Go.toLower v.tls ∈ ["tls", "xtls"] →
        (pinnedPeerCertSha256Hex v.pinnedPeerCertSha256).toOption.isSome) := by
  have hsettings (fingerprint : String) : (v.tlsSettings fingerprint).toOption.isSome =
      (pinnedPeerCertSha256Hex v.pinnedPeerCertSha256).toOption.isSome := by
    unfold V2Ray.tlsSettings
    cases pinnedPeerCertSha256Hex v.pinnedPeerCertSha256 <;> rfl
  have hmap {α β : Type} (f : α → β) (x : Except Go.Error α) :
      (f <$> x).toOption.isSome = x.toOption.isSome := by cases x <;> rfl
  unfold V2Ray.connectionSecurity
  split
  next h => simp [h, hmap, hsettings]
  next h => simp [h, hmap, hsettings]
  next h => simp [h, Except.toOption]
  next htls hxtls _ =>
    refine iff_of_true rfl fun h => ?_
    rcases mem_pair.mp h with h | h
    · exact absurd h htls
    · exact absurd h hxtls

lemma essence_ne_none_iff : v.essence lib ≠ none ↔ HasOutbound v := by
  have hsupported : v.transport lib ≠ none ↔ Go.toLower v.net ∈ supportedNets := by
    rw [Ne, transport_eq_none_iff, not_not]
  have hessence : v.essence lib ≠ none ↔
      v.transport lib ≠ none ∧ v.connectionSecurity.toOption.isSome := by
    unfold V2Ray.essence
    cases v.transport lib <;> cases v.connectionSecurity.toOption <;> simp
  rw [hessence, hsupported, isSome_connectionSecurity]
  exact ⟨fun h => ⟨h.1, h.2⟩, fun h => ⟨h.net, h.pins⟩⟩

lemma hasOutbound_readBack : HasOutbound (readBack v link) ↔ HasOutbound v := by
  have hpins (h : Go.toLower v.tls ∈ ["tls", "xtls"]) :
      (readBack v link).pinnedPeerCertSha256 = v.pinnedPeerCertSha256 := by
    refine if_pos (ne_none_of_toLower ?_)
    rcases mem_pair.mp h with h | h <;> simp [h]
  constructor
  · exact fun h => ⟨h.net, fun htls => hpins htls ▸ h.pins htls⟩
  · exact fun h => ⟨h.net, fun htls => (hpins htls).symm ▸ h.pins htls⟩

/-- A node that is read back has the same outbound if its link carries what the outbound depends
on, and only then. -/
lemma nodeConfig_readBack_iff (hv : v.protocol = .vless) :
    (∀ info, ((readBack v link).nodeConfig lib info).toOption =
      (v.nodeConfig lib info).toOption) ↔ (HasOutbound v → IsCarried v) := by
  have hclock : v.clockError lib = none := by
    rw [V2Ray.clockError, hv]
  rw [@V2Ray.nodeConfig_eq_iff lib v (readBack v link) hclock rfl rfl rfl rfl]
  by_cases hout : HasOutbound v
  · rw [V2Ray.essence_eq_iff (essence_ne_none_iff.mpr hout), transport_readBack_iff,
      connectionSecurity_readBack_iff, user_readBack_iff hv]
    constructor
    · rintro ⟨⟨hservice, hseed⟩, ⟨hhost, hreality⟩, hflow⟩ -
      exact ⟨hflow, hservice, hseed, fun htls => hhost htls (hout.pins htls), hreality⟩
    · intro h
      obtain ⟨hflow, hservice, hseed, hhost, hreality⟩ := h hout
      exact ⟨⟨hservice, hseed⟩, ⟨fun htls _ => hhost htls, hreality⟩, hflow⟩
  · -- Without an outbound there is none after the link was read back either.
    have hnone (w : V2Ray) (hw : ¬HasOutbound w) : w.essence lib = none :=
      not_not.mp (mt essence_ne_none_iff.mp hw)
    rw [hnone _ (mt hasOutbound_readBack.mp hout), hnone v hout]
    exact iff_of_true rfl fun h => absurd h hout

end Essence

end V2rayA.Vless
