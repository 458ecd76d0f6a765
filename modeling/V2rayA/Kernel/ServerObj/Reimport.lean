import V2rayA.Kernel.ServerObj.NewFromLink

/-!
# Importing nodes again

Which nodes have the same outbound after their own link was read. Each result assumes that the
libraries read what the node writes (`Node.LinkIsRead`).

* VMess, Shadowsocks and TUIC nodes do.
* VLESS nodes do if their link carries what the outbound depends on (`Vless.IsCarried`).
* Trojan nodes do unless they name application protocols, which their link leaves out.
* SOCKS and HTTP proxies do unless they have a user name without a password.
* WireGuard nodes do unless their interval is negative.
-/

namespace V2rayA

open Node Libraries Vless

variable {lib : Libraries} {name link : String}

lemma Node.reimports_iff_of_eq {x y : Node}
    (h : newFromLink lib x.scheme x.exportToURL = .ok y) :
    x.Reimports lib ↔ y.SameConfig lib x := by
  unfold Reimports
  rw [h]
  constructor
  · rintro ⟨y', hy', hsame⟩
    cases hy'
    exact hsame
  · exact fun hsame => ⟨y, rfl, hsame⟩

/-- A link begins with its scheme. -/
lemma URL.Parts.exists_string_eq {p : URL.Parts} (h : p.scheme ≠ "") :
    ∃ rest, p.string = p.scheme ++ ("://" ++ rest) := by
  apply Exists.intro
  unfold URL.Parts.string
  simp only [if_neg h, String.append_assoc]
  rfl

/-! ### VMess and VLESS -/

lemma newV2Ray_eq_ok {v : V2Ray} (h : newV2Ray lib link = .ok v) :
    Vmess.parseVmessURL lib link = .ok v ∨ parseVlessURL lib link = .ok v := by
  unfold newV2Ray at h
  split_ifs at h
  · exact .inl h
  · exact .inr h

lemma newV2Ray_vless (v : V2Ray) :
    newV2Ray lib (parts v).string = parseVlessURL lib (parts v).string := by
  have hscheme : (parts v).scheme = "vless" := rfl
  obtain ⟨rest, hrest⟩ := URL.Parts.exists_string_eq (p := parts v) (by simp [hscheme])
  rw [hrest, hscheme]
  simp [newV2Ray, Go.hasPrefix]

lemma vless_reimports_iff_of_isRead {v : V2Ray} (hread : IsRead v)
    (hreads : lib.Reads (parts v)) :
    (Node.v2ray v).Reimports lib ↔ (HasOutbound v → IsCarried v) := by
  have hv := hread.protocol
  have hexport : (Node.v2ray v).exportToURL = (parts v).string := by
    simp [Node.exportToURL, hv]
  have hscheme : (Node.v2ray v).scheme = "vless" := by
    rw [Node.scheme, hv]
    rfl
  have hlink : newFromLink lib (Node.v2ray v).scheme (Node.v2ray v).exportToURL =
      .ok (.v2ray (readBack v (parts v).string)) := by
    rw [hscheme, hexport]
    exact newFromLink_of_parse rfl ((newV2Ray_vless v).trans (parse_string hread hreads))
  rw [Node.reimports_iff_of_eq hlink]
  exact nodeConfig_readBack_iff hv

/-- A VLESS node that was imported has the same outbound after its link was read again if and only
if it has none, or its link carries everything that the outbound depends on. -/
theorem vless_reimports_iff {v : V2Ray} (h : newFromLink lib name link = .ok (.v2ray v))
    (hv : v.protocol = .vless) (hlib : (Node.v2ray v).LinkIsRead lib) :
    (Node.v2ray v).Reimports lib ↔ (Vless.HasOutbound v → Vless.IsCarried v) := by
  have hreads : lib.Reads (parts v) := by simpa [LinkIsRead, hv] using hlib
  rcases newV2Ray_eq_ok (isReadFrom_of_newFromLink h).1 with hvmess | hvless
  · simp [(Vmess.isRead_of_parseVmessURL hvmess).protocol] at hv
  · exact vless_reimports_iff_of_isRead (isRead_of_parseVlessURL hvless) hreads

/-- The components of the link
`vless://u@192.0.2.1:443?host=cdn.example.com&security=tls&type=grpc`. -/
def grpcLink : URL.Parts where
  scheme := "vless"
  user := some ⟨"u", none⟩
  hostname := "192.0.2.1"
  port := "443"
  query := [("host", "cdn.example.com"), ("security", "tls"), ("type", "grpc")]

/-- The node of this link, which uses the host as the name of the server. -/
def grpcNode : V2Ray := Vless.ofURL grpcLink.url grpcLink.string

/-- Libraries that read the link of the node and the link that it writes. -/
def grpcLibraries : Libraries := .knowing [Vless.parts grpcNode, grpcLink]

lemma parse_grpcLink :
    parseVlessURL grpcLibraries grpcLink.string = .ok grpcNode := by
  have hparse : grpcLibraries.parseURL grpcLink.string = some grpcLink.url :=
    parseURL_knowing (by decide +kernel)
  exact parseVlessURL_eq_ok_iff.mpr ⟨_, hparse, ⟨443, by decide⟩, rfl⟩

lemma newFromLink_grpcLink :
    newFromLink grpcLibraries "vless" grpcLink.string = .ok (.v2ray grpcNode) := by
  have hlink : Go.hasPrefix grpcLink.string "vmess://" = false ∧
      Go.hasPrefix grpcLink.string "vless://" = true := by decide
  exact newFromLink_of_parse rfl (by simp [newV2Ray, hlink, parse_grpcLink])

theorem vless_reimports_iff_grpcNode :
    (Node.v2ray grpcNode).Reimports grpcLibraries ↔
      (Vless.HasOutbound grpcNode → Vless.IsCarried grpcNode) :=
  vless_reimports_iff newFromLink_grpcLink rfl reads_knowing

/-- The name of the server is lost with the host, which the link of this transport leaves out. -/
theorem not_reimports_grpcNode :
    newFromLink grpcLibraries "vless" grpcLink.string = .ok (.v2ray grpcNode) ∧
      grpcNode.protocol = .vless ∧ (Node.v2ray grpcNode).LinkIsRead grpcLibraries ∧
      ¬(Node.v2ray grpcNode).Reimports grpcLibraries := by
  have hreads : grpcLibraries.Reads (parts grpcNode) := reads_knowing
  refine ⟨newFromLink_grpcLink, rfl, hreads, ?_⟩
  rw [vless_reimports_iff_of_isRead (isRead_of_parseVlessURL parse_grpcLink) hreads]
  intro h
  have hcarried := h ⟨by decide, fun _ => by decide⟩
  have hhost := hcarried.host (by decide +kernel) (by decide +kernel) (by decide +kernel)
  exact absurd hhost (by decide)

lemma newV2Ray_exported {v : V2Ray} (hread : Vmess.IsRead v)
    (hreads : Vmess.ReadsJSON lib (Vmess.document (Vmess.exported v))) :
    newV2Ray lib (Vmess.exportToURL v) = .ok (Vmess.exported v) := by
  have hpre : Go.hasPrefix (Vmess.exportToURL v) "vmess://" := by
    simp [Go.hasPrefix, Vmess.exportToURL]
  rw [newV2Ray, if_pos hpre, Vmess.parse_exported hread hreads]

/-- A VMess node that was imported has the same outbound after its link was read again. -/
theorem vmess_reimports {v : V2Ray} (h : newFromLink lib name link = .ok (.v2ray v))
    (hv : v.protocol = .vmess) (hlib : (Node.v2ray v).LinkIsRead lib) :
    (Node.v2ray v).Reimports lib := by
  have hread : Vmess.IsRead v := by
    rcases newV2Ray_eq_ok (isReadFrom_of_newFromLink h).1 with hvmess | hvless
    · exact Vmess.isRead_of_parseVmessURL hvmess
    · simp [(isRead_of_parseVlessURL hvless).protocol] at hv
  have hreads : Vmess.ReadsJSON lib (Vmess.document (Vmess.exported v)) := by
    simpa [Node.LinkIsRead, hv] using hlib
  have hexport : (Node.v2ray v).exportToURL = Vmess.exportToURL v := by
    simp [Node.exportToURL, hv]
  have hscheme : (Node.v2ray v).scheme = "vmess" := by
    rw [Node.scheme, hv]
    rfl
  have hlink : newFromLink lib (Node.v2ray v).scheme (Node.v2ray v).exportToURL =
      .ok (.v2ray (Vmess.exported v)) := by
    rw [hscheme, hexport]
    exact newFromLink_of_parse rfl (newV2Ray_exported hread hreads)
  rw [Node.reimports_iff_of_eq hlink]
  exact fun info => congrArg Except.toOption (Vmess.nodeConfig_exported info)

/-- A VMess node over WebSocket. -/
def vmessNode : V2Ray where
  ps := "node"
  add := "h.example"
  port := "443"
  id := "u"
  aid := "0"
  net := "ws"
  host := "cdn.example.com"
  path := "/ws"
  tls := "tls"
  v := "2"
  protocol := .vmess

theorem reimports_vmessNode :
    (Node.v2ray vmessNode).Reimports (Vmess.knowing (Vmess.document vmessNode)) := by
  have hread : Vmess.IsRead vmessNode :=
    ⟨rfl, ⟨443, by decide⟩, by decide, by decide, fun _ => (by decide : Go.IsInt 0)⟩
  have hjson := Vmess.readsJSON_knowing (Vmess.document vmessNode)
  have hlink : newFromLink (Vmess.knowing (Vmess.document vmessNode)) "vmess"
      (Vmess.exportToURL vmessNode) = .ok (.v2ray vmessNode) :=
    newFromLink_of_parse rfl (newV2Ray_exported hread hjson)
  exact vmess_reimports hlink rfl hjson

/-! ### Shadowsocks -/

attribute [local simp] Shadowsocks.readBack

/-- A Shadowsocks node with a plugin. -/
def pluginNode : Shadowsocks where
  server := "h.example"
  port := 8388
  cipher := "aes-256-gcm"
  password := "p:w"
  plugin := ⟨"simple-obfs", { obfs := "http", host := "cdn.example.com", path := "/a" }⟩

lemma trojan_reimports_iff_of_isRead {t : Trojan} (hread : t.IsRead) (hlib : lib.Reads t.parts) :
    (trojan t).Reimports lib ↔
      t.alpn = "" ∨ ∃ e, pinnedPeerCertSha256Hex t.pinnedPeerCertSha256 = .error e := by
  have hlink : newFromLink lib (trojan t).scheme (trojan t).exportToURL =
      .ok (.trojan t.readBack) := by
    have hcreator : creator lib t.parts.scheme t.parts.string =
        some (trojan <$> Trojan.parseTrojanURL lib t.parts.string) := by
      rcases hread.protocol with hgo | ⟨hplain, -⟩
      · simp [Trojan.parts, hgo, creator]
      · simp [Trojan.parts, hplain, creator]
    exact newFromLink_of_parse hcreator (Trojan.parse_string hread hlib)
  rw [reimports_iff_of_eq hlink]
  exact Trojan.nodeConfig_readBack_iff

/-- A Trojan node that was imported has the same outbound after its link was read again if and only
if it names no application protocols, or its certificate pins cannot be read. -/
theorem trojan_reimports_iff {t : Trojan} (h : newFromLink lib name link = .ok (.trojan t))
    (hlib : (Node.trojan t).LinkIsRead lib) :
    (Node.trojan t).Reimports lib ↔
      t.alpn = "" ∨ ∃ e, pinnedPeerCertSha256Hex t.pinnedPeerCertSha256 = .error e :=
  trojan_reimports_iff_of_isRead
    (Trojan.isRead_of_parseTrojanURL (isReadFrom_of_newFromLink h).1) hlib

/-- The components of the link `trojan://p@h.example:443?alpn=h2`. -/
def alpnLink : URL.Parts where
  scheme := "trojan"
  user := some ⟨"p", none⟩
  hostname := "h.example"
  port := "443"
  query := [("alpn", "h2")]

/-- The node of this link. -/
def alpnNode : Trojan := Trojan.ofURL alpnLink.url 443

/-- Libraries that read the link of the node and the link that it writes. -/
def alpnLibraries : Libraries := .knowing [alpnNode.parts, alpnLink]

lemma parse_alpnLink : Trojan.parseTrojanURL alpnLibraries alpnLink.string = .ok alpnNode :=
  Trojan.parseTrojanURL_eq_ok_iff.mpr
    ⟨_, parseURL_knowing (by decide), by decide, 443, by decide, rfl⟩

lemma newFromLink_alpnLink :
    newFromLink alpnLibraries "trojan" alpnLink.string = .ok (.trojan alpnNode) :=
  newFromLink_of_parse rfl parse_alpnLink

theorem trojan_reimports_iff_alpnNode :
    (Node.trojan alpnNode).Reimports alpnLibraries ↔
      alpnNode.alpn = "" ∨
        ∃ e, pinnedPeerCertSha256Hex alpnNode.pinnedPeerCertSha256 = .error e :=
  trojan_reimports_iff newFromLink_alpnLink reads_knowing

/-- The application protocols are not in the link that the node writes. -/
theorem not_reimports_alpnNode :
    newFromLink alpnLibraries "trojan" alpnLink.string = .ok (.trojan alpnNode) ∧
      (Node.trojan alpnNode).LinkIsRead alpnLibraries ∧
      ¬(Node.trojan alpnNode).Reimports alpnLibraries := by
  have hreads : alpnLibraries.Reads alpnNode.parts := reads_knowing
  refine ⟨newFromLink_alpnLink, hreads, ?_⟩
  rw [trojan_reimports_iff_of_isRead (Trojan.isRead_of_parseTrojanURL parse_alpnLink) hreads]
  have hpins : pinnedPeerCertSha256Hex alpnNode.pinnedPeerCertSha256 = .ok "" := by
    rfl
  rintro (halpn | ⟨e, he⟩)
  · exact absurd halpn (by decide)
  · rw [hpins] at he
    cases he

/-! ### Proxies -/

lemma sameConfig_iff_of_ok {x y : Node} {f g : PriorInfo → NodeConfig}
    (hx : ∀ info, x.nodeConfig lib info = .ok (f info))
    (hy : ∀ info, y.nodeConfig lib info = .ok (g info)) :
    y.SameConfig lib x ↔ ∀ info, g info = f info := by
  simp [SameConfig, hx, hy, Except.toOption]

lemma socks_reimports_iff_of_read {u : URL} {s : SOCKS} (hu : lib.parseURL link = some u)
    (h : newFromLink lib u.scheme link = .ok (.socks s)) (hlib : lib.Reads s.parts) :
    (socks s).Reimports lib ↔ s.username = "" ∨ s.password ≠ "" := by
  obtain ⟨hread, hname⟩ := isReadFrom_of_newFromLink h
  have hscheme : u.scheme = "socks5" := by simpa [names] using hname
  obtain ⟨t, ht, hserver, port, hport, rfl⟩ := SOCKS.parseSocksURL_eq_ok_iff.mp hread
  obtain rfl : t = u := Option.some.inj (ht.symm.trans hu)
  obtain ⟨hzero, hint⟩ : (SOCKS.ofURL t port).port ≠ 0 ∧ Go.IsInt (SOCKS.ofURL t port).port := by
    simp only [SOCKS.ofURL, hscheme, true_and]
    exact defaultPort_ne_zero (by decide) (URL.isInt_of_proxyPort hport)
  have hlink : newFromLink lib (socks (SOCKS.ofURL t port)).scheme
      (socks (SOCKS.ofURL t port)).exportToURL = .ok (.socks (SOCKS.ofURL t port).readBack) := by
    change newFromLink lib t.scheme (SOCKS.ofURL t port).exportToURL = _
    rw [hscheme, SOCKS.exportToURL_eq]
    exact newFromLink_of_parse rfl (SOCKS.parse_string hserver hint (fun _ => hzero) hlib)
  rw [reimports_iff_of_eq hlink, sameConfig_iff_of_ok (fun _ => rfl) (fun _ => rfl)]
  exact SOCKS.nodeConfig_readBack_iff

lemma http_reimports_iff_of_read {u : URL} {s : HTTP} (hu : lib.parseURL link = some u)
    (h : newFromLink lib u.scheme link = .ok (.http s)) (hlib : lib.Reads s.parts) :
    (http s).Reimports lib ↔ s.username = "" ∨ s.password ≠ "" := by
  obtain ⟨hread, hname⟩ := isReadFrom_of_newFromLink h
  have hscheme : u.scheme ∈ ["http", "https", "http-proxy", "https-proxy"] := by
    simpa [names] using hname
  obtain ⟨t, ht, -, hserver, port, hport, rfl⟩ := HTTP.parseHttpURL_eq_ok_iff.mp hread
  obtain rfl : t = u := Option.some.inj (ht.symm.trans hu)
  obtain ⟨hproto, hzero, hint⟩ : ((HTTP.ofURL t port).protocol = "http" ∨
      (HTTP.ofURL t port).protocol = "https") ∧ (HTTP.ofURL t port).port ≠ 0 ∧
      Go.IsInt (HTTP.ofURL t port).port :=
    HTTP.protocolOf_mem hscheme (URL.isInt_of_proxyPort hport)
  have hlink : newFromLink lib (http (HTTP.ofURL t port)).scheme
      (http (HTTP.ofURL t port)).exportToURL = .ok (.http (HTTP.ofURL t port).readBack) := by
    have hcreator : creator lib (HTTP.ofURL t port).protocol (HTTP.ofURL t port).parts.string =
        some (http <$> HTTP.parseHttpURL lib (HTTP.ofURL t port).parts.string) := by
      rcases hproto with hproto | hproto <;> rw [hproto] <;> rfl
    exact newFromLink_of_parse hcreator (HTTP.parse_string hserver hint hzero hproto hlib)
  rw [reimports_iff_of_eq hlink, sameConfig_iff_of_ok (fun _ => rfl) (fun _ => rfl)]
  exact HTTP.nodeConfig_readBack_iff

/-- A SOCKS or HTTP proxy that was imported has the same outbound after its link was read again if
and only if it does not have a user name without a password. -/
theorem proxy_reimports_iff {text : String} {x : Node} {credentials : String × String}
    (h : resolveURL lib text = .ok x) (hproxy : x.credentials? = some credentials)
    (hlib : x.LinkIsRead lib) :
    x.Reimports lib ↔ credentials.1 = "" ∨ credentials.2 ≠ "" := by
  obtain ⟨link, u, hu, hx⟩ := resolveURL_eq_ok h
  cases x with
  | socks s =>
    cases hproxy
    exact socks_reimports_iff_of_read hu hx hlib
  | http s =>
    cases hproxy
    exact http_reimports_iff_of_read hu hx hlib
  | _ => cases hproxy

/-- The components of the link `socks5://user@h.example:1080`. -/
def userLink : URL.Parts where
  scheme := "socks5"
  user := some ⟨"user", none⟩
  hostname := "h.example"
  port := "1080"

/-- The node of this link. -/
def userNode : SOCKS := SOCKS.ofURL userLink.url 1080

/-- Libraries that read the link of the node and the link that it writes. -/
def userLibraries : Libraries := .knowing [userNode.parts, userLink]

lemma parseURL_userLink : userLibraries.parseURL userLink.string = some userLink.url :=
  parseURL_knowing (by decide)

lemma newFromLink_userLink :
    newFromLink userLibraries userLink.url.scheme userLink.string = .ok (.socks userNode) :=
  newFromLink_of_parse rfl (SOCKS.parseSocksURL_eq_ok_iff.mpr
    ⟨_, parseURL_userLink, by decide, 1080, by decide, rfl⟩)

lemma resolveURL_userLink : resolveURL userLibraries userLink.string = .ok (.socks userNode) := by
  have htrim : Go.trimSpace userLink.string = userLink.string ∧ userLink.string ≠ "" := by
    decide
  have hscheme : userLink.url.scheme ≠ "" := by decide
  simp only [resolveURL, htrim.1, Except.bind_eq_ok_iff, Except.require_eq_ok_iff]
  exact ⟨⟨⟩, htrim.2, _, rfl, ⟨⟩, hscheme, newFromLink_userLink⟩

theorem proxy_reimports_iff_userNode :
    (Node.socks userNode).Reimports userLibraries ↔
      userNode.username = "" ∨ userNode.password ≠ "" :=
  proxy_reimports_iff resolveURL_userLink rfl reads_knowing

/-- A user name without a password is not in the link that the node writes. -/
theorem not_reimports_userNode :
    resolveURL userLibraries userLink.string = .ok (.socks userNode) ∧
      (Node.socks userNode).LinkIsRead userLibraries ∧
      ¬(Node.socks userNode).Reimports userLibraries := by
  have hreads : userLibraries.Reads userNode.parts := reads_knowing
  refine ⟨resolveURL_userLink, hreads, ?_⟩
  rw [socks_reimports_iff_of_read parseURL_userLink newFromLink_userLink hreads]
  decide

/-! ### TUIC and WireGuard -/

lemma tuic_reimports_of_isRead {s : Tuic} (hread : s.IsRead) (hlib : lib.Reads s.parts) :
    (tuic s).Reimports lib := by
  have hlink : newFromLink lib (tuic s).scheme (tuic s).exportToURL = .ok (.tuic s) :=
    newFromLink_of_parse rfl (Tuic.parse_string hread hlib)
  exact ⟨_, hlink, fun _ => rfl⟩

lemma wireGuard_reimports_iff_of_isRead {s : WireGuard} (hread : s.IsRead)
    (hlib : lib.Reads s.parts) : (wireGuard s).Reimports lib ↔ 0 ≤ s.keepAlive := by
  have hlink : newFromLink lib (wireGuard s).scheme (wireGuard s).exportToURL =
      .ok (.wireGuard s.readBack) :=
    newFromLink_of_parse rfl (WireGuard.parse_string hread hlib)
  rw [reimports_iff_of_eq hlink, sameConfig_iff_of_ok (fun _ => rfl) (fun _ => rfl)]
  exact WireGuard.nodeConfig_readBack_iff

/-- A TUIC or WireGuard node that was imported has the same outbound after its link was read again if
and only if it is not a WireGuard node with a negative interval. -/
theorem tuic_wireGuard_reimports_iff {x : Node} (h : newFromLink lib name link = .ok x)
    (hkind : (∃ s, x = .tuic s) ∨ ∃ s, x = .wireGuard s) (hlib : x.LinkIsRead lib) :
    x.Reimports lib ↔ ∀ s, x = .wireGuard s → 0 ≤ s.keepAlive := by
  have hread := (isReadFrom_of_newFromLink h).1
  rcases hkind with ⟨s, rfl⟩ | ⟨s, rfl⟩
  · have hre := tuic_reimports_of_isRead (Tuic.isRead_of_parseTuicURL hread) hlib
    exact iff_of_true hre fun _ hs => by cases hs
  · rw [wireGuard_reimports_iff_of_isRead (WireGuard.isRead_of_parseWireGuardURL hread) hlib]
    simp

/-- The components of the link `wireguard://k@h.example:51820?keepAlive=-1`. -/
def keepAliveLink : URL.Parts where
  scheme := "wireguard"
  user := some ⟨"k", none⟩
  hostname := "h.example"
  port := "51820"
  query := [("keepAlive", "-1")]

/-- The node of this link. -/
def keepAliveNode : WireGuard := WireGuard.ofURL keepAliveLink.url 51820

/-- Libraries that read the link of the node and the link that it writes. -/
def keepAliveLibraries : Libraries := .knowing [keepAliveNode.parts, keepAliveLink]

lemma parse_keepAliveLink :
    WireGuard.parseWireGuardURL keepAliveLibraries keepAliveLink.string = .ok keepAliveNode :=
  WireGuard.parseWireGuardURL_eq_ok_iff.mpr
    ⟨_, parseURL_knowing (by decide), 51820, by decide, rfl⟩

lemma newFromLink_keepAliveLink :
    newFromLink keepAliveLibraries "wireguard" keepAliveLink.string =
      .ok (.wireGuard keepAliveNode) :=
  newFromLink_of_parse rfl parse_keepAliveLink

theorem tuic_wireGuard_reimports_iff_keepAliveNode :
    (Node.wireGuard keepAliveNode).Reimports keepAliveLibraries ↔
      ∀ s, Node.wireGuard keepAliveNode = .wireGuard s → 0 ≤ s.keepAlive :=
  tuic_wireGuard_reimports_iff newFromLink_keepAliveLink (.inr ⟨_, rfl⟩) reads_knowing

/-- An interval that is negative is not in the link that the node writes. -/
theorem not_reimports_keepAliveNode :
    newFromLink keepAliveLibraries "wireguard" keepAliveLink.string =
        .ok (.wireGuard keepAliveNode) ∧
      (Node.wireGuard keepAliveNode).LinkIsRead keepAliveLibraries ∧
      ¬(Node.wireGuard keepAliveNode).Reimports keepAliveLibraries := by
  have hreads : keepAliveLibraries.Reads keepAliveNode.parts := reads_knowing
  refine ⟨newFromLink_keepAliveLink, hreads, ?_⟩
  rw [wireGuard_reimports_iff_of_isRead
    (WireGuard.isRead_of_parseWireGuardURL parse_keepAliveLink) hreads]
  decide

end V2rayA
