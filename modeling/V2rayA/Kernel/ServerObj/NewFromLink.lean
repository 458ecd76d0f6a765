import V2rayA.Kernel.ServerObj.Linked
import V2rayA.Kernel.ServerObj.Proxy
import V2rayA.Kernel.ServerObj.Shadowsocks
import V2rayA.Kernel.ServerObj.Trojan
import V2rayA.Kernel.ServerObj.Vless
import V2rayA.Kernel.ServerObj.Vmess

/-!
# Nodes of all protocols

`newFromLink` reads the link of a node by the name of its protocol. A node is imported again when it
is copied, probed or pinned, so that its link should be read as a node with the same outbound:
`Node.Reimports`. Whether it is depends on the protocol.
-/

namespace V2rayA

/-- A node of any protocol. -/
inductive Node
  | v2ray (v : V2Ray)
  | shadowsocks (s : Shadowsocks)
  | trojan (t : Trojan)
  | socks (s : SOCKS)
  | http (h : HTTP)
  | tuic (s : Tuic)
  | wireGuard (s : WireGuard)
  | hysteria2 (s : Hysteria2)
  | juicity (s : Juicity)
  | anyTLS (s : AnyTLS)
  | plugin (p : Plugin)

/-- `NewV2Ray`. -/
def newV2Ray (lib : Libraries) (link : String) : Except Go.Error V2Ray :=
  if Go.hasPrefix link "vmess://" then Vmess.parseVmessURL lib link
  else if Go.hasPrefix link "vless://" then Vless.parseVlessURL lib link
  else .error (malformed "expected a link starting with vmess:// or vless://")

/-- The function that is registered for a name. -/
def creator (lib : Libraries) (name link : String) : Option (Except Go.Error Node) :=
  match name with
  | "vmess" | "vless" => some (.v2ray <$> newV2Ray lib link)
  | "shadowsocks" | "ss" => some (.shadowsocks <$> Shadowsocks.parseSSURL lib link)
  | "trojan" | "trojan-go" => some (.trojan <$> Trojan.parseTrojanURL lib link)
  | "socks5" => some (.socks <$> SOCKS.parseSocksURL lib link)
  | "http" | "https" | "http-proxy" | "https-proxy" => some (.http <$> HTTP.parseHttpURL lib link)
  | "tuic" => some (.tuic <$> Tuic.parseTuicURL lib link)
  | "wireguard" => some (.wireGuard <$> WireGuard.parseWireGuardURL lib link)
  | "hysteria2" | "hy2" => some (.hysteria2 <$> Hysteria2.parseHysteria2URL lib link)
  | "juicity" => some (.juicity <$> Juicity.parseJuicityURL lib link)
  | "anytls" => some (.anyTLS <$> AnyTLS.parseAnyTLSURL lib link)
  | "plugin-manager" => some (.plugin <$> Plugin.newPlugin lib link)
  | _ => none

/-- The error of a link that cannot be read, unless it has a code of its own. -/
def codedLinkError (name : String) (err : Go.Error) : Go.Error :=
  if err.code ≠ "" then err
  else
    { text := err.text
      code := "LINK_MALFORMED"
      params := [("protocol", .text name),
        ("detail", .text (Go.trimPrefix err.text "malformed server link: "))] }

/-- The error of a link whose scheme nobody knows. -/
def unsupportedScheme (name text : String) : Go.Error where
  text := text
  code := "LINK_UNSUPPORTED_SCHEME"
  params := [("scheme", .text name)]

/-- `NewFromLink`. -/
def newFromLink (lib : Libraries) (name link : String) : Except Go.Error Node :=
  if name = "ssr" ∨ name = "shadowsocksr" then
    .error (unsupportedScheme name ("ShadowsocksR is not supported; use Shadowsocks, VMess, " ++
      "VLESS or Trojan instead"))
  else
    match creator lib name link with
    | some result => result.mapError (codedLinkError name)
    | none =>
      if lib.pluginManager.isSome then .plugin <$> Plugin.newPlugin lib link
      else
        .error (unsupportedScheme name (Go.quote name ++ " links are not supported; supported " ++
          "schemes: vmess, vless, ss, trojan, trojan-go, socks5, http, https, http-proxy, " ++
          "https-proxy, hysteria2, hy2, tuic, juicity, anytls, wireguard"))

/-- `ResolveURL`: read a link by its scheme. -/
def resolveURL (lib : Libraries) (text : String) : Except Go.Error Node := do
  let link := Go.trimSpace text
  .require (link ≠ "") { text := "link is empty", code := "LINK_EMPTY" }
  let u ← .ofOption (lib.parseURL link) { text := "link is not a valid URL" }
  .require (u.scheme ≠ "")
    { text := "link has no scheme; expected vmess://..., ss://..., trojan://..., or a " ++
        "subscription URL starting with http(s)://"
      code := "LINK_NO_SCHEME" }
  newFromLink lib u.scheme link

/-- A server of a SIP008 document. -/
structure SIP008Server where
  server : String
  serverPort : ℤ
  password : String
  method : String
  plugin : String := ""
  pluginOpts : String := ""
  remarks : String := ""
  deriving DecidableEq, Repr

/-- The link that a server of a SIP008 document is read from. -/
def SIP008Server.parts (s : SIP008Server) : URL.Parts where
  scheme := "ss"
  user := some ⟨s.method, some s.password⟩
  hostname := s.server
  port := toString s.serverPort
  query :=
    URL.Values.setValue [] "plugin"
      (if s.plugin = "" then ""
      else s.plugin ++ if s.pluginOpts = "" then "" else ";" ++ s.pluginOpts)
  fragment := s.remarks

/-- `resolveSIP008`, with the servers of the document. One that cannot be read rejects all. -/
def resolveSIP008 (lib : Libraries) (servers : List SIP008Server) : Except Go.Error (List Node) :=
  servers.mapM fun s => newFromLink lib "shadowsocks" s.parts.string

/-- A node was read from a link, or from a SIP008 document. -/
def IsImported (lib : Libraries) (x : Node) : Prop :=
  (∃ name link, newFromLink lib name link = .ok x) ∨
    ∃ servers nodes, resolveSIP008 lib servers = .ok nodes ∧ x ∈ nodes

namespace Node

/-- The scheme of the link that a node writes. -/
def scheme : Node → String
  | v2ray v => v.protocol.text
  | shadowsocks _ => "ss"
  | trojan t => t.parts.scheme
  | socks s => s.protocol
  | http h => h.protocol
  | tuic _ => "tuic"
  | wireGuard _ => "wireguard"
  | hysteria2 _ => "hysteria2"
  | juicity _ => "juicity"
  | anyTLS _ => "anytls"
  | plugin _ => "plugin-manager"

/-- `ExportToURL`. -/
def exportToURL : Node → String
  | v2ray v =>
    match v.protocol with
    | .vless => (Vless.parts v).string
    | .vmess => Vmess.exportToURL v
  | shadowsocks s => s.exportToURL
  | trojan t => t.exportToURL
  | socks s => s.exportToURL
  | http h => h.exportToURL
  | tuic s => s.exportToURL
  | wireGuard s => s.exportToURL
  | hysteria2 s => s.link
  | juicity s => s.link
  | anyTLS s => s.link
  | plugin p => p.link

/-- `Configuration`. -/
def nodeConfig (lib : Libraries) (info : PriorInfo) : Node → Except Go.Error NodeConfig
  | v2ray v => v.nodeConfig lib info
  | shadowsocks s => s.nodeConfig info
  | trojan t => t.nodeConfig info
  | socks s => .ok (s.nodeConfig info)
  | http h => .ok (h.nodeConfig info)
  | tuic s => .ok (s.nodeConfig info)
  | wireGuard s => .ok (s.nodeConfig info)
  | hysteria2 s => s.nodeConfig lib info
  | juicity s => s.nodeConfig lib info
  | anyTLS s => s.nodeConfig lib info
  | plugin p => p.nodeConfig lib info

/-- Two nodes have the same outbound, or both none. -/
def SameConfig (lib : Libraries) (y x : Node) : Prop :=
  ∀ info, (y.nodeConfig lib info).toOption = (x.nodeConfig lib info).toOption

/-- The link of a node is read as a node with the same outbound. -/
def Reimports (lib : Libraries) (x : Node) : Prop :=
  ∃ y, newFromLink lib x.scheme x.exportToURL = .ok y ∧ SameConfig lib y x

/-- The node is what the function of its protocol reads from a link. -/
def IsReadFrom (lib : Libraries) (link : String) : Node → Prop
  | v2ray v => newV2Ray lib link = .ok v
  | shadowsocks s => Shadowsocks.parseSSURL lib link = .ok s
  | trojan t => Trojan.parseTrojanURL lib link = .ok t
  | socks s => SOCKS.parseSocksURL lib link = .ok s
  | http h => HTTP.parseHttpURL lib link = .ok h
  | tuic s => Tuic.parseTuicURL lib link = .ok s
  | wireGuard s => WireGuard.parseWireGuardURL lib link = .ok s
  | hysteria2 s => Hysteria2.parseHysteria2URL lib link = .ok s
  | juicity s => Juicity.parseJuicityURL lib link = .ok s
  | anyTLS s => AnyTLS.parseAnyTLSURL lib link = .ok s
  | plugin p => Plugin.newPlugin lib link = .ok p

/-- The names under which the function of the protocol is registered. -/
def names : Node → List String
  | v2ray _ => ["vmess", "vless"]
  | shadowsocks _ => ["shadowsocks", "ss"]
  | trojan _ => ["trojan", "trojan-go"]
  | socks _ => ["socks5"]
  | http _ => ["http", "https", "http-proxy", "https-proxy"]
  | tuic _ => ["tuic"]
  | wireGuard _ => ["wireguard"]
  | hysteria2 _ => ["hysteria2", "hy2"]
  | juicity _ => ["juicity"]
  | anyTLS _ => ["anytls"]
  | plugin _ => ["plugin-manager"]

/-- The user name and the password of a proxy. -/
def credentials? : Node → Option (String × String)
  | socks s => some (s.username, s.password)
  | http h => some (h.username, h.password)
  | _ => none

/-- The libraries read what a node writes. -/
def LinkIsRead (lib : Libraries) : Node → Prop
  | v2ray v =>
    match v.protocol with
    | .vless => lib.Reads (Vless.parts v)
    | .vmess => Vmess.ReadsJSON lib (Vmess.document (Vmess.exported v))
  | shadowsocks s => lib.Reads s.parts
  | trojan t => lib.Reads t.parts
  | socks s => lib.Reads s.parts
  | http h => lib.Reads h.parts
  | tuic s => lib.Reads s.parts
  | wireGuard s => lib.Reads s.parts
  | hysteria2 _ | juicity _ | anyTLS _ | plugin _ => True

end Node

/-! ### What a link is read as -/

section Read

variable {lib : Libraries} {name link : String} {x : Node}

/-- What a registered function returns was read by the function of its protocol. -/
lemma isReadFrom_of_creator (h : creator lib name link = some (.ok x)) :
    x.IsReadFrom lib link ∧ name ∈ x.names := by
  unfold creator at h
  split at h
  all_goals
    first
    | cases h
    | obtain ⟨a, ha, rfl⟩ := Except.map_eq_ok_iff.mp (Option.some.inj h)
      exact ⟨ha, by simp [Node.names]⟩

/-- A node that was read from a link was read by the function of its protocol, under a name of that
protocol unless a plugin manager reads it. -/
lemma isReadFrom_of_newFromLink (h : newFromLink lib name link = .ok x) :
    x.IsReadFrom lib link ∧ (name ∈ x.names ∨ ∃ p, x = .plugin p) := by
  unfold newFromLink at h
  by_cases hssr : name = "ssr" ∨ name = "shadowsocksr"
  · rw [if_pos hssr] at h
    cases h
  · rw [if_neg hssr] at h
    cases hcreator : creator lib name link with
    | some result =>
      simp only [hcreator] at h
      rw [Except.mapError_eq_ok_iff.mp h] at hcreator
      exact (isReadFrom_of_creator hcreator).imp_right .inl
    | none =>
      simp only [hcreator] at h
      split_ifs at h
      obtain ⟨p, hp, rfl⟩ := Except.map_eq_ok_iff.mp h
      exact ⟨hp, .inr ⟨p, rfl⟩⟩

/-- A node that the function for a name reads is what the link is read as. -/
lemma newFromLink_of_parse {α : Type} {f : α → Node} {parsed : Except Go.Error α} {a : α}
    (h : creator lib name link = some (f <$> parsed)) (hparse : parsed = .ok a) :
    newFromLink lib name link = .ok (f a) := by
  have hssr : ¬(name = "ssr" ∨ name = "shadowsocksr") := by
    rintro (rfl | rfl) <;> simp [creator] at h
  unfold newFromLink
  rw [if_neg hssr, h, hparse]
  rfl

/-- A node of a SIP008 document was read from a link as well. -/
lemma exists_isReadFrom_of_isImported (h : IsImported lib x) : ∃ link, x.IsReadFrom lib link := by
  rcases h with ⟨name, link, hlink⟩ | ⟨servers, nodes, hnodes, hx⟩
  · exact ⟨link, (isReadFrom_of_newFromLink hlink).1⟩
  · obtain ⟨s, -, hs⟩ := (List.mapM_eq_ok_iff.mp hnodes).exists_of_mem_right hx
    exact ⟨_, (isReadFrom_of_newFromLink hs).1⟩

lemma resolveURL_eq_ok {text : String} (h : resolveURL lib text = .ok x) :
    ∃ link u, lib.parseURL link = some u ∧ newFromLink lib u.scheme link = .ok x := by
  simp only [resolveURL, Except.bind_eq_ok_iff, Except.ofOption_eq_ok_iff] at h
  obtain ⟨-, -, u, hu, -, -, hx⟩ := h
  exact ⟨_, u, hu, hx⟩

end Read

end V2rayA
