import V2rayA.Kernel.ServerObj.Basic

/-!
# SOCKS and HTTP proxies

Reading the links of the two proxy protocols, writing them, and the outbounds of their nodes. A link
carries a user name and a password only if there are both, so that a node comes back without its
credentials otherwise (`SOCKS.parse_string`, `HTTP.parse_string`).
-/

namespace V2rayA

open URL (Userinfo Parts)

/-! ### Credentials -/

/-- The user name and the password of a link. -/
def URL.credentials (t : URL) : String × String :=
  let user := t.user.filter fun user => user.string ≠ ""
  (user.elim "" Userinfo.username, (user.bind Userinfo.password).getD "")

/-- The user of a link that is written. -/
def URL.exportedUser (username password : String) : Option Userinfo :=
  if username ≠ "" ∧ password ≠ "" then some ⟨username, some password⟩ else none

lemma URL.Userinfo.string_ne_empty (username password : String) :
    Userinfo.string ⟨username, some password⟩ ≠ "" := by
  intro h
  have hlist := congrArg String.toList h
  simp [Userinfo.string] at hlist

/-- What is read back of a user name and a password. -/
lemma URL.credentials_of_exportedUser {t : URL} {username password : String}
    (h : t.user = URL.exportedUser username password) :
    t.credentials = if username ≠ "" ∧ password ≠ "" then (username, password) else ("", "") := by
  unfold URL.credentials
  rw [h, URL.exportedUser]
  split_ifs with hboth
  · have hfilter : Option.filter (fun user => decide (Userinfo.string user ≠ ""))
        (some ⟨username, some password⟩) = some ⟨username, some password⟩ := by
      simp [URL.Userinfo.string_ne_empty]
    rw [hfilter]
    rfl
  · rfl

/-- The users of a server, as far as they are known by their credentials. -/
def proxyUsers (username password : String) : List OutboundUser :=
  if username = "" then [] else [{ user := username, pass := password }]

lemma proxyUsers_empty_eq_iff {username password : String} :
    proxyUsers "" "" = proxyUsers username password ↔ username = "" := by
  unfold proxyUsers
  split_ifs <;> simp_all

/-! ### Ports -/

/-- The port of a link, and `0` without one. -/
def URL.proxyPort (t : URL) : Option ℤ := if t.port = "" then some 0 else Go.atoi t.port

lemma URL.isInt_of_proxyPort {t : URL} {port : ℤ} (h : t.proxyPort = some port) :
    Go.IsInt port := by
  unfold URL.proxyPort at h
  split_ifs at h
  · cases h
    decide
  · exact Go.isInt_of_atoi h

/-- A port, or the default port in the place of none. -/
lemma defaultPort_ne_zero {port d : ℤ} (hd : d ≠ 0 ∧ Go.IsInt d) (hport : Go.IsInt port) :
    (if port = 0 then d else port) ≠ 0 ∧ Go.IsInt (if port = 0 then d else port) := by
  split_ifs with hzero
  · exact hd
  · exact ⟨hzero, hport⟩

lemma URL.proxyPort_of_toString {t : URL} {port : ℤ} (hport : Go.IsInt port)
    (h : t.port = toString port) : t.proxyPort = some port := by
  have hatoi := Go.atoi_toString hport
  have hne : toString port ≠ "" := by
    intro hempty
    rw [hempty, show Go.atoi "" = none by decide] at hatoi
    cases hatoi
  rw [URL.proxyPort, h, if_neg hne, hatoi]

/-! ### SOCKS -/

namespace SOCKS

/-- The components of the link of a SOCKS node. -/
def parts (h : SOCKS) : Parts where
  scheme := h.protocol
  user := URL.exportedUser h.username h.password
  hostname := h.server
  port := toString h.port
  fragment := h.name

lemma exportToURL_eq (h : SOCKS) : h.exportToURL = h.parts.string := by
  unfold SOCKS.exportToURL Parts.string parts URL.exportedUser
  by_cases hboth : h.username ≠ "" ∧ h.password ≠ ""
  · simp [hboth, Userinfo.string, String.append_assoc]
  · simp [hboth]

/-- The node of a link whose port is known. -/
def ofURL (t : URL) (port : ℤ) : SOCKS where
  name := t.fragment
  server := t.hostname
  port := if t.scheme = "socks5" ∧ port = 0 then 1080 else port
  username := t.credentials.1
  password := t.credentials.2
  protocol := t.scheme

/-- `ParseSocksURL`. -/
def parseSocksURL (lib : Libraries) (link : String) : Except Go.Error SOCKS := do
  let expected := "; expected socks5://[user:pass@]host:port"
  let t ← .ofOption (lib.parseURL link) (malformed ("socks5 link is not a valid URL" ++ expected))
  .require (t.hostname ≠ "") (malformed ("socks5 link has no server address" ++ expected))
  let port ← .ofOption t.proxyPort (malformed
    ("socks5 link for " ++ Go.quote t.hostname ++ " has an invalid port" ++ expected))
  return ofURL t port

/-- `Configuration`. -/
def nodeConfig (h : SOCKS) (info : PriorInfo) : NodeConfig where
  coreOutbound :=
    { tag := info.tag
      protocol := "socks"
      settings :=
        .servers [{ address := h.server, port := h.port,
                    users := proxyUsers h.username h.password }] }
  udpSupport := true

variable {lib : Libraries} {link : String} {h : SOCKS}

/-- A link that is accepted names a server and a port. -/
lemma parseSocksURL_eq_ok_iff :
    parseSocksURL lib link = .ok h ↔
      ∃ t, lib.parseURL link = some t ∧ t.hostname ≠ "" ∧
        ∃ port, t.proxyPort = some port ∧ ofURL t port = h := by
  simp [parseSocksURL, Except.bind_eq_ok_iff, pure, Except.pure]

/-- What comes back of a node: it loses its credentials if one of them is empty. -/
def readBack (h : SOCKS) : SOCKS :=
  if h.username ≠ "" ∧ h.password ≠ "" then h else { h with username := "", password := "" }

lemma parse_string (hserver : h.server ≠ "") (hport : Go.IsInt h.port)
    (hzero : h.protocol = "socks5" → h.port ≠ 0) (hreads : lib.Reads h.parts) :
    parseSocksURL lib h.parts.string = .ok h.readBack := by
  obtain ⟨t, ht, hread⟩ := hreads
  refine parseSocksURL_eq_ok_iff.mpr ⟨t, ht, ?_, h.port, ?_, ?_⟩
  · rw [hread.hostname]
    exact hserver
  · exact URL.proxyPort_of_toString hport hread.port
  · have hcred := URL.credentials_of_exportedUser (t := t) hread.user
    have hdefault : ¬(h.protocol = "socks5" ∧ h.port = 0) := fun hd => hzero hd.1 hd.2
    rw [ofURL, readBack, hcred, hread.scheme, hread.hostname, hread.fragment]
    simp only [parts, hdefault, if_false]
    split_ifs <;> rfl

/-- The outbound of a node that comes back has the users that it had. -/
lemma nodeConfig_readBack_iff :
    (∀ info, h.readBack.nodeConfig info = h.nodeConfig info) ↔ h.username = "" ∨ h.password ≠ "" := by
  unfold readBack
  split_ifs with hcred
  · exact iff_of_true (fun _ => rfl) (.inr hcred.2)
  · have hempty : h.username = "" ∨ h.password ≠ "" ↔ h.username = "" := by tauto
    rw [hempty, ← proxyUsers_empty_eq_iff]
    constructor
    · intro hconfig
      have hsettings := congrArg (fun c => c.coreOutbound.settings) (hconfig { tag := "" })
      simpa [nodeConfig] using hsettings
    · intro husers info
      simp only [nodeConfig, husers]

end SOCKS

/-! ### HTTP -/

/-- An HTTP or HTTPS proxy. -/
structure HTTP where
  name : String := ""
  server : String := ""
  port : ℤ := 0
  username : String := ""
  password : String := ""
  protocol : String := "http"
  deriving DecidableEq, Repr, Inhabited

namespace HTTP

/-- The components of the link of an HTTP node. -/
def parts (h : HTTP) : Parts where
  scheme := h.protocol
  user := URL.exportedUser h.username h.password
  hostname := h.server
  port := toString h.port
  fragment := h.name

/-- `ExportToURL`. -/
def exportToURL (h : HTTP) : String := h.parts.string

/-- The protocol that a scheme stands for, and its port. -/
def protocolOf (scheme : String) (port : ℤ) : String × ℤ :=
  if scheme ∈ ["https-proxy", "https"] then ("https", if port = 0 then 443 else port)
  else if scheme ∈ ["http-proxy", "http"] then ("http", if port = 0 then 80 else port)
  else (scheme, port)

/-- The node of a link whose port is known. -/
def ofURL (t : URL) (port : ℤ) : HTTP where
  name := t.fragment
  server := t.hostname
  port := (protocolOf t.scheme port).2
  username := t.credentials.1
  password := t.credentials.2
  protocol := (protocolOf t.scheme port).1

/-- `ParseHttpURL`. A path or a query shows that the link is the address of a subscription. -/
def parseHttpURL (lib : Libraries) (link : String) : Except Go.Error HTTP := do
  let expected := "; expected http-proxy://[user:pass@]host:port"
  let t ← .ofOption (lib.parseURL link)
    (malformed ("http proxy link is not a valid URL" ++ expected))
  .require ((t.path = "" ∨ t.path = "/") ∧ t.rawQuery = "") (malformed
    ("http proxy link for " ++ Go.quote t.hostname ++ " has a path or query" ++ expected))
  .require (t.hostname ≠ "") (malformed ("http proxy link has no server address" ++ expected))
  let port ← .ofOption t.proxyPort (malformed
    ("http proxy link for " ++ Go.quote t.hostname ++ " has an invalid port" ++ expected))
  return ofURL t port

/-- `Configuration`. -/
def nodeConfig (h : HTTP) (info : PriorInfo) : NodeConfig where
  coreOutbound :=
    { tag := info.tag
      protocol := "http"
      settings :=
        .servers [{ address := h.server, port := h.port,
                    users := proxyUsers h.username h.password }]
      streamSettings :=
        if h.protocol = "https" then
          some { security := "tls", tlsSettings := some { serverName := some h.server } }
        else none }
  udpSupport := false

variable {lib : Libraries} {link : String} {h : HTTP}

/-- A link that is accepted names a server and a port, and nothing behind them. -/
lemma parseHttpURL_eq_ok_iff :
    parseHttpURL lib link = .ok h ↔
      ∃ t, lib.parseURL link = some t ∧ ((t.path = "" ∨ t.path = "/") ∧ t.rawQuery = "") ∧
        t.hostname ≠ "" ∧ ∃ port, t.proxyPort = some port ∧ ofURL t port = h := by
  simp [parseHttpURL, Except.bind_eq_ok_iff, pure, Except.pure]

/-- What comes back of a node: it loses its credentials if one of them is empty. -/
def readBack (h : HTTP) : HTTP :=
  if h.username ≠ "" ∧ h.password ≠ "" then h else { h with username := "", password := "" }

/-- A link for a proxy gives one of two protocols, and a port. -/
lemma protocolOf_mem {scheme : String} {port : ℤ}
    (h : scheme ∈ ["http", "https", "http-proxy", "https-proxy"]) (hport : Go.IsInt port) :
    ((protocolOf scheme port).1 = "http" ∨ (protocolOf scheme port).1 = "https") ∧
      (protocolOf scheme port).2 ≠ 0 ∧ Go.IsInt (protocolOf scheme port).2 := by
  have h80 := defaultPort_ne_zero (d := 80) (by decide) hport
  have h443 := defaultPort_ne_zero (d := 443) (by decide) hport
  simp only [List.mem_cons, List.not_mem_nil, or_false] at h
  rcases h with rfl | rfl | rfl | rfl
  · exact ⟨.inl rfl, h80⟩
  · exact ⟨.inr rfl, h443⟩
  · exact ⟨.inl rfl, h80⟩
  · exact ⟨.inr rfl, h443⟩

/-- A node that was read has a protocol that its own link is read as. -/
lemma protocolOf_of_ne_zero {port : ℤ} {protocol : String} (hport : port ≠ 0)
    (hproto : protocol = "http" ∨ protocol = "https") :
    protocolOf protocol port = (protocol, port) := by
  rcases hproto with rfl | rfl
  · simp [protocolOf, hport]
  · simp [protocolOf, hport]

lemma parse_string (hserver : h.server ≠ "") (hport : Go.IsInt h.port) (hzero : h.port ≠ 0)
    (hproto : h.protocol = "http" ∨ h.protocol = "https") (hreads : lib.Reads h.parts) :
    parseHttpURL lib h.parts.string = .ok h.readBack := by
  obtain ⟨t, ht, hread⟩ := hreads
  refine parseHttpURL_eq_ok_iff.mpr ⟨t, ht, ⟨.inl hread.path, hread.rawQuery rfl⟩, ?_, h.port, ?_, ?_⟩
  · rw [hread.hostname]
    exact hserver
  · exact URL.proxyPort_of_toString hport hread.port
  · have hcred := URL.credentials_of_exportedUser (t := t) hread.user
    rw [ofURL, readBack, hcred, hread.scheme, hread.hostname, hread.fragment]
    simp only [parts, protocolOf_of_ne_zero hzero hproto]
    split_ifs <;> rfl

/-- The outbound of a node that comes back has the users that it had. -/
lemma nodeConfig_readBack_iff :
    (∀ info, h.readBack.nodeConfig info = h.nodeConfig info) ↔ h.username = "" ∨ h.password ≠ "" := by
  unfold readBack
  split_ifs with hcred
  · exact iff_of_true (fun _ => rfl) (.inr hcred.2)
  · have hempty : h.username = "" ∨ h.password ≠ "" ↔ h.username = "" := by tauto
    rw [hempty, ← proxyUsers_empty_eq_iff]
    constructor
    · intro hconfig
      have hsettings := congrArg (fun c => c.coreOutbound.settings) (hconfig { tag := "" })
      simpa [nodeConfig] using hsettings
    · intro husers info
      simp only [nodeConfig, husers]

end HTTP

end V2rayA
