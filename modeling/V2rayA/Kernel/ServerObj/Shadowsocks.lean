import V2rayA.Kernel.ServerObj.Basic

/-!
# Shadowsocks nodes

A Shadowsocks link has the cipher and the password in the place of the user, in base64 or not, and
it may name a plugin with options. The options stand in one parameter as `key=value` pairs between
semicolons. A value that was read has neither of these characters, so that the options come back
as they were (`Sip003.parse_string`), and with them the outbound (`Shadowsocks.nodeConfig_readBack`).
-/

namespace V2rayA

open List

open URL (Userinfo Parts Values)

/-! ### Plugins -/

/-- The options of a plugin. -/
structure Sip003Opts where
  tls : String := ""
  obfs : String := ""
  host : String := ""
  path : String := ""
  impl : String := ""
  deriving DecidableEq, Repr, Inhabited

/-- A plugin with its options. -/
structure Sip003 where
  name : String := ""
  opts : Sip003Opts := {}
  deriving DecidableEq, Repr, Inhabited

namespace Sip003

/-- A path with a slash in front. -/
def absolutePath (path : String) : String := if Go.hasPrefix path "/" then path else "/" ++ path

/-- Take over the value of one option. -/
def setOption (opts : Sip003Opts) (key value : String) : Sip003Opts :=
  match key with
  | "tls" => { opts with tls := "tls" }
  | "obfs" | "mode" => { opts with obfs := value }
  | "obfs-path" | "obfs-uri" | "path" => { opts with path := absolutePath value }
  | "obfs-host" | "host" => { opts with host := value }
  | "impl" => { opts with impl := value }
  | _ => opts

/-- Read one option. What stands behind a second `=` is not read. -/
def readOption (opts : Sip003Opts) (field : String) : Sip003Opts :=
  let a := Go.split '=' field
  setOption opts (a.headD "") (a.getD 1 "")

/-- `ParseSip003Opts`. -/
def parseSip003Opts (opts : String) : Sip003Opts := (Go.split ';' opts).foldl readOption {}

/-- The name of a plugin under which the program knows it. -/
def pluginName (name : String) : String :=
  if name = "obfs-local" ∨ name = "simpleobfs" then "simple-obfs" else name

/-- `ParseSip003`. -/
def parseSip003 (plugin : String) : Sip003 :=
  match Go.cut ';' plugin with
  | some (name, opts) => ⟨pluginName name, parseSip003Opts opts⟩
  | none => ⟨pluginName plugin, {}⟩

/-- An option, if it is set. -/
def option (key value : String) : List String :=
  if value = "" then [] else [key ++ String.singleton '=' ++ value]

/-- The options of a plugin as they are written. -/
def options (p : Sip003) : List String :=
  match p.name with
  | "simple-obfs" =>
    option "obfs" p.opts.obfs ++ option "obfs-host" p.opts.host ++
      option "obfs-uri" p.opts.path ++ option "impl" p.opts.impl
  | "v2ray-plugin" =>
    (if p.opts.tls = "" then [] else ["tls"]) ++ option "mode" p.opts.obfs ++
      option "host" p.opts.host ++ option "path" p.opts.path ++ option "impl" p.opts.impl
  | _ => []

/-- `Sip003.String`. -/
def string (p : Sip003) : String := String.intercalate ";" (p.name :: p.options)

/-! What the options that were read are like -/

/-- A value that can stand in the list of options. -/
def IsPlain (value : String) : Prop := ';' ∉ value.toList ∧ '=' ∉ value.toList

instance (value : String) : Decidable (IsPlain value) := inferInstanceAs (Decidable (_ ∧ _))

/-- What options that were read are like. -/
structure OptsRead (opts : Sip003Opts) : Prop where
  tls : opts.tls = "" ∨ opts.tls = "tls"
  obfs : IsPlain opts.obfs
  host : IsPlain opts.host
  path : IsPlain opts.path
  absolute : opts.path = "" ∨ Go.hasPrefix opts.path "/" = true
  impl : IsPlain opts.impl

lemma isPlain_empty : IsPlain "" := by simp [IsPlain]

lemma isPlain_absolutePath {path : String} (h : IsPlain path) : IsPlain (absolutePath path) := by
  unfold absolutePath
  split_ifs
  · exact h
  · simpa [IsPlain] using h

lemma hasPrefix_absolutePath (path : String) : Go.hasPrefix (absolutePath path) "/" := by
  unfold absolutePath
  split_ifs with h
  · exact h
  · simp [Go.hasPrefix]

variable {key value : String} {opts : Sip003Opts}

lemma optsRead_setOption (h : OptsRead opts) (hvalue : IsPlain value) :
    OptsRead (setOption opts key value) := by
  have hpath := isPlain_absolutePath hvalue
  have hpre := hasPrefix_absolutePath value
  obtain ⟨htls, hobfs, hhost, hold, habsolute, himpl⟩ := h
  unfold setOption
  split
  · exact ⟨.inr rfl, hobfs, hhost, hold, habsolute, himpl⟩
  iterate 2 exact ⟨htls, hvalue, hhost, hold, habsolute, himpl⟩
  iterate 3 exact ⟨htls, hobfs, hhost, hpath, .inr hpre, himpl⟩
  iterate 2 exact ⟨htls, hobfs, hvalue, hold, habsolute, himpl⟩
  · exact ⟨htls, hobfs, hhost, hold, habsolute, hvalue⟩
  · exact ⟨htls, hobfs, hhost, hold, habsolute, himpl⟩

/-- One more option keeps the values free of separators. -/
lemma optsRead_readOption {field : String} (h : OptsRead opts) (hfield : ';' ∉ field.toList) :
    OptsRead (readOption opts field) := by
  refine optsRead_setOption h ?_
  rw [getD_eq_getElem?_getD]
  cases hget : (Go.split '=' field)[1]? with
  | none => exact isPlain_empty
  | some part =>
    have hmem := mem_of_getElem? hget
    exact ⟨Go.notMem_of_mem_split hmem (.inr hfield), Go.notMem_of_mem_split hmem (.inl rfl)⟩

lemma optsRead_default : OptsRead {} :=
  ⟨.inl rfl, isPlain_empty, isPlain_empty, isPlain_empty, .inl rfl, isPlain_empty⟩

/-- Values that were read have no separators, whatever the text was. -/
lemma optsRead_parseSip003Opts (opts : String) : OptsRead (parseSip003Opts opts) := by
  have hfold (l : List String) (o : Sip003Opts) (ho : OptsRead o)
      (hl : ∀ field ∈ l, ';' ∉ field.toList) : OptsRead (l.foldl readOption o) := by
    induction l generalizing o with
    | nil => exact ho
    | cons field l ih =>
      exact ih _ (optsRead_readOption ho (hl field mem_cons_self))
        fun f hf => hl f (mem_cons_of_mem field hf)
  exact hfold _ _ optsRead_default fun field hf => Go.notMem_of_mem_split hf (.inl rfl)

/-- What a plugin that was read is like. -/
structure IsRead (p : Sip003) : Prop where
  name : ';' ∉ p.name.toList
  renamed : pluginName p.name = p.name
  opts : OptsRead p.opts

lemma isRead_default : IsRead {} := ⟨by simp, by simp [pluginName], optsRead_default⟩

lemma pluginName_pluginName (name : String) :
    pluginName (pluginName name) = pluginName name := by
  unfold pluginName
  split_ifs <;> simp_all

lemma notMem_pluginName {name : String} (h : ';' ∉ name.toList) :
    ';' ∉ (pluginName name).toList := by
  unfold pluginName
  split_ifs
  · decide
  · exact h

lemma isRead_parseSip003 (plugin : String) : IsRead (parseSip003 plugin) := by
  unfold parseSip003
  split
  next name opts hcut =>
    exact ⟨notMem_pluginName (Go.notMem_of_cut hcut), pluginName_pluginName name,
      optsRead_parseSip003Opts opts⟩
  next hcut =>
    exact ⟨notMem_pluginName (Go.notMem_of_cut_eq_none hcut), pluginName_pluginName plugin,
      optsRead_default⟩

/-! Reading options back -/

/-- What comes back of a plugin: the options that it knows. -/
def readBack (p : Sip003) : Sip003 :=
  match p.name with
  | "simple-obfs" => { p with opts := { p.opts with tls := "" } }
  | "v2ray-plugin" => p
  | _ => { p with opts := {} }

/-- Reading one option that was written. -/
lemma readOption_append (hkey : '=' ∉ key.toList) (hvalue : IsPlain value) :
    readOption opts (key ++ String.singleton '=' ++ value) = setOption opts key value := by
  unfold readOption
  rw [Go.split_append hkey, Go.split_of_notMem hvalue.2]
  rfl

lemma foldl_option (hkey : '=' ∉ key.toList) (hvalue : IsPlain value) :
    (option key value).foldl readOption opts =
      if value = "" then opts else setOption opts key value := by
  unfold option
  split_ifs
  · rfl
  · exact readOption_append hkey hvalue

/-- An option that is not written is one that is not set. -/
lemma foldl_option_of_eq {a b : Sip003Opts} (hkey : '=' ∉ key.toList) (hvalue : IsPlain value)
    (hset : value ≠ "" → setOption a key value = b) (hempty : value = "" → a = b) :
    (option key value).foldl readOption a = b := by
  rw [foldl_option hkey hvalue]
  split_ifs with h
  · exact hempty h
  · exact hset h

variable {p : Sip003}

/-- Reading the options that were written gives what the plugin knows of them. -/
lemma foldl_options (h : OptsRead p.opts) :
    p.options.foldl readOption {} = p.readBack.opts := by
  obtain ⟨name, tls, obfs, host, path, impl⟩ := p
  have habsolute (hne : path ≠ "") : absolutePath path = path :=
    if_pos (h.absolute.resolve_left hne)
  unfold options readBack
  split
  · -- One option after the other, with the fields that are read so far.
    rw [foldl_append, foldl_append, foldl_append,
      foldl_option_of_eq (b := { obfs }) (by decide) h.obfs (fun _ => rfl) (by simp +contextual),
      foldl_option_of_eq (b := { obfs, host }) (by decide) h.host (fun _ => rfl)
        (by simp +contextual),
      foldl_option_of_eq (b := { obfs, host, path }) (by decide) h.path
        (fun hne => by simp [setOption, habsolute hne]) (by simp +contextual)]
    exact foldl_option_of_eq (by decide) h.impl (fun _ => rfl) (by simp +contextual)
  · have htls : (if tls = "" then [] else ["tls"]).foldl readOption {} = { tls } := by
      rcases h.tls with rfl | rfl
      · rfl
      · decide
    rw [foldl_append, foldl_append, foldl_append, foldl_append, htls,
      foldl_option_of_eq (b := { tls, obfs }) (by decide) h.obfs (fun _ => rfl)
        (by simp +contextual),
      foldl_option_of_eq (b := { tls, obfs, host }) (by decide) h.host (fun _ => rfl)
        (by simp +contextual),
      foldl_option_of_eq (b := { tls, obfs, host, path }) (by decide) h.path
        (fun hne => by simp [setOption, habsolute hne]) (by simp +contextual)]
    exact foldl_option_of_eq (by decide) h.impl (fun _ => rfl) (by simp +contextual)
  · rfl

lemma notMem_option {key value field : String} (hkey : ';' ∉ key.toList)
    (hvalue : IsPlain value) (h : field ∈ option key value) : ';' ∉ field.toList := by
  unfold option at h
  split_ifs at h
  · cases h
  · obtain rfl := mem_singleton.mp h
    simp [hkey, hvalue.1]

lemma notMem_options (h : OptsRead p.opts) {field : String} (hfield : field ∈ p.options) :
    ';' ∉ field.toList := by
  unfold options at hfield
  split at hfield
  · simp only [mem_append] at hfield
    rcases hfield with ((hf | hf) | hf) | hf
    · exact notMem_option (by decide) h.obfs hf
    · exact notMem_option (by decide) h.host hf
    · exact notMem_option (by decide) h.path hf
    · exact notMem_option (by decide) h.impl hf
  · simp only [mem_append] at hfield
    rcases hfield with (((hf | hf) | hf) | hf) | hf
    · split_ifs at hf
      · cases hf
      · obtain rfl := mem_singleton.mp hf
        decide
    · exact notMem_option (by decide) h.obfs hf
    · exact notMem_option (by decide) h.host hf
    · exact notMem_option (by decide) h.path hf
    · exact notMem_option (by decide) h.impl hf
  · cases hfield

lemma readBack_eq (h : OptsRead p.opts) :
    p.readBack = ⟨p.name, p.options.foldl readOption {}⟩ := by
  rw [foldl_options h]
  unfold readBack
  split <;> rfl

/-- A plugin that was read comes back with the options that it knows. -/
lemma parse_string (h : p.IsRead) : parseSip003 p.string = p.readBack := by
  rw [readBack_eq h.opts]
  have hfields := fun field => @notMem_options p h.opts field
  unfold string parseSip003
  cases hoptions : p.options with
  | nil =>
    have hname : String.intercalate ";" [p.name] = p.name := rfl
    rw [hname, Go.cut_of_notMem h.name]
    exact congrArg (Sip003.mk · {}) h.renamed
  | cons field fields =>
    rw [hoptions] at hfields
    have htext : String.intercalate ";" (p.name :: field :: fields) =
        p.name ++ String.singleton ';' ++ String.intercalate ";" (field :: fields) := by
      apply String.toList_inj.mp
      simp
    have hsplit : Go.split ';' (String.intercalate ";" (field :: fields)) = field :: fields :=
      Go.split_intercalate hfields (cons_ne_nil _ _)
    rw [htext, Go.cut_append h.name]
    change Sip003.mk (pluginName p.name) (parseSip003Opts _) = _
    rw [h.renamed, parseSip003Opts, hsplit]

end Sip003

/-! ### Nodes -/

/-- A Shadowsocks server. -/
structure Shadowsocks where
  name : String := ""
  server : String := ""
  port : ℤ := 0
  password : String := ""
  cipher : String := ""
  plugin : Sip003 := {}
  backend : String := ""
  deriving DecidableEq, Repr, Inhabited

namespace Shadowsocks

/-- The cipher and the password of a link, with a colon between them. -/
def userOf (u : URL) : Option String :=
  u.user.map fun user =>
    match user.password with
    | some password => user.username ++ ":" ++ password
    | none =>
      ((base64Decode .url user.username).orElse fun _ =>
        base64Decode .std user.username).getD user.username

/-- Read a text of the form `ss://BASE64(method:password)@server:port/?plugin=xxxx#name`. -/
def parse (lib : Libraries) (content : String) : Option Shadowsocks := do
  let u ← lib.parseURL content
  let username ← userOf u
  let (cipher, password) ← Go.cut ':' username
  let port ← Go.atoi u.port
  return {
    cipher := Go.toLower cipher
    password
    server := u.hostname
    port
    name := u.fragment
    plugin := if u.get "plugin" = "" then {} else Sip003.parseSip003 (u.get "plugin")
    backend := u.get "v2raya-backend" }

/-- The ciphers that the core knows. -/
def supportedCiphers : List String :=
  ["aes-128-gcm", "aes-256-gcm", "chacha20-poly1305", "chacha20-ietf-poly1305",
    "xchacha20-poly1305", "xchacha20-ietf-poly1305", "aead_aes_128_gcm", "aead_aes_256_gcm",
    "aead_chacha20_poly1305", "aead_xchacha20_poly1305", "2022-blake3-aes-128-gcm",
    "2022-blake3-aes-256-gcm", "2022-blake3-chacha20-poly1305"]

/-- `ssCipherSupported`. -/
def ssCipherSupported (cipher : String) : Prop := cipher ∈ supportedCiphers

instance (cipher : String) : Decidable (ssCipherSupported cipher) :=
  inferInstanceAs (Decidable (_ ∈ _))

/-- The two forms of a link with the cipher and the password. -/
def expected : String :=
  "; expected ss://BASE64(method:password)@host:port or ss://method:password@host:port"

/-- The text that a link is whose whole body is in base64. -/
def decodedContent (link : String) : Except Go.Error String := do
  .require (link.utf8ByteSize > 5) (malformed "ss link too short")
  let body := String.ofList (link.toList.drop 5)
  let (l, r) := (Go.cut '#' body).getD (body, "")
  let text ← .ofOption ((base64Decode .std l).orElse fun _ => base64Decode .url l)
    (malformed ("ss link userinfo is not base64(method:password)" ++ expected))
  return "ss://" ++ text ++ if r = "" then "" else "#" ++ r

/-- Read a link, after decoding it if it cannot be read as it is. -/
def parseContent (lib : Libraries) (link : String) : Except Go.Error Shadowsocks :=
  match parse lib link with
  | some v => .ok v
  | none => do
    let content ← decodedContent link
    .ofOption (parse lib content)
      (malformed ("ss link payload is not method:password@host:port" ++ expected))

/-- `ParseSSURL`. -/
def parseSSURL (lib : Libraries) (link : String) : Except Go.Error Shadowsocks := do
  let v ← parseContent lib link
  .require (ssCipherSupported v.cipher)
    { text := "cipher " ++ Go.quote v.cipher ++ " is not supported by the core; use " ++
        "aes-128-gcm, aes-256-gcm, chacha20-ietf-poly1305, xchacha20-ietf-poly1305 or a " ++
        "2022-blake3 method"
      code := "LINK_UNSUPPORTED_CIPHER"
      params := [("cipher", .text v.cipher)] }
  return v

/-- The components of a link. -/
def parts (s : Shadowsocks) : Parts where
  scheme := "ss"
  user := some ⟨base64Encode .url (s.cipher ++ ":" ++ s.password), none⟩
  hostname := s.server
  port := toString s.port
  query :=
    Values.setAll [] [("plugin", if s.plugin.name = "" then "" else s.plugin.string),
      ("v2raya-backend", s.backend)]
  fragment := s.name

/-- `ExportToURL`. -/
def exportToURL (s : Shadowsocks) : String := s.parts.string

/-! ### The outbound -/

/-- The browsers that a connection in disguise names. -/
def userAgents : List String :=
  ["Mozilla/5.0 (Windows NT 10.0; WOW64) AppleWebKit/527.36 (KHTML, like Gecko) " ++
      "Chrome/55.2883.75 Safari/537.36",
    "Mozilla/5.0 (iPhone; CPU iPhone OS 10_0_2 like Mac OS X) AppleWebKit/601.1 " ++
      "(KHTML, like Gecko) CriOS/53.0.2785.109 Mobile/14A456 Safari/601.46"]

/-- How the traffic of a plugin is carried. -/
def pluginSettings (plugin : Sip003) :
    Except Go.Error (Option CoreObj.StreamSettings × Option Mux) :=
  let host := if plugin.opts.host = "" then "cloudflare.com" else plugin.opts.host
  let path := Sip003.absolutePath plugin.opts.path
  match plugin.name with
  | "simple-obfs" =>
    match plugin.opts.obfs with
    | "http" =>
      .ok (some
        { network := "tcp"
          tcpSettings := some
            { request :=
                { path := Go.split ',' path
                  host := Go.split ',' host
                  userAgent := userAgents } } }, none)
    | "tls" =>
      .ok (some { security := "tls", tlsSettings := some { serverName := some host } }, none)
    | obfs => .error { text := "unsupported obfs " ++ obfs ++ " of plugin " ++ plugin.name }
  | "v2ray-plugin" =>
    if plugin.opts.obfs = "quic" then .error { text := "quic is not yet supported" }
    else
      let carried : CoreObj.StreamSettings := { network := "ws", wsSettings := some { path, host } }
      .ok (some (if plugin.opts.tls = "tls" then
          { carried with security := "tls", tlsSettings := some { serverName := some host } }
        else carried), some { enabled := true, concurrency := 1 })
  | "" => .ok (none, none)
  | name => .error { text := "unsupported plugin " ++ name }

/-- `Configuration`. -/
def nodeConfig (s : Shadowsocks) (info : PriorInfo) : Except Go.Error NodeConfig := do
  let (streamSettings, mux) ← pluginSettings s.plugin
  return {
    coreOutbound :=
      { tag := info.tag
        protocol := "shadowsocks"
        settings := .servers [{ address := s.server, port := s.port, method := s.cipher,
                                password := s.password }]
        streamSettings, mux }
    udpSupport := true }

/-! ### Reading a link back -/

variable {lib : Libraries} {link : String} {s : Shadowsocks}

/-- What a node that was read from a link is like. -/
structure IsRead (s : Shadowsocks) : Prop where
  cipher : ssCipherSupported s.cipher
  port : Go.IsInt s.port
  plugin : s.plugin.IsRead

lemma isRead_of_parse {content : String} (h : parse lib content = some s) :
    Go.IsInt s.port ∧ s.plugin.IsRead := by
  simp only [parse, Option.bind_eq_bind, Option.bind_eq_some_iff, pure, Option.some.injEq] at h
  obtain ⟨u, -, username, -, ⟨cipher, password⟩, -, port, hport, rfl⟩ := h
  refine ⟨Go.isInt_of_atoi hport, ?_⟩
  split_ifs
  · exact Sip003.isRead_default
  · exact Sip003.isRead_parseSip003 _

lemma isRead_of_parseSSURL (h : parseSSURL lib link = .ok s) : s.IsRead := by
  obtain ⟨v, hv, -, hcipher, hs⟩ : ∃ v, parseContent lib link = .ok v ∧
      ∃ u : Unit, ssCipherSupported v.cipher ∧ v = s := by
    simpa [parseSSURL, Except.bind_eq_ok_iff, pure, Except.pure] using h
  subst hs
  have hparse : ∃ content, parse lib content = some v := by
    unfold parseContent at hv
    split at hv
    next v' hv' =>
      cases hv
      exact ⟨link, hv'⟩
    next =>
      obtain ⟨content, -, hcontent⟩ := Except.bind_eq_ok_iff.mp hv
      exact ⟨content, Except.ofOption_eq_ok_iff.mp hcontent⟩
  obtain ⟨content, hcontent⟩ := hparse
  obtain ⟨hport, hplugin⟩ := isRead_of_parse hcontent
  exact ⟨hcipher, hport, hplugin⟩

/-- What comes back of a node. -/
def readBack (s : Shadowsocks) : Shadowsocks :=
  { s with plugin := if s.plugin.name = "" then {} else s.plugin.readBack }

/-- The name of a cipher is written in small letters and without a colon. -/
lemma toLower_of_supported {cipher : String} (h : ssCipherSupported cipher) :
    Go.toLower cipher = cipher ∧ ':' ∉ cipher.toList := by
  have hall : ∀ c ∈ supportedCiphers, Go.toLower c = c ∧ ':' ∉ c.toList := by decide +kernel
  exact hall cipher h

/-- The text of a plugin begins with its name. -/
lemma string_ne_empty {p : Sip003} (h : p.name ≠ "") : p.string ≠ "" := by
  intro hempty
  have hlist := congrArg String.toList hempty
  cases hoptions : p.options with
  | nil =>
    rw [Sip003.string, hoptions] at hempty
    exact h hempty
  | cons field fields =>
    simp [Sip003.string, hoptions] at hlist

lemma parse_string (hs : s.IsRead) (hreads : lib.Reads s.parts) :
    parseSSURL lib s.parts.string = .ok s.readBack := by
  obtain ⟨u, hu, hread⟩ := hreads
  obtain ⟨hlower, hcolon⟩ := toLower_of_supported hs.cipher
  have huser : userOf u = some (s.cipher ++ String.singleton ':' ++ s.password) := by
    rw [userOf, hread.user]
    change some (((base64Decode .url (base64Encode .url _)).orElse _).getD _) = _
    rw [base64Decode_encode]
    rfl
  have hplugin : (if u.get "plugin" = "" then {} else Sip003.parseSip003 (u.get "plugin")) =
      s.readBack.plugin := by
    have hget : u.get "plugin" = if s.plugin.name = "" then "" else s.plugin.string := by
      rw [hread.get]
      simp [parts]
    rw [hget]
    by_cases hname : s.plugin.name = ""
    · simp [hname, readBack]
    · simp [hname, readBack, string_ne_empty hname, Sip003.parse_string hs.plugin]
  have hbackend : u.get "v2raya-backend" = s.backend := by
    rw [hread.get]
    simp [parts]
  have hport : Go.atoi u.port = some s.port := by
    rw [hread.port]
    exact Go.atoi_toString hs.port
  have hparse : parse lib s.parts.string = some s.readBack := by
    simp only [parse, hu, huser, Go.cut_append hcolon, hport, hplugin, hbackend, hread.hostname,
      hread.fragment, hlower, Option.bind_eq_bind, Option.bind_some]
    rfl
  have hcipher : ssCipherSupported s.readBack.cipher := hs.cipher
  simp [parseSSURL, parseContent, hparse, Except.bind_eq_ok_iff, hcipher, pure, Except.pure]

/-- The outbound of a node that is read back is the same. -/
lemma nodeConfig_readBack (info : PriorInfo) : s.readBack.nodeConfig info = s.nodeConfig info := by
  have hsettings : pluginSettings s.readBack.plugin = pluginSettings s.plugin := by
    -- The options that do not come back are those that the plugin does not read.
    change pluginSettings (if s.plugin.name = "" then {} else s.plugin.readBack) = _
    obtain ⟨name, opts⟩ := s.plugin
    unfold Sip003.readBack pluginSettings
    by_cases hempty : name = ""
    · simp [hempty]
    · by_cases hsimple : name = "simple-obfs"
      · simp [hsimple]
      · by_cases hv2ray : name = "v2ray-plugin"
        · simp [hv2ray]
        · simp [hempty]
  unfold nodeConfig
  rw [hsettings]
  rfl

end Shadowsocks

end V2rayA
