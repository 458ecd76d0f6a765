import V2rayA.Kernel.ServerObj.V2Ray

/-!
# VMess links

A VMess link is a document of JSON in base64. Older forms of it are read as well, with numbers in
the place of strings, and links in which only the user and the server are in base64. A node is
written in the first form, which has all of its fields, so that it comes back as it was except for
the version of the form (`Vmess.parse_exported`).
-/

namespace V2rayA.Vmess

open List Json

open V2Ray (Number)

/-! ### Documents -/

/-- The fields of a document that are texts. -/
inductive TextField
  | ps | add | port | id | aid | scy | net | type | host | sni | path | tls | fingerprint | pbk
  | sid | spx | flow | alpn | pinnedPeerCertSha256 | verifyPeerCertByName | key | quicSecurity
  | xhttpMode | xhttpHeaders | uplinkHTTPMethod | maxEarlyData | earlyDataHeaderName | multiMode
  | idleTimeout | healthCheckTimeout | permitWithoutStream | initialWindowsSize | v | protocol
  deriving DecidableEq, Repr

/-- The fields of a document. -/
inductive Field
  | text (f : TextField)
  | noGRPCHeader
  | noSSEHeader
  | number (n : Number)
  deriving DecidableEq, Repr

/-- The name of a field that is a text. -/
def TextField.name : TextField → String
  | ps => "ps"
  | add => "add"
  | port => "port"
  | id => "id"
  | aid => "aid"
  | scy => "scy"
  | net => "net"
  | type => "type"
  | host => "host"
  | sni => "sni"
  | path => "path"
  | tls => "tls"
  | fingerprint => "fingerprint"
  | pbk => "pbk"
  | sid => "sid"
  | spx => "spx"
  | flow => "flow"
  | alpn => "alpn"
  | pinnedPeerCertSha256 => "pinnedPeerCertSha256"
  | verifyPeerCertByName => "verifyPeerCertByName"
  | key => "key"
  | quicSecurity => "quicSecurity"
  | xhttpMode => "xhttpMode"
  | xhttpHeaders => "xhttpHeaders"
  | uplinkHTTPMethod => "uplinkHTTPMethod"
  | maxEarlyData => "maxEarlyData"
  | earlyDataHeaderName => "earlyDataHeaderName"
  | multiMode => "multiMode"
  | idleTimeout => "idleTimeout"
  | healthCheckTimeout => "healthCheckTimeout"
  | permitWithoutStream => "permitWithoutStream"
  | initialWindowsSize => "initialWindowsSize"
  | v => "v"
  | protocol => "protocol"

/-- The fields that are written even if they are empty. -/
def TextField.required : List TextField :=
  [ps, add, port, id, aid, scy, net, type, host, path, tls, quicSecurity, v, protocol]

namespace Field

/-- The name of a field. -/
def name : Field → String
  | text f => f.name
  | noGRPCHeader => "noGRPCHeader"
  | noSSEHeader => "noSSEHeader"
  | number n => n.key

/-- Whether a field has the option `omitempty`. -/
def omitEmpty : Field → Bool
  | text f => f ∉ TextField.required
  | _ => true

/-- The fields in the order in which they are written. -/
def all : List Field :=
  [text .ps, text .add, text .port, text .id, text .aid, text .scy, text .net, text .type,
    text .host, text .sni, text .path, text .tls, text .fingerprint, text .pbk, text .sid,
    text .spx, text .flow, text .alpn, text .pinnedPeerCertSha256, text .verifyPeerCertByName,
    text .key, text .quicSecurity, text .xhttpMode, text .xhttpHeaders, noGRPCHeader, noSSEHeader,
    text .uplinkHTTPMethod] ++ Number.all.map number ++
  [text .maxEarlyData, text .earlyDataHeaderName, text .multiMode, text .idleTimeout,
    text .healthCheckTimeout, text .permitWithoutStream, text .initialWindowsSize, text .v,
    text .protocol]

/-- The name of a field in small letters. -/
def lowerName (f : Field) : List Char := f.name.toList.map Char.toLower

/-- The fields in the order of their names in small letters. -/
def sorted : List Field :=
  [text .add, text .aid, text .alpn, text .earlyDataHeaderName, text .fingerprint, text .flow,
    text .healthCheckTimeout, text .host, text .id, text .idleTimeout, text .initialWindowsSize,
    text .key, text .maxEarlyData, text .multiMode, text .net, noGRPCHeader, noSSEHeader,
    text .path, text .pbk, text .permitWithoutStream, text .pinnedPeerCertSha256, text .port,
    text .protocol, text .ps, text .quicSecurity, number .scMaxBufferedPosts,
    number .scMaxEachPostBytesFrom, number .scMaxEachPostBytesTo, number .scMinPostsIntervalFrom,
    number .scMinPostsIntervalTo, number .scStreamUpServerFrom, number .scStreamUpServerTo,
    text .scy, text .sid, text .sni, text .spx, text .tls, text .type, text .uplinkHTTPMethod,
    text .v, text .verifyPeerCertByName, text .xhttpHeaders, text .xhttpMode,
    number .xmuxCMaxReuseFrom, number .xmuxCMaxReuseTo, number .xmuxHKeepAlive,
    number .xmuxHMaxReqFrom, number .xmuxHMaxReqTo, number .xmuxHMaxReusableFrom,
    number .xmuxHMaxReusableTo, number .xmuxMaxConcurFrom, number .xmuxMaxConcurTo,
    number .xmuxMaxConnFrom, number .xmuxMaxConnTo, number .xPaddingBytesFrom,
    number .xPaddingBytesTo]

lemma mem_sorted (f : Field) : f ∈ sorted := by
  cases f with
  | text f => cases f <;> decide
  | number n => cases n <;> decide
  | _ => decide

lemma isChain_sorted : (sorted.map lowerName).IsChain (· < ·) := by decide +kernel

/-- Different fields have different names, whatever the case of the letters. -/
lemma lowerName_injective : Function.Injective lowerName := by
  have hnodup : (sorted.map lowerName).Nodup :=
    (isChain_iff_pairwise.mp isChain_sorted).imp fun h => h.ne
  intro f f' h
  exact inj_on_of_nodup_map hnodup (mem_sorted f) (mem_sorted f') h

lemma mem_all (f : Field) : f ∈ all := by
  cases f with
  | text f => cases f <;> decide
  | number n => cases n <;> decide
  | _ => decide

lemma nodup_all : all.Nodup := by decide +kernel

end Field

/-- The texts of a node. -/
def texts (v : V2Ray) : TextField → String
  | .ps => v.ps
  | .add => v.add
  | .port => v.port
  | .id => v.id
  | .aid => v.aid
  | .scy => v.security
  | .net => v.net
  | .type => v.type
  | .host => v.host
  | .sni => v.sni
  | .path => v.path
  | .tls => v.tls
  | .fingerprint => v.fingerprint
  | .pbk => v.publicKey
  | .sid => v.shortId
  | .spx => v.spiderX
  | .flow => v.flow
  | .alpn => v.alpn
  | .pinnedPeerCertSha256 => v.pinnedPeerCertSha256
  | .verifyPeerCertByName => v.verifyPeerCertByName
  | .key => v.key
  | .quicSecurity => v.quicSecurity
  | .xhttpMode => v.xhttpMode
  | .xhttpHeaders => v.xhttpHeaders
  | .uplinkHTTPMethod => v.uplinkHTTPMethod
  | .maxEarlyData => v.maxEarlyData
  | .earlyDataHeaderName => v.earlyDataHeaderName
  | .multiMode => v.multiMode
  | .idleTimeout => v.idleTimeout
  | .healthCheckTimeout => v.healthCheckTimeout
  | .permitWithoutStream => v.permitWithoutStream
  | .initialWindowsSize => v.initialWindowsSize
  | .v => v.v
  | .protocol => v.protocol.text

/-- A field of a node as a value of a document. -/
def fieldJson (v : V2Ray) : Field → Json
  | .text f => .str (texts v f)
  | .noGRPCHeader => .bool v.noGRPCHeader
  | .noSSEHeader => .bool v.noSSEHeader
  | .number n => .num (v.numbers n)

/-- A node as a document. -/
def document (v : V2Ray) : Json :=
  .struct (Field.all.map fun f => (f.name, f.omitEmpty, fieldJson v f))

/-- The value that an object has for a field: names are compared without regard to case, and the
last one counts. -/
def valueOf (l : List (String × Json)) (f : Field) : Json :=
  ((l.filter fun e => Json.names e.1 f.name).getLast?.map Prod.snd).getD .null

/-- A value that is read into a text. -/
def textOf : Json → Option String
  | .null => some ""
  | .num n => some (toString n)
  | .str s => some s
  | _ => none

/-- A value that is read into a flag. -/
def flagOf : Json → Option Bool
  | .null => some false
  | .bool b => some b
  | _ => none

/-- A value that is read into a number. -/
def numberOf (lib : Libraries) : Json → Option ℤ
  | .null => some 0
  | .bool b => some (if b then 1 else 0)
  | .num n => if Go.IsInt n then some n else none
  | .str s => if s = "" then some 0 else (lib.fuzzyInt s).filter fun n => Go.IsInt n
  | _ => none

/-- Whether a value can be read into a field. -/
def isReadable (lib : Libraries) : Field → Json → Bool
  | .text _, j => (textOf j).isSome
  | .noGRPCHeader, j | .noSSEHeader, j => (flagOf j).isSome
  | .number _, j => (numberOf lib j).isSome

/-- The node that an object is read into, if its fields can be read. -/
def ofFields (lib : Libraries) (l : List (String × Json)) : V2Ray :=
  let text f := (textOf (valueOf l (.text f))).getD ""
  { ps := text .ps
    add := text .add
    port := text .port
    id := text .id
    aid := text .aid
    security := text .scy
    net := text .net
    type := text .type
    host := text .host
    sni := text .sni
    path := text .path
    tls := text .tls
    fingerprint := text .fingerprint
    publicKey := text .pbk
    shortId := text .sid
    spiderX := text .spx
    flow := text .flow
    alpn := text .alpn
    pinnedPeerCertSha256 := text .pinnedPeerCertSha256
    verifyPeerCertByName := text .verifyPeerCertByName
    key := text .key
    quicSecurity := text .quicSecurity
    xhttpMode := text .xhttpMode
    xhttpHeaders := text .xhttpHeaders
    noGRPCHeader := (flagOf (valueOf l .noGRPCHeader)).getD false
    noSSEHeader := (flagOf (valueOf l .noSSEHeader)).getD false
    uplinkHTTPMethod := text .uplinkHTTPMethod
    numbers := fun n => (numberOf lib (valueOf l (.number n))).getD 0
    maxEarlyData := text .maxEarlyData
    earlyDataHeaderName := text .earlyDataHeaderName
    multiMode := text .multiMode
    idleTimeout := text .idleTimeout
    healthCheckTimeout := text .healthCheckTimeout
    permitWithoutStream := text .permitWithoutStream
    initialWindowsSize := text .initialWindowsSize
    v := text .v
    protocol := .vmess }

/-! ### Older documents -/

/-- The conversion of a number of a document to `int64`. -/
def int64Of (n : ℤ) : ℤ := if Go.IsInt n then n else -2 ^ 63

/-- The headers of an array of pairs. A later pair replaces an earlier one of that name. -/
def headersOf (items : List Json) : Go.Map String String :=
  items.foldl (fun headers item =>
    match item.get? "key" with
    | some (.str k) =>
      if k = "" then headers
      else headers.put k (match item.get? "value" with | some (.str value) => value | _ => "")
    | _ => headers) []

/-- A value that was written with another type than that of its field, as the text it should be. -/
def coerceString : Json → Json
  | .bool b => .str (toString b)
  | .arr items =>
    let headers := headersOf items
    .str (if headers = [] then "" else (Json.obj (headers.map fun h => (h.1, .str h.2))).text)
  | .obj fields => .str (if fields = [] then "" else (Json.obj fields).text)
  | j => j

/-- A number as the text it should be. -/
def coerceNumber : Json → Json
  | .num n => .str (toString (int64Of n))
  | j => j

/-- One field of an older document. -/
def normalizeField (e : String × Json) : String × Json :=
  if e.1 ∈ ["xhttpHeaders", "multiMode", "permitWithoutStream"] then (e.1, coerceString e.2)
  else if e.1 ∈ ["port", "aid", "v"] then (e.1, coerceNumber e.2)
  else e

/-- `normalizeVmessFields`. -/
def normalizeVmessFields (l : List (String × Json)) : List (String × Json) := l.map normalizeField

/-- The node of a document. An array stands for an empty object. -/
def ofDocument (lib : Libraries) : Json → Option V2Ray
  | .obj l =>
    let l := normalizeVmessFields l
    if ∀ f ∈ Field.all, isReadable lib f (valueOf l f) then some (ofFields lib l) else none
  | .null | .arr _ => some (ofFields lib [])
  | _ => none

/-! ### Links -/

/-- The body of a link, behind the scheme. -/
def bodyOf (link : String) : String := String.ofList (link.toList.drop 8)

/-- The text that a body is in base64. -/
def decodeBody (body : String) : Option String :=
  (base64Decode .std body).orElse fun _ => base64Decode .url body

/-- Why a link is rejected that is neither a document nor of the older form. -/
def expected : String := "; expected vmess://BASE64(JSON)"

/-- The network of an older link. -/
def legacyNet (obfs : String) : String := if obfs = "websocket" then "ws" else obfs

/-- The seed that an older link has among its parameters. -/
def legacySeed (lib : Libraries) (obfsParam : String) : String :=
  (((lib.parseHeaders obfsParam).getD []).lookup "seed").getD ""

/-- The node of an older link,
`vmess://BASE64(Security:ID@Add:Port)?remarks=Ps&obfsParam=Host&Path=Path&obfs=Net&tls=TLS`. -/
def ofLegacyURL (lib : Libraries) (u : URL) (id add port : String) : V2Ray :=
  let obfs := u.get "obfs"
  let isKcp : Prop := obfs = "kcp" ∨ obfs = "mkcp"
  { id, add, port
    ps := firstNonEmpty [u.get "remarks", u.get "remark"]
    host := if isKcp then "" else u.get "obfsParam"
    path := if isKcp then legacySeed lib (u.get "obfsParam") else u.get "path"
    sni := u.get "sni"
    net := legacyNet obfs
    aid := firstNonEmpty [u.get "alterId", u.get "aid"]
    security := firstNonEmpty [u.get "scy", u.get "security"]
    tls := if u.get "tls" = "1" then "tls" else "" }

/-- The node of an older link. -/
def parseLegacy (lib : Libraries) (link : String) : Except Go.Error V2Ray := do
  let u ← .ofOption (lib.parseURL link) (malformed ("vmess link is not a valid URL" ++
    expected ++ " or vmess://BASE64(security:id@host:port)"))
  let s := (Go.split '?' (bodyOf link)).headD ""
  let (id, add, port) ← .ofOption (lib.vmessGroups ((decodeBody s).getD (Go.trimSpace s)))
    (malformed ("vmess link is neither base64 JSON nor vmess://BASE64(security:id@host:port); " ++
      "check that the whole link was copied"))
  return ofLegacyURL lib u id add port

/-- The node of a link before it is corrected. -/
def parseBody (lib : Libraries) (link : String) : Except Go.Error V2Ray :=
  match decodeBody (bodyOf link) with
  | none => parseLegacy lib link
  | some raw =>
    .ofOption ((lib.parseJSON raw).bind (ofDocument lib))
      (malformed ("vmess link payload is not a JSON object" ++ expected))

/-- Correct a node as much as possible: a path may stand in the place of the host. -/
def correct (v : V2Ray) : V2Ray :=
  let misplaced : Prop := Go.hasPrefix v.host "/" = true ∧ v.path = ""
  { v with
    path := if misplaced then v.host else v.path
    host := if misplaced then "" else v.host
    aid := if v.aid = "" then "0" else v.aid
    protocol := .vmess }

/-- `ParseVmessURL`. -/
def parseVmessURL (lib : Libraries) (link : String) : Except Go.Error V2Ray := do
  .require (link.utf8ByteSize > 8) (malformed "vmess link too short")
  let info ← parseBody lib link
  let _ ← .ofOption (Go.atoi info.port) (malformed
    ("vmess link for " ++ Go.quote info.add ++ " has a missing or invalid port"))
  return correct info

/-- A node as it is written: the version of the form is `2`. -/
def exported (v : V2Ray) : V2Ray := { v with v := "2" }

/-- The link of a node. -/
def exportToURL (v : V2Ray) : String :=
  "vmess://" ++ base64Encode .std (document (exported v)).text

/-! ### Reading a document back -/

section ReadBack

variable {lib : Libraries} {link : String} {v : V2Ray}

/-- Whether a field is written. -/
def isWritten (v : V2Ray) (f : Field) : Bool := !(f.omitEmpty && (fieldJson v f).isZero)

/-- The fields that are written. -/
lemma writtenFields_map (l : List Field) :
    writtenFields (l.map fun f => (f.name, f.omitEmpty, fieldJson v f)) =
      (l.filter (isWritten v)).map fun f => (f.name, fieldJson v f) := by
  induction l with
  | nil => rfl
  | cons f l ih =>
    rw [map_cons, writtenFields, ih]
    by_cases hf : f.omitEmpty = true ∧ (fieldJson v f).isZero = true
    · simp [isWritten, hf]
    · have hw : isWritten v f := by
        rw [isWritten, Bool.not_eq_true', ← Bool.not_eq_true, Bool.and_eq_true]
        exact hf
      rw [if_neg hf, filter_cons_of_pos hw, map_cons]

lemma names_name (f f' : Field) : names f.name f'.name = (f == f') := by
  change decide (f.lowerName = f'.lowerName) = decide (f = f')
  simp [Field.lowerName_injective.eq_iff]

/-- A field that is not written has the value that a missing field is read as. -/
lemma valueOf_map (f : Field) :
    valueOf ((Field.all.filter (isWritten v)).map fun f => (f.name, fieldJson v f)) f =
      if isWritten v f then fieldJson v f else .null := by
  have hone : Field.all.filter (· == f) = [f] := by
    rw [filter_beq, count_eq_one_of_mem Field.nodup_all f.mem_all]
    rfl
  have hfilter : (Field.all.filter (isWritten v)).filter (· == f) =
      if isWritten v f then [f] else [] := by
    rw [filter_comm, hone]
    by_cases hf : isWritten v f <;> simp [hf]
  unfold valueOf
  rw [filter_map]
  simp only [Function.comp_def, names_name, hfilter]
  by_cases hf : isWritten v f <;> simp [hf]

lemma normalizeField_str {e : String} {s : String} : normalizeField (e, .str s) = (e, .str s) := by
  unfold normalizeField
  split_ifs <;> rfl

/-- No field that is not a text had another type in older forms. -/
lemma normalizeField_of_ne {e : String × Json} (h : ∀ f : TextField, e.1 ≠ f.name) :
    normalizeField e = e := by
  have hheaders : e.1 ≠ "xhttpHeaders" := h .xhttpHeaders
  have hmulti : e.1 ≠ "multiMode" := h .multiMode
  have hpermit : e.1 ≠ "permitWithoutStream" := h .permitWithoutStream
  have hport : e.1 ≠ "port" := h .port
  have haid : e.1 ≠ "aid" := h .aid
  have hv : e.1 ≠ "v" := h .v
  simp [normalizeField, hheaders, hmulti, hpermit, hport, haid, hv]

/-- The fields of older forms are left as they are in a document that was written. -/
lemma normalizeVmessFields_map (l : List Field) :
    normalizeVmessFields (l.map fun f => (f.name, fieldJson v f)) =
      l.map fun f => (f.name, fieldJson v f) := by
  have hne {f : Field} {g : TextField} (h : f ≠ .text g) : f.name ≠ g.name := fun hname =>
    h (Field.lowerName_injective (congrArg (fun s => s.toList.map Char.toLower) hname))
  have hfield (f : Field) : normalizeField (f.name, fieldJson v f) = (f.name, fieldJson v f) := by
    cases f with
    | text g => exact normalizeField_str
    | noGRPCHeader => exact normalizeField_of_ne fun g => hne (f := .noGRPCHeader) (by simp)
    | noSSEHeader => exact normalizeField_of_ne fun g => hne (f := .noSSEHeader) (by simp)
    | number n => exact normalizeField_of_ne fun g => hne (f := .number n) (by simp)
  unfold normalizeVmessFields
  rw [map_map]
  exact map_congr_left fun f _ => hfield f

lemma textOf_valueOf (f : TextField) :
    textOf (if isWritten v (.text f) then fieldJson v (.text f) else .null) = some (texts v f) := by
  by_cases hf : isWritten v (.text f)
  · simp [hf, fieldJson, textOf]
  · have hempty : texts v f = "" := by
      simp [isWritten, fieldJson, isZero] at hf
      exact hf.2
    simp [hf, textOf, hempty]

lemma numberOf_valueOf (n : Number) (hn : Go.IsInt (v.numbers n)) :
    numberOf lib (if isWritten v (.number n) then fieldJson v (.number n) else .null) =
      some (v.numbers n) := by
  by_cases hf : isWritten v (.number n)
  · simp [hf, fieldJson, numberOf, hn]
  · have hzero : v.numbers n = 0 := by
      simpa [isWritten, fieldJson, isZero, Field.omitEmpty] using hf
    simp [hf, numberOf, hzero]

lemma flagOf_valueOf {b : Bool} :
    flagOf (if !(true && (bool b).isZero) then bool b else .null) = some b := by
  cases b <;> rfl

/-- The document of a node is read as the node. -/
lemma ofDocument_document (hprotocol : v.protocol = .vmess)
    (hnumbers : ∀ n, Go.IsInt (v.numbers n)) : ofDocument lib (document v) = some v := by
  have hdoc : document v =
      .obj ((Field.all.filter (isWritten v)).map fun f => (f.name, fieldJson v f)) := by
    rw [document, struct, writtenFields_map]
  rw [hdoc, ofDocument, normalizeVmessFields_map]
  set l := (Field.all.filter (isWritten v)).map fun f => (f.name, fieldJson v f) with hl
  have htext (f : TextField) : textOf (valueOf l (.text f)) = some (texts v f) := by
    rw [valueOf_map]
    exact textOf_valueOf f
  have hgrpc : flagOf (valueOf l .noGRPCHeader) = some v.noGRPCHeader := by
    rw [valueOf_map]
    exact flagOf_valueOf
  have hsse : flagOf (valueOf l .noSSEHeader) = some v.noSSEHeader := by
    rw [valueOf_map]
    exact flagOf_valueOf
  have hnumber (n : Number) : numberOf lib (valueOf l (.number n)) = some (v.numbers n) := by
    rw [valueOf_map]
    exact numberOf_valueOf n (hnumbers n)
  have hreadable : ∀ f ∈ Field.all, isReadable lib f (valueOf l f) := by
    intro f _
    cases f with
    | text f => simp [isReadable, htext]
    | noGRPCHeader => simp [isReadable, hgrpc]
    | noSSEHeader => simp [isReadable, hsse]
    | number n => simp [isReadable, hnumber]
  have hnode : ofFields lib l = v := by
    simp only [ofFields, htext, hgrpc, hsse, hnumber, ← hprotocol]
    rfl
  rw [← hnode]
  exact if_pos hreadable

/-- What a node that was read from a link is like. -/
structure IsRead (v : V2Ray) : Prop where
  protocol : v.protocol = .vmess
  port : ∃ port, Go.atoi v.port = some port
  aid : v.aid ≠ ""
  host : ¬(Go.hasPrefix v.host "/" = true ∧ v.path = "")
  numbers : ∀ n, Go.IsInt (v.numbers n)

lemma isInt_numberOf {j : Json} {n : ℤ} (h : numberOf lib j = some n) :
    Go.IsInt n := by
  unfold numberOf at h
  split at h
  · cases h
    decide
  · cases h
    split_ifs <;> decide
  · split_ifs at h with hn
    exact Option.some.inj h ▸ hn
  · split_ifs at h
    · cases h
      decide
    · simpa using (Option.filter_eq_some_iff.mp h).2
  · cases h

lemma isInt_numbers_ofFields (l : List (String × Json)) (n : Number) :
    Go.IsInt ((ofFields lib l).numbers n) := by
  change Go.IsInt ((numberOf lib (valueOf l (.number n))).getD 0)
  cases h : numberOf lib (valueOf l (.number n)) with
  | none => decide
  | some m => exact isInt_numberOf h

lemma isInt_numbers_of_parseBody (h : parseBody lib link = .ok v)
    (n : Number) : Go.IsInt (v.numbers n) := by
  unfold parseBody at h
  split at h
  · -- An older link has no numbers.
    simp only [parseLegacy, Except.bind_eq_ok_iff, pure, Except.pure, Except.ok.injEq] at h
    obtain ⟨u, -, ⟨id, add, port⟩, -, rfl⟩ := h
    exact (by decide : Go.IsInt 0)
  · rw [Except.ofOption_eq_ok_iff, Option.bind_eq_some_iff] at h
    obtain ⟨doc, -, hdoc⟩ := h
    unfold ofDocument at hdoc
    split at hdoc
    · simp only [Option.ite_none_right_eq_some, Option.some.injEq] at hdoc
      exact hdoc.2 ▸ isInt_numbers_ofFields _ n
    · exact Option.some.inj hdoc ▸ isInt_numbers_ofFields _ n
    · exact Option.some.inj hdoc ▸ isInt_numbers_ofFields _ n
    · cases hdoc

lemma isRead_of_parseVmessURL (h : parseVmessURL lib link = .ok v) :
    IsRead v := by
  obtain ⟨-, info, hinfo, hport, hv⟩ : _ ∧ ∃ info, parseBody lib link = .ok info ∧
      (∃ port, Go.atoi info.port = some port) ∧ correct info = v := by
    simpa [parseVmessURL, Except.bind_eq_ok_iff, pure, Except.pure] using h
  subst hv
  refine ⟨rfl, hport, ?_, ?_, fun n => isInt_numbers_of_parseBody hinfo n⟩
  · change (if info.aid = "" then "0" else info.aid) ≠ ""
    split_ifs with haid
    · decide
    · exact haid
  · by_cases hmisplaced : Go.hasPrefix info.host "/" = true ∧ info.path = ""
    · simp only [correct, hmisplaced, and_self, if_true, not_and]
      intro hpre
      exact absurd hpre (by decide)
    · simpa [correct, hmisplaced] using hmisplaced

lemma correct_of_isRead (hv : IsRead v) : correct v = v := by
  have hprotocol := hv.protocol
  simp [correct, hv.host, hv.aid, ← hprotocol]

/-- The library reads a document from its text. -/
def ReadsJSON (lib : Libraries) (doc : Json) : Prop := lib.parseJSON doc.text = some doc

/-- Libraries that read the text of a document. -/
def knowing (doc : Json) : Libraries :=
  { Libraries.knowing [] with parseJSON := fun text => if text = doc.text then some doc else none }

lemma readsJSON_knowing (doc : Json) : ReadsJSON (knowing doc) doc := if_pos rfl

/-- A node comes back from its link as it was, except for the version of the form. -/
lemma parse_exported (hv : IsRead v) (hreads : ReadsJSON lib (document (exported v))) :
    parseVmessURL lib (exportToURL v) = .ok (exported v) := by
  have hlink : (exportToURL v).utf8ByteSize > 8 := by
    have hne : base64Encode .std (document (exported v)).text ≠ "" := by
      intro hempty
      have hdecode := base64Decode_encode .std (document (exported v)).text
      rw [hempty] at hdecode
      have htext : (document (exported v)).text = "" := Option.some.inj (hdecode.symm.trans rfl)
      simp [document, struct, text] at htext
    have hsize : (exportToURL v).utf8ByteSize =
        8 + (base64Encode .std (document (exported v)).text).utf8ByteSize :=
      String.utf8ByteSize_append
    have hpos := Nat.pos_of_ne_zero (mt String.utf8ByteSize_eq_zero_iff.mp hne)
    omega
  have hbody : bodyOf (exportToURL v) = base64Encode .std (document (exported v)).text := by
    simp [bodyOf, exportToURL]
  have hread : IsRead (exported v) := ⟨hv.protocol, hv.port, hv.aid, hv.host, hv.numbers⟩
  have hparse : parseBody lib (exportToURL v) = .ok (exported v) := by
    unfold parseBody decodeBody
    rw [hbody, base64Decode_encode]
    change Except.ofOption ((lib.parseJSON _).bind (ofDocument lib)) _ = _
    rw [hreads, Option.bind_some, ofDocument_document hread.protocol hread.numbers]
    rfl
  obtain ⟨port, hport⟩ := hread.port
  simp [parseVmessURL, hlink, hparse, hport, correct_of_isRead hread, Except.bind_eq_ok_iff, pure,
    Except.pure]

/-- The version of the form is not part of the outbound. -/
lemma nodeConfig_exported (info : PriorInfo) :
    (exported v).nodeConfig lib info = v.nodeConfig lib info := by
  have hnetwork : (exported v).network = v.network := rfl
  have htransport : (exported v).transport lib = v.transport lib := by
    unfold V2Ray.transport
    rw [hnetwork]
    generalize Go.toLower v.network = network
    rfl
  have hsecurity : (exported v).connectionSecurity = v.connectionSecurity := by
    rfl
  unfold V2Ray.nodeConfig
  rw [htransport, hnetwork]
  rfl

end ReadBack

end V2rayA.Vmess
