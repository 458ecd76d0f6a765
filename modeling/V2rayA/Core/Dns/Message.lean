import V2rayA.Core.Dns.Rule

/-!
# DNS messages

Messages as `miekg/dns` holds them in memory, as far as the module looks at them: the header, the
question, and the records with the options of EDNS. A packed message is given by what is read from
it again and by its size (`Msg.pack`, `Msg.unpack`).

* `isEdns0_modifyEdns0`: changing the OPT record of a message.
* `pack_eq_some_iff`: a response code above 15 needs an OPT record.
-/

namespace V2rayA.Dns

open List

/-! ### Records -/

/-- `dns.Question`. -/
structure Question where
  name : String
  qtype : ℕ
  qclass : ℕ
  deriving DecidableEq, Repr

/-- An option of EDNS. -/
inductive EdnsOption
  /-- An option in the range for local use. -/
  | local (code : ℕ) (data : List UInt8)
  /-- The subnet of a client, with the bytes of the address that are sent. -/
  | subnet (family netmask scope : ℕ) (address : List UInt8)
  | other (code : ℕ) (data : List UInt8)
  deriving DecidableEq, Repr

/-- The number of bytes of an option. -/
def EdnsOption.size : EdnsOption → ℕ
  | .local _ data => 4 + data.length
  | .subnet _ _ _ address => 8 + address.length
  | .other _ data => 4 + data.length

/-- The pseudo record of EDNS. -/
structure OPT where
  udpSize : ℕ
  /-- The upper bits of the response code. -/
  extendedRcode : ℕ := 0
  /-- The client wants signatures. -/
  dnssecOk : Bool := false
  options : List EdnsOption := []
  deriving DecidableEq, Repr

/-- A resource record. -/
inductive RR
  | opt (o : OPT)
  | record (name : String) (rrtype rrclass ttl : ℕ) (data : List UInt8)
  deriving DecidableEq, Repr

/-- The number of bytes of a name that has no escapes and ends in a dot. -/
def nameSize (name : String) : ℕ := if name = "." then 1 else name.utf8ByteSize + 1

namespace RR

/-- `dns.TypeOPT`. -/
def typeOPT : ℕ := 41

/-- `dns.TypeRRSIG`. -/
def typeRRSIG : ℕ := 46

/-- `dns.TypeTSIG`. -/
def typeTSIG : ℕ := 250

/-- The type of a record. -/
def rrtype : RR → ℕ
  | opt _ => typeOPT
  | record _ rrtype _ _ _ => rrtype

/-- The OPT record that a record is. -/
def opt? : RR → Option OPT
  | opt o => some o
  | record .. => none

/-- The number of bytes of a record, without compression. -/
def size : RR → ℕ
  | opt o => 11 + (o.options.map EdnsOption.size).sum
  | record name _ _ _ data => nameSize name + 10 + data.length

/-- The lifetime of a record. -/
def ttl : RR → ℕ
  | opt _ => 0
  | record _ _ _ ttl _ => ttl

/-- Change the lifetime of a record. The OPT record has none. -/
def modifyTTL (f : ℕ → ℕ) : RR → RR
  | opt o => opt o
  | record name rrtype rrclass ttl data => record name rrtype rrclass (f ttl) data

end RR

/-! ### Messages -/

/-- `dns.Msg`. -/
structure Msg where
  id : ℕ := 0
  response : Bool := false
  opcode : ℕ := 0
  authoritative : Bool := false
  truncated : Bool := false
  recursionDesired : Bool := false
  recursionAvailable : Bool := false
  authenticatedData : Bool := false
  checkingDisabled : Bool := false
  rcode : ℕ := 0
  question : List Question := []
  answer : List RR := []
  ns : List RR := []
  extra : List RR := []
  deriving DecidableEq, Repr

/-- The response codes that the module sets. -/
def rcodeSuccess : ℕ := 0
@[inherit_doc rcodeSuccess] def rcodeServerFailure : ℕ := 2
@[inherit_doc rcodeSuccess] def rcodeNameError : ℕ := 3
@[inherit_doc rcodeSuccess] def rcodeRefused : ℕ := 5

/-- `dns.ClassINET`. -/
def classINET : ℕ := 1

/-- `dns.Fqdn`: a dot at the end that is not escaped makes a name complete. -/
def fqdn (s : String) : String :=
  match s.toList.reverse with
  | '.' :: rest =>
    if (rest.takeWhile (· = '\\')).length % 2 = 0 then s else s ++ "."
  | _ => s ++ "."

example : (fqdn "example.com", fqdn "example.com.") = ("example.com.", "example.com.") := by decide

namespace Msg

variable (m : Msg)

/-- `SetQuestion`, with the id that is drawn. -/
def setQuestion (id : ℕ) (name : String) (qtype : ℕ) : Msg :=
  { m with id, recursionDesired := true, question := [⟨name, qtype, classINET⟩] }

/-- `SetReply`. -/
def setReply (request : Msg) : Msg :=
  { m with
    id := request.id
    response := true
    opcode := request.opcode
    recursionDesired :=
      if request.opcode = 0 then request.recursionDesired else m.recursionDesired
    checkingDisabled :=
      if request.opcode = 0 then request.checkingDisabled else m.checkingDisabled
    rcode := rcodeSuccess
    question := match request.question with
      | [] => m.question
      | q :: _ => [q] }

/-- `IsEdns0`: the last OPT record. -/
def isEdns0 : Option OPT := m.extra.reverse.findSome? RR.opt?

/-- Change the first OPT record of a list. -/
def modifyOpt (f : OPT → OPT) : List RR → List RR
  | [] => []
  | .opt o :: rest => .opt (f o) :: rest
  | r :: rest => r :: modifyOpt f rest

/-- Change the OPT record that `IsEdns0` returns. -/
def modifyEdns0 (f : OPT → OPT) : Msg :=
  { m with extra := (modifyOpt f m.extra.reverse).reverse }

/-- `SetEdns0`. -/
def setEdns0 (udpSize : ℕ) (dnssecOk : Bool) : Msg :=
  { m with extra := m.extra ++ [.opt { udpSize, dnssecOk }] }

/-- The number of bytes of a message, without compression. -/
def size : ℕ :=
  12 + (m.question.map fun q => nameSize q.name + 4).sum + (m.answer.map RR.size).sum +
    (m.ns.map RR.size).sum + (m.extra.map RR.size).sum

variable {m}

lemma findSome?_modifyOpt (f : OPT → OPT) (l : List RR) :
    (modifyOpt f l).findSome? RR.opt? = (l.findSome? RR.opt?).map f := by
  induction l with
  | nil => rfl
  | cons r l ih =>
    cases r with
    | opt o => rfl
    | record name rrtype rrclass ttl data => exact ih

@[simp] lemma isEdns0_modifyEdns0 (f : OPT → OPT) :
    (m.modifyEdns0 f).isEdns0 = m.isEdns0.map f := by
  rw [isEdns0, modifyEdns0, reverse_reverse, findSome?_modifyOpt, isEdns0]

@[simp] lemma isEdns0_setEdns0 (udpSize : ℕ) (dnssecOk : Bool) :
    (m.setEdns0 udpSize dnssecOk).isEdns0 = some { udpSize, dnssecOk } := by
  rw [isEdns0, setEdns0, reverse_append, reverse_singleton, singleton_append]
  rfl

lemma isEdns0_eq_none_iff : m.isEdns0 = none ↔ ∀ r ∈ m.extra, r.opt? = none := by
  simp [isEdns0]

variable {f : OPT → OPT}

lemma modifyOpt_eq_self {l : List RR} (h : ∀ r ∈ l, r.opt? = none) :
    modifyOpt f l = l := by
  induction l with
  | nil => rfl
  | cons r l ih =>
    cases r with
    | opt o => simp [RR.opt?] at h
    | record name rrtype rrclass ttl data =>
      rw [modifyOpt, ih fun r hr => h r (mem_cons_of_mem _ hr)]
      exact fun o => RR.noConfusion

lemma modifyEdns0_eq_self (h : m.isEdns0 = none) : m.modifyEdns0 f = m := by
  have hextra : modifyOpt f m.extra.reverse = m.extra.reverse :=
    modifyOpt_eq_self fun r hr => isEdns0_eq_none_iff.mp h r (mem_reverse.mp hr)
  rw [modifyEdns0, hextra, reverse_reverse]

lemma filter_modifyOpt (f : OPT → OPT) (l : List RR) :
    (modifyOpt f l).filter (·.rrtype ≠ RR.typeOPT) = l.filter (·.rrtype ≠ RR.typeOPT) := by
  induction l with
  | nil => rfl
  | cons r l ih =>
    cases r with
    | opt o => rfl
    | record name rrtype rrclass ttl data =>
      simp only [modifyOpt, filter_cons, ih]

/-- Changing the OPT record leaves the other records. -/
lemma filter_extra_modifyEdns0 (f : OPT → OPT) :
    (m.modifyEdns0 f).extra.filter (·.rrtype ≠ RR.typeOPT) =
      m.extra.filter (·.rrtype ≠ RR.typeOPT) := by
  rw [modifyEdns0, filter_reverse, filter_modifyOpt, filter_reverse, reverse_reverse]

/-! ### Packed messages -/

/-- A packed message: the message that is read from it, and the number of its bytes. -/
structure Packed where
  msg : Msg
  size : ℕ
  deriving DecidableEq, Repr

/-- `Pack`, `none` for an error. The upper bits of the response code are kept in the OPT record;
records can be packed. -/
def pack (m : Msg) : Option Packed :=
  if 0xfff < m.rcode then none
  else match m.isEdns0 with
    | some _ =>
      let m := m.modifyEdns0 fun o => { o with extendedRcode := m.rcode / 16 }
      some ⟨m, m.size⟩
    | none => if 15 < m.rcode then none else some ⟨m, m.size⟩

/-- `Unpack`. -/
def unpack (p : Packed) : Msg := p.msg

lemma size_modifyOpt (hf : ∀ o, (f o).options = o.options) (l : List RR) :
    ((modifyOpt f l).map RR.size).sum = (l.map RR.size).sum := by
  induction l with
  | nil => rfl
  | cons r l ih =>
    cases r with
    | opt o => simp [modifyOpt, RR.size, hf]
    | record name rrtype rrclass ttl data => simp [modifyOpt, ih]

lemma size_modifyEdns0 (hf : ∀ o, (f o).options = o.options) :
    (m.modifyEdns0 f).size = m.size := by
  have hextra : ((m.modifyEdns0 f).extra.map RR.size).sum = (m.extra.map RR.size).sum := by
    rw [modifyEdns0, map_reverse, sum_reverse, size_modifyOpt hf, map_reverse,
      sum_reverse]
  unfold size
  rw [hextra]
  rfl

/-- A message can be packed if its response code fits, which takes an OPT record above 15. What is
packed differs from the message in the upper bits of the code only. -/
lemma pack_eq_some_iff {p : Packed} :
    m.pack = some p ↔
      m.rcode ≤ 0xfff ∧ (m.rcode ≤ 15 ∨ m.isEdns0.isSome) ∧ p.size = m.size ∧
        p.msg = m.modifyEdns0 fun o => { o with extendedRcode := m.rcode / 16 } := by
  have hp (m' : Msg) (n : ℕ) : (⟨m', n⟩ : Packed) = p ↔ p.size = n ∧ p.msg = m' := by
    obtain ⟨msg, size⟩ := p
    rw [Packed.mk.injEq, and_comm, eq_comm, @eq_comm _ m']
  have hsize : (m.modifyEdns0 fun o => { o with extendedRcode := m.rcode / 16 }).size = m.size :=
    size_modifyEdns0 fun _ => rfl
  unfold pack
  split
  next hlarge => simp; omega
  next hsmall =>
    cases hopt : m.isEdns0 with
    | some o =>
      simp only [Option.some.injEq, hp, hsize, Option.isSome_some, or_true, true_and]
      exact (and_iff_right (by omega)).symm
    | none =>
      rw [modifyEdns0_eq_self hopt]
      by_cases hext : 15 < m.rcode
      · simp only [if_pos hext, reduceCtorEq, Option.isSome_none, or_false, false_iff]
        exact fun h => absurd h.2.1 (by omega)
      · simp only [if_neg hext, Option.some.injEq, hp]
        exact ⟨fun h => ⟨by omega, by omega, h⟩, fun h => h.2.2⟩

lemma pack_of_rcode (hlarge : m.rcode ≤ 0xfff) (hext : m.rcode ≤ 15 ∨ m.isEdns0.isSome) :
    m.pack = some ⟨m.modifyEdns0 fun o => { o with extendedRcode := m.rcode / 16 }, m.size⟩ :=
  pack_eq_some_iff.mpr ⟨hlarge, hext, rfl, rfl⟩

end Msg

/-! ### The token against loops -/

/-- The code of the option that carries the token of the process. -/
def loopOptionCode : ℕ := 65042

/-- Whether an option is the one for the token. -/
def EdnsOption.isLoop : EdnsOption → Bool
  | .local code _ => code = loopOptionCode
  | _ => false

/-- Put the token in the first option for it, or behind the other options. -/
def setToken (token : List UInt8) : List EdnsOption → List EdnsOption
  | [] => [.local loopOptionCode token]
  | o :: rest => if o.isLoop then .local loopOptionCode token :: rest else o :: setToken token rest

/-- `markOutgoing`. -/
def markOutgoing (token : List UInt8) (m : Msg) : Msg :=
  let m := if m.isEdns0 = none then m.setEdns0 4096 false else m
  m.modifyEdns0 fun o => { o with options := setToken token o.options }

/-- `carriesOwnToken`. -/
def carriesOwnToken (token : List UInt8) (m : Msg) : Bool :=
  match m.isEdns0 with
  | none => false
  | some o => EdnsOption.local loopOptionCode token ∈ o.options

/-! ### Responses -/

/-- `DnsResponse`. -/
structure DnsResponse where
  query : DnsQuery
  rawMsg : Option Msg := none
  rcode : ℕ := rcodeSuccess
  answer : List RR := []
  authority : List RR := []
  additional : List RR := []
  /-- The shortest lifetime of an answer, in seconds. -/
  ttl : ℕ := 0
  upstream : String := ""
  proxyTag : String := ""
  cached : Bool := false
  deriving DecidableEq, Repr

/-- The shortest lifetime of records, zero if there are none. -/
def shortestTTL : List RR → ℕ
  | [] => 0
  | r :: rest => rest.foldl (fun ttl r => min ttl r.ttl) r.ttl

end V2rayA.Dns
