import V2rayA.Core.Dns.Listener
import V2rayA.Core.Dns.LoopToken

/-!
# EDNS towards a client

What a client gets of the message of an upstream: the OPT record is made anew from the client's own,
and signatures are passed on to a client that wants them. Only the additional records are searched
for OPT records.
-/

namespace V2rayA.Dns

open List

/-- The message of an upstream, which the cache may hold too, once it has been packed: `Pack` sets
the upper bits of the response code in its OPT record. -/
def Msg.held (raw : Msg) : Msg := raw.pack.elim raw (·.msg)

/-- The OPT record for a client. -/
def replyOpt (o : OPT) : OPT := { udpSize := max 512 o.udpSize, dnssecOk := o.dnssecOk }

/-- What a client gets of the message of an upstream. -/
structure ClientFacing (msg raw m : Msg) : Prop where
  rcode : m.rcode = raw.rcode
  /-- There is an OPT record exactly if the client sent one, made from that. -/
  opts : m.opts = (msg.opts.getLast?.map replyOpt).toList
  sigs : (∃ r ∈ m.answer ++ m.ns ++ m.extra, r.rrtype = RR.typeRRSIG) →
    msg.opts.getLast?.any OPT.dnssecOk = true
  answer : m.answer = wanted msg raw.answer
  ns : m.ns = wanted msg raw.ns
  extra : m.extra.filter (·.rrtype ≠ RR.typeOPT) =
    wanted msg (raw.extra.filter (·.rrtype ≠ RR.typeOPT))

variable {msg raw m : Msg} {resp : DnsResponse}

lemma wanted_subset (msg : Msg) (rrs : List RR) : wanted msg rrs ⊆ rrs := by
  unfold wanted dropSigs
  split_ifs
  · exact List.Subset.refl _
  · exact filter_subset_self _

lemma not_sig_of_mem_wanted {r : RR} {rrs : List RR} (hr : r ∈ wanted msg rrs)
    (hsig : r.rrtype = RR.typeRRSIG) : msg.isEdns0.any OPT.dnssecOk := by
  unfold wanted dropSigs at hr
  split_ifs at hr with hdo
  · exact hdo
  · simp [hsig] at hr

lemma clientFacing_of_sections (hmsg : msg.OptsInPlace) (hraw : raw.OptsInPlace)
    (hrcode : m.rcode = raw.rcode) (hanswer : m.answer = wanted msg raw.answer)
    (hns : m.ns = wanted msg raw.ns)
    (hextra : m.extra = wanted msg (raw.extra.filter (·.rrtype ≠ RR.typeOPT)) ++
      (msg.isEdns0.map (RR.opt ∘ replyOpt)).toList) : ClientFacing msg raw m := by
  have hedns : msg.opts.getLast? = msg.isEdns0 := by rw [isEdns0_eq, opts_of_inPlace hmsg]
  have hkept : ∀ r ∈ wanted msg (raw.extra.filter (·.rrtype ≠ RR.typeOPT)), r.rrtype ≠ RR.typeOPT :=
    fun r hr => by simpa using (mem_filter.mp (wanted_subset _ _ hr)).2
  have hplace : m.OptsInPlace := by
    intro r hr
    rw [hanswer, hns] at hr
    exact hraw r (mem_append.mpr ((mem_append.mp hr).imp (wanted_subset _ _ ·)
      (wanted_subset _ _ ·)))
  refine ⟨hrcode, ?_, ?_, hanswer, hns, ?_⟩
  · rw [opts_of_inPlace hplace, hextra, filterMap_append,
      filterMap_eq_nil_iff.mpr fun r hr => opt?_eq_none (hkept r hr), hedns]
    cases msg.isEdns0 <;> rfl
  · rintro ⟨r, hr, hsig⟩
    rw [hedns]
    rw [hanswer, hns, hextra, mem_append, mem_append, mem_append] at hr
    rcases hr with (hr | hr) | hr | hr
    · exact not_sig_of_mem_wanted hr hsig
    · exact not_sig_of_mem_wanted hr hsig
    · exact not_sig_of_mem_wanted hr hsig
    · obtain ⟨o, -, rfl⟩ := Option.map_eq_some_iff.mp (Option.mem_toList.mp hr)
      cases hsig
  · rw [hextra, filter_append, filter_eq_self.mpr fun r hr => by simpa using hkept r hr]
    cases msg.isEdns0 <;> simp [RR.rrtype]

end V2rayA.Dns
