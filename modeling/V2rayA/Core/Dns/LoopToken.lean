import V2rayA.Core.Dns.Handler

/-!
# The token against loops

A message to an upstream carries the token of the process in its OPT record, and a message that
comes in with the token is one of those. `IsEdns0` looks for the OPT record among the additional
records only.
-/

namespace V2rayA.Dns

open List

/-- The OPT records of a message, wherever they are. -/
def Msg.opts (m : Msg) : List OPT := (m.answer ++ m.ns ++ m.extra).filterMap RR.opt?

/-- The OPT records of a message are additional ones. -/
def Msg.OptsInPlace (m : Msg) : Prop := ∀ r ∈ m.answer ++ m.ns, r.opt? = none

/-- What is added to a message later. -/
inductive Addition
  /-- `AddEDNS0`. -/
  | edns0 (udpSize : ℕ) (options : List EdnsOption)
  /-- `AddECSSubnet`. -/
  | ecsSubnet (clientIP : Go.IP)

def Addition.apply (m : Msg) : Addition → Msg
  | .edns0 udpSize options =>
    if m.isEdns0 = none then { m with extra := m.extra ++ [.opt { udpSize, options }] }
    else m.modifyEdns0 fun o => { o with udpSize, options := o.options ++ options }
  | .ecsSubnet clientIP =>
    if clientIP = [] then m else addEDNS0 m 4096 (Dns.ecsSubnet clientIP)

/-- The token takes the place of the first option with its code, or comes last if there is none. -/
def TokenSet (token : List UInt8) (before after : List EdnsOption) : Prop :=
  ∃ pre old post, before = pre ++ old ++ post ∧
    after = pre ++ .local loopOptionCode token :: post ∧ (∀ o ∈ pre, o.isLoop = false) ∧
    (old = [] ∧ post = [] ∨ ∃ o, old = [o] ∧ o.isLoop = true)

variable {token : List UInt8} {m : Msg}

lemma tokenSet_setToken (token : List UInt8) (options : List EdnsOption) :
    TokenSet token options (setToken token options) := by
  induction options with
  | nil => exact ⟨[], [], [], rfl, rfl, by simp, .inl ⟨rfl, rfl⟩⟩
  | cons o options ih =>
    unfold setToken
    split_ifs with ho
    · exact ⟨[], [o], options, rfl, rfl, by simp, .inr ⟨o, rfl, ho⟩⟩
    · obtain ⟨pre, old, post, rfl, hafter, hpre, hold⟩ := ih
      refine ⟨o :: pre, old, post, rfl, by rw [hafter]; rfl, ?_, hold⟩
      exact forall_mem_cons.mpr ⟨by simpa using ho, hpre⟩

lemma setToken_setToken (options : List EdnsOption) :
    setToken token (setToken token options) = setToken token options := by
  induction options with
  | nil => rfl
  | cons o options ih =>
    by_cases ho : o.isLoop = true
    · rw [setToken, if_pos ho]
      rfl
    · rw [setToken, if_neg ho, setToken, if_neg ho, ih]

lemma modifyOpt_modifyOpt {f : OPT → OPT} (hf : ∀ o, f (f o) = f o) (l : List RR) :
    Msg.modifyOpt f (Msg.modifyOpt f l) = Msg.modifyOpt f l := by
  induction l with
  | nil => rfl
  | cons r l ih => cases r <;> simp [Msg.modifyOpt, hf, ih]

lemma filterMap_modifyOpt (f : OPT → OPT) (l : List RR) :
    (Msg.modifyOpt f l).filterMap RR.opt? = (l.filterMap RR.opt?).modifyHead f := by
  induction l with
  | nil => rfl
  | cons r l ih =>
    cases r with
    | opt o => rfl
    | record name rrtype rrclass ttl data => exact ih

/-- The record that `IsEdns0` finds. -/
lemma isEdns0_eq (m : Msg) : m.isEdns0 = (m.extra.filterMap RR.opt?).getLast? := by
  rw [Msg.isEdns0, ← head?_filterMap, filterMap_reverse, head?_reverse]

lemma opts_of_inPlace (h : m.OptsInPlace) : m.opts = m.extra.filterMap RR.opt? := by
  rw [Msg.opts, filterMap_append, filterMap_eq_nil_iff.mpr h, nil_append]

lemma isEdns0_markOutgoing : (markOutgoing token m).isEdns0 =
    (some (m.isEdns0.getD { udpSize := 4096 })).map
      fun o => { o with options := setToken token o.options } := by
  unfold markOutgoing
  cases hm : m.isEdns0 <;> simp [hm]

lemma markOutgoing_markOutgoing :
    markOutgoing token (markOutgoing token m) = markOutgoing token m := by
  have hsome : (markOutgoing token m).isEdns0 ≠ none := by simp [isEdns0_markOutgoing]
  rw [markOutgoing, if_neg hsome]
  simp only [markOutgoing, Msg.modifyEdns0, reverse_reverse]
  rw [modifyOpt_modifyOpt fun o => by rw [setToken_setToken]]

/-- The only OPT record of a message is the one that the token is put in. -/
lemma opts_markOutgoing (hplace : m.OptsInPlace) (hone : m.opts.length ≤ 1) :
    (markOutgoing token m).opts = (markOutgoing token m).isEdns0.toList := by
  have hplace' : (markOutgoing token m).OptsInPlace := by
    unfold markOutgoing
    split_ifs <;> exact hplace
  rw [opts_of_inPlace hplace] at hone
  have hlen : ((markOutgoing token m).extra.filterMap RR.opt?).length = 1 := by
    simp only [markOutgoing, isEdns0_eq, getLast?_eq_none_iff, Msg.modifyEdns0,
      filterMap_reverse, filterMap_modifyOpt, length_reverse, length_modifyHead]
    split_ifs with hnil
    · simp [Msg.setEdns0, hnil, RR.opt?]
    · have := length_pos_iff.mpr hnil
      omega
  obtain ⟨o, ho⟩ := length_eq_one_iff.mp hlen
  rw [opts_of_inPlace hplace', isEdns0_eq, ho]
  rfl

lemma carriesOwnToken_iff : carriesOwnToken token m ↔
    ∃ o, m.isEdns0 = some o ∧ .local loopOptionCode token ∈ o.options := by
  unfold carriesOwnToken
  cases m.isEdns0 <;> simp

lemma carriesOwnToken_apply (h : carriesOwnToken token m) (a : Addition) :
    carriesOwnToken token (a.apply m) := by
  obtain ⟨o, hm, ho⟩ := carriesOwnToken_iff.mp h
  rw [carriesOwnToken_iff]
  cases a with
  | edns0 udpSize options => simp [Addition.apply, hm, ho]
  | ecsSubnet clientIP =>
    by_cases hip : clientIP = []
    · simp [Addition.apply, hip, hm, ho]
    · simp [Addition.apply, hip, addEDNS0, hm, ho]

lemma mem_setToken (options : List EdnsOption) :
    .local loopOptionCode token ∈ setToken token options := by
  obtain ⟨pre, old, post, -, hafter, -⟩ := tokenSet_setToken token options
  simp [hafter]

/-- What `markOutgoing` does to a message whose OPT records are in place, and what
`carriesOwnToken` says of any message. -/
theorem loopToken_laws (token : List UInt8) (m : Msg) :
    (m.OptsInPlace → m.opts.length ≤ 1 → ∃ o, (markOutgoing token m).opts = [o] ∧
      TokenSet token (m.opts.flatMap OPT.options) o.options) ∧
    markOutgoing token (markOutgoing token m) = markOutgoing token m ∧
    (∀ additions : List Addition,
      carriesOwnToken token (additions.foldl Addition.apply (markOutgoing token m))) ∧
    ((∀ o ∈ m.opts, .local loopOptionCode token ∉ o.options) → carriesOwnToken token m = false) := by
  refine ⟨fun hplace hone => ?_, markOutgoing_markOutgoing, fun additions => ?_, fun hno => ?_⟩
  · refine ⟨_, by rw [opts_markOutgoing hplace hone, isEdns0_markOutgoing]; rfl, ?_⟩
    have hbefore : m.opts.flatMap OPT.options =
        (m.isEdns0.getD { udpSize := 4096 }).options := by
      rw [isEdns0_eq, ← opts_of_inPlace hplace]
      rcases hopts : m.opts with _ | ⟨o, _ | ⟨o', os⟩⟩
      · rfl
      · simp
      · simp [hopts] at hone
    rw [hbefore]
    exact tokenSet_setToken ..
  · have hmarked : carriesOwnToken token (markOutgoing token m) = true :=
      carriesOwnToken_iff.mpr ⟨_, isEdns0_markOutgoing, mem_setToken _⟩
    exact foldlRecOn (motive := (carriesOwnToken token · = true)) additions Addition.apply hmarked
      fun _ h a _ => carriesOwnToken_apply h a
  · refine Bool.eq_false_iff.mpr fun hcarries => ?_
    obtain ⟨o, hm, ho⟩ := carriesOwnToken_iff.mp hcarries
    rw [isEdns0_eq] at hm
    refine hno o ?_ ho
    rw [Msg.opts, filterMap_append]
    exact mem_append_right _ (mem_of_getLast? hm)

/-- The OPT record of this message is not looked for where it is. -/
theorem opts_markOutgoing_answer :
    let m : Msg := { answer := [.opt { udpSize := 4096 }] }
    m.opts.length = 1 ∧ (markOutgoing [1] m).opts.length = 2 := by
  decide

end V2rayA.Dns
