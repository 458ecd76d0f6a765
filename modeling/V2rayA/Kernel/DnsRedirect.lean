import V2rayA.ToMathlib.Transition

/-!
# The DNS redirect

`writeTransparentProxyRules` redirects DNS queries to the DNS module and exempts the queries of the
core. It first deletes what an earlier call may have left. The first of the commands that delete
redirects stands behind a comment there, on the same line, and is not run.
-/

namespace V2rayA

/-- A rule of the table `nat`, by family, chain (`OUTPUT` or `PREROUTING`) and protocol. -/
inductive DnsNatRule
  | redirect (v6 output tcp : Bool) (port : String)
  | mark (v6 output : Bool)
  deriving DecidableEq

/-- The rules of the process, and the ports that it remembers. -/
structure DnsFirewall where
  rules : List DnsNatRule := []
  dnsRedirectPorts : List String := ["52353"]

/-- What becomes of the rules for a transparent type. -/
inductive SetupOutcome
  | failed
  /-- The DNS module does not listen, or the user routes the TUN. -/
  | withoutDns
  | withDns (isIPv6Supported : Bool)

/-- A call, with the port of the stored setting and of the template. -/
inductive RulesCall
  | write (current port : String) (outcome : SetupOutcome)
  | delete (current : String)

namespace DnsFirewall

/-- `dnsRedirectDeleteCommands`: the rules that are to be deleted. -/
def dnsRedirectDeleteCommands (s : DnsFirewall) (current : String) : List DnsNatRule := do
  let port ← (s.dnsRedirectPorts.insert current).insertionSort (· ≤ ·)
  let v6 ← [false, true]
  let output ← [false, true]
  let tcp ← [false, true]
  return .redirect v6 output tcp port

/-- The rules for one family. -/
def familyRules (v6 : Bool) (port : String) : List DnsNatRule :=
  [.redirect v6 true false port, .redirect v6 true true port, .redirect v6 false false port,
    .redirect v6 false true port, .mark v6 true, .mark v6 false]

def markRules : List DnsNatRule :=
  [.mark false true, .mark false false, .mark true true, .mark true false]

/-- `cleanupResidualTransparentProxyRules`. -/
def cleanupResidual (s : DnsFirewall) (current : String) : DnsFirewall :=
  -- the first command is part of a comment
  { s with rules := s.rules \ ((s.dnsRedirectDeleteCommands current).tail ++ markRules) }

/-- `cleanDnsRedirectRules`. -/
def cleanDnsRedirectRules (s : DnsFirewall) (current : String) : DnsFirewall :=
  { s with rules := s.rules \ (s.dnsRedirectDeleteCommands current ++ markRules) }

/-- `writeTransparentProxyRules` and `deleteTransparentProxyRules`. -/
def call (s : DnsFirewall) : RulesCall → DnsFirewall
  | .write current port outcome =>
    let s := s.cleanupResidual current
    match outcome with
    | .failed => s.cleanDnsRedirectRules current
    | .withoutDns => s
    | .withDns isIPv6Supported =>
      { rules := s.rules ++ familyRules false port ++
          if isIPv6Supported then familyRules true port else []
        dnsRedirectPorts := s.dnsRedirectPorts.insert port }
  | .delete current => s.cleanDnsRedirectRules current

/-- The rule that the residual cleanup misses is not there. -/
def Covered (s : DnsFirewall) : RulesCall → Prop
  | .write current _ _ => ∀ r ∈ (s.dnsRedirectDeleteCommands current).head?, r ∉ s.rules
  | .delete _ => True

/-- The calls of one process. -/
def system : Transition.System DnsFirewall RulesCall where
  init s := s = {}
  next s a := some (s.call a)

/-- Every rule is there once, for a port that is remembered. -/
structure Remembered (s : DnsFirewall) : Prop where
  nodup : s.rules.Nodup
  port {v6 output tcp port} : .redirect v6 output tcp port ∈ s.rules → port ∈ s.dnsRedirectPorts

variable {s : DnsFirewall} {current : String}

lemma Remembered.mem_deleted (h : s.Remembered) (current : String) {r : DnsNatRule}
    (hr : r ∈ s.rules) : r ∈ s.dnsRedirectDeleteCommands current ++ markRules := by
  cases r with
  | redirect v6 output tcp port =>
    cases v6 <;> cases output <;> cases tcp <;> simp [dnsRedirectDeleteCommands, h.port hr]
  | mark v6 output => cases v6 <;> cases output <;> simp [markRules]

lemma Remembered.diff_eq_nil (h : s.Remembered) {deleted : List DnsNatRule}
    (hall : ∀ r ∈ s.rules, r ∈ deleted) : s.rules \ deleted = [] := by
  rw [List.eq_nil_iff_forall_not_mem]
  intro r hr
  obtain ⟨hr, hnot⟩ := h.nodup.mem_sdiff_iff.mp hr
  exact hnot (hall r hr)

lemma Remembered.rules_clean (h : s.Remembered) (current : String) :
    (s.cleanDnsRedirectRules current).rules = [] :=
  h.diff_eq_nil fun _ => h.mem_deleted current

lemma Remembered.rules_cleanupResidual (h : s.Remembered)
    (hcovered : ∀ r ∈ (s.dnsRedirectDeleteCommands current).head?, r ∉ s.rules) :
    (s.cleanupResidual current).rules = [] := by
  refine h.diff_eq_nil fun r hr => ?_
  have hmem := h.mem_deleted current hr
  cases hdeleted : s.dnsRedirectDeleteCommands current with
  | nil => simpa [hdeleted] using hmem
  | cons first rest =>
    rw [hdeleted] at hcovered hmem
    refine (List.mem_cons.mp hmem).resolve_left ?_
    rintro rfl
    exact hcovered _ rfl hr

lemma Remembered.call (h : s.Remembered) {a : RulesCall} (ha : s.Covered a) :
    (s.call a).Remembered := by
  have hnil {s : DnsFirewall} (hrules : s.rules = []) : s.Remembered :=
    ⟨by rw [hrules]; exact List.nodup_nil, by simp [hrules]⟩
  cases a with
  | delete current => exact hnil (h.rules_clean current)
  | write current port outcome =>
    have hclean := h.rules_cleanupResidual ha
    cases outcome with
    | failed => exact hnil ((hnil hclean).rules_clean current)
    | withoutDns => exact hnil hclean
    | withDns v6 =>
      refine ⟨?_, fun hr => ?_⟩
      · simp only [DnsFirewall.call, hclean]
        cases v6 <;> simp [familyRules]
      · simp only [DnsFirewall.call] at hr ⊢
        cases v6 <;> simp [familyRules] at hr <;> grind

/-- Nothing is left by a deletion after calls none of which met the rule that the residual cleanup
misses. -/
theorem rules_of_delete (hs : system.ReachableWhen Covered s) (current : String) :
    (s.call (.delete current)).rules = [] := by
  have hremembered : s.Remembered := by
    refine hs.invariant ?_ fun s a t h ha ht => Option.some.inj ht ▸ h.call ha
    rintro _ rfl
    exact ⟨List.nodup_nil, by simp⟩
  exact hremembered.rules_clean current

/-- The port is changed before the deletion. -/
theorem rules_of_delete_changed :
    let s := call {} (.write "53" "5353" (.withDns true))
    s.rules.length = 12 ∧ (s.call (.delete "53")).rules = [] :=
  ⟨by decide +kernel, rules_of_delete (.step (.init rfl) (by simp [Covered]) rfl) "53"⟩

/-- The rules are written twice, and a redirect is left. -/
theorem rules_left_by_delete : ∃ s, system.Reachable s ∧
    (s.call (.delete "52353")).rules = [.redirect false false false "52353"] := by
  let write : RulesCall := .write "52353" "52353" (.withDns false)
  refine ⟨_, .step (a := write) (.step (a := write) (.init rfl) trivial rfl) trivial rfl, ?_⟩
  decide +kernel

end DnsFirewall

end V2rayA
