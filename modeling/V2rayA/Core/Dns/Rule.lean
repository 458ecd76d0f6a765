import V2rayA.Core.Dns.Config
import V2rayA.ToMathlib.Except

/-!
# Rules of the DNS module

A rule is compiled into one matcher for each of its fields. A field matches a query if one of its
entries does, and the rule if all of its fields do. Fields without a matcher are left out, so that
a rule whose geosite tags have no names is one without a condition on the domain.

* `matchAll_matchers`: when a compiled rule matches.
* `exists_texts_iff`: which rules can be compiled.
-/

namespace V2rayA.Dns

open List Except

/-- `GeositeResolver`: the names and the suffixes of a geosite tag. -/
abbrev GeositeResolver : Type := String → List String × List String

/-- `DnsQuery`. -/
structure DnsQuery where
  name : String
  qtype : ℕ
  clientIP : Go.IP := []
  deriving DecidableEq, Repr

/-! ### Matchers -/

/-- `DomainRule`. A regular expression is given by the texts that it matches. -/
inductive DomainRule
  | exact (domain : String)
  | suffix (domain : String)
  | regex (re : String → Bool)

/-- `DomainRule.Match`. -/
def DomainRule.matches (r : DomainRule) (q : DnsQuery) : Bool :=
  let name := Go.trimSuffix q.name "."
  match r with
  | exact domain => name = Go.trimSuffix domain "."
  | suffix domain =>
    let domain := Go.trimSuffix domain "."
    if Go.hasPrefix domain "." then Go.hasSuffix name domain
    else name = domain || Go.hasSuffix name ("." ++ domain)
  | regex re => re name

/-- A matcher for one entry of a field. -/
inductive FieldMatcher
  | domain (r : DomainRule)
  | ip (cidr : Go.IPNet)
  | queryType (qtype : ℕ)
  | clientIP (cidr : Go.IPNet)

/-- `Match` of the matchers of entries. -/
def FieldMatcher.matches (q : DnsQuery) : FieldMatcher → Bool
  | domain r => r.matches q
  | ip cidr => cidr.contains q.clientIP
  | queryType qtype => qtype = q.qtype
  | clientIP cidr => q.clientIP ≠ [] && cidr.contains q.clientIP

/-- A matcher for a field: the one of its only entry, or an `OrMatcher`. -/
inductive RuleMatcher
  | single (m : FieldMatcher)
  | or (ms : List FieldMatcher)

/-- `Match` of the matchers of fields. -/
def RuleMatcher.matches (q : DnsQuery) : RuleMatcher → Bool
  | single m => m.matches q
  | or ms => ms.any (·.matches q)

/-- `MatchAll`. -/
def matchAll (matchers : List RuleMatcher) (q : DnsQuery) : Bool := matchers.all (·.matches q)

/-! ### Compiling a rule -/

/-- `parseCIDR`. -/
def parseCIDR (lib : Library) (s : String) : Except Go.Error Go.IPNet :=
  if '/' ∈ s.toList then (lib.parseCIDR s).mapError (·.wrap ("invalid CIDR " ++ Go.quote s))
  else match lib.parseIP s with
    | none => .error ⟨"invalid IP address " ++ Go.quote s, "", []⟩
    | some ip => lib.parseCIDR (s ++ if ip.to4.isSome then "/32" else "/128")

/-- The matchers for an entry of the field `Domain` or `DomainSuffix`, of which `plain` is the one
for a name. Without a resolver there is none for a geosite tag. -/
def domainEntry (resolver : Option GeositeResolver) (plain : String → DomainRule) (d : String) :
    List DomainRule :=
  if Go.hasPrefix d "geosite:" then
    match resolver with
    | none => []
    | some resolve =>
      let (doms, suffs) := resolve (Go.trimPrefix d "geosite:")
      doms.map .exact ++ suffs.map .suffix
  else [plain d]

/-- The matchers for the names and suffixes of a rule. -/
def domainEntries (resolver : Option GeositeResolver) (rule : DnsRule) : List DomainRule :=
  rule.domain.flatMap (domainEntry resolver .exact) ++
    rule.domainSuffix.flatMap (domainEntry resolver .suffix)

/-- The expressions and addresses of a rule. -/
structure Texts where
  regexes : List (String → Bool)
  ips : List Go.IPNet
  clientIPs : List Go.IPNet

/-- Read the expressions and addresses of a rule, in the order in which `BuildMatchers` does. -/
def DnsRule.texts (lib : Library) (rule : DnsRule) : Except Go.Error Texts := do
  let regexes ← rule.domainRegex.mapM fun d =>
    (lib.compile d).mapError (·.wrap ("invalid domain regex " ++ Go.quote d))
  let ips ← rule.ip.mapM fun s =>
    (parseCIDR lib s).mapError (·.wrap ("invalid IP CIDR " ++ Go.quote s))
  let clientIPs ← rule.clientIP.mapM fun s =>
    (parseCIDR lib s).mapError (·.wrap ("invalid client IP CIDR " ++ Go.quote s))
  pure ⟨regexes, ips, clientIPs⟩

/-- The matchers of a rule by field. -/
structure Groups where
  domain : List FieldMatcher
  ip : List FieldMatcher
  queryType : List FieldMatcher
  clientIP : List FieldMatcher

/-- The first part of `BuildMatchers`: the matchers for the entries of each field. -/
def DnsRule.groups (rule : DnsRule) (resolver : Option GeositeResolver) (texts : Texts) :
    Groups where
  domain := (domainEntries resolver rule ++ texts.regexes.map DomainRule.regex).map .domain
  ip := texts.ips.map .ip
  queryType := rule.queryType.map .queryType
  clientIP := texts.clientIPs.map .clientIP

/-- The matcher for a field. A field without entries has none. -/
def fieldMatcher : List FieldMatcher → List RuleMatcher
  | [] => []
  | [m] => [.single m]
  | ms => [.or ms]

/-- The second part of `BuildMatchers`: one matcher for each field. -/
def Groups.matchers (g : Groups) : List RuleMatcher :=
  fieldMatcher g.domain ++ fieldMatcher g.ip ++ fieldMatcher g.queryType ++ fieldMatcher g.clientIP

/-- `BuildMatchers`. -/
def buildMatchers (lib : Library) (resolver : Option GeositeResolver) (rule : DnsRule) :
    Except Go.Error (List RuleMatcher) :=
  (rule.texts lib).map fun texts => (rule.groups resolver texts).matchers

/-! ### When a rule matches -/

/-- A field holds if it has no matcher or one of its matchers matches. -/
def FieldHolds (ms : List FieldMatcher) (q : DnsQuery) : Prop :=
  ms = [] ∨ ∃ m ∈ ms, m.matches q = true

variable {q : DnsQuery}

lemma matchAll_fieldMatcher {ms : List FieldMatcher} :
    matchAll (fieldMatcher ms) q ↔ FieldHolds ms q := by
  match ms with
  | [] => simp [fieldMatcher, matchAll, FieldHolds]
  | [m] => simp [fieldMatcher, matchAll, FieldHolds, RuleMatcher.matches]
  | m :: m' :: ms => simp [fieldMatcher, matchAll, FieldHolds, RuleMatcher.matches]

/-- A compiled rule matches if all of its fields hold. -/
lemma matchAll_matchers {g : Groups} :
    matchAll g.matchers q ↔
      FieldHolds g.domain q ∧ FieldHolds g.ip q ∧ FieldHolds g.queryType q ∧
        FieldHolds g.clientIP q := by
  have happend (l l' : List RuleMatcher) :
      matchAll (l ++ l') q = true ↔ matchAll l q = true ∧ matchAll l' q = true := by
    simp [matchAll]
  simp only [Groups.matchers, happend, matchAll_fieldMatcher, and_assoc]

/-- Whether a rule matches a query when it is compiled with a resolver. -/
def DnsRule.matches (lib : Library) (resolver : Option GeositeResolver) (rule : DnsRule)
    (q : DnsQuery) : Bool :=
  match buildMatchers lib resolver rule with
  | .ok matchers => matchAll matchers q
  | .error _ => false

/-! ### Rules that compile -/

/-- Whether the expressions and the addresses of a rule can be read. -/
def DnsRule.Compiles (lib : Library) (rule : DnsRule) : Prop :=
  (∀ d ∈ rule.domainRegex, ∃ re, lib.compile d = .ok re) ∧
    ∀ s ∈ rule.ip ++ rule.clientIP, ∃ cidr, parseCIDR lib s = .ok cidr

variable {rule : DnsRule} {lib : Library}

/-- A rule can be compiled exactly if it can be read, with whichever resolver. -/
lemma exists_texts_iff :
    (∃ texts, rule.texts lib = .ok texts) ↔ rule.Compiles lib := by
  have hread {α : Type} (f : String → Except Go.Error α) (l : List String) (text : String) :
      (∃ l', l.mapM (fun s => (f s).mapError (·.wrap (text ++ Go.quote s))) = .ok l') ↔
        ∀ s ∈ l, ∃ a, f s = .ok a := by
    simp only [exists_mapM_eq_ok_iff, mapError_eq_ok_iff]
  simp only [DnsRule.texts, DnsRule.Compiles, forall_mem_append, bind_eq_ok_iff]
  constructor
  · rintro ⟨texts, regexes, hregexes, ips, hips, clientIPs, hclientIPs, -⟩
    exact ⟨(hread lib.compile _ _).mp ⟨regexes, hregexes⟩,
      (hread (parseCIDR lib) _ _).mp ⟨ips, hips⟩,
      (hread (parseCIDR lib) _ _).mp ⟨clientIPs, hclientIPs⟩⟩
  · rintro ⟨hregexes, hips, hclientIPs⟩
    obtain ⟨regexes, hregexes⟩ := (hread lib.compile _ "invalid domain regex ").mpr hregexes
    obtain ⟨ips, hips⟩ := (hread (parseCIDR lib) _ "invalid IP CIDR ").mpr hips
    obtain ⟨clientIPs, hclientIPs⟩ :=
      (hread (parseCIDR lib) _ "invalid client IP CIDR ").mpr hclientIPs
    exact ⟨⟨regexes, ips, clientIPs⟩, regexes, hregexes, ips, hips, clientIPs, hclientIPs, rfl⟩

variable {texts : Texts}

section

variable (h : rule.texts lib = .ok texts)
include h

/-- Each expression and each address of a rule is read. -/
lemma length_texts :
    texts.regexes.length = rule.domainRegex.length ∧ texts.ips.length = rule.ip.length ∧
      texts.clientIPs.length = rule.clientIP.length := by
  simp only [DnsRule.texts, bind_eq_ok_iff] at h
  obtain ⟨regexes, hregexes, ips, hips, clientIPs, hclientIPs, htexts⟩ := h
  obtain rfl : ⟨regexes, ips, clientIPs⟩ = texts := ok.inj htexts
  exact ⟨(mapM_eq_ok_iff.mp hregexes).length_eq.symm,
    (mapM_eq_ok_iff.mp hips).length_eq.symm,
    (mapM_eq_ok_iff.mp hclientIPs).length_eq.symm⟩

/-- The addresses of clients as they are read. -/
lemma clientIPs_of_texts :
    Forall₂ (fun s cidr => parseCIDR lib s = .ok cidr) rule.clientIP texts.clientIPs := by
  simp only [DnsRule.texts, bind_eq_ok_iff] at h
  obtain ⟨regexes, -, ips, -, clientIPs, hclientIPs, htexts⟩ := h
  obtain rfl : ⟨regexes, ips, clientIPs⟩ = texts := ok.inj htexts
  simpa only [mapM_eq_ok_iff, mapError_eq_ok_iff] using hclientIPs

lemma buildMatchers_of_texts
    (resolver : Option GeositeResolver) :
    buildMatchers lib resolver rule = .ok (rule.groups resolver texts).matchers := by
  rw [buildMatchers, h]
  rfl

/-- A rule that was read matches if all of its fields hold. -/
lemma matches_iff {resolver : Option GeositeResolver} :
    rule.matches lib resolver q ↔
      FieldHolds (rule.groups resolver texts).domain q ∧
        FieldHolds (rule.groups resolver texts).ip q ∧
        FieldHolds (rule.groups resolver texts).queryType q ∧
        FieldHolds (rule.groups resolver texts).clientIP q := by
  rw [DnsRule.matches, buildMatchers_of_texts h]
  exact matchAll_matchers

end

end V2rayA.Dns
