import V2rayA.Kernel.Template.DnsRouting

/-!
# What DNS rules mean

A stored rule has up to three conditions: on the name that is asked for, on the address of the
client and on the type of the query. It is meant to answer the queries for which all of them hold,
unless an earlier rule does. The service writes a rule of the module for it and the core compiles
that rule, and on the way some conditions change: the types of a rule that has no other condition
are dropped, a keyword is compared with the whole name, and a tag that stands for no name is no
condition at all.

* `matches_core_iff`, `matches_eq_holds_iff`: what a generated rule matches, and when that was meant.
* `rules_mean_what_they_say_iff`: when a query is answered by the first rule that is meant to.
-/

namespace V2rayA

open List

/-! ### What is meant -/

/-- Whether the name that is asked for is one of those that a tag stands for. -/
def inGeosite (resolve : Dns.GeositeResolver) (tag : String) (q : Dns.DnsQuery) : Bool :=
  (resolve tag).1.any (fun d => (Dns.DomainRule.exact d).matches q) ||
    (resolve tag).2.any (fun d => (Dns.DomainRule.suffix d).matches q)

/-- Whether the name that is asked for is meant by a line: one of the names of a tag, a name that
contains a word, a name or one below it, or the name itself. -/
def lineHolds (resolve : Dns.GeositeResolver) (q : Dns.DnsQuery) (line : String) : Bool :=
  if Go.hasPrefix line "domain:" then
    (Dns.DomainRule.suffix (Go.trimPrefix line "domain:")).matches q
  else if Go.hasPrefix line "keyword:" then
    Go.contains (Go.trimSuffix q.name ".") (Go.trimPrefix line "keyword:")
  else if Go.hasPrefix line "geosite:" then
    inGeosite resolve (Go.trimPrefix line "geosite:") q
  else (Dns.DomainRule.exact line).matches q

namespace DnsRule

variable (lib : Dns.Library) (rule : DnsRule) (q : Dns.DnsQuery)

/-- Whether the client is one of those in the list. -/
def clientListed : Bool :=
  rule.clientIPs.any fun s =>
    match Dns.parseCIDR lib s with
    | .ok cidr => q.clientIP ≠ [] ∧ cidr.contains q.clientIP
    | .error _ => false

/-- Whether the type of the query is one of those in the list. -/
def typeListed : Bool := rule.queryTypes.any fun name => lib.stringToType name = some q.qtype

/-- Whether the conditions on the client and on the type hold. -/
def othersHold : Bool :=
  (rule.clientIPs = [] ∨ rule.clientListed lib q) ∧ (rule.queryTypes = [] ∨ rule.typeListed lib q)

/-- Whether the rule has a condition. -/
def hasCondition : Bool :=
  rule.domainLines ≠ [] ∨ rule.clientIPs ≠ [] ∨ rule.queryTypes ≠ []

/-- Whether the rule has a condition and all of its conditions hold. -/
def holds (resolve : Dns.GeositeResolver) : Bool :=
  rule.hasCondition ∧ (rule.domainLines = [] ∨ rule.domainLines.any (lineHolds resolve q)) ∧
    rule.othersHold lib q

end DnsRule

/-- The last rule without a condition. -/
def lastFree (rules : List DnsRule) : Option DnsRule :=
  (rules.filter (¬·.hasCondition)).getLast?

/-! ### What the core does -/

/-- The generated rule as far as it decides which queries it matches. -/
def DnsRule.core (lib : Dns.Library) (rule : DnsRule) : Dns.DnsRule where
  domain := rule.names
  domainSuffix := rule.suffixes
  ip := rule.ips
  clientIP := rule.clientIPs
  queryType := rule.queryTypes.filterMap lib.stringToType

/-- The tag that a line is read as, also when it stands for a name with its subdomains. -/
def readTag (line : String) : Option String :=
  let d := Go.trimPrefix line "domain:"
  if Go.hasPrefix d "geosite:" then some (Go.trimPrefix d "geosite:") else none

/-- Whether a line is read as a tag that stands for no name. -/
def isEmptyTag (resolve : Dns.GeositeResolver) (line : String) : Bool :=
  (readTag line).any fun tag => (resolve tag).1 = [] ∧ (resolve tag).2 = []

/-- Whether the core matches the name that is asked for because of a line. Keywords are not known to
it. -/
def lineMatches (resolve : Dns.GeositeResolver) (q : Dns.DnsQuery) (line : String) : Bool :=
  match readTag line with
  | some tag => inGeosite resolve tag q
  | none =>
    if Go.hasPrefix line "domain:" then
      (Dns.DomainRule.suffix (Go.trimPrefix line "domain:")).matches q
    else (Dns.DomainRule.exact line).matches q

/-- The matchers for a line. -/
def lineMatchers (resolve : Dns.GeositeResolver) (line : String) : List Dns.DomainRule :=
  if Go.hasPrefix line "domain:" then
    Dns.domainEntry (some resolve) .suffix (Go.trimPrefix line "domain:")
  else Dns.domainEntry (some resolve) .exact line

section

variable {lib : Dns.Library} {resolve : Dns.GeositeResolver} {rule : DnsRule} {q : Dns.DnsQuery}

lemma mem_domainEntries_core {m : Dns.DomainRule} :
    m ∈ Dns.domainEntries (some resolve) (rule.core lib) ↔
      ∃ line ∈ rule.domainLines, m ∈ lineMatchers resolve line := by
  simp only [Dns.domainEntries, DnsRule.core, DnsRule.names, DnsRule.suffixes, mem_append,
    mem_flatMap, mem_map, mem_filter, lineMatchers]
  constructor
  · rintro (⟨line, ⟨hline, hno⟩, hm⟩ | ⟨_, ⟨line, ⟨hline, hyes⟩, rfl⟩, hm⟩)
    · exact ⟨line, hline, by simpa [of_decide_eq_true hno] using hm⟩
    · exact ⟨line, hline, by simpa [hyes] using hm⟩
  · rintro ⟨line, hline, hm⟩
    by_cases hpre : Go.hasPrefix line "domain:" = true
    · exact .inr ⟨_, ⟨line, ⟨hline, hpre⟩, rfl⟩, by simpa [hpre] using hm⟩
    · exact .inl ⟨line, ⟨hline, by simpa using hpre⟩, by simpa [hpre] using hm⟩

/-- What the matchers for an entry match. -/
lemma any_domainEntry {plain : String → Dns.DomainRule} {d : String} :
    (Dns.domainEntry (some resolve) plain d).any (·.matches q) =
      if Go.hasPrefix d "geosite:" then inGeosite resolve (Go.trimPrefix d "geosite:") q
      else (plain d).matches q := by
  unfold Dns.domainEntry inGeosite
  split
  · simp [Function.comp_def]
  · simp

lemma trimPrefix_of_hasPrefix_eq_false {s pre : String} (h : Go.hasPrefix s pre = false) :
    Go.trimPrefix s pre = s := by
  simp [Go.trimPrefix, h]

lemma any_lineMatchers {line : String} :
    (lineMatchers resolve line).any (·.matches q) = lineMatches resolve q line := by
  unfold lineMatchers lineMatches readTag
  cases hdomain : Go.hasPrefix line "domain:" with
  | true =>
    simp only [if_true, any_domainEntry]
    split <;> simp_all
  | false =>
    simp only [Bool.false_eq_true, if_false, any_domainEntry,
      trimPrefix_of_hasPrefix_eq_false hdomain]
    split <;> simp_all

lemma lineMatchers_eq_nil_iff {line : String} :
    lineMatchers resolve line = [] ↔ isEmptyTag resolve line := by
  have hentry {plain : String → Dns.DomainRule} {d : String} :
      Dns.domainEntry (some resolve) plain d = [] ↔ Go.hasPrefix d "geosite:" = true ∧
        (resolve (Go.trimPrefix d "geosite:")).1 = [] ∧
        (resolve (Go.trimPrefix d "geosite:")).2 = [] := by
    unfold Dns.domainEntry
    split <;> simp_all
  unfold lineMatchers isEmptyTag readTag
  cases hdomain : Go.hasPrefix line "domain:" with
  | true =>
    simp
    split <;> simp_all
  | false =>
    simp only [Bool.false_eq_true, if_false, trimPrefix_of_hasPrefix_eq_false hdomain]
    split <;> simp_all

/-- The lines of a rule match if one of them does, or if none of them has a matcher. -/
lemma fieldHolds_domain_iff {texts : Dns.Texts} (htexts : texts.regexes = []) :
    Dns.FieldHolds ((rule.core lib).groups (some resolve) texts).domain q ↔
      (∀ line ∈ rule.domainLines, isEmptyTag resolve line) ∨
        ∃ line ∈ rule.domainLines, lineMatches resolve q line := by
  have hgroup : ((rule.core lib).groups (some resolve) texts).domain =
      (Dns.domainEntries (some resolve) (rule.core lib)).map .domain := by
    simp [Dns.DnsRule.groups, htexts]
  rw [Dns.FieldHolds, hgroup, map_eq_nil_iff]
  refine or_congr ?_ ?_
  · simp only [mem_domainEntries_core, ← lineMatchers_eq_nil_iff, eq_nil_iff_forall_not_mem]
    grind
  · simp only [mem_map, ← any_lineMatchers, any_eq_true]
    constructor
    · rintro ⟨_, ⟨m, hm, rfl⟩, hmatches⟩
      obtain ⟨line, hline, hm⟩ := mem_domainEntries_core.mp hm
      exact ⟨line, hline, m, hm, hmatches⟩
    · rintro ⟨line, hline, m, hm, hmatches⟩
      exact ⟨_, ⟨m, mem_domainEntries_core.mpr ⟨line, hline, hm⟩, rfl⟩, hmatches⟩

end

/-! ### Rules that are read -/

/-- The types and the clients of a rule can be read. -/
def DnsRule.Readable (lib : Dns.Library) (rule : DnsRule) : Prop :=
  (∀ name ∈ rule.queryTypes, (lib.stringToType name).isSome) ∧
    ∀ s ∈ rule.clientIPs, ∃ cidr, Dns.parseCIDR lib s = .ok cidr

section

variable {lib : Dns.Library} {resolve : Dns.GeositeResolver} {rule : DnsRule} {q : Dns.DnsQuery}

/-- A condition on the type is kept. -/
lemma fieldHolds_queryType_iff {texts : Dns.Texts} (hread : rule.Readable lib) :
    Dns.FieldHolds ((rule.core lib).groups (some resolve) texts).queryType q ↔
      rule.queryTypes = [] ∨ rule.typeListed lib q := by
  have hnil : rule.queryTypes.filterMap lib.stringToType = [] ↔ rule.queryTypes = [] := by
    rw [filterMap_eq_nil_iff, eq_nil_iff_forall_not_mem]
    refine forall_congr' fun name => ⟨fun h hname => ?_, fun h hname => absurd hname h⟩
    have hsome := hread.1 name hname
    simp [h hname] at hsome
  simp only [Dns.FieldHolds, Dns.DnsRule.groups, DnsRule.core, DnsRule.typeListed,
    map_eq_nil_iff, hnil]
  simp [Dns.FieldMatcher.matches]

/-- A condition on the client is kept. -/
lemma fieldHolds_clientIP_iff {texts : Dns.Texts}
    (htexts : (rule.core lib).texts lib = .ok texts) :
    Dns.FieldHolds ((rule.core lib).groups (some resolve) texts).clientIP q ↔
      rule.clientIPs = [] ∨ rule.clientListed lib q := by
  have hall : Forall₂ (fun s cidr => Dns.parseCIDR lib s = .ok cidr) rule.clientIPs
      texts.clientIPs := Dns.clientIPs_of_texts htexts
  have hnil : texts.clientIPs = [] ↔ rule.clientIPs = [] := by
    rw [← length_eq_zero_iff, ← hall.length_eq, length_eq_zero_iff]
  simp only [Dns.FieldHolds, Dns.DnsRule.groups, map_eq_nil_iff, hnil, DnsRule.clientListed,
    any_eq_true, mem_map]
  refine or_congr_right ⟨?_, ?_⟩
  · rintro ⟨_, ⟨cidr, hcidr, rfl⟩, hmatches⟩
    obtain ⟨s, hs, hparse⟩ := hall.exists_of_mem_right hcidr
    exact ⟨s, hs, by simpa [hparse, Dns.FieldMatcher.matches] using hmatches⟩
  · rintro ⟨s, hs, hlisted⟩
    obtain ⟨cidr, hcidr, hparse⟩ := hall.exists_of_mem_left hs
    exact ⟨_, ⟨cidr, hcidr, rfl⟩, by simpa [hparse, Dns.FieldMatcher.matches] using hlisted⟩

/-- Which queries a generated rule matches. -/
lemma matches_core_iff (hread : rule.Readable lib) (hip : rule.ips = []) :
    (rule.core lib).matches lib (some resolve) q ↔
      ((∀ line ∈ rule.domainLines, isEmptyTag resolve line) ∨
        ∃ line ∈ rule.domainLines, lineMatches resolve q line) ∧
      rule.othersHold lib q := by
  have hcompiles : (rule.core lib).Compiles lib := by
    refine ⟨by simp [DnsRule.core], fun s hs => hread.2 s ?_⟩
    simpa [DnsRule.core, hip] using hs
  obtain ⟨texts, htexts⟩ := Dns.exists_texts_iff.mpr hcompiles
  obtain ⟨hregexes, hips, -⟩ := Dns.length_texts htexts
  have hregexes : texts.regexes = [] := length_eq_zero_iff.mp hregexes
  have hips : texts.ips = [] := by
    rw [← length_eq_zero_iff, hips]
    simp [DnsRule.core, hip]
  have hip' : Dns.FieldHolds ((rule.core lib).groups (some resolve) texts).ip q := by
    simp [Dns.FieldHolds, Dns.DnsRule.groups, hips]
  rw [Dns.matches_iff htexts, fieldHolds_domain_iff hregexes, fieldHolds_queryType_iff hread,
    fieldHolds_clientIP_iff htexts]
  simp only [hip', true_and, DnsRule.othersHold, Bool.decide_and, Bool.decide_or, Bool.and_eq_true,
    Bool.or_eq_true]
  grind

/-! ### When a rule means what it says -/

/-- Whether a line is a keyword, or a tag where a name is expected. -/
def isOdd (line : String) : Bool :=
  Go.hasPrefix line "keyword:" || Go.hasPrefix line "domain:geosite:"

/-- The lines of a rule mean what they say to a query. -/
structure LinesMean (resolve : Dns.GeositeResolver) (q : Dns.DnsQuery) (lines : List String) :
    Prop where
  /-- Tags without names are not all there is. -/
  empty : (∀ line ∈ lines, isEmptyTag resolve line = true) →
    ∃ line ∈ lines, lineHolds resolve q line = true
  /-- An odd line is not what decides: another line has the same effect. -/
  odd : (∃ line ∈ lines, isEmptyTag resolve line = false) → ∀ line ∈ lines, isOdd line = true →
    (lineHolds resolve q line = true → ∃ line' ∈ lines, lineMatches resolve q line' = true) ∧
      (lineMatches resolve q line = true → ∃ line' ∈ lines, lineHolds resolve q line' = true)

/-- A rule means what it says to a query. -/
structure DnsRule.Means (lib : Dns.Library) (resolve : Dns.GeositeResolver) (rule : DnsRule)
    (q : Dns.DnsQuery) : Prop where
  /-- Types are not the only condition, or they exclude the query. -/
  types : rule.domainLines = [] → rule.clientIPs = [] → rule.typeListed lib q = false
  lines : rule.domainLines ≠ [] → rule.othersHold lib q = true →
    LinesMean resolve q rule.domainLines

/-- Lines that are not odd mean what they say. -/
lemma lineMatches_eq_lineHolds {line : String} (h : isOdd line = false) :
    lineMatches resolve q line = lineHolds resolve q line := by
  rw [isOdd, Bool.or_eq_false_iff] at h
  obtain ⟨hkeyword, htag⟩ := h
  unfold lineMatches lineHolds readTag
  cases hdomain : Go.hasPrefix line "domain:" with
  | true =>
    have hgeosite : Go.hasPrefix (Go.trimPrefix line "domain:") "geosite:" = false := by
      rw [Bool.eq_false_iff] at htag ⊢
      intro hyes
      apply htag
      obtain ⟨d, hd⟩ := Go.hasPrefix_iff.mp hdomain
      obtain rfl : "domain:" ++ String.ofList d = line := String.toList_injective (by simp [← hd])
      rw [Go.trimPrefix_append] at hyes
      obtain ⟨rest, hrest⟩ := Go.hasPrefix_iff.mp hyes
      exact Go.hasPrefix_iff.mpr ⟨rest, by simp [← hrest]⟩
    simp [hgeosite]
  | false =>
    simp only [trimPrefix_of_hasPrefix_eq_false hdomain]
    split <;> simp_all

/-- Lines mean what they say exactly if the core reads them so. -/
lemma linesMean_iff {lines : List String} :
    LinesMean resolve q lines ↔
      ((∀ line ∈ lines, isEmptyTag resolve line) ∨
          (∃ line ∈ lines, lineMatches resolve q line) ↔
        ∃ line ∈ lines, lineHolds resolve q line) := by
  have hfalse : (∃ line ∈ lines, isEmptyTag resolve line = false) ↔
      ¬∀ line ∈ lines, isEmptyTag resolve line = true := by
    simp
  constructor
  · rintro ⟨hempty, hodd⟩
    by_cases hall : ∀ line ∈ lines, isEmptyTag resolve line = true
    · exact iff_of_true (.inl hall) (hempty hall)
    · have hodd := hodd (hfalse.mpr hall)
      simp only [hall, false_or]
      constructor
      · rintro ⟨line, hline, hmatches⟩
        cases hl : isOdd line with
        | true => exact (hodd line hline hl).2 hmatches
        | false => exact ⟨line, hline, lineMatches_eq_lineHolds hl ▸ hmatches⟩
      · rintro ⟨line, hline, hholds⟩
        cases hl : isOdd line with
        | true => exact (hodd line hline hl).1 hholds
        | false => exact ⟨line, hline, (lineMatches_eq_lineHolds hl).trans hholds⟩
  · intro hiff
    refine ⟨fun hall => hiff.mp (.inl hall), fun hsome line hline _ => ?_⟩
    simp only [hfalse.mp hsome, false_or] at hiff
    exact ⟨fun hholds => hiff.mpr ⟨line, hline, hholds⟩,
      fun hmatches => hiff.mp ⟨line, hline, hmatches⟩⟩

attribute [local simp] DnsRule.hasCondition

/-- A generated rule matches what the rule was meant for, exactly if the rule means what it says. A
rule for which none is generated matches nothing. -/
lemma matches_eq_holds_iff (hread : rule.isConditional → rule.Readable lib)
    (hip : rule.ips = []) :
    (rule.isConditional && (rule.core lib).matches lib (some resolve) q) =
      rule.holds lib q resolve ↔ rule.Means lib resolve q := by
  have hlines : rule.domainLines = [] ↔ rule.names = [] ∧ rule.suffixes = [] := by
    unfold DnsRule.names DnsRule.suffixes
    rw [map_eq_nil_iff, filter_eq_nil_iff, filter_eq_nil_iff,
      eq_nil_iff_forall_not_mem]
    grind
  have hcond : rule.isConditional ↔ rule.domainLines ≠ [] ∨ rule.clientIPs ≠ [] := by
    simp only [DnsRule.isConditional, hip, ne_eq]
    grind
  by_cases hdomain : rule.domainLines = []
  · by_cases hclient : rule.clientIPs = []
    · -- no rule is generated, and the types alone decide what was meant
      have hno : rule.isConditional = false := by
        rw [Bool.eq_false_iff, Ne, hcond]
        simp [hdomain, hclient]
      have hholds : rule.holds lib q resolve = rule.typeListed lib q := by
        by_cases htypes : rule.queryTypes = []
        · simp [DnsRule.holds, DnsRule.typeListed, hdomain, hclient, htypes]
        · simp [DnsRule.holds, DnsRule.othersHold, hdomain, hclient, htypes]
      rw [hno, hholds, eq_comm]
      exact ⟨fun h => ⟨fun _ _ => h, fun hne => absurd hdomain hne⟩, fun h => h.types hdomain hclient⟩
    · have hyes := hcond.mpr (.inr hclient)
      have hmatches : (rule.core lib).matches lib (some resolve) q = rule.othersHold lib q := by
        rw [Bool.eq_iff_iff, matches_core_iff (hread hyes) hip]
        simp [hdomain]
      have hholds : rule.holds lib q resolve = rule.othersHold lib q := by
        simp [DnsRule.holds, hdomain, hclient]
      rw [hyes, hmatches, hholds]
      exact iff_of_true rfl ⟨fun _ hnil => absurd hnil hclient, fun hne => absurd hdomain hne⟩
  · have hyes := hcond.mpr (.inl hdomain)
    have hholds : rule.holds lib q resolve = true ↔
        (∃ line ∈ rule.domainLines, lineHolds resolve q line = true) ∧
          rule.othersHold lib q = true := by
      simp [DnsRule.holds, hdomain]
    have hmeans : rule.Means lib resolve q ↔
        (rule.othersHold lib q = true → LinesMean resolve q rule.domainLines) :=
      ⟨fun h => h.lines hdomain, fun h => ⟨fun hnil => absurd hnil hdomain, fun _ => h⟩⟩
    rw [hyes, Bool.true_and, Bool.eq_iff_iff, matches_core_iff (hread hyes) hip, hholds, hmeans,
      linesMean_iff]
    exact and_congr_left_iff

end

/-! ### Which rule answers -/

/-- The stored rule whose generated rule answers a query. The generated rules are the last ones of
the router. -/
def answering (rules : List DnsRule) (r : Dns.Router) (q : Dns.DnsQuery) : Option DnsRule :=
  let own := rules.filter (·.isConditional)
  ((own.zip (r.matchers.rtake own.length)).find? fun e => Dns.matchAll e.2 q).map Prod.fst

/-- A query is sent to the upstream of a rule: under the name of the upstream there is one with the
address and the outbound of the rule. -/
def SentTo (cfg : DnsModuleJson) (result : Dns.RouteResult) (rule : DnsRule) : Prop :=
  ∃ u, cfg.upstreams.find? (fun u => u.id = result.upstreamID) = some u ∧
    u.addr = rule.target.addr ∧ u.proxyTag = rule.tag

/-- A query is answered as the rules say: by the first rule that has conditions all of which hold,
with its action and at its upstream, or else at the upstream of the last rule without conditions. -/
structure AnswersAsSaid (lib : Dns.Library) (resolve : Dns.GeositeResolver) (cfg : DnsModuleJson)
    (rules : List DnsRule) (r : Dns.Router) (q : Dns.DnsQuery) : Prop where
  answering : answering rules r q = rules.find? (·.holds lib q resolve)
  rule : ∀ rule, rules.find? (·.holds lib q resolve) = some rule →
    SentTo cfg (r.route q) rule ∧ (r.route q).action = orElse rule.action "route"
  free : rules.find? (·.holds lib q resolve) = none → ∀ rule, lastFree rules = some rule →
    SentTo cfg (r.route q) rule ∧ (r.route q).action = "route"

/-- The default is that of the last rule without conditions: a later rule that has types only, which
are dropped, has the same upstream. -/
def DefaultMeans (rules : List DnsRule) : Prop :=
  ∀ free, lastFree rules = some free →
    ∀ last, (rules.filter (¬·.isConditional)).getLast? = some last →
      last.target.addr = free.target.addr ∧ last.tag = free.tag

section

variable {env : DnsEnv} {rules : List DnsRule} {hosts : List String}
  {resolved : String → Option String} {resolve : Dns.GeositeResolver} {q : Dns.DnsQuery}

variable {rule : DnsRule}

/-- The names of types are written in capitals. -/
lemma toUpper_of_mem_queryTypes {name : String} (h : name ∈ rule.queryTypes) :
    Go.toUpper name = name := by
  unfold DnsRule.queryTypes at h
  split at h
  · simp at h
  · obtain ⟨text, -, rfl⟩ := mem_map.mp h
    exact Go.toUpper_toUpper text

lemma filterMap_of_forall₂ {lib : Dns.Library} {names : List String} {types : List ℕ}
    (h : Forall₂ (fun name type => lib.stringToType (Go.toUpper name) = some type) names types)
    (hupper : ∀ name ∈ names, Go.toUpper name = name) :
    types = names.filterMap lib.stringToType := by
  induction h with
  | nil => rfl
  | @cons name type names types hname _ ih =>
    rw [hupper name mem_cons_self] at hname
    rw [filterMap_cons_some hname, ← ih fun n hn => hupper n (mem_cons_of_mem _ hn)]

/-- The generated rule of a stored rule in the core. -/
def IsLoaded (env : DnsEnv) (rules : List DnsRule) (rule : DnsRule) (loaded : Dns.DnsRule) : Prop :=
  ∃ n, (rule.migrate.moduleRule (rule.migrate.upstreamID (suppliers rules)) n).load env.lib =
    .ok loaded

lemma IsLoaded.eq {loaded : Dns.DnsRule} (h : IsLoaded env rules rule loaded) :
    ∃ types, Forall₂ (fun name type => env.lib.stringToType (Go.toUpper name) = some type)
        rule.queryTypes types ∧
      loaded =
        { id := orElse rule.ruleID ("rule-" ++ toString rule.id)
          upstream := rule.migrate.upstreamID (suppliers rules)
          action := orElse rule.action "route", policy := orElse rule.policy "single"
          domain := rule.names, domainSuffix := rule.suffixes, ip := rule.ips
          clientIP := rule.clientIPs, queryType := types } := by
  obtain ⟨n, hload⟩ := h
  rw [DnsRule.moduleRule_migrate] at hload
  exact load_rule_eq_ok_iff.mp hload

/-- It matches as far as the conditions of the stored rule say. -/
lemma IsLoaded.matches_eq {loaded : Dns.DnsRule} (h : IsLoaded env rules rule loaded)
    (resolver : Option Dns.GeositeResolver) :
    loaded.matches env.lib resolver q = (rule.core env.lib).matches env.lib resolver q := by
  obtain ⟨types, htypes, rfl⟩ := h.eq
  obtain rfl := filterMap_of_forall₂ htypes fun name => toUpper_of_mem_queryTypes
  rfl

section

variable (hup : ∀ rule ∈ rules, rule.upstreamText ≠ "")
include hup

/-- The rules that supply an upstream are all of them. -/
lemma suppliers_of_forall :
    suppliers rules = rules.map DnsRule.migrate := by
  refine filter_eq_self.mpr fun rule hrule => ?_
  obtain ⟨stored, hstored, rfl⟩ := mem_map.mp hrule
  simpa using hup stored hstored

/-- The rules of the core are those of the stored rules that are not defaults. -/
lemma forall₂_isLoaded {loaded : List Dns.DnsRule}
    (h : (generateRules env rules).rules.mapM (DnsModuleRule.load env.lib) = .ok loaded) :
    Forall₂ (IsLoaded env rules) (rules.filter (·.isConditional)) loaded := by
  have hgen := (generated_generateRules env rules).rules
  have hown : (suppliers rules).filter (·.isConditional) =
      (rules.filter (·.isConditional)).map DnsRule.migrate := by
    rw [suppliers_of_forall hup, filter_map]
    congr 2
    funext rule
    simp
  rw [hgen, hown, mapM_map, mapM_eq_ok_iff, zipIdx_map,
    forall₂_map_left_iff] at h
  have hfst : rules.filter (·.isConditional) =
      (rules.filter (·.isConditional)).zipIdx.map Prod.fst := by simp
  rw [hfst, forall₂_map_left_iff]
  exact h.imp fun e core hload => ⟨e.2, hload⟩

/-- The configuration can be loaded exactly if the rules that are not defaults can be read. -/
lemma exists_loadRouter_iff
    (hip : ∀ rule ∈ rules, rule.ips = []) :
    (∃ r, loadRouter env.lib resolved (some resolve) (generateDnsModuleConfig env rules hosts) =
        .ok r) ↔
      ∀ rule ∈ rules, rule.isConditional → rule.Readable env.lib := by
  constructor
  · rintro ⟨r, hr⟩ rule hrule hcond
    obtain ⟨loaded, matchers, hloaded, hms, -⟩ := loadRouter_generate_iff.mp hr
    have hmem : rule ∈ rules.filter (·.isConditional) := mem_filter.mpr ⟨hrule, hcond⟩
    obtain ⟨core, hcore, hload⟩ := (forall₂_isLoaded hup hloaded).exists_of_mem_left hmem
    have hcompiles := (Dns.exists_compileRules_iff _).mp ⟨_, hms⟩ core
      (mem_append_right _ hcore)
    obtain ⟨types, htypes, rfl⟩ := hload.eq
    refine ⟨fun name hname => ?_, fun s hs => hcompiles.2 s (mem_append_right _ hs)⟩
    obtain ⟨type, -, htype⟩ := htypes.exists_of_mem_left hname
    rw [toUpper_of_mem_queryTypes hname] at htype
    simp [htype]
  · intro hread
    have hwritten : ∀ written ∈ (generateRules env rules).rules,
        ∃ core, written.load env.lib = .ok core := by
      intro written hwritten
      obtain ⟨stored, hstored, n, rfl⟩ :=
        (generated_generateRules env rules).forall₂_rules.exists_of_mem_right hwritten
      obtain ⟨hmem, hcond⟩ := mem_filter.mp hstored
      rw [suppliers_of_forall hup] at hmem
      obtain ⟨rule, hrule, rfl⟩ := mem_map.mp hmem
      obtain ⟨hnames, -⟩ := hread rule hrule (by simpa using hcond)
      rw [DnsRule.moduleRule_migrate]
      refine ⟨_, load_rule_eq_ok_iff.mpr ⟨rule.queryTypes.filterMap env.lib.stringToType, ?_, rfl⟩⟩
      refine forall₂_filterMap_iff.mpr fun name hname => ?_
      obtain ⟨type, htype⟩ := Option.isSome_iff_exists.mp (hnames name hname)
      exact ⟨type, htype, (toUpper_of_mem_queryTypes hname).symm ▸ htype⟩
    obtain ⟨loaded, hloaded⟩ := exists_mapM_eq_ok_iff.mpr hwritten
    have hcompiles : ∀ core ∈ coreNodeRules env.lib hosts ++ loaded, core.Compiles env.lib := by
      intro core hcore
      rcases mem_append.mp hcore with hnode | hcore
      · unfold coreNodeRules at hnode
        split at hnode
        · simp at hnode
        · obtain rfl := mem_singleton.mp hnode
          simp [Dns.DnsRule.Compiles, coreNodeRule]
      · obtain ⟨rule, hrule, hload⟩ := (forall₂_isLoaded hup hloaded).exists_of_mem_right hcore
        obtain ⟨hmem, hcond⟩ := mem_filter.mp hrule
        obtain ⟨types, -, rfl⟩ := hload.eq
        refine ⟨by simp, fun s hs => (hread rule hmem hcond).2 s ?_⟩
        simpa [hip rule hmem] using hs
    obtain ⟨matchers, hms⟩ := (Dns.exists_compileRules_iff (some resolve)).mpr hcompiles
    exact ⟨_, loadRouter_generate_iff.mpr ⟨loaded, matchers, hloaded, hms, rfl⟩⟩

end

lemma find?_conditional (rules : List DnsRule) (p : DnsRule → Bool) :
    (rules.filter (·.isConditional)).find? p = rules.find? fun rule => rule.isConditional && p rule := by
  simp

variable {r : Dns.Router}

section

variable (hup : ∀ rule ∈ rules, rule.upstreamText ≠ "")
include hup

/-- What is sent to the upstream of a rule is sent to that of another one exactly if both have the
same address and outbound. -/
lemma sentTo_iff {rule other : DnsRule}
    (hrule : rule ∈ rules) {result : Dns.RouteResult}
    (hresult : result.upstreamID = rule.migrate.upstreamID (suppliers rules)) :
    SentTo (generateDnsModuleConfig env rules hosts) result other ↔
      rule.target.addr = other.target.addr ∧ rule.tag = other.tag := by
  have hmem : rule.migrate ∈ suppliers rules := by
    rw [suppliers_of_forall hup]
    exact mem_map_of_mem hrule
  obtain ⟨first, i, hfirst, hfind⟩ := find?_upstreamID env rules hosts hmem
  have hkey : first.key = rule.key := by
    simpa using find?_some hfirst
  unfold SentTo
  rw [hresult, hfind]
  rw [DnsRule.key, DnsRule.key, UpstreamKey.mk.injEq] at hkey
  simp [DnsRule.upstreamConfig, hkey]

variable
  (hr : loadRouter env.lib resolved (some resolve) (generateDnsModuleConfig env rules hosts) =
    .ok r)
include hr

/-- The generated rules of the router are asked as far as their conditions say. -/
lemma answering_eq (q : Dns.DnsQuery) :
    answering rules r q = rules.find? fun rule =>
      rule.isConditional && (rule.core env.lib).matches env.lib (some resolve) q := by
  obtain ⟨loaded, matchers, hloaded, hms, rfl⟩ := loadRouter_generate_iff.mp hr
  have hown := forall₂_isLoaded hup hloaded
  have hcompiled := Dns.compileRules_eq_ok_iff.mp hms
  -- the matchers of the generated rules are the last ones
  have htake : matchers.rtake (rules.filter (·.isConditional)).length =
      matchers.drop (coreNodeRules env.lib hosts).length := by
    rw [rtake, ← hcompiled.length_eq, hown.length_eq, length_append,
      Nat.add_sub_cancel]
  have htail := forall₂_drop (coreNodeRules env.lib hosts).length hcompiled
  rw [drop_left] at htail
  have hall : Forall₂ (fun rule ms => (rule.core env.lib).matches env.lib (some resolve) q =
      Dns.matchAll ms q) (rules.filter (·.isConditional))
      (matchers.drop (coreNodeRules env.lib hosts).length) := by
    refine hown.comp htail fun rule core ms hload hbuild => ?_
    rw [← hload.matches_eq, Dns.DnsRule.matches, hbuild]
  unfold answering
  dsimp only
  rw [htake, hall.find?_zip, find?_conditional]

/-- A query for no name of a server is answered by a generated rule, or by the default. -/
lemma route_cases
    (hnode : ∀ core ∈ coreNodeRules env.lib hosts, core.matches env.lib (some resolve) q = false) :
    (answering rules r q = none ∧ r.route q = r.result none) ∨
      ∃ rule core, answering rules r q = some rule ∧ IsLoaded env rules rule core ∧
        r.route q = r.result (some core) := by
  rw [answering_eq hup hr, ← find?_conditional]
  obtain ⟨loaded, matchers, hloaded, hms, rfl⟩ := loadRouter_generate_iff.mp hr
  have hnone : (coreNodeRules env.lib hosts).find? (·.matches env.lib (some resolve) q) = none := by
    rw [find?_eq_none]
    exact fun core hcore => by simp [hnode core hcore]
  rw [Dns.route_of_compileRules hms rfl rfl, find?_append, hnone, Option.none_or]
  rcases (forall₂_isLoaded hup hloaded).find?_cases
      fun rule core hload => (hload.matches_eq (some resolve)).symm with
    ⟨hrule, hcore⟩ | ⟨rule, core, hrule, hcore, hload⟩
  · exact .inl ⟨hrule, by rw [hcore]⟩
  · exact .inr ⟨rule, core, hrule, hload, by rw [hcore]⟩

/-- What no rule matches is sent to the upstream of the last rule for which no rule is generated. -/
lemma defaultUpstream_eq {last : DnsRule} (hlast : (rules.filter (¬·.isConditional)).getLast? = some last) :
    r.defaultUpstream = last.migrate.upstreamID (suppliers rules) := by
  obtain ⟨loaded, matchers, hloaded, hms, rfl⟩ := loadRouter_generate_iff.mp hr
  have hgen := (generated_generateRules env rules).default
  have hfilter : (suppliers rules).filter (¬·.isConditional) =
      (rules.filter (¬·.isConditional)).map DnsRule.migrate := by
    rw [suppliers_of_forall hup, filter_map]
    congr 2
    funext rule
    simp
  rw [hfilter, getLast?_map, hlast] at hgen
  have hne : (generateRules env rules).defaultUpstream ≠ "" := by
    rw [hgen]
    exact upstreamName_ne_empty _
  exact (if_pos hne).trans hgen

end

/-- A rule without conditions is one for which no rule is generated. -/
lemma isConditional_of_hasCondition (hip : rule.ips = []) (h : rule.hasCondition = false) :
    rule.isConditional = false := by
  simp only [DnsRule.hasCondition, decide_eq_false_iff_not, not_or, not_not] at h
  obtain ⟨hlines, hclient, -⟩ := h
  simp [DnsRule.isConditional, DnsRule.names, DnsRule.suffixes, hlines, hclient, hip]

lemma exists_last_of_lastFree (hip : ∀ rule ∈ rules, rule.ips = []) {free : DnsRule}
    (h : lastFree rules = some free) :
    ∃ last, (rules.filter (¬·.isConditional)).getLast? = some last := by
  obtain ⟨hmem, hfree⟩ := mem_filter.mp (mem_of_getLast? h)
  have hno : free.isConditional = false :=
    isConditional_of_hasCondition (hip free hmem) (by simpa using hfree)
  have hne : rules.filter (¬·.isConditional) ≠ [] :=
    ne_nil_of_mem (mem_filter.mpr ⟨hmem, by simp [hno]⟩)
  exact ⟨_, getLast?_eq_some_getLast hne⟩

/-- The rule for the names of servers does not match other names. -/
lemma matches_coreNodeRules_eq_false (resolve : Dns.GeositeResolver)
    (hhosts : ∀ host ∈ hosts, (env.lib.parseIP host).isSome ∨ IsDnsName host)
    (hnode : ¬∃ host ∈ hosts, env.lib.parseIP host = none ∧ AsksFor q host) :
    ∀ core ∈ coreNodeRules env.lib hosts, core.matches env.lib (some resolve) q = false := by
  intro core hcore
  unfold coreNodeRules at hcore
  split at hcore
  next => simp at hcore
  next hdomains =>
    obtain rfl := mem_singleton.mp hcore
    have hnames : ∀ d ∈ nodeDomains env.lib hosts, IsDnsName d := fun d hd => by
      obtain ⟨hmem, hnone⟩ := (mem_nodeDomains_iff hhosts).mp hd
      exact (hhosts d hmem).resolve_left (by simp [hnone])
    rw [Bool.eq_false_iff, Ne, matches_coreNodeRule_iff env.lib _ hdomains hnames]
    rintro ⟨d, hd, hasks⟩
    obtain ⟨hmem, hnone⟩ := (mem_nodeDomains_iff hhosts).mp hd
    exact hnode ⟨d, hmem, hnone, hasks⟩

section

variable {r : Dns.Router} (hup : ∀ rule ∈ rules, rule.upstreamText ≠ "")
  (hip : ∀ rule ∈ rules, rule.ips = [])
  (hnode : ∀ core ∈ coreNodeRules env.lib hosts, core.matches env.lib (some resolve) q = false)
  (hr : loadRouter env.lib resolved (some resolve) (generateDnsModuleConfig env rules hosts) = .ok r)

include hup hip hr in
/-- The rule that is meant to answer does, exactly if the rules mean what they say. -/
lemma answering_eq_iff :
    answering rules r q = rules.find? (·.holds env.lib q resolve) ↔
      ∀ before rule after, rules = before ++ rule :: after →
        (∀ b ∈ before, b.holds env.lib q resolve = false) → rule.Means env.lib resolve q := by
  have hread := (exists_loadRouter_iff hup hip).mp ⟨r, hr⟩
  rw [answering_eq hup hr, find?_eq_find?_iff]
  refine forall₃_congr fun before rule after => forall₂_congr fun hrules _ => ?_
  have hmem : rule ∈ rules := hrules ▸ by simp
  exact matches_eq_holds_iff (hread rule hmem) (hip rule hmem)

include hup hnode hr in
/-- A query that is answered by a rule is sent to its upstream, with its action. -/
lemma sentTo_of_answering {rule : DnsRule} (h : answering rules r q = some rule) :
    SentTo (generateDnsModuleConfig env rules hosts) (r.route q) rule ∧
      (r.route q).action = orElse rule.action "route" := by
  have hmem : rule ∈ rules := by
    rw [answering_eq hup hr] at h
    exact mem_of_find?_eq_some h
  rcases route_cases hup hr hnode with ⟨hnone, -⟩ | ⟨rule', core, hsome, hload, hroute⟩
  · simp [hnone] at h
  · obtain rfl : rule' = rule := Option.some.inj (hsome.symm.trans h)
    obtain ⟨types, -, rfl⟩ := hload.eq
    rw [hroute]
    refine ⟨(sentTo_iff hup hmem rfl).mpr ⟨rfl, rfl⟩, ?_⟩
    have hne : orElse rule'.action "route" ≠ "" := by
      unfold orElse
      grind
    exact if_neg hne

include hup hip hnode hr in
/-- A query that is answered by no rule is sent to the upstream of the last rule without conditions,
exactly if the default means what it says. -/
lemma sentTo_free_iff (h : answering rules r q = none) :
    (∀ free, lastFree rules = some free →
      SentTo (generateDnsModuleConfig env rules hosts) (r.route q) free ∧
        (r.route q).action = "route") ↔ DefaultMeans rules := by
  have hroute : r.route q = r.result none := by
    rcases route_cases hup hr hnode with ⟨-, hroute⟩ | ⟨rule, core, hsome, -, -⟩
    · exact hroute
    · simp [hsome] at h
  refine forall₂_congr fun free hfree => ?_
  obtain ⟨last, hlast⟩ := exists_last_of_lastFree hip hfree
  have hmem : last ∈ rules := mem_of_mem_filter (mem_of_getLast? hlast)
  have hid : (r.route q).upstreamID = last.migrate.upstreamID (suppliers rules) := by
    rw [hroute]
    exact defaultUpstream_eq hup hr hlast
  have haction : (r.route q).action = "route" := by
    rw [hroute]
    rfl
  rw [sentTo_iff hup hmem hid, hlast]
  simp [haction]

end

end

/-- A query that is not for the name of a server is answered as the rules say, exactly if the rules
that are written for the module can be read, each rule that no rule which is meant to answer stands
in front of means what it says, and, if no rule is meant to answer, the default means what it
says. -/
theorem rules_mean_what_they_say_iff (env : DnsEnv) (rules : List DnsRule) (hosts : List String)
    (resolved : String → Option String) (resolve : Dns.GeositeResolver) (q : Dns.DnsQuery)
    (hup : ∀ rule ∈ rules, rule.upstreamText ≠ "") (hip : ∀ rule ∈ rules, rule.ips = [])
    (hhosts : ∀ host ∈ hosts, (env.lib.parseIP host).isSome ∨ IsDnsName host)
    (hnode : ¬∃ host ∈ hosts, env.lib.parseIP host = none ∧ AsksFor q host) :
    (∃ r, loadRouter env.lib resolved (some resolve) (generateDnsModuleConfig env rules hosts) =
        .ok r ∧
      AnswersAsSaid env.lib resolve (generateDnsModuleConfig env rules hosts) rules r q) ↔
    (∀ rule ∈ rules, rule.isConditional = true → rule.Readable env.lib) ∧
      (∀ before rule after, rules = before ++ rule :: after →
        (∀ b ∈ before, b.holds env.lib q resolve = false) → rule.Means env.lib resolve q) ∧
      (rules.find? (·.holds env.lib q resolve) = none → DefaultMeans rules) := by
  have hnode := matches_coreNodeRules_eq_false resolve hhosts hnode
  constructor
  · rintro ⟨r, hr, hanswering, -, hfree⟩
    refine ⟨(exists_loadRouter_iff hup hip).mp ⟨r, hr⟩,
      (answering_eq_iff hup hip hr).mp hanswering, fun hnone => ?_⟩
    exact (sentTo_free_iff hup hip hnode hr (hanswering.trans hnone)).mp (hfree hnone)
  · rintro ⟨hread, hmeans, hdefault⟩
    obtain ⟨r, hr⟩ := (exists_loadRouter_iff hup hip).mpr hread
    have hanswering := (answering_eq_iff hup hip hr).mpr hmeans
    refine ⟨r, hr, hanswering, fun rule hrule => ?_, fun hnone => ?_⟩
    · exact sentTo_of_answering hup hnode hr (hanswering.trans hrule)
    · exact (sentTo_free_iff hup hip hnode hr (hanswering.trans hnone)).mpr (hdefault hnone)

/-- A rule that rejects a line of domains. -/
def rejectRule (domain : String) : DnsRule :=
  { upstream := "8.8.8.8", domain, action := "reject" }

/-- A rule for everything else. -/
def freeRule : DnsRule := { upstream := "1.1.1.1" }

/-- A name below one that is rejected is rejected. -/
theorem rules_mean_what_they_say_domain :
    ∃ r, loadRouter .blank (fun _ => none) (some fun _ => ([], []))
        (generateDnsModuleConfig { lib := .blank } [rejectRule "domain:example.com", freeRule] []) =
        .ok r ∧
      AnswersAsSaid .blank (fun _ => ([], []))
        (generateDnsModuleConfig { lib := .blank } [rejectRule "domain:example.com", freeRule] [])
        [rejectRule "domain:example.com", freeRule] r ⟨"www.example.com.", 1, []⟩ := by
  have hholds : (rejectRule "domain:example.com").holds .blank ⟨"www.example.com.", 1, []⟩
      (fun _ => ([], [])) = true := by decide +kernel
  have hlines : (rejectRule "domain:example.com").domainLines = ["domain:example.com"] := by
    decide +kernel
  have hnames : ∀ rule ∈ [rejectRule "domain:example.com", freeRule],
      rule.queryTypes = [] ∧ rule.clientIPs = [] := by decide +kernel
  refine (rules_mean_what_they_say_iff { lib := .blank } _ [] _ _ _ (by decide) (by decide)
    (by simp) (by simp)).mpr ⟨fun rule hrule _ => ?_, ?_, fun hnone => ?_⟩
  · obtain ⟨htypes, hclients⟩ := hnames rule hrule
    simp [DnsRule.Readable, htypes, hclients]
  · intro before rule after hrules hbefore
    cases before with
    | nil =>
      obtain rfl : rejectRule "domain:example.com" = rule := (cons.inj hrules).1
      refine ⟨fun hnil => by simp [hlines] at hnil, fun _ _ => ?_⟩
      exact ⟨by decide +kernel, by decide +kernel⟩
    | cons b before =>
      obtain rfl : rejectRule "domain:example.com" = b := (cons.inj hrules).1
      have := hbefore _ mem_cons_self
      cases this
  · rw [find?_cons, hholds] at hnone
    cases hnone

/-- A name that contains a word that is to be rejected is answered. -/
theorem keyword_is_not_rejected :
    let rules := [rejectRule "keyword:ads", freeRule]
    let q : Dns.DnsQuery := ⟨"ads.example.com.", 1, []⟩
    let cfg := generateDnsModuleConfig { lib := .blank } rules []
    rules.find? (·.holds .blank q fun _ => ([], [])) = some (rejectRule "keyword:ads") ∧
      ∃ r, loadRouter .blank (fun _ => none) (some fun _ => ([], [])) cfg = .ok r ∧
        (r.route q).upstreamAddr = "1.1.1.1:53" ∧ (r.route q).action = "route" ∧
        ¬AnswersAsSaid .blank (fun _ => ([], [])) cfg rules r q := by
  have hfind : [rejectRule "keyword:ads", freeRule].find?
      (·.holds .blank ⟨"ads.example.com.", 1, []⟩ fun _ => ([], [])) =
      some (rejectRule "keyword:ads") := by decide +kernel
  refine ⟨hfind, _, rfl, by decide +kernel, by decide +kernel, fun h => ?_⟩
  exact absurd (h.rule _ hfind).2 (by decide +kernel)

end V2rayA
