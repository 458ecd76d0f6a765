import V2rayA.Go.Strings

/-!
# Leftovers of the TUN

`tunCleanupResidual` recognises what an earlier run has left by the text that `ip` prints. It takes
every rule that ends in an address and a lookup of the main table for the rule of a node, whatever
it selects besides, and every device whose name begins like that of the TUN for the TUN.
-/

namespace V2rayA.Tun

/-- `strings.Fields`. -/
def fields (s : String) : List String :=
  ((s.toList.splitOnP Go.isSpace).filter (· ≠ [])).map String.ofList

/-- The lines that are printed for a family, without the blanks around them. -/
structure Printed where
  rules : List String
  /-- The routes of table 2020. -/
  routes : List String
  deriving DecidableEq

/-- `tunRules`. -/
def tunRules : List String :=
  ["7000:\tfrom all fwmark 0x80/0x80 lookup main", "7001:\tfrom all fwmark 0x80/0x80 unreachable",
    "7010:\tfrom all lookup main suppress_prefixlength 0", "7020:\tfrom all lookup 2020"]

/-- The text with blanks for tabs. -/
def spaced (s : String) : String := s.map fun c => if c = '\t' then ' ' else c

/-- The preference of a rule in the range of the TUN. -/
def reserved? (line : String) : Option String :=
  (Go.cut ':' line).bind fun (pref, _) =>
    if pref = "" ∨ pref < "7000" ∨ "7020" < pref ∨ pref.utf8ByteSize ≠ 4 then none else some pref

variable (parseAddr : String → Bool)

/-- A rule that is taken for the rule of a node. -/
def nodeLike (line : String) : Bool :=
  Go.hasSuffix line " lookup main" &&
    match (fields line).reverse with
    | _ :: _ :: addr :: "to" :: _ => parseAddr addr
    | _ => false

def ours (line pref : String) : Bool :=
  tunRules.any (fun r => spaced line = spaced r) || (pref = "7005" && nodeLike parseAddr line)

/-- The loop over the rules. A rule is deleted by what is printed of it. A rule of somebody else
ends the loop. -/
def deleteOurs (rules : List String) : List String → List String × Bool
  | [] => (rules, true)
  | line :: lines =>
    match reserved? line with
    | none => deleteOurs rules lines
    | some pref =>
      if ours parseAddr line pref then deleteOurs (rules.erase line) lines else (rules, false)

/-- `tunConflicts`. -/
def tunConflicts (p : Printed) : Printed :=
  let kept := deleteOurs parseAddr p.rules p.rules
  if kept.2 ∧ p.routes.all (fun line => line = "" || Go.hasPrefix line "default dev tun0") then
    ⟨kept.1, []⟩
  else { p with rules := kept.1 }

/-- `tunCleanupResidual`, for the two families. -/
def tunCleanupResidual (ps : Bool → Printed) (v6 : Bool) : Printed := tunConflicts parseAddr (ps v6)

/-- A rule of `tunRoutesUp`. -/
def IsOwnRule (line : String) : Prop :=
  (∃ r ∈ tunRules, spaced line = spaced r) ∨ ∃ addr, parseAddr addr = true ∧
    fields line = ["7005:", "from", "all", "to", addr, "lookup", "main"]

/-- A default route on the device of the TUN. -/
def IsTunDefault (line : String) : Bool := (fields line).take 3 = ["default", "dev", "tun0"]

/-- What looks like a rule or a route of the program is one. -/
structure Printed.Plain (p : Printed) : Prop where
  rules : ∀ line ∈ p.rules, nodeLike parseAddr line = true → IsOwnRule parseAddr line
  routes : ∀ line ∈ p.routes, Go.hasPrefix line "default dev tun0" = true → IsTunDefault line

variable {parseAddr} {rules lines : List String} {line pref : String}

lemma isOwnRule_of_ours (hnode : nodeLike parseAddr line → IsOwnRule parseAddr line)
    (h : ours parseAddr line pref) : IsOwnRule parseAddr line := by
  rcases Bool.or_eq_true_iff.mp h with h | h
  · exact .inl (by simpa using h)
  · exact hnode (Bool.and_eq_true_iff.mp h).2

/-- The loop leaves the rules of others. -/
lemma count_deleteOurs
    (hlines : ∀ line ∈ lines, nodeLike parseAddr line → IsOwnRule parseAddr line)
    {other : String} (hother : ¬IsOwnRule parseAddr other) :
    (deleteOurs parseAddr rules lines).1.count other = rules.count other := by
  induction lines generalizing rules with
  | nil => rfl
  | cons line lines ih =>
    obtain ⟨hline, hlines⟩ := List.forall_mem_cons.mp hlines
    unfold deleteOurs
    split
    · exact ih hlines
    · split_ifs with hours
      · have hne : other ≠ line := by
          rintro rfl
          exact hother (isOwnRule_of_ours hline hours)
        exact (ih hlines).trans (List.count_erase_of_ne hne)
      · rfl

end V2rayA.Tun
