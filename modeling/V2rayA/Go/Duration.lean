import V2rayA.Go.Errors

/-!
# Durations

`time.ParseDuration`, which decides whether a probe interval is valid. A duration is an
optional sign and one or more decimal numbers, each with an optional fraction and a unit,
such as `300s` or `1h15m`. The result is in nanoseconds.
-/

namespace Go

namespace Duration

/-- One second. -/
def second : ℕ := 1000000000

/-- One hour. -/
def hour : ℕ := 3600 * second

/-- The units of a duration, in nanoseconds. -/
def unit : List Char → Option ℕ
  | ['n', 's'] => some 1
  | ['u', 's'] => some 1000
  | ['µ', 's'] => some 1000
  | ['μ', 's'] => some 1000
  | ['m', 's'] => some 1000000
  | ['s'] => some second
  | ['m'] => some (60 * second)
  | ['h'] => some hour
  | _ => none

/-- The value of a run of decimal digits. -/
def digits (cs : List Char) : ℕ :=
  cs.foldl (fun n c => 10 * n + (c.toNat - '0'.toNat)) 0

/-- Whether a character can stand in the number before a unit. -/
def inNumber (c : Char) : Bool := c.isDigit || c = '.'

/-- Why a text is not a duration. -/
inductive Problem
  | invalid
  | missingUnit
  | unknownUnit (name : String)
  deriving DecidableEq, Repr

/-- The text of the error for the whole text `s`. -/
def Problem.text (s : String) : Problem → String
  | invalid => "time: invalid duration " ++ quote s
  | missingUnit => "time: missing unit in duration " ++ quote s
  | unknownUnit name => "time: unknown unit " ++ quote name ++ " in duration " ++ quote s

/-- One number with its unit at the front of the text, and the text behind it. The fraction
is computed exactly, where Go computes it in floating point. -/
def element (cs : List Char) : Except Problem (ℕ × List Char) :=
  let whole := cs.takeWhile Char.isDigit
  let rest := cs.dropWhile Char.isDigit
  let (frac, rest) :=
    match rest with
    | '.' :: rest => (rest.takeWhile Char.isDigit, rest.dropWhile Char.isDigit)
    | _ => ([], rest)
  let name := rest.takeWhile fun c => !inNumber c
  if whole.isEmpty ∧ frac.isEmpty then .error .invalid
  else if name.isEmpty then .error .missingUnit
  else
    match unit name with
    | none => .error (.unknownUnit (String.ofList name))
    | some u =>
      let v := digits whole * u + digits frac * u / 10 ^ frac.length
      if v ≤ 2 ^ 63 then .ok (v, rest.drop name.length) else .error .invalid

/-- The sum of the elements of a text. Every element takes at least one character, so the
length of the text is enough `fuel`. -/
def elements : (fuel : ℕ) → List Char → ℕ → Except Problem ℕ
  | _, [], d => .ok d
  | 0, _ :: _, _ => .error .invalid
  | fuel + 1, cs, d => do
    let (v, rest) ← element cs
    if d + v ≤ 2 ^ 63 then elements fuel rest (d + v) else .error .invalid

/-- `time.ParseDuration` on the characters of a text. -/
def parse (cs : List Char) : Except Problem ℤ :=
  let (neg, cs) :=
    match cs with
    | '-' :: cs => (true, cs)
    | '+' :: cs => (false, cs)
    | cs => (false, cs)
  if cs = ['0'] then .ok 0
  else if cs = [] then .error .invalid
  else do
    let d ← elements cs.length cs 0
    if neg then .ok (-(d : ℤ))
    else if d ≤ 2 ^ 63 - 1 then .ok d else .error .invalid

end Duration

/-- `time.ParseDuration`. -/
def parseDuration (s : String) : Except Error ℤ :=
  match Duration.parse s.toList with
  | .ok d => .ok d
  | .error problem => .error { text := problem.text s }

example : (parseDuration "1h15m30.5s").toOption = some 4530500000000 := by decide

example : (parseDuration "60").toOption = none := by decide

end Go
