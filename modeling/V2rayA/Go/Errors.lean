import Mathlib

/-!
# Go errors

An error of the program is its text, together with the code and the parameters that
`common.Coded` attaches for the user interface. An operation returns such an error or `nil`,
and leaves a state behind in both cases: `Op σ`.
-/

namespace Go

/-- A parameter of a coded error. -/
inductive Param
  | int (n : ℤ)
  | text (s : String)
  deriving DecidableEq, Repr

/-- An error with its text. `code` is empty for an error that was not coded. -/
structure Error where
  /-- What `Error()` returns. -/
  text : String
  /-- The code by which the user interface translates the error. -/
  code : String := ""
  /-- The parameters of the translated text. -/
  params : List (String × Param) := []
  deriving DecidableEq, Repr

/-- One character of a string as `%q` writes it. Characters beyond ASCII are taken to be
printable. -/
def quoteChar (c : Char) : String :=
  if c = '"' then "\\\""
  else if c = '\\' then "\\\\"
  else if c = '\n' then "\\n"
  else if c = '\r' then "\\r"
  else if c = '\t' then "\\t"
  else if c.toNat = 7 then "\\a"
  else if c.toNat = 8 then "\\b"
  else if c.toNat = 11 then "\\v"
  else if c.toNat = 12 then "\\f"
  else if c.toNat < 32 ∨ c.toNat = 127 then
    let digits := Nat.toDigits 16 c.toNat
    "\\x" ++ String.ofList (List.replicate (2 - digits.length) '0' ++ digits)
  else String.singleton c

/-- The verb `%q` of `fmt`. -/
def quote (s : String) : String :=
  "\"" ++ String.join (s.toList.map quoteChar) ++ "\""

/-- An operation on a state of type `σ`: the error that it returns, `none` for `nil`, and the
state that it leaves behind in either case. -/
abbrev Op (σ : Type) : Type := σ → Option Error × σ

/-- `fmt.Errorf(text + ": %w", err)` keeps the code and the parameters of the error that it
wraps. -/
def Error.wrap (text : String) (err : Error) : Error :=
  { err with text := text ++ ": " ++ err.text }

end Go
