import Softcode.Pattern.Glob
import Softcode.Regex.Reader
import Softcode.Regex.Search

namespace Softcode

/-!
# Patterns

A pattern is a glob or a regular expression, with or without regard to case.
-/

/-- How a pattern is written. -/
inductive PatternForm where
  | glob (style : GlobStyle)
  | regex
deriving Repr, DecidableEq

/-- A pattern. -/
structure Pattern where
  form : PatternForm
  text : List Char
  caseSensitive : Bool
deriving Repr, DecidableEq

namespace Pattern

/-- The regular expression that the pattern stands for. -/
def source (p : Pattern) : List Char :=
  match p.form with
  | .glob style => globSource style p.caseSensitive p.text
  | .regex => p.text

/-- Make the pattern ready to be used, unless it is no regular expression or one whose program is
    longer than `maxSize`. -/
def compile? (p : Pattern) (maxSize : Nat := Regex.maxSize) : Option Matcher := do
  let (r, names) ← Regex.read? { fold := !p.caseSensitive } p.source
  if r.size ≤ maxSize then some (Matcher.ofRegex r names) else none

end Pattern

end Softcode
