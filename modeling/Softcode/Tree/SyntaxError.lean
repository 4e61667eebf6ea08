import Softcode.Source.Position
import Softcode.Token.Basic

namespace Softcode

/-!
# Syntax errors
-/

/-- A report of what is wrong with a text. -/
structure SyntaxError where
  line : Nat
  column : Nat
  /-- From what was opened to where the problem shows. -/
  range : Range
  message : String
  offending : Option String
  expected : List String
  input : List Char
deriving Repr, DecidableEq

end Softcode
