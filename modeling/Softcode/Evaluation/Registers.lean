import Softcode.Styled.Basic
import Softcode.Table
import Softcode.Text.Case

namespace Softcode

/-!
# Registers

Softcode keeps values in named registers.  The frames of an evaluation share one scope of registers,
so that what one call sets the next call sees, until a call is given a scope of its own.
-/

/-- The number of a scope. -/
abbrev ScopeId := Nat

/-- All scopes of an evaluation, in the order in which they were made. -/
structure Registers where
  scopes : List (Table String Styled) := [{}]
deriving Repr, DecidableEq

namespace Registers

/-- The registers of a scope. -/
def scope (r : Registers) (id : ScopeId) : Table String Styled := (r.scopes[id]?).getD {}

/-- The value of a register.  The case of its name does not count. -/
def find? (r : Registers) (id : ScopeId) (name : String) : Option Styled :=
  (r.scope id).find? (upperName name)

/-- Set a register. -/
def set (r : Registers) (id : ScopeId) (name : String) (value : Styled) : Registers :=
  ⟨r.scopes.set id ((r.scope id).insert (upperName name) value)⟩

/-- Make a new scope, with what is in another one now. -/
def fork (r : Registers) (id : ScopeId) : ScopeId × Registers :=
  (r.scopes.length, ⟨r.scopes ++ [r.scope id]⟩)

end Registers

end Softcode
