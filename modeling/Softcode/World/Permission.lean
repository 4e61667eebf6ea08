import Softcode.World.Basic

namespace Softcode

/-!
# Permissions

Who may do what to whom.
-/

/-- A privilege that a function or command may ask for. -/
inductive Capability where
  | wizard | royalty
deriving Repr, DecidableEq

namespace World

/-- May `who` change `what`?  Everyone controls themselves and what they own, and a wizard controls
    everything. -/
def controls (w : World) (who what : Dbref) : Bool :=
  who == what || (w.object? who).any Object.isWizard || (w.object? what).any (·.owner == who)

/-- May `who` look at all of `what`? -/
def canExamine (w : World) (who what : Dbref) : Bool :=
  w.controls who what

/-- May `who` use what asks for the privilege?  One has to exist to use anything. -/
def canExecute (w : World) (who : Dbref) (requires : Option Capability) : Bool :=
  match w.object? who, requires with
  | none, _ => false
  | some _, none => true
  | some o, some .wizard => o.isWizard
  | some o, some .royalty => o.isWizard || o.hasFlag "ROYALTY"

/-- May the two have to do with each other? -/
def canInteract (_ : World) (_ _ : Dbref) : Bool :=
  true

end World

end Softcode
