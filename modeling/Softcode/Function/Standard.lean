import Softcode.Function.Control
import Softcode.Function.Object

namespace Softcode

/-!
# The standard functions
-/

/-- What a function does that takes part in the evaluation. -/
def Builtin.run (c : Call) : Builtin → EvalM Styled
  | lit => c.literal
  | choose => c.choose
  | switch => c.switch
  | iter => c.iterateOver
  | itext => c.onIteration fun i => pure i.value
  | inum => c.onIteration fun i => pure (.ofChars (Number.natText i.index))
  | ibreak => c.onIteration Call.halt
  | setq => c.setq
  | setr => c.setr
  | r => c.readRegister
  | u => c.callNamed false
  | ulocal => c.callNamed true
  | v => c.ownAttribute
  | get => c.anyAttribute
  | name => c.aboutObject fun o => o.elim [] (·.name.toList)
  | num => c.numberOf
  | loc => c.aboutObject fun o => Dbref.text ((o.bind (·.location)).getD Dbref.nothing)
  | owner => c.aboutObject fun o => Dbref.text (o.elim Dbref.nothing (·.owner))
  | elock => c.passesLockOf

/-- The standard functions, one after the other. -/
def functionList : List Function :=
  numberFunctions ++ textFunctions ++ controlFunctions ++ objectFunctions

/-- The functions that every engine has. -/
def standardFunctions : Functions := functionList.foldl Functions.register {}

end Softcode
