import Softcode.Function.Call
import Softcode.Function.Number

namespace Softcode

/-!
# Functions of objects

Registers, attributes, and what there is to know about objects.
-/

namespace Call

/-! ### Registers -/

/-- Set a register of a frame. -/
def setRegister (frame : Frame) (name value : Styled) : EvalM Unit :=
  modify fun s => { s with
    registers := s.registers.set frame.registers (String.ofList (Text.trim name.chars)) value }

/-- Set registers to the values that follow their names. -/
def setRegisters (frame : Frame) : List Styled → EvalM Unit
  | name :: value :: rest => do
    setRegister frame name value
    setRegisters frame rest
  | _ => pure ()

/-- Set registers.  Names and values come in pairs. -/
def setq (c : Call) : EvalM Styled := do
  if c.values.length % 2 ≠ 0 then
    return .ofString "#-1 FUNCTION (SETQ) EXPECTS AN EVEN NUMBER OF ARGUMENTS"
  setRegisters c.frame c.values
  return {}

/-- Set a register and give its value. -/
def setr (c : Call) : EvalM Styled := do
  setRegister c.frame (c.value 0) (c.value 1)
  return c.value 1

/-- The value of a register. -/
def readRegister (c : Call) : EvalM Styled := do
  let name := String.ofList (Text.trim (c.value 0).chars)
  return ((← get).registers.find? c.frame.registers name).getD {}

/-! ### Attributes -/

/-- Call the softcode in the attribute that the first argument names, with the other arguments. -/
def callNamed (isolated : Bool) (c : Call) : EvalM Styled := do
  let (object, attr) := splitObject (c.value 0).chars
  match ← object.elim (pure (some c.frame.executor)) c.locate? with
  | none => return .ofString noSuchObject
  | some object => match AttributePath.read attr with
    | .error _ => return .ofString noSuchAttribute
    | .ok path => c.settings.callAttribute c.evalText object path (c.values.drop 1) c.stack isolated

/-- The value of an attribute of the object that runs the softcode. -/
def ownAttribute (c : Call) : EvalM Styled :=
  match AttributePath.read (c.value 0).chars with
  | .error _ => pure {}
  | .ok path => do return (← c.settings.resolve? c.frame.executor path).elim {} (·.value)

/-- The value of an attribute of any object. -/
def anyAttribute (c : Call) : EvalM Styled := do
  let (object, attr) := splitObject (c.value 0).chars
  match ← c.locate? (object.getD "me".toList) with
  | none => return .ofString noSuchObject
  | some object => match AttributePath.read attr with
    | .error _ => return .ofString noSuchAttribute
    | .ok path => match ← c.settings.resolve? object path with
      | none => return .ofString noSuchAttribute
      | some found =>
        if ← EvalM.mayRead c.frame.executor object found then return found.value
        else return .ofString permissionDenied

/-! ### Objects -/

/-- What there is to know about the object that the first argument names. -/
def aboutObject (f : Option Object → List Char) (c : Call) : EvalM Styled := do
  match ← c.locate? (c.value 0).chars with
  | none => return .ofString noSuchObject
  | some d => return .ofChars (f ((← EvalM.ask).object? d))

/-- The number of the object that the first argument names. -/
def numberOf (c : Call) : EvalM Styled := do
  return .ofChars (Dbref.text ((← c.locate? (c.value 0).chars).getD Dbref.nothing))

/-- Does the object that the second argument names pass a lock of the object that the first one
    names? -/
def passesLockOf (c : Call) : EvalM Styled := do
  let (object, kind) := match Text.cutAt (· == '/') (c.value 0).chars with
    | some (object, kind) => (object, LockKind.read? (String.ofList kind))
    | none => ((c.value 0).chars, some .basic)
  match kind with
  | none => return .ofString "#-1 NO SUCH LOCK TYPE"
  | some kind =>
    let gated ← c.locate? object
    let unlocker ← c.locate? (c.value 1).chars
    match gated, unlocker with
    | some gated, some unlocker =>
      return truthText (← EvalM.passesLock kind gated unlocker)
    | _, _ => return .ofString noSuchObject

end Call

/-- The functions of objects. -/
def objectFunctions : List Function := [
  .engine "setq" 2 none .setq,
  .engine "setr" 2 (some 2) .setr,
  .engine "r" 1 (some 1) .r,
  .engine "u" 1 (some 11) .u,
  .engine "ulocal" 1 (some 11) .ulocal,
  .engine "v" 1 (some 1) .v,
  .engine "get" 1 (some 1) .get,
  .engine "name" 1 (some 1) .name,
  .engine "num" 1 (some 1) .num,
  .engine "loc" 1 (some 1) .loc,
  .engine "owner" 1 (some 1) .owner,
  .engine "elock" 2 (some 2) .elock]

end Softcode
