import Softcode.Evaluation.State

namespace Softcode

/-!
# Calls

What a function that takes part in the evaluation is given: the texts and the values of its
arguments, the frames, and ways to evaluate arguments and attributes.
-/

/-- What is said when permission is missing. -/
def permissionDenied : String := "#-1 PERMISSION DENIED"

/-- What is said when there is no such object. -/
def noSuchObject : String := "#-1 NO SUCH OBJECT VISIBLE"

/-- What is said when there is no such attribute. -/
def noSuchAttribute : String := "#-1 NO SUCH ATTRIBUTE"

/-- An argument that need not have been evaluated. -/
structure LazyArgument where
  /-- The text as it is written. -/
  raw : Styled
  /-- There is nothing in it. -/
  isEmpty : Bool
  /-- Its value, with the given frames. -/
  eval : FrameStack → EvalM Styled

/-- The arguments that a call gives: a list of one argument with nothing in it has no arguments. -/
def LazyArgument.given : List LazyArgument → List LazyArgument
  | [only] => if only.isEmpty then [] else [only]
  | args => args

/-- Evaluate the softcode in an attribute as the object that has it.  There is nothing in an
    attribute that does not exist.  With `isolated`, registers that are set inside do not show
    outside. -/
def Settings.callAttribute (settings : Settings) (evalText : Styled → FrameStack → EvalM Styled)
    (object : Dbref) (path : AttributePath) (args : List Styled) (stack : FrameStack)
    (isolated : Bool) : EvalM Styled := do
  match ← settings.resolve? object path with
  | none => return {}
  | some found =>
    if !(← EvalM.mayRead stack.top.executor object found) then return .ofString permissionDenied
    let frame := { stack.top.runAs object with
      arguments := args, attr := some (object, path.name) }
    let frame ← if isolated then EvalM.localize frame else pure frame
    evalText found.value (stack.push frame)

/-- A call of a function. -/
structure Call where
  /-- The name of the function in lower case. -/
  name : String
  settings : Settings
  /-- The frames, with that of the call on top. -/
  stack : FrameStack
  args : List LazyArgument
  /-- The values of the arguments, unless the function wants them unevaluated. -/
  values : List Styled
  /-- Evaluate softcode from an attribute, with the given frames. -/
  evalText : Styled → FrameStack → EvalM Styled

namespace Call

/-- The frame of the call. -/
def frame (c : Call) : Frame := c.stack.top

/-- The value of an argument, which is empty if there is none. -/
def value (c : Call) (i : Nat) : Styled := (c.values[i]?).getD {}

/-- Evaluate an argument with the given frames. -/
def evalIn (c : Call) (i : Nat) (stack : FrameStack) : EvalM Styled :=
  (c.args[i]?).elim (pure {}) (·.eval stack)

/-- Evaluate an argument. -/
def eval (c : Call) (i : Nat) : EvalM Styled := c.evalIn i c.stack

/-- The object that softcode means by a name. -/
def locate? (c : Call) (name : List Char) : EvalM (Option Dbref) :=
  EvalM.locate? c.frame.executor name

end Call

end Softcode
