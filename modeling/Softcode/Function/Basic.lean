import Softcode.Evaluation.Frame
import Softcode.Settings
import Softcode.Text.Quoted
import Softcode.World.Permission

namespace Softcode

/-!
# Functions

What softcode can call: functions of the values of their arguments, functions that take part in the
evaluation, functions that are softcode themselves, and functions that come from outside.

The functions that there are belong to the state of an evaluation, so a function that takes part in
the evaluation is only named here.  What it does, `Builtin.run` says.
-/

/-- The functions that take part in the evaluation. -/
inductive Builtin where
  | lit | choose | switch | iter | itext | inum | ibreak
  | setq | setr | r | u | ulocal | v | get
  | name | num | loc | owner | elock
deriving Repr, DecidableEq

/-- What a function from outside is told about a call. -/
structure OutsideCall where
  /-- The name of the function in lower case. -/
  name : String
  settings : Settings
  /-- The frames, with that of the call on top. -/
  stack : FrameStack
  /-- The texts of the arguments as they are written. -/
  texts : List Styled
  /-- The values of the arguments, unless the function wants them unevaluated. -/
  values : List Styled
  /-- The number of calls so far. -/
  invocations : Nat
  /-- The number of nodes so far. -/
  nodes : Nat

/-- What a function from outside does. -/
structure OutsideResult where
  value : Styled
  /-- Does it want the evaluation to end? -/
  cancels : Bool := false

/-- What a function does. -/
inductive FunctionBody where
  | native (f : List Styled → Styled)
  | engine (f : Builtin)
  /-- The softcode in an attribute. -/
  | user (object : Dbref) (attr : String)
  | outside (f : OutsideCall → OutsideResult)

/-- A function. -/
structure Function where
  /-- The name in lower case. -/
  name : String
  minArgs : Nat
  /-- No bound if there is none. -/
  maxArgs : Option Nat
  /-- The arguments are not evaluated before the call. -/
  noParse : Bool := false
  requires : Option Capability := none
  body : FunctionBody

namespace Function

/-- A function of the values of its arguments. -/
def native (name : String) (minArgs : Nat) (maxArgs : Option Nat) (f : List Styled → Styled) :
    Function :=
  { name := lowerName name, minArgs, maxArgs, body := .native f }

/-- A function that takes part in the evaluation. -/
def engine (name : String) (minArgs : Nat) (maxArgs : Option Nat) (f : Builtin) : Function :=
  { name := lowerName name, minArgs, maxArgs, body := .engine f }

/-- A function that takes its arguments unevaluated. -/
def control (name : String) (minArgs : Nat) (maxArgs : Option Nat) (f : Builtin) : Function :=
  { engine name minArgs maxArgs f with noParse := true }

/-- A function that is the softcode in an attribute, with up to ten arguments. -/
def user (name : String) (object : Dbref) (attr : String) : Function :=
  { name := lowerName name, minArgs := 0, maxArgs := some 10
    body := .user object (upperName attr) }

/-- Is the function softcode? -/
def isUser (f : Function) : Bool :=
  match f.body with
  | .user .. => true
  | _ => false

/-- Can the function be called with that many arguments? -/
def accepts (f : Function) (count : Nat) : Bool :=
  f.minArgs ≤ count && f.maxArgs.all (count ≤ ·)

/-- How many arguments the function expects. -/
def expectation (f : Function) : String :=
  match f.maxArgs with
  | none => "AT LEAST " ++ toString f.minArgs
  | some max =>
    if max = f.minArgs then toString max
    else if f.minArgs = 0 then "AT MOST " ++ toString max
    else "BETWEEN " ++ toString f.minArgs ++ " AND " ++ toString max

/-- What a call with a wrong number of arguments gives. -/
def arityError? (f : Function) (count : Nat) : Option String :=
  if f.accepts count then none
  else some ("#-1 FUNCTION (" ++ upperName f.name ++ ") EXPECTS " ++ f.expectation ++ " ARGUMENTS")

/-- A description of the function. -/
def describe (f : Function) : String :=
  let max := f.maxArgs.elim "None" fun n => "Some(" ++ toString n ++ ")"
  "FunctionDefinition \x7b name: " ++ String.ofList (Text.quoted f.name.toList) ++ ", min_args: "
    ++ toString f.minArgs ++ ", max_args: " ++ max ++ " \x7d"

end Function

/-- The functions that there are, by their names in lower case. -/
abbrev Functions := Table String Function

namespace Functions

/-- Add a function, or replace the one of the same name. -/
def register (fs : Functions) (f : Function) : Functions := fs.insert (lowerName f.name) f

/-- The function with a name, in any case. -/
def get? (fs : Functions) (name : String) : Option Function := fs.find? (lowerName name)

/-- Remove a function. -/
def remove (fs : Functions) (name : String) : Functions := fs.erase (lowerName name)

/-- The names in order. -/
def names (fs : Functions) : List String := fs.keys.mergeSort fun a b => !(b < a)

end Functions

end Softcode
