import Softcode.Evaluation.Expression

namespace Softcode

/-!
# Commands

What can be typed.  Commands act on the world and on the functions that there are.
-/

/-- How the text after the name of a command is cut. -/
inductive ArgumentMode where
  | none
  /-- The whole text is one argument. -/
  | single
  /-- Arguments with commas between them. -/
  | commaList
  /-- Two sides of an equals sign. -/
  | eqSplit
  /-- Two sides of an equals sign, with commas between arguments on the right. -/
  | eqSplitList
deriving Repr, DecidableEq

/-- What is done to an argument. -/
inductive ArgumentUse where
  | evaluate
  /-- It is taken as it is written, without braces around it. -/
  | literal
deriving Repr, DecidableEq

/-- The arguments of a command. -/
structure CommandArgs where
  /-- What is left of the equals sign, or the one argument. -/
  left : Styled := {}
  /-- What is right of the equals sign, or the list. -/
  args : List Styled := []
  hasEquals : Bool := false
deriving Repr, DecidableEq

/-- The first argument on the right, which is empty if there is none. -/
def CommandArgs.right (a : CommandArgs) : Styled := a.args.headD {}

/-- A call of a command. -/
structure CommandCall where
  /-- The name of the command in upper case. -/
  name : String
  switches : List String
  args : CommandArgs
  /-- The frames, with that of the command on top. -/
  stack : FrameStack
  settings : Settings

namespace CommandCall

/-- Who gives the command. -/
def executor (c : CommandCall) : Dbref := c.stack.top.executor

/-- Was the switch given? -/
def hasSwitch (c : CommandCall) (switch : String) : Bool :=
  c.switches.any fun s => upperName s == upperName switch

/-- Tell whoever gives the command something. -/
def reply (c : CommandCall) (message : Styled) : EvalM Unit :=
  EvalM.notify c.executor c.executor message

/-- Tell whoever gives the command a plain text. -/
def say (c : CommandCall) (message : String) : EvalM Unit :=
  c.reply (.ofString message)

/-- The object that is meant by a name. -/
def locate? (c : CommandCall) (name : List Char) : EvalM (Option Dbref) :=
  EvalM.locate? c.executor name

end CommandCall

/-- A command. -/
structure Command where
  /-- The name in upper case. -/
  name : String
  mode : ArgumentMode
  left : ArgumentUse := .evaluate
  right : ArgumentUse := .evaluate
  /-- The switches that can be given, in upper case. -/
  switches : List String := []
  requires : Option Capability := none
  /-- The character that gives the command when a text starts with it. -/
  token : Option Char := none
  body : CommandCall → EvalM Unit

namespace Command

/-- A command with no switches, which evaluates its arguments. -/
def new (name : String) (mode : ArgumentMode) (body : CommandCall → EvalM Unit) : Command :=
  { name := upperName name, mode, body }

/-- The command with switches. -/
def withSwitches (c : Command) (switches : List String) : Command :=
  { c with switches := switches.map upperName }

/-- Can the switch be given? -/
def acceptsSwitch (c : Command) (switch : String) : Bool :=
  c.switches.any fun s => upperName s == upperName switch

/-- A description of the command. -/
def describe (c : Command) : String :=
  let mode := match c.mode with
    | .none => "None"
    | .single => "Single"
    | .commaList => "CommaList"
    | .eqSplit => "EqSplit"
    | .eqSplitList => "EqSplitList"
  let quoted (s : String) : String := String.ofList (Text.quoted s.toList)
  "CommandDefinition \x7b name: " ++ quoted c.name ++ ", mode: " ++ mode ++ ", switches: ["
    ++ ", ".intercalate (c.switches.map quoted) ++ "] \x7d"

end Command

/-- The commands that there are. -/
structure Commands where
  /-- By the name in upper case. -/
  byName : Table String Command := {}
  byToken : Table Char Command := {}

namespace Commands

/-- Add a command, or replace the one of the same name. -/
def register (cs : Commands) (c : Command) : Commands :=
  { byName := cs.byName.insert c.name c
    byToken := match c.token with
      | some t => cs.byToken.insert t c
      | none => cs.byToken }

/-- The command with a name, in any case. -/
def get? (cs : Commands) (name : String) : Option Command := cs.byName.find? (upperName name)

/-- The command that a character gives. -/
def ofToken? (cs : Commands) (token : Char) : Option Command := cs.byToken.find? token

end Commands

end Softcode
