import Softcode.Engine
import Softcode.Shell.Options
import Softcode.Shell.Report
import Softcode.Styled.Terminal

namespace Softcode

/-!
# The shell

The shell runs lines as the wizard of a small world.  A line that starts with an equals sign is an
expression, and any other line is a list of commands.
-/

/-- A shell. -/
structure Shell where
  engine : Engine
  player : Dbref
  options : ShellOptions

namespace Shell

/-- The connection of the shell. -/
def console : Handle := 1

/-- A shell with a room and a wizard who is connected. -/
def start (options : ShellOptions) (settings : Settings) : Shell :=
  let player : Dbref := 1
  let world := World.start.connect console ⟨player, "127.0.0.1", "localhost"⟩
  { engine := { world, settings }, player, options }

/-- How a line is to be read, and the text in it. -/
def ruleFor : List Char → Rule × List Char
  | '=' :: text => (.function, text)
  | text => (.commandList, text)

/-- Report on a line. -/
def check (json : Bool) (line : List Char) : List (List Char) :=
  let (rule, text) := ruleFor line
  let grammar := Grammar.expression rule
  if json then [(Report.ofText grammar text).text]
  else match grammar.errors text with
    | [] => ["ok".toList]
    | errors => errors.map fun e =>
      Number.natText (e.line + 1) ++ ':' :: Number.natText (e.column + 1) ++ ": ".toList
        ++ e.message.toList

/-- A message as it is shown to the player.  Those for others say for whom they are. -/
def shown (player : Dbref) (n : Notification) : List Char :=
  if n.target = player then n.message.render
  else '[' :: Dbref.text n.target ++ "] ".toList ++ n.message.render

/-- Run a line, and give what it shows. -/
def run (s : Shell) (line : List Char) : List (List Char) × Shell :=
  let (rule, text) := ruleFor line
  let (result, engine) :=
    s.engine.evaluate (.ofChars text) rule (.ofConnection s.player console)
  let value := match rule, result with
    | .function, .ok e => [e.message.render]
    | _, _ => []
  let (sent, world) := engine.world.takeMessages
  (value ++ sent.map (shown s.player), { s with engine := { engine with world } })

/-- Take a line, and give what it shows.  Blank lines do nothing. -/
def feed (s : Shell) (line : List Char) : List (List Char) × Shell :=
  match Text.trim line with
  | [] => ([], s)
  | line => if s.options.check then (check s.options.json line, s) else s.run line

end Shell

end Softcode
