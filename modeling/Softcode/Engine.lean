import Softcode.Command.Dispatch
import Softcode.Command.Standard
import Softcode.Function.Standard

namespace Softcode

/-!
# Engines

An engine holds a world, the functions and commands that there are, and its settings.  It evaluates
texts and runs commands.
-/

/-- How an evaluation ended. -/
inductive Outcome where
  | completed
  | limitExceeded (kind : LimitKind)
  | malformed
deriving Repr, DecidableEq

/-- A value, and how deep in calls it was made. -/
structure CallValue where
  value : Styled
  depth : Nat := 0
deriving Repr, DecidableEq

/-- The result of an evaluation.  If it was not completed, there is one value, which says why. -/
structure Evaluation where
  outcome : Outcome
  values : List CallValue
  errors : List SyntaxError := []

namespace Evaluation

/-- All values with spaces between them. -/
def message (e : Evaluation) : Styled := .join (.ofString " ") (e.values.map (·.value))

/-- The result of an evaluation that passed a ceiling. -/
def limitExceeded (kind : LimitKind) : Evaluation :=
  { outcome := .limitExceeded kind, values := [{ value := .ofString kind.message }] }

/-- The result for a text that has syntax errors. -/
def malformed (first : SyntaxError) (rest : List SyntaxError) : Evaluation :=
  { outcome := .malformed, values := [{ value := first.value }], errors := first :: rest }

end Evaluation

/-- An engine. -/
structure Engine where
  world : World := {}
  functions : Functions := standardFunctions
  commands : Commands := standardCommands
  settings : Settings := {}
  patterns : PatternCache := {}
  locks : LockCache := {}

/-- The values of arguments, one after the other. -/
def evalAll (settings : Settings) (levels : Nat) (source : Styled) (args : List Argument)
    (stack : FrameStack) : EvalM (List CallValue) :=
  args.mapM fun arg => do
    return { value := ← settings.evalArgument levels source arg stack, depth := stack.top.depth }

/-- Evaluate what a text was read as.  The number bounds how many texts can nest. -/
def evalTree (commands : Commands) (settings : Settings) (levels : Nat) (source : Styled)
    (tree : Tree) (stack : FrameStack) : EvalM (List CallValue) :=
  let values (args : List Argument) := evalAll settings levels source args stack
  let run (spans : List Span) : EvalM (List CallValue) := do
    runSpans commands settings levels (runAction commands settings levels) source spans stack
    return []
  match tree with
  | .expression arg => values [arg]
  | .command span => run [span]
  | .commandList spans => run spans
  | .commaArgs args => values args
  | .eqSplitArgs left right => values (left :: right.getD [])
  | .eqSplitCommand left right => values (left :: right.toList)

namespace Engine

/-- The state in which an evaluation starts with some registers. -/
def start (e : Engine) (registers : Table String Styled) (cancelAfter : Option Nat) : EvalState :=
  { world := e.world, functions := e.functions, registers := ⟨[registers]⟩, cancelAfter
    patterns := e.patterns, locks := e.locks }

/-- The engine with what an evaluation did. -/
def keep (e : Engine) (s : EvalState) : Engine :=
  { e with world := s.world, functions := s.functions, patterns := s.patterns, locks := s.locks }

/-- Evaluate what a text was read as.  The number bounds how many texts can nest. -/
def run (e : Engine) (levels : Nat) (source : Styled) (tree : Tree) (frame : Frame)
    (registers : Table String Styled) (cancelAfter : Option Nat) :
    Except Abort (List CallValue) × EvalState :=
  (evalTree e.commands e.settings levels source tree ⟨frame, {}⟩).run.run
    (e.start registers cancelAfter)

/-- The result of an evaluation that was not completed.  If it was one of commands, whoever gave
    them is told why. -/
def tell (e : Engine) (rule : Rule) (frame : Frame) (evaluation : Evaluation) :
    Except ScriptError Evaluation × Engine :=
  if rule.readsCommands then
    (.ok evaluation,
      { e with world := e.world.notify frame.executor frame.executor evaluation.message })
  else (.ok evaluation, e)

/-- What is made of how an evaluation ended.  There is no result if texts nest deeper than was
    bounded. -/
def finish (e : Engine) (rule : Rule) (frame : Frame) :
    Except Abort (List CallValue) × EvalState → Option (Except ScriptError Evaluation × Engine)
  | (.ok values, s) => some (.ok { outcome := .completed, values }, e.keep s)
  | (.error (.limit kind), s) => some ((e.keep s).tell rule frame (.limitExceeded kind))
  | (.error .cancelled, s) => some (.error .cancelled, e.keep s)
  | (.error .exhausted, _) => none

/-- Read a text and evaluate it, unless texts nest deeper than the number says.  Fails only if the
    evaluation is cancelled. -/
def evaluateWithin (e : Engine) (levels : Nat) (text : Styled) (rule : Rule) (frame : Frame)
    (registers : Table String Styled) (cancelAfter : Option Nat) :
    Option (Except ScriptError Evaluation × Engine) :=
  let p := parse rule text.chars
  match p.errors with
  | first :: rest => some (e.tell rule frame (.malformed first rest))
  | [] => e.finish rule frame (e.run levels text p.tree frame registers cancelAfter)

/-- Read a text and evaluate it.  The ceiling on the depth of calls bounds how many texts can nest,
    so there is always a result. -/
def evaluate (e : Engine) (text : Styled) (rule : Rule) (frame : Frame)
    (registers : Table String Styled := {}) (cancelAfter : Option Nat := none) :
    Except ScriptError Evaluation × Engine :=
  (e.evaluateWithin e.settings.limits.levels text rule frame registers cancelAfter).getD
    (.error .cancelled, e)

/-- Run a command that was typed on a connection, as the player of the connection.  To look for the
    player is the first thing that can be cancelled. -/
def evaluateFor (e : Engine) (handle : Handle) (text : Styled) (cancelAfter : Option Nat := none) :
    Except ScriptError Evaluation × Engine :=
  if cancelAfter = some 0 then (.error .cancelled, e)
  else match e.world.boundPlayer? handle with
    | none =>
      (.error (.collaborator ("no player bound to connection " ++ toString handle)), e)
    | some player =>
      e.evaluate text .singleCommand (.ofConnection player handle) {} (cancelAfter.map (· - 1))

end Engine

end Softcode
