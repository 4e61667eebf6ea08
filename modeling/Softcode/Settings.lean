import Softcode.Number.Integer
import Softcode.Text.Blank
import Softcode.Text.Case

namespace Softcode

/-!
# Settings

The ceilings of an evaluation and the sizes of what it may look through, read from lines of the form
`key = value`.
-/

/-- The ceilings of one evaluation.  To pass any of them ends the evaluation. -/
structure Limits where
  /-- How deep calls may nest. -/
  depth : Nat := 100
  /-- How often one function may occur in a chain of calls. -/
  recursion : Nat := 50
  /-- How many calls there may be. -/
  invocations : Nat := 25000
  /-- How many nodes may be evaluated. -/
  nodes : Nat := 250000
deriving Repr, DecidableEq

/-- The number of texts that can nest: each stands inside a call, and calls are bounded. -/
def Limits.levels (l : Limits) : Nat := l.depth + 1

/-- All settings of an engine. -/
structure Settings where
  limits : Limits := {}
  /-- How many parents an attribute is looked for on. -/
  parentHops : Nat := 10
  /-- How many compiled patterns are kept. -/
  patternCapacity : Nat := 512
deriving Repr, DecidableEq

namespace Settings

/-- Set one option.  A value that is no natural number gives the default; an unknown key is
    ignored. -/
def set (s : Settings) (key value : List Char) : Settings :=
  let default : Settings := {}
  let number (d : Nat) : Nat := (Number.readNatural? value).getD d
  match String.ofList key with
  | "max_depth" => { s with limits.depth := number default.limits.depth }
  | "function_recursion_limit" => { s with limits.recursion := number default.limits.recursion }
  | "function_invocation_limit" =>
    { s with limits.invocations := number default.limits.invocations }
  | "call_limit" => { s with limits.nodes := number default.limits.nodes }
  | "max_parent_depth" => { s with parentHops := number default.parentHops }
  | "pattern_cache_capacity" => { s with patternCapacity := number default.patternCapacity }
  | _ => s

/-- Take one line into account.  Empty lines, comments and lines without an equals sign do
    nothing. -/
def readLine (s : Settings) (line : List Char) : Settings :=
  match Text.trim line with
  | [] | '#' :: _ => s
  | line =>
    match Text.cutAt (· == '=') line with
    | some (key, value) => s.set (Text.lower (Text.trim key)) (Text.trim value)
    | none => s

/-- Read settings from text, starting from the defaults. -/
def read (text : List Char) : Settings :=
  (Text.lines text).foldl readLine {}

end Settings

end Softcode
