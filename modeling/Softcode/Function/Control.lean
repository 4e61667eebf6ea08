import Softcode.Function.Call
import Softcode.Function.Number
import Softcode.Function.Text

namespace Softcode

/-!
# Functions that control evaluation

Truth values, choices and loops.
-/

/-- Is the text true?  False are blank texts, zeros and the values of errors. -/
def isTrue (s : Styled) : Bool :=
  match Text.trim s.chars with
  | [] => false
  | '#' :: '-' :: _ => false
  | cs => (Number.readFloat? cs).elim true (· != 0)

namespace Call

/-- The arguments as they are written. -/
def literal (c : Call) : EvalM Styled :=
  pure (.join (.ofString ",") (c.args.map (·.raw)))

/-- The value of the second argument if the first is true, and else of the third. -/
def choose (c : Call) : EvalM Styled := do
  c.eval (if isTrue (← c.eval 0) then 1 else 2)

/-- The value of the argument after the first pattern that accepts the text, or else of the last
    argument if it comes after no pattern. -/
def switchOn (c : Call) (text : List Char) : List LazyArgument → EvalM Styled
  | pattern :: result :: rest => do
    let pattern ← pattern.eval c.stack
    let m ← EvalM.withPatterns (modifyGet
      (·.ready ⟨.glob .plain, pattern.chars, false⟩ c.settings.patternCapacity))
    if m.any (·.accepts text) then result.eval c.stack else c.switchOn text rest
  | [otherwise] => otherwise.eval c.stack
  | [] => pure {}

/-- The value of the argument after the first pattern that accepts the value of the first. -/
def switch (c : Call) : EvalM Styled := do
  c.switchOn (← c.eval 0).chars (c.args.drop 1)

/-- The values of the second argument for each element of a list, until the loop is asked to
    stop. -/
def evalElements (c : Call) (loop : LoopId) (index : Nat) : List Styled → EvalM (List Styled)
  | [] => pure []
  | x :: xs => do
    let value ← c.evalIn 1 (c.stack.push (c.frame.iterate ⟨x, index, loop⟩))
    if (← get).halted.contains loop then return [value]
    return value :: (← c.evalElements loop (index + 1) xs)

/-- The values of the second argument for each element of the list that is the first. -/
def iterateOver (c : Call) : EvalM Styled := do
  let list ← c.eval 0
  let delimiter := (← c.eval 2).chars.head?
  let between ← if 3 < c.args.length then c.eval 3 else pure (separator delimiter)
  let loop ← EvalM.newLoop
  return .join between (← c.evalElements loop 1 (elements list delimiter))

/-- What the function does with the loop that its argument names, where the innermost is 0. -/
def onIteration (f : Iteration → EvalM Styled) (c : Call) : EvalM Styled :=
  let level := (Number.readNatural? (Text.trim (c.value 0).chars)).getD 0
  match c.frame.iteration? level with
  | some i => f i
  | none => pure (.ofString "#-1 ARGUMENT OUT OF RANGE")

/-- Ask a loop to stop after the element that it is at. -/
def halt (i : Iteration) : EvalM Styled := do
  modify fun s => { s with halted := i.loop :: s.halted }
  return {}

end Call

/-- The functions that control evaluation. -/
def controlFunctions : List Function := [
  .native "not" 0 (some 1) fun values => truthText !((values[0]?).any isTrue),
  .native "t" 0 (some 1) fun values => truthText ((values[0]?).any isTrue),
  .native "and" 1 none fun values => truthText (values.all isTrue),
  .native "or" 1 none fun values => truthText (values.any isTrue),
  .control "if" 2 (some 3) .choose,
  .control "ifelse" 3 (some 3) .choose,
  .control "switch" 2 none .switch,
  .control "iter" 2 (some 4) .iter,
  .engine "itext" 1 (some 1) .itext,
  .engine "inum" 1 (some 1) .inum,
  .engine "ibreak" 0 (some 1) .ibreak]

end Softcode
