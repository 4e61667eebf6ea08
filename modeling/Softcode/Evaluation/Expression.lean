import Softcode.Evaluation.Substitution
import Softcode.Function.Standard
import Softcode.Tree.Parser

namespace Softcode

/-!
# Evaluating expressions

An expression is evaluated node by node, from left to right.  Nodes are evaluated by recursion on
the tree.  A call can evaluate another text, the value of an attribute, which has a tree of its own;
how many texts can nest in this way is bounded, as each of them stands inside at least one call more
than the one around it.
-/

/-- What a text gives that has a syntax error. -/
def SyntaxError.value (e : SyntaxError) : Styled := .ofString ("#-1 SYNTAX ERROR: " ++ e.message)

namespace Settings

/-- Do what a function from outside does. -/
def runOutside (settings : Settings) (name : String) (f : OutsideCall → OutsideResult)
    (stack : FrameStack) (args : List LazyArgument) (values : List Styled) : EvalM Styled := do
  let s ← get
  let result := f { name, settings, stack, texts := args.map (·.raw), values,
                    invocations := s.invocations, nodes := s.nodes }
  -- It takes effect the next time that cancelling is checked.
  if result.cancels then modify fun s => { s with cancelAfter := some 0 }
  return result.value

/-- Do what a function does. -/
def perform (settings : Settings) (evalText : Styled → FrameStack → EvalM Styled) (name : String)
    (body : FunctionBody) (stack : FrameStack) (args : List LazyArgument) (values : List Styled) :
    EvalM Styled :=
  match body with
  | .native f => pure (f values)
  | .engine f => f.run { name, settings, stack, args, values, evalText }
  | .user object attr => match AttributePath.read attr.toList with
    | .ok path => settings.callAttribute evalText object path values stack false
    | .error _ => pure (.ofString noSuchAttribute)
  | .outside f => settings.runOutside name f stack args values

/-- Evaluate the arguments, unless the function wants them unevaluated, and do what it does. -/
def invoke (settings : Settings) (evalText : Styled → FrameStack → EvalM Styled) (name : String)
    (f : Function) (stack : FrameStack) (args : List LazyArgument) : EvalM Styled := do
  let values ← if f.noParse then pure [] else args.mapM fun a => a.eval stack
  settings.perform evalText name f.body stack args values

/-- Check the number of arguments and the permission before a function is called. -/
def apply (settings : Settings) (evalText : Styled → FrameStack → EvalM Styled) (name : String)
    (f : Function) (stack : FrameStack) (args : List LazyArgument) : EvalM Styled := do
  if let some error := f.arityError? args.length then return .ofString error
  if f.requires.isSome then
    if !(← EvalM.ask).canExecute stack.top.executor f.requires then
      return .ofString permissionDenied
  settings.invoke evalText name f stack args

/-- Call a function. -/
def call (settings : Settings) (evalText : Styled → FrameStack → EvalM Styled) (name : String)
    (args : List LazyArgument) (stack : FrameStack) : EvalM Styled := do
  EvalM.checkCancelled
  let name := lowerName name
  match (← get).functions.get? name with
  -- An unknown function is no invocation and is not counted.
  | none => return .ofString ("#-1 FUNCTION (" ++ upperName name ++ ") NOT FOUND")
  | some f =>
    EvalM.countInvocation settings.limits
    let frame ← EvalM.enter settings.limits stack.top name
    settings.apply evalText name f (stack.push frame) (LazyArgument.given args)

mutual

/-- The value of a node. -/
def evalNode (settings : Settings) (evalText : Styled → FrameStack → EvalM Styled)
    (source : Styled) : Node → FrameStack → EvalM Styled
  | .text span, _ | .escape span, _ => pure (source.slice span.start span.stop)
  | .substitution sub _, stack => settings.substitute stack.top sub
  | .call name _ args _, stack =>
    settings.call evalText name (lazyArguments settings evalText source args) stack
  | .bracket body _, stack => evalNodes settings evalText source body {} stack
  | .brace .strip body _ _, stack => evalNodes settings evalText source body {} stack
  | .brace .keep body _ _, stack => do
    let inner ← evalNodes settings evalText source body {} stack
    return (Styled.ofChars ['\x7b'] ++ inner).appendChars ['\x7d']
  | .brace .literal _ _ inner, _ => pure (source.slice inner.start inner.stop)
termination_by structural node => node

/-- The values of nodes one after the other, after what is given. -/
def evalNodes (settings : Settings) (evalText : Styled → FrameStack → EvalM Styled)
    (source : Styled) : List Node → Styled → FrameStack → EvalM Styled
  | [], done, _ => pure done
  | node :: nodes, done, stack => do
    EvalM.countNode settings.limits
    let value ← evalNode settings evalText source node stack
    evalNodes settings evalText source nodes (done ++ value) stack
termination_by structural nodes => nodes

/-- An argument, not yet evaluated. -/
def lazyArgument (settings : Settings) (evalText : Styled → FrameStack → EvalM Styled)
    (source : Styled) : NodeList Node → LazyArgument
  | ⟨nodes, span⟩ =>
    { raw := source.slice span.start span.stop
      isEmpty := nodes.isEmpty
      eval := fun stack => evalNodes settings evalText source nodes {} stack }
termination_by structural arg => arg

/-- Arguments, not yet evaluated. -/
def lazyArguments (settings : Settings) (evalText : Styled → FrameStack → EvalM Styled)
    (source : Styled) : List (NodeList Node) → List LazyArgument
  | [] => []
  | arg :: args =>
    lazyArgument settings evalText source arg :: lazyArguments settings evalText source args
termination_by structural args => args

end

/-- Read a text as an expression and evaluate it.  The first number bounds how many texts can
    nest. -/
def evalText (settings : Settings) : Nat → Styled → FrameStack → EvalM Styled
  | 0, _, _ => throw .exhausted
  | more + 1, text, stack =>
    let p := parse .function text.chars
    match p.errors, p.tree with
    | e :: _, _ => pure e.value
    | [], .expression body => settings.evalNodes (settings.evalText more) text body.nodes {} stack
    | [], _ => pure {}

/-- Evaluate an argument of the source.  The number bounds how many texts can nest. -/
def evalArgument (settings : Settings) (levels : Nat) (source : Styled) (arg : Argument)
    (stack : FrameStack) : EvalM Styled :=
  settings.evalNodes (settings.evalText levels) source arg.nodes {} stack

end Settings

end Softcode
