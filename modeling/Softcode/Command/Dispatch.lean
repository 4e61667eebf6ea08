import Softcode.Command.Basic

namespace Softcode

/-!
# Running commands

A text is a command if its first character gives one, or else if its first word is the name of one,
or else if it matches the pattern of an attribute of an object that is near.  The action of such an
attribute is a list of commands itself; how deep these can nest is bounded, as each nests inside one
call more.
-/

/-- What is said to a text that is no command. -/
def huh : String := "Huh?  (Type \"help\" for help.)"

/-! ### Arguments -/

/-- An argument as it is written, without the braces around groups that are taken literally. -/
def literalText (source : Styled) (nodes : List Node) : Styled :=
  .concat (nodes.map fun
    | .brace .literal _ _ inner => source.slice inner.start inner.stop
    -- The span of an escape leaves out the backslash, which is part of how it is written.
    | .escape span => source.slice (span.start - 1) span.stop
    | node => source.slice node.span.start node.span.stop)

/-- What is made of an argument.  The number bounds how many texts can nest. -/
def commandValue (settings : Settings) (levels : Nat) (source : Styled) (stack : FrameStack)
    (use : ArgumentUse) (arg : Argument) : EvalM Styled :=
  match use with
  | .evaluate => settings.evalArgument levels source arg stack
  | .literal => return literalText source arg.nodes

/-- The rule that cuts the text after the name of a command. -/
def ArgumentMode.rule? : ArgumentMode → Option Rule
  | none => .none
  | single => some .function
  | commaList => some .commaArgs
  | eqSplit => some .eqSplitCommand
  | eqSplitList => some .eqSplitArgs

/-- What is made of the arguments that a text was cut into. -/
def Command.valuesOf (c : Command) (settings : Settings) (levels : Nat) (source : Styled)
    (stack : FrameStack) (tree : Tree) : EvalM CommandArgs := do
  let value := commandValue settings levels source stack
  match tree with
  | .expression arg => return { left := ← value c.left arg }
  | .commaArgs list => return { args := ← list.mapM (value c.left) }
  | .eqSplitCommand l r =>
    let left ← value c.left l
    return { left, args := ← r.toList.mapM (value c.right), hasEquals := r.isSome }
  | .eqSplitArgs l r =>
    let left ← value c.left l
    return { left, args := ← (r.getD []).mapM (value c.right), hasEquals := r.isSome }
  | .command _ | .commandList _ => return {}

/-- Cut the text after the name of a command into arguments.  Gives a message if that cannot be
    done. -/
def Command.argsOf (c : Command) (settings : Settings) (levels : Nat) (rest : Styled)
    (stack : FrameStack) : EvalM (Except Styled CommandArgs) := do
  -- A single literal argument is not even read, so it cannot have an error.
  if c.mode = .single ∧ c.left = .literal then return .ok { left := rest }
  match c.mode.rule? with
  | none => return .ok {}
  | some rule =>
    let p := parse rule rest.chars
    match p.errors with
    | e :: _ => return .error e.value
    | [] => return .ok (← c.valuesOf settings levels rest stack p.tree)

/-! ### Commands by name -/

/-- Cut the text after the name of a command into arguments and do what the command does. -/
def Command.invoke (c : Command) (settings : Settings) (levels : Nat) (switches : List String)
    (rest : Styled) (stack : FrameStack) : EvalM Unit := do
  -- The arguments see the command that they are for.
  let inner := stack.push { stack.top with command := some c.name, switches }
  match ← c.argsOf settings levels rest inner with
  | .error message => EvalM.notify stack.top.executor stack.top.executor message
  | .ok args => c.body { name := c.name, switches, args, stack := inner, settings }

/-- Run a command if it knows all switches. -/
def Command.apply (c : Command) (settings : Settings) (levels : Nat) (switches : List String)
    (rest : Styled) (stack : FrameStack) : EvalM Unit :=
  match switches.find? fun s => !c.acceptsSwitch s with
  | some switch => EvalM.notify stack.top.executor stack.top.executor
      (.ofString (c.name ++ " doesn't know switch " ++ switch ++ "."))
  | none => c.invoke settings levels switches rest stack

/-- Run a command if the executor may do so. -/
def Command.run (c : Command) (settings : Settings) (levels : Nat) (switches : List String)
    (rest : Styled) (stack : FrameStack) : EvalM Unit := do
  EvalM.countInvocation settings.limits
  let executor := stack.top.executor
  if c.requires.isSome then
    if (← EvalM.ask).canExecute executor c.requires then
      c.apply settings levels switches rest stack
    else EvalM.notify executor executor (.ofString "Permission denied.")
  else c.apply settings levels switches rest stack

/-! ### Commands of objects -/

/-- The objects whose attributes can be commands for an object: itself, where it is, what is there,
    and what it holds. -/
def World.commandHolders (w : World) (executor : Dbref) : List Dbref :=
  let around := match (w.object? executor).bind (·.location) with
    | some location => location :: w.contents location
    | none => []
  (executor :: around ++ w.contents executor).eraseDups

/-- Run the action of an attribute that reacts to a command.  `act` runs a list of commands. -/
def runReaction (settings : Settings) (act : Styled → FrameStack → EvalM Unit)
    (stack : FrameStack) (r : Reaction) : EvalM Unit := do
  EvalM.countInvocation settings.limits
  -- Captures go by their number as well as by their name.
  let numbered := r.captures.zipIdx.foldl
    (fun t (value, i) => t.insert (String.ofList (Number.natText i)) value) r.named
  let frame ← EvalM.enter settings.limits stack.top ("$" ++ r.name)
  let frame := { (frame.runAs r.object).capture numbered with
    enactor := stack.top.executor
    arguments := r.captures
    attr := some (r.object, r.name) }
  let frame ← EvalM.localize frame
  act r.action (stack.push frame)

/-- Run the commands of one object that a text gives, if the executor passes its lock.  Gives how
    many there were. -/
def runCommandsOn (settings : Settings) (act : Styled → FrameStack → EvalM Unit)
    (text : List Char) (stack : FrameStack) (holder : Dbref) : EvalM Nat := do
  let world ← EvalM.ask
  let found ← EvalM.withPatterns
    (world.reactions settings.parentHops settings.patternCapacity holder .command text true)
  -- The lock is not tried unless there is something to run.
  if found.isEmpty then return 0
  if !(← EvalM.passesLock .command holder stack.top.executor) then return 0
  found.forM (runReaction settings act stack)
  return found.length

/-- Run the commands of objects that a text gives.  Gives how many there were. -/
def runUserCommands (settings : Settings) (act : Styled → FrameStack → EvalM Unit)
    (text : List Char) (stack : FrameStack) : EvalM Nat := do
  let holders := (← EvalM.ask).commandHolders stack.top.executor
  holders.foldlM (fun ran holder => return ran + (← runCommandsOn settings act text stack holder)) 0

/-! ### Texts -/

/-- The name and the switches that the first word of a text gives. -/
def commandHead (word : List Char) : String × List String :=
  match Text.splitOn '/' word with
  | [] => ("", [])
  | name :: switches =>
    (String.ofList (Text.upper name),
      (switches.filter (!·.isEmpty)).map fun s => String.ofList (Text.upper s))

/-- Run one command. -/
def runCommand (commands : Commands) (settings : Settings) (levels : Nat)
    (act : Styled → FrameStack → EvalM Unit) (text : Styled) (stack : FrameStack) :
    EvalM Unit := do
  EvalM.checkCancelled
  match text.chars with
  | [] => return
  | first :: _ =>
    if let some c := commands.ofToken? first then
      c.run settings levels [] (text.slice 1 text.length) stack
    else
      -- Behind a token the text begins at once; behind a word blanks are dropped.
      let word := text.chars.takeWhile fun c => !Text.isBlank c
      let (name, switches) := commandHead word
      if let some c := commands.get? name then
        c.run settings levels switches (text.slice word.length text.length).trim stack
      else if (← runUserCommands settings act text.chars stack) = 0 then
        EvalM.notify stack.top.executor stack.top.executor (.ofString huh)

/-- Run commands whose spans in the source are given. -/
def runSpans (commands : Commands) (settings : Settings) (levels : Nat)
    (act : Styled → FrameStack → EvalM Unit) (source : Styled) (spans : List Span)
    (stack : FrameStack) : EvalM Unit :=
  spans.forM fun span =>
    runCommand commands settings levels act (source.slice span.start span.stop) stack

/-- Read a text as a list of commands and run them.  The second number bounds how deep actions of
    attributes can nest. -/
def runCommandList (commands : Commands) (settings : Settings) (levels : Nat) :
    Nat → Styled → FrameStack → EvalM Unit
  | 0, _, _ => throw .exhausted
  | more + 1, text, stack =>
    let p := parse .commandList text.chars
    match p.errors, p.tree with
    | e :: _, _ => EvalM.notify stack.top.executor stack.top.executor e.value
    | [], .commandList spans =>
      runSpans commands settings levels (runCommandList commands settings levels more)
        text spans stack
    | [], _ => pure ()

/-- Run an action of an attribute. -/
def runAction (commands : Commands) (settings : Settings) (levels : Nat) (text : Styled)
    (stack : FrameStack) : EvalM Unit :=
  runCommandList commands settings levels levels text stack

end Softcode
