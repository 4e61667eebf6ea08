import Softcode.Evaluation.Limit
import Softcode.Function.Basic
import Softcode.Lock.Passing
import Softcode.World.Lookup

namespace Softcode

/-!
# The state of an evaluation

What an evaluation counts and keeps, with the world and the functions that there are.  Functions and
commands act on the same state, so nothing but what they do keeps a function from changing the
world.
-/

/-- What an evaluation reads and changes. -/
structure EvalState where
  world : World := {}
  functions : Functions := {}
  registers : Registers := {}
  /-- The number of loops so far. -/
  loops : Nat := 0
  /-- The loops that have been asked to stop. -/
  halted : List LoopId := []
  /-- The number of calls so far. -/
  invocations : Nat := 0
  /-- The number of nodes so far. -/
  nodes : Nat := 0
  /-- How often the evaluation can still look whether it has been cancelled, and has not.  Without a
      number nobody ever cancels it. -/
  cancelAfter : Option Nat := none
  patterns : PatternCache := {}
  locks : LockCache := {}

/-- A computation with the state of an evaluation, which may end early. -/
abbrev EvalM := ExceptT Abort (StateM EvalState)

namespace EvalM

/-- End here if the evaluation has been cancelled.  Somebody may do so at any time, so the
    evaluation looks each time before it asks anything of the world. -/
def checkCancelled : EvalM Unit := do
  match (← get).cancelAfter with
  | none => return
  | some 0 => throw .cancelled
  | some (more + 1) => modify fun s => { s with cancelAfter := some more }

/-- The world, to be asked something.  Questions that come one after the other count as one, as
    nothing happens between them. -/
def ask : EvalM World := do
  checkCancelled
  return (← get).world

/-- Change the world. -/
def act (f : World → World) : EvalM Unit := do
  checkCancelled
  modify fun s => { s with world := f s.world }

/-- Do something to the world that may fail.  Gives how that went. -/
def inWorld {α : Type} (x : ExceptT ScriptError (StateM World) α) :
    EvalM (Except ScriptError α) := do
  checkCancelled
  modifyGet fun s => let (result, world) := x.run.run s.world; (result, { s with world })

/-- Do something to the locks of the world that may fail.  Gives how that went. -/
def inLocks {α : Type} (x : ExceptT ScriptError (StateM LockService) α) :
    EvalM (Except ScriptError α) :=
  modifyGet fun s =>
    let (result, t) := x.run.run ⟨s.world, s.locks⟩
    (result, { s with world := t.world, locks := t.cache })

/-- Send a message. -/
def notify (target sender : Dbref) (message : Styled) : EvalM Unit :=
  act (·.notify target sender message)

/-- Count one thing more, and end here if that passes a ceiling. -/
def count (bump : EvalState → EvalState) (counted : EvalState → Nat) (ceiling : Nat)
    (kind : LimitKind) : EvalM Unit := do
  modify bump
  if ceiling < counted (← get) then throw (.limit kind)

/-- Count a call. -/
def countInvocation (limits : Limits) : EvalM Unit :=
  count (fun s => { s with invocations := s.invocations + 1 }) (·.invocations) limits.invocations
    .invocations

/-- Count a node. -/
def countNode (limits : Limits) : EvalM Unit :=
  count (fun s => { s with nodes := s.nodes + 1 }) (·.nodes) limits.nodes .nodes

/-- The frame of a call, unless calls nest too deep or the function occurs too often among them. -/
def enter (limits : Limits) (frame : Frame) (name : String) : EvalM Frame := do
  let inner := frame.enter name
  if limits.depth < inner.depth then throw (.limit .depth)
  if limits.recursion < inner.recursionOf name then throw (.limit .recursion)
  return inner

/-- Use the patterns that are ready. -/
def withPatterns {α : Type} (x : StateM PatternCache α) : EvalM α :=
  modifyGet fun s => let (a, patterns) := x.run s.patterns; (a, { s with patterns })

/-- Does an object pass a lock of another?  The locks that are ready are used. -/
def passesLock (kind : LockKind) (gated unlocker : Dbref) : EvalM Bool :=
  modifyGet fun s =>
    let (passes, locks) := (s.world.passesAt kind gated unlocker).run s.locks
    (passes, { s with locks })

/-- The frame with a register scope of its own. -/
def localize (frame : Frame) : EvalM Frame :=
  modifyGet fun s =>
    let (registers, all) := s.registers.fork frame.registers
    ({ frame with registers }, { s with registers := all })

/-- Start a loop. -/
def newLoop : EvalM LoopId :=
  modifyGet fun s => (s.loops, { s with loops := s.loops + 1 })

/-- The object that softcode means by a name: `me`, `here`, a reference, a player after an asterisk,
    or something near the object that runs the softcode. -/
def locate? (executor : Dbref) (name : List Char) : EvalM (Option Dbref) := do
  let name := Text.trim name
  if Text.sameName name "me".toList then return some executor
  let world ← ask
  let location := (world.object? executor).bind (·.location)
  if Text.sameName name "here".toList then return location
  match name with
  | '#' :: _ => match Reference.read name with
    | .ok r => return (world.referent? r).map (·.dbref)
    | .error _ => return none
  | '*' :: player => return world.player? player
  | _ => return (world.firstNamed? name (world.nearby executor location)).map (·.dbref)

/-- May the executor read what was found?  Some attributes anybody may read. -/
def mayRead (executor object : Dbref) (found : FoundAttribute) : EvalM Bool := do
  if found.chain.getLast?.any (·.flags.visual) then return true
  return (← ask).canExamine executor object

end EvalM

/-- Look up an attribute that an object has or inherits. -/
def Settings.resolve? (settings : Settings) (d : Dbref) (path : AttributePath) :
    EvalM (Option FoundAttribute) := do
  return ((← EvalM.ask).resolve settings.parentHops d path true).found?

end Softcode
