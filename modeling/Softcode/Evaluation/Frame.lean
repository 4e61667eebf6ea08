import Softcode.Evaluation.Registers
import Softcode.Object.Reference
import Softcode.Stack

namespace Softcode

/-!
# Frames

A frame is what a piece of softcode sees while it runs: who runs it, on whose behalf, with which
arguments, inside which loops and calls.  A call pushes a frame made from the frame of its caller.
-/

/-- The number of a loop. -/
abbrev LoopId := Nat

/-- The state of one loop. -/
structure Iteration where
  /-- The element of the list that the loop is at. -/
  value : Styled
  /-- The place of the element in the list, from 1. -/
  index : Nat
  loop : LoopId
deriving Repr, DecidableEq

/-- What a piece of softcode sees. -/
structure Frame where
  registers : ScopeId := 0
  /-- The loops around it, the innermost first. -/
  iterations : Stack Iteration := {}
  /-- What the patterns of commands took, the last pattern first. -/
  captures : Stack (Table String Styled) := {}
  arguments : List Styled := []
  /-- The attribute that it stands in: the object and the path. -/
  attr : Option (Dbref × String) := none
  command : Option String := none
  switches : List String := []
  function : Option String := none
  /-- The number of calls around it. -/
  depth : Nat := 0
  /-- How often each function occurs among the calls around it, by the name in lower case. -/
  recursion : Table String Nat := {}
  /-- Who runs it. -/
  executor : Dbref
  /-- On whose behalf. -/
  enactor : Dbref
  /-- Who called it. -/
  caller : Dbref
  /-- The connection on which the command was typed. -/
  handle : Option Nat := none
deriving Repr, DecidableEq

namespace Frame

/-- The frame of a command that a player typed on a connection. -/
def ofConnection (player : Dbref) (handle : Nat) : Frame :=
  { executor := player, enactor := player, caller := player, handle := some handle }

/-- How often a function occurs among the calls around. -/
def recursionOf (f : Frame) (name : String) : Nat :=
  (f.recursion.find? (lowerName name)).getD 0

/-- The frame of a call. -/
def enter (f : Frame) (name : String) : Frame :=
  { f with
    depth := f.depth + 1
    recursion := f.recursion.insert (lowerName name) (f.recursionOf name + 1)
    function := some name }

/-- The frame inside a loop. -/
def iterate (f : Frame) (i : Iteration) : Frame :=
  { f with iterations := f.iterations.push i }

/-- The frame of the action of a pattern, with what the pattern took. -/
def capture (f : Frame) (captures : Table String Styled) : Frame :=
  { f with captures := f.captures.push captures }

/-- The frame in which another object runs.  Who ran before becomes the caller. -/
def runAs (f : Frame) (executor : Dbref) : Frame :=
  { f with executor, caller := f.executor }

/-- An argument, which is empty if there is none. -/
def argument (f : Frame) (i : Nat) : Styled := (f.arguments[i]?).getD {}

/-- A loop around it, where the innermost is at 0. -/
def iteration? (f : Frame) (level : Nat) : Option Iteration := f.iterations.get? level

/-- What a group of the last pattern took. -/
def capture? (f : Frame) (name : String) : Option Styled :=
  f.captures.peek?.bind (·.find? name)

end Frame

/-- The frames of an evaluation.  There is always one. -/
structure FrameStack where
  top : Frame
  below : Stack Frame := {}
deriving Repr, DecidableEq

namespace FrameStack

/-- Push a frame. -/
def push (s : FrameStack) (f : Frame) : FrameStack := { top := f, below := s.below.push s.top }

/-- The number of frames. -/
def length (s : FrameStack) : Nat := s.below.length + 1

/-- The frames, the top first. -/
def frames (s : FrameStack) : List Frame := s.top :: s.below.items

end FrameStack

end Softcode
