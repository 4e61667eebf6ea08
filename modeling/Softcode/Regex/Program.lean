import Softcode.Regex.Basic

namespace Softcode

/-!
# Programs for regular expressions

An expression becomes a list of instructions, each of which says where to go on.  A program prefers
the first way of a choice, so that the first path to its end is the preferred match.
-/

/-- One step of a match.  Instructions are named by their index. -/
inductive Instruction where
  /-- Take a character of the class. -/
  | take (c : CharClass) (next : Nat)
  /-- Go on in one of two ways, the first being preferred. -/
  | choose (first second : Nat)
  /-- Note the place in a slot. -/
  | save (slot next : Nat)
  | check (l : Look) (next : Nat)
  | jump (next : Nat)
  | accept
deriving Repr, DecidableEq

namespace Regex

/-- The number of instructions of an expression. -/
def size : Regex → Nat
  | empty | cls _ | look _ => 1
  | cat a b => a.size + b.size
  | alt a b => a.size + b.size + 1
  | rep min (some max) _ a => min * a.size + (max - min) * (a.size + 1) + (if max = 0 then 1 else 0)
  | rep 0 none _ a => a.size + (if a.minLength = 0 then 2 else 1)
  | rep (n + 1) none _ a => (n + 1) * a.size + 1
  | group _ a => a.size + 2

/-- A choice between going on inside and going on after, by greed. -/
def prefer (greedy : Bool) (inside after : Nat) : Instruction :=
  if greedy then .choose inside after else .choose after inside

/-- `n` copies of a piece of `size` instructions, the first of which is at `start`; `code` gives the
    copy at one place that goes on at another. -/
def copies (code : Nat → Nat → List Instruction) (size : Nat) : Nat → Nat → Nat → List Instruction
  | 0, _, _ => []
  | 1, start, next => code start next
  | n + 2, start, next =>
    code start (start + size) ++ copies code size (n + 1) (start + size) next

/-- `n` optional copies, each of which is tried only if the one before it was taken. -/
def options (code : Nat → Nat → List Instruction) (size : Nat) (greedy : Bool) (next : Nat) :
    Nat → Nat → List Instruction
  | 0, _ => []
  | 1, start => prefer greedy (start + 1) next :: code (start + 1) next
  | n + 2, start =>
    prefer greedy (start + 1) next ::
      (code (start + 1) (start + 1 + size) ++
        options code size greedy next (n + 1) (start + 1 + size))

/-- The instructions of an expression, to be placed at `start`, that go on at `next`. -/
def code : Regex → Nat → Nat → List Instruction
  | empty, _, next => [.jump next]
  | cls c, _, next => [.take c next]
  | look l, _, next => [.check l next]
  | cat a b, start, next => a.code start (start + a.size) ++ b.code (start + a.size) next
  | alt a b, start, next =>
    .choose (start + 1) (start + 1 + a.size) ::
      (a.code (start + 1) next ++ b.code (start + 1 + a.size) next)
  | group i a, start, next =>
    .save (2 * i) (start + 1) ::
      (a.code (start + 1) (start + 1 + a.size) ++ [.save (2 * i + 1) next])
  | rep min (some max) greedy a, start, next =>
    let after := start + min * a.size
    if max = 0 then [.jump next]
    else if max ≤ min then copies a.code a.size min start next
    else
      copies a.code a.size min start after ++
        options a.code a.size greedy next (max - min) after
  | rep 0 none greedy a, start, next =>
    if a.minLength = 0 then
      -- The body may take nothing: try it once, and then again and again.
      prefer greedy (start + 1) next ::
        (a.code (start + 1) (start + 1 + a.size) ++ [prefer greedy (start + 1) next])
    else prefer greedy (start + 1) next :: a.code (start + 1) start
  | rep (n + 1) none greedy a, start, next =>
    let last := start + n * a.size
    copies a.code a.size (n + 1) start (last + a.size) ++ [prefer greedy last next]

/-- The program of an expression. -/
def program (r : Regex) : Array Instruction :=
  (r.code 0 r.size ++ [Instruction.accept]).toArray

/-- No program is longer than this, where nothing else is said.  What really bounds a program is the
    memory that it takes, of which the number of its instructions is only a rough measure: the
    number here stands for such a bound, and nothing that is proved depends on which one it is. -/
def maxSize : Nat := 250000

end Regex

end Softcode
