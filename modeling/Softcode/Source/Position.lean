namespace Softcode

/-!
# Lines and characters

Editors and messages give places in a text as a line and a character on that line, both counted
from zero.  A newline is the last character of its line.
-/

/-- A place in a text. -/
structure Position where
  line : Nat
  character : Nat
deriving Repr, DecidableEq, Inhabited

/-- Does `p` stand before `q`? -/
def Position.before (p q : Position) : Bool :=
  p.line < q.line || (p.line == q.line && p.character < q.character)

/-- The places from `start` up to, not including, `stop`. -/
structure Range where
  start : Position
  stop : Position
deriving Repr, DecidableEq, Inhabited

namespace Range

/-- Does the place lie in the range? -/
def contains (r : Range) (p : Position) : Bool :=
  !p.before r.start && p.before r.stop

/-- Does the range hold no place? -/
def isEmpty (r : Range) : Bool := r.start == r.stop

/-- Do both ends lie on one line? -/
def isSingleLine (r : Range) : Bool := r.start.line == r.stop.line

end Range

/-! ### Looking a number up in a sorted row -/

/-- The last place with a number up to `x` in the window of `size` places from `base` on, or `base`
    if there is none: the window is halved until one place is left. -/
def bisect (xs : Array Nat) (x base size : Nat) : Nat :=
  if size ≤ 1 then base
  else
    let half := size / 2
    bisect xs x (if x < xs.getD (base + half) 0 then base else base + half) (size - half)
termination_by size

/-- Look `x` up in a row of increasing numbers: `.ok` with the place at which it stands, or `.error`
    with the place at which it would have to be put in. -/
def binarySearch (xs : Array Nat) (x : Nat) : Except Nat Nat :=
  if xs.isEmpty then .error 0
  else
    let base := bisect xs x 0 xs.size
    match compare (xs.getD base 0) x with
    | .eq => .ok base
    | .lt => .error (base + 1)
    | .gt => .error base

/-! ### Lines -/

/-- Where the lines of a text begin, and how long the text is. -/
structure LineIndex where
  /-- The offsets at which lines begin, in order; the first line begins at zero. -/
  starts : Array Nat
  length : Nat
deriving Repr, DecidableEq

namespace LineIndex

/-- The offsets just after the newlines of a text whose first character has offset `i`. -/
def startsAfter (i : Nat) : List Char → List Nat
  | [] => []
  | c :: cs => if c = '\n' then (i + 1) :: startsAfter (i + 1) cs else startsAfter (i + 1) cs

/-- The lines of a text. -/
def ofChars (cs : List Char) : LineIndex :=
  { starts := (0 :: startsAfter 0 cs).toArray, length := cs.length }

/-- The line on which an offset lies: the one that begins there, or else the one before the first
    that begins behind it. -/
def line (index : LineIndex) (offset : Nat) : Nat :=
  match binarySearch index.starts offset with
  | .ok line => line
  | .error next => next - 1

/-- The place of an offset; offsets past the end stand for the end. -/
def position (index : LineIndex) (offset : Nat) : Position :=
  let offset := min offset index.length
  let line := index.line offset
  ⟨line, offset - index.starts.getD line 0⟩

/-- The range between two offsets. -/
def range (index : LineIndex) (start stop : Nat) : Range :=
  ⟨index.position start, index.position stop⟩

end LineIndex

end Softcode
