import Softcode.Object.Reference

namespace Softcode

/-!
# Handing out object numbers

Numbers of objects that are gone are used again, the lowest first.  Each allocation also takes the
next tick of a clock, so that a number with its time of creation never occurs twice.
-/

/-- What the next allocation depends on. -/
structure Allocator where
  /-- The numbers that can be used again, in order. -/
  free : List Dbref := []
  /-- The number for when none can be used again.  Neither it nor the clock is bounded: in 64 bits
      they would overflow after some 2 ^ 63 allocations, and runs here are shorter. -/
  next : Dbref := 0
  clock : Int := 1
deriving Repr, DecidableEq

namespace Allocator

/-- An allocator whose first number is `first`. -/
def startingAt (first : Dbref) : Allocator := { next := first }

/-- Insert a number into a list in order, unless it is there. -/
def insertInOrder (d : Dbref) : List Dbref → List Dbref
  | [] => [d]
  | x :: xs =>
    if d < x then d :: x :: xs
    else if d = x then x :: xs
    else x :: insertInOrder d xs

/-- Hand out a number with a time of creation. -/
def allocate (a : Allocator) : Dbref × Int × Allocator :=
  match a.free with
  | d :: free => (d, a.clock, { a with free := free, clock := a.clock + 1 })
  | [] => (a.next, a.clock, { a with next := a.next + 1, clock := a.clock + 1 })

/-- Take a number back. -/
def recycle (a : Allocator) (d : Dbref) : Allocator :=
  { a with free := insertInOrder d a.free }

/-- Make sure that fresh numbers lie above `d`, which somebody else has assigned. -/
def reserve (a : Allocator) (d : Dbref) : Allocator :=
  { a with next := max a.next (d + 1) }

end Allocator

end Softcode
