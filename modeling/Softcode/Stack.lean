namespace Softcode

/-!
# Stacks

A stack is never changed in place: pushing gives a new stack that shares the old one.
-/

/-- A stack, the top first. -/
structure Stack (α : Type) where
  items : List α := []
deriving Repr, DecidableEq

namespace Stack

variable {α : Type}

/-- The stack with one more item on top. -/
def push (s : Stack α) (a : α) : Stack α := ⟨a :: s.items⟩

/-- The stack without its top.  Nothing is below the empty stack but itself. -/
def pop (s : Stack α) : Stack α := ⟨s.items.tail⟩

/-- The top. -/
def peek? (s : Stack α) : Option α := s.items.head?

/-- The item at a depth, where the top is at 0. -/
def get? (s : Stack α) (n : Nat) : Option α := s.items[n]?

/-- The number of items. -/
def length (s : Stack α) : Nat := s.items.length

/-- Is there no item? -/
def isEmpty (s : Stack α) : Bool := s.items.isEmpty

end Stack

end Softcode
