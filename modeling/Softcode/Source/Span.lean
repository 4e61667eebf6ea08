namespace Softcode

/-!
# Spans of source text
-/

/-- The characters of a source text from `start` up to, not including, `stop`. -/
structure Span where
  start : Nat
  stop : Nat
deriving Repr, DecidableEq, Inhabited

/-- The number of characters. -/
def Span.length (s : Span) : Nat := s.stop - s.start

/-- Does the span hold no character? -/
def Span.isEmpty (s : Span) : Bool := s.stop ≤ s.start

/-- The characters of the span in a text. -/
def Span.of (s : Span) (text : List Char) : List Char :=
  (text.drop s.start).take s.length

/-- What stands at an offset is the part that begins there. -/
theorem Span.of_drop {text cs rest : List Char} {n : Nat} (h : text.drop n = cs ++ rest) :
    Span.of ⟨n, n + cs.length⟩ text = cs := by
  rw [Span.of, Span.length, h, Nat.add_sub_cancel_left, List.take_left]

end Softcode
