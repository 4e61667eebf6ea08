import Softcode.Function.Basic
import Softcode.Number.Decimal
import Softcode.Number.Shortest

namespace Softcode

/-!
# Functions of numbers

Arithmetic and comparison.  Blank text stands for zero, and no argument may be infinite.
-/

/-- What is said when arguments are no numbers. -/
def notNumbers : Styled := .ofString "#-1 ARGUMENTS MUST BE NUMBERS"

/-- The number that a text writes. -/
def number? (s : Styled) : Option Float :=
  match Text.trim s.chars with
  | [] => some 0
  | cs => (Number.readFloat? cs).filter Float.isFinite

/-- The text of a number. -/
def numberText (x : Float) : Styled := .ofChars (Number.floatText x)

/-- The text of a truth value. -/
def truthText (b : Bool) : Styled := .ofString (if b then "1" else "0")

/-- A function of numbers. -/
def ofNumbers (f : List Float → Styled) (values : List Styled) : Styled :=
  match values.mapM number? with
  | some xs => f xs
  | none => notNumbers

/-- A function of two numbers. -/
def ofTwoNumbers (f : Float → Float → Styled) : List Styled → Styled :=
  ofNumbers fun
    | [a, b] => f a b
    | _ => notNumbers

/-- A comparison of two numbers. -/
def comparison (f : Float → Float → Bool) : List Styled → Styled :=
  ofTwoNumbers fun a b => truthText (f a b)

/-- A function of two integers, the second of which is not zero. -/
def ofIntegers (f : Int → Int → Int) : List Styled → Styled
  | [a, b] =>
    match Number.readInteger? (Text.trim a.chars), Number.readInteger? (Text.trim b.chars) with
    | some _, some 0 => .ofString "#-1 DIVISION BY ZERO"
    | some a, some b => .ofChars (Number.intText (f a b))
    | _, _ => .ofString "#-1 ARGUMENTS MUST BE INTEGERS"
  | _ => .ofString "#-1 ARGUMENTS MUST BE INTEGERS"

/-- The functions of numbers. -/
def numberFunctions : List Function := [
  .native "add" 2 none (ofNumbers fun xs => numberText (xs.foldl (· + ·) 0)),
  .native "sub" 2 (some 2) (ofTwoNumbers fun a b => numberText (a - b)),
  .native "mul" 2 none (ofNumbers fun xs => numberText (xs.foldl (· * ·) 1)),
  .native "div" 2 (some 2) (ofIntegers Number.quotient),
  .native "mod" 2 (some 2) (ofIntegers Number.remainder),
  .native "abs" 1 (some 1) (ofNumbers fun
    | [a] => numberText a.abs
    | _ => notNumbers),
  .native "eq" 2 (some 2) (comparison fun a b => a == b),
  .native "neq" 2 (some 2) (comparison fun a b => a != b),
  .native "lt" 2 (some 2) (comparison fun a b => a < b),
  .native "lte" 2 (some 2) (comparison fun a b => a ≤ b),
  .native "gt" 2 (some 2) (comparison fun a b => b < a),
  .native "gte" 2 (some 2) (comparison fun a b => b ≤ a)]

end Softcode
