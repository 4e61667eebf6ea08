import Softcode.Number.Integer

namespace Softcode.Number

/-!
# The shortest decimal text of a number

A finite double is `mantissa · 2 ^ exponent`.  The reals that round to it form an interval around
it; its shortest decimal is the number with the fewest decimal digits in that interval, and among
those the nearest.  All arithmetic is exact, on natural numbers.
-/

/-- A double taken apart: the number `mantissa · 2 ^ exponent`, below zero if `negative`. -/
inductive Binary where
  | finite (negative : Bool) (mantissa : Nat) (exponent : Int)
  | infinity (negative : Bool)
  | notANumber
deriving Repr, DecidableEq

/-- Take the 64 bits of a double apart. -/
def Binary.ofBits (bits : Nat) : Binary :=
  let negative : Bool := Nat.pow 2 63 ≤ bits
  let scale : Nat := bits / Nat.pow 2 52 % Nat.pow 2 11
  let fraction : Nat := bits % Nat.pow 2 52
  if scale = 2047 then
    if fraction = 0 then .infinity negative else .notANumber
  else if scale = 0 then .finite negative fraction (-1074)
  else .finite negative (Nat.pow 2 52 + fraction) ((scale : Int) - 1075)

/-- A positive decimal number `digits · 10 ^ exponent`. -/
structure Decimal where
  digits : Nat
  exponent : Int
deriving Repr, DecidableEq

/-- The interval of reals that round to one positive double, with the double itself: `low`, `mid`
    and `high`, each divided by `scale`.  The ends belong to it if `closed`. -/
structure Interval where
  low : Nat
  mid : Nat
  high : Nat
  scale : Nat
  closed : Bool

/-- The reals that round to `mantissa · 2 ^ exponent`.  Below a power of two the doubles are twice
    as dense as above it. -/
def Interval.around (mantissa : Nat) (exponent : Int) : Interval :=
  let unit := Nat.pow 2 (exponent - 2).toNat
  let below := if mantissa = Nat.pow 2 52 && exponent ≠ -1074 then 1 else 2
  { low := (4 * mantissa - below) * unit
    mid := 4 * mantissa * unit
    high := (4 * mantissa + 2) * unit
    scale := Nat.pow 2 (2 - exponent).toNat
    closed := mantissa % 2 == 0 }

/-- Does the interval hold the real `n / d`? -/
def Interval.holds (i : Interval) (n d : Nat) : Bool :=
  let x := n * i.scale
  if i.closed then i.low * d ≤ x && x ≤ i.high * d else i.low * d < x && x < i.high * d

/-- The numeral of `digits · 10 ^ exponent` as a quotient of natural numbers. -/
def Decimal.quotient (x : Decimal) : Nat × Nat :=
  (x.digits * Nat.pow 10 x.exponent.toNat, Nat.pow 10 (-x.exponent).toNat)

/-- Of the two neighbours of the interval's middle on the grid of multiples of `10 ^ exponent`,
    those in the interval; if both are, the nearer one, the greater one on a tie. -/
def Interval.onGrid? (i : Interval) (exponent : Int) : Option Decimal :=
  let up := Nat.pow 10 exponent.toNat
  let down := Nat.pow 10 (-exponent).toNat
  let below : Decimal := ⟨i.mid * down / (i.scale * up), exponent⟩
  let above : Decimal := ⟨below.digits + 1, exponent⟩
  let holds (x : Decimal) : Bool := let (n, d) := x.quotient; i.holds n d
  match holds below, holds above with
  | false, false => none
  | true, false => some below
  | false, true => some above
  | true, true =>
    -- The middle lies nearer to `above` if twice the middle is at least their sum.
    if (below.digits + above.digits) * up * i.scale ≤ 2 * i.mid * down then some above
    else some below

/-- The number of digits before the point, or minus the number of zeros after it. -/
def Interval.magnitude (i : Interval) : Int :=
  if i.scale ≤ i.mid then (natText (i.mid / i.scale)).length
  else
    let zeros := ((List.range 400).find? fun k => i.scale ≤ i.mid * Nat.pow 10 (k + 1)).getD 400
    0 - zeros

/-- The shortest decimal in the interval.  Seventeen digits always suffice.  The first grid holds
    the power of ten above the number, which is shorter than the number's own digits. -/
def Interval.shortest (i : Interval) : Decimal :=
  let size := i.magnitude
  ((List.range 18).findSome? fun (n : Nat) => i.onGrid? (size - n)).getD ⟨0, 0⟩

/-- A positive decimal written in positional notation, however large or small. -/
def Decimal.text (x : Decimal) : List Char :=
  let digits := natText x.digits
  if 0 ≤ x.exponent then digits ++ List.replicate x.exponent.toNat '0'
  else
    let places := (-x.exponent).toNat
    if places < digits.length then
      digits.take (digits.length - places) ++ '.' :: digits.drop (digits.length - places)
    else '0' :: '.' :: List.replicate (places - digits.length) '0' ++ digits

/-- The integer that a double below 10¹⁵ in magnitude stands for, if it is one. -/
def Binary.smallInteger? : Binary → Option Int
  | .finite negative mantissa exponent =>
    let up := Nat.pow 2 exponent.toNat
    let down := Nat.pow 2 (-exponent).toNat
    if mantissa % down = 0 && mantissa / down * up < Nat.pow 10 15 then
      let n : Int := (mantissa / down * up : Nat)
      some (if negative then -n else n)
    else none
  | _ => none

/-- The text of a number: an integer below 10¹⁵ as an integer, all else as its shortest decimal. -/
def Binary.text (b : Binary) : List Char :=
  match b.smallInteger?, b with
  | some n, _ => intText n
  | none, .finite negative mantissa exponent =>
    let sign := if negative then ['-'] else []
    sign ++ (Interval.around mantissa exponent).shortest.text
  | none, .infinity negative => if negative then "-inf".toList else "inf".toList
  | none, .notANumber => "NaN".toList

/-- The text of a number. -/
def floatText (x : Float) : List Char :=
  (Binary.ofBits x.toBits.toNat).text

end Softcode.Number
