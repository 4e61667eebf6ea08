import Softcode.Number.Integer

namespace Softcode.Number

/-!
# Reading decimal numbers

A decimal numeral is an optional sign and either digits with an optional point and an optional
exponent, or one of the words for an infinity or for no number at all.
-/

/-- What a decimal numeral says. -/
inductive Numeral where
  /-- The number `mantissa · 10 ^ exponent`, below zero if `negative`. -/
  | finite (negative : Bool) (mantissa : Nat) (exponent : Int)
  | infinity (negative : Bool)
  | notANumber
deriving Repr, DecidableEq

/-- Read an exponent: an optional sign and at least one digit. -/
private def readExponent? (cs : List Char) : Option Int :=
  match cs with
  | '-' :: ds => (readDigits? ds).map fun n => -(n : Int)
  | '+' :: ds => (readDigits? ds).map fun n => (n : Int)
  | ds => (readDigits? ds).map fun n => (n : Int)

/-- Read digits with an optional point and an optional exponent. -/
private def readMagnitude? (negative : Bool) (cs : List Char) : Option Numeral := do
  let whole := cs.takeWhile Char.isDigit
  let rest := cs.dropWhile Char.isDigit
  let (places, rest) := match rest with
    | '.' :: rest => (rest.takeWhile Char.isDigit, rest.dropWhile Char.isDigit)
    | rest => ([], rest)
  let mantissa ← readDigits? (whole ++ places)
  let exponent ← match rest with
    | [] => some 0
    | 'e' :: ds | 'E' :: ds => readExponent? ds
    | _ => none
  return .finite negative mantissa (exponent - places.length)

/-- Read a decimal numeral. -/
def Numeral.read? (cs : List Char) : Option Numeral :=
  let (negative, magnitude) := match cs with
    | '-' :: rest => (true, rest)
    | '+' :: rest => (false, rest)
    | rest => (false, rest)
  match String.ofList (magnitude.map Char.toLower) with
  | "inf" | "infinity" => some (.infinity negative)
  | "nan" => some .notANumber
  | _ => readMagnitude? negative magnitude

/-- The number nearest to what the numeral says.  Magnitudes past the ends of the range of doubles
    are decided by their number of digits, so that no power of ten is ever large. -/
def Numeral.toFloat : Numeral → Float
  | .notANumber => 0.0 / 0.0
  | .infinity negative => if negative then -1.0 / 0.0 else 1.0 / 0.0
  | .finite negative mantissa exponent =>
    let size : Int := (natText mantissa).length + exponent
    let magnitude : Float :=
      if mantissa = 0 || size < -400 then 0.0
      else if 400 < size then 1.0 / 0.0
      else Float.ofScientific mantissa (exponent < 0) exponent.natAbs
    if negative then -magnitude else magnitude

/-- Read a number. -/
def readFloat? (cs : List Char) : Option Float :=
  (Numeral.read? cs).map Numeral.toFloat

end Softcode.Number
