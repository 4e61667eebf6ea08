namespace Softcode.Number

/-!
# Reading integers

Object numbers, timestamps, limits and integer arguments are decimal numerals with an optional sign
that must fit into 64 bits.
-/

/-- The value of a non-empty run of ASCII digits. -/
def readDigits? (cs : List Char) : Option Nat :=
  if cs.isEmpty || !cs.all Char.isDigit then none
  else some (cs.foldl (fun n c => 10 * n + (c.toNat - '0'.toNat)) 0)

/-- The least integer of 64 bits. -/
def minInteger : Int := -9223372036854775808

/-- The greatest integer of 64 bits. -/
def maxInteger : Int := 9223372036854775807

/-- The greatest natural number of 64 bits. -/
def maxNatural : Nat := 18446744073709551615

/-- Read a signed numeral.  A value outside 64 bits is refused. -/
def readInteger? (cs : List Char) : Option Int :=
  let value : Option Int := match cs with
    | '-' :: ds => (readDigits? ds).map fun n : Nat => -(n : Int)
    | '+' :: ds => (readDigits? ds).map fun n : Nat => (n : Int)
    | ds => (readDigits? ds).map fun n : Nat => (n : Int)
  value.filter fun n => minInteger ≤ n && n ≤ maxInteger

/-- Read an unsigned numeral, which may begin with a plus sign.  A value outside 64 bits is
    refused. -/
def readNatural? (cs : List Char) : Option Nat :=
  let value := match cs with
    | '+' :: ds => readDigits? ds
    | ds => readDigits? ds
  value.filter (· ≤ maxNatural)

/-- The integer of 64 bits that agrees with `n` modulo 2⁶⁴. -/
def wrap (n : Int) : Int :=
  n.bmod 18446744073709551616

/-- Quotient toward zero, within 64 bits. -/
def quotient (a b : Int) : Int :=
  wrap (a.tdiv b)

/-- Remainder of the quotient toward zero. -/
def remainder (a b : Int) : Int :=
  a.tmod b

/-- The decimal digits of a natural number. -/
def natText (n : Nat) : List Char :=
  Nat.toDigits 10 n

/-- The decimal numeral of an integer. -/
def intText (n : Int) : List Char :=
  if n < 0 then '-' :: natText n.natAbs else natText n.natAbs

end Softcode.Number
