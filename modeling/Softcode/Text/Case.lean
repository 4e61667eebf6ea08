namespace Softcode.Text

/-!
# ASCII case

Names are compared and stored without regard to the case of the ASCII letters; all other characters
stay as they are.
-/

/-- `cs` with its ASCII letters in upper case. -/
def upper (cs : List Char) : List Char :=
  cs.map Char.toUpper

/-- `cs` with its ASCII letters in lower case. -/
def lower (cs : List Char) : List Char :=
  cs.map Char.toLower

/-- Do two texts agree up to the case of ASCII letters? -/
def sameName (a b : List Char) : Bool :=
  lower a == lower b

end Softcode.Text

namespace Softcode

/-- `s` with its ASCII letters in upper case. -/
def upperName (s : String) : String :=
  String.ofList (Text.upper s.toList)

/-- `s` with its ASCII letters in lower case. -/
def lowerName (s : String) : String :=
  String.ofList (Text.lower s.toList)

end Softcode
