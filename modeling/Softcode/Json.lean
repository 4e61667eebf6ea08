import Softcode.Number.Integer
import Softcode.Text.Blank

namespace Softcode

/-!
# JSON text

The values that reports are made of, and how they are written.
-/

/-- A value of a report. -/
inductive Json where
  | null
  | num (n : Nat)
  | str (cs : List Char)
  | arr (items : List Json)
  | obj (fields : List (String × Json))
deriving Repr

namespace Json

/-- One character between quotes.  Control characters have two or six places. -/
def quotedChar (c : Char) : List Char :=
  match c with
  | '"' => ['\\', '"']
  | '\\' => ['\\', '\\']
  | '\x08' => ['\\', 'b']
  | '\x0c' => ['\\', 'f']
  | '\n' => ['\\', 'n']
  | '\r' => ['\\', 'r']
  | '\t' => ['\\', 't']
  | c =>
    if c < ' ' then
      let digits := Nat.toDigits 16 c.toNat
      ['\\', 'u'] ++ List.replicate (4 - digits.length) '0' ++ digits
    else [c]

/-- A text between quotes. -/
def quoted (cs : List Char) : List Char := '"' :: cs.flatMap quotedChar ++ ['"']

mutual

/-- The value as it is written. -/
def text : Json → List Char
  | null => "null".toList
  | num n => Number.natText n
  | str cs => quoted cs
  | arr items => '[' :: Text.joinWith [','] (texts items) ++ [']']
  | obj fields => '\x7b' :: Text.joinWith [','] (fieldTexts fields) ++ ['\x7d']
termination_by structural json => json

/-- Values as they are written. -/
def texts : List Json → List (List Char)
  | [] => []
  | item :: items => text item :: texts items
termination_by structural items => items

/-- A name and a value as they are written. -/
def fieldText : String × Json → List Char
  | (name, value) => quoted name.toList ++ ':' :: text value
termination_by structural field => field

/-- Names and values as they are written. -/
def fieldTexts : List (String × Json) → List (List Char)
  | [] => []
  | field :: fields => fieldText field :: fieldTexts fields
termination_by structural fields => fields

end

end Json

end Softcode
