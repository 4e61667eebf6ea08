import Softcode.Regex.CharClass
import Softcode.Text.Alphanumeric
import Softcode.Text.Case
import Softcode.Text.Script

namespace Softcode.CharClass

/-!
# Properties of characters

Regular expressions can ask for characters by a property: a general category, a script, or one of a
few properties that a character has or has not.  The names of properties are compared without regard
to case, blanks, hyphens, underscores and an `is` in front.
-/

/-- The name of a property in the form in which names are compared. -/
def propertyName (cs : List Char) : String :=
  let isFirst := Text.lower (cs.take 2) == ['i', 's']
  let rest := (if isFirst then cs.drop 2 else cs).filter fun c =>
    c.toNat < 0x80 && c != ' ' && c != '_' && c != '-'
  let name := String.ofList (Text.lower rest)
  -- Not to be taken for the category of the name `c`.
  if isFirst && name == "c" then "isc" else name

/-- The lower-case characters that are not letters of that category. -/
def otherLowercase : CharClass := table [
  (0xAA, 0xAA), (0xBA, 0xBA), (0x2B0, 0x2B8), (0x2C0, 0x2C1), (0x2E0, 0x2E4), (0x345, 0x345),
  (0x37A, 0x37A), (0x10FC, 0x10FC), (0x1D2C, 0x1D6A), (0x1D78, 0x1D78), (0x1D9B, 0x1DBF),
  (0x2071, 0x2071), (0x207F, 0x207F), (0x2090, 0x209C), (0x2170, 0x217F), (0x24D0, 0x24E9),
  (0x2C7C, 0x2C7D), (0xA69C, 0xA69D), (0xA770, 0xA770), (0xA7F2, 0xA7F4), (0xA7F8, 0xA7F9),
  (0xAB5C, 0xAB5F), (0xAB69, 0xAB69), (0x10780, 0x10780), (0x10783, 0x10785), (0x10787, 0x107B0),
  (0x107B2, 0x107BA), (0x1E030, 0x1E06D)]

/-- The upper-case characters that are not letters of that category. -/
def otherUppercase : CharClass := table [
  (0x2160, 0x216F), (0x24B6, 0x24CF), (0x1F130, 0x1F149), (0x1F150, 0x1F169), (0x1F170, 0x1F189)]

/-- The letters of every script. -/
def alphabetic : CharClass :=
  union (union (range 'A' 'Z') (range 'a' 'z'))
    (diff (table Text.alphanumericRanges) (table Text.numeralRanges))

/-- The set of a property that a character has or has not. -/
def binary? : String → Option CharClass
  | "alphabetic" | "alpha" => some alphabetic
  | "lowercase" | "lower" => some (union (category .lowercaseLetter) otherLowercase)
  | "uppercase" | "upper" => some (union (category .uppercaseLetter) otherUppercase)
  | "whitespace" | "wspace" | "space" => some blank
  | "asciihexdigit" | "ahex" => posix? "xdigit"
  | _ => Option.none

/-- The set of a general category or of several of them. -/
def category? : String → Option CharClass
  | "any" => some any
  | "ascii" => posix? "ascii"
  | "assigned" => some (compl (category .unassigned))
  | name => (Text.Category.ofName? name).map fun gs =>
    gs.foldr (fun g c => union (category g) c) none

/-- The set of a script. -/
def script? (name : String) : Option CharClass :=
  (Text.scriptRanges? name).map table

/-- The set of a property, given by one name or by a name and a value with `=`, `:` or `!=`
    between them. -/
def property? (cs : List Char) : Option CharClass :=
  let named (name value : List Char) : Option CharClass :=
    match propertyName name with
    | "gc" | "generalcategory" => category? (propertyName value)
    | "sc" | "script" => script? (propertyName value)
    | _ => Option.none
  match cutAtUnequal cs <|> Text.cutAt (· == ':') cs <|> Text.cutAt (· == '=') cs with
  | some (name, value) => named name value
  | Option.none =>
    let name := propertyName cs
    binary? name <|> category? name <|> script? name
where
  /-- The text before and after the first `!=`. -/
  cutAtUnequal : List Char → Option (List Char × List Char)
    | '!' :: '=' :: cs => some ([], cs)
    | c :: cs => (cutAtUnequal cs).map fun (before, after) => (c :: before, after)
    | [] => Option.none

end Softcode.CharClass
