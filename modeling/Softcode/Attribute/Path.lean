import Softcode.Error
import Softcode.Text.Blank
import Softcode.Text.Case

namespace Softcode

/-!
# Attribute paths

Attributes form trees, and a path names an attribute by the segments from the root of its tree to
it.  Paths are kept in upper case.
-/

/-- The way to an attribute, from the root of its tree. -/
structure AttributePath where
  segments : List (List Char)
deriving Repr, DecidableEq

namespace AttributePath

/-- The character between the segments of a path. -/
def separator : Char := '`'

/-- Can the character stand in a segment? -/
def isSegmentChar (c : Char) : Bool :=
  '!' ≤ c && c ≤ '~' && !"()[]\x7b\x7d,;%\\`".toList.contains c

/-- Is the text a segment? -/
def isSegment (cs : List Char) : Bool :=
  !cs.isEmpty && cs.all isSegmentChar

/-- Read a path, or say what is wrong.  Blanks around a segment do not count. -/
def read (cs : List Char) : Except DataError AttributePath :=
  let segments := (Text.splitOn separator cs).map fun s => Text.upper (Text.trim s)
  if segments.all isSegment then .ok ⟨segments⟩
  else .error (.invalid ("bad attribute name: " ++ String.ofList cs))

/-- The number of segments. -/
def length (p : AttributePath) : Nat := p.segments.length

/-- The first `n` segments. -/
def take (p : AttributePath) (n : Nat) : AttributePath := ⟨p.segments.take n⟩

/-- The path without its last segment, unless that is its only one. -/
def parent? (p : AttributePath) : Option AttributePath :=
  if 1 < p.length then some (p.take (p.length - 1)) else none

/-- The path as it is written. -/
def text (p : AttributePath) : List Char := Text.joinWith [separator] p.segments

/-- The name of the attribute that the path leads to. -/
def name (p : AttributePath) : String := String.ofList p.text

end AttributePath

/-- The object and the attribute that a text names, with a slash between them.  Without a slash it
    is an attribute. -/
def splitObject (cs : List Char) : Option (List Char) × List Char :=
  match Text.cutAt (· == '/') cs with
  | some (object, rest) => (some object, rest)
  | none => (none, cs)

end Softcode
