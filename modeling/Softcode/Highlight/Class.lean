import Softcode.Source.Position
import Softcode.Source.Span

namespace Softcode

/-!
# Highlighting

What an editor is told about a text: ranges on single lines, each with a class.  The classes have a
fixed order, the legend, by whose index they are transported.
-/

/-- How a piece of text is shown. -/
inductive HighlightClass where
  | function | command | substitution | register | objectReference | escapeSequence
  | bracketSubstitution | braceGroup | operator | keyword | text
deriving Repr, DecidableEq

namespace HighlightClass

/-- All classes, in the order of the legend. -/
def all : List HighlightClass :=
  [function, command, substitution, register, objectReference, escapeSequence,
    bracketSubstitution, braceGroup, operator, keyword, text]

/-- The name of a class in the legend. -/
def name : HighlightClass → String
  | function => "function"
  | command => "command"
  | substitution => "substitution"
  | register => "register"
  | objectReference => "objectReference"
  | escapeSequence => "escapeSequence"
  | bracketSubstitution => "bracketSubstitution"
  | braceGroup => "braceGroup"
  | operator => "operator"
  | keyword => "keyword"
  | text => "text"

/-- The place of a class in the legend. -/
def index : HighlightClass → Nat
  | function => 0
  | command => 1
  | substitution => 2
  | register => 3
  | objectReference => 4
  | escapeSequence => 5
  | bracketSubstitution => 6
  | braceGroup => 7
  | operator => 8
  | keyword => 9
  | text => 10

end HighlightClass

/-- A piece of text on one line, and how it is shown. -/
structure Highlight where
  range : Range
  cls : HighlightClass
  chars : List Char
deriving Repr, DecidableEq

namespace Highlight

/-- The number of characters. -/
def length (h : Highlight) : Nat := h.range.stop.character - h.range.start.character

/-- Is there nothing to show? -/
def isEmpty (h : Highlight) : Bool := h.length == 0

/-- The highlights of the lines of a piece of text: the characters `cs`, the first of which has the
    offset `i`, after the characters `line` of the same line in reverse order. -/
def linesFrom (index : LineIndex) (cls : HighlightClass) (i : Nat) (line : List Char) :
    List Char → List Highlight
  | [] => flush i line
  | c :: cs =>
    if c = '\n' then flush i line ++ linesFrom index cls (i + 1) [] cs
    else linesFrom index cls (i + 1) (c :: line) cs
where
  /-- The highlight of the characters of a line, in reverse order, that end at `i`. -/
  flush (i : Nat) (line : List Char) : List Highlight :=
    if line.isEmpty then []
    else [{ range := index.range (i - line.length) i, cls, chars := line.reverse }]

/-- The highlights of a span of a text, one for each line. -/
def ofSpan (text : List Char) (span : Span) (cls : HighlightClass) : List Highlight :=
  linesFrom (LineIndex.ofChars text) cls span.start [] (span.of text)

/-- The highlight of a single character, if it is there. -/
def ofChar (text : List Char) (offset : Nat) (c : Char) (cls : HighlightClass) : List Highlight :=
  if text[offset]? = some c then ofSpan text ⟨offset, offset + 1⟩ cls else []

/-- The highlights in the order of the text. -/
def inOrder (hs : List Highlight) : List Highlight :=
  hs.mergeSort fun a b => !b.range.start.before a.range.start

/-- Five words for each highlight, which must be in order: how many lines and characters it begins
    after the one before it, its length, its class, and nothing. -/
def encodeFrom (place : Position) : List Highlight → List UInt32
  | [] => []
  | h :: hs =>
    let start := h.range.start
    let lines := start.line - place.line
    let characters := if lines = 0 then start.character - place.character else start.character
    lines.toUInt32 :: characters.toUInt32 :: h.length.toUInt32 :: h.cls.index.toUInt32 :: 0
      :: encodeFrom start hs

/-- The relative encoding of highlights. -/
def encode (hs : List Highlight) : List UInt32 :=
  encodeFrom ⟨0, 0⟩ (inOrder hs)

end Highlight

end Softcode
