import Softcode.Styled.Basic

namespace Softcode

/-!
# Styled text on a terminal

A terminal is told about styles by escape sequences: style codes between `ESC [` and `m`, and the
target of a link after `ESC ] 8 ; ;`.  Where the set of spans over the text changes, everything is
switched off and the new set is switched on.
-/

namespace Colour

/-- The position of a basic colour in the basic palette. -/
def basic? : Colour → Option Nat
  | black => some 0
  | red => some 1
  | green => some 2
  | yellow => some 3
  | blue => some 4
  | magenta => some 5
  | cyan => some 6
  | white => some 7
  | indexed _ | rgb _ _ _ => none

/-- The style codes that select a colour, for the text itself or for what is behind it. -/
def codes (c : Colour) (background : Bool) : List Nat :=
  let extended := if background then 48 else 38
  match c with
  | indexed n => [extended, 5, n.toNat]
  | rgb r g b => [extended, 2, r.toNat, g.toNat, b.toNat]
  | c => [(if background then 40 else 30) + c.basic?.getD 0]

end Colour

/-- The style codes that select a style. -/
def Style.codes (s : Style) : List Nat :=
  (if s.bold then [1] else []) ++ (if s.underline then [4] else []) ++
  (if s.blink then [5] else []) ++ (if s.inverse then [7] else []) ++
  (s.foreground.map (·.codes false)).getD [] ++ (s.background.map (·.codes true)).getD []

namespace Styled

/-- Begins every escape sequence. -/
def escapeChar : Char := '\x1b'

/-- Select a list of style codes. -/
def selectCodes (codes : List Nat) : List Char :=
  let texts := codes.map (Nat.toDigits 10)
  escapeChar :: '[' :: Text.joinWith [';'] texts ++ ['m']

/-- Select the target of a link; an empty target ends the link. -/
def selectLink (url : List Char) : List Char :=
  escapeChar :: "]8;;".toList ++ url ++ [escapeChar, '\\']

/-- Switch on the markup of some spans: each link, then all styles at once. -/
def switchOn (spans : List StyleSpan) : List Char :=
  let links := spans.flatMap fun s => match s.markup with
    | .link url => selectLink url.toList
    | .style _ => []
  let codes := spans.flatMap fun s => match s.markup with
    | .link _ => []
    | .style style => style.codes
  links ++ (if codes.isEmpty then [] else selectCodes codes)

/-- Does the span set a style? -/
def setsStyle (s : StyleSpan) : Bool :=
  match s.markup with
  | .style _ => true
  | .link _ => false

/-- Switch off the markup of some spans. -/
def switchOff (spans : List StyleSpan) : List Char :=
  (if spans.any setsStyle then selectCodes [0] else []) ++
  (if spans.any (!setsStyle ·) then selectLink [] else [])

/-- The spans that cover the character at `i`, in order. -/
def spansAt (s : Styled) (i : Nat) : List StyleSpan :=
  s.spans.filter (·.covers i)

/-- What a terminal is sent for the characters `cs`, which begin at `i`, when the markup of `active`
    is switched on. -/
def renderFrom (s : Styled) (i : Nat) (active : List StyleSpan) : List Char → List Char
  | [] => switchOff active
  | c :: cs =>
    let now := s.spansAt i
    let change := if now = active then [] else switchOff active ++ switchOn now
    change ++ c :: renderFrom s (i + 1) now cs

/-- What a terminal is sent to show the text. -/
def render (s : Styled) : List Char :=
  s.renderFrom 0 [] s.chars

end Styled

end Softcode
