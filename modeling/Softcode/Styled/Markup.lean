namespace Softcode

/-!
# Markup

What formatting can be attached to characters: a terminal style, or a hyperlink.
-/

/-- A terminal colour. -/
inductive Colour where
  | black | red | green | yellow | blue | magenta | cyan | white
  /-- A colour of the 256-colour palette. -/
  | indexed (n : UInt8)
  | rgb (r g b : UInt8)
deriving Repr, DecidableEq

/-- A terminal style.  What is not set is left as it is. -/
structure Style where
  foreground : Option Colour := none
  background : Option Colour := none
  bold : Bool := false
  underline : Bool := false
  blink : Bool := false
  inverse : Bool := false
deriving Repr, DecidableEq

/-- Formatting of a piece of text. -/
inductive Markup where
  | style (style : Style)
  | link (url : String)
deriving Repr, DecidableEq

end Softcode
