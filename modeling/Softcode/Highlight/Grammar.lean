import Softcode.Highlight.Expression
import Softcode.Highlight.Lock

namespace Softcode

/-!
# What an editor asks for

The tokens, the errors and the highlights of a text, for each of the grammars that a text can be
written in.
-/

/-- What a text is written in. -/
inductive Grammar where
  | expression (rule : Rule)
  | lock
deriving Repr, DecidableEq

/-- A token with its place in the text. -/
structure PlacedToken where
  kind : String
  chars : List Char
  span : Span
  range : Range
deriving Repr, DecidableEq

namespace Grammar

/-- The tokens of a text. -/
def tokens (text : List Char) : Grammar → List PlacedToken
  | expression _ => ((Token.scan text).filter (·.kind ≠ .eof)).map fun t =>
    place t.kind.describe t.span
  | lock => (LockToken.scan text).map fun t => place t.kind.describe t.span
where
  /-- A token with the given span. -/
  place (kind : String) (span : Span) : PlacedToken :=
    { kind, chars := span.of text, span
      range := (LineIndex.ofChars text).range span.start span.stop }

/-- Everything that is wrong with a text. -/
def errors (text : List Char) : Grammar → List SyntaxError
  | expression rule => (parse rule text).errors
  | lock =>
    match LockExpr.read text with
    | .ok _ => []
    | .error e => [e.report text]

/-- The highlights of a text, in order. -/
def highlights (text : List Char) : Grammar → List Highlight
  | expression rule => Highlight.inOrder (Highlight.ofTree text (parse rule text).tree)
  | lock => Highlight.inOrder (Highlight.ofLock text)

end Grammar

end Softcode
