import Softcode.Highlight.Class
import Softcode.Lock.Reader
import Softcode.Tree.SyntaxError

namespace Softcode

/-!
# Highlighting locks

A lock is shown without being read: its operators, its parentheses, and the keys between them.
-/

/-- The class of a token of a lock. -/
inductive LockTokenKind where
  | operator | paren | key
deriving Repr, DecidableEq

/-- The name of the class. -/
def LockTokenKind.describe : LockTokenKind → String
  | operator => "operator"
  | paren => "paren"
  | key => "key"

/-- A token of a lock. -/
structure LockToken where
  kind : LockTokenKind
  span : Span
deriving Repr, DecidableEq

namespace LockToken

/-- The tokens of a lock whose first character has the offset `start`. -/
def scanFrom (start : Nat) : List Char → List LockToken
  | [] => []
  | c :: cs =>
    if Text.isBlank c then scanFrom (start + 1) cs
    else if c = '&' || c = '|' || c = '!' then
      ⟨.operator, ⟨start, start + 1⟩⟩ :: scanFrom (start + 1) cs
    else if c = '(' || c = ')' then ⟨.paren, ⟨start, start + 1⟩⟩ :: scanFrom (start + 1) cs
    else
      let more := (cs.takeWhile (!Key.isOperator ·)).length
      let key := Text.dropRightWhile Text.isBlank (c :: cs.take more)
      ⟨.key, ⟨start, start + key.length⟩⟩ :: scanFrom (start + 1 + more) (cs.drop more)
termination_by cs => cs.length
decreasing_by all_goals (simp; try omega)

/-- The tokens of a lock. -/
def scan (text : List Char) : List LockToken := scanFrom 0 text

end LockToken

namespace Highlight

/-- How a key is shown. -/
def lockKeyClass (key : List Char) : HighlightClass :=
  if Text.sameName key "#TRUE".toList || Text.sameName key "#FALSE".toList then .keyword
  else
    let reference := key.dropWhile ['=', '+', '$', '@'].contains
    if reference.head? = some '#' || !key.any [':', '^', '/'].contains || key.head? = some '@' then
      .objectReference
    else .register

/-- The highlights of a lock. -/
def ofLock (text : List Char) : List Highlight :=
  (LockToken.scan text).flatMap fun token =>
    let cls := match token.kind with
      | .operator | .paren => .operator
      | .key => lockKeyClass (token.span.of text)
    ofSpan text token.span cls

end Highlight

/-- The report on a text that is no lock. -/
def LockError.report (text : List Char) (e : LockError) : SyntaxError :=
  let index := LineIndex.ofChars text
  let place := index.position e.offset
  let width := if e.found = "<EOF>" then 0 else e.found.toList.length
  { line := place.line
    column := place.character
    range := index.range e.offset (e.offset + width)
    message := e.message
    offending := some e.found
    expected := ["key", "'('", "'!'"]
    input := text }

end Softcode
