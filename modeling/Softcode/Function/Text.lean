import Softcode.Function.Basic

namespace Softcode

/-!
# Functions of text

Joining texts, the case of letters, and lists.  A list is cut at each delimiter, or at runs of
spaces if the delimiter is a space or there is none.
-/

/-- The first character of a text. -/
def delimiter? (s : Option Styled) : Option Char := s.bind (·.chars.head?)

/-- The elements of a list. -/
def elements (list : Styled) (delimiter : Option Char) : List Styled :=
  match delimiter.filter (· ≠ ' ') with
  | some d => list.split d
  | none => (list.trim.split ' ').filter fun word => !word.isEmpty

/-- The text between the elements of a list. -/
def separator (delimiter : Option Char) : Styled := .ofChars [delimiter.getD ' ']

/-- The elements of the list that a function is given, with its delimiter. -/
def givenElements (values : List Styled) : List Styled :=
  (values[0]?).elim [] fun list => elements list (delimiter? values[1]?)

/-- The functions of text. -/
def textFunctions : List Function := [
  .native "strcat" 0 none Styled.concat,
  .native "cat" 0 none (Styled.join (.ofString " ")),
  .native "strlen" 0 (some 1) fun values =>
    .ofChars (Number.natText ((values[0]?).elim 0 Styled.length)),
  .control "lit" 0 none .lit,
  .native "ucstr" 1 (some 1) fun values => (values.headD .empty).upper,
  .native "lcstr" 1 (some 1) fun values => (values.headD .empty).lower,
  .native "words" 0 (some 2) fun values =>
    .ofChars (Number.natText (givenElements values).length),
  .native "first" 0 (some 2) fun values => (givenElements values).headD {},
  .native "rest" 0 (some 2) fun values =>
    .join (separator (delimiter? values[1]?)) ((givenElements values).drop 1)]

end Softcode
