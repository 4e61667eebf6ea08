import Softcode.Regex.CharClass

namespace Softcode

/-!
# Regular expressions

The syntax of regular expressions after reading: flags have been applied, so that a class holds
exactly the characters that it accepts.
-/

/-- A condition on whether word characters stand before and after a place. -/
inductive WordLook where
  | boundary | interior | start | stop | noneBefore | noneAfter
deriving Repr, DecidableEq

/-- A condition on a place in a text. -/
inductive Look where
  | start | stop
  | lineStart | lineStop
  /-- Line ends are newlines, carriage returns, or both together. -/
  | anyLineStart | anyLineStop
  /-- A condition on the words of a text, given which characters make up words. -/
  | word (letters : CharClass) (condition : WordLook)
deriving Repr, DecidableEq

/-- A regular expression. -/
inductive Regex where
  | empty
  | cls (c : CharClass)
  | look (l : Look)
  | cat (a b : Regex)
  | alt (a b : Regex)
  /-- From `min` to `max` times, as often as possible if `greedy`. -/
  | rep (min : Nat) (max : Option Nat) (greedy : Bool) (a : Regex)
  /-- A group whose text is captured. -/
  | group (index : Nat) (a : Regex)
deriving Repr, DecidableEq

/-- Does the condition hold, given whether there are word characters on the two sides? -/
def WordLook.holds (condition : WordLook) (before after : Bool) : Bool :=
  match condition with
  | boundary => before != after
  | interior => before == after
  | start => !before && after
  | stop => before && !after
  | noneBefore => !before
  | noneAfter => !after

/-- Does the condition hold between the two characters?  There is none before the start of the text
    and none after its end. -/
def Look.holds (look : Look) (before after : Option Char) : Bool :=
  match look with
  | start => before.isNone
  | stop => after.isNone
  | lineStart => before.isNone || before == some '\n'
  | lineStop => after.isNone || after == some '\n'
  | anyLineStart =>
    before.isNone || before == some '\n' || (before == some '\r' && after != some '\n')
  | anyLineStop =>
    after.isNone || after == some '\r' || (after == some '\n' && before != some '\r')
  | word letters condition => condition.holds (before.any letters.has) (after.any letters.has)

namespace Regex

/-- The least number of characters that the expression takes. -/
def minLength : Regex → Nat
  | empty | look _ => 0
  | cls _ => 1
  | cat a b => a.minLength + b.minLength
  | alt a b => min a.minLength b.minLength
  | rep n _ _ a => n * a.minLength
  | group _ a => a.minLength

/-- Can the expression take a character at all? -/
def takesNone : Regex → Bool
  | empty | look _ => true
  | cls _ => false
  | cat a b | alt a b => a.takesNone && b.takesNone
  | rep _ max _ a => max == some 0 || a.takesNone
  | group _ a => a.takesNone

/-- A repetition.  What takes no character is repeated at most once, and what is repeated zero times
    is nothing at all. -/
def repeated (min : Nat) (max : Option Nat) (greedy : Bool) (a : Regex) : Regex :=
  let (min, max) :=
    if a.takesNone then (Nat.min min 1, some (Nat.min (max.getD 1) 1)) else (min, max)
  if max == some 0 then empty
  else if min == 1 && max == some 1 then a
  else rep min max greedy a

/-- A sequence of expressions. -/
def sequence : List Regex → Regex
  | [] => empty
  | [a] => a
  | a :: as => cat a (sequence as)

/-- A choice between expressions, the first being preferred. -/
def choice : List Regex → Regex
  | [] => empty
  | [a] => a
  | a :: as => alt a (choice as)

/-- The greatest index of a group. -/
def lastGroup : Regex → Nat
  | empty | cls _ | look _ => 0
  | cat a b | alt a b => max a.lastGroup b.lastGroup
  | rep _ _ _ a => a.lastGroup
  | group i a => max i a.lastGroup

end Regex

end Softcode
