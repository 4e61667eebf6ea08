import Softcode.Text.Blank
import Softcode.Text.Category
import Softcode.Text.Folding
import Softcode.Text.Word

namespace Softcode

/-!
# Classes of characters

The sets of characters that a regular expression can ask for.
-/

/-- A set of characters. -/
inductive CharClass where
  /-- Every character. -/
  | any
  | char (c : Char)
  /-- All characters that agree with `c` up to case. -/
  | like (c : Char)
  | range (first last : Char)
  | digit
  | blank
  | word
  /-- The characters of a general category. -/
  | category (g : Text.Category)
  /-- The characters whose code points lie in one of the closed ranges. -/
  | table (ranges : List (Nat × Nat))
  | union (a b : CharClass)
  | inter (a b : CharClass)
  | compl (a : CharClass)
  /-- All characters that agree up to case with one of the set. -/
  | folded (a : CharClass)
deriving Repr, DecidableEq

namespace CharClass

/-- Does the set hold the character? -/
def has : CharClass → Char → Bool
  | any, _ => true
  | char c, x => x == c
  | like c, x => Text.foldEq x c
  | range first last, x => first.val ≤ x.val && x.val ≤ last.val
  | digit, x => Text.isDecimalDigit x
  | blank, x => Text.isBlank x
  | word, x => Text.isWord x
  | category g, x => g.has x
  | table ranges, x => Text.inRanges ranges x
  | union a b, x => a.has x || b.has x
  | inter a b, x => a.has x && b.has x
  | compl a, x => !a.has x
  | folded a, x => (Text.caseVariants x).any a.has

/-- The empty set. -/
def none : CharClass := table []

/-- What is in `a` and not in `b`. -/
def diff (a b : CharClass) : CharClass := inter a (compl b)

/-- What is in exactly one of the sets. -/
def symmDiff (a b : CharClass) : CharClass := union (diff a b) (diff b a)

/-- The complement of the set, if `negated`. -/
def complIf (negated : Bool) (a : CharClass) : CharClass := if negated then compl a else a

/-- The set closed under case, if `fold`. -/
def foldedIf (fold : Bool) (a : CharClass) : CharClass := if fold then folded a else a

/-- The sets of ASCII characters that have a name. -/
def posix? (name : String) : Option CharClass :=
  let set (ranges : List (Char × Char)) : Option CharClass :=
    some (table (ranges.map fun (a, b) => (a.toNat, b.toNat)))
  match name with
  | "alnum" => set [('0', '9'), ('A', 'Z'), ('a', 'z')]
  | "alpha" => set [('A', 'Z'), ('a', 'z')]
  | "ascii" => set [('\x00', '\x7f')]
  | "blank" => set [('\t', '\t'), (' ', ' ')]
  | "cntrl" => set [('\x00', '\x1f'), ('\x7f', '\x7f')]
  | "digit" => set [('0', '9')]
  | "graph" => set [('!', '~')]
  | "lower" => set [('a', 'z')]
  | "print" => set [(' ', '~')]
  | "punct" => set [('!', '/'), (':', '@'), ('[', '`'), ('\x7b', '~')]
  | "space" => set [('\t', '\r'), (' ', ' ')]
  | "upper" => set [('A', 'Z')]
  | "word" => set [('0', '9'), ('A', 'Z'), ('_', '_'), ('a', 'z')]
  | "xdigit" => set [('0', '9'), ('A', 'F'), ('a', 'f')]
  | _ => Option.none

end CharClass

end Softcode
