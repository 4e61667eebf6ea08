import Softcode.Number.Integer
import Softcode.Regex.Basic
import Softcode.Regex.Property

namespace Softcode.Regex

/-!
# Flags and escapes of regular expressions

What a character of a regular expression stands for depends on the flags in force, and a backslash
gives the next character a meaning of its own.
-/

/-- The flags in force at a place in a regular expression. -/
structure Flags where
  /-- Letters stand for both of their cases. -/
  fold : Bool := false
  /-- The anchors stand for the ends of lines. -/
  multiline : Bool := false
  /-- A dot takes newlines. -/
  dotAll : Bool := false
  /-- Repetitions are lazy unless marked. -/
  lazy : Bool := false
  /-- A carriage return ends a line too. -/
  returns : Bool := false
  /-- Blanks and comments in the expression mean nothing. -/
  verbose : Bool := false
  /-- The named classes go beyond ASCII. -/
  wide : Bool := true
deriving Repr, DecidableEq

namespace Flags

/-- Set the flag that a letter names. -/
def set? (f : Flags) (on : Bool) : Char → Option Flags
  | 'i' => some { f with fold := on }
  | 'm' => some { f with multiline := on }
  | 's' => some { f with dotAll := on }
  | 'U' => some { f with lazy := on }
  | 'R' => some { f with returns := on }
  | 'x' => some { f with verbose := on }
  | 'u' => some { f with wide := on }
  | _ => none

/-- The text after blanks and comments, given whether it starts inside a comment. -/
def skipBlanks : Bool → List Char → List Char
  | _, [] => []
  | true, c :: cs => skipBlanks (c != '\n') cs
  | false, c :: cs =>
    if Text.isBlank c then skipBlanks false cs
    else if c = '#' then skipBlanks true cs
    else c :: cs

/-- The text after blanks and comments, if these mean nothing. -/
def skip (f : Flags) (cs : List Char) : List Char :=
  if f.verbose then skipBlanks false cs else cs

theorem length_skipBlanks_le (comment : Bool) (cs : List Char) :
    (skipBlanks comment cs).length ≤ cs.length := by
  fun_induction skipBlanks comment cs <;> simp_all <;> omega

theorem length_skip_le (f : Flags) (cs : List Char) : (f.skip cs).length ≤ cs.length := by
  unfold skip
  split
  · exact length_skipBlanks_le false cs
  · exact Nat.le_refl _

/-- The ASCII characters. -/
def ascii : CharClass := .range '\x00' '\x7f'

/-- The characters of a set that the flags admit. -/
def within (f : Flags) (c : CharClass) : CharClass :=
  if f.wide then c else .inter c ascii

/-- What a character stands for. -/
def literal (f : Flags) (c : Char) : CharClass :=
  if !f.fold then .char c
  else if f.wide then .like c
  else if c.toNat < 0x80 then f.within (.like c)
  else .char c

/-- What a dot stands for.  Beyond ASCII it cannot be said what one character is. -/
def dot? (f : Flags) : Option CharClass :=
  if !f.wide then none
  else if f.dotAll then some .any
  else if f.returns then some (.compl (.union (.char '\n') (.char '\r')))
  else some (.compl (.char '\n'))

/-- What `^` stands for. -/
def caret (f : Flags) : Look :=
  if !f.multiline then .start else if f.returns then .anyLineStart else .lineStart

/-- What `$` stands for. -/
def dollar (f : Flags) : Look :=
  if !f.multiline then .stop else if f.returns then .anyLineStop else .lineStop

/-- The complement of a set.  There is none unless characters beyond ASCII are admitted. -/
def compl? (f : Flags) (c : CharClass) : Option CharClass :=
  if f.wide then some (.compl c) else none

/-- The class that a letter after a backslash names. -/
def named? (f : Flags) : Char → Option CharClass
  | 'd' => some (f.within .digit)
  | 's' => some (f.within .blank)
  | 'w' => some (f.within .word)
  | 'D' => f.compl? .digit
  | 'S' => f.compl? .blank
  | 'W' => f.compl? .word
  | _ => none

end Flags

/-! ### Escapes -/

/-- What a backslash and what follows it stand for. -/
inductive Escape where
  | char (c : Char)
  | cls (c : CharClass)
  | look (l : Look)
deriving Repr, DecidableEq

/-- Does the character have a meaning of its own in regular expressions? -/
def isMeta (c : Char) : Bool :=
  "\\.+*?()|[]\x7b\x7d^$#&-~".toList.contains c

/-- Does a backslash before the character only stand for the character? -/
def isEscapable (c : Char) : Bool :=
  isMeta c || (c.toNat < 0x80 && !c.isAlphanum && c != '<' && c != '>')

/-- A character as it is written in a regular expression that is to match it. -/
def quote (c : Char) : List Char :=
  if isMeta c then ['\\', c] else [c]

/-- The value of a hexadecimal digit. -/
def hexDigit? (c : Char) : Option Nat :=
  if '0' ≤ c ∧ c ≤ '9' then some (c.toNat - '0'.toNat)
  else if 'a' ≤ c ∧ c ≤ 'f' then some (c.toNat - 'a'.toNat + 10)
  else if 'A' ≤ c ∧ c ≤ 'F' then some (c.toNat - 'A'.toNat + 10)
  else none

/-- The character with a code point. -/
def charAt? (n : Nat) : Option Char :=
  if n.isValidChar then some (Char.ofNat n) else none

/-- A number of `n` hexadecimal digits. -/
def readHex (f : Flags) (value : Nat) : Nat → List Char → Option (Nat × List Char)
  | 0, cs => some (value, cs)
  | _ + 1, [] => none
  | n + 1, c :: cs => do readHex f (16 * value + (← hexDigit? c)) n (f.skip cs)

/-- A number of hexadecimal digits up to a closing brace, with the fuel of as many characters as
    there are. -/
def readBraced (f : Flags) (digits : List Nat) : Nat → List Char → Option (Nat × List Char)
  | fuel + 1, c :: cs =>
    if c = '\x7d' then
      if digits.isEmpty then none
      else some (digits.foldr (fun d n => d + 16 * n) 0, f.skip cs)
    else do readBraced f ((← hexDigit? c) :: digits) fuel (f.skip cs)
  | _, _ => none

/-- A character given by its code point, after the letter that announces it. -/
def readCode (f : Flags) (letter : Char) (cs : List Char) : Option (Char × List Char) :=
  let digits := if letter = 'x' then 2 else if letter = 'u' then 4 else 8
  match f.skip cs with
  | '\x7b' :: cs => do
    let (n, rest) ← readBraced f [] (cs.length + 1) (f.skip cs)
    return (← charAt? n, rest)
  | cs => do
    let (n, rest) ← readHex f 0 digits cs
    -- Of two digits, a number beyond ASCII would stand for a byte, which is no character.
    guard (f.wide || letter != 'x' || n < 0x80)
    return (← charAt? n, rest)

/-- The text up to a closing brace, after the characters `name` of it in reverse order, with the
    fuel of as many characters as there are. -/
def readName (f : Flags) (name : List Char) : Nat → List Char → Option (List Char × List Char)
  | fuel + 1, c :: cs =>
    if c = '\x7d' then some (name.reverse, cs) else readName f (c :: name) fuel (f.skip cs)
  | _, _ => none

/-- The set of characters with a property, after the letter that announces it: the property has a
    name in braces or of one letter. -/
def readProperty (f : Flags) (negated : Bool) (cs : List Char) :
    Option (CharClass × List Char) := do
  let (name, rest) ← match f.skip cs with
    | [] | '\\' :: _ => none
    | '\x7b' :: cs => readName f [] (cs.length + 1) (f.skip cs)
    | c :: cs => some ([c], cs)
  guard f.wide
  let c ← CharClass.property? name
  return (.complIf negated (.foldedIf f.fold c), rest)

/-- The name in braces after a word boundary, if there is one.  Gives nothing if the braces cannot
    be read, and no name if they are a repetition. -/
def readBoundaryName (f : Flags) (cs : List Char) : Option (Option String × List Char) :=
  let isNameChar (c : Char) := c.isAlpha || c = '-'
  match f.skip cs with
  | [] => none
  | c :: rest =>
    -- The brace opens a repetition, so it is put back.
    if !isNameChar c then some (none, '\x7b' :: cs)
    else
      let (name, rest) := go isNameChar (rest.length + 2) [] (c :: rest)
      match rest with
      | '\x7d' :: rest => some (some (String.ofList name.reverse), rest)
      | _ => none
where
  /-- The characters of the name, and what follows them. -/
  go (isNameChar : Char → Bool) : Nat → List Char → List Char → List Char × List Char
    | fuel + 1, name, c :: cs =>
      if isNameChar c then go isNameChar fuel (c :: name) (f.skip cs) else (name, c :: cs)
    | _, name, cs => (name, cs)

/-- A condition on words. -/
def Flags.wordLook (f : Flags) (condition : WordLook) : Look :=
  .word (f.within .word) condition

/-- What a word boundary stands for, after its letter. -/
def readBoundary (f : Flags) (cs : List Char) : Option (Look × List Char) :=
  match cs with
  | '\x7b' :: rest => do
    match ← readBoundaryName f rest with
    | (none, rest) => some (f.wordLook .boundary, rest)
    | (some "start", rest) => some (f.wordLook .start, rest)
    | (some "end", rest) => some (f.wordLook .stop, rest)
    | (some "start-half", rest) => some (f.wordLook .noneBefore, rest)
    | (some "end-half", rest) => some (f.wordLook .noneAfter, rest)
    | _ => none
  | _ => some (f.wordLook .boundary, cs)

/-- What the text after a backslash stands for. -/
def readEscape (f : Flags) : List Char → Option (Escape × List Char)
  | [] => none
  | c :: cs =>
    if isEscapable c then some (.char c, cs)
    else match c with
      | 'a' => some (.char '\x07', cs)
      | 'f' => some (.char '\x0c', cs)
      | 't' => some (.char '\t', cs)
      | 'n' => some (.char '\n', cs)
      | 'r' => some (.char '\r', cs)
      | 'v' => some (.char '\x0b', cs)
      | 'A' => some (.look .start, cs)
      | 'z' => some (.look .stop, cs)
      | 'b' => (readBoundary f cs).map fun (l, rest) => (.look l, rest)
      | 'B' => some (.look (f.wordLook .interior), cs)
      | '<' => some (.look (f.wordLook .start), cs)
      | '>' => some (.look (f.wordLook .stop), cs)
      | 'x' | 'u' | 'U' => (readCode f c cs).map fun (c, rest) => (.char c, rest)
      | 'p' | 'P' => (readProperty f (c == 'P') cs).map fun (k, rest) => (.cls k, rest)
      | _ => (f.named? c).map fun k => (.cls k, cs)

end Softcode.Regex
