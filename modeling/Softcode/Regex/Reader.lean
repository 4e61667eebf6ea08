import Softcode.Regex.Bracket
import Softcode.Text.Alphanumeric

namespace Softcode.Regex

/-!
# Reading regular expressions

A regular expression is read from left to right.  The reader keeps what it has read of the innermost
open group and a stack of the groups around it.  With each expression it keeps how deep this is
nested: groups, brackets and repetitions are levels, and so are sequences of more than one piece and
choices between more than one branch.  What is nested too deep is no regular expression.
-/

/-- A piece of a sequence.  A setting of flags takes a place in the sequence, but cannot be
    repeated. -/
inductive Piece where
  | setting
  | item (r : Regex) (nesting : Nat)
deriving Repr, DecidableEq

/-- The expression of a piece, if it has one. -/
def Piece.regex? : Piece → Option Regex
  | setting => none
  | item r _ => some r

/-- How deep the piece is nested. -/
def Piece.nesting : Piece → Nat
  | setting => 0
  | item _ n => n

/-- What has been read of a group: the choices before the last bar, and the sequence after it, the
    last piece first. -/
structure Draft where
  choices : List Regex := []
  pieces : List Piece := []
  /-- How deep the choices are nested. -/
  deepest : Nat := 0
deriving Repr, DecidableEq

namespace Draft

/-- The sequence after the last bar. -/
def branch (d : Draft) : Regex := sequence (d.pieces.reverse.filterMap Piece.regex?)

/-- The expression that has been read. -/
def regex (d : Draft) : Regex := choice (d.choices.reverse ++ [d.branch])

/-- How deep the sequence after the last bar is nested. -/
def branchNesting (d : Draft) : Nat :=
  let deepest := (d.pieces.map Piece.nesting).foldr max 0
  if d.pieces.length ≤ 1 then deepest else deepest + 1

/-- How deep the expression that has been read is nested. -/
def nesting (d : Draft) : Nat :=
  if d.choices.isEmpty then d.branchNesting else max d.deepest d.branchNesting + 1

/-- Add an expression to the sequence. -/
def push (d : Draft) (r : Regex) (nesting : Nat) : Draft :=
  { d with pieces := .item r nesting :: d.pieces }

/-- Meet a bar. -/
def bar (d : Draft) : Draft :=
  { choices := d.branch :: d.choices, deepest := max d.deepest d.branchNesting }

/-- Repeat the last expression. -/
def repeatLast? (d : Draft) (min : Nat) (max : Option Nat) (greedy : Bool) : Option Draft :=
  match d.pieces with
  | .item r n :: pieces =>
    some { d with pieces := .item (repeated min max greedy r) (n + 1) :: pieces }
  | _ => none

end Draft

/-- An open group: what was read before it, the flags before it, and its index if its text is
    captured. -/
structure OpenGroup where
  outer : Draft
  flags : Flags
  index : Option Nat
deriving Repr, DecidableEq

/-- The state of the reader. -/
structure Reader where
  flags : Flags
  draft : Draft := {}
  stack : List OpenGroup := []
  /-- The number of groups opened so far whose text is captured. -/
  groups : Nat := 0
  names : List (String × Nat) := []
deriving Repr, DecidableEq

/-! ### Groups -/

/-- Read the letters that set flags, up to a colon or a closing parenthesis, which stays.  A letter
    or hyphen cannot occur twice, and no hyphen can come last.  `seen` is what has occurred. -/
def readFlags (f : Flags) (on : Bool) (seen : List Char) : List Char → Option (Flags × List Char)
  | [] => none
  | c :: cs =>
    if c = ':' ∨ c = ')' then
      -- The text that has been seen is in reverse order, so its head is what stands last.
      if seen.head? = some '-' then none else some (f, c :: cs)
    else if seen.contains c then none
    else if c = '-' then readFlags f false (c :: seen) cs
    else do readFlags (← f.set? on c) on (c :: seen) cs

/-- Can the character stand in the name of a group, at its start or later? -/
def isNameChar (first : Bool) (c : Char) : Bool :=
  if first then c == '_' || Text.isAlphabetic c
  else c == '_' || c == '.' || c == '[' || c == ']' || Text.isAlphanumeric c

/-- Is the text a name for a group? -/
def isGroupName : List Char → Bool
  | [] => false
  | c :: cs => isNameChar true c && cs.all (isNameChar false)

namespace Reader

/-- Open a group whose text is captured. -/
def openCapture (r : Reader) (names : List (String × Nat)) : Reader :=
  { r with
    draft := {}
    stack := ⟨r.draft, r.flags, some (r.groups + 1)⟩ :: r.stack
    groups := r.groups + 1
    names := r.names ++ names }

/-- Open a group that has a name, after the angle that opens the name. -/
def openNamed (r : Reader) (cs : List Char) : Option (Reader × List Char) := do
  let (name, rest) ← Text.cutAt (· == '>') cs
  guard (isGroupName name)
  let name := String.ofList name
  guard (r.names.lookup name).isNone
  return (r.openCapture [(name, r.groups + 1)], rest)

/-- Read what follows an opening parenthesis. -/
def openGroup (r : Reader) (cs : List Char) : Option (Reader × List Char) :=
  match r.flags.skip cs with
  -- There are no conditions on what comes before or after.
  | '?' :: '=' :: _ | '?' :: '!' :: _ | '?' :: '<' :: '=' :: _ | '?' :: '<' :: '!' :: _ => none
  | '?' :: 'P' :: '<' :: cs | '?' :: '<' :: cs => r.openNamed cs
  | '?' :: cs => do
    let (flags, rest) ← readFlags r.flags true [] cs
    match rest with
    | ')' :: rest =>
      guard (cs.head? != some ')')
      -- The flags hold up to the end of the group around them.
      let draft := { r.draft with pieces := .setting :: r.draft.pieces }
      return ({ r with flags, draft }, rest)
    | _ :: rest =>
      return ({ r with flags, draft := {}, stack := ⟨r.draft, r.flags, none⟩ :: r.stack }, rest)
    | [] => none
  | cs => some (r.openCapture [], cs)

/-- Meet a closing parenthesis. -/
def closeGroup (r : Reader) : Option Reader :=
  match r.stack with
  | [] => none
  | g :: stack =>
    let body := r.draft.regex
    let whole := match g.index with
      | none => body
      | some i => group i body
    some { r with flags := g.flags, draft := g.outer.push whole (r.draft.nesting + 1), stack }

/-! ### Repetitions -/

/-- Repeat the last expression; a question mark that follows reverses the preference. -/
def repeatLast (r : Reader) (min : Nat) (max : Option Nat) (cs : List Char) :
    Option (Reader × List Char) := do
  let (marked, rest) := match cs with
    | '?' :: rest => (true, rest)
    | _ => (false, cs)
  -- Either of the mark and the flag makes it lazy; together they make it greedy.
  let draft ← r.draft.repeatLast? min max (marked == r.flags.lazy)
  return ({ r with draft }, rest)

/-- A count: digits with blanks around them, and the text after these. -/
def readCount (f : Flags) (cs : List Char) : Option Nat × List Char :=
  let (digits, rest) := go (cs.length + 1) [] (cs.dropWhile Text.isBlank)
  (readCount? digits.reverse, rest.dropWhile Text.isBlank)
where
  /-- The digits, the last one first, and the text after them. -/
  go : Nat → List Char → List Char → List Char × List Char
    | fuel + 1, digits, c :: cs =>
      if c.isDigit then go fuel (c :: digits) (f.skip cs) else (digits, c :: cs)
    | _, digits, cs => (digits, cs)
  /-- The number that the digits write, if it is small enough for a count. -/
  readCount? (digits : List Char) : Option Nat := do
    let n ← Number.readDigits? digits
    if n < 4294967296 then some n else none

/-- Read what follows an opening brace: how often the last expression is repeated. -/
def repeatCounted (r : Reader) (cs : List Char) : Option (Reader × List Char) := do
  let (min, rest) := readCount r.flags (r.flags.skip cs)
  let min ← min
  let (max, rest) ← match rest with
    | ',' :: rest =>
      match r.flags.skip rest with
      -- Without a second count there is no upper bound.
      | '\x7d' :: rest => some (none, '\x7d' :: rest)
      | rest => match readCount r.flags rest with
        | (some max, rest) => some (some max, rest)
        | (none, _) => none
    | rest => some (some min, rest)
  match rest with
  | '\x7d' :: rest =>
    guard (max.all (min ≤ ·))
    r.repeatLast min max (r.flags.skip rest)
  | _ => none

/-! ### The whole expression -/

/-- Add an expression to the innermost group. -/
def push (r : Reader) (x : Regex) (nesting : Nat := 0) : Reader :=
  { r with draft := r.draft.push x nesting }

/-- Read one construct, which starts with the given character. -/
def step (r : Reader) (c : Char) (cs : List Char) : Option (Reader × List Char) :=
  match c with
  | '(' => r.openGroup cs
  | ')' => r.closeGroup.map (·, cs)
  | '|' => some ({ r with draft := r.draft.bar }, cs)
  | '[' =>
    let (b, rest) := Bracket.open r.flags cs
    (readBracket r.flags b [] rest).map fun (k, nesting, rest) => (r.push (cls k) nesting, rest)
  | '?' => r.repeatLast 0 (some 1) cs
  | '*' => r.repeatLast 0 none cs
  | '+' => r.repeatLast 1 none cs
  | '\x7b' => r.repeatCounted cs
  | '.' => r.flags.dot?.map fun k => (r.push (cls k), cs)
  | '^' => some (r.push (look r.flags.caret), cs)
  | '$' => some (r.push (look r.flags.dollar), cs)
  | '\\' => (readEscape r.flags cs).map fun
    | (.char c, rest) => (r.push (cls (r.flags.literal c)), rest)
    | (.cls k, rest) => (r.push (cls k), rest)
    | (.look l, rest) => (r.push (look l), rest)
  | c => some (r.push (cls (r.flags.literal c)), cs)

/-- Read to the end of the text. -/
def run (r : Reader) (cs : List Char) : Option Reader :=
  match _ : r.flags.skip cs with
  | [] => some r
  | c :: rest =>
    match r.step c rest with
    | none => none
    -- The lengths are compared for the sake of termination; no construct gives back more text.
    | some (next, rest') => if _ : rest'.length ≤ rest.length then next.run rest' else none
termination_by cs.length
decreasing_by
  have := r.flags.length_skip_le cs
  simp_all
  omega

end Reader

/-- No regular expression is nested deeper than this. -/
def maxNesting : Nat := 250

/-- Read a regular expression.  Gives it with the names of its groups. -/
def read? (flags : Flags) (text : List Char) : Option (Regex × List (String × Nat)) :=
  match ({ flags } : Reader).run text with
  | some { draft, stack := [], names, .. } =>
    if draft.nesting ≤ maxNesting then some (draft.regex, names) else none
  | _ => none

end Softcode.Regex
