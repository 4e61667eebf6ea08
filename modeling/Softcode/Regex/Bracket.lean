import Softcode.Regex.Escape

namespace Softcode.Regex

/-!
# Bracketed classes of regular expressions

A bracketed class lists characters, ranges and other classes.  Inside it `&&`, `--` and `~~` combine
what stands before with what stands after, from left to right.  How deep a class is nested is
counted along the way: a bracket is a level, and so are a list of more than one class and an
operator.
-/

/-- The ways to combine two classes. -/
inductive ClassOperator where
  | inter | diff | symmDiff
deriving Repr, DecidableEq

/-- Combine two classes.  Both are closed under case first, if `fold`. -/
def ClassOperator.apply (op : ClassOperator) (fold : Bool) (a b : CharClass) : CharClass :=
  let a := a.foldedIf fold
  let b := b.foldedIf fold
  match op with
  | inter => .inter a b
  | diff => a.diff b
  | symmDiff => a.symmDiff b

/-- A bracket that is still open: what stands on the left of the operator that is waiting for its
    right side, with its nesting, and what has been listed since. -/
structure Bracket where
  negated : Bool
  pending : Option (ClassOperator × CharClass × Nat) := none
  listed : CharClass := .none
  /-- How many classes are listed. -/
  count : Nat := 0
  /-- How deep the classes that are listed are nested. -/
  deepest : Nat := 0
deriving Repr, DecidableEq

namespace Bracket

/-- List one more class. -/
def list (b : Bracket) (c : CharClass) (nesting : Nat := 0) : Bracket :=
  { b with
    listed := .union b.listed c
    count := b.count + 1
    deepest := max b.deepest nesting }

/-- What the bracket stands for so far, without its negation. -/
def value (b : Bracket) (fold : Bool) : CharClass :=
  match b.pending with
  | none => b.listed
  | some (op, left, _) => op.apply fold left b.listed

/-- How deep the bracket is nested so far, without the level that it is itself. -/
def nesting (b : Bracket) : Nat :=
  let right := if b.count ≤ 1 then b.deepest else b.deepest + 1
  match b.pending with
  | none => right
  | some (_, _, left) => max left right + 1

/-- Meet an operator. -/
def operator (b : Bracket) (fold : Bool) (op : ClassOperator) : Bracket :=
  { negated := b.negated, pending := some (op, b.value fold, b.nesting) }

/-- What the bracket stands for. -/
def close? (b : Bracket) (f : Flags) : Option CharClass :=
  let c := (b.value f.fold).foldedIf f.fold
  if b.negated then f.compl? c else some (f.within c)

/-- Leading hyphens stand for themselves. -/
def readHyphens (f : Flags) (b : Bracket) : Nat → List Char → Bracket × List Char
  | fuel + 1, '-' :: cs => readHyphens f (b.list (.char '-')) fuel (f.skip cs)
  | _, cs => (b, cs)

/-- The start of a bracket, after its opening character.  A closing bracket that comes first stands
    for itself. -/
def «open» (f : Flags) (cs : List Char) : Bracket × List Char :=
  let (negated, cs) := match f.skip cs with
    | '^' :: cs => (true, f.skip cs)
    | cs => (false, cs)
  match readHyphens f { negated } (cs.length + 1) cs with
  | (b, ']' :: rest) =>
    if b.listed = .none then (b.list (.char ']'), f.skip rest) else (b, ']' :: rest)
  | r => r

end Bracket

/-- The class that a name between `[:` and `:]` stands for, after the opening bracket. -/
def readPosix? (f : Flags) : List Char → Option (Option CharClass × List Char)
  | ':' :: cs => do
    let (negated, cs) := match cs with
      | '^' :: cs => (true, cs)
      | cs => (false, cs)
    let (name, rest) ← Text.cutAt (· == ':') cs
    match rest with
    | ']' :: rest =>
      let c ← CharClass.posix? (String.ofList name)
      let c := c.foldedIf f.fold
      return (if negated then f.compl? c else some (f.within c), rest)
    | _ => none
  | _ => none

/-- One member of a bracket. -/
inductive Member where
  | char (c : Char)
  | cls (c : CharClass)
deriving Repr, DecidableEq

/-- Read one member of a bracket. -/
def readMember (f : Flags) : List Char → Option (Member × List Char)
  | [] => none
  | '\\' :: cs =>
    match readEscape f cs with
    | some (.char c, rest) => some (.char c, rest)
    | some (.cls c, rest) => some (.cls c, rest)
    | _ => none
  | c :: cs => some (.char c, cs)

/-- The single character may be listed. -/
def Flags.admits (f : Flags) (c : Char) : Bool :=
  f.wide || c.toNat < 0x80

/-- A member of a bracket, or a range between two characters. -/
def readRange (f : Flags) (cs : List Char) : Option (CharClass × List Char) := do
  let (first, rest) ← readMember f cs
  let single : Option CharClass := match first with
    | .char c => if f.admits c then some (.char c) else none
    | .cls c => some c
  match f.skip rest with
  | [] => none
  | '-' :: rest =>
    match f.skip rest with
    | [] => none
    -- A hyphen before the end stands for itself, and two hyphens are an operator.
    | ']' :: _ => return (← single, '-' :: rest)
    | '-' :: _ => return (← single, '-' :: rest)
    | rest =>
      let (last, rest) ← readMember f rest
      match first, last with
      | .char a, .char b =>
        if a ≤ b ∧ f.admits a ∧ f.admits b then return (.range a b, rest) else none
      | _, _ => none
  | rest => return (← single, rest)

/-- Read on in a bracket, given the brackets around it, the innermost first.  Gives the class with
    its nesting and the text after its end. -/
def readBracket (f : Flags) (b : Bracket) (outer : List Bracket) (cs : List Char) :
    Option (CharClass × Nat × List Char) :=
  match _ : f.skip cs with
  | [] => none
  | '[' :: rest =>
    match readPosix? f rest with
    | some (c, rest') => do
      let c ← c
      -- The lengths are compared for the sake of termination; no reader gives back more text.
      if _ : rest'.length ≤ rest.length then readBracket f (b.list c) outer rest' else none
    | none =>
      let (inner, rest') := Bracket.open f rest
      if _ : rest'.length ≤ rest.length then readBracket f inner (b :: outer) rest' else none
  | ']' :: rest =>
    match outer with
    | [] => (b.close? f).map (·, b.nesting + 1, rest)
    | b' :: outer => do readBracket f (b'.list (← b.close? f) (b.nesting + 1)) outer rest
  | '&' :: '&' :: rest => readBracket f (b.operator f.fold .inter) outer rest
  | '-' :: '-' :: rest => readBracket f (b.operator f.fold .diff) outer rest
  | '~' :: '~' :: rest => readBracket f (b.operator f.fold .symmDiff) outer rest
  | cs' =>
    match readRange f cs' with
    | none => none
    | some (c, rest) =>
      if _ : rest.length < cs.length then readBracket f (b.list c) outer rest else none
termination_by cs.length
decreasing_by
  all_goals
    have := f.length_skip_le cs
    simp_all
    try omega

end Softcode.Regex
