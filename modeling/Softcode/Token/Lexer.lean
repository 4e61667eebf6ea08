import Softcode.Token.Basic
import Softcode.Text.Alphanumeric
import Softcode.Text.Blank
import Softcode.Text.Case
import Softcode.Number.Decimal

namespace Softcode

/-!
# Cutting softcode into tokens

A lexer goes through a text from its beginning to its end.  `Lexer.nextToken` reads the token at the
current character and leaves the lexer behind it; which branch it takes depends on the character,
and each branch goes on by at least one.  So the lexer comes to the end (`Lexer.Onward`), and
`Token.scan` is the list of what it reads on its way.
-/

/-- Can `c` be part of a name? -/
def isNameChar (c : Char) : Bool :=
  Text.isAlphanumeric c || ['_', '@', '~', '`', '.', '-'].contains c

/-- The characters that are a token, or begin one, wherever they stand. -/
def signs : List Char := ['(', ')', '[', ']', '\x7b', '\x7d', ',', '=', ';', '\\', '%']

/-- Does `c` always end a run of other characters? -/
def isSpecial (c : Char) : Bool := signs.contains c || Text.isBlank c

/-- Is `c` one of the characters that belong to no other class? -/
def isOther (c : Char) : Bool := !isSpecial c && !isNameChar c

/-- What a percent sign and the character behind it stand for, by what may belong to them. -/
inductive Substitution.Form where
  /-- The name of a register. -/
  | named (f : String → Substitution)
  /-- A digit. -/
  | counted (f : Nat → Substitution)
  /-- A letter. -/
  | lettered (f : Char → Substitution)
  /-- Nothing more. -/
  | alone (sub : Substitution)

/-- What may belong to a percent sign and `c`. -/
def Substitution.form (c : Char) : Form :=
  match c with
  | 'q' | 'Q' => .named .register
  | '$' => .named .capture
  | 'i' | 'I' => .counted .iteration
  | 'v' | 'V' | 'w' | 'W' | 'x' | 'X' =>
    .lettered fun d => .namedAttr (String.ofList [c.toUpper, d.toUpper])
  | 'b' | 'B' => .alone .space
  | 'r' | 'R' => .alone .newline
  | 't' | 'T' => .alone .tab
  | '%' => .alone .percent
  | '#' => .alone .enactor
  | '!' => .alone .executor
  | '@' => .alone .caller
  | 'n' => .alone (.enactorName false)
  | 'N' => .alone (.enactorName true)
  | 'k' | 'K' => .alone .moniker
  | '~' => .alone .accentedName
  | 's' | 'S' => .alone (.pronoun .subjective c.isUpper)
  | 'o' | 'O' => .alone (.pronoun .objective c.isUpper)
  | 'p' | 'P' => .alone (.pronoun .possessive c.isUpper)
  | 'a' | 'A' => .alone (.pronoun .absolute c.isUpper)
  | 'l' | 'L' => .alone .location
  | 'c' | 'C' | 'u' | 'U' => .alone .currentCommand
  | '+' => .alone .argumentCount
  | '?' => .alone .invocationDepth
  | c => .alone (if c.isDigit then .argument (c.toNat - '0'.toNat) else .literal c)

/-- A text and a place in it. -/
structure Lexer where
  chars : Array Char
  pos : Nat := 0
deriving Repr, DecidableEq

namespace Lexer

/-- At the beginning of a text. -/
def ofChars (cs : List Char) : Lexer := { chars := cs.toArray }

/-- The character at the place, if the text goes on. -/
def current (l : Lexer) : Option Char := l.chars[l.pos]?

/-- Go on by `n` characters. -/
def advance (l : Lexer) (n : Nat := 1) : Lexer := { l with pos := l.pos + n }

theorem pos_lt_of_current {l : Lexer} {c : Char} (h : l.current = some c) : l.pos < l.chars.size :=
  (Array.getElem?_eq_some_iff.mp h).1

/-- Go on as long as the current character is of a class. -/
def skipWhile (p : Char → Bool) (l : Lexer) : Lexer :=
  match _h : l.current with
  | some c => if p c then l.advance.skipWhile p else l
  | none => l
termination_by l.chars.size - l.pos
decreasing_by
  have hpos := pos_lt_of_current _h
  show l.chars.size - (l.pos + 1) < l.chars.size - l.pos
  omega

/-- The characters from `start` up to the place. -/
def since (l : Lexer) (start : Nat) : List Char := (l.chars.extract start l.pos).toList

/-- The token from `start` up to the place. -/
def token (l : Lexer) (kind : TokenKind) (start : Nat)
    (substitution : Option Substitution := none) : Token :=
  { kind, chars := l.since start, span := ⟨start, l.pos⟩, substitution }

/-! ### The kinds of tokens -/

/-- A run of name characters: the head of a call if a parenthesis follows, else a number or text. -/
def readName (l : Lexer) : TokenKind × Lexer :=
  let word := l.skipWhile isNameChar
  -- The parenthesis belongs to the head of the call.
  if word.current = some '(' then (.functionHead, word.advance)
  else if (Number.Numeral.read? (word.since l.pos)).isSome then (.number, word)
  else (.text, word)

/-- The name of a register: one ASCII letter or digit, or any text in angle brackets.  It is given
    in upper case. -/
def readRegisterName? (l : Lexer) : Option (String × Lexer) :=
  match l.current with
  | none => none
  | some c =>
    if c = '<' then
      ((l.chars.extract l.pos l.chars.size).findIdx? (· == '>')).map fun close =>
        let name := (l.chars.extract (l.pos + 1) (l.pos + close)).toList
        (String.ofList (Text.upper name), l.advance (close + 1))
    else if c.isAlphanum then some (String.ofList [c.toUpper], l.advance)
    else none

/-- What a percent sign and `c` stand for, at the character behind `c`.  Where that belongs to them
    in no way that it may, `c` stands for itself. -/
def readAfter (l : Lexer) (c : Char) : Substitution × Lexer :=
  match Substitution.form c with
  | .named f =>
    match l.readRegisterName? with
    | some (name, l) => (f name, l)
    | none => (.literal c, l)
  | .counted f =>
    match l.current with
    | some d => if d.isDigit then (f (d.toNat - '0'.toNat), l.advance) else (.literal c, l)
    | none => (.literal c, l)
  | .lettered f =>
    match l.current with
    | some d => if d.isAlpha then (f d, l.advance) else (.literal c, l)
    | none => (.literal c, l)
  | .alone sub => (sub, l)

/-- What a percent sign stands for, at the character behind it; nothing if the text ends there. -/
def readSubstitution? (l : Lexer) : Option (Substitution × Lexer) :=
  l.current.map l.advance.readAfter

/-- The kind of the token that begins with `c`, the current character, and the lexer behind it. -/
def readKind (l : Lexer) (c : Char) : TokenKind × Option Substitution × Lexer :=
  match c with
  | '(' => (.openParen, none, l.advance)
  | ')' => (.closeParen, none, l.advance)
  | '[' => (.openBracket, none, l.advance)
  | ']' => (.closeBracket, none, l.advance)
  | '\x7b' => (.openBrace, none, l.advance)
  | '\x7d' => (.closeBrace, none, l.advance)
  | ',' => (.comma, none, l.advance)
  | '=' => (.equals, none, l.advance)
  | ';' => (.semicolon, none, l.advance)
  | '\\' =>
    -- A backslash or a percent sign at the very end stands for itself.
    if l.advance.current.isSome then (.escape, none, l.advance.advance)
    else (.text, none, l.advance)
  | '%' =>
    match l.advance.readSubstitution? with
    | some (sub, l) => (.substitution, some sub, l)
    | none => (.text, none, l.advance)
  | c =>
    if Text.isBlank c then (.whitespace, none, l.skipWhile Text.isBlank)
    else if isNameChar c then (l.readName.1, none, l.readName.2)
    else (.text, none, l.skipWhile isOther)

/-- The token at the place, and the lexer behind it.  At the end of the text it is the end of the
    input. -/
def nextToken (l : Lexer) : Token × Lexer :=
  match l.current with
  | none => (l.token .eof l.pos, l)
  | some c =>
    let (kind, substitution, after) := l.readKind c
    (after.token kind l.pos substitution, after)

/-! ### The lexer goes on -/

/-- `l'` is in the same text as `l`, not before it, and not behind the end if `l` is not. -/
structure Onward (l l' : Lexer) : Prop where
  chars : l'.chars = l.chars
  pos : l.pos ≤ l'.pos
  inside : l.pos ≤ l.chars.size → l'.pos ≤ l'.chars.size

namespace Onward

variable {l l' l'' : Lexer}

theorem refl (l : Lexer) : Onward l l := ⟨rfl, Nat.le_refl _, id⟩

theorem trans (h : Onward l l') (h' : Onward l' l'') : Onward l l'' :=
  ⟨h'.chars.trans h.chars, Nat.le_trans h.pos h'.pos, fun hl =>
    h'.inside (h.inside hl)⟩

end Onward

variable {l : Lexer} {c : Char} {p : Char → Bool}

theorem onward_advance (h : l.current = some c) : Onward l l.advance :=
  ⟨rfl, Nat.le_succ _, fun _ => pos_lt_of_current h⟩

theorem onward_skipWhile (p : Char → Bool) (l : Lexer) : Onward l (l.skipWhile p) := by
  fun_induction skipWhile p l with
  | case1 l c h hp ih => exact (onward_advance h).trans ih
  | case2 l => exact .refl l
  | case3 l => exact .refl l

/-- A run that the current character belongs to goes beyond it. -/
theorem onward_skipWhile_of_current (h : l.current = some c) (hp : p c) :
    Onward l.advance (l.skipWhile p) := by
  have hrun : l.skipWhile p = l.advance.skipWhile p := by
    rw [skipWhile]
    split
    next d hd =>
      obtain rfl := Option.some.inj (h.symm.trans hd)
      rw [if_pos hp]
    next hnone => exact absurd (h.symm.trans hnone) (by simp)
  rw [hrun]
  exact onward_skipWhile p l.advance

theorem onward_readName (h : l.current = some c) (hc : isNameChar c) :
    Onward l.advance l.readName.2 := by
  have hword := onward_skipWhile_of_current h hc
  unfold readName
  dsimp only
  split
  next hparen => exact hword.trans (onward_advance hparen)
  split <;> exact hword

/-- A name is taken up to the angle bracket that closes it, which is there. -/
theorem onward_readRegisterName? {name : String} {l' : Lexer}
    (h : l.readRegisterName? = some (name, l')) : Onward l l' := by
  unfold readRegisterName? at h
  split at h
  · cases h
  split at h
  · obtain ⟨close, hclose, heq⟩ := Option.map_eq_some_iff.mp h
    cases heq
    obtain ⟨hlt, -⟩ := Array.findIdx?_eq_some_iff_getElem.mp hclose
    rw [Array.size_extract] at hlt
    refine ⟨rfl, Nat.le_add_right _ _, fun _ => ?_⟩
    show l.pos + (close + 1) ≤ l.chars.size
    omega
  split at h
  · cases h
    exact onward_advance ‹_›
  · cases h

/-- Behind the letter stands a name, a digit or another letter that belongs to it, or nothing. -/
theorem onward_readAfter (l : Lexer) (c : Char) : Onward l (l.readAfter c).2 := by
  unfold readAfter
  split
  · split
    next h => exact onward_readRegisterName? h
    · exact .refl l
  · split
    next hd =>
      split
      · exact onward_advance hd
      · exact .refl l
    · exact .refl l
  · split
    next hd =>
      split
      · exact onward_advance hd
      · exact .refl l
    · exact .refl l
  · exact .refl l

/-- **The classes of characters are a partition:** what is no sign, no blank and no part of a name
    belongs to the run of other characters that it begins. -/
theorem isOther_of_not {c : Char} (hsign : c ∉ signs) (hblank : ¬ Text.isBlank c)
    (hname : ¬ isNameChar c) : isOther c := by
  simp_all [isOther, isSpecial]

/-- **Every branch goes on,** by at least the character that it was taken for. -/
theorem onward_readKind (h : l.current = some c) : Onward l.advance (l.readKind c).2.2 := by
  unfold readKind
  split
  case h_10 =>
    split
    next hsome =>
      obtain ⟨d, hd⟩ := Option.isSome_iff_exists.mp hsome
      exact onward_advance hd
    · exact .refl _
  case h_11 =>
    split
    next hsub =>
      obtain ⟨d, hd, heq⟩ := Option.map_eq_some_iff.mp hsub
      have hafter := onward_readAfter l.advance.advance d
      rw [heq] at hafter
      exact (onward_advance hd).trans hafter
    · exact .refl _
  case h_12 =>
    split
    next hblank => exact onward_skipWhile_of_current h hblank
    split
    next hname => exact onward_readName h hname
    next hblank hname =>
      exact onward_skipWhile_of_current h (isOther_of_not (by simp_all [signs]) hblank hname)
  all_goals exact .refl _

/-- A token that is not the end of the input takes the lexer on. -/
theorem onward_nextToken (h : l.nextToken.1.kind ≠ .eof) :
    l.pos < l.chars.size ∧ Onward l.advance l.nextToken.2 := by
  unfold nextToken at h ⊢
  split at h
  · exact absurd rfl h
  next c hc => exact ⟨pos_lt_of_current hc, onward_readKind hc⟩

/-- All tokens from the place on, up to the end of the input. -/
def tokens (l : Lexer) : List Token :=
  let next := l.nextToken
  if _h : next.1.kind = .eof then [next.1] else next.1 :: next.2.tokens
termination_by l.chars.size - l.pos
decreasing_by
  obtain ⟨hpos, honward⟩ := onward_nextToken _h
  have hnext : l.pos + 1 ≤ next.2.pos := honward.pos
  rw [honward.chars]
  show l.chars.size - next.2.pos < l.chars.size - l.pos
  omega

end Lexer

namespace Token

/-- The end of an input of `n` characters. -/
def endOfInput (n : Nat) : Token :=
  { kind := .eof, chars := [], span := ⟨n, n⟩ }

/-- The tokens of a text, the end of the input being the last. -/
def scan (cs : List Char) : List Token := (Lexer.ofChars cs).tokens

end Token

end Softcode
