import Softcode.Proofs.Text.Runs
import Softcode.Proofs.Token.Cutting

namespace Softcode

/-!
# What a token is, by what follows

What the lexer reads at a character depends only on that character and on those behind it, and not
on where it is.  `Lexeme.read` says what it is and how many characters it takes beyond the first
one.

* `Lexer.readKind_eq` — the lexer reads the lexeme at its place, and goes on behind it;
* `Token.scan_eq_scanFrom` — so the tokens of a text are its lexemes, one after the other.
-/

/-- The token at the beginning of a text: its class, what it stands for, and how many characters it
    takes beyond the first. -/
structure Lexeme where
  kind : TokenKind
  more : Nat
  substitution : Option Substitution := none
deriving Repr, DecidableEq

namespace Lexeme

/-- The number of leading characters that satisfy `p`. -/
def count (p : Char → Bool) (cs : List Char) : Nat :=
  (cs.takeWhile p).length

/-- The name of a register, and how many characters it takes. -/
def registerName? : List Char → Option (String × Nat)
  | [] => none
  | c :: cs =>
    if c = '<' then
      (cs.findIdx? (· == '>')).map fun k => (String.ofList (Text.upper (cs.take k)), k + 2)
    else if c.isAlphanum then some (String.ofList [c.toUpper], 1)
    else none

/-- What `%` and the character `c` stand for when the characters `cs` follow, and how many of these
    belong to it. -/
def substitutionAfter (c : Char) (cs : List Char) : Substitution × Nat :=
  match Substitution.form c with
  | .named f =>
    match registerName? cs with
    | some (name, n) => (f name, n)
    | none => (.literal c, 0)
  | .counted f =>
    match cs with
    | d :: _ => if d.isDigit then (f (d.toNat - '0'.toNat), 1) else (.literal c, 0)
    | [] => (.literal c, 0)
  | .lettered f =>
    match cs with
    | d :: _ => if d.isAlpha then (f d, 1) else (.literal c, 0)
    | [] => (.literal c, 0)
  | .alone sub => (sub, 0)

/-- A run of name characters: the head of a call if a parenthesis follows, else a number or text. -/
def ofName (c : Char) (cs : List Char) : Lexeme :=
  let more := count isNameChar cs
  if (cs.drop more).head? = some '(' then { kind := .functionHead, more := more + 1 }
  else if (Number.Numeral.read? (c :: cs.take more)).isSome then { kind := .number, more }
  else { kind := .text, more }

/-- A name is no substitution. -/
private theorem substitution_ofName (c : Char) (cs : List Char) :
    (ofName c cs).substitution = none := by
  unfold ofName
  dsimp only
  split
  · rfl
  split <;> rfl

/-- The token that begins with `c` when the characters `cs` follow. -/
def read (c : Char) (cs : List Char) : Lexeme :=
  match c with
  | '(' => { kind := .openParen, more := 0 }
  | ')' => { kind := .closeParen, more := 0 }
  | '[' => { kind := .openBracket, more := 0 }
  | ']' => { kind := .closeBracket, more := 0 }
  | '\x7b' => { kind := .openBrace, more := 0 }
  | '\x7d' => { kind := .closeBrace, more := 0 }
  | ',' => { kind := .comma, more := 0 }
  | '=' => { kind := .equals, more := 0 }
  | ';' => { kind := .semicolon, more := 0 }
  | '\\' =>
    if cs.isEmpty then { kind := .text, more := 0 } else { kind := .escape, more := 1 }
  | '%' =>
    match cs with
    | [] => { kind := .text, more := 0 }
    | d :: ds =>
      let (substitution, n) := substitutionAfter d ds
      { kind := .substitution, more := n + 1, substitution := some substitution }
  | c =>
    if Text.isBlank c then { kind := .whitespace, more := count Text.isBlank cs }
    else if isNameChar c then ofName c cs
    else { kind := .text, more := count isOther cs }

/-- What begins with no sign is blanks, a name or other characters. -/
private theorem read_of_not_sign {c : Char} (hc : c ∉ signs) (cs : List Char) :
    read c cs = if Text.isBlank c then { kind := .whitespace, more := count Text.isBlank cs }
      else if isNameChar c then ofName c cs else { kind := .text, more := count isOther cs } := by
  unfold read
  split
  case h_12 => rfl
  all_goals exact absurd (by simp [signs]) hc

end Lexeme

/-- The tokens of a text whose first character has the offset `start`, the end of the input not
    included. -/
def Token.scanFrom (start : Nat) : List Char → List Token
  | [] => []
  | c :: cs =>
    let lexeme := Lexeme.read c cs
    let chars := c :: cs.take lexeme.more
    { kind := lexeme.kind
      chars
      span := ⟨start, start + chars.length⟩
      substitution := lexeme.substitution } ::
      scanFrom (start + chars.length) (cs.drop lexeme.more)
termination_by cs => cs.length
decreasing_by rw [List.length_drop, List.length_cons]; omega

/-! ### The lexer at a place -/

namespace Lexer

variable {l : Lexer} {c : Char} {cs : List Char}

/-- The characters that are left. -/
def rest (l : Lexer) : List Char := l.chars.toList.drop l.pos

/-- The first of them is the current one. -/
private theorem current_eq (l : Lexer) : l.current = l.rest.head? := by
  rw [rest, List.head?_drop, current, Array.getElem?_toList]

/-- To go on is to leave out what has been passed. -/
private theorem rest_advance (l : Lexer) (n : Nat) : (l.advance n).rest = l.rest.drop n :=
  List.drop_drop.symm

private theorem advance_advance (l : Lexer) (m n : Nat) :
    (l.advance m).advance n = l.advance (m + n) := by
  rw [advance, advance, advance, Nat.add_assoc]

/-- What is passed stood at the beginning of what was left. -/
private theorem since_advance (l : Lexer) (n : Nat) :
    (l.advance n).since l.pos = l.rest.take n := by
  rw [since_eq_of, Span.of, Span.length]
  show (l.chars.toList.drop l.pos).take (l.pos + n - l.pos) = _
  rw [Nat.add_sub_cancel_left, rest]

/-- A run takes the characters of the class that are left. -/
private theorem skipWhile_eq (p : Char → Bool) (l : Lexer) :
    l.skipWhile p = l.advance (Lexeme.count p l.rest) := by
  -- One step of the lexer is one character more that is counted.
  fun_induction skipWhile p l with
  | case1 l c h hp ih =>
    rw [current_eq] at h
    obtain ⟨cs, hcs⟩ := List.head?_eq_some_iff.mp h
    rw [ih, rest_advance, advance_advance, hcs, Lexeme.count, Lexeme.count,
      List.takeWhile_cons_of_pos hp, List.length_cons, Nat.add_comm]
    rfl
  | case2 l c h hp =>
    rw [current_eq] at h
    obtain ⟨cs, hcs⟩ := List.head?_eq_some_iff.mp h
    rw [hcs, Lexeme.count, List.takeWhile_cons_of_neg hp]
    rfl
  | case3 l h =>
    rw [current_eq, List.head?_eq_none_iff] at h
    rw [h]
    rfl

/-- A name is read as its lexeme. -/
private theorem readName_eq (hcs : l.rest = c :: cs) (hc : isNameChar c) :
    l.readName = ((Lexeme.ofName c cs).kind, l.advance ((Lexeme.ofName c cs).more + 1)) := by
  have hcount : Lexeme.count isNameChar (c :: cs) = Lexeme.count isNameChar cs + 1 := by
    rw [Lexeme.count, List.takeWhile_cons_of_pos hc]
    rfl
  unfold readName Lexeme.ofName
  simp only [skipWhile_eq, hcs, hcount, current_eq, rest_advance, since_advance,
    List.drop_succ_cons, List.take_succ_cons, advance_advance]
  split
  · rfl
  split <;> rfl

/-- The name in angle brackets ends at the first that closes it. -/
private theorem readRegisterName?_eq (l : Lexer) :
    l.readRegisterName? = (Lexeme.registerName? l.rest).map fun (name, n) =>
      (name, l.advance n) := by
  -- The array from the place on is what is left, as a list.
  have hleft : (l.chars.extract l.pos l.chars.size).findIdx? (· == '>')
      = l.rest.findIdx? (· == '>') := by
    have hrest : l.chars.extract l.pos l.chars.size = l.rest.toArray := by
      rw [← Array.toList_inj, Array.toList_extract, List.extract_eq_take_drop,
        List.take_of_length_le (by simp), rest]
    rw [hrest, List.findIdx?_toArray]
  have hname (k : Nat) : (l.chars.extract (l.pos + 1) (l.pos + k)).toList
      = (l.rest.drop 1).take (k - 1) := by
    rw [Array.toList_extract, List.extract_eq_take_drop, rest, List.drop_drop]
    congr 1
    omega
  unfold readRegisterName?
  simp only [current_eq, hleft, hname]
  cases l.rest with
  | nil => rfl
  | cons c cs =>
    simp only [List.head?_cons, Lexeme.registerName?, List.drop_one, List.tail_cons]
    split
    next hc => simp [hc, List.findIdx?_cons, Function.comp_def]
    split <;> rfl

/-- What follows a percent sign is read as its lexeme. -/
private theorem readAfter_eq (l : Lexer) (c : Char) :
    l.readAfter c = ((Lexeme.substitutionAfter c l.rest).1,
      l.advance (Lexeme.substitutionAfter c l.rest).2) := by
  unfold readAfter Lexeme.substitutionAfter
  rw [current_eq, readRegisterName?_eq]
  cases Substitution.form c with
  | named f => dsimp only; cases Lexeme.registerName? l.rest <;> rfl
  | counted f | lettered f =>
    cases l.rest with
    | nil => rfl
    | cons d ds =>
      simp only [List.head?_cons]
      split <;> rfl
  | alone sub => rfl

/-- **The lexer reads the lexeme at its place,** and goes on behind it. -/
theorem readKind_eq (hcs : l.rest = c :: cs) :
    l.readKind c = ((Lexeme.read c cs).kind, (Lexeme.read c cs).substitution,
      l.advance ((Lexeme.read c cs).more + 1)) := by
  have hnext : l.advance.rest = cs := by rw [rest_advance, hcs, List.drop_one, List.tail_cons]
  -- A run of such characters begins with the one that has been seen.
  have hrun (p : Char → Bool) (hc : p c) : l.skipWhile p = l.advance (Lexeme.count p cs + 1) := by
    rw [skipWhile_eq, hcs, Lexeme.count, List.takeWhile_cons_of_pos hc]
    rfl
  unfold readKind
  split
  case h_10 =>
    rw [current_eq, hnext]
    cases cs <;> rfl
  case h_11 =>
    rw [readSubstitution?, current_eq, hnext]
    cases cs with
    | nil => rfl
    | cons d ds =>
      have hbehind : (l.advance (1 + 1)).rest = ds := by rw [rest_advance, hcs]; rfl
      have hmore : 1 + 1 + (Lexeme.substitutionAfter d ds).2
          = (Lexeme.substitutionAfter d ds).2 + 1 + 1 := by omega
      simp only [List.head?_cons, Option.map_some, readAfter_eq, advance_advance, hbehind, hmore]
      rfl
  case h_12 =>
    have hsign : c ∉ signs := by simp_all [signs]
    rw [Lexeme.read_of_not_sign hsign]
    split
    next hblank => rw [hrun _ hblank]
    split
    next hname => rw [readName_eq hcs hname, Lexeme.substitution_ofName]
    next hblank hname => rw [hrun _ (isOther_of_not hsign hblank hname)]
  all_goals rfl

end Lexer

/-- **A lexeme takes only what is there.** -/
theorem Lexeme.more_le (c : Char) (cs : List Char) : (read c cs).more ≤ cs.length := by
  have hrest : (Lexer.ofChars (c :: cs)).rest = c :: cs := rfl
  have honward := Lexer.onward_readKind (l := .ofChars (c :: cs)) (c := c) rfl
  rw [Lexer.readKind_eq hrest] at honward
  have hinside : 0 + ((read c cs).more + 1) ≤ cs.length + 1 := honward.inside (Nat.succ_pos _)
  omega

/-- The tokens from a place on are the lexemes of what is left. -/
private theorem Lexer.tokens_eq {l : Lexer} (h : l.pos ≤ l.chars.size) :
    l.tokens = Token.scanFrom l.pos l.rest ++ [Token.endOfInput l.chars.size] := by
  fun_induction tokens l with
  | case1 l next heof =>
    cases hc : l.current with
    | some c => exact absurd heof (cut_nextToken hc).1.kind
    | none =>
      rw [show next.1 = _ from (nextToken_of_end hc h).2]
      rw [current_eq, List.head?_eq_none_iff] at hc
      rw [hc, Token.scanFrom, List.nil_append]
  | case2 l next heof ih =>
    obtain ⟨hpos, honward⟩ := onward_nextToken heof
    have hc : l.current = some l.chars[l.pos] := Array.getElem?_eq_getElem hpos
    obtain ⟨cs, hcs⟩ := List.head?_eq_some_iff.mp (current_eq l ▸ hc)
    generalize l.chars[l.pos] = c at hc hcs
    have hmore := Lexeme.more_le c cs
    -- The next token is the lexeme that begins here.
    have hnext : next = ((l.advance ((Lexeme.read c cs).more + 1)).token (Lexeme.read c cs).kind
        l.pos (Lexeme.read c cs).substitution, l.advance ((Lexeme.read c cs).more + 1)) := by
      show l.nextToken = _
      rw [nextToken, hc]
      simp only [readKind_eq hcs]
    have hrest := ih (honward.inside hpos)
    rw [hnext] at hrest ⊢
    dsimp only at hrest ⊢
    have hlength : (c :: cs.take (Lexeme.read c cs).more).length = (Lexeme.read c cs).more + 1 := by
      rw [List.length_cons, List.length_take, Nat.min_eq_left hmore]
    rw [hrest, rest_advance, hcs, Token.scanFrom, List.drop_succ_cons]
    simp only [token, since_advance, hcs, List.take_succ_cons, hlength, List.cons_append]
    rfl

/-- **The tokens of a text are its lexemes, one after the other.** -/
theorem Token.scan_eq_scanFrom (text : List Char) :
    scan text = scanFrom 0 text ++ [endOfInput text.length] :=
  Lexer.tokens_eq (l := .ofChars text) (Nat.zero_le _)

end Softcode
