import Softcode.Proofs.Token.Standing

namespace Softcode

/-!
# Tokens see no further than a sign

A token is decided by the characters it consists of and by at most the one behind them.  Only
backslashes and percent signs take whatever follows.  So in a text without these the tokens before a
separator or a bracket are the same whatever stands behind it.

* `Lexeme.read_append` — what a lexeme is does not depend on what stands behind a sign;
* `Token.scanFrom_append` — the tokens of a text with a sign in it are those before the sign, the
  sign, and those behind it;
* `Token.scanFrom_add` — the tokens of a text that begins further on are the same, further on.
-/

/-! ### Signs -/

/-- A sign that ends all other tokens: every sign but the opening parenthesis, which belongs to a
    name before it. -/
def TokenKind.Ends (kind : TokenKind) (c : Char) : Prop := kind.sign? = some c ∧ c ≠ '('

namespace TokenKind.Ends

variable {kind : TokenKind} {c : Char}

/-- Such a sign is not blank. -/
theorem isBlank (h : kind.Ends c) : Text.isBlank c = false := kind.isBlank_sign c h.1

theorem isNameChar (h : kind.Ends c) : isNameChar c = false := by
  obtain ⟨hsign, hparen⟩ := h
  cases kind <;> cases hsign <;> decide +kernel +revert

/-- Such a sign does not belong to a run of other characters. -/
theorem isSpecial (h : kind.Ends c) : isSpecial c = true := by
  obtain ⟨hsign, -⟩ := h
  cases kind <;> cases hsign <;> decide +kernel

end TokenKind.Ends

namespace Lexeme

variable {p : Char → Bool} {kind : TokenKind} {c d : Char} {cs rest : List Char}

/-- A sign is a token of its own. -/
theorem read_sign (h : kind.sign? = some c) (cs : List Char) : read c cs = ⟨kind, 0, none⟩ := by
  cases kind <;> cases h <;> rfl

/-- A run of a class does not go beyond a character of another class. -/
theorem count_append (hc : p c = false) (cs rest : List Char) :
    count p (cs ++ c :: rest) = count p cs := by
  unfold count
  induction cs with
  | nil => simp [hc]
  | cons d cs ih =>
    by_cases hd : p d
    · rw [List.cons_append, List.takeWhile_cons_of_pos hd, List.takeWhile_cons_of_pos hd,
        List.length_cons, List.length_cons, ih]
    · rw [List.cons_append, List.takeWhile_cons_of_neg hd, List.takeWhile_cons_of_neg hd]

/-- What a name is depends only on whether a parenthesis stands directly behind it. -/
private theorem ofName_append (hc : kind.Ends c) (d : Char) (cs rest : List Char) :
    ofName d (cs ++ c :: rest) = ofName d cs := by
  have hcount := count_append hc.isNameChar cs rest
  have hle : count isNameChar cs ≤ cs.length := (List.takeWhile_prefix _).length_le
  have htake : (cs ++ c :: rest).take (count isNameChar cs) = cs.take (count isNameChar cs) :=
    List.take_append_of_le_length hle
  -- A parenthesis behind the name is either in the first text or not there at all.
  have hdrop : ((cs ++ c :: rest).drop (count isNameChar cs)).head? = some '('
      ↔ (cs.drop (count isNameChar cs)).head? = some '(' := by
    rw [List.drop_append_of_le_length hle]
    cases hnext : cs.drop (count isNameChar cs) with
    | nil => simp [hc.2]
    | cons e es => simp
  unfold ofName
  dsimp only
  simp only [hcount, htake, hdrop]

/-- **What a lexeme is does not depend on what stands behind a sign.** -/
theorem read_append (hc : kind.Ends c) (hd : d ≠ '\\' ∧ d ≠ '%') (cs rest : List Char) :
    read d (cs ++ c :: rest) = read d cs := by
  unfold read
  split
  -- Only a backslash and a percent sign take whatever follows them.
  case h_10 => exact absurd rfl hd.1
  case h_11 => exact absurd rfl hd.2
  case h_12 =>
    split
    · rw [count_append hc.isBlank]
    split
    · exact ofName_append hc d cs rest
    · rw [count_append (by simp [isOther, hc.isSpecial])]
  all_goals rfl

/-- A name with a parenthesis directly behind it is the head of a call. -/
private theorem read_head (hname : ∀ d ∈ c :: cs, isNameChar d) (hblank : Text.isBlank c = false)
    (rest : List Char) : read c (cs ++ '(' :: rest) = ⟨.functionHead, cs.length + 1, none⟩ := by
  obtain ⟨hc, hcs⟩ := List.forall_mem_cons.mp hname
  have hparen : isNameChar '(' = false := by decide +kernel
  have hcount : count isNameChar (cs ++ '(' :: rest) = cs.length := by
    rw [count, Text.takeWhile_append_stop hcs (by simp [hparen])]
  unfold read
  split
  case h_12 =>
    simp only [hblank, Bool.false_eq_true, if_false, hc, if_true, ofName, hcount, List.drop_left,
      List.head?_cons]
  all_goals exact absurd hc (by decide +kernel)

end Lexeme

/-! ### The tokens of a text with a sign in it -/

/-- The span further on by `k`. -/
def Span.shift (k : Nat) (span : Span) : Span := ⟨span.start + k, span.stop + k⟩

namespace Token

/-- The token further on by `k`. -/
def shift (k : Nat) (t : Token) : Token := { t with span := t.span.shift k }

/-- The token of a sign at the offset `n`. -/
def sign (kind : TokenKind) (c : Char) (n : Nat) : Token :=
  { kind, chars := [c], span := ⟨n, n + 1⟩ }

variable {kind : TokenKind} {c : Char}

/-- The tokens behind it begin one further on. -/
theorem scanFrom_sign (h : kind.sign? = some c) (n : Nat) (cs : List Char) :
    scanFrom n (c :: cs) = sign kind c n :: scanFrom (n + 1) cs := by
  rw [scanFrom, Lexeme.read_sign h]
  rfl

/-- A backslash and any character. -/
theorem scanFrom_escape (n : Nat) (c : Char) (cs : List Char) :
    scanFrom n ('\\' :: c :: cs)
      = { kind := .escape, chars := ['\\', c], span := ⟨n, n + 2⟩ } :: scanFrom (n + 2) cs := by
  have hread : Lexeme.read '\\' (c :: cs) = ⟨.escape, 1, none⟩ := rfl
  rw [scanFrom, hread]
  rfl

/-- The head of a call. -/
theorem scanFrom_head {cs : List Char} (hname : ∀ d ∈ c :: cs, isNameChar d)
    (hblank : Text.isBlank c = false) (n : Nat) (rest : List Char) :
    scanFrom n (c :: cs ++ '(' :: rest)
      = { kind := .functionHead, chars := c :: cs ++ ['('], span := ⟨n, n + (c :: cs).length + 1⟩ }
          :: scanFrom (n + (c :: cs).length + 1) rest := by
  have htake : (cs ++ '(' :: rest).take (cs.length + 1) = cs ++ ['('] := by
    rw [List.take_length_add_append]
    rfl
  have hdrop : (cs ++ '(' :: rest).drop (cs.length + 1) = rest := by
    rw [List.drop_length_add_append]
    rfl
  rw [List.cons_append, scanFrom, Lexeme.read_head hname hblank]
  simp only [htake, hdrop, List.length_cons, List.length_append, List.length_nil, List.cons_append,
    Nat.zero_add, Nat.add_assoc]

/-- **Before a sign the tokens are those of the text before it.** -/
theorem scanFrom_append (hc : kind.Ends c) (n : Nat) {before : List Char}
    (hbefore : ∀ d ∈ before, d ≠ '\\' ∧ d ≠ '%') (rest : List Char) :
    scanFrom n (before ++ c :: rest)
      = scanFrom n before ++ sign kind c (n + before.length)
          :: scanFrom (n + before.length + 1) rest := by
  fun_induction scanFrom n before with
  | case1 n => exact scanFrom_sign hc.1 n rest
  | case2 n d ds lexeme chars ih =>
    obtain ⟨hd, hds⟩ := List.forall_mem_cons.mp hbefore
    -- No lexeme of the first text looks past the sign, unless it quotes it.
    have hread := Lexeme.read_append hc hd ds rest
    have hmore := Lexeme.more_le d ds
    have htake : (ds ++ c :: rest).take (Lexeme.read d ds).more = ds.take lexeme.more :=
      List.take_append_of_le_length hmore
    have hdrop : (ds ++ c :: rest).drop (Lexeme.read d ds).more
        = ds.drop lexeme.more ++ c :: rest :=
      List.drop_append_of_le_length hmore
    have hlength : n + chars.length + (ds.drop lexeme.more).length = n + (d :: ds).length := by
      simp only [chars, List.length_cons, List.length_take, List.length_drop]
      omega
    have hrest := ih fun e he => hds e (List.mem_of_mem_drop he)
    rw [hlength] at hrest
    rw [List.cons_append, scanFrom, hread]
    simp only [htake, hdrop, List.cons_append, List.cons.injEq]
    exact ⟨rfl, hrest⟩

/-- The tokens of a text that begins further on are the same, further on. -/
theorem scanFrom_add (n k : Nat) (cs : List Char) :
    scanFrom (n + k) cs = (scanFrom n cs).map (shift k) := by
  fun_induction scanFrom n cs with
  | case1 n => rw [scanFrom]; rfl
  | case2 n c cs lexeme chars ih =>
    have hstop : n + k + chars.length = n + chars.length + k := by omega
    rw [← hstop] at ih
    rw [scanFrom, List.map_cons]
    refine List.cons_eq_cons.mpr ⟨?_, ih⟩
    simp only [shift, Span.shift, Token.mk.injEq, Span.mk.injEq, true_and]
    exact ⟨rfl, rfl, hstop, rfl⟩

end Token

end Softcode
