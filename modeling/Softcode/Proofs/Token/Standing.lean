import Softcode.Proofs.Token.Lexemes

namespace Softcode

/-!
# Where tokens stand

The tokens of a text stand one behind the other.  `Token.Stands` says what a token that stands at an
offset has to do with the characters there: separators and brackets are the one character that they
stand for, a call's head ends with its parenthesis, an escape is a backslash and one character more,
and white space is all the white space there is.

* `Token.scanFrom_cons` — the first token of a text stands at its beginning, and the others are
  those of what follows it;
* `Token.foldl_scan` — so what each token keeps that stands where the last one ended, all tokens
  keep.
-/

/-- The character of a token that is always the same character. -/
def TokenKind.sign? : TokenKind → Option Char
  | openParen => some '('
  | closeParen => some ')'
  | openBracket => some '['
  | closeBracket => some ']'
  | openBrace => some '\x7b'
  | closeBrace => some '\x7d'
  | comma => some ','
  | equals => some '='
  | semicolon => some ';'
  | _ => none

theorem TokenKind.isBlank_sign (kind : TokenKind) : ∀ c ∈ kind.sign?, Text.isBlank c = false := by
  intro c hc
  cases kind <;> cases hc <;> decide

/-- The offset behind the blanks that stand at `i`. -/
def afterBlanks (text : List Char) (i : Nat) : Nat :=
  i + ((text.drop i).takeWhile Text.isBlank).length

section

variable {text : List Char} {i : Nat}

theorem le_afterBlanks (text : List Char) (i : Nat) : i ≤ afterBlanks text i := Nat.le_add_right _ _

/-- Where no blank stands, there is nothing to pass. -/
private theorem afterBlanks_eq_self {c : Char} (hc : text[i]? = some c)
    (hblank : Text.isBlank c = false) :
    afterBlanks text i = i := by
  obtain ⟨hi, rfl⟩ := List.getElem?_eq_some_iff.mp hc
  rw [afterBlanks, List.drop_eq_getElem_cons hi, List.takeWhile_cons_of_neg (by simp [hblank])]
  rfl

@[simp] theorem afterBlanks_length (text : List Char) :
    afterBlanks text text.length = text.length := by
  simp [afterBlanks]

/-- Behind the blanks there are no more blanks. -/
theorem afterBlanks_afterBlanks (text : List Char) (i : Nat) :
    afterBlanks text (afterBlanks text i) = afterBlanks text i := by
  have hdrop : text.drop (afterBlanks text i) = (text.drop i).dropWhile Text.isBlank := by
    rw [afterBlanks, ← List.drop_drop, Text.drop_length_takeWhile]
  have hnone : ((text.drop i).dropWhile Text.isBlank).takeWhile Text.isBlank = [] := by
    rw [List.takeWhile_eq_nil_iff]
    intro hpos
    exact List.dropWhile_get_zero_not Text.isBlank (text.drop i) hpos
  rw [afterBlanks, hdrop, hnone]
  rfl

end

/-! ### What a lexeme can be -/

/-- The lexemes at `c` when the characters `cs` follow. -/
inductive Lexeme.Shape (c : Char) (cs : List Char) : Lexeme → Prop
  | sign {kind : TokenKind} (h : kind.sign? = some c) : Shape c cs ⟨kind, 0, none⟩
  | head {more : Nat} (h : (cs.drop more).head? = some '(') (hc : Text.isBlank c = false) :
      Shape c cs ⟨.functionHead, more + 1, none⟩
  | escape (hc : c = '\\') (hcs : cs ≠ []) : Shape c cs ⟨.escape, 1, none⟩
  | substitution (sub : Substitution) (more : Nat) (hc : c = '%') :
      Shape c cs ⟨.substitution, more, some sub⟩
  | blanks (hc : Text.isBlank c) : Shape c cs ⟨.whitespace, Lexeme.count Text.isBlank cs, none⟩
  | other {kind : TokenKind} (more : Nat) (h : kind = .number ∨ kind = .text)
      (hc : Text.isBlank c = false) : Shape c cs ⟨kind, more, none⟩

/-- A name is the head of a call, a number or text. -/
private theorem Lexeme.ofName_shape {c : Char} (hc : Text.isBlank c = false) (cs : List Char) :
    Shape c cs (ofName c cs) := by
  unfold ofName
  dsimp only
  split
  · rename_i hparen
    exact .head hparen hc
  split
  · exact .other _ (.inl rfl) hc
  · exact .other _ (.inr rfl) hc

/-- **Every lexeme has one of these shapes.** -/
theorem Lexeme.read_shape (c : Char) (cs : List Char) : Shape c cs (read c cs) := by
  unfold read
  split
  -- A backslash quotes what follows it, if anything does.
  case h_10 =>
    split
    · exact .other 0 (.inr rfl) (by decide)
    · rename_i hcs
      exact .escape rfl (by simpa using hcs)
  case h_11 =>
    split
    · exact .other 0 (.inr rfl) (by decide)
    · exact .substitution _ _ rfl
  -- No sign: blanks, a name or other text.
  case h_12 =>
    split
    · rename_i hblank
      exact .blanks hblank
    rename_i hblank
    have hc := Bool.eq_false_of_not_eq_true hblank
    split
    · exact ofName_shape hc cs
    · exact .other _ (.inr rfl) hc
  all_goals exact .sign rfl

/-! ### What a token can be -/

/-- The tokens that can stand at the offset `n` of a text. -/
inductive Token.Stands (text : List Char) (n : Nat) : Token → Prop
  | sign {kind : TokenKind} {c : Char} {chars : List Char} (hkind : kind.sign? = some c)
      (hc : text[n]? = some c) : Stands text n ⟨kind, chars, ⟨n, n + 1⟩, none⟩
  | head {chars : List Char} {k : Nat} (hlt : n < k) (hk : text[k]? = some '(')
      (hname : chars.dropLast = Span.of ⟨n, k⟩ text) (hblank : afterBlanks text n = n) :
      Stands text n ⟨.functionHead, chars, ⟨n, k + 1⟩, none⟩
  | escape {chars : List Char} (hc : text[n]? = some '\\') (hn : n + 1 < text.length) :
      Stands text n ⟨.escape, chars, ⟨n, n + 2⟩, none⟩
  | substitution {chars : List Char} {k : Nat} (sub : Substitution) (hc : text[n]? = some '%')
      (hlt : n < k) : Stands text n ⟨.substitution, chars, ⟨n, k⟩, some sub⟩
  | blanks {chars : List Char} (hlt : n < afterBlanks text n) :
      Stands text n ⟨.whitespace, chars, ⟨n, afterBlanks text n⟩, none⟩
  | other {kind : TokenKind} {chars : List Char} {k : Nat} (h : kind = .number ∨ kind = .text)
      (hlt : n < k) (hblank : afterBlanks text n = n) : Stands text n ⟨kind, chars, ⟨n, k⟩, none⟩

namespace Token

variable {text : List Char} {n : Nat}

/-- A token begins where it stands. -/
theorem Stands.start_eq {t : Token} (h : t.Stands text n) : t.span.start = n := by
  cases h <;> rfl

/-- A sign stands for itself. -/
theorem Stands.sign_at {t : Token} (h : t.Stands text n) {c : Char} (hc : t.kind.sign? = some c) :
    text[n]? = some c ∧ t.span = ⟨n, n + 1⟩ := by
  cases h with
  | sign hkind hchar =>
    obtain rfl := Option.some.inj (hkind.symm.trans hc)
    exact ⟨hchar, rfl⟩
  | other hkind => rcases hkind with rfl | rfl <;> cases hc
  | head | escape | substitution | blanks => cases hc

/-- White space is all the white space there is. -/
theorem Stands.stop_of_whitespace {t : Token} (h : t.Stands text n) (ht : t.kind = .whitespace) :
    t.span.stop = afterBlanks text n := by
  cases h with
  | blanks => rfl
  | sign hkind =>
    obtain rfl := ht
    cases hkind
  | other hkind => rcases hkind with rfl | rfl <;> cases ht
  | head | escape | substitution => cases ht

/-- No blanks stand where a token is that is no white space. -/
theorem Stands.afterBlanks_eq {t : Token} (h : t.Stands text n) (ht : t.kind ≠ .whitespace) :
    afterBlanks text n = n := by
  cases h with
  | sign hkind hc => exact afterBlanks_eq_self hc (TokenKind.isBlank_sign _ _ hkind)
  | head _ _ _ hblank => exact hblank
  | escape hc => exact afterBlanks_eq_self hc (by decide)
  | substitution _ hc => exact afterBlanks_eq_self hc (by decide)
  | blanks => exact absurd rfl ht
  | other _ _ hblank => exact hblank

/-- A lexeme takes its first character and as many more as it says, if there are so many. -/
private theorem stands_of_shape {c : Char} {cs : List Char} {lexeme : Lexeme}
    (hshape : lexeme.Shape c cs) (hcs : text.drop n = c :: cs) :
    Stands text n ⟨lexeme.kind, c :: cs.take lexeme.more, ⟨n, n + 1 + min lexeme.more cs.length⟩,
      lexeme.substitution⟩ := by
  have hc : text[n]? = some c := by rw [← List.head?_drop, hcs, List.head?_cons]
  have hblank : Text.isBlank c = false → afterBlanks text n = n := afterBlanks_eq_self hc
  cases hshape with
  | sign hkind =>
    have hstop : n + 1 + min 0 cs.length = n + 1 := by omega
    rw [hstop]
    exact .sign hkind hc
  | @head more hparen hb =>
    -- The parenthesis is the last character of the token.
    rw [List.head?_drop] at hparen
    have hlt : more < cs.length := (List.getElem?_eq_some_iff.mp hparen).1
    have hstop : n + 1 + min (more + 1) cs.length = n + 1 + more + 1 := by omega
    have hat : text[n + 1 + more]? = some '(' := by
      have hdrop : (text.drop n)[1 + more]? = text[n + 1 + more]? := by
        rw [List.getElem?_drop, Nat.add_assoc]
      rw [← hdrop, hcs, Nat.add_comm 1 more, List.getElem?_cons_succ, hparen]
    have hname : (c :: cs.take (more + 1)).dropLast = Span.of ⟨n, n + 1 + more⟩ text := by
      have hmore : n + 1 + more - n = more + 1 := by omega
      have hne : cs.take (more + 1) ≠ [] := by
        rw [← List.length_pos_iff, List.length_take]
        omega
      rw [Span.of, Span.length, hcs, hmore, List.take_succ_cons, List.dropLast_cons_of_ne_nil hne,
        List.dropLast_eq_take, List.length_take, Nat.min_eq_left hlt, List.take_take,
        Nat.succ_sub_one, Nat.min_eq_left (Nat.le_succ more)]
    rw [hstop]
    exact .head (by omega) hat hname (hblank hb)
  | escape hc' hcs' =>
    have hpos : 0 < cs.length := List.length_pos_iff.mpr hcs'
    have hlength := congrArg List.length hcs
    rw [List.length_drop, List.length_cons] at hlength
    have hstop : n + 1 + min 1 cs.length = n + 2 := by omega
    rw [hstop]
    exact .escape (hc' ▸ hc) (by omega)
  | substitution sub more hc' => exact .substitution sub (hc' ▸ hc) (by omega)
  | blanks hb =>
    have hle : Lexeme.count Text.isBlank cs ≤ cs.length := (List.takeWhile_prefix _).length_le
    have hstop : n + 1 + min (Lexeme.count Text.isBlank cs) cs.length = afterBlanks text n := by
      rw [afterBlanks, hcs, List.takeWhile_cons_of_pos hb, List.length_cons, Nat.min_eq_left hle,
        Lexeme.count]
      omega
    rw [hstop]
    exact .blanks (by omega)
  | other more hkind hb => exact .other hkind (by omega) (hblank hb)

/-- **The first token of a text stands at its beginning,** and the others are those of what follows
    it. -/
theorem scanFrom_cons (hn : n < text.length) :
    ∃ t, t.Stands text n ∧ n < t.span.stop ∧ t.span.stop ≤ text.length ∧
      scanFrom n (text.drop n) = t :: scanFrom t.span.stop (text.drop t.span.stop) := by
  obtain ⟨c, cs, hcs⟩ : ∃ c cs, text.drop n = c :: cs := ⟨_, _, List.drop_eq_getElem_cons hn⟩
  have hlength := congrArg List.length hcs
  rw [List.length_drop, List.length_cons] at hlength
  have hstands := stands_of_shape (Lexeme.read_shape c cs) hcs
  have hscan : scanFrom n (c :: cs)
      = ⟨(Lexeme.read c cs).kind, c :: cs.take (Lexeme.read c cs).more,
          ⟨n, n + 1 + min (Lexeme.read c cs).more cs.length⟩, (Lexeme.read c cs).substitution⟩
        :: scanFrom (n + 1 + min (Lexeme.read c cs).more cs.length)
          (cs.drop (Lexeme.read c cs).more) := by
    have hstop : n + (c :: cs.take (Lexeme.read c cs).more).length
        = n + 1 + min (Lexeme.read c cs).more cs.length := by
      rw [List.length_cons, List.length_take]
      omega
    rw [scanFrom]
    simp only [hstop]
  -- What is left behind the token is the rest of the text from its end on.
  have hrest : cs.drop (Lexeme.read c cs).more
      = text.drop (n + 1 + min (Lexeme.read c cs).more cs.length) := by
    have hdrop : text.drop (n + 1) = cs := by
      rw [← List.drop_drop, hcs, List.drop_one, List.tail_cons]
    rw [← List.drop_drop, hdrop]
    by_cases hle : (Lexeme.read c cs).more ≤ cs.length
    · rw [Nat.min_eq_left hle]
    · rw [Nat.min_eq_right (by omega), List.drop_length, List.drop_eq_nil_of_le (by omega)]
  refine ⟨_, hstands, ?_, ?_, ?_⟩
  · show n < n + 1 + _
    omega
  · show n + 1 + min _ _ ≤ text.length
    omega
  · rw [hcs, hscan, hrest]

/-- **What each token keeps, all tokens keep.** -/
theorem foldl_scan {σ : Type} {step : σ → Token → σ} (Inv : Nat → σ → Prop)
    (hstep : ∀ n t s, t.Stands text n → Inv n s → Inv t.span.stop (step s t)) {s : σ}
    (hn : n ≤ text.length) (hs : Inv n s) :
    Inv text.length ((scanFrom n (text.drop n)).foldl step s) := by
  -- Each token leaves less of the text.
  obtain ⟨left, hleft⟩ : ∃ left, left = text.length - n := ⟨_, rfl⟩
  induction left using Nat.strong_induction_on generalizing n s with
  | _ left ih =>
    rcases Nat.lt_or_eq_of_le hn with hlt | rfl
    · obtain ⟨t, hstands, hmore, hstop, hscan⟩ := scanFrom_cons hlt
      rw [hscan, List.foldl_cons]
      exact ih _ (by omega) hstop (hstep n t s hstands hs) rfl
    · rw [List.drop_length, scanFrom]
      exact hs

end Token

end Softcode
