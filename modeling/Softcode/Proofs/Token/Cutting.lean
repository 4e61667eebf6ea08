import Mathlib.Data.List.Basic
import Softcode.Token.Lexer

namespace Softcode

/-!
# Tokens are cut out of the text

A token is what the lexer has passed between two places, and the next one begins where it ends.
Each token goes on by at least one character and none goes beyond the end (`Lexer.Onward`): names in
angle brackets that are not closed, percent signs and backslashes at the end take nothing that is
not there.  So the tokens lie one behind the other without a gap.

* `Lexer.cut_nextToken` — the token at a place is the piece of the text up to the next place;
* `Lexer.pieces_tokens` — hence all tokens are pieces of the text, one behind the other;
* `Token.scan_lossless` — the tokens of a text are the whole text.
-/

namespace Token

/-- Is the token a piece of the text, the one at its span?  It has at least one character, and it
    stands for something if it is a substitution. -/
structure Cut (text : List Char) (t : Token) : Prop where
  nonempty : t.span.start < t.span.stop
  inside : t.span.stop ≤ text.length
  chars : t.chars = t.span.of text
  kind : t.kind ≠ .eof
  substitution : t.substitution.isSome ↔ t.kind = .substitution

/-- Does the first token begin at the offset, and each of the others where the one before it
    ends? -/
def Consecutive : Nat → List Token → Prop
  | _, [] => True
  | n, t :: ts => t.span.start = n ∧ Consecutive t.span.stop ts

/-- Are the tokens pieces of the text, one behind the other from the offset on, and behind them the
    end of the input? -/
inductive Pieces (text : List Char) : Nat → List Token → Prop
  | done : Pieces text text.length [endOfInput text.length]
  | piece {t : Token} {ts : List Token} (hcut : t.Cut text) (hrest : Pieces text t.span.stop ts) :
      Pieces text t.span.start (t :: ts)

end Token

/-! ### One token -/

namespace Lexer

variable {l : Lexer} {c : Char}

/-- A character never is the end of the input, and of the tokens that begin with one the
    substitutions, and no others, stand for something. -/
private theorem kind_readKind (l : Lexer) (c : Char) :
    (l.readKind c).1 ≠ .eof ∧ ((l.readKind c).2.1.isSome ↔ (l.readKind c).1 = .substitution) := by
  unfold readKind
  split
  case h_10 => split <;> simp
  case h_11 => split <;> simp
  -- What is no sign: blanks, a name or other text.
  case h_12 =>
    split
    · simp
    split
    · unfold readName
      dsimp only
      split
      · simp
      split <;> simp
    · simp
  all_goals simp

/-- What the lexer has passed is the piece of the text between the two places. -/
theorem since_eq_of (l : Lexer) (start : Nat) :
    l.since start = Span.of ⟨start, l.pos⟩ l.chars.toList := by
  rw [since, Array.toList_extract]
  rfl

/-- **The token at a place is the piece of the text up to the next place.** -/
theorem cut_nextToken (h : l.current = some c) :
    l.nextToken.1.Cut l.chars.toList ∧ l.nextToken.1.span = ⟨l.pos, l.nextToken.2.pos⟩ := by
  have hpos := pos_lt_of_current h
  have honward := onward_readKind h
  -- There is a character, so the token is what is read from it on.
  have hnext : l.nextToken = ((l.readKind c).2.2.token (l.readKind c).1 l.pos (l.readKind c).2.1,
      (l.readKind c).2.2) := by
    unfold nextToken
    rw [h]
  rw [hnext]
  obtain ⟨hkind, hsubstitution⟩ := kind_readKind l c
  refine ⟨⟨honward.pos, ?_, ?_, hkind, hsubstitution⟩, rfl⟩
  · have hinside := honward.inside hpos
    rw [honward.chars] at hinside
    exact hinside
  · show since _ _ = _
    rw [since_eq_of, honward.chars]
    rfl

/-- Where the text ends, the end of the input is read. -/
theorem nextToken_of_end (hc : l.current = none) (h : l.pos ≤ l.chars.size) :
    l.pos = l.chars.size ∧ l.nextToken.1 = Token.endOfInput l.chars.size := by
  have hpos : l.pos = l.chars.size := Nat.le_antisymm h (Array.getElem?_eq_none_iff.mp hc)
  refine ⟨hpos, ?_⟩
  rw [nextToken, hc, ← hpos]
  simp [token, since, Token.endOfInput]

/-! ### All tokens -/

/-- **The tokens from a place on are pieces of the text, one behind the other.** -/
theorem pieces_tokens (h : l.pos ≤ l.chars.size) :
    Token.Pieces l.chars.toList l.pos l.tokens := by
  fun_induction tokens l with
  | case1 l next heof =>
    -- The end of the input is only reached behind the last character.
    cases hc : l.current with
    | some c => exact absurd heof (cut_nextToken hc).1.kind
    | none =>
      obtain ⟨hpos, hend⟩ := nextToken_of_end hc h
      rw [show next.1 = _ from hend, hpos]
      exact .done
  | case2 l next heof ih =>
    -- The token is cut off, and the pieces go on where it ends.
    obtain ⟨hpos, honward⟩ := onward_nextToken heof
    have hcurrent : l.current = some l.chars[l.pos] := Array.getElem?_eq_getElem hpos
    obtain ⟨hcut, hspan⟩ := cut_nextToken hcurrent
    have hrest := ih (honward.inside hpos)
    rw [show next.2.chars = l.chars from honward.chars] at hrest
    have hstop : next.2.pos = next.1.span.stop := by rw [show next.1.span = _ from hspan]
    have hstart : l.pos = next.1.span.start := by rw [show next.1.span = _ from hspan]
    rw [hstop] at hrest
    rw [hstart]
    exact .piece hcut hrest

end Lexer

namespace Token

variable {text : List Char} {n : Nat} {ts : List Token}

/-- The tokens of a text are pieces of it, from its beginning on. -/
theorem pieces_scan (text : List Char) : Pieces text 0 (scan text) :=
  Lexer.pieces_tokens (l := .ofChars text) (Nat.zero_le _)

theorem Pieces.ne_nil (h : Pieces text n ts) : ts ≠ [] := by
  cases h <;> simp

/-- The first of the tokens begins at the offset.  It is the end of the input, with nothing behind
    it, or a piece of the text, with the other pieces behind it. -/
theorem Pieces.of_cons {t : Token} (h : Pieces text n (t :: ts)) :
    t.span.start = n ∧
      (t = endOfInput text.length ∧ ts = [] ∨ t.Cut text ∧ Pieces text t.span.stop ts) := by
  cases h with
  | done => exact ⟨rfl, .inl ⟨rfl, rfl⟩⟩
  | piece hcut hrest => exact ⟨rfl, .inr ⟨hcut, hrest⟩⟩

/-- The end of the input is the last token, and the only one of its kind. -/
private theorem Pieces.eq_concat (h : Pieces text n ts) :
    ∃ pieces, ts = pieces ++ [endOfInput text.length] ∧ ∀ t ∈ pieces, Cut text t := by
  induction h with
  | done => exact ⟨[], rfl, by simp⟩
  | @piece t ts hcut hrest ih =>
    obtain ⟨pieces, rfl, hpieces⟩ := ih
    exact ⟨t :: pieces, rfl, List.forall_mem_cons.mpr ⟨hcut, hpieces⟩⟩

private theorem Pieces.consecutive (h : Pieces text n ts) : Consecutive n ts := by
  induction h with
  | done => exact ⟨rfl, trivial⟩
  | piece hcut hrest ih => exact ⟨rfl, ih⟩

/-- The pieces, one behind the other, are the text. -/
private theorem Pieces.flatMap_chars (h : Pieces text n ts) :
    ts.flatMap (·.chars) = text.drop n := by
  induction h with
  | done => simp [endOfInput]
  | @piece t ts hcut hrest ih =>
    have hstop : t.span.start + t.span.length = t.span.stop := by
      have := hcut.nonempty
      rw [Span.length]
      omega
    rw [List.flatMap_cons, ih, hcut.chars, Span.of, ← hstop, ← List.drop_drop,
      List.take_append_drop]

/-- **No character is lost.**  The last token is the end of the input, which is at the length of the
    text and holds nothing; all others hold at least one character.  The tokens lie one behind the
    other from the beginning of the text on, each is the piece of the text at its span, and one
    after the other they are the text.  The tokens that stand for something are the
    substitutions. -/
theorem scan_lossless (text : List Char) :
    (∃ tokens, scan text = tokens ++ [endOfInput text.length] ∧
      ∀ t ∈ tokens, t.kind ≠ .eof ∧ t.chars ≠ [] ∧ t.span.start < t.span.stop) ∧
    Consecutive 0 (scan text) ∧
    (∀ t ∈ scan text, t.span.stop ≤ text.length ∧ t.chars = t.span.of text) ∧
    (scan text).flatMap (·.chars) = text ∧
    ∀ t ∈ scan text, t.substitution.isSome ↔ t.kind = .substitution := by
  have hpieces := pieces_scan text
  obtain ⟨tokens, htokens, hcut⟩ := hpieces.eq_concat
  -- Every token is cut from the text, but for the one that says that it ends.
  have hcases : ∀ t ∈ scan text, Cut text t ∨ t = endOfInput text.length := fun t ht =>
    (List.mem_append.mp (htokens ▸ ht)).imp (hcut t) List.mem_singleton.mp
  refine ⟨⟨tokens, htokens, fun t ht => ?_⟩, hpieces.consecutive, fun t ht => ?_,
    hpieces.flatMap_chars, fun t ht => ?_⟩
  · have h := hcut t ht
    have hinside := h.inside
    have hnonempty := h.nonempty
    refine ⟨h.kind, ?_, hnonempty⟩
    rw [h.chars, Span.of, Span.length, ← List.length_pos_iff, List.length_take, List.length_drop]
    omega
  · rcases hcases t ht with h | rfl
    · exact ⟨h.inside, h.chars⟩
    · simp [endOfInput, Span.of, Span.length]
  · rcases hcases t ht with h | rfl
    · exact h.substitution
    · simp [endOfInput]

/-- A name in angle brackets, one that is not closed, and a percent sign at the end. -/
theorem unclosed_scan_lossless :
    let text := "é%q<n>%q<[%".toList
    let name : Token := ⟨.substitution, "%q<n>".toList, ⟨1, 6⟩, some (.register "N")⟩
    let letter : Token := ⟨.substitution, "%q".toList, ⟨6, 8⟩, some (.literal 'q')⟩
    let sign : Token := ⟨.text, ['%'], ⟨10, 11⟩, none⟩
    (name ∈ scan text ∧ letter ∈ scan text ∧ sign ∈ scan text) ∧
      name.chars = name.span.of text ∧ letter.chars = letter.span.of text ∧
      (sign.substitution.isSome ↔ sign.kind = .substitution) ∧
      (scan text).flatMap (·.chars) = text := by
  intro text name letter sign
  have hmem : name ∈ scan text ∧ letter ∈ scan text ∧ sign ∈ scan text := by decide +kernel
  obtain ⟨hname, hletter, hsign⟩ := hmem
  obtain ⟨-, -, hpiece, hall, hstands⟩ := scan_lossless text
  exact ⟨⟨hname, hletter, hsign⟩, (hpiece name hname).2, (hpiece letter hletter).2,
    hstands sign hsign, hall⟩

end Token

end Softcode
