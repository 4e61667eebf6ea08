import Softcode.Token.Lexer

namespace Softcode

/-!
# A cursor over tokens
-/

/-- The lexer stops at the end of the input. -/
theorem Lexer.getLast?_tokens (l : Lexer) : ∃ t, l.tokens.getLast? = some t ∧ t.kind = .eof := by
  fun_induction tokens l with
  | case1 l next h => exact ⟨next.1, rfl, h⟩
  | case2 l next h ih =>
    obtain ⟨t, ht, heof⟩ := ih
    exact ⟨t, by rw [List.getLast?_cons, ht]; rfl, heof⟩

/-- The tokens of a text, which end with the end of the input, and a place among them. -/
structure TokenStream where
  tokens : Array Token
  index : Nat := 0
  ends : ∃ t, tokens.back? = some t ∧ t.kind = .eof

namespace TokenStream

/-- The tokens of a text, from the first on. -/
def ofChars (cs : List Char) : TokenStream where
  tokens := (Token.scan cs).toArray
  ends := by
    rw [List.back?_toArray]
    exact (Lexer.ofChars cs).getLast?_tokens

/-- The token at an index. -/
def get? (s : TokenStream) (i : Nat) : Option Token := s.tokens[i]?

/-- The current token, which past the last one is the last one. -/
def current (s : TokenStream) : Token :=
  s.tokens.getD (min s.index (s.tokens.size - 1)) (Token.endOfInput 0)

/-- The current token, and the stream after it.  The end of the input is never passed. -/
def advance (s : TokenStream) : Token × TokenStream :=
  let token := s.current
  (token, if token.kind = .eof then s else { s with index := s.index + 1 })

/-- How many tokens are left. -/
def left (s : TokenStream) : Nat := s.tokens.size - s.index

/-- Behind a token there are fewer left, unless it is the end of the input. -/
theorem left_advance {s : TokenStream} (h : s.current.kind ≠ .eof) : s.advance.2.left < s.left := by
  obtain ⟨t, ht, heof⟩ := s.ends
  have hindex : s.index < s.tokens.size - 1 := by
    refine Nat.lt_of_not_le fun hle => h ?_
    rw [current, Nat.min_eq_right hle, Array.getD_eq_getD_getElem?, ← Array.back?_eq_getElem?, ht]
    exact heof
  rw [advance]
  dsimp only
  rw [if_neg h]
  show s.tokens.size - (s.index + 1) < s.tokens.size - s.index
  omega

end TokenStream

end Softcode
