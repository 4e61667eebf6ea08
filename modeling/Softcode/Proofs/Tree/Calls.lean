import Softcode.Proofs.Tree.Quoting

namespace Softcode

/-!
# How calls are read

A name with a parenthesis directly behind it opens a call where a sequence begins.  Its argument may
be plain text, which is read as one text, or another call, and so on.

* `Scope.reads_text` — plain text is read as one text;
* `Reader.run_call` — a call of one argument that can be read;
* `Scope.Reads.call` — hence a call can be the argument of another call;
* `parse_call_of_reads` — and a whole text can be a call.
-/

/-! ### Plain text in an argument -/

/-- Does the text hold no character that means something in an argument of a call? -/
def PlainInArgument (cs : List Char) : Prop :=
  ∀ c ∈ cs, c ∉ ['(', ')', '[', ']', '\x7b', '\x7d', ',', '\\', '%']

/-- All that such a text can begin with is text. -/
private theorem Lexeme.isPlain_read_argument {c : Char} {cs : List Char}
    (h : PlainInArgument (c :: cs)) :
    Scope.callArgument.isPlain (read c cs).kind := by
  obtain ⟨hc, hcs⟩ := List.forall_mem_cons.mp h
  have hshape := read_shape c cs
  generalize read c cs = lexeme at hshape ⊢
  cases hshape with
  | @sign kind hkind =>
    cases kind with
    | openParen | closeParen | openBracket | closeBracket | openBrace | closeBrace | comma =>
      cases hkind
      exact absurd hc (by decide)
    | equals | semicolon => rfl
    | functionHead | escape | substitution | whitespace | number | text | eof => cases hkind
  | head hparen =>
    -- There is no parenthesis that would make a name the head of a call.
    have hmem : '(' ∈ cs := List.mem_of_mem_drop (List.mem_of_head? hparen)
    exact absurd (hcs '(' hmem) (by decide)
  | blanks => rfl
  | escape hc' => exact absurd hc (by simp [hc'])
  | substitution _ _ hc' => exact absurd hc (by simp [hc'])
  | other _ hkind => rcases hkind with rfl | rfl <;> rfl

/-- The tokens of such a text only stand for themselves. -/
theorem PlainInArgument.plain {c : Char} {cs : List Char} (hcs : PlainInArgument (c :: cs))
    (hblank : Text.isBlank c = false) : Scope.callArgument.Plain (c :: cs) where
  kinds hsuffix := Lexeme.isPlain_read_argument fun d hd => hcs d (hsuffix.subset hd)
  signs d hd := by
    have hplain := hcs d hd
    simp only [List.mem_cons, not_or] at hplain
    tauto
  -- The first character is no blank, which would be skipped.
  blank _ d hd := by
    obtain rfl := Option.some.inj hd
    exact hblank

/-- Plain text in an argument of a call is read as one text, unless it begins with a blank. -/
theorem Scope.reads_text {c : Char} {cs : List Char} (hcs : PlainInArgument (c :: cs))
    (hblank : Text.isBlank c = false) (n : Nat) :
    Scope.callArgument.Reads n (c :: cs) [.text ⟨n, n + (c :: cs).length⟩] := by
  have hreads := (hcs.plain hblank).reads n
  have hne : n ≠ n + (c :: cs).length := by simp
  rwa [textNodes, if_neg hne] at hreads

/-! ### Calls of one argument -/

/-- The text of a call. -/
def callText (name arg : List Char) : List Char := name ++ '(' :: (arg ++ [')'])

/-- A call is longer than its name and its argument by the parentheses. -/
private theorem length_callText (name arg : List Char) :
    (callText name arg).length = name.length + 1 + arg.length + 1 := by
  simp only [callText, List.length_append, List.length_cons, List.length_nil]
  omega

/-- The node of a call at the offset `n` whose argument consists of `length` characters that were
    read as `nodes`. -/
def callNode (name : List Char) (n length : Nat) (nodes : List Node) : Node :=
  .call (String.ofList name) ⟨n, n + name.length⟩
    [⟨nodes, ⟨n + name.length + 1, n + name.length + 1 + length⟩⟩]
    ⟨n, n + name.length + 1 + length + 1⟩

/-- Can the text stand before the parenthesis of a call? -/
structure IsCallName (name : List Char) : Prop where
  ne_nil : name ≠ []
  chars : ∀ c ∈ name, isNameChar c
  blank : ∀ c ∈ name.head?, Text.isBlank c = false

theorem IsCallName.of_all {name : List Char} (hne : name ≠ [])
    (hall : name.all fun c => isNameChar c && !Text.isBlank c) : IsCallName name := by
  simp only [List.all_eq_true, Bool.and_eq_true, Bool.not_eq_true'] at hall
  exact ⟨hne, fun c hc => (hall c hc).1, fun c hc => (hall c (List.mem_of_head? hc)).2⟩

/-- Does a call open at the beginning of a sequence? -/
structure Scope.OpensCalls (scope : Scope) : Prop where
  calls : scope.calls = true
  head : .functionHead ∉ scope.stops

variable {scope : Scope} {name arg : List Char} {nodes : List Node} {n : Nat}

/-- **A call is read at the beginning of a sequence,** whatever follows it. -/
theorem Reader.run_call (hname : IsCallName name) (hscope : scope.OpensCalls)
    (harg : Scope.callArgument.Reads (n + name.length + 1) arg nodes) {r : Reader}
    (hdraft : r.draft = { scope }) (rest : List Char) :
    r.run (Token.scanFrom n (callText name arg ++ rest))
      = ({ r with draft := { scope, start := some n, nodes := [callNode name n arg.length nodes] } }
          : Reader).run (Token.scanFrom (n + (callText name arg).length) rest) := by
  obtain ⟨c, name, rfl⟩ := List.exists_cons_of_ne_nil hname.ne_nil
  have hclose : TokenKind.closeParen.Ends ')' := ⟨rfl, by decide⟩
  have htext : callText (c :: name) arg ++ rest = c :: name ++ '(' :: (arg ++ ')' :: rest) := by
    simp [callText]
  have hlength : n + (callText (c :: name) arg).length
      = n + (c :: name).length + 1 + arg.length + 1 := by
    rw [length_callText]
    omega
  -- The head of the call opens it, and the reader goes on in its argument.
  have hhead (chars : List Char) (stop : Nat) :
      r.step { kind := .functionHead, chars, span := ⟨n, stop⟩ }
        = ({ r with draft := { scope, start := some n } } : Reader).push
            (.call (String.ofList chars.dropLast) ⟨n, stop⟩) .callArgument := by
    obtain ⟨rule, draft, enclosing, pieces⟩ := r
    dsimp only at hdraft
    subst hdraft
    simp [Reader.step, Reader.accept, hscope.calls, hscope.head]
  have hchars : (c :: name ++ ['(']).dropLast = c :: name := List.dropLast_concat
  rw [htext, Token.scanFrom_head hname.chars (hname.blank c rfl), Reader.run_cons, hhead, hchars,
    harg _ hclose rest rfl, Token.scanFrom_sign hclose.1, Reader.run_cons,
    Reader.step_close hclose.1 (by decide) (by decide) rfl rfl, hlength]
  rfl

/-- A call can be read where a sequence begins, also as the argument of another call. -/
theorem Scope.Reads.call (harg : Scope.callArgument.Reads (n + name.length + 1) arg nodes)
    (hname : IsCallName name) (hscope : scope.OpensCalls) :
    scope.Reads n (callText name arg) [callNode name n arg.length nodes] := by
  intro r kind c hc rest hdraft
  have hne : callText name arg ≠ [] := by simp [callText]
  rw [Reader.run_call hname hscope harg hdraft, Draft.holding, if_neg hne]
  rfl

/-- **A text that is a call is read as that call,** without an error. -/
theorem parse_call_of_reads (hname : IsCallName name)
    (harg : Scope.callArgument.Reads (name.length + 1) arg nodes) :
    (parse .function (callText name arg)).errors = [] ∧
      (parse .function (callText name arg)).tree
        = .expression ⟨[callNode name 0 arg.length nodes], ⟨0, (callText name arg).length⟩⟩ := by
  have hargAt : Scope.callArgument.Reads (0 + name.length + 1) arg nodes := by rwa [Nat.zero_add]
  have hscope : Scope.expression.OpensCalls := ⟨rfl, by decide⟩
  have hrun := Reader.run_call (r := Reader.initial .function) hname hscope hargAt rfl []
  rw [List.append_nil, Token.scanFrom] at hrun
  simp only [parse_eq_read, Reader.read, hrun]
  exact ⟨rfl, rfl⟩

end Softcode
