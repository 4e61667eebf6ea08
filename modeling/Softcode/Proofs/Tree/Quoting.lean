import Softcode.Proofs.Token.Locality
import Softcode.Proofs.Tree.Descent

namespace Softcode

/-!
# How quoted text is read

Text can be kept from being evaluated by a backslash before each of its characters, or by braces
around it.  This file says what the reader makes of arguments that are written so: whatever
characters there are, commas, parentheses and names before parentheses among them, each argument is
read as one argument, with nodes that are known in advance.

* `Scope.Reads` — from an offset on, some characters are read as some nodes, whatever follows;
* `Scope.Plain.reads`, `Scope.Reads.brace`, `Scope.reads_escaped` — for plain text, for braces, and
  for escaped text;
* `Quoting.reads` — hence for each way of quoting;
* `Quoting.parse_call` — and so calls with quoted arguments have exactly these arguments.
-/

/-! ### Ways of quoting -/

/-- A text with a backslash before each character. -/
def escaped : List Char → List Char
  | [] => []
  | c :: cs => '\\' :: c :: escaped cs

/-- A text in braces. -/
def braced (cs : List Char) : List Char := '\x7b' :: (cs ++ ['\x7d'])

/-- Does the text hold no character that means something in braces? -/
def PlainInBraces (cs : List Char) : Prop :=
  ∀ c ∈ cs, c ∉ ['\x7b', '\x7d', '[', ']', '\\', '%']

/-- A way to keep text from being evaluated. -/
inductive Quoting where
  /-- A backslash before each character. -/
  | escapes
  /-- Braces around the text. -/
  | braces
  /-- Two pairs of braces around the text. -/
  | doubleBraces
deriving Repr, DecidableEq

namespace Quoting

/-- How a text is written. -/
def write : Quoting → List Char → List Char
  | escapes, cs => escaped cs
  | braces, cs => braced cs
  | doubleBraces, cs => braced (braced cs)

/-- What is to come of it: one pair of braces vanishes, and a second one stays. -/
def shows : Quoting → List Char → List Char
  | escapes, cs | braces, cs => cs
  | doubleBraces, cs => braced cs

/-- Which texts can be written so.  Backslashes protect any character. -/
def Protects : Quoting → List Char → Prop
  | escapes, _ => True
  | braces, cs | doubleBraces, cs => PlainInBraces cs

/-- The text of a call with quoted arguments. -/
def call (q : Quoting) (name : List Char) (args : List (List Char)) : List Char :=
  name ++ '(' :: ([','].intercalate (args.map q.write) ++ [')'])

end Quoting

/-! ### The nodes of quoted text -/

/-- The nodes of an escaped text that stands at the offset `n`. -/
def escapeNodes (n : Nat) : List Char → List Node
  | [] => []
  | _ :: cs => .escape ⟨n + 1, n + 2⟩ :: escapeNodes (n + 2) cs

/-- The nodes of plain text from one offset to another. -/
def textNodes (start stop : Nat) : List Node :=
  if start = stop then [] else [.text ⟨start, stop⟩]

/-- The node of braces at the offset `n`, with a body of `length` characters. -/
def braceNode (mode : BraceMode) (n length : Nat) (body : List Node) : Node :=
  .brace mode body ⟨n, n + 1 + length + 1⟩ ⟨n + 1, n + 1 + length⟩

/-- The nodes of a quoted text that stands at the offset `n` in an argument of a call. -/
def Quoting.nodesAt : Quoting → Nat → List Char → List Node
  | escapes, n, cs => escapeNodes n cs
  | braces, n, cs => [braceNode .strip n cs.length (textNodes (n + 1) (n + 1 + cs.length))]
  | doubleBraces, n, cs =>
    [braceNode .strip n (braced cs).length
      [braceNode .keep (n + 1) cs.length (textNodes (n + 1 + 1) (n + 1 + 1 + cs.length))]]

/-- The arguments of a call that are written from the offset `n` on. -/
def Quoting.argumentsAt (q : Quoting) (n : Nat) : List (List Char) → List Argument
  | [] => []
  | cs :: args => ⟨q.nodesAt n cs, ⟨n, n + (q.write cs).length⟩⟩
      :: q.argumentsAt (n + (q.write cs).length + 1) args

/-! ### Characters that are read as nodes -/

/-- The sequence that begins at `n` and consists of the characters `cs`, which were read as
    `nodes`. -/
def Draft.holding (scope : Scope) (n : Nat) (cs : List Char) (nodes : List Node) : Draft :=
  { scope, start := if cs = [] then none else some n, nodes := nodes.reverse }

/-- From the offset `n` on, the characters `cs` at the beginning of a sequence are read as `nodes`,
    whatever stands behind the sign that ends them. -/
def Scope.Reads (scope : Scope) (n : Nat) (cs : List Char) (nodes : List Node) : Prop :=
  ∀ (r : Reader) {kind : TokenKind} {c : Char} (_ : kind.Ends c) (rest : List Char),
    r.draft = { scope } →
    r.run (Token.scanFrom n (cs ++ c :: rest))
      = ({ r with draft := .holding scope n cs nodes } : Reader).run
          (Token.scanFrom (n + cs.length) (c :: rest))

namespace Reader

variable {r : Reader} {scope : Scope} {n : Nat} {cs : List Char} {nodes : List Node}
  {kind : TokenKind} {c : Char}

/-- Tokens are read one after the other. -/
theorem run_append (r : Reader) (tokens tokens' : List Token) :
    r.run (tokens ++ tokens') = (r.run tokens).run tokens' := List.foldl_append

/-- A sign is no blank, so a sequence begins with it at the latest. -/
private theorem step_sign (hsign : kind.sign? = some c)
    (hdraft : r.draft = .holding scope n cs nodes) :
    r.step (.sign kind c (n + cs.length))
      = if kind ∈ scope.stops then
          ({ r with draft := { scope, start := some n, nodes := nodes.reverse } } : Reader).stopAt
            (.sign kind c (n + cs.length))
        else
          ({ r with draft := { scope, start := some n, nodes := nodes.reverse } } : Reader).accept
            (.sign kind c (n + cs.length)) := by
  have hblank : kind ≠ .whitespace := by
    rintro rfl
    cases hsign
  -- Where no text has been read, the piece begins at the sign.
  have hstart : (if cs = [] then none else some n : Option Nat).getD (n + cs.length) = n := by
    by_cases hcs : cs = [] <;> simp [hcs]
  obtain ⟨rule, _, enclosing, pieces⟩ := r
  dsimp only at hdraft
  subst hdraft
  simp only [Reader.step, Draft.holding, Token.sign, hblank, hstart, decide_false, Bool.and_false,
    Bool.false_eq_true, if_false, decide_true, Bool.true_and, List.contains_iff_mem]

/-- A closing sign ends the innermost construct. -/
theorem step_close (hsign : kind.sign? = some c) (hcomma : kind ≠ .comma)
    (hstops : kind ∈ scope.stops) (hdraft : r.draft = .holding scope n cs nodes)
    {open' : OpenConstruct} {enclosing : List OpenConstruct}
    (henclosing : r.enclosing = open' :: enclosing) :
    r.step (.sign kind c (n + cs.length))
      = { r with
          draft := open'.outer.add (OpenConstruct.node open' ⟨nodes, ⟨n, n + cs.length⟩⟩
            (n + cs.length + 1))
          enclosing } := by
  rw [step_sign hsign hdraft, if_pos hstops]
  simp only [Reader.stopAt, henclosing, Token.sign, hcomma, if_false, Draft.finish,
    List.reverse_reverse, Option.getD_some]

/-- A comma ends an argument of a call, and another one begins. -/
private theorem step_comma (hdraft : r.draft = .holding .callArgument n cs nodes)
    {open' : OpenConstruct} {enclosing : List OpenConstruct}
    (henclosing : r.enclosing = open' :: enclosing) :
    r.step (.sign .comma ',' (n + cs.length))
      = { r with
          draft := { scope := .callArgument }
          enclosing := { open' with args := ⟨nodes, ⟨n, n + cs.length⟩⟩ :: open'.args }
            :: enclosing } := by
  have hsign : TokenKind.comma.sign? = some ',' := rfl
  have hstops : TokenKind.comma ∈ Scope.callArgument.stops := by decide
  rw [step_sign hsign hdraft, if_pos hstops]
  simp only [Reader.stopAt, henclosing, Token.sign, if_true, Draft.finish, List.reverse_reverse,
    Option.getD_some]

end Reader

/-! ### Plain text -/

/-- Is a token of that kind only text, as long as no parentheses are open? -/
def Scope.isPlain (scope : Scope) (kind : TokenKind) : Bool :=
  !scope.stops.contains kind && match kind with
    | .openBracket | .openBrace | .escape | .substitution => false
    | .functionHead => !scope.calls && !scope.nestsParens
    | .openParen => !scope.nestsParens
    | _ => true

/-- Do all tokens of the text only stand for themselves? -/
structure Scope.Plain (scope : Scope) (cs : List Char) : Prop where
  kinds : ∀ {c : Char} {rest : List Char}, c :: rest <:+ cs →
    scope.isPlain (Lexeme.read c rest).kind
  signs : ∀ c ∈ cs, c ≠ '\\' ∧ c ≠ '%'
  /-- The blanks before a sequence may be skipped. -/
  blank : scope.skipsBlanks → ∀ c ∈ cs.head?, Text.isBlank c = false

/-- A sequence that holds plain text from one offset to another. -/
def Draft.plain (scope : Scope) (start stop : Nat) : Draft :=
  { scope, start := if start = stop then none else some start, nodes := textNodes start stop }

/-- Plain text begins, or it goes on. -/
private theorem Draft.addText_plain (scope : Scope) {start n stop : Nat} (hstart : start ≤ n)
    (hstop : n < stop) :
    ({ plain scope start n with start := some ((plain scope start n).start.getD n) }).addText
      ⟨n, stop⟩
      = plain scope start stop := by
  have hne : start ≠ stop := by omega
  by_cases heq : start = n
  · subst heq
    simp [plain, textNodes, addText, pushText, hne]
  · simp [plain, textNodes, addText, pushText, heq, hne]

/-- What begins with no blank is no white space. -/
private theorem Lexeme.kind_read_ne_whitespace {c : Char} (hc : Text.isBlank c = false)
    (cs : List Char) :
    (read c cs).kind ≠ .whitespace := by
  have hshape := read_shape c cs
  generalize read c cs = lexeme at hshape ⊢
  cases hshape with
  | sign hkind =>
    rintro rfl
    cases hkind
  | blanks hblank =>
    rw [hc] at hblank
    cases hblank
  | head | escape | substitution => simp
  | other _ hkind => rcases hkind with rfl | rfl <;> simp

namespace Reader

variable {scope : Scope} {start n : Nat} {t : Token} {cs : List Char}

/-- **Plain text goes on with the next token.**  Only blanks before it may be skipped. -/
theorem step_plain (r : Reader) (hkind : scope.isPlain t.kind) (hstart : start ≤ t.span.start)
    (hstop : t.span.start < t.span.stop)
    (hblank : start = t.span.start → scope.skipsBlanks → t.kind ≠ .whitespace) :
    ({ r with draft := .plain scope start t.span.start } : Reader).step t
      = { r with draft := .plain scope start t.span.stop } := by
  obtain ⟨kind, chars, ⟨n, stop⟩, sub⟩ := t
  dsimp only at hkind hstart hstop hblank ⊢
  obtain ⟨hstops, htext⟩ := Bool.and_eq_true_iff.mp hkind
  have hskip : ¬ ((Draft.plain scope start n).start.isNone && scope.skipsBlanks
      && kind = .whitespace) = true := by
    simp only [Bool.and_eq_true, decide_eq_true_eq, not_and]
    rintro ⟨hnone, hskips⟩
    refine hblank ?_ hskips
    simpa [Draft.plain] using hnone
  have hgo : ¬ ((Draft.plain scope start n).parens = 0 && scope.stops.contains kind) = true := by
    rw [Bool.not_eq_true'] at hstops
    rw [hstops, Bool.and_false]
    exact Bool.false_ne_true
  rw [← Draft.addText_plain scope hstart hstop, Reader.step]
  refine (if_neg hskip).trans ((if_neg hgo).trans ?_)
  cases kind with
  | openBracket | openBrace | escape | substitution => cases htext
  | functionHead =>
    -- No call opens here, and no parenthesis is counted.
    obtain ⟨hcalls, hnests⟩ := Bool.and_eq_true_iff.mp htext
    rw [Bool.not_eq_true'] at hcalls hnests
    simp only [Reader.accept, Draft.plain, hcalls, hnests, Bool.and_false, Bool.false_eq_true,
      if_false]
  | openParen =>
    have hnests : scope.nestsParens = false := Bool.not_eq_true' _ ▸ htext
    simp only [Reader.accept, Draft.plain, hnests, Bool.false_eq_true, if_false]
  | closeParen | closeBracket | closeBrace | comma | equals | semicolon | whitespace | number
  | text | eof => rfl

/-- All tokens of plain text become one text. -/
private theorem run_plain (r : Reader) (hcs : scope.Plain cs) (n : Nat) :
    ({ r with draft := .plain scope n n } : Reader).run (Token.scanFrom n cs)
      = { r with draft := .plain scope n (n + cs.length) } := by
  -- The text that is left is a suffix of plain text.  It begins with the text, or it follows some
  -- of it.
  suffices hgoes : ∀ (stop : Nat) {rest : List Char}, rest <:+ cs → n ≤ stop →
      (n = stop → rest = cs) →
      ({ r with draft := .plain scope n stop } : Reader).run (Token.scanFrom stop rest)
        = { r with draft := .plain scope n (stop + rest.length) } by
    exact hgoes n List.suffix_rfl (Nat.le_refl n) fun _ => rfl
  intro stop rest hsuffix hstart hfirst
  fun_induction Token.scanFrom stop rest with
  | case1 stop => rfl
  | case2 stop c rest lexeme chars ih =>
    have hlength : stop + chars.length + (rest.drop lexeme.more).length
        = stop + (c :: rest).length := by
      simp only [chars, List.length_cons, List.length_take, List.length_drop]
      omega
    have hchars : stop < stop + chars.length := by simp [chars]
    have hdrop : rest.drop lexeme.more <:+ cs :=
      (List.drop_suffix _ _).trans ((List.suffix_cons c rest).trans hsuffix)
    rw [← hlength, ← ih hdrop (by omega) (by omega), run_cons]
    congr 1
    refine step_plain r
      (t := ⟨lexeme.kind, chars, ⟨stop, stop + chars.length⟩, lexeme.substitution⟩)
      (hcs.kinds hsuffix) hstart hchars fun heq hskips => ?_
    refine Lexeme.kind_read_ne_whitespace (hcs.blank hskips c ?_) rest
    rw [← hfirst heq]
    rfl

end Reader

/-- **Plain text is read as one text.** -/
theorem Scope.Plain.reads {scope : Scope} {cs : List Char} (hcs : scope.Plain cs) (n : Nat) :
    scope.Reads n cs (textNodes n (n + cs.length)) := by
  intro r kind c hc rest hdraft
  have hbegin : r = { r with draft := .plain scope n n } := by
    obtain ⟨rule, draft, enclosing, pieces⟩ := r
    dsimp only at hdraft
    subst hdraft
    simp [Draft.plain, textNodes]
  have hend : Draft.plain scope n (n + cs.length)
      = .holding scope n cs (textNodes n (n + cs.length)) := by
    cases cs <;> simp [Draft.plain, Draft.holding, textNodes]
  rw [Token.scanFrom_append hc n hcs.signs, Token.scanFrom_sign hc.1, Reader.run_append, ← hend,
    ← Reader.run_plain r hcs, ← hbegin]

/-! ### Plain text in braces -/

/-- All that such a text can begin with is text. -/
private theorem Lexeme.isPlain_read_brace {c : Char}
    (hc : c ∉ ['\x7b', '\x7d', '[', ']', '\\', '%']) (cs : List Char) :
    Scope.braceBody.isPlain (read c cs).kind := by
  have hshape := read_shape c cs
  generalize read c cs = lexeme at hshape ⊢
  -- Each of the kinds that mean something in braces begins with one of the six characters.
  cases hshape with
  | @sign kind hkind =>
    cases kind with
    | openBracket | closeBracket | openBrace | closeBrace =>
      cases hkind
      exact absurd hc (by decide)
    | openParen | closeParen | comma | equals | semicolon => rfl
    | functionHead | escape | substitution | whitespace | number | text | eof => cases hkind
  | head | blanks => rfl
  | escape hc' => exact absurd hc (by simp [hc'])
  | substitution _ _ hc' => exact absurd hc (by simp [hc'])
  | other _ hkind => rcases hkind with rfl | rfl <;> rfl

/-- The tokens of such a text only stand for themselves. -/
theorem PlainInBraces.plain {cs : List Char} (hcs : PlainInBraces cs) :
    Scope.braceBody.Plain cs where
  kinds hsuffix := Lexeme.isPlain_read_brace (hcs _ (hsuffix.subset List.mem_cons_self)) _
  signs c hc := by
    have hplain := hcs c hc
    simp only [List.mem_cons, not_or] at hplain
    exact ⟨hplain.2.2.2.2.1, hplain.2.2.2.2.2.1⟩
  blank hskips := absurd hskips (by decide)

namespace Scope

variable {scope : Scope} {n : Nat} {cs : List Char} {nodes : List Node}

/-- Braces around what can be read in braces. -/
theorem Reads.brace (h : Scope.braceBody.Reads (n + 1) cs nodes)
    (hscope : .openBrace ∉ scope.stops) :
    scope.Reads n (braced cs) [braceNode scope.braces n cs.length nodes] := by
  intro r kind c hc rest hdraft
  have hsign : TokenKind.openBrace.sign? = some '\x7b' := rfl
  have hbrace : TokenKind.closeBrace.Ends '\x7d' := ⟨rfl, by decide⟩
  have htext : braced cs ++ c :: rest = '\x7b' :: (cs ++ '\x7d' :: c :: rest) := by simp [braced]
  have hlength : n + (braced cs).length = n + 1 + cs.length + 1 := by
    simp [braced]
    omega
  have hempty : r.draft = .holding scope n [] [] := hdraft
  -- The brace opens a construct, and what it holds is read before it is closed.
  have hopen : r.step (.sign .openBrace '\x7b' n)
      = ({ r with draft := { scope, start := some n } } : Reader).push
        (.brace ⟨n, n + 1⟩) .braceBody := by
    have hstep := Reader.step_sign hsign hempty
    rw [if_neg hscope] at hstep
    exact hstep
  rw [htext, Token.scanFrom_sign hsign, Reader.run_cons, hopen,
    h _ hbrace (c :: rest) rfl, Token.scanFrom_sign hbrace.1, Reader.run_cons,
    Reader.step_close hbrace.1 (by decide) (by decide) rfl rfl, hlength]
  rfl

/-- Characters with a backslash before each are read one by one, in addition to what has been
    read. -/
private theorem run_escaped (hscope : .escape ∉ scope.stops) (cs : List Char) {r : Reader}
    {start : Option Nat} (hdraft : r.draft = { scope, start, nodes }) (n : Nat) (rest : List Char) :
    r.run (Token.scanFrom n (escaped cs ++ rest))
      = ({ r with draft :=
            { scope, start := if cs = [] then start else some (start.getD n)
              nodes := (escapeNodes n cs).reverse ++ nodes } } : Reader).run
          (Token.scanFrom (n + (escaped cs).length) rest) := by
  induction cs generalizing r start nodes n with
  | nil =>
    obtain ⟨rule, draft, enclosing, pieces⟩ := r
    dsimp only at hdraft
    subst hdraft
    simp [escaped, escapeNodes]
  | cons c cs ih =>
    -- A backslash and what it quotes are one token and one node.
    have hstep : r.step { kind := .escape, chars := ['\\', c], span := ⟨n, n + 2⟩ }
        = { r with draft :=
              { scope, start := some (start.getD n),
                nodes := .escape ⟨n + 1, n + 2⟩ :: nodes } } := by
      obtain ⟨rule, draft, enclosing, pieces⟩ := r
      dsimp only at hdraft
      subst hdraft
      simp [Reader.step, Reader.accept, Draft.add, hscope]
    have hlength : n + (escaped (c :: cs)).length = n + 2 + (escaped cs).length := by
      simp only [escaped, List.length_cons]
      omega
    rw [escaped, List.cons_append, List.cons_append, Token.scanFrom_escape, Reader.run_cons, hstep,
      ih rfl (n + 2), ← escaped, hlength]
    simp [escapeNodes]

/-- Escaped text is read as escapes. -/
theorem reads_escaped (hscope : .escape ∉ scope.stops) (cs : List Char) (n : Nat) :
    scope.Reads n (escaped cs) (escapeNodes n cs) := by
  intro r kind c hc rest hdraft
  rw [run_escaped hscope cs hdraft n (c :: rest)]
  cases cs with
  | nil => rfl
  | cons d cs => simp [Draft.holding, escaped]

end Scope

/-! ### Calls with quoted arguments -/

namespace Quoting

variable {q : Quoting} {cs : List Char} {args : List (List Char)}

/-- **A quoted text is read as its own nodes,** where an argument of a call begins. -/
theorem reads (hcs : q.Protects cs) (n : Nat) :
    Scope.callArgument.Reads n (q.write cs) (q.nodesAt n cs) := by
  have hbrace : TokenKind.openBrace ∉ Scope.callArgument.stops := by decide
  have hinner : TokenKind.openBrace ∉ Scope.braceBody.stops := by decide
  cases q with
  | escapes => exact Scope.reads_escaped (by decide) cs n
  | braces => exact (hcs.plain.reads (n + 1)).brace hbrace
  | doubleBraces => exact ((hcs.plain.reads (n + 1 + 1)).brace hinner).brace hbrace

/-- The arguments of a call are read one after the other, and then the call is closed. -/
private theorem run_arguments (hne : args ≠ []) (hargs : ∀ cs ∈ args, q.Protects cs) {r : Reader}
    (hdraft : r.draft = { scope := .callArgument }) {name : String} {head : Span} {outer : Draft}
    {before : List Argument} {enclosing : List OpenConstruct}
    (henclosing : r.enclosing = ⟨.call name head, outer, before⟩ :: enclosing) (n : Nat)
    (rest : List Char) :
    r.run (Token.scanFrom n ([','].intercalate (args.map q.write) ++ ')' :: rest))
      = ({ r with
            draft := outer.add (.call name ⟨head.start, head.stop - 1⟩
              (before.reverse ++ q.argumentsAt n args)
              ⟨head.start, n + ([','].intercalate (args.map q.write)).length + 1⟩)
            enclosing } : Reader).run
          (Token.scanFrom (n + ([','].intercalate (args.map q.write)).length + 1) rest) := by
  have hclose : TokenKind.closeParen.Ends ')' := ⟨rfl, by decide⟩
  have hcomma : TokenKind.comma.Ends ',' := ⟨rfl, by decide⟩
  induction args generalizing r before n with
  | nil => exact absurd rfl hne
  | cons cs args ih =>
    obtain ⟨hcs, hmore⟩ := List.forall_mem_cons.mp hargs
    have hreads := reads hcs n
    obtain ⟨rule, draft, around, pieces⟩ := r
    dsimp only at hdraft henclosing
    subst hdraft henclosing
    cases args with
    | nil =>
      -- The last argument is followed by the parenthesis.
      simp only [List.map_cons, List.map_nil, List.intercalate_singleton]
      rw [hreads _ hclose rest rfl, Token.scanFrom_sign hclose.1, Reader.run_cons,
        Reader.step_close hclose.1 (by decide) (by decide) rfl rfl]
      rfl
    | cons cs' args =>
      -- The comma behind the first argument stands before the others.
      have htext : [','].intercalate ((cs :: cs' :: args).map q.write)
          = q.write cs ++ ',' :: [','].intercalate ((cs' :: args).map q.write) := by
        simp [List.intercalate]
      have hlength : n + ([','].intercalate ((cs :: cs' :: args).map q.write)).length + 1
          = n + (q.write cs).length + 1
            + ([','].intercalate ((cs' :: args).map q.write)).length + 1 := by
        rw [htext, List.length_append, List.length_cons]
        omega
      rw [hlength, htext, List.append_assoc, List.cons_append, hreads _ hcomma _ rfl,
        Token.scanFrom_sign hcomma.1, Reader.run_cons, Reader.step_comma rfl rfl,
        ih (by simp) hmore rfl rfl, List.reverse_cons, List.append_assoc]
      rfl

/-- **A call with quoted arguments is read as a call with exactly these arguments,** without an
    error. -/
theorem parse_call {c : Char} {name : List Char} (hname : ∀ d ∈ c :: name, isNameChar d)
    (hblank : Text.isBlank c = false) (hne : args ≠ []) (hargs : ∀ cs ∈ args, q.Protects cs) :
    (parse .function (q.call (c :: name) args)).errors = [] ∧
      (parse .function (q.call (c :: name) args)).tree
        = .expression ⟨[.call (String.ofList (c :: name)) ⟨0, (c :: name).length⟩
            (q.argumentsAt ((c :: name).length + 1) args) ⟨0, (q.call (c :: name) args).length⟩],
          ⟨0, (q.call (c :: name) args).length⟩⟩ := by
  have hlength : (q.call (c :: name) args).length
      = (c :: name).length + 1 + ([','].intercalate (args.map q.write)).length + 1 := by
    simp only [call, List.length_append, List.length_cons, List.length_nil]
    omega
  -- At the beginning of an expression a head opens a call.
  have hhead (chars : List Char) (stop : Nat) : (Reader.initial .function).step
      { kind := .functionHead, chars, span := ⟨0, stop⟩ }
      = { rule := .function, draft := { scope := .callArgument }, pieces := []
          enclosing := [⟨.call (String.ofList chars.dropLast) ⟨0, stop⟩,
            { scope := .expression, start := some 0 }, []⟩] } := rfl
  have hchars : (c :: name ++ ['(']).dropLast = c :: name := List.dropLast_concat
  -- The parenthesis behind the last argument closes the call, and nothing is left open.
  have hrun : (Reader.initial .function).run (Token.scanFrom 0 (q.call (c :: name) args))
      = { rule := .function, pieces := [], enclosing := []
          draft := { scope := .expression, start := some 0
                     nodes := [.call (String.ofList (c :: name)) ⟨0, (c :: name).length⟩
                       (q.argumentsAt ((c :: name).length + 1) args)
                       ⟨0, (q.call (c :: name) args).length⟩] } } := by
    rw [hlength, call, Token.scanFrom_head hname hblank, Reader.run_cons, hhead, hchars,
      run_arguments hne hargs rfl rfl, Token.scanFrom, Nat.zero_add]
    rfl
  simp only [parse_eq_read, Reader.read, hrun]
  exact ⟨rfl, rfl⟩

end Quoting

end Softcode
