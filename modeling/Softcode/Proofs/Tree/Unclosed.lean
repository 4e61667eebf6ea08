import Softcode.Proofs.Tree.Accounting

namespace Softcode

/-!
# Errors are what is never closed

The parser descends through a text to build its tree, and its errors are a by-product: what it still
waits for at the end of the input is an error of its own for each call, bracket and brace that it is
in.  This file has a machine that builds nothing: a `Scanner` goes over the tokens with a stack of
those that have opened something, and pops one when what closes it comes.  Which tokens open, close
and separate is said for each place directly, and not through the scopes of the parser.  The descent
is met halfway, by the reader that does the parser's work with a stack (`parse_eq_read`).

* `Scanner.step` — what one token does to the stack;
* `Scanner.Agrees.step` — the scanner and the reader stay in agreement, token by token;
* `Scanner.sublist_run` — what is on the stack are tokens of the text, the last one first;
* `errors_report_openers` — hence the errors report what is left on the stack.
-/

/-! ### The scanner -/

/-- A token that has opened something, and how many plain parentheses are open around it. -/
structure OpenToken where
  token : Token
  parens : Nat
deriving Repr, DecidableEq

/-- How far a text has been scanned. -/
structure Scanner where
  /-- What has been opened and not closed, the innermost first. -/
  opened : List OpenToken := []
  /-- Nothing stands yet in the sequence that is being scanned. -/
  first : Bool := true
  /-- How many plain parentheses are open in the sequence. -/
  parens : Nat := 0
  /-- How many pieces of the text have ended. -/
  pieces : Nat := 0
deriving Repr, DecidableEq

namespace Scanner

/-- The kind of the innermost token that has opened something. -/
def inside (s : Scanner) : Option TokenKind := s.opened.head?.map (·.token.kind)

/-- The token that closes what is open. -/
def closer? (s : Scanner) : Option TokenKind :=
  match s.inside with
  | some .functionHead => some .closeParen
  | some .openBracket => some .closeBracket
  | some .openBrace => some .closeBrace
  | _ => none

/-- The token that separates two sequences: the arguments of a call, or the pieces of the text. -/
def separator? (rule : Rule) (s : Scanner) : Option TokenKind :=
  match s.inside with
  | some .functionHead => some .comma
  | some _ => none
  | none => match rule, s.pieces with
    | .commandList, _ => some .semicolon
    | .commaArgs, _ | .eqSplitArgs, _ + 1 => some .comma
    | .eqSplitArgs, 0 | .eqSplitCommand, 0 => some .equals
    | _, _ => none

/-- Is a name with a parenthesis at the very beginning a call?  Not in braces and not in
    commands. -/
def calls (rule : Rule) (s : Scanner) : Bool :=
  match s.inside with
  | some kind => kind ≠ .openBrace
  | none => !rule.readsCommands

/-- Do plain parentheses protect what is between them?  They do in arguments that something
    separates. -/
def countsParens (rule : Rule) (s : Scanner) : Bool :=
  match s.inside with
  | some kind => kind = .functionHead
  | none => !rule.readsCommands && (s.separator? rule).isSome

/-- Are blanks at the very beginning skipped?  They are before the arguments of a call and before
    commands. -/
def skipsBlanks (rule : Rule) (s : Scanner) : Bool :=
  match s.inside with
  | some kind => kind = .functionHead
  | none => rule.readsCommands

/-- A token that opens something. -/
def push (s : Scanner) (t : Token) : Scanner :=
  { s with opened := ⟨t, s.parens⟩ :: s.opened, first := true, parens := 0 }

/-- The token closes what is open. -/
def pop (s : Scanner) : Scanner :=
  { s with opened := s.opened.tail, first := false, parens := s.opened.head?.elim 0 (·.parens) }

/-- Another sequence begins. -/
def split (s : Scanner) : Scanner :=
  { s with first := true, pieces := if s.opened.isEmpty then s.pieces + 1 else s.pieces }

/-- A parenthesis that opens no call. -/
def openParen (rule : Rule) (s : Scanner) : Scanner :=
  { s with first := false, parens := if s.countsParens rule then s.parens + 1 else s.parens }

/-- A token that neither closes nor separates anything. -/
def accept (rule : Rule) (s : Scanner) (t : Token) : Scanner :=
  match t.kind with
  | .functionHead => if s.first && s.calls rule then s.push t else s.openParen rule
  | .openParen => s.openParen rule
  | .closeParen => { s with first := false, parens := s.parens - 1 }
  | .openBracket | .openBrace => s.push t
  | _ => { s with first := false }

/-- Scan a token.  What closes or separates does so outside of plain parentheses only. -/
def step (rule : Rule) (s : Scanner) (t : Token) : Scanner :=
  if s.first && s.skipsBlanks rule && t.kind = .whitespace then s
  else if s.parens = 0 ∧ s.closer? = some t.kind then s.pop
  else if s.parens = 0 ∧ s.separator? rule = some t.kind then s.split
  else s.accept rule t

/-- Scan tokens one after the other. -/
def run (rule : Rule) (s : Scanner) (tokens : List Token) : Scanner := tokens.foldl (step rule) s

end Scanner

/-- The tokens that a text opens something with and never closes, the innermost first. -/
def unclosed (rule : Rule) (text : List Char) : List Token :=
  (Scanner.run rule {} (Token.scan text)).opened.map (·.token)

/-! ### What the scanner says of a place and what the reader says -/

/-- Is the token one that can open something? -/
def Token.CanOpen (t : Token) : Prop :=
  t.kind = .functionHead ∨ t.kind = .openBracket ∨ t.kind = .openBrace

/-- What a token opens, if it opens something. -/
def Token.opener (t : Token) : Opener :=
  match t.kind with
  | .functionHead => .call (String.ofList t.chars.dropLast) t.span
  | .openBracket => .bracket t.span
  | _ => .brace t.span

namespace Scanner

variable {rule : Rule} {s : Scanner} {r : Reader} {t : Token} {text : List Char} {n : Nat}

/-- How the reader reads the sequence behind the tokens that are open. -/
def scope (rule : Rule) (pieces : Nat) : List OpenToken → Scope
  | [] => rule.scope pieces
  | o :: _ => o.token.opener.scope

/-- The place as the reader sees it. -/
structure Place (rule : Rule) (s : Scanner) (scope : Scope) : Prop where
  stops : ∀ kind, kind ∈ scope.stops ↔ s.closer? = some kind ∨ s.separator? rule = some kind
  calls : scope.calls = s.calls rule
  parens : scope.nestsParens = s.countsParens rule
  blanks : scope.skipsBlanks = s.skipsBlanks rule

/-- **The scanner and the reader see each place alike.** -/
theorem place (hopen : ∀ o ∈ s.opened.head?, o.token.CanOpen) :
    s.Place rule (scope rule s.pieces s.opened) := by
  obtain ⟨opened, first, parens, pieces⟩ := s
  cases opened with
  | nil =>
    -- Outside of all brackets the rule and the number of the piece decide.
    cases rule <;> cases pieces <;> refine ⟨fun kind => ?_, rfl, rfl, rfl⟩ <;>
      simp [scope, Rule.scope, Scope.expression, Scope.command, Scope.commandArgument, closer?,
        separator?, inside, eq_comm (a := kind)]
  | cons o opened =>
    have hinside : Scanner.inside ⟨o :: opened, first, parens, pieces⟩ = some o.token.kind := rfl
    rcases hopen o rfl with hkind | hkind | hkind
    all_goals
      rw [hkind] at hinside
      refine ⟨fun kind => ?_, ?_, ?_, ?_⟩
      · simp [scope, Token.opener, Opener.scope, Scope.callArgument, Scope.bracketBody,
          Scope.braceBody, closer?, separator?, hinside, hkind, eq_comm (a := kind), or_comm]
      all_goals
        simp only [Scanner.calls, countsParens, Scanner.skipsBlanks, hinside, scope, Token.opener,
          hkind, Opener.scope]
        rfl

/-- The arguments of a call are separated by commas, and nothing else that is open has
    separators. -/
private theorem eq_comma_of_separator? (hopen : s.opened ≠ []) {kind : TokenKind}
    (h : s.separator? rule = some kind) : kind = .comma := by
  obtain ⟨opened, first, parens, pieces⟩ := s
  cases opened with
  | nil => exact absurd rfl hopen
  | cons o opened =>
    simp only [separator?, inside, List.head?_cons, Option.map_some] at h
    split at h <;> simp_all

/-- A comma never closes anything. -/
private theorem ne_comma_of_closer? {kind : TokenKind} (h : s.closer? = some kind) :
    kind ≠ .comma := by
  unfold closer? at h
  split at h <;> cases h <;> simp

/-- Where nothing is open, nothing closes it. -/
private theorem closer?_eq_none (h : s.opened = []) : s.closer? = none := by
  rw [closer?, inside, h]
  rfl

/-! ### Agreement of the scanner and the reader -/

/-- The open tokens are those that have opened the constructs around the reader, and each sequence
    that will go on is in the state that the scanner has noted. -/
inductive Around (rule : Rule) (pieces : Nat) : List OpenToken → List OpenConstruct → Prop
  | nil : Around rule pieces [] []
  | cons {o : OpenToken} {c : OpenConstruct} {os : List OpenToken} {cs : List OpenConstruct}
      (hopen : o.token.CanOpen) (hopener : c.opener = o.token.opener)
      (hparens : c.outer.parens = o.parens) (hscope : c.outer.scope = scope rule pieces os)
      (hstart : c.outer.start.isSome) (hrest : Around rule pieces os cs) :
      Around rule pieces (o :: os) (c :: cs)

/-- The reader and the scanner agree on everything but where the sequence begins that is being
    read. -/
structure Tracks (rule : Rule) (s : Scanner) (r : Reader) : Prop where
  rule_eq : r.rule = rule
  pieces : r.pieces.length = s.pieces
  scope : r.draft.scope = scope rule s.pieces s.opened
  parens : r.draft.parens = s.parens
  first : s.first = r.draft.nodes.isEmpty
  around : Around rule s.pieces s.opened r.enclosing

/-- The reader and the scanner agree, and a sequence without nodes has not begun. -/
structure Agrees (rule : Rule) (s : Scanner) (r : Reader) : Prop extends s.Tracks rule r where
  start : r.draft.start.isNone = r.draft.nodes.isEmpty

namespace Tracks

/-- What the scanner says of the place is what the reader says. -/
theorem place (h : s.Tracks rule r) : s.Place rule r.draft.scope := by
  rw [h.scope]
  apply Scanner.place
  intro o ho
  have haround := h.around
  generalize s.opened = opened, r.enclosing = enclosing at ho haround
  cases haround with
  | nil => cases ho
  | cons hopen =>
    cases ho
    exact hopen

/-- A construct is opened by the token that the scanner puts on its stack. -/
theorem push (h : s.Tracks rule r) (hstart : r.draft.start.isSome) (ht : t.CanOpen) :
    (s.push t).Agrees rule (r.push t.opener t.opener.scope) where
  rule_eq := h.rule_eq
  pieces := h.pieces
  scope := rfl
  parens := rfl
  first := rfl
  around := .cons ht rfl h.parens h.scope hstart h.around
  start := rfl

/-- A node is added to the sequence, and the scanner notes that it is not empty any more. -/
theorem setDraft (h : s.Tracks rule r) (hstart : r.draft.start.isSome) {d : Draft} {parens : Nat}
    (hscope : d.scope = r.draft.scope) (hparens : d.parens = parens) (hnodes : d.nodes ≠ [])
    (hsame : d.start = r.draft.start) :
    ({ s with first := false, parens } : Scanner).Agrees rule { r with draft := d } where
  rule_eq := h.rule_eq
  pieces := h.pieces
  scope := hscope.trans h.scope
  parens := hparens
  first := by simp [hnodes]
  around := h.around
  start := by
    have hbegun : r.draft.start.isNone = false := by simp [Option.isNone_eq_false_iff, hstart]
    rw [hsame, hbegun]
    simp [hnodes]

/-- What closes the innermost construct takes its token off the stack. -/
theorem pop (h : s.Tracks rule r) (hcloser : s.closer? = some t.kind) :
    s.pop.Agrees rule (r.stopAt t) := by
  obtain ⟨hrule, hpieces, -, -, -, haround⟩ := h
  obtain ⟨_, draft, enclosing, pieces⟩ := r
  obtain ⟨opened, first, parens, number⟩ := s
  dsimp only at hrule hpieces haround
  subst hrule hpieces
  have hcomma : t.kind ≠ .comma := ne_comma_of_closer? hcloser
  -- Something is open, since at the outermost level nothing is waited for.
  cases haround with
  | nil => exact absurd hcloser (by simp [closer?_eq_none])
  | @cons o c os cs hopen hopener hparens hscope hstart hrest =>
    simp only [Reader.stopAt, if_neg hcomma]
    have hbegun : c.outer.start.isNone = false := by simp [Option.isNone_eq_false_iff, hstart]
    exact ⟨⟨rfl, rfl, hscope, hparens, rfl, hrest⟩, hbegun⟩

/-- What separates lets the next sequence begin, in the same construct. -/
theorem split (h : s.Tracks rule r) (hparens : s.parens = 0)
    (hseparator : s.separator? rule = some t.kind) : s.split.Agrees rule (r.stopAt t) := by
  have hstops : t.kind ∈ r.draft.scope.stops := (h.place.stops _).mpr (.inr hseparator)
  obtain ⟨hrule, hpieces, hscope, -, -, haround⟩ := h
  obtain ⟨_, draft, enclosing, pieces⟩ := r
  obtain ⟨opened, first, parens, number⟩ := s
  dsimp only at hrule hpieces hscope haround hparens
  subst hrule hpieces hparens
  cases haround with
  | nil => exact ⟨⟨rfl, rfl, rfl, rfl, rfl, .nil⟩, rfl⟩
  | @cons o c os cs hopen hopener houter hscope' hstart hrest =>
    have hcomma : t.kind = .comma := eq_comma_of_separator? (by simp) hseparator
    -- Only a call has commas between its sequences.
    have hcall : o.token.opener.scope = .callArgument := by
      rw [hscope, hcomma] at hstops
      exact Opener.scope_of_comma hstops
    simp only [Reader.stopAt, if_pos hcomma]
    exact ⟨⟨rfl, rfl, hcall.symm, rfl, rfl, .cons hopen hopener houter hscope' hstart hrest⟩, rfl⟩

/-- Text is added, and the number of plain parentheses is changed. -/
theorem addText (h : s.Tracks rule r) (hstart : r.draft.start.isSome) {k parens : Nat}
    (hparens : k = parens) (span : Span) :
    ({ s with first := false, parens } : Scanner).Agrees rule
      { r with draft := { r.draft with parens := k }.addText span } := by
  apply h.setDraft hstart
  · exact Draft.scope_addText _ span
  · exact (Draft.parens_addText _ span).trans hparens
  · exact Draft.nodes_addText_ne_nil _ span
  · exact Draft.start_addText _ span

/-- A token that ends nothing. -/
theorem accept (h : s.Tracks rule r) (hstart : r.draft.start.isSome) (ht : t.Stands text n) :
    (s.accept rule t).Agrees rule (r.accept t) := by
  have hplace := h.place
  have hparens := h.parens
  -- Both count parentheses in the same places.
  have hcount : (if r.draft.scope.nestsParens then r.draft.parens + 1 else r.draft.parens)
      = if s.countsParens rule then s.parens + 1 else s.parens := by rw [hplace.parens, hparens]
  cases ht with
  | @sign kind c chars hkind hc =>
    cases kind with
    | openBracket => exact h.push hstart (.inr (.inl rfl))
    | openBrace => exact h.push hstart (.inr (.inr rfl))
    | openParen => exact h.addText hstart hcount _
    | closeParen => exact h.addText hstart (congrArg (· - 1) hparens) _
    | closeBracket | closeBrace | comma | equals | semicolon => exact h.addText hstart hparens _
    | functionHead | escape | substitution | whitespace | number | text | eof => cases hkind
  | @head chars k hlt hk hname hblank =>
    unfold Reader.accept Scanner.accept
    dsimp only
    rw [← h.first, hplace.calls]
    split
    · exact h.push hstart (.inl rfl)
    · exact h.addText hstart hcount _
  | escape hc hn => exact h.setDraft hstart rfl hparens (by simp [Draft.add]) rfl
  | substitution sub hc hlt => exact h.setDraft hstart rfl hparens (by simp [Draft.add]) rfl
  | blanks hlt => exact h.addText hstart hparens _
  | other hkind hlt hblank => rcases hkind with rfl | rfl <;> exact h.addText hstart hparens _

end Tracks

namespace Agrees

theorem initial (rule : Rule) : Agrees rule {} (.initial rule) :=
  ⟨⟨rfl, rfl, rfl, rfl, rfl, .nil⟩, rfl⟩

/-- **The scanner and the reader stay in agreement.** -/
theorem step (h : s.Agrees rule r) (ht : t.Stands text n) :
    (s.step rule t).Agrees rule (r.step t) := by
  have hplace := h.place
  unfold Scanner.step Reader.step
  rw [h.start, ← h.first, hplace.blanks]
  split
  · exact h
  -- From here on the sequence has begun.
  obtain ⟨begun, hbegun⟩ : ∃ begun : Reader,
      begun = { r with draft.start := some (r.draft.start.getD t.span.start) } := ⟨_, rfl⟩
  have htracks : s.Tracks rule begun := by
    rw [hbegun]
    exact ⟨h.rule_eq, h.pieces, h.scope, h.parens, h.first, h.around⟩
  have hstart : begun.draft.start.isSome := by rw [hbegun]; rfl
  simp only [← hbegun, Bool.and_eq_true, decide_eq_true_eq, List.contains_iff_mem]
  rw [h.parens]
  by_cases hcloser : s.parens = 0 ∧ s.closer? = some t.kind
  · have hstops := (hplace.stops t.kind).mpr (.inl hcloser.2)
    rw [if_pos hcloser, if_pos ⟨hcloser.1, hstops⟩]
    exact htracks.pop hcloser.2
  by_cases hseparator : s.parens = 0 ∧ s.separator? rule = some t.kind
  · have hstops := (hplace.stops t.kind).mpr (.inr hseparator.2)
    rw [if_neg hcloser, if_pos hseparator, if_pos ⟨hseparator.1, hstops⟩]
    exact htracks.split hseparator.1 hseparator.2
  · have hgo : ¬ (s.parens = 0 ∧ t.kind ∈ r.draft.scope.stops) := by
      rintro ⟨hparens, hstops⟩
      rcases (hplace.stops t.kind).mp hstops with h | h
      · exact hcloser ⟨hparens, h⟩
      · exact hseparator ⟨hparens, h⟩
    rw [if_neg hcloser, if_neg hseparator, if_neg hgo]
    exact htracks.accept hstart ht

/-- The scanner and the reader agree when the whole text has been read. -/
theorem run (rule : Rule) (text : List Char) :
    (Scanner.run rule {} (Token.scanFrom 0 text)).Agrees rule
      ((Reader.initial rule).run (Token.scanFrom 0 text)) := by
  -- Both machines take each token together.
  let both (p : Scanner × Reader) (t : Token) : Scanner × Reader := (p.1.step rule t, p.2.step t)
  have htogether : ((Token.scanFrom 0 text).foldl both ({}, .initial rule)).1.Agrees rule
      ((Token.scanFrom 0 text).foldl both ({}, .initial rule)).2 :=
    Token.foldl_scan (n := 0) (fun _ (p : Scanner × Reader) => p.1.Agrees rule p.2)
      (fun _ _ _ ht hp => hp.step ht) (Nat.zero_le _) (initial rule)
  have hboth := List.foldl_hom₂ (Token.scanFrom 0 text) Prod.mk (Scanner.step rule) Reader.step both
    {} (.initial rule) fun _ _ _ => rfl
  rwa [hboth] at htogether

end Agrees

/-! ### What is on the stack -/

/-- The open tokens have opened exactly the constructs that are open. -/
private theorem Around.forall₂ {pieces : Nat} {opened : List OpenToken}
    {enclosing : List OpenConstruct} (h : Around rule pieces opened enclosing) :
    List.Forall₂ (fun t c => Token.CanOpen t ∧ c.opener = t.opener) (opened.map (·.token))
      enclosing := by
  induction h with
  | nil => exact .nil
  | cons hopen hopener _ _ _ _ ih => exact .cons ⟨hopen, hopener⟩ ih

/-- A token changes the stack at its top only. -/
private theorem opened_step (rule : Rule) (s : Scanner) (t : Token) :
    (s.step rule t).opened = s.opened ∨ (s.step rule t).opened = s.opened.tail ∨
      (s.step rule t).opened = ⟨t, s.parens⟩ :: s.opened := by
  unfold step
  split
  · exact .inl rfl
  split
  · exact .inr (.inl rfl)
  split
  · exact .inl rfl
  -- Only a head and an opening bracket or brace are put on top.
  unfold accept
  split
  · split
    · exact .inr (.inr rfl)
    · exact .inl rfl
  · exact .inl rfl
  · exact .inl rfl
  · exact .inr (.inr rfl)
  · exact .inr (.inr rfl)
  · exact .inl rfl

/-- The end of the input neither opens nor closes anything. -/
private theorem opened_step_eof (rule : Rule) (s : Scanner) {t : Token} (ht : t.kind = .eof) :
    (s.step rule t).opened = s.opened := by
  have hcloser : s.closer? ≠ some .eof := by
    unfold closer?
    split <;> simp
  unfold step
  rw [ht]
  simp only [hcloser, and_false, if_false]
  split
  · rfl
  split
  · rfl
  · simp [accept, ht]

/-- To scan the end of the input as well makes no difference to what is open. -/
theorem opened_run_scan (rule : Rule) (text : List Char) :
    (run rule {} (Token.scan text)).opened = (run rule {} (Token.scanFrom 0 text)).opened := by
  rw [Token.scan_eq_scanFrom, run, List.foldl_append]
  exact opened_step_eof rule _ rfl

/-- **The stack holds tokens that have been scanned,** the last one first. -/
theorem sublist_run (rule : Rule) (s : Scanner) (tokens : List Token) :
    ((s.run rule tokens).opened.map (·.token)).Sublist
      (tokens.reverse ++ s.opened.map (·.token)) := by
  induction tokens generalizing s with
  | nil => exact List.Sublist.refl _
  | cons t tokens ih =>
    -- Each token is put on top, takes the top away, or leaves it.
    have hstep : ((s.step rule t).opened.map (·.token)).Sublist (t :: s.opened.map (·.token)) := by
      rcases opened_step rule s t with h | h | h
      · rw [h]
        exact List.sublist_cons_self _ _
      · rw [h, List.map_tail]
        exact (List.tail_sublist _).trans (List.sublist_cons_self _ _)
      · rw [h]
        exact List.Sublist.refl _
    have hrest := (ih (s.step rule t)).trans (hstep.append_left tokens.reverse)
    rwa [List.reverse_cons, List.append_assoc]

end Scanner

/-- Tokens stand one behind the other. -/
private theorem Token.pairwise_scanFrom (n : Nat) (cs : List Char) :
    (scanFrom n cs).Pairwise (fun a b => a.span.start < b.span.start) ∧
      ∀ t ∈ scanFrom n cs, n ≤ t.span.start := by
  fun_induction scanFrom n cs with
  | case1 => simp
  | case2 n c cs lexeme chars ih =>
    obtain ⟨hordered, hbehind⟩ := ih
    -- No token is empty, so the next one starts behind it.
    have hchars : 0 < chars.length := by simp [chars]
    constructor
    · refine List.pairwise_cons.mpr ⟨fun t ht => ?_, hordered⟩
      have hle := hbehind t ht
      show n < t.span.start
      omega
    · intro t ht
      rcases List.mem_cons.mp ht with rfl | ht
      · exact Nat.le_refl n
      · have hle := hbehind t ht
        omega

/-! ### The errors of a text -/

/-- Does the error say that the token has opened something that the text never closes? -/
structure SyntaxError.Reports (text : List Char) (t : Token) (e : SyntaxError) : Prop where
  opens : t.kind = .functionHead ∨ t.kind = .openBracket ∨ t.kind = .openBrace
  /-- The error lies at the end of the text. -/
  place : ⟨e.line, e.column⟩ = (LineIndex.ofChars text).position text.length
  offending : e.offending = some "<EOF>"
  /-- Its range begins with the token. -/
  range : e.range = (LineIndex.ofChars text).range t.span.start text.length
  /-- It says what is not closed. -/
  message : e.message = match t.kind with
    | .functionHead => "Missing ')' in call to function " ++ String.ofList t.chars.dropLast
    | .openBracket => "Unclosed '['"
    | _ => "Unclosed '\x7b'"
  input : e.input = text

/-- The report on what a token has opened reports that token. -/
private theorem SyntaxError.reports_unclosed (text : List Char) {t : Token} (ht : t.CanOpen) :
    Reports text t (.unclosed text t.opener) := by
  have hhead : t.opener.head = t.span := by
    unfold Token.opener
    split <;> rfl
  have hmessage : t.opener.complaint = match t.kind with
      | .functionHead => "Missing ')' in call to function " ++ String.ofList t.chars.dropLast
      | .openBracket => "Unclosed '['"
      | _ => "Unclosed '\x7b'" := by
    unfold Token.opener
    split <;> rfl
  unfold SyntaxError.unclosed
  dsimp only
  rw [hhead, hmessage]
  exact ⟨ht, rfl, rfl, rfl, rfl, rfl⟩

/-- **Errors are exactly what is never closed.**  There is one error for each token that is left on
    the stack, the innermost first, and it reports that token, at the end of the text.  These are
    tokens of the text, and each stands before the one that was reported before it.  So a text is
    well-formed if the stack ends empty, and only then. -/
theorem errors_report_openers (rule : Rule) (text : List Char) :
    List.Forall₂ (SyntaxError.Reports text) (unclosed rule text) (parse rule text).errors ∧
      (∀ t ∈ unclosed rule text, t ∈ Token.scan text) ∧
      (unclosed rule text).Pairwise (fun inner outer => outer.span.start < inner.span.start) ∧
      ((parse rule text).isOk ↔ unclosed rule text = []) := by
  have hreports : List.Forall₂ (SyntaxError.Reports text) (unclosed rule text)
      (parse rule text).errors := by
    rw [unclosed, Scanner.opened_run_scan, parse_eq_read]
    refine List.forall₂_map_right_iff.mpr ((Scanner.Agrees.run rule text).around.forall₂.imp ?_)
    rintro t c ⟨hopen, hopener⟩
    rw [hopener]
    exact SyntaxError.reports_unclosed text hopen
  -- What is open was read, and the innermost was read last.
  have hsublist : (unclosed rule text).Sublist (Token.scanFrom 0 text).reverse := by
    have hrun := Scanner.sublist_run rule {} (Token.scanFrom 0 text)
    rwa [List.map_nil, List.append_nil, ← Scanner.opened_run_scan] at hrun
  have hordered := (Token.pairwise_scanFrom 0 text).1
  refine ⟨hreports, fun t ht => ?_, ?_, ?_⟩
  · rw [Token.scan_eq_scanFrom]
    exact List.mem_append_left _ (List.mem_reverse.mp (hsublist.subset ht))
  · exact (List.pairwise_reverse.mpr hordered).sublist hsublist
  · rw [Parse.isOk, List.isEmpty_iff, ← List.length_eq_zero_iff, ← hreports.length_eq,
      List.length_eq_zero_iff]

/-- A bracket that closes nothing is text in a call, and so is a parenthesis in braces.  So both the
    brace and the call are reported, the brace first. -/
theorem mismatched_errors_report_openers :
    let text := "f(a]\x7bb)".toList
    (unclosed .function text).map (·.chars) = [['\x7b'], ['f', '(']] ∧
      List.Forall₂ (SyntaxError.Reports text) (unclosed .function text)
        (parse .function text).errors ∧
      ¬ (parse .function text).isOk := by
  intro text
  have hchars : (unclosed .function text).map (·.chars) = [['\x7b'], ['f', '(']] := by
    decide +kernel
  obtain ⟨hreports, -, -, hok⟩ := errors_report_openers .function text
  refine ⟨hchars, hreports, fun h => ?_⟩
  rw [hok.mp h] at hchars
  cases hchars

end Softcode
