import Softcode.Proofs.Tree.Reader

namespace Softcode

/-!
# The parser and the reader with a stack agree

The parser descends, and the reader keeps a stack.  While the parser is in a construct, the reader
has it on its stack together with whatever is around it, and what is around it stays as it is
(`Parser.Traces`).  When the parser comes back from a construct that was closed, the reader has
taken it off its stack; when it comes back because the input has ended, the reader still has it
there, and closing it at the end of the text (`Reader.unwind`) gives the node that the parser has
built.

* `Parser.traces_nodes` — the sequence of nodes that the parser reads is the one that the reader
  drafts;
* `Parser.traces_sequence`, `Parser.traces_arguments` — likewise the sequences and calls around it;
* `parse_eq_read` — so both read the same tree, and find the same errors in the same order.
-/

/-! ### Where the parser is -/

namespace Parser

variable {text : List Char} {p q r : Parser}

/-- The tokens that are left, with the end of the input. -/
def ahead (p : Parser) : List Token := p.stream.tokens.toList.drop p.stream.index

/-- The tokens that are left, without the end of the input. -/
def tokens (p : Parser) : List Token := p.ahead.dropLast

/-- Is the parser somewhere in the text?  The tokens that are left are the pieces of the text up to
    its end, and the token that was passed last ends where they begin. -/
structure In (text : List Char) (p : Parser) : Prop where
  input : p.input = text
  lines : p.lines = .ofChars text
  ahead : Token.Pieces text p.peek.span.start p.ahead
  lastEnd : p.lastEnd = p.peek.span.start

/-- The current token is the first of those that are left. -/
private theorem ahead_eq_cons (h : p.ahead ≠ []) :
    p.ahead = p.peek :: p.stream.tokens.toList.drop (p.stream.index + 1) := by
  have hindex : p.stream.index < p.stream.tokens.size := by
    refine Nat.lt_of_not_le fun hle => h ?_
    rw [ahead, List.drop_eq_nil_of_le hle]
  have hpeek : p.peek = p.stream.tokens[p.stream.index] := by
    rw [peek, TokenStream.current, Nat.min_eq_left (by omega), Array.getD, dif_pos hindex]
    rfl
  rw [ahead, List.drop_eq_getElem_cons hindex, hpeek]
  rfl

private theorem In.ahead_eq (h : p.In text) :
    p.ahead = p.peek :: p.stream.tokens.toList.drop (p.stream.index + 1) :=
  ahead_eq_cons h.ahead.ne_nil

/-- At the end of the input nothing is left. -/
private theorem In.at_end (h : p.In text) (heof : p.kind = .eof) :
    p.peek = Token.endOfInput text.length ∧ p.tokens = [] := by
  have hahead := h.ahead
  rw [h.ahead_eq] at hahead
  obtain ⟨-, ⟨hpeek, hnil⟩ | ⟨hcut, -⟩⟩ := hahead.of_cons
  · refine ⟨hpeek, ?_⟩
    rw [tokens, h.ahead_eq, hnil]
    rfl
  · exact absurd heof hcut.kind

/-- Any other token is the first one that is left, and the parser goes on behind it. -/
theorem In.advance (h : p.In text) (hne : p.kind ≠ .eof) :
    p.peek.Cut text ∧ p.tokens = p.peek :: p.advance.tokens ∧ p.advance.In text ∧
      p.advance.peek.span.start = p.peek.span.stop := by
  have hstream : p.stream.advance.2 = { p.stream with index := p.stream.index + 1 } := if_neg hne
  have hnext : p.advance.ahead = p.stream.tokens.toList.drop (p.stream.index + 1) := by
    rw [Parser.ahead, Parser.advance, hstream]
  have hahead := h.ahead
  rw [h.ahead_eq, ← hnext] at hahead
  -- The current token is not the last one, so it is followed by the others.
  obtain ⟨-, ⟨hpeek, -⟩ | ⟨hcut, hrest⟩⟩ := hahead.of_cons
  · exact absurd (congrArg Token.kind hpeek) hne
  have hstart : p.advance.peek.span.start = p.peek.span.stop := by
    have hrest' := hrest
    rw [ahead_eq_cons hrest.ne_nil] at hrest'
    exact hrest'.of_cons.1
  refine ⟨hcut, ?_, ⟨h.input, h.lines, hstart ▸ hrest, ?_⟩, hstart⟩
  · rw [tokens, tokens, h.ahead_eq, ← hnext, List.dropLast_cons_of_ne_nil hrest.ne_nil]
  · have hget : p.stream.get? p.stream.index = some p.peek := by
      have hhead := congrArg List.head? h.ahead_eq
      rwa [Parser.ahead, List.head?_drop, List.head?_cons, Array.getElem?_toList] at hhead
    rw [hstart, Parser.lastEnd, Parser.advance, hstream]
    show ((p.stream.get? p.stream.index).map _).getD 0 = _
    rw [hget]
    rfl

/-- At the beginning of a text. -/
private theorem in_ofChars (text : List Char) :
    (ofChars text).In text ∧ (ofChars text).tokens = Token.scanFrom 0 text := by
  have hahead : (ofChars text).ahead = Token.scan text := rfl
  have hpieces := Token.pieces_scan text
  have hstart : (ofChars text).peek.span.start = 0 := by
    have hpieces' := hpieces
    rw [← hahead, ahead_eq_cons (hahead ▸ hpieces.ne_nil)] at hpieces'
    exact hpieces'.of_cons.1
  refine ⟨⟨rfl, rfl, ?_, hstart.symm⟩, ?_⟩
  · rw [hstart, hahead]
    exact hpieces
  · rw [tokens, hahead, Token.scan_eq_scanFrom, List.dropLast_concat]

end Parser

/-! ### What the reader does meanwhile -/

/-- Does a token of this kind end the sequence?  The sequence must have begun, and no parentheses
    may be open in it. -/
structure Draft.EndsAt (d : Draft) (kind : TokenKind) : Prop where
  begun : d.start.isSome
  outside : d.parens = 0
  stops : kind ∈ d.scope.stops

namespace Reader

variable {d : Draft} {t : Token} {rule : Rule} {enclosing : List OpenConstruct}
  {pieces : List Argument}

theorem run_nil (r : Reader) : r.run [] = r := rfl

/-- The first token is read first. -/
theorem run_cons (r : Reader) (t : Token) (ts : List Token) : r.run (t :: ts) = (r.step t).run ts :=
  rfl

/-- The sequence that goes on when all of these constructs are closed at `stop`. -/
def unwind (stop : Nat) : Draft → List OpenConstruct → Draft
  | d, [] => d
  | d, c :: cs => unwind stop (c.outer.add (OpenConstruct.node c (d.finish stop) stop)) cs

/-- Inner constructs are closed before outer ones. -/
private theorem unwind_append (stop : Nat) (d : Draft) (cs cs' : List OpenConstruct) :
    unwind stop d (cs ++ cs') = unwind stop (unwind stop d cs) cs' := by
  induction cs generalizing d with
  | nil => rfl
  | cons c cs ih => exact ih _

/-- To close all constructs is to unwind them and to end the sequence that is left. -/
private theorem close_eq_unwind (stop : Nat) (d : Draft) (cs : List OpenConstruct) :
    close stop d cs = (unwind stop d cs).finish stop := by
  induction cs generalizing d with
  | nil => rfl
  | cons c cs ih => exact ih _

/-- In a sequence that has begun, a token that does not end it is read. -/
private theorem step_of_begun {s : Nat} (hstart : d.start = some s)
    (hgo : ¬ (d.parens = 0 ∧ t.kind ∈ d.scope.stops)) :
    (Reader.mk rule d enclosing pieces).step t = (Reader.mk rule d enclosing pieces).accept t := by
  obtain ⟨scope, start, nodes, parens⟩ := d
  dsimp only at hstart hgo
  subst hstart
  simp only [step, Option.isNone_some, Bool.false_and, Bool.false_eq_true, if_false,
    Option.getD_some, Bool.and_eq_true, decide_eq_true_eq, List.contains_iff_mem, if_neg hgo]

/-- A token that ends a sequence does so. -/
private theorem step_of_endsAt (h : d.EndsAt t.kind) :
    (Reader.mk rule d enclosing pieces).step t = (Reader.mk rule d enclosing pieces).stopAt t := by
  obtain ⟨scope, start, nodes, parens⟩ := d
  obtain ⟨hbegun, houtside, hstops⟩ := h
  dsimp only at hbegun houtside hstops
  obtain ⟨start, rfl⟩ := Option.isSome_iff_exists.mp hbegun
  subst houtside
  simp [step, hstops]

end Reader

namespace Parser

variable {text : List Char} {p q r : Parser} {d last : Draft} {opened inner : List OpenConstruct}

/-- Between `p` and `q`, a reader in the sequence `d` and the constructs `opened` goes to the
    sequence `last` and the constructs `inner`, whatever is around them.  What is still open is what
    the parser has noted errors for, and nothing is unless the input has ended. -/
structure Traces (text : List Char) (p : Parser) (d : Draft) (opened : List OpenConstruct)
    (q : Parser) (last : Draft) (inner : List OpenConstruct) : Prop where
  run : ∀ (rule : Rule) (enclosing : List OpenConstruct) (pieces : List Argument),
    (Reader.mk rule d (opened ++ enclosing) pieces).run p.tokens
      = (Reader.mk rule last (inner ++ enclosing) pieces).run q.tokens
  errors : q.errors = p.errors ++ inner.map fun c => .unclosed text c.opener
  ended : inner ≠ [] → q.kind = .eof
  inside : q.In text
  le : p.peek.span.start ≤ q.peek.span.start

namespace Traces

theorem refl (h : p.In text) (d : Draft) : Traces text p d [] p d [] :=
  ⟨fun _ _ _ => rfl, (List.append_nil _).symm, fun h => absurd rfl h, h, Nat.le_refl _⟩

/-- Where nothing is left open, the reader goes on in what was around it. -/
theorem trans {d' : Draft} (h : Traces text p d [] q d' [])
    (h' : Traces text q d' opened r last inner) : Traces text p d opened r last inner where
  run rule enclosing pieces :=
    (h.run rule (opened ++ enclosing) pieces).trans (h'.run rule enclosing pieces)
  errors := by rw [h'.errors, h.errors, List.map_nil, List.append_nil]
  ended := h'.ended
  inside := h'.inside
  le := Nat.le_trans h.le h'.le

/-- One token is read. -/
theorem step {d' : Draft} {opened' : List OpenConstruct} (hp : p.In text) (hne : p.kind ≠ .eof)
    (hstep : ∀ (rule : Rule) (enclosing : List OpenConstruct) (pieces : List Argument),
      (Reader.mk rule d (opened ++ enclosing) pieces).step p.peek
        = Reader.mk rule d' (opened' ++ enclosing) pieces)
    (h : Traces text p.advance d' opened' q last inner) : Traces text p d opened q last inner := by
  obtain ⟨hcut, htokens, -, hstart⟩ := hp.advance hne
  refine ⟨fun rule enclosing pieces => ?_, h.errors, h.ended, h.inside, ?_⟩
  · rw [htokens, Reader.run_cons, hstep]
    exact h.run rule enclosing pieces
  · have hle := h.le
    have hnonempty := hcut.nonempty
    omega

/-- The current token is a comma, and another argument of the call follows. -/
theorem comma {c : OpenConstruct} {last' : Draft} (h : Traces text p d [] q last [])
    (hcomma : q.kind = .comma) (hends : last.EndsAt q.kind)
    (hnext : Traces text q.advance { scope := .callArgument }
      [{ c with args := last.finish q.peek.span.start :: c.args }] r last' inner) :
    Traces text p d [c] r last' inner := by
  have hne : q.kind ≠ .eof := by rw [hcomma]; simp
  refine h.trans (step h.inside hne (fun rule enclosing pieces => ?_) hnext)
  rw [Reader.step_of_endsAt hends]
  exact if_pos hcomma

/-- The construct around the sequence is closed by the current token. -/
theorem close {c : OpenConstruct} (h : Traces text p d [] q last [])
    (hne : q.kind ≠ .eof) (hcomma : q.kind ≠ .comma) (hends : last.EndsAt q.kind) :
    Traces text p d [c] q.advance
      (c.outer.add (Reader.OpenConstruct.node c (last.finish q.peek.span.start) q.advance.lastEnd))
      [] := by
  obtain ⟨-, -, hin, hnext⟩ := h.inside.advance hne
  have hlast : q.advance.lastEnd = q.peek.span.stop := by rw [hin.lastEnd, hnext]
  refine h.trans (step h.inside hne (fun rule enclosing pieces => ?_) (.refl hin _))
  rw [Reader.step_of_endsAt hends, hlast]
  exact if_neg hcomma

/-- The construct around the sequence is not closed when the input ends, which then closes it. -/
theorem unclosed {c : OpenConstruct} {head : Token} (h : Traces text p d [] q last inner)
    (heof : q.kind = .eof) (hhead : c.opener.head = head.span) :
    let after := q.errorAtCurrent head c.opener.complaint c.opener.expected
    Traces text p d [c] after last (inner ++ [c]) ∧
      Reader.unwind text.length last (inner ++ [c])
        = c.outer.add (Reader.OpenConstruct.node c
            ((Reader.unwind text.length last inner).finish q.peek.span.start) after.lastEnd) := by
  intro after
  have hpeek := (h.inside.at_end heof).1
  -- Nothing is left to read, so the current token is the end of the text.
  have herror : after.errors = q.errors ++ [.unclosed text c.opener] := by
    simp only [after, errorAtCurrent, hpeek, h.inside.input, h.inside.lines, SyntaxError.unclosed,
      hhead, Token.endOfInput, Nat.max_self, if_true]
  have hlast : after.lastEnd = q.peek.span.start := h.inside.lastEnd
  refine ⟨⟨fun rule enclosing pieces => ?_, ?_, fun _ => heof, ?_, h.le⟩, ?_⟩
  · rw [List.append_assoc]
    exact h.run rule (c :: enclosing) pieces
  · rw [herror, h.errors, List.map_append, List.append_assoc]
    rfl
  · exact ⟨h.inside.input, h.inside.lines, h.inside.ahead, h.inside.lastEnd⟩
  · rw [Reader.unwind_append, hlast, hpeek]
    rfl

end Traces

/-! ### What the parser reads -/

/-- The nodes that the parser reads are those of the sequence that the reader drafts.  The parser
    stops where the sequence ends, outside of all parentheses, or at the end of the input. -/
def NodesTraced (text : List Char) (p : Parser) : Prop :=
  ∀ (scope : Scope) (done : List Node) (parens start : Nat), p.In text →
    let read := p.nodes scope done parens done.isEmpty
    ∃ last inner, Traces text p ⟨scope, some start, done, parens⟩ [] read.rest last inner ∧
      (∃ parens, Reader.unwind text.length last inner = ⟨scope, some start, read.value, parens⟩) ∧
      (read.rest.kind ≠ .eof → last.parens = 0 ∧ read.rest.kind ∈ scope.stops)

/-- Blanks before a sequence are skipped. -/
private theorem traces_enter (h : p.In text) (scope : Scope) :
    Traces text p { scope } [] (p.enter scope) { scope } [] ∧
      ¬ (scope.skipsBlanks ∧ (p.enter scope).kind = .whitespace) := by
  unfold enter
  split
  next hskips =>
    -- Blanks that are skipped are read by both, and neither makes anything of them.
    fun_induction skipBlanks p with
    | case1 p hblank ih =>
      have hne : p.kind ≠ .eof := by rw [hblank]; simp
      obtain ⟨hrest, hstop⟩ := ih (h.advance hne).2.2.1
      refine ⟨.step h hne (fun rule enclosing pieces => ?_) hrest, hstop⟩
      have hkind : p.peek.kind = .whitespace := hblank
      simp [Reader.step, hskips, hkind]
    | case2 p hblank => exact ⟨.refl h _, fun hboth => hblank hboth.2⟩
  next hskips => exact ⟨.refl h _, fun hboth => hskips hboth.1⟩

/-- A sequence begins with the first token that is not skipped. -/
private theorem traces_begin (h : p.In text) (hne : p.kind ≠ .eof) {scope : Scope}
    (hskip : ¬ (scope.skipsBlanks ∧ p.kind = .whitespace))
    (htraces : Traces text p { scope, start := some p.peek.span.start } [] q last inner) :
    Traces text p { scope } [] q last inner := by
  refine ⟨fun rule enclosing pieces => ?_, htraces.errors, htraces.ended, htraces.inside,
    htraces.le⟩
  rw [← htraces.run, (h.advance hne).2.1, Reader.run_cons, Reader.run_cons]
  congr 1
  have hblank : ¬ (scope.skipsBlanks = true ∧ p.peek.kind = .whitespace) := hskip
  simp [Reader.step, hblank]

/-- Where a sequence ends there are no more nodes. -/
private theorem nodes_of_stop (scope : Scope) (done : List Node) (parens : Nat) (first : Bool)
    (h : p.kind = .eof ∨ parens = 0 ∧ p.kind ∈ scope.stops) :
    (p.nodes scope done parens first).value = done ∧
      (p.nodes scope done parens first).rest = p := by
  rw [nodes, dif_pos h]
  exact ⟨rfl, rfl⟩

/-- Elsewhere a node is read, and then those behind it. -/
private theorem nodes_of_go {scope : Scope} (done : List Node) {parens : Nat} (first : Bool)
    (h : ¬ (p.kind = .eof ∨ parens = 0 ∧ p.kind ∈ scope.stops))
    (hadvance : p.advance.left < p.left) :
    let step := p.node scope done parens first hadvance
    let more := step.rest.nodes scope step.value.1 step.value.2 false
    (p.nodes scope done parens first).value = more.value ∧
      (p.nodes scope done parens first).rest = more.rest := by
  rw [nodes, dif_neg h]
  exact ⟨rfl, rfl⟩

/-- **The sequence that the parser reads is the one that the reader finishes.** -/
theorem traces_sequence (hnodes : ∀ q : Parser, q.left ≤ p.left → q.NodesTraced text)
    (h : p.In text) (scope : Scope) :
    let read := p.sequence scope
    ∃ last inner, Traces text p { scope } [] read.rest last inner ∧
      (Reader.unwind text.length last inner).finish read.rest.peek.span.start = read.value ∧
      (read.rest.kind ≠ .eof →
        inner = [] ∧ last.scope = scope ∧ last.EndsAt read.rest.kind) := by
  intro read
  obtain ⟨hskipped, hskip⟩ := traces_enter h scope
  have hin := hskipped.inside
  obtain ⟨body, hbody⟩ : ∃ body, body = (p.enter scope).nodes scope [] 0 true := ⟨_, rfl⟩
  have hread : read = ⟨⟨body.value.reverse, ⟨(p.enter scope).peek.span.start,
      max body.rest.peek.span.start (p.enter scope).peek.span.start⟩⟩, body.rest,
      Nat.le_trans body.left_le (left_enter scope p)⟩ := by
    rw [hbody]
    dsimp only [read]
    rw [sequence]
  rw [hread]
  dsimp only
  by_cases heof : (p.enter scope).kind = .eof
  · -- The sequence is empty, and the reader does not know yet where it begins.
    obtain ⟨hvalue, hrest⟩ : body.value = [] ∧ body.rest = p.enter scope :=
      hbody ▸ nodes_of_stop scope [] 0 true (.inl heof)
    rw [hrest, hvalue, Nat.max_self]
    exact ⟨_, _, hskipped, rfl, fun hne => absurd heof hne⟩
  · obtain ⟨last, inner, htraces, ⟨parens, hunwind⟩, hstop⟩ :=
      hnodes _ (left_enter scope p) scope [] 0 (p.enter scope).peek.span.start hin
    have hempty : ([] : List Node).isEmpty = true := rfl
    rw [hempty, ← hbody] at htraces hunwind hstop
    refine ⟨last, inner, hskipped.trans (traces_begin hin heof hskip htraces), ?_, fun hne => ?_⟩
    · rw [hunwind, Nat.max_eq_left htraces.le]
      rfl
    · have hinner : inner = [] := by
        by_contra hopen
        exact hne (htraces.ended hopen)
      subst hinner
      obtain ⟨hparens, hkind⟩ := hstop hne
      have hlast : last = ⟨scope, some _, body.value, parens⟩ := hunwind
      rw [hlast] at hparens ⊢
      exact ⟨rfl, rfl, rfl, hparens, hkind⟩

/-- A construct with one sequence is closed behind it, or not at all. -/
private theorem traces_closeWith (hnodes : ∀ q : Parser, q.left ≤ p.left → q.NodesTraced text)
    (h : p.In text) {scope : Scope} {kind : TokenKind} (hstops : scope.stops = [kind])
    (hcomma : kind ≠ .comma) (heof : kind ≠ .eof) {c : OpenConstruct} {head : Token}
    (hhead : c.opener.head = head.span) (hexpected : c.opener.expected = [kind]) :
    let read := p.sequence scope
    let after := read.rest.closeWith kind head c.opener.complaint
    ∃ last inner, Traces text p { scope } [c] after last inner ∧
      Reader.unwind text.length last inner
        = c.outer.add (Reader.OpenConstruct.node c read.value after.lastEnd) := by
  intro read after
  obtain ⟨last, inner, htraces, hvalue, hstop⟩ := traces_sequence hnodes h scope
  by_cases hkind : read.rest.kind = kind
  · -- The token that closes the construct is there.
    have hafter : after = read.rest.advance := if_pos hkind
    have hne : read.rest.kind ≠ .eof := hkind ▸ heof
    obtain ⟨rfl, -, hends⟩ := hstop hne
    have hclosed := htraces.close (c := c) hne (hkind ▸ hcomma) hends
    rw [show last.finish read.rest.peek.span.start = read.value from hvalue] at hclosed
    rw [hafter]
    exact ⟨_, _, hclosed, rfl⟩
  · -- It is not, so the sequence has gone up to the end of the input.
    have hafter : after = read.rest.errorAtCurrent head c.opener.complaint c.opener.expected := by
      rw [hexpected]
      exact if_neg hkind
    have hend : read.rest.kind = .eof := by
      by_contra hne
      obtain ⟨-, rfl, hends⟩ := hstop hne
      exact hkind (List.mem_singleton.mp (hstops ▸ hends.stops))
    have hunclosed := htraces.unclosed hend hhead
    rw [← hafter, hvalue] at hunclosed
    exact ⟨_, _, hunclosed⟩

section Arguments

variable (head : Token) (name : String) (done : List Argument)

/-- Behind a comma the arguments go on. -/
private theorem arguments_of_comma (h : (p.sequence .callArgument).rest.kind = .comma) :
    let arg := p.sequence .callArgument
    let more := arg.rest.advance.arguments head name (arg.value :: done)
    (p.arguments head name done).value = more.value ∧
      (p.arguments head name done).rest = more.rest := by
  rw [arguments, dif_pos h]
  exact ⟨rfl, rfl⟩

/-- A parenthesis closes the call. -/
private theorem arguments_of_closeParen (h : (p.sequence .callArgument).rest.kind = .closeParen) :
    let arg := p.sequence .callArgument
    (p.arguments head name done).value = done.reverse ++ [arg.value] ∧
      (p.arguments head name done).rest = arg.rest.advance := by
  rw [arguments, dif_neg (by rw [h]; simp), dif_pos h]
  exact ⟨List.reverse_cons, rfl⟩

/-- Where the input ends, the call is not closed. -/
private theorem arguments_of_eof (h : (p.sequence .callArgument).rest.kind = .eof) :
    let arg := p.sequence .callArgument
    let opener := Opener.call name head.span
    (p.arguments head name done).value = done.reverse ++ [arg.value] ∧
      (p.arguments head name done).rest
        = arg.rest.errorAtCurrent head opener.complaint opener.expected := by
  rw [arguments, dif_neg (by rw [h]; simp), dif_neg (by rw [h]; simp)]
  exact ⟨List.reverse_cons, rfl⟩

/-- **A call that the parser reads is the one that the reader closes.** -/
theorem traces_arguments {n : Nat} (hnodes : ∀ q : Parser, q.left ≤ n → q.NodesTraced text)
    (hleft : p.left ≤ n) (h : p.In text) {c : OpenConstruct} {head : Token} {name : String}
    (hopener : c.opener = .call name head.span) :
    let read := p.arguments head name c.args
    ∃ last inner, Traces text p { scope := .callArgument } [c] read.rest last inner ∧
      Reader.unwind text.length last inner
        = c.outer.add (.call name ⟨head.span.start, head.span.stop - 1⟩ read.value
            ⟨head.span.start, read.rest.lastEnd⟩) := by
  -- Each comma leaves fewer tokens.
  obtain ⟨k, hk⟩ : ∃ k, k = p.left := ⟨_, rfl⟩
  induction k using Nat.strong_induction_on generalizing p c with
  | _ k ih =>
    subst hk
    intro read
    obtain ⟨last, inner, htraces, hvalue, hstop⟩ :=
      traces_sequence (fun q hq => hnodes q (Nat.le_trans hq hleft)) h .callArgument
    -- The argument ends at a comma, at the end of the call or at the end of the input.
    by_cases heof : (p.sequence .callArgument).rest.kind = .eof
    · obtain ⟨hargs, hrest⟩ := arguments_of_eof head name c.args heof
      have hhead : c.opener.head = head.span := by rw [hopener]; rfl
      have hunclosed := htraces.unclosed heof hhead
      rw [hopener, ← hrest, hvalue] at hunclosed
      refine ⟨_, _, hunclosed.1, ?_⟩
      rw [hunclosed.2, hargs]
      simp only [Reader.OpenConstruct.node, hopener, Opener.head]
      rfl
    obtain ⟨rfl, hscope, hends⟩ := hstop heof
    rw [Reader.unwind] at hvalue
    rcases List.mem_pair.mp (hscope ▸ hends.stops) with hcomma | hclose
    · obtain ⟨hargs, hrest⟩ := arguments_of_comma head name c.args hcomma
      have hless := Nat.lt_of_lt_of_le (left_advance heof) (p.sequence .callArgument).left_le
      obtain ⟨last', inner', hmore, hunwind⟩ :=
        ih _ hless (Nat.le_trans (Nat.le_of_lt hless) hleft) (htraces.inside.advance heof).2.2.1
          (c := { c with args := (p.sequence .callArgument).value :: c.args }) hopener rfl
      rw [hargs, hrest]
      exact ⟨last', inner', htraces.comma hcomma hends (hvalue ▸ hmore), hunwind⟩
    · obtain ⟨hargs, hrest⟩ := arguments_of_closeParen head name c.args hclose
      have hclosed := htraces.close (c := c) heof (by rw [hclose]; simp) hends
      rw [hvalue] at hclosed
      rw [hargs, hrest]
      refine ⟨_, _, hclosed, ?_⟩
      simp only [Reader.unwind, Reader.OpenConstruct.node, hopener, Opener.head]

end Arguments

section Node

variable {scope : Scope} {done : List Node} {parens start n : Nat}

/-- What the parser has read behind the nodes `done` is what the reader has added to them. -/
def NodeTraced (text : List Char) (p : Parser) (scope : Scope) (done : List Node)
    (parens start : Nat) (read : Read (List Node × Nat) n) : Prop :=
  read.value.1 ≠ [] ∧
    ∃ last inner, Traces text p ⟨scope, some start, done, parens⟩ [] read.rest last inner ∧
      Reader.unwind text.length last inner = ⟨scope, some start, read.value.1, read.value.2⟩

/-- A token that opens nothing is read on its own. -/
private theorem nodeTraced_token (h : p.In text) (hne : p.kind ≠ .eof)
    (hgo : ¬ (parens = 0 ∧ p.kind ∈ scope.stops)) {nodes : List Node} {k : Nat}
    (hnodes : nodes ≠ []) (hleft : p.advance.left ≤ n)
    (haccept : ∀ (rule : Rule) (enclosing : List OpenConstruct) (pieces : List Argument),
      (Reader.mk rule ⟨scope, some start, done, parens⟩ enclosing pieces).accept p.peek
        = Reader.mk rule ⟨scope, some start, nodes, k⟩ enclosing pieces) :
    NodeTraced text p scope done parens start ⟨(nodes, k), p.advance, hleft⟩ := by
  refine ⟨hnodes, _, _, .step h hne (fun rule enclosing pieces => ?_)
    (.refl (h.advance hne).2.2.1 _), rfl⟩
  rw [Reader.step_of_begun rfl hgo]
  exact haccept rule _ pieces

/-- A token that opens a construct is read with it. -/
private theorem nodeTraced_construct (h : p.In text) (hne : p.kind ≠ .eof)
    (hgo : ¬ (parens = 0 ∧ p.kind ∈ scope.stops)) (opener : Opener) (body : Scope) {node : Node}
    (hleft : q.left ≤ n)
    (haccept : ∀ (rule : Rule) (enclosing : List OpenConstruct) (pieces : List Argument),
      (Reader.mk rule ⟨scope, some start, done, parens⟩ enclosing pieces).accept p.peek
        = (Reader.mk rule ⟨scope, some start, done, parens⟩ enclosing pieces).push opener body)
    (htraces : ∃ last inner, Traces text p.advance { scope := body }
        [{ opener, outer := ⟨scope, some start, done, parens⟩ }] q last inner ∧
      Reader.unwind text.length last inner = ⟨scope, some start, node :: done, parens⟩) :
    NodeTraced text p scope done parens start ⟨(node :: done, parens), q, hleft⟩ := by
  obtain ⟨last, inner, htraces, hunwind⟩ := htraces
  refine ⟨List.cons_ne_nil _ _, last, inner, .step h hne (fun rule enclosing pieces => ?_) htraces,
    hunwind⟩
  rw [Reader.step_of_begun rfl hgo]
  exact haccept rule _ pieces

/-- **The node that the parser reads is the one that the reader adds.** -/
theorem nodeTraced_node (hnodes : ∀ q : Parser, q.left < p.left → q.NodesTraced text)
    (h : p.In text) (hadvance : p.advance.left < p.left) (hne : p.kind ≠ .eof)
    (hgo : ¬ (parens = 0 ∧ p.kind ∈ scope.stops)) (done : List Node) (start : Nat) :
    NodeTraced text p scope done parens start
      (p.node scope done parens done.isEmpty hadvance) := by
  obtain ⟨hcut, -, hin, -⟩ := h.advance hne
  have hbelow : ∀ q : Parser, q.left ≤ p.advance.left → q.NodesTraced text :=
    fun q hq => hnodes q (Nat.lt_of_le_of_lt hq hadvance)
  rw [node]
  cases hkind : p.peek.kind with
  | functionHead =>
    by_cases hcall : (done.isEmpty && scope.calls) = true
    · simp only [hcall, if_true]
      refine nodeTraced_construct h hne hgo
        (.call (String.ofList p.peek.chars.dropLast) p.peek.span)
        .callArgument _ (fun rule enclosing pieces => ?_) ?_
      · simp only [Reader.accept, hkind, hcall, if_true]
      · rw [call]
        exact traces_arguments hbelow (Nat.le_refl _) hin rfl
    · simp only [hcall]
      refine nodeTraced_token h hne hgo (pushText_ne_nil _ _) _ fun rule enclosing pieces => ?_
      simp only [Reader.accept, hkind, hcall]
      rfl
  | openBracket =>
    refine nodeTraced_construct h hne hgo (.bracket p.peek.span) .bracketBody _
      (fun rule enclosing pieces => ?_) ?_
    · simp only [Reader.accept, hkind]
    · rw [bracket]
      exact traces_closeWith hbelow hin rfl (by simp) (by simp) rfl rfl
  | openBrace =>
    refine nodeTraced_construct h hne hgo (.brace p.peek.span) .braceBody _
      (fun rule enclosing pieces => ?_) ?_
    · simp only [Reader.accept, hkind]
    · rw [brace]
      exact traces_closeWith hbelow hin rfl (by simp) (by simp) rfl rfl
  | substitution =>
    -- A substitution stands for something, so there is a node for it.
    obtain ⟨sub, hsub⟩ := Option.isSome_iff_exists.mp (hcut.substitution.mpr hkind)
    simp only [hsub]
    refine nodeTraced_token h hne hgo (List.cons_ne_nil _ _) _ fun rule enclosing pieces => ?_
    simp only [Reader.accept, hkind, hsub]
    rfl
  | escape =>
    refine nodeTraced_token h hne hgo (List.cons_ne_nil _ _) _ fun rule enclosing pieces => ?_
    simp only [Reader.accept, hkind]
    rfl
  | _ =>
    refine nodeTraced_token h hne hgo (pushText_ne_nil _ _) _ fun rule enclosing pieces => ?_
    simp only [Reader.accept, hkind]
    rfl

end Node

/-- **The nodes that the parser reads are those that the reader drafts.** -/
theorem traces_nodes (text : List Char) (p : Parser) : p.NodesTraced text := by
  induction hmeasure : p.left using Nat.strong_induction_on generalizing p with
  | _ k ih =>
    subst hmeasure
    intro scope done parens start h read
    by_cases hstop : p.kind = .eof ∨ parens = 0 ∧ p.kind ∈ scope.stops
    · -- The sequence ends here.
      obtain ⟨hvalue, hrest⟩ := nodes_of_stop scope done parens done.isEmpty hstop
      rw [hvalue, hrest]
      exact ⟨_, _, .refl h _, ⟨parens, rfl⟩, fun hne => hstop.resolve_left hne⟩
    have hne : p.kind ≠ .eof := fun heof => hstop (.inl heof)
    have hadvance := left_advance hne
    obtain ⟨hvalue, hrest⟩ := nodes_of_go done done.isEmpty hstop hadvance
    have hnode := nodeTraced_node (fun q hq => ih q.left hq q rfl) h hadvance hne
      (fun hs => hstop (.inr hs)) done start
    rw [hvalue, hrest]
    generalize p.node scope done parens done.isEmpty hadvance = step at hnode ⊢
    obtain ⟨hnonempty, last, inner, htraces, hunwind⟩ := hnode
    -- The node may have been left open at the end of the input.
    by_cases hinner : inner = []
    · subst hinner
      have hless : step.rest.left < p.left := Nat.lt_of_le_of_lt step.left_le hadvance
      obtain ⟨last', inner', hmore, hunwind', hstop'⟩ :=
        ih _ hless step.rest rfl scope step.value.1 step.value.2 start htraces.inside
      rw [List.isEmpty_eq_false_iff.mpr hnonempty] at hmore hunwind' hstop'
      have hlast : last = ⟨scope, some start, step.value.1, step.value.2⟩ := hunwind
      exact ⟨last', inner', (hlast ▸ htraces).trans hmore, hunwind', hstop'⟩
    · -- Something has not been closed, so there is nothing more to read.
      have heof := htraces.ended hinner
      obtain ⟨hvalue', hrest'⟩ :=
        nodes_of_stop scope step.value.1 step.value.2 false (.inl heof)
      rw [hvalue', hrest']
      exact ⟨last, inner, htraces, ⟨_, hunwind⟩, fun hne' => absurd heof hne'⟩

/-! ### The pieces of a text -/

/-- A reader that goes from where the parser is to the end of the text finishes with the given
    pieces, and what is open then is what the parser has noted errors for. -/
structure Completes (text : List Char) (p : Parser) (r : Reader) (args : List Argument)
    (q : Parser) : Prop where
  finish : (r.run p.tokens).finish text.length = r.pieces.reverse ++ args
  errors : q.errors = p.errors ++ (r.run p.tokens).enclosing.map fun c => .unclosed text c.opener

section Pieces

variable {rule : Rule} {scope : Scope} {pieces args : List Argument}

/-- Behind a sequence the parser is still in the text. -/
private theorem in_sequence (h : p.In text) (scope : Scope) : (p.sequence scope).rest.In text := by
  obtain ⟨last, inner, htraces, -⟩ := traces_sequence (fun q _ => traces_nodes text q) h scope
  exact htraces.inside

/-- So it is behind the token that ends the sequence. -/
private theorem in_advance_sequence (h : p.In text) (hne : (p.sequence scope).rest.kind ≠ .eof) :
    (p.sequence scope).rest.advance.In text :=
  ((in_sequence h scope).advance hne).2.2.1

/-- A piece of the text that no token ends goes up to the end of the input. -/
private theorem completes_last (h : p.In text)
    (hlast : (p.sequence scope).rest.kind ∉ scope.stops) :
    Completes text p (.mk rule { scope } [] pieces) [(p.sequence scope).value]
      (p.sequence scope).rest := by
  obtain ⟨last, inner, htraces, hvalue, hstop⟩ :=
    traces_sequence (fun q _ => traces_nodes text q) h scope
  -- Nothing stops the sequence but the end of the text.
  have heof : (p.sequence scope).rest.kind = .eof := by
    by_contra hne
    obtain ⟨-, rfl, hends⟩ := hstop hne
    exact hlast hends.stops
  obtain ⟨hpeek, hnil⟩ := htraces.inside.at_end heof
  have hrun := htraces.run rule [] pieces
  rw [List.append_nil, List.append_nil, hnil, Reader.run_nil] at hrun
  refine ⟨?_, ?_⟩
  · rw [hrun, Reader.finish, Reader.close_eq_unwind, List.reverse_cons]
    rw [hpeek] at hvalue
    exact congrArg (fun a => pieces.reverse ++ [a]) hvalue
  · rw [hrun]
    exact htraces.errors

/-- Behind a token that ends a piece of the text, the reader goes on with the next piece. -/
private theorem completes_next (h : p.In text) (hne : (p.sequence scope).rest.kind ≠ .eof)
    (hrest : Completes text (p.sequence scope).rest.advance (.mk rule
      { scope := rule.scope (pieces.length + 1) } [] ((p.sequence scope).value :: pieces)) args q) :
    Completes text p (.mk rule { scope } [] pieces) ((p.sequence scope).value :: args) q := by
  obtain ⟨last, inner, htraces, hvalue, hstop⟩ :=
    traces_sequence (fun q _ => traces_nodes text q) h scope
  obtain ⟨rfl, -, hends⟩ := hstop hne
  -- The sequence ends at a separator, which starts the next piece.
  have hstep : (Reader.mk rule { scope } [] pieces).run p.tokens
      = (Reader.mk rule { scope := rule.scope (pieces.length + 1) } []
          ((p.sequence scope).value :: pieces)).run (p.sequence scope).rest.advance.tokens := by
    have hrun := htraces.run rule [] pieces
    rw [List.append_nil] at hrun
    rw [hrun, (htraces.inside.advance hne).2.1, Reader.run_cons,
      Reader.step_of_endsAt hends, ← hvalue]
    rfl
  refine ⟨?_, ?_⟩
  · rw [hstep, hrest.finish, List.reverse_cons, List.append_assoc]
    rfl
  · have herrors := htraces.errors
    rw [List.map_nil, List.append_nil] at herrors
    rw [hstep, hrest.errors, ← herrors]
    rfl

/-- Arguments with commas between them are the pieces of the text from there on. -/
private theorem completes_commaArgs (h : p.In text)
    (hrule : ∀ k, pieces.length < k → rule.scope k = .commandArgument [.comma]) :
    Completes text p (.mk rule { scope := .commandArgument [.comma] } [] pieces) p.commaArgs.1
      p.commaArgs.2 := by
  fun_induction commaArgs p generalizing pieces with
  | case1 p arg hcomma more =>
    rename_i ih
    have hne : arg.rest.kind ≠ .eof := by rw [hcomma]; simp
    refine completes_next h hne ?_
    rw [hrule _ (Nat.lt_succ_self _)]
    exact ih (in_advance_sequence h hne) fun k hk => hrule k (Nat.lt_of_succ_lt hk)
  | case2 p arg =>
    rename_i hcomma
    exact completes_last h fun hmem => hcomma (List.mem_singleton.mp hmem)

private theorem commaArgs_ne_nil (p : Parser) : p.commaArgs.1 ≠ [] := by
  rw [commaArgs]
  split <;> exact List.cons_ne_nil _ _

/-- Commands with semicolons between them are the pieces of the text from there on. -/
private theorem completes_commandList (h : p.In text) (pieces : List Argument) :
    ∃ args, Completes text p (.mk .commandList { scope := .command [.semicolon] } [] pieces) args
        p.commandList.2 ∧
      p.commandList.1 = (args.map (commandSpan text)).filter fun span => !span.isEmpty := by
  -- A command that is blank is left out by both.
  have hkept (p : Parser) (h : p.In text) :
      (if (p.command [.semicolon]).value.isEmpty then [] else [(p.command [.semicolon]).value])
        = ([(p.sequence (.command [.semicolon])).value].map (commandSpan text)).filter
            fun span => !span.isEmpty := by
    have hvalue : (p.command [.semicolon]).value
        = commandSpan text (p.sequence (.command [.semicolon])).value := by
      rw [command, h.input]
    rw [hvalue, List.map_singleton, List.filter_singleton]
    split <;> simp_all
  fun_induction commandList p generalizing pieces with
  | case1 p command kept hsemicolon more =>
    rename_i ih
    have hne : command.rest.kind ≠ .eof := by rw [hsemicolon]; simp
    obtain ⟨args, hargs, hlist⟩ := ih (in_advance_sequence h hne)
      ((p.sequence (.command [.semicolon])).value :: pieces)
    refine ⟨_, completes_next h hne hargs, ?_⟩
    show kept ++ more.1 = _
    rw [show kept = _ from hkept p h, show more.1 = _ from hlist, List.map_cons,
      ← List.filter_append]
    rfl
  | case2 p command kept hsemicolon =>
    exact ⟨_, completes_last h fun hmem => hsemicolon (List.mem_singleton.mp hmem), hkept p h⟩

end Pieces

/-! ### Whole texts -/

/-- A reader that completes a text gives the tree of its pieces, with the errors of the parser. -/
private theorem Completes.read {rule : Rule} {args : List Argument}
    (h : Completes text (.ofChars text) (.initial rule) args q) :
    Reader.read rule text = ⟨.ofPieces text rule args, q.errors⟩ := by
  rw [Reader.read, ← (in_ofChars text).2, h.finish, h.errors]
  rfl

/-- Behind an equals sign there may be arguments with commas between them. -/
private theorem parse_eqSplitArgs (text : List Char) :
    parse .eqSplitArgs text = Reader.read .eqSplitArgs text := by
  have hin := (in_ofChars text).1
  by_cases hequals : ((ofChars text).sequence (.commandArgument [.equals])).rest.kind = .equals
  · have hne := ne_of_eq_of_ne hequals (show TokenKind.equals ≠ .eof by simp)
    have hscope : ∀ k, 0 < k → Rule.scope .eqSplitArgs k = .commandArgument [.comma] := by
      intro k hk
      obtain ⟨k, rfl⟩ := Nat.exists_eq_add_of_lt hk
      rw [Nat.zero_add]
      rfl
    have hboth : Completes text (ofChars text) (.initial .eqSplitArgs) _ _ :=
      completes_next hin hne (completes_commaArgs (in_advance_sequence hin hne)
        fun k hk => hscope k (Nat.zero_lt_of_lt hk))
    rw [hboth.read]
    simp only [parse, Parser.tree, if_pos hequals, Rule.scope]
    -- There is at least one argument, and so the pieces tell that there was an equals sign.
    obtain ⟨arg, args, hcons⟩ := List.exists_cons_of_ne_nil (commaArgs_ne_nil _)
    rw [hcons]
    rfl
  · rw [(completes_last hin fun hmem => hequals (List.mem_singleton.mp hmem)).read]
    simp only [parse, Parser.tree, if_neg hequals]
    rfl

/-- Behind an equals sign there may be one argument. -/
private theorem parse_eqSplitCommand (text : List Char) :
    parse .eqSplitCommand text = Reader.read .eqSplitCommand text := by
  have hin := (in_ofChars text).1
  by_cases hequals : ((ofChars text).sequence (.commandArgument [.equals])).rest.kind = .equals
  · have hne := ne_of_eq_of_ne hequals (show TokenKind.equals ≠ .eof by simp)
    have hboth : Completes text (ofChars text) (.initial .eqSplitCommand) _ _ :=
      completes_next hin hne (completes_last (in_advance_sequence hin hne) List.not_mem_nil)
    rw [hboth.read]
    simp only [parse, Parser.tree, if_pos hequals]
    rfl
  · rw [(completes_last hin fun hmem => hequals (List.mem_singleton.mp hmem)).read]
    simp only [parse, Parser.tree, if_neg hequals]
    rfl

end Parser

/-- **The parser reads what the reader with a stack reads:** the same tree, with the same errors in
    the same order. -/
theorem parse_eq_read (rule : Rule) (text : List Char) :
    parse rule text = Reader.read rule text := by
  have hin := (Parser.in_ofChars text).1
  cases rule with
  | function | singleCommand =>
    rw [(Parser.completes_last hin List.not_mem_nil).read]
    rfl
  | commandList =>
    obtain ⟨args, hargs, hlist⟩ := Parser.completes_commandList hin []
    rw [Parser.Completes.read hargs, Tree.ofPieces, ← hlist]
    rfl
  | commaArgs =>
    rw [Parser.Completes.read (Parser.completes_commaArgs hin fun k _ => rfl)]
    rfl
  | eqSplitArgs => exact Parser.parse_eqSplitArgs text
  | eqSplitCommand => exact Parser.parse_eqSplitCommand text

end Softcode
