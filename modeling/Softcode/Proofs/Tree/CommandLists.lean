import Softcode.Proofs.Token.Locality
import Softcode.Proofs.Tree.Accounting

namespace Softcode

/-!
# Lists of commands, one behind the other

A semicolon outside of all brackets separates commands, and nothing of what stands before it can be
seen behind it.  So the commands of two texts with a semicolon between them are those of the one and
then those of the other.

The reader at the beginning of the second text and a reader that knows only the second text are in
states that differ by an offset and by the commands that have been read before.  Commands have spans
and no trees, so of the nodes only those that are text matter.

* `Reader.Shifted` — one reader is where the other one is, further on in the text;
* `Reader.Shifted.step` — they stay so;
* `Reader.step_semicolon` — a semicolon ends a command as the end of the text would;
* `commands_append` — hence commands are read one list after the other.
-/

/-! ### Plain parentheses -/

/-- Plain parentheses are counted only where they protect what is between them. -/
def Draft.Flat (d : Draft) : Prop := d.scope.nestsParens = false → d.parens = 0

/-- No sequence that is being read, or that will go on, counts parentheses without need. -/
structure Reader.Flat (r : Reader) : Prop where
  draft : r.draft.Flat
  enclosing : ∀ c ∈ r.enclosing, c.outer.Flat

theorem Draft.Flat.addText {d : Draft} (h : d.Flat) (span : Span) : (d.addText span).Flat := by
  intro hscope
  rw [Draft.scope_addText] at hscope
  rw [Draft.parens_addText]
  exact h hscope

namespace Reader.Flat

variable {r : Reader}

/-- A sequence may be replaced by one that counts no parentheses without need. -/
theorem setDraft (h : r.Flat) {d : Draft} (hd : d.Flat) : ({ r with draft := d } : Reader).Flat :=
  ⟨hd, h.enclosing⟩

/-- What has just been opened counts none. -/
theorem push (h : r.Flat) (opener : Opener) (scope : Scope) : (r.push opener scope).Flat := by
  refine ⟨fun _ => rfl, ?_⟩
  intro c hc
  rcases List.mem_cons.mp hc with rfl | hc
  · exact h.draft
  · exact h.enclosing c hc

/-- The end of a sequence leaves the counts of the others. -/
theorem stopAt (h : r.Flat) (t : Token) : (r.stopAt t).Flat := by
  obtain ⟨rule, draft, enclosing, pieces⟩ := r
  cases enclosing with
  | nil => exact ⟨fun _ => rfl, by simp [Reader.stopAt]⟩
  | cons c enclosing =>
    obtain ⟨houter, hrest⟩ := List.forall_mem_cons.mp h.enclosing
    unfold Reader.stopAt
    dsimp only
    split
    · exact ⟨fun _ => rfl, List.forall_mem_cons.mpr ⟨houter, hrest⟩⟩
    · exact ⟨houter, hrest⟩

/-- Parentheses are counted only where they protect something. -/
theorem accept (h : r.Flat) (t : Token) : (r.accept t).Flat := by
  have hdraft := h.draft
  -- Parentheses are counted only in scopes where they nest.
  have hopen : Draft.Flat { r.draft with
      parens := if r.draft.scope.nestsParens then r.draft.parens + 1 else r.draft.parens } := by
    intro hscope
    have hscope' : r.draft.scope.nestsParens = false := hscope
    simp only [hscope', Bool.false_eq_true, if_false]
    exact hdraft hscope'
  have hclose : Draft.Flat { r.draft with parens := r.draft.parens - 1 } := by
    intro hscope
    show r.draft.parens - 1 = 0
    rw [hdraft hscope]
  unfold Reader.accept
  dsimp only
  split
  · split
    · exact h.push _ _
    · exact h.setDraft (hopen.addText _)
  · exact h.setDraft (hopen.addText _)
  · exact h.setDraft (hclose.addText _)
  · exact h.push _ _
  · exact h.push _ _
  · exact h.setDraft hdraft
  · split
    · exact h.setDraft hdraft
    · exact h
  · exact h.setDraft (hdraft.addText _)

/-- So each token keeps the counts as they should be. -/
theorem step (h : r.Flat) (t : Token) : (r.step t).Flat := by
  unfold Reader.step
  split
  · exact h
  have hbegun : Reader.Flat { r with draft.start := some (r.draft.start.getD t.span.start) } :=
    ⟨h.draft, h.enclosing⟩
  dsimp only
  split
  · exact hbegun.stopAt t
  · exact hbegun.accept t

theorem run (h : r.Flat) (tokens : List Token) : (r.run tokens).Flat := by
  induction tokens generalizing r with
  | nil => exact h
  | cons t tokens ih => exact ih (h.step t)

end Reader.Flat

/-! ### Readers that differ by an offset -/

/-- The span of a node that is text. -/
def Node.textSpan? : Node → Option Span
  | .text span => some span
  | _ => none

/-- The second node is the first one, further on by `k`, if that is text, and no text else. -/
def Node.Shifted (k : Nat) (a b : Node) : Prop := b.textSpan? = a.textSpan?.map (Span.shift k)

/-- The second argument is the first one, further on by `k`, as far as commands are concerned. -/
structure NodeList.Shifted (k : Nat) (a b : Argument) : Prop where
  span : b.span = a.span.shift k
  nodes : List.Forall₂ (Node.Shifted k) a.nodes b.nodes

/-- The second sequence is the first one, further on by `k`, as far as commands are concerned. -/
structure Draft.Shifted (k : Nat) (d e : Draft) : Prop where
  scope : e.scope = d.scope
  start : e.start = d.start.map (· + k)
  nodes : List.Forall₂ (Node.Shifted k) d.nodes e.nodes
  parens : e.parens = d.parens

namespace Draft.Shifted

variable {k : Nat} {d e : Draft}

/-- A node is added to both. -/
theorem add (h : d.Shifted k e) {a b : Node} (hab : a.Shifted k b) :
    (d.add a).Shifted k (e.add b) :=
  ⟨h.scope, h.start, .cons hab h.nodes, h.parens⟩

/-- Text is added to both, or continued in both. -/
theorem addText (h : d.Shifted k e) (span : Span) :
    (d.addText span).Shifted k (e.addText (span.shift k)) := by
  have hadd : (d.add (.text span)).Shifted k (e.add (.text (span.shift k))) := h.add rfl
  obtain ⟨scope, start, nodes, parens⟩ := d
  obtain ⟨scope', start', nodes', parens'⟩ := e
  have hnodes := h.nodes
  dsimp only at hnodes
  cases hnodes with
  | nil => exact hadd
  | @cons a b as bs hab hrest =>
    cases a with
    | text last =>
      cases b with
      | text last' =>
        obtain rfl : last' = last.shift k := Option.some.inj hab
        simp only [Draft.addText, pushText]
        -- Text that adjoins the last piece is put into it, in both or in neither.
        by_cases hnext : last.stop = span.start
        · have hnext' : (last.shift k).stop = (span.shift k).start := congrArg (· + k) hnext
          rw [if_pos hnext, if_pos hnext']
          exact ⟨h.scope, h.start, .cons rfl hrest, h.parens⟩
        · have hnext' : (last.shift k).stop ≠ (span.shift k).start := by
            intro heq
            exact hnext (Nat.add_right_cancel heq)
          rw [if_neg hnext, if_neg hnext']
          exact hadd
      | escape | substitution | call | bracket | brace => cases hab
    | escape | substitution | call | bracket | brace =>
      cases b with
      | text last' => cases hab
      | escape | substitution | call | bracket | brace => exact hadd

theorem finish (h : d.Shifted k e) (stop : Nat) :
    (d.finish stop).Shifted k (e.finish (stop + k)) := by
  refine ⟨?_, List.rel_reverse h.nodes⟩
  simp only [Draft.finish, Span.shift, h.start]
  cases d.start <;> rfl

end Draft.Shifted

/-- The second reader is where the first one is, further on by `k`, after the pieces `below`. -/
structure Reader.Shifted (k : Nat) (below : List Argument) (r q : Reader) : Prop where
  rule : r.rule = .commandList
  rule' : q.rule = .commandList
  draft : r.draft.Shifted k q.draft
  enclosing : List.Forall₂ (fun c e => c.outer.Shifted k e.outer) r.enclosing q.enclosing
  pieces : ∃ own, q.pieces = own ++ below ∧ List.Forall₂ (NodeList.Shifted k) r.pieces own

/-- The node of a construct is no text, wherever the construct ends. -/
private theorem OpenConstruct.node_shifted (k : Nat) (c e : OpenConstruct) (body body' : Argument)
    (stop stop' : Nat) :
    (Reader.OpenConstruct.node c body stop).Shifted k
      (Reader.OpenConstruct.node e body' stop') := by
  unfold Reader.OpenConstruct.node
  cases c.opener <;> cases e.opener <;> rfl

namespace Reader.Shifted

variable {k : Nat} {below : List Argument} {r q : Reader}

/-- The sequences may be replaced by others that differ in the same way. -/
theorem setDraft (h : r.Shifted k below q) {d e : Draft} (hd : d.Shifted k e) :
    ({ r with draft := d } : Reader).Shifted k below { q with draft := e } :=
  ⟨h.rule, h.rule', hd, h.enclosing, h.pieces⟩

theorem push (h : r.Shifted k below q) (opener opener' : Opener) (scope : Scope) :
    (r.push opener scope).Shifted k below (q.push opener' scope) :=
  ⟨h.rule, h.rule', ⟨rfl, rfl, .nil, rfl⟩, .cons h.draft h.enclosing, h.pieces⟩

/-- A sequence ends for both. -/
theorem stopAt (h : r.Shifted k below q) (t : Token) :
    (r.stopAt t).Shifted k below (q.stopAt (t.shift k)) := by
  have hbody := h.draft.finish t.span.start
  obtain ⟨hrule, hrule', -, henclosing, own, hpieces, hown⟩ := h
  obtain ⟨_, draft, enclosing, pieces⟩ := r
  obtain ⟨_, draft', enclosing', pieces'⟩ := q
  dsimp only at hrule hrule' henclosing hpieces hown hbody
  subst hrule hrule' hpieces
  cases henclosing with
  | nil =>
    -- The end of a command.
    exact ⟨rfl, rfl, ⟨rfl, rfl, .nil, rfl⟩, .nil, _ :: own, rfl, .cons hbody hown⟩
  | @cons c e cs es houter hrest =>
    have hkind : (t.shift k).kind = t.kind := rfl
    by_cases hcomma : t.kind = .comma
    · simp only [Reader.stopAt, hkind, hcomma, if_true]
      exact ⟨rfl, rfl, ⟨rfl, rfl, .nil, rfl⟩, .cons houter hrest, own, rfl, hown⟩
    · simp only [Reader.stopAt, hkind, hcomma, if_false]
      exact ⟨rfl, rfl, houter.add (OpenConstruct.node_shifted ..), hrest, own, rfl, hown⟩

/-- Both add what the token stands for, or open something behind it. -/
theorem accept (h : r.Shifted k below q) (t : Token) :
    (r.accept t).Shifted k below (q.accept (t.shift k)) := by
  have hdraft := h.draft
  have htext {parens parens' : Nat} (hparens : parens' = parens) (span : Span) :
      Reader.Shifted k below { r with draft := { r.draft with parens }.addText span }
        { q with draft := { q.draft with parens := parens' }.addText (span.shift k) } := by
    have hcounted : Draft.Shifted k { r.draft with parens } { q.draft with parens := parens' } :=
      ⟨hdraft.scope, hdraft.start, hdraft.nodes, hparens⟩
    exact h.setDraft (hcounted.addText span)
  have hopen : (if q.draft.scope.nestsParens then q.draft.parens + 1 else q.draft.parens)
      = if r.draft.scope.nestsParens then r.draft.parens + 1 else r.draft.parens := by
    rw [hdraft.scope, hdraft.parens]
  obtain ⟨kind, chars, span, sub⟩ := t
  cases kind with
  | functionHead =>
    have hempty : q.draft.nodes.isEmpty = r.draft.nodes.isEmpty := by
      rw [Bool.eq_iff_iff, List.isEmpty_iff_length_eq_zero, List.isEmpty_iff_length_eq_zero,
        hdraft.nodes.length_eq]
    -- Whether a head opens a call depends on what has been read, not on where it stands.
    have hcalls : (q.draft.nodes.isEmpty && q.draft.scope.calls)
        = (r.draft.nodes.isEmpty && r.draft.scope.calls) := by rw [hempty, hdraft.scope]
    by_cases hcall : (r.draft.nodes.isEmpty && r.draft.scope.calls) = true
    · simp only [Reader.accept, Token.shift, if_pos hcall, if_pos (hcalls.trans hcall)]
      exact h.push _ _ _
    · rw [← hcalls] at hcall
      simp only [Reader.accept, Token.shift, if_neg hcall, if_neg (hcalls ▸ hcall)]
      exact htext hopen span
  | openParen => exact htext hopen span
  | closeParen => exact htext (congrArg (· - 1) hdraft.parens) span
  | openBracket | openBrace => exact h.push _ _ _
  | escape => exact h.setDraft (hdraft.add rfl)
  | substitution =>
    cases sub with
    | some sub => exact h.setDraft (hdraft.add rfl)
    | none => exact h
  | closeBracket | closeBrace | comma | equals | semicolon | whitespace | number | text | eof =>
    exact htext hdraft.parens span

/-- **A token moves both readers alike.** -/
theorem step (h : r.Shifted k below q) (t : Token) :
    (r.step t).Shifted k below (q.step (t.shift k)) := by
  have hstart : q.draft.start.isNone = r.draft.start.isNone := by
    rw [h.draft.start, Option.isNone_map]
  have hbegun : Reader.Shifted k below
      { r with draft.start := some (r.draft.start.getD t.span.start) }
      { q with draft.start := some (q.draft.start.getD (t.span.start + k)) } := by
    refine h.setDraft ⟨h.draft.scope, ?_, h.draft.nodes, h.draft.parens⟩
    simp only [h.draft.start]
    cases r.draft.start <;> rfl
  -- Both skip the same blanks and stop at the same tokens.
  have hskips :
      (q.draft.start.isNone && q.draft.scope.skipsBlanks && (t.shift k).kind = .whitespace)
      = (r.draft.start.isNone && r.draft.scope.skipsBlanks && t.kind = .whitespace) := by
    rw [hstart, h.draft.scope]
    rfl
  have hstops : (q.draft.parens = 0 && q.draft.scope.stops.contains (t.shift k).kind)
      = (r.draft.parens = 0 && r.draft.scope.stops.contains t.kind) := by
    rw [h.draft.parens, h.draft.scope]
    rfl
  unfold Reader.step
  by_cases hskip :
      (r.draft.start.isNone && r.draft.scope.skipsBlanks && t.kind = .whitespace) = true
  · rw [if_pos hskip, if_pos (hskips.trans hskip)]
    exact h
  rw [if_neg hskip, if_neg fun hskip' => hskip (hskips.symm.trans hskip')]
  dsimp only
  by_cases hstop : (r.draft.parens = 0 && r.draft.scope.stops.contains t.kind) = true
  · rw [if_pos hstop, if_pos (hstops.trans hstop)]
    exact hbegun.stopAt t
  · rw [if_neg hstop, if_neg fun hstop' => hstop (hstops.symm.trans hstop')]
    exact hbegun.accept t

theorem run (h : r.Shifted k below q) (tokens : List Token) :
    (r.run tokens).Shifted k below (q.run (tokens.map (Token.shift k))) := by
  induction tokens generalizing r q with
  | nil => exact h
  | cons t tokens ih => exact ih (h.step t)

/-- What is open at the end is closed alike. -/
theorem close {d e : Draft} {cs es : List OpenConstruct} (hd : d.Shifted k e)
    (hcs : List.Forall₂ (fun c e => c.outer.Shifted k e.outer) cs es) (stop : Nat) :
    (Reader.close stop d cs).Shifted k (Reader.close (stop + k) e es) := by
  induction hcs generalizing d e with
  | nil => exact hd.finish stop
  | cons houter _ ih => exact ih (houter.add (OpenConstruct.node_shifted ..))

/-- The pieces that the second reader ends up with are those it had before and those of the first
    one. -/
theorem finish (h : r.Shifted k below q) (stop : Nat) :
    ∃ own, q.finish (stop + k) = below.reverse ++ own ∧
      List.Forall₂ (NodeList.Shifted k) (r.finish stop) own := by
  obtain ⟨own, hpieces, hown⟩ := h.pieces
  refine ⟨(Reader.close (stop + k) q.draft q.enclosing :: own).reverse, ?_, ?_⟩
  · rw [Reader.finish, hpieces, ← List.cons_append, List.reverse_append]
  · exact List.rel_reverse (.cons (close h.draft h.enclosing stop) hown)

end Reader.Shifted

/-! ### The span of a command -/

/-- A span that lies in a text is not changed by what stands behind the text. -/
private theorem Span.of_append {span : Span} {text : List Char} (h : span.start ≤ span.stop)
    (hstop : span.stop ≤ text.length) (rest : List Char) :
    span.of (text ++ rest) = span.of text := by
  unfold Span.of Span.length
  rw [List.drop_append_of_le_length (by omega), List.take_append_of_le_length]
  rw [List.length_drop]
  omega

/-- What stands before a text moves its spans. -/
private theorem Span.of_shift (span : Span) (before text : List Char) :
    (span.shift before.length).of (before ++ text) = span.of text := by
  have hlength : (span.shift before.length).length = span.length := Nat.add_sub_add_right _ _ _
  unfold Span.of
  rw [hlength]
  show ((before ++ text).drop (span.start + before.length)).take _ = _
  rw [Nat.add_comm, ← List.drop_drop, List.drop_left]

/-- Nothing is nothing wherever it is. -/
private theorem Span.isEmpty_shift (k : Nat) (span : Span) :
    (span.shift k).isEmpty = span.isEmpty := by
  simp only [Span.isEmpty, Span.shift, Nat.add_le_add_iff_right]

/-- The text that an argument ends with. -/
def NodeList.lastText? (a : Argument) : Option Span := a.nodes.getLast?.bind Node.textSpan?

section

variable {text : List Char} {whole : Bool} {a b : Argument}

/-- The text that an argument ends with is its last node. -/
theorem NodeList.lastText?_eq_some {last : Span} (h : a.lastText? = some last) :
    a.nodes.getLast? = some (.text last) := by
  obtain ⟨node, hlast, hnode⟩ := Option.bind_eq_some_iff.mp h
  cases node with
  | text span =>
    obtain rfl := Option.some.inj hnode
    exact hlast
  | escape | substitution | call | bracket | brace => cases hnode

/-- Only the text that an argument ends with can have blanks at its end. -/
theorem commandSpan_eq (text : List Char) (a : Argument) :
    commandSpan text a = a.lastText?.elim a.span fun last =>
      ⟨a.span.start, a.span.stop - ((last.of text).reverse.takeWhile Text.isBlank).length⟩ := by
  cases hlast : a.lastText? with
  | some last => rw [commandSpan, NodeList.lastText?_eq_some hlast]; rfl
  | none =>
    unfold commandSpan
    split
    · rename_i last hnode
      rw [NodeList.lastText?, hnode] at hlast
      cases hlast
    · rfl

/-- Text at the end of an argument ends where the argument does. -/
private theorem NodeList.stop_lastText (h : a.Accounted text whole) {last : Span}
    (hlast : a.lastText? = some last) :
    last.start ≤ last.stop ∧ last.stop = a.span.stop ∧ last.stop ≤ text.length := by
  obtain ⟨nodes, hnodes⟩ := List.getLast?_eq_some_iff.mp (NodeList.lastText?_eq_some hlast)
  obtain ⟨htiles, hstop⟩ := h
  rw [hnodes] at htiles
  obtain ⟨-, hpiece, hend, -⟩ := htiles.of_concat
  have hlt : last.start < last.stop := hpiece
  have heq : last.stop = a.span.stop := hend
  omega

/-- Both end with the same text, further on. -/
theorem NodeList.Shifted.lastText? {k : Nat} (h : NodeList.Shifted k a b) :
    b.lastText? = a.lastText?.map (Span.shift k) := by
  have hnodes := List.rel_reverse h.nodes
  unfold NodeList.lastText?
  rw [List.getLast?_eq_head?_reverse, List.getLast?_eq_head?_reverse]
  generalize a.nodes.reverse = as, b.nodes.reverse = bs at hnodes
  cases hnodes with
  | nil => rfl
  | cons hnode _ => exact hnode

/-- What follows the text does not change the span of a command. -/
private theorem commandSpan_append (h : a.Accounted text whole) (rest : List Char) :
    commandSpan (text ++ rest) a = commandSpan text a := by
  rw [commandSpan_eq, commandSpan_eq]
  cases hlast : a.lastText? with
  | none => rfl
  | some last =>
    obtain ⟨hle, -, hstop⟩ := NodeList.stop_lastText h hlast
    simp only [Option.elim_some, Span.of_append hle hstop]

/-- What stands before the text moves the span of a command. -/
private theorem commandSpan_shifted (h : a.Accounted text whole) {before : List Char}
    (hab : NodeList.Shifted before.length a b) :
    commandSpan (before ++ text) b = (commandSpan text a).shift before.length := by
  rw [commandSpan_eq, commandSpan_eq, hab.lastText?]
  cases hlast : a.lastText? with
  | none => exact hab.span
  | some last =>
    obtain ⟨-, hstop, -⟩ := NodeList.stop_lastText h hlast
    -- The blanks at the end are no more than the text at the end.
    have hblanks : ((last.of text).reverse.takeWhile Text.isBlank).length ≤ a.span.stop := by
      have hrun : ((last.of text).reverse.takeWhile Text.isBlank).length
          ≤ (last.of text).reverse.length := (List.takeWhile_prefix _).length_le
      have hlength : (last.of text).length ≤ last.length := List.length_take_le _ _
      rw [List.length_reverse] at hrun
      rw [Span.length] at hlength
      omega
    simp only [Option.map_some, Option.elim_some, Span.of_shift]
    simp only [hab.span, Span.shift, Span.mk.injEq, true_and]
    omega

/-- The commands are further on with their arguments. -/
private theorem map_commandSpan_shifted {as bs : List Argument}
    (has : ∀ a ∈ as, a.Accounted text whole) {before : List Char}
    (h : List.Forall₂ (NodeList.Shifted before.length) as bs) :
    bs.map (commandSpan (before ++ text))
      = (as.map (commandSpan text)).map (Span.shift before.length) := by
  induction h with
  | nil => rfl
  | cons hab _ ih =>
    obtain ⟨ha, hrest⟩ := List.forall_mem_cons.mp has
    rw [List.map_cons, List.map_cons, List.map_cons, ih hrest, commandSpan_shifted ha hab]

end

/-! ### Commands -/

/-- The reader when it has read a list of commands. -/
def Reader.afterCommands (text : List Char) : Reader :=
  (Reader.initial .commandList).run (Token.scanFrom 0 text)

/-- The pieces that a list of commands consists of. -/
def commandPieces (text : List Char) : List Argument :=
  (Reader.afterCommands text).finish text.length

/-- The commands of a list. -/
def Tree.commands : Tree → List Span
  | .commandList spans => spans
  | _ => []

/-- The commands of a text. -/
def commands (text : List Char) : List Span := (parse .commandList text).tree.commands

/-- The commands of a text are the pieces of it that are not blank. -/
theorem tree_commandList (text : List Char) : (parse .commandList text).tree
    = .commandList
      (((commandPieces text).map (commandSpan text)).filter fun span => !span.isEmpty) := by
  rw [parse_eq_read]
  rfl

private theorem commands_eq (text : List Char) : commands text
    = ((commandPieces text).map (commandSpan text)).filter fun span => !span.isEmpty := by
  rw [commands, tree_commandList]
  rfl

/-- All characters are accounted for by then. -/
theorem Reader.upTo_afterCommands (text : List Char) :
    (afterCommands text).UpTo text false .commandList text.length :=
  Reader.upTo_run text false .commandList

/-- The pieces account for their characters. -/
theorem accounted_commandPieces (text : List Char) :
    ∀ a ∈ commandPieces text, a.Accounted text false := by
  obtain ⟨-, hpieces, hencloses, hdraft⟩ := Reader.upTo_afterCommands text
  obtain ⟨hspan, hnodes⟩ := Reader.close_accounted hencloses hdraft fun _ => rfl
  intro a ha
  rw [commandPieces, Reader.finish, List.reverse_cons, List.mem_append, List.mem_singleton] at ha
  rcases ha with ha | rfl
  · exact hpieces.accounted a ha
  · exact ⟨hnodes, by rw [hspan]⟩

/-- All is well-formed if nothing is left open. -/
private theorem isOk_iff_afterCommands (text : List Char) :
    (parse .commandList text).isOk ↔ (Reader.afterCommands text).enclosing = [] := by
  rw [parse_eq_read, Parse.isOk, List.isEmpty_iff]
  exact List.map_eq_nil_iff

/-- **A semicolon ends a command as the end of the text would,** and a new command begins. -/
theorem Reader.step_semicolon {r : Reader} (hrule : r.rule = .commandList)
    (hscope : r.draft.scope = .command [.semicolon]) (hflat : r.Flat) (hopen : r.enclosing = [])
    (n : Nat) :
    r.step (.sign .semicolon ';' n)
      = { Reader.initial .commandList with pieces := (r.finish n).reverse } := by
  obtain ⟨_, draft, enclosing, pieces⟩ := r
  dsimp only at hrule hscope hopen
  subst hrule hopen
  have hparens : draft.parens = 0 := hflat.draft (by rw [hscope]; rfl)
  have hskip : ¬ (draft.start.isNone && draft.scope.skipsBlanks
      && (Token.sign .semicolon ';' n).kind = .whitespace) = true := by simp [Token.sign]
  -- The semicolon is not in parentheses, and commands stop at it.
  have hstop : (draft.parens = 0 && draft.scope.stops.contains (Token.sign .semicolon ';' n).kind)
      = true := by
    rw [hparens, hscope]
    rfl
  rw [Reader.step, if_neg hskip]
  dsimp only
  rw [if_pos hstop, Reader.finish, List.reverse_reverse]
  rfl

/-- Outside of all brackets a command is read. -/
private theorem Reader.scope_afterCommands {text : List Char}
    (hopen : (afterCommands text).enclosing = []) :
    (afterCommands text).rule = .commandList ∧
      (afterCommands text).draft.scope = .command [.semicolon] := by
  obtain ⟨hrule, -, hencloses, -⟩ := Reader.upTo_afterCommands text
  refine ⟨hrule, ?_⟩
  generalize (afterCommands text).draft.scope = scope at hencloses ⊢
  rw [hopen] at hencloses
  cases hencloses
  rfl

/-- **Behind a semicolon the reader is where it would be in the second text alone,** if the first
    text leaves nothing open. -/
theorem Reader.shifted_afterCommands {t₁ : List Char} (hplain : ∀ c ∈ t₁, c ≠ '\\' ∧ c ≠ '%')
    (hopen : (afterCommands t₁).enclosing = []) (t₂ : List Char) :
    Reader.Shifted (t₁.length + 1) (commandPieces t₁).reverse
      (afterCommands t₂) (afterCommands (t₁ ++ ';' :: t₂)) := by
  have hends : TokenKind.semicolon.Ends ';' := ⟨rfl, by decide⟩
  -- The semicolon is a token in every context, so the tokens behind it are those of the second
  -- text.
  have htokens : Token.scanFrom 0 (t₁ ++ ';' :: t₂)
      = Token.scanFrom 0 t₁ ++ Token.sign .semicolon ';' t₁.length
          :: (Token.scanFrom 0 t₂).map (Token.shift (t₁.length + 1)) := by
    rw [Token.scanFrom_append hends 0 hplain, ← Token.scanFrom_add, Nat.zero_add, Nat.zero_add]
  have hflat : (afterCommands t₁).Flat :=
    Reader.Flat.run ⟨fun _ => rfl, by simp [Reader.initial]⟩ _
  obtain ⟨hrule, hscope⟩ := scope_afterCommands hopen
  have hsemicolon := Reader.step_semicolon hrule hscope hflat hopen t₁.length
  -- Behind the semicolon the reader begins anew, with the pieces so far below.
  have hstart : Reader.Shifted (t₁.length + 1) (commandPieces t₁).reverse
      (.initial .commandList) ((afterCommands t₁).step (.sign .semicolon ';' t₁.length)) := by
    rw [hsemicolon]
    exact ⟨rfl, rfl, ⟨rfl, rfl, .nil, rfl⟩, .nil, [], rfl, .nil⟩
  have hrun : afterCommands (t₁ ++ ';' :: t₂)
      = ((afterCommands t₁).step (.sign .semicolon ';' t₁.length)).run
          ((Token.scanFrom 0 t₂).map (Token.shift (t₁.length + 1))) := by
    rw [afterCommands, htokens, Reader.run, List.foldl_append, List.foldl_cons]
    rfl
  rw [hrun]
  exact hstart.run (Token.scanFrom 0 t₂)

/-- **Lists of commands are read one after the other.**  Let a text without backslashes and percent
    signs leave nothing open.  With a semicolon and another text behind it, its commands are
    followed by those of the other text, further on by what stands before them; and all is
    well-formed if the other text is, and only then. -/
theorem commands_append (t₁ t₂ : List Char) (hplain : ∀ c ∈ t₁, c ≠ '\\' ∧ c ≠ '%')
    (hok : (parse .commandList t₁).isOk) :
    (parse .commandList (t₁ ++ ';' :: t₂)).tree
        = .commandList (commands t₁ ++ (commands t₂).map (Span.shift (t₁.length + 1))) ∧
      ((parse .commandList (t₁ ++ ';' :: t₂)).isOk ↔ (parse .commandList t₂).isOk) := by
  have hopen := (isOk_iff_afterCommands t₁).mp hok
  have hshifted := Reader.shifted_afterCommands hplain hopen t₂
  constructor
  · obtain ⟨own, hfinish, hown⟩ := hshifted.finish t₂.length
    have hpieces : commandPieces (t₁ ++ ';' :: t₂) = commandPieces t₁ ++ own := by
      have hlength : (t₁ ++ ';' :: t₂).length = t₂.length + (t₁.length + 1) := by
        rw [List.length_append, List.length_cons]
        omega
      rw [commandPieces, hlength, hfinish, List.reverse_reverse]
    have hbefore : (commandPieces t₁).map (commandSpan (t₁ ++ ';' :: t₂))
        = (commandPieces t₁).map (commandSpan t₁) :=
      List.map_congr_left fun a ha =>
        commandSpan_append (accounted_commandPieces t₁ a ha) (';' :: t₂)
    -- Each command of the second text is further on, and so are its blanks.
    have hbehind : own.map (commandSpan (t₁ ++ ';' :: t₂))
        = ((commandPieces t₂).map (commandSpan t₂)).map (Span.shift (t₁.length + 1)) := by
      have htext : t₁ ++ ';' :: t₂ = (t₁ ++ [';']) ++ t₂ := by simp
      have hlength : t₁.length + 1 = (t₁ ++ [';']).length := by simp
      rw [hlength] at hown
      rw [htext, hlength]
      exact map_commandSpan_shifted (accounted_commandPieces t₂) hown
    have hfilter (spans : List Span) :
        (spans.map (Span.shift (t₁.length + 1))).filter (fun span => !span.isEmpty)
          = (spans.filter fun span => !span.isEmpty).map (Span.shift (t₁.length + 1)) := by
      rw [List.filter_map]
      congr 2
      funext span
      simp only [Function.comp_apply, Span.isEmpty_shift]
    rw [tree_commandList, hpieces, List.map_append, List.filter_append, hbefore, hbehind, hfilter,
      commands_eq, commands_eq]
  · rw [isOk_iff_afterCommands, isOk_iff_afterCommands, ← List.length_eq_zero_iff,
      ← List.length_eq_zero_iff, hshifted.enclosing.length_eq]

/-- Semicolons in brackets and braces separate nothing, and what the second text leaves open does
    not reach the first. -/
theorem brackets_commands_append :
    let t₁ := "a [b;c] ;\x7bd(;e\x7d".toList
    let t₂ := " f ; [;".toList
    (∀ c ∈ t₁, c ≠ '\\' ∧ c ≠ '%') ∧ (parse .commandList t₁).isOk ∧
      commands t₁ = [⟨0, 7⟩, ⟨9, 15⟩] ∧ commands t₂ = [⟨1, 2⟩, ⟨5, 7⟩] ∧
      (parse .commandList (t₁ ++ ';' :: t₂)).tree
        = .commandList [⟨0, 7⟩, ⟨9, 15⟩, ⟨17, 18⟩, ⟨21, 23⟩] ∧
      ¬ (parse .commandList (t₁ ++ ';' :: t₂)).isOk := by
  intro t₁ t₂
  have hplain : ∀ c ∈ t₁, c ≠ '\\' ∧ c ≠ '%' := by simp [t₁]
  have hok : (parse .commandList t₁).isOk := by decide +kernel
  have h₁ : commands t₁ = [⟨0, 7⟩, ⟨9, 15⟩] := by decide +kernel
  have h₂ : commands t₂ = [⟨1, 2⟩, ⟨5, 7⟩] := by decide +kernel
  have hopen : ¬ (parse .commandList t₂).isOk := by decide +kernel
  obtain ⟨htree, hiff⟩ := commands_append t₁ t₂ hplain hok
  rw [h₁, h₂] at htree
  exact ⟨hplain, hok, h₁, h₂, htree, fun h => hopen (hiff.mp h)⟩

end Softcode
