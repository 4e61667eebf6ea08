import Softcode.Highlight.Expression
import Softcode.Proofs.Highlight.Painting
import Softcode.Proofs.Tree.Accounting

namespace Softcode

/-!
# Expressions are painted by their trees

A tree accounts for every character of its text, so its highlights paint the whole text.  What is
closed is painted once.  What the text leaves open ends with the text, and there an open bracket
looks for the character that closes it before the end instead of behind it.  So if the last
character is a closing bracket that belongs to something else, it is shown twice.

* `Highlight.paints_bracket`, `Highlight.paints_brace`, `Highlight.paints_call` — painting what has
  delimiters;
* `Highlight.Painted.of_accounted` — hence everything that is closed is painted;
* `Highlight.paints_close` — and so is everything that is open at the end of the text.
-/

/-! ### Tiles and closing characters -/

section

variable {P Q : Node → Prop} {text : List Char} {i j k : Nat} {nodes : List Node}
  {args : List Argument}

/-- Tiles with a property have every weaker one. -/
theorem Tiles.imp (hPQ : ∀ node, P node → Q node) (h : Tiles P i nodes j) : Tiles Q i nodes j := by
  induction h with
  | nil i => exact .nil i
  | cons hnode hstart hpiece hnext hrest ih => exact .cons (hPQ _ hnode) hstart hpiece hnext ih

/-- What is closed, or left open, ends in the text. -/
private theorem Closes.le_length {whole : Bool} {c : Char} (h : Closes text whole c i j) :
    i ≤ text.length := by
  rcases h with ⟨hc, -⟩ | ⟨-, rfl, -⟩
  · exact Nat.le_of_lt (List.getElem?_eq_some_iff.mp hc).1
  · exact Nat.le_refl _

/-- What is closed ends with a character. -/
theorem Closes.lt_length {c : Char} (h : Closes text true c i j) : i < text.length := by
  rcases h with ⟨hc, -⟩ | ⟨hwhole, -⟩
  · exact (List.getElem?_eq_some_iff.mp hc).1
  · cases hwhole

/-- Arguments whose nodes have a property have every weaker one. -/
theorem Given.imp (hPQ : ∀ node, P node → Q node) (h : Given P text i args k) :
    Given Q text i args k := by
  induction h with
  | nil first => exact .nil first
  | concat hargs hstart hnodes hcomma ih => exact .concat ih hstart (hnodes.imp hPQ) hcomma

end

namespace Highlight

variable {text : List Char} {hs more : List Highlight} {whole : Bool}
  {i i' j j' k o start stop stop' : Nat}
  {clear clear' : Prop} {body : List Node} {span : Span} {args : List Argument} {last : Argument}

/-- Everything that is not blank is painted. -/
abbrev PaintsAll (text : List Char) : Prop → Nat → Nat → List Highlight → Prop :=
  Paints text fun _ => True

theorem paintsAll_ofSpan (hij : i ≤ j) (hj : j ≤ text.length) (cls : HighlightClass) :
    PaintsAll text True i j (ofSpan text ⟨i, j⟩ cls) :=
  paints_ofSpan hij hj (fun _ _ _ => trivial) cls

/-- What is painted twice is covered twice. -/
private theorem Paints.overlap (hfirst : PaintsAll text clear i j hs)
    (hsecond : PaintsAll text clear' i' j' more) (hi : i ≤ i') (hj : j' ≤ j) (hsolid : Solid text o)
    (ho : i' ≤ o ∧ o < j') :
    PaintsAll text False i j (hs ++ more) where
  le := hfirst.le
  within h hh := by
    rcases List.mem_append.mp hh with hh | hh
    · exact hfirst.within h hh
    · obtain ⟨span, hmarks, hstart, hstop⟩ := hsecond.within h hh
      exact ⟨span, hmarks, by omega, by omega⟩
  covered_iff o hlo hhi hsolid :=
    iff_of_true (covered_append.mpr (.inl ((hfirst.covered_iff o hlo hhi hsolid).mpr trivial)))
      trivial
  -- The character is covered by both.
  apart_iff := by
    refine iff_of_false (fun hapart => ?_) id
    obtain ⟨a, ha, hcovers⟩ := (hfirst.covered_iff o (by omega) (by omega) hsolid).mpr trivial
    obtain ⟨b, hb, hcovers'⟩ := (hsecond.covered_iff o ho.1 ho.2 hsolid).mpr trivial
    exact (List.pairwise_append.mp hapart).2.2 a ha b hb o hsolid.lt_length ⟨hcovers, hcovers'⟩

theorem not_solid_of_lt_afterBlanks (hi : i ≤ o) (ho : o < afterBlanks text i) : ¬ Solid text o :=
  not_solid_of_drop (List.takeWhile_append_dropWhile (p := Text.isBlank)).symm
    (fun _ hc => Text.mem_takeWhile hc) hi ho

/-! ### Sequences of nodes and of arguments -/

private theorem ofNodes_append (text : List Char) (nodes nodes' : List Node) :
    ofNodes text (nodes ++ nodes') = ofNodes text nodes ++ ofNodes text nodes' := by
  induction nodes with
  | nil => rfl
  | cons node nodes ih => rw [List.cons_append, ofNodes, ofNodes, ih, List.append_assoc]

/-- An argument is shown by its nodes. -/
private theorem ofArgument_eq (text : List Char) (a : Argument) :
    ofArgument text a = ofNodes text a.nodes := by
  obtain ⟨nodes, span⟩ := a
  rw [ofArgument]

/-- The highlights of arguments that are followed by a comma each. -/
def ofGiven (text : List Char) (args : List Argument) : List Highlight :=
  args.flatMap fun a => ofArgument text a ++ ofChar text a.span.stop ',' .operator

/-- The comma between two arguments belongs to the first one as well as to the second one. -/
private theorem ofArguments_concat (text : List Char) (before : Option Nat) (args : List Argument)
    (last : Argument) :
    ofArguments text before (args ++ [last]) =
      (before.elim [] fun stop => ofChar text stop ',' .operator) ++ ofGiven text args ++
        ofArgument text last := by
  induction args generalizing before with
  | nil => cases before <;> simp [ofArguments, ofGiven]
  | cons a args ih =>
    rw [List.cons_append]
    cases before <;> rw [ofArguments, ih, ofGiven, ofGiven, List.flatMap_cons] <;> simp

/-! ### Delimiters -/

/-- What closes something is painted, if it is there. -/
private theorem paints_closer {c : Char} (hclose : Closes text whole c stop stop')
    (cls : HighlightClass) :
    PaintsAll text True stop stop' (ofChar text stop c cls) := by
  rcases hclose with ⟨hc, rfl⟩ | ⟨-, rfl, rfl⟩
  · exact paints_ofChar hc trivial cls
  · rw [ofChar_length]
    exact .nil _

/-- A call is painted, if its arguments are. -/
theorem paints_call {name : String} (nameSpan : Span) (hname : nameSpan.start < nameSpan.stop)
    (hopen : text[nameSpan.stop]? = some '(')
    (hargs : PaintsAll text True (nameSpan.stop + 1) (k + 1) (ofGiven text args))
    (hstart : last.span.start = afterBlanks text (k + 1))
    (hlast : PaintsAll text clear last.span.start last.span.stop (ofNodes text last.nodes))
    (hclose : Closes text whole ')' last.span.stop stop) :
    PaintsAll text clear nameSpan.start stop
      (ofNode text (.call name nameSpan (args ++ [last]) span)) := by
  have hlength := (List.getElem?_eq_some_iff.mp hopen).1
  have hhead : PaintsAll text True nameSpan.start nameSpan.stop (ofSpan text nameSpan .function) :=
    paintsAll_ofSpan (Nat.le_of_lt hname) (Nat.le_of_lt hlength) _
  have hopened := hhead.append (paints_ofChar hopen trivial .operator)
  rw [hstart] at hlast
  have hrest :=
    hlast.blank_append (le_afterBlanks text (k + 1)) fun _ => not_solid_of_lt_afterBlanks
  have hall := ((hopened.append hargs).append hrest).append (paints_closer hclose .operator)
  -- The commas are looked for from the arguments behind them, but they stand where the ones before
  -- them end.
  have heq : ofNode text (.call name nameSpan (args ++ [last]) span) =
      ofSpan text nameSpan .function ++ ofChar text nameSpan.stop '(' .operator ++
        ofGiven text args ++ ofNodes text last.nodes ++
        ofChar text last.span.stop ')' .operator := by
    rw [ofNode, ofArguments_concat, List.getLast?_concat, ofArgument_eq]
    simp only [Option.elim_none, List.nil_append, List.append_assoc]
  rw [heq]
  exact hall.congr (by simp)

/-- A group in braces is painted.  If it keeps everything as it is written, its nodes are not shown.
    -/
theorem paints_brace (mode : BraceMode) (hopen : text[start]? = some '\x7b')
    (hbody : PaintsAll text clear (start + 1) stop (ofNodes text body))
    (hclose : Closes text whole '\x7d' stop stop') :
    PaintsAll text (mode = .literal ∨ clear) start stop'
      (ofNode text (.brace mode body ⟨start, stop'⟩ ⟨start + 1, stop⟩)) := by
  have hopened : PaintsAll text True start (start + 1) _ := paints_ofChar hopen trivial .braceGroup
  have hclosed := paints_closer hclose .braceGroup
  cases mode with
  -- What stands inside is shown as one text, whatever nodes there are.
  | literal =>
    have hinner : PaintsAll text True (start + 1) stop (ofSpan text ⟨start + 1, stop⟩ .text) :=
      paintsAll_ofSpan hbody.le hclose.le_length .text
    rw [ofNode]
    exact ((hopened.append hinner).append hclosed).congr (by simp)
  | strip | keep =>
    rw [ofNode]
    · exact ((hopened.append hbody).append hclosed).congr (by simp)
    · simp

/-- A bracket is painted, but if it is never closed, the last character of the text may be painted
    twice. -/
theorem paints_bracket (hopen : text[start]? = some '[')
    (hbody : PaintsAll text clear (start + 1) stop (ofNodes text body))
    (hclose : Closes text whole ']' stop stop') :
    PaintsAll text (clear ∧ ¬ (stop = text.length ∧ text.getLast? = some ']')) start stop'
      (ofNode text (.bracket body ⟨start, stop'⟩)) := by
  have hopened : PaintsAll text True start (start + 1) _ :=
    paints_ofChar hopen trivial .bracketSubstitution
  have hinner := hopened.append hbody
  rw [ofNode, List.getLast?_eq_getElem?]
  rcases hclose with ⟨hc, rfl⟩ | ⟨-, rfl, rfl⟩
  · -- The bracket is closed.
    have hlt := (List.getElem?_eq_some_iff.mp hc).1
    rw [Nat.add_sub_cancel]
    exact (hinner.append (paints_ofChar hc trivial .bracketSubstitution)).congr (by simp; omega)
  · have hle := hbody.le
    by_cases hlast : text[text.length - 1]? = some ']'
    · -- What stands at the end of the body is painted again.
      have hagain : PaintsAll text True (text.length - 1) (text.length - 1 + 1) _ :=
        paints_ofChar hlast trivial .bracketSubstitution
      have hsolid : Solid text (text.length - 1) := ⟨']', hlast, by decide⟩
      have htwice := hinner.overlap hagain (by omega) (by omega) hsolid ⟨Nat.le_refl _, by omega⟩
      exact htwice.congr (by simp [hlast])
    · have hnone : ofChar text (text.length - 1) ']' .bracketSubstitution = [] := if_neg hlast
      rw [hnone, List.append_nil]
      exact hinner.congr (by simp [hlast])

/-! ### What is closed -/

/-- Is the node painted, wherever it lies in the text? -/
def Painted (text : List Char) (node : Node) : Prop :=
  node.piece.start < node.piece.stop → node.piece.stop ≤ text.length →
    PaintsAll text True node.piece.start node.piece.stop (ofNode text node)

/-- A sequence of painted nodes is painted. -/
private theorem paints_tiles {nodes : List Node} (h : Tiles (Painted text) i nodes j)
    (hj : j ≤ text.length) :
    PaintsAll text True i j (ofNodes text nodes) := by
  induction h with
  | nil i => exact .nil i
  | @cons node nodes i stop hnode hstart hpiece hnext hrest ih =>
    have hle := hrest.le
    rw [← hstart] at hpiece ⊢
    rw [ofNodes]
    exact ((hnode hpiece (by omega)).append (ih hj)).congr and_self_iff

/-- Arguments with commas behind them are painted. -/
private theorem paints_given (h : Given (Painted text) text start args k) :
    PaintsAll text True (start + 1) (k + 1) (ofGiven text args) := by
  induction h with
  | nil first => exact .nil _
  | @concat args a first k hargs hstart hnodes hcomma ih =>
    have hnodes := paints_tiles hnodes (Nat.le_of_lt (List.getElem?_eq_some_iff.mp hcomma).1)
    rw [hstart] at hnodes
    have hpiece := hnodes.blank_append (le_afterBlanks text (k + 1)) fun _ =>
      not_solid_of_lt_afterBlanks
    have hpiece := hpiece.append (paints_ofChar hcomma trivial .operator)
    rw [ofGiven, List.flatMap_append, List.flatMap_singleton, ofArgument_eq]
    exact (ih.append hpiece).congr (by simp)

/-- **Whatever is closed is painted.** -/
theorem Painted.of_accounted {node : Node} (h : node.Accounted text true) : Painted text node := by
  -- Nodes, tiles and arguments are defined together, so all three are proved together.
  refine @Node.Accounted.rec text true (fun node _ => Painted text node)
    (fun i nodes j _ => Tiles (Painted text) i nodes j)
    (fun first args k _ => Given (Painted text) text first args k)
    ?text ?escape ?substitution ?bracket ?brace ?call .nil ?tile .nil ?argument _ h
  case tile =>
    intro node nodes i stop _ hstart hpiece hnext _ hnode hrest
    exact .cons hnode hstart hpiece hnext hrest
  case argument =>
    intro args a first k _ hstart _ hcomma hargs hnodes
    exact .concat hargs hstart hnodes hcomma
  case text =>
    intro span hpiece hstop
    exact paintsAll_ofSpan (Nat.le_of_lt hpiece) hstop .text
  case escape =>
    intro i hc hpiece hstop
    exact paintsAll_ofSpan (Nat.le_of_lt hpiece) hstop .escapeSequence
  case substitution =>
    intro sub span hc hpiece hstop
    exact paintsAll_ofSpan (Nat.le_of_lt hpiece) hstop sub.highlightClass
  case bracket =>
    intro body span stop hopen _ hclose hbody hpiece hstop
    have hpaints := paints_bracket hopen (paints_tiles hbody hclose.le_length) hclose
    exact hpaints.congr (iff_of_true ⟨trivial, fun h => Nat.ne_of_lt hclose.lt_length h.1⟩ trivial)
  case brace =>
    intro mode body span inner hopen hinner _ hclose hbody hpiece hstop
    obtain ⟨innerStart, innerStop⟩ := inner
    obtain rfl : innerStart = span.start + 1 := hinner
    exact (paints_brace mode hopen (paints_tiles hbody hclose.le_length) hclose).congr (by simp)
  case call =>
    intro name nameSpan span args last k _ hspan hstart hopen _ hlast _ hclose hargs hnodes
      hpiece hstop
    show PaintsAll text True span.start span.stop _
    rw [hstart]
    exact paints_call nameSpan hspan hopen (paints_given hargs) hlast
      (paints_tiles hnodes hclose.le_length) hclose

/-- A sequence of nodes that are all closed is painted whole. -/
private theorem paints_accounted {nodes : List Node}
    (h : Tiles (Node.Accounted text true) i nodes j) (hj : j ≤ text.length) :
    PaintsAll text True i j (ofNodes text nodes) :=
  paints_tiles (h.imp fun _ => .of_accounted) hj

/-! ### What is open at the end of the text -/

/-- Is no character covered twice in an open construct, if the sequence that is read last in it is
    `clear`?  In braces that keep everything as it is written, that sequence is not shown. -/
def ClearIn (text : List Char) (clear : Prop) (c : OpenConstruct) : Prop :=
  match c.opener with
  | .call _ _ => clear
  | .bracket _ => clear ∧ text.getLast? ≠ some ']'
  | .brace _ => c.outer.scope.braces = .literal ∨ clear

/-- What is open at the end of the text is painted. -/
private theorem paints_construct {c : OpenConstruct} {origin : Nat}
    (hopened : c.Opened text true origin)
    {body : Argument} (hspan : body.span = ⟨c.opener.scope.bodyStart text origin, text.length⟩)
    (hbody : PaintsAll text clear (c.opener.scope.bodyStart text origin) text.length
      (ofNodes text body.nodes)) :
    PaintsAll text (ClearIn text clear c) c.opener.head.start text.length
      (ofNode text (Reader.OpenConstruct.node c body text.length)) := by
  -- What is not closed ends where the text does.
  have hends : ∀ c : Char, Closes text false c text.length text.length :=
    fun _ => .inr ⟨rfl, rfl, rfl⟩
  obtain ⟨-, hopened⟩ := hopened
  unfold ClearIn Reader.OpenConstruct.node
  cases hopener : c.opener with
  | call name head =>
    rw [hopener] at hopened hspan hbody
    obtain ⟨-, hhead, hopen, k, rfl, hargs⟩ := hopened
    have hlast : PaintsAll text clear body.span.start body.span.stop (ofNodes text body.nodes) := by
      rw [hspan]
      exact hbody
    have hclose : Closes text false ')' body.span.stop text.length := by
      rw [hspan]
      exact hends ')'
    exact paints_call ⟨head.start, head.stop - 1⟩ (show head.start < head.stop - 1 by omega) hopen
      (paints_given (hargs.imp fun _ => .of_accounted)) (by rw [hspan]; rfl) hlast hclose
  | bracket head =>
    rw [hopener] at hopened hbody
    obtain ⟨hopen, rfl⟩ := hopened
    exact (paints_bracket hopen hbody (hends ']')).congr (by simp)
  | brace head =>
    rw [hopener] at hopened hspan hbody
    obtain ⟨hopen, rfl⟩ := hopened
    rw [hspan]
    exact paints_brace _ hopen hbody (hends '\x7d')

/-- **The sequences that are open at the end of the text are painted,** from the innermost one to
    the whole. -/
theorem paints_close {outermost : Scope} {bottom origin : Nat} {d : Draft}
    {enclosing : List OpenConstruct}
    (hencloses : Encloses text true outermost bottom enclosing d.scope origin)
    (hspan : (d.finish text.length).span = ⟨d.scope.bodyStart text origin, text.length⟩)
    (hnodes : PaintsAll text clear (d.scope.bodyStart text origin) text.length
      (ofNodes text (d.finish text.length).nodes)) :
    PaintsAll text (enclosing.foldl (ClearIn text) clear)
      (outermost.bodyStart text bottom) text.length
      (ofArgument text (Reader.close text.length d enclosing)) := by
  -- The innermost sequence is put into the construct around it, which ends the next one.
  induction enclosing generalizing d origin clear with
  | nil =>
    generalize d.scope = scope at hencloses hnodes
    cases hencloses
    rw [Reader.close, ofArgument_eq]
    exact hnodes
  | cons c enclosing ih =>
    rw [Reader.close, List.foldl_cons]
    generalize d.finish text.length = body at hspan hnodes ⊢
    generalize d.scope = scope at hencloses hspan hnodes
    cases hencloses with
    | @cons _ _ outer _ hcs houter hopened =>
      have hnode := paints_construct hopened hspan hnodes
      -- The sequence around the construct ends with it, and so with the text.
      have hbefore := paints_accounted houter.tiles hnode.le
      refine ih hcs ?_ ?_
      · show Span.mk (c.outer.start.getD text.length) text.length = _
        rw [houter.start]
        rfl
      · show PaintsAll text _ _ _ (ofNodes text (_ :: c.outer.nodes).reverse)
        rw [List.reverse_cons, ofNodes_append, ofNodes, ofNodes, List.append_nil]
        exact (hbefore.append hnode).congr (by simp)

/-! ### The whole text -/

/-- The highlights of the pieces of a text from the piece with index `k` on, and of the separators
    behind them. -/
def ofSeparated (text : List Char) (rule : Rule) (k : Nat) (pieces : List Argument) :
    List Highlight :=
  (pieces.zipIdx k).flatMap fun x =>
    ofArgument text x.1 ++ ofChar text x.1.span.stop (rule.separator x.2) .operator

variable {rule : Rule} {pieces : List Argument}

/-- The pieces of a text with their separators are painted. -/
private theorem paints_separated (hpieces : Separated text true rule pieces i)
    (hrule : rule.readsCommands = false) :
    PaintsAll text True 0 i (ofSeparated text rule 0 pieces) := by
  induction hpieces with
  | nil => exact .nil 0
  | @concat pieces a i hpieces hstart hnodes hstops hsep ih =>
    rw [Separated.bodyStart_eq hrule] at hstart
    have hargument := paints_accounted hnodes (Nat.le_of_lt (List.getElem?_eq_some_iff.mp hsep).1)
    rw [hstart] at hargument
    have hpiece := hargument.append (paints_ofChar hsep trivial .operator)
    rw [ofSeparated, List.zipIdx_append, List.flatMap_append, Nat.zero_add, List.zipIdx_singleton,
      List.flatMap_singleton, ofArgument_eq]
    exact (ih.append hpiece).congr (by simp)

/-- Where all separators are commas, the pieces are shown as the arguments of a call are. -/
private theorem ofSeparated_comma (hsep : ∀ i, k ≤ i → rule.separator i = ',') :
    ofSeparated text rule k pieces = ofGiven text pieces := by
  induction pieces generalizing k with
  | nil => rfl
  | cons a pieces ih =>
    have hrest := ih fun i hi => hsep i (Nat.le_of_succ_le hi)
    unfold ofSeparated ofGiven at hrest ⊢
    rw [List.zipIdx_cons, List.flatMap_cons, List.flatMap_cons, hrest, hsep k (Nat.le_refl k)]

/-- The highlights of a tree are those of its pieces and of the separators between them. -/
private theorem ofTree_ofPieces (hrule : rule.readsCommands = false)
    (hstops : ∀ k < pieces.length, (rule.scope k).stops ≠ []) (last : Argument) :
    ofTree text (Tree.ofPieces text rule (pieces ++ [last])) =
      ofSeparated text rule 0 pieces ++ ofArgument text last := by
  cases rule with
  | singleCommand | commandList => exact absurd hrule (by decide)
  | function =>
    -- Nothing separates pieces, so there is only one.
    cases pieces with
    | nil => rfl
    | cons => exact absurd rfl (hstops 0 (by simp))
  | commaArgs =>
    rw [ofSeparated_comma fun _ _ => rfl]
    exact ofArguments_concat text none pieces last
  | eqSplitArgs =>
    cases pieces with
    | nil => rfl
    | cons left pieces =>
      have hright : ofSeparated text .eqSplitArgs 0 (left :: pieces) =
          ofArgument text left ++ ofChar text left.span.stop '=' .operator ++
            ofSeparated text .eqSplitArgs 1 pieces := rfl
      rw [List.cons_append, Tree.ofPieces_eqSplitArgs text left (by simp), ofTree,
        ofArguments_concat, hright, ofSeparated_comma Rule.separator_eqSplitArgs]
      simp only [Option.elim_none, List.nil_append, List.append_assoc]
  | eqSplitCommand =>
    cases pieces with
    | nil => rfl
    | cons left pieces =>
      cases pieces with
      | nil => simp [ofSeparated, Tree.ofPieces, ofTree, Rule.separator]
      | cons => exact absurd rfl (hstops 1 (by simp))

/-- **An expression, or arguments of commands, are painted whole,** and no character is covered
    twice unless a bracket is left open that takes the end of the text for its own. -/
theorem paints_tree (hrule : rule.readsCommands = false) (text : List Char) :
    PaintsAll text (((Reader.initial rule).run (Token.scanFrom 0 text)).enclosing.foldl
      (ClearIn text) True)
      0 text.length (ofTree text (parse rule text).tree) := by
  have hrun := Reader.upTo_run text true rule
  rw [parse_eq_read]
  unfold Reader.read
  dsimp only
  generalize (Reader.initial rule).run (Token.scanFrom 0 text) = r at hrun ⊢
  obtain ⟨-, hpieces, hencloses, hdraft⟩ := hrun
  obtain ⟨hspan, hnodes⟩ := hdraft.finish
  rw [hspan] at hnodes
  -- What is still open is closed at the end, and so is the last piece.
  have hlast := paints_close hencloses hspan (paints_accounted hnodes (Nat.le_refl _))
  rw [Separated.bodyStart_eq hrule] at hlast
  rw [Reader.finish, List.reverse_cons, ofTree_ofPieces hrule hpieces.stops_ne_nil]
  exact ((paints_separated hpieces hrule).append hlast).congr (by simp)

end Highlight

end Softcode
