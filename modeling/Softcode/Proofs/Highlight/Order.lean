import Softcode.Proofs.Highlight.Commands
import Softcode.Proofs.Tree.Unclosed

namespace Softcode

/-!
# The order of highlights

Highlights are parts of single lines, and they are given in the order of the text.  An editor takes
them one after the other, so no two of them may cover the same character.  All of them keep to that
but one kind: an open bracket takes the last character of the text for the one that closes it.

* `Highlight.paints_ofLock` — the highlights of a lock;
* `Highlight.foldl_clearIn_iff` — which open brackets are shown at the end of the text;
* `Highlight.highlights_apart_iff` — highlights are well-formed, and when they are apart.
-/

namespace Highlight

variable {text : List Char} {h : Highlight} {hs : List Highlight} {span : Span}

/-! ### Locks -/

/-- The tokens of a lock, however they are shown, paint it. -/
private theorem paints_lockTokens (cls : LockToken → HighlightClass) {start : Nat} {cs : List Char}
    (hcs : text.drop start = cs) (hstart : start ≤ text.length) :
    PaintsAll text True start text.length
      ((LockToken.scanFrom start cs).flatMap fun token => ofSpan text token.span (cls token)) := by
  have hlength := congrArg List.length hcs
  rw [List.length_drop] at hlength
  fun_induction LockToken.scanFrom start cs with
  | case1 start =>
    rw [List.length_nil] at hlength
    rw [show text.length = start by omega]
    exact .nil start
  | case2 start c cs hblank ih =>
    rw [List.length_cons] at hlength
    have hrest : text.drop (start + 1) = cs := by rw [← List.drop_drop, hcs]; rfl
    refine (ih hrest (by omega) (by omega)).blank_append (Nat.le_succ start) fun o => ?_
    exact not_solid_of_drop (show text.drop start = [c] ++ cs from hcs) (by simpa using hblank)
  | case3 start c cs _ _ ih | case4 start c cs _ _ _ ih =>
    -- An operator or a parenthesis.
    rw [List.length_cons] at hlength
    have hrest : text.drop (start + 1) = cs := by rw [← List.drop_drop, hcs]; rfl
    rw [List.flatMap_cons]
    have hsign :
        ∀ cls, PaintsAll text True start (start + 1) (ofSpan text ⟨start, start + 1⟩ cls) :=
      paintsAll_ofSpan (Nat.le_succ start) (by omega)
    exact ((hsign _).append (ih hrest (by omega) (by omega))).congr and_self_iff
  | case5 start c cs _ _ _ more key ih =>
    have hmore : more ≤ cs.length := (List.takeWhile_prefix _).length_le
    have htoken : (c :: cs.take more).length = more + 1 := by
      rw [List.length_cons, List.length_take, Nat.min_eq_left hmore]
    have hkey : key.length ≤ more + 1 := htoken ▸ (List.rdropWhile_prefix Text.isBlank _).length_le
    rw [List.length_cons] at hlength
    have hrest : text.drop (start + 1 + more) = cs.drop more := by
      rw [← List.drop_drop, ← List.drop_drop, hcs]
      rfl
    have htext : text.drop start = (c :: cs.take more) ++ cs.drop more := by
      rw [hcs, List.cons_append, List.take_append_drop]
    rw [List.flatMap_cons]
    have hpaints : PaintsAll text True start (start + key.length) _ :=
      paintsAll_ofSpan (by omega) (by omega) (cls ⟨.key, ⟨start, start + key.length⟩⟩)
    -- The blanks behind a key do not belong to it.
    have htrimmed : PaintsAll text True start (start + 1 + more) _ :=
      hpaints.append_blank (by omega) fun o hlo hhi =>
        not_solid_of_trimmed htext hlo (by rw [htoken]; omega)
    refine (htrimmed.append (ih hrest (by omega) ?_)).congr and_self_iff
    rw [List.length_drop]
    omega

/-- **The highlights of a lock paint it.** -/
theorem paints_ofLock (text : List Char) : PaintsAll text True 0 text.length (ofLock text) :=
  paints_lockTokens _ rfl (Nat.zero_le _)

/-! ### The parts of lines -/

/-- A highlight ends on the line on which it begins. -/
theorem Marks.position_stop (hmarks : h.Marks text span) :
    h.range.stop = ⟨h.range.start.line, h.range.start.character + (span.stop - span.start)⟩ := by
  rw [hmarks.range]
  refine LineIndex.position_of_line (Nat.le_of_lt hmarks.nonempty) hmarks.inside
    fun o hlo hhi ho => ?_
  apply hmarks.line
  obtain ⟨k, rfl⟩ := Nat.exists_eq_add_of_le hlo
  rw [← List.getElem?_drop,
    ← List.getElem?_take_of_lt (show k < span.length by rw [Span.length]; omega)] at ho
  exact List.mem_of_getElem? ho

private theorem Marks.isEmpty_eq (hmarks : h.Marks text span) : h.isEmpty = false := by
  have hnonempty := hmarks.nonempty
  rw [isEmpty, length, hmarks.position_stop, beq_eq_false_iff_ne]
  dsimp only
  omega

/-- A highlight lies on one line. -/
theorem Marks.isSingleLine (hmarks : h.Marks text span) : h.range.isSingleLine := by
  rw [Range.isSingleLine, hmarks.position_stop, beq_self_eq_true]

/-! ### Order -/

/-- Highlights in order begin one not before the other. -/
theorem pairwise_inOrder (hs : List Highlight) :
    (inOrder hs).Pairwise fun a b => ¬ b.range.start.before a.range.start := by
  have hsorted : (inOrder hs).Pairwise fun a b => (!b.range.start.before a.range.start) = true := by
    apply List.pairwise_mergeSort
    · intro a b c hab hbc
      rw [Bool.not_eq_true', ← Bool.not_eq_true, Position.before_iff] at hab hbc ⊢
      omega
    · intro a b
      rw [Bool.or_eq_true, Bool.not_eq_true', Bool.not_eq_true', ← Bool.not_eq_true,
        ← Bool.not_eq_true, Position.before_iff, Position.before_iff]
      omega
  exact hsorted.imp fun hab => by rwa [Bool.not_eq_true', ← Bool.not_eq_true] at hab

/-- Whether highlights are apart does not depend on their order. -/
private theorem apart_inOrder : Apart text (inOrder hs) ↔ Apart text hs :=
  (inOrder_perm hs).pairwise_iff fun happart o ho hboth => happart o ho hboth.symm

/-- Highlights that are in order and apart begin one after the other. -/
private theorem pairwise_before (hmarks : ∀ h ∈ hs, ∃ span, h.Marks text span)
    (happart : Apart text hs) :
    (inOrder hs).Pairwise fun a b => a.range.start.before b.range.start := by
  have hboth := (pairwise_inOrder hs).and (apart_inOrder.mpr happart)
  refine hboth.imp_of_mem fun {a b} ha hb hab => ?_
  obtain ⟨hle, happart⟩ := hab
  obtain ⟨span, ha⟩ := hmarks a ((inOrder_perm hs).mem_iff.mp ha)
  obtain ⟨span', hb⟩ := hmarks b ((inOrder_perm hs).mem_iff.mp hb)
  by_contra hlt
  -- Otherwise both begin at the same place, and cover the character there.
  have hsame : a.range.start = b.range.start := Position.eq_of_not_before hlt hle
  have hlength : span.start < text.length := Nat.lt_of_lt_of_le ha.nonempty ha.inside
  have hlength' : span'.start < text.length := Nat.lt_of_lt_of_le hb.nonempty hb.inside
  refine happart span.start hlength ⟨(ha.covers_iff hlength).mpr ⟨Nat.le_refl _, ha.nonempty⟩, ?_⟩
  have hcovers := (hb.covers_iff hlength').mpr ⟨Nat.le_refl _, hb.nonempty⟩
  rw [ha.range, hb.range] at hsame
  rwa [Covers, show (LineIndex.ofChars text).position span.start = _ from hsame]

/-! ### Open brackets -/

/-- At the end of the text no character is covered twice if the outermost open construct is a group
    in braces that keeps everything as it is written, or if the text ends with no closing bracket or
    no bracket is open. -/
theorem foldl_clearIn_iff {rule : Rule} {pieces : Nat} {opened : List OpenToken}
    {enclosing : List OpenConstruct} (haround : Scanner.Around rule pieces opened enclosing)
    (clear : Prop) :
    enclosing.foldl (ClearIn text) clear ↔
      ((rule.scope pieces).braces = .literal ∧ ∃ o ∈ opened.getLast?, o.token.kind = .openBrace) ∨
        (clear ∧ ¬ (text.getLast? = some ']' ∧ ∃ o ∈ opened, o.token.kind = .openBracket)) := by
  induction haround generalizing clear with
  | nil => simp
  | @cons o c os cs hopen hopener _ hscope _ hrest ih =>
    have hclear : ClearIn text clear c ↔
        ((Scanner.scope rule pieces os).braces = .literal ∧ o.token.kind = .openBrace) ∨
          (clear ∧ ¬ (text.getLast? = some ']' ∧ o.token.kind = .openBracket)) := by
      rw [ClearIn, hopener, hscope, Token.opener]
      rcases hopen with hkind | hkind | hkind <;> simp [hkind]
    rw [List.foldl_cons, ih, hclear]
    -- Only the outermost braces can keep everything; inside of something else they do not.
    cases os with
    | nil => simp [Scanner.scope]
    | cons o' os =>
      have hbraces : (Scanner.scope rule pieces (o' :: os)).braces ≠ .literal := by
        rw [Scanner.scope]
        cases o'.token.opener <;>
          simp [Opener.scope, Scope.callArgument, Scope.bracketBody, Scope.braceBody]
      simp only [hbraces, false_and, false_or]
      rw [List.getLast?_cons_cons, List.exists_mem_cons_iff _ o (o' :: os), and_or_left, not_or,
        and_assoc]

/-- Is the last character of the text shown twice?  It is if it is a closing bracket and the text
    leaves a bracket open, unless that is not shown: commands are shown without a look at what is in
    them, and so are, in the arguments of commands, groups in braces. -/
def RepeatsEnd (text : List Char) : Grammar → Prop
  | .lock => False
  | .expression rule =>
    ¬ rule.readsCommands ∧ text.getLast? = some ']' ∧
      (∃ t ∈ unclosed rule text, t.kind = .openBracket) ∧
      ¬ (rule ≠ .function ∧ ∃ t ∈ (unclosed rule text).getLast?, t.kind = .openBrace)

/-- Braces keep everything as it is written wherever pieces of the text are arguments of
    commands. -/
private theorem braces_eq_literal_iff (rule : Rule) (pieces : Nat) :
    (rule.scope pieces).braces = .literal ↔ rule ≠ .function := by
  cases rule with
  | function => exact iff_of_false (by simp [Rule.scope, Scope.expression]) (by decide)
  | singleCommand | commandList | commaArgs => exact iff_of_true rfl (by decide)
  | eqSplitArgs | eqSplitCommand => cases pieces <;> exact iff_of_true rfl (by decide)

/-- The highlights of a text paint it, and cover no character twice unless the last one is shown
    twice. -/
theorem paints_highlights (text : List Char) (g : Grammar) :
    ∃ lit hs, g.highlights text = inOrder hs ∧
      Paints text lit (¬ RepeatsEnd text g) 0 text.length hs := by
  cases g with
  | lock => exact ⟨_, _, rfl, (paints_ofLock text).congr (by simp [RepeatsEnd])⟩
  | expression rule =>
    refine ⟨_, _, rfl, (paints_parse rule text).congr ?_⟩
    -- Whether the end is shown twice can be told from the delimiters that are left open.
    have hlast : (∃ o ∈ (Scanner.run rule {} (Token.scan text)).opened.getLast?,
        o.token.kind = .openBrace) ↔ ∃ t ∈ (unclosed rule text).getLast?, t.kind = .openBrace := by
      simp [unclosed, List.getLast?_map]
    have hopen : (∃ o ∈ (Scanner.run rule {} (Token.scan text)).opened,
        o.token.kind = .openBracket) ↔ ∃ t ∈ unclosed rule text, t.kind = .openBracket := by
      simp [unclosed]
    rw [foldl_clearIn_iff (Scanner.Agrees.run rule text).around, braces_eq_literal_iff,
      ← Scanner.opened_run_scan, hlast, hopen, true_and, RepeatsEnd]
    grind

/-- **Highlights are parts of lines, and apart unless an open bracket repeats the end of the text.**
    Every highlight is not empty, lies on one line and shows the characters of the text at its
    range.  They are in the order of the text.  They begin one after the other, and no two of them
    cover the same character, if and only if the last character is not shown twice. -/
theorem highlights_apart_iff (g : Grammar) (text : List Char) :
    (∀ h ∈ g.highlights text,
        h.isEmpty = false ∧ h.range.isSingleLine ∧ ∃ span, h.Marks text span) ∧
      (g.highlights text).Pairwise (fun a b => ¬ b.range.start.before a.range.start) ∧
      ((g.highlights text).Pairwise (fun a b =>
          a.range.start.before b.range.start ∧
            ∀ o < text.length, ¬ (a.Covers text o ∧ b.Covers text o)) ↔
        ¬ RepeatsEnd text g) := by
  obtain ⟨lit, hs, heq, hpaints⟩ := paints_highlights text g
  have hmarks : ∀ h ∈ hs, ∃ span, h.Marks text span := by
    intro h hh
    obtain ⟨span, hmarks, -⟩ := hpaints.within h hh
    exact ⟨span, hmarks⟩
  -- Putting highlights in order neither adds one nor loses one.
  rw [heq]
  refine ⟨fun h hh => ?_, pairwise_inOrder hs, ?_⟩
  · obtain ⟨span, hspan⟩ := hmarks h ((inOrder_perm hs).mem_iff.mp hh)
    exact ⟨hspan.isEmpty_eq, hspan.isSingleLine, span, hspan⟩
  · rw [List.pairwise_and_iff, ← hpaints.apart_iff, ← apart_inOrder, Apart]
    refine and_iff_right_of_imp fun happart => ?_
    exact pairwise_before hmarks (apart_inOrder.mp happart)

/-- The escaped bracket at the end is shown as an escape and again as the end of the bracket before
    it. -/
theorem open_bracket_repeats_end :
    let hs := (Grammar.expression .function).highlights "[\\]".toList
    ¬ hs.Pairwise fun a b => ∀ o < 3, ¬ (a.Covers "[\\]".toList o ∧ b.Covers "[\\]".toList o) := by
  show ¬ Apart "[\\]".toList (inOrder (ofTree "[\\]".toList (parse .function "[\\]".toList).tree))
  rw [apart_inOrder]
  decide +kernel

end Highlight

end Softcode
