import Softcode.Highlight.Grammar
import Softcode.Proofs.Highlight.Expressions
import Softcode.Proofs.Tree.CommandLists

namespace Softcode

/-!
# What highlighting leaves out

Commands are shown without a look at what is in them: the name, and all the rest as text.  In a list
of commands, the semicolon behind a command is looked for where the command ends, and a command ends
before the blanks behind it.  So a semicolon behind blanks is not shown, and neither is one that
ends an empty command.  Nothing else is left out, whatever the rule.

* `commandSpan_trims` — what the span of a command leaves out;
* `Highlight.paints_commandList` — how a list of commands is painted;
* `Highlight.covered_iff_not_loose` — what is covered and what is not.
-/

/-- A command is what stands before the blanks at its end. -/
theorem commandSpan_trims {text : List Char} {whole : Bool} {a : Argument}
    (h : a.Accounted text whole) :
    (commandSpan text a).start = a.span.start ∧ a.span.start ≤ (commandSpan text a).stop ∧
      (commandSpan text a).stop ≤ a.span.stop ∧
      ∀ o, (commandSpan text a).stop ≤ o → o < a.span.stop → ¬ Solid text o := by
  obtain ⟨htiles, hstop⟩ := h
  rw [commandSpan_eq]
  cases hlast : a.lastText? with
  | none => exact ⟨rfl, htiles.le, Nat.le_refl _, fun o hlo hhi => absurd hlo (Nat.not_le.mpr hhi)⟩
  | some last =>
    obtain ⟨nodes, hnodes⟩ := List.getLast?_eq_some_iff.mp (NodeList.lastText?_eq_some hlast)
    rw [hnodes] at htiles
    obtain ⟨hbefore, hpiece, hend, -⟩ := htiles.of_concat
    have hstart : a.span.start ≤ last.start := hbefore.le
    have hlt : last.start < last.stop := hpiece
    have heq : last.stop = a.span.stop := hend
    -- The text at the end, and what is left of it.
    have htext : text.drop last.start = last.of text ++ (text.drop last.start).drop last.length :=
      (List.take_append_drop _ _).symm
    have hlength : (last.of text).length = last.stop - last.start := by
      rw [Span.of, List.length_take, List.length_drop, Span.length]
      omega
    have hkept : (Text.dropRightWhile Text.isBlank (last.of text)).length +
        ((last.of text).reverse.takeWhile Text.isBlank).length = (last.of text).length := by
      rw [Text.dropRightWhile, List.length_reverse, Nat.add_comm, ← List.length_append,
        List.takeWhile_append_dropWhile, List.length_reverse]
    have hle : a.span.start
        ≤ a.span.stop - ((last.of text).reverse.takeWhile Text.isBlank).length := by omega
    refine ⟨rfl, hle, Nat.sub_le _ _, fun o hlo hhi => ?_⟩
    have hlo : a.span.stop - ((last.of text).reverse.takeWhile Text.isBlank).length ≤ o := hlo
    exact not_solid_of_trimmed htext (by omega) (by omega)

namespace Highlight

variable {text : List Char} {whole : Bool} {lit : Nat → Prop} {a : Argument}
  {pieces : List Argument} {i o : Nat}

/-! ### Single commands -/

/-- A command is painted, its name and the rest. -/
private theorem paints_ofCommand {span : Span} (hle : span.start ≤ span.stop)
    (hstop : span.stop ≤ text.length) (hlit : ∀ o, span.start ≤ o → o < span.stop → lit o) :
    Paints text lit True span.start span.stop (ofCommand text span) := by
  have hsize : ((span.of text).takeWhile (!Text.isBlank ·)).length ≤ span.stop - span.start := by
    refine Nat.le_trans (List.takeWhile_prefix _).length_le ?_
    rw [Span.of, Span.length]
    exact List.length_take_le _ _
  unfold ofCommand
  dsimp only
  -- Where the name ends does not matter, only that it ends in the span.
  generalize ((span.of text).takeWhile (!Text.isBlank ·)).length = size at hsize
  have hname : Paints text lit True span.start (span.start + size) _ :=
    paints_ofSpan (by omega) (by omega) (fun o hlo hhi => hlit o hlo (by omega)) .command
  have hrest : Paints text lit True (span.start + size) span.stop _ :=
    paints_ofSpan (by omega) hstop (fun o hlo hhi => hlit o (by omega) hhi) .text
  exact (hname.append hrest).congr and_self_iff

/-- Blanks before and behind a command are not shown. -/
private theorem paints_command (h : a.Accounted text whole)
    (hstart : a.span.start = afterBlanks text i) (hlit : ∀ o, i ≤ o → o < a.span.stop → lit o) :
    Paints text lit True i a.span.stop (ofCommand text (commandSpan text a)) := by
  obtain ⟨hspan, hle, hstop, hblank⟩ := commandSpan_trims h
  have hbegin := le_afterBlanks text i
  have hlength := h.2
  have hcommand : Paints text lit True (commandSpan text a).start (commandSpan text a).stop _ :=
    paints_ofCommand (by omega) (by omega) fun o hlo hhi => hlit o (by omega) (by omega)
  rw [hspan, hstart] at hcommand
  exact (hcommand.append_blank hstop hblank).blank_append hbegin fun _ =>
    not_solid_of_lt_afterBlanks

/-- A text that is one command is painted whole. -/
private theorem paints_singleCommand (text : List Char) :
    PaintsAll text True 0 text.length (ofTree text (parse .singleCommand text).tree) := by
  have hrun := Reader.upTo_run text false .singleCommand
  rw [parse_eq_read]
  unfold Reader.read
  dsimp only
  generalize (Reader.initial .singleCommand).run (Token.scanFrom 0 text) = r at hrun ⊢
  obtain ⟨-, hpieces, hencloses, hdraft⟩ := hrun
  obtain ⟨hspan, hnodes⟩ := Reader.close_accounted hencloses hdraft fun _ => rfl
  rw [Reader.finish, List.reverse_cons]
  generalize Reader.close text.length r.draft r.enclosing = last at hspan hnodes ⊢
  generalize r.pieces.reverse = pieces at hpieces ⊢
  -- Nothing separates pieces, so there is only one.
  cases hpieces with
  | concat _ _ _ hstops => exact absurd rfl hstops
  | nil =>
    have hlast : last.Accounted text false := ⟨hnodes, by rw [hspan]⟩
    have hpaints : PaintsAll text True 0 last.span.stop _ :=
      paints_command hlast (by rw [hspan]; rfl) fun _ _ _ => trivial
    rw [hspan] at hpaints
    exact hpaints

/-! ### Lists of commands -/

/-- Is the command empty, or do blanks stand behind it? -/
def Loose (text : List Char) (a : Argument) : Prop :=
  (commandSpan text a).isEmpty ∨ (commandSpan text a).stop < a.span.stop

instance : Decidable (Loose text a) :=
  inferInstanceAs (Decidable ((commandSpan text a).isEmpty ∨
    (commandSpan text a).stop < a.span.stop))

/-- Is the character the end of a command that is empty or has blanks behind it? -/
def EndsLoose (text : List Char) (pieces : List Argument) (o : Nat) : Prop :=
  ∃ a ∈ pieces, a.span.stop = o ∧ Loose text a

instance : Decidable (EndsLoose text pieces o) :=
  inferInstanceAs (Decidable (∃ a ∈ pieces, a.span.stop = o ∧ Loose text a))

/-- The highlights of a command in a list. -/
def ofListed (text : List Char) (a : Argument) : List Highlight :=
  ofCommand text (commandSpan text a) ++ if Loose text a then []
    else ofChar text a.span.stop ';' .operator

/-- An empty command is not shown. -/
private theorem ofCommand_empty {span : Span} (h : span.isEmpty) (text : List Char) :
    ofCommand text span = [] := by
  have hlength : span.stop - span.start = 0 := Nat.sub_eq_zero_of_le (of_decide_eq_true h)
  simp [ofCommand, ofSpan, Span.of, Span.length, hlength, linesFrom, linesFrom.flush]

/-- A semicolon is found if nothing stands between the command and it. -/
private theorem ofListed_eq (h : a.Accounted text whole) :
    ofListed text a = if (commandSpan text a).isEmpty then [] else
      ofCommand text (commandSpan text a) ++
        ofChar text (commandSpan text a).stop ';' .operator := by
  obtain ⟨hspan, hle, hstop, hblank⟩ := commandSpan_trims h
  rw [ofListed]
  by_cases hempty : (commandSpan text a).isEmpty
  · have hloose : Loose text a := .inl hempty
    rw [if_pos hempty, if_pos hloose, ofCommand_empty hempty]
    rfl
  · rw [if_neg hempty]
    by_cases hgap : (commandSpan text a).stop < a.span.stop
    · -- What stands directly behind the command is blank.
      have hnone : ofChar text (commandSpan text a).stop ';' .operator = [] :=
        if_neg fun hc => hblank _ (Nat.le_refl _) hgap ⟨';', hc, by decide⟩
      have hloose : Loose text a := .inr hgap
      rw [if_pos hloose, hnone]
    · have htight : ¬ Loose text a := not_or.mpr ⟨hempty, hgap⟩
      rw [if_neg htight, Nat.le_antisymm hstop (Nat.not_lt.mp hgap)]

/-- The highlights of a list of commands. -/
private theorem ofTree_commandList (hpieces : ∀ a ∈ pieces, a.Accounted text whole) :
    ofTree text (.commandList ((pieces.map (commandSpan text)).filter fun span => !span.isEmpty)) =
      pieces.flatMap (ofListed text) := by
  induction pieces with
  | nil => rfl
  | cons a pieces ih =>
    obtain ⟨ha, hpieces⟩ := List.forall_mem_cons.mp hpieces
    have hrest := ih hpieces
    rw [ofTree] at hrest ⊢
    rw [List.map_cons, List.flatMap_cons, ofListed_eq ha, List.filter_cons]
    -- Empty commands are not in the tree, and are not shown.
    cases hempty : (commandSpan text a).isEmpty with
    | true => exact hrest
    | false => exact congrArg (_ ++ ·) hrest

/-- One more command, and one more end. -/
private theorem endsLoose_concat :
    EndsLoose text (pieces ++ [a]) o ↔
      EndsLoose text pieces o ∨ a.span.stop = o ∧ Loose text a := by
  simp only [EndsLoose, List.mem_append, List.mem_singleton, or_and_right, exists_or,
    exists_eq_left]

/-- The separators behind pieces that have been read lie before what follows. -/
private theorem lt_of_endsLoose {rule : Rule} (h : Separated text whole rule pieces i)
    (ho : EndsLoose text pieces o) :
    o < i := by
  induction h with
  | nil =>
    obtain ⟨a, ha, -⟩ := ho
    cases ha
  | @concat pieces a i hpieces hstart hnodes hstops hsep ih =>
    have hbegin := (rule.scope pieces.length).le_bodyStart text i
    have hle := hnodes.le
    rcases endsLoose_concat.mp ho with ho | ⟨rfl, -⟩
    · have hlt := ih ho
      omega
    · exact Nat.lt_succ_self _

/-- A command of a list is painted up to its end, whatever ends it. -/
private theorem paints_listed (hpieces : Separated text whole .commandList pieces i)
    (hpaints : Paints text (fun o => ¬ EndsLoose text pieces o) True 0 i
      (pieces.flatMap (ofListed text)))
    (ha : a.Accounted text whole) (hstart : a.span.start = afterBlanks text i) :
    Paints text (fun o => ¬ EndsLoose text (pieces ++ [a]) o) True 0 a.span.stop
      (pieces.flatMap (ofListed text) ++ ofCommand text (commandSpan text a)) := by
  have hle : i ≤ a.span.stop := by
    have hbegin := le_afterBlanks text i
    have hnodes := ha.1.le
    omega
  -- Only the end of the new command is added to the ends of commands, and it lies behind all that
  -- is painted.
  have hbefore : Paints text (fun o => ¬ EndsLoose text (pieces ++ [a]) o) True 0 i _ :=
    hpaints.congr_lit fun o _ ho => by
      rw [endsLoose_concat, or_iff_left]
      rintro ⟨rfl, -⟩
      omega
  have hcommand : Paints text (fun o => ¬ EndsLoose text (pieces ++ [a]) o) True i a.span.stop _ :=
    paints_command ha hstart fun o hlo hhi ho => by
      rcases endsLoose_concat.mp ho with ho | ⟨rfl, -⟩
      · exact absurd (lt_of_endsLoose hpieces ho) (Nat.not_lt.mpr hlo)
      · exact absurd hhi (Nat.lt_irrefl _)
  exact (hbefore.append hcommand).congr and_self_iff

/-- The commands that have been read are painted, with the semicolons behind those that are not
    loose. -/
private theorem paints_commands (hpieces : Separated text whole .commandList pieces i) :
    Paints text (fun o => ¬ EndsLoose text pieces o) True 0 i (pieces.flatMap (ofListed text)) := by
  induction hpieces with
  | nil => exact .nil 0
  | @concat pieces a i hpieces hstart hnodes hstops hsep ih =>
    have ha : a.Accounted text whole := ⟨hnodes, Nat.le_of_lt (List.getElem?_eq_some_iff.mp hsep).1⟩
    have hcommand := paints_listed hpieces ih ha hstart
    -- No earlier semicolon stands where this one does.
    have hends : EndsLoose text (pieces ++ [a]) a.span.stop ↔ Loose text a := by
      have hbegin := le_afterBlanks text i
      have hle := hnodes.le
      have hstart : a.span.start = afterBlanks text i := hstart
      rw [endsLoose_concat, and_iff_right rfl, or_iff_right]
      intro ho
      have hlt := lt_of_endsLoose hpieces ho
      omega
    rw [List.flatMap_append, List.flatMap_singleton, ofListed, ← List.append_assoc]
    refine (hcommand.append ?_).congr and_self_iff
    split
    · rename_i hloose
      refine .dark (Nat.le_succ _) fun o hlo hhi _ => ?_
      obtain rfl : o = a.span.stop := by omega
      exact not_not_intro (hends.mpr hloose)
    · rename_i htight
      exact paints_ofChar hsep (mt hends.mp htight) .operator

/-- **A list of commands is painted but for the semicolons behind loose commands.** -/
theorem paints_commandList (text : List Char) :
    Paints text (fun o => ¬ EndsLoose text (commandPieces text) o) True 0 text.length
      (ofTree text (parse .commandList text).tree) := by
  have haccounted := accounted_commandPieces text
  obtain ⟨-, hpieces, hencloses, hdraft⟩ := Reader.upTo_afterCommands text
  obtain ⟨hspan, -⟩ := Reader.close_accounted hencloses hdraft fun _ => rfl
  rw [tree_commandList, ofTree_commandList haccounted]
  rw [commandPieces, Reader.finish, List.reverse_cons] at haccounted ⊢
  generalize (Reader.afterCommands text).pieces.reverse = pieces at hpieces haccounted ⊢
  generalize Reader.close text.length _ (Reader.afterCommands text).enclosing
    = last at hspan haccounted ⊢
  -- Behind the last command there is no semicolon.
  have hlisted : ofListed text last = ofCommand text (commandSpan text last) := by
    rw [ofListed, hspan, ofChar_length, ite_self, List.append_nil]
  have hpaints :=
    paints_listed hpieces (paints_commands hpieces) (haccounted last (by simp)) (by rw [hspan]; rfl)
  rw [hspan] at hpaints
  rw [List.flatMap_append, List.flatMap_singleton, hlisted]
  exact hpaints

/-! ### All rules -/

/-- Is the character to be covered?  All are but, in a list of commands, the semicolons behind loose
    ones. -/
def LitBy (rule : Rule) (text : List Char) (o : Nat) : Prop :=
  ¬ (rule = .commandList ∧ EndsLoose text (commandPieces text) o)

/-- **Every rule paints its text.** -/
theorem paints_parse (rule : Rule) (text : List Char) :
    Paints text (LitBy rule text)
      (rule.readsCommands ∨ ((Reader.initial rule).run (Token.scanFrom 0 text)).enclosing.foldl
        (ClearIn text) True)
      0 text.length (ofTree text (parse rule text).tree) := by
  -- Only in a list of commands can something be left dark.
  by_cases hlist : rule = .commandList
  · subst hlist
    refine ((paints_commandList text).congr (by simp [Rule.readsCommands])).congr_lit
      fun o _ _ => ?_
    rw [LitBy, and_iff_right rfl]
  · have hlit : ∀ o, 0 ≤ o → o < text.length → (True ↔ LitBy rule text o) := fun o _ _ =>
      iff_of_true trivial fun h => hlist h.1
    cases hrule : rule.readsCommands with
    | false => exact ((paints_tree hrule text).congr (by simp)).congr_lit hlit
    | true =>
      cases rule with
      | singleCommand => exact ((paints_singleCommand text).congr (by simp)).congr_lit hlit
      | commandList => exact absurd rfl hlist
      | function | commaArgs | eqSplitArgs | eqSplitCommand => cases hrule

/-- **Highlighting leaves out nothing but loose semicolons.**  Of the characters that are not blank,
    all are covered by the highlights of the text, whether it has errors or not.  Only in a list of
    commands, a semicolon that ends an empty command or stands behind blanks is not covered. -/
theorem covered_iff_not_loose (rule : Rule) (text : List Char) (o : Nat) (ho : Solid text o) :
    Covered text ((Grammar.expression rule).highlights text) o ↔
      ¬ (rule = .commandList ∧ EndsLoose text (commandPieces text) o) := by
  rw [Grammar.highlights, covered_inOrder]
  exact (paints_parse rule text).covered_iff o (Nat.zero_le o) ho.lt_length ho

/-- The first semicolon ends a command, and blanks stand before the second one. -/
theorem list_covered_iff_not_loose :
    let text := "a;b ;c".toList
    let hs := (Grammar.expression .commandList).highlights text
    Solid text 1 ∧ (Covered text hs 1 ↔
      ¬ (Rule.commandList = .commandList ∧ EndsLoose text (commandPieces text) 1)) ∧
      Covered text hs 1 ∧ ¬ Covered text hs 4 := by
  intro text hs
  have hsolid : Solid text 1 := ⟨';', rfl, by decide⟩
  have hfirst := covered_iff_not_loose .commandList text 1 hsolid
  have hsecond := covered_iff_not_loose .commandList text 4 ⟨';', rfl, by decide⟩
  exact ⟨hsolid, hfirst, hfirst.mpr (by decide +kernel), fun h => hsecond.mp h (by decide +kernel)⟩

/-- A semicolon behind a blank, in a text without errors, is not covered. -/
theorem loose_semicolon_not_covered :
    let text := "a ;b".toList
    (parse .commandList text).isOk ∧ text[2]? = some ';' ∧
      ¬ Covered text ((Grammar.expression .commandList).highlights text) 2 := by
  intro text
  refine ⟨by decide +kernel, by decide, ?_⟩
  rw [Grammar.highlights, covered_inOrder]
  decide +kernel

end Highlight

end Softcode
