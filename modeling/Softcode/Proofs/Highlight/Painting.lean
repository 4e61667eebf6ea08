import Softcode.Highlight.Class
import Softcode.Proofs.Source.Positions
import Softcode.Proofs.Text.Runs

namespace Softcode

/-!
# Painting a text

Highlights are made piece by piece, each piece from its own spans.  `Highlight.Paints` says what the
highlights of a piece come to: they lie in the piece, they cover those of its characters that are to
be covered, and no two of them cover the same character as long as a condition holds.  Pieces that
lie one behind the other are painted by the highlights of both.

* `Highlight.Marks` — a highlight is a part of one line of the text;
* `Highlight.Paints.append` — painting two pieces;
* `Highlight.paints_ofSpan`, `Highlight.paints_ofChar` — painting a span line by line, and a single
  character.
-/

/-- Does a character that is not blank stand at the offset? -/
def Solid (text : List Char) (o : Nat) : Prop := ∃ c, text[o]? = some c ∧ Text.isBlank c = false

/-- Behind the text nothing is solid. -/
theorem Solid.lt_length {text : List Char} {o : Nat} (h : Solid text o) : o < text.length := by
  obtain ⟨c, hc, -⟩ := h
  exact (List.getElem?_eq_some_iff.mp hc).1

/-- In a run of blanks nothing is solid. -/
theorem not_solid_of_drop {text blanks rest : List Char} {i o : Nat}
    (htext : text.drop i = blanks ++ rest) (hblanks : ∀ c ∈ blanks, Text.isBlank c) (hi : i ≤ o)
    (ho : o < i + blanks.length) : ¬ Solid text o := by
  rintro ⟨c, hc, hblank⟩
  obtain ⟨k, rfl⟩ := Nat.exists_eq_add_of_le hi
  rw [← List.getElem?_drop, htext, List.getElem?_append_left (by omega)] at hc
  rw [hblanks c (List.mem_of_getElem? hc)] at hblank
  cases hblank

/-- At the end of a piece of text, what trimming drops is blank. -/
theorem not_solid_of_trimmed {text cs rest : List Char} {i o : Nat}
    (htext : text.drop i = cs ++ rest) (hlo : i + (Text.dropRightWhile Text.isBlank cs).length ≤ o)
    (hhi : o < i + cs.length) : ¬ Solid text o := by
  have hcs :
      cs = Text.dropRightWhile Text.isBlank cs ++ (cs.reverse.takeWhile Text.isBlank).reverse := by
    rw [Text.dropRightWhile, ← List.reverse_append, List.takeWhile_append_dropWhile,
      List.reverse_reverse]
  have hlength := congrArg List.length hcs
  rw [hcs, List.append_assoc] at htext
  have hdrop := congrArg (List.drop (Text.dropRightWhile Text.isBlank cs).length) htext
  rw [List.drop_drop, List.drop_left] at hdrop
  refine not_solid_of_drop hdrop (fun c hc => Text.mem_takeWhile (List.mem_reverse.mp hc)) hlo ?_
  rw [List.length_append] at hlength
  omega

namespace Highlight

/-- Is the highlight made from the span, which is a part of one line? -/
structure Marks (text : List Char) (span : Span) (h : Highlight) : Prop where
  nonempty : span.start < span.stop
  inside : span.stop ≤ text.length
  line : '\n' ∉ span.of text
  range : h.range = (LineIndex.ofChars text).range span.start span.stop
  chars : h.chars = span.of text

/-- Does the highlight cover the character at the offset? -/
def Covers (text : List Char) (o : Nat) (h : Highlight) : Prop :=
  h.range.contains ((LineIndex.ofChars text).position o)

/-- Does some highlight cover the character at the offset? -/
def Covered (text : List Char) (hs : List Highlight) (o : Nat) : Prop := ∃ h ∈ hs, h.Covers text o

instance (text : List Char) (o : Nat) (h : Highlight) : Decidable (h.Covers text o) :=
  inferInstanceAs (Decidable (h.range.contains ((LineIndex.ofChars text).position o) = true))

instance (text : List Char) (hs : List Highlight) (o : Nat) : Decidable (Covered text hs o) :=
  inferInstanceAs (Decidable (∃ h ∈ hs, h.Covers text o))

/-- Do no two highlights cover the same character? -/
def Apart (text : List Char) (hs : List Highlight) : Prop :=
  hs.Pairwise fun a b => ∀ o < text.length, ¬ (a.Covers text o ∧ b.Covers text o)

instance (text : List Char) (hs : List Highlight) : Decidable (Apart text hs) :=
  inferInstanceAs (Decidable (hs.Pairwise fun a b =>
    ∀ o < text.length, ¬ (a.Covers text o ∧ b.Covers text o)))

/-- Do the highlights, which are made from spans between `i` and `j`, cover those characters between
    `i` and `j` that are `lit` and not blank, and no others that are not blank?  And does no
    character get covered twice, if the text is `clear` and only then? -/
structure Paints (text : List Char) (lit : Nat → Prop) (clear : Prop) (i j : Nat)
    (hs : List Highlight) :
    Prop where
  le : i ≤ j
  within : ∀ h ∈ hs, ∃ span : Span, h.Marks text span ∧ i ≤ span.start ∧ span.stop ≤ j
  covered_iff : ∀ o, i ≤ o → o < j → Solid text o → (Covered text hs o ↔ lit o)
  apart_iff : Apart text hs ↔ clear

variable {text : List Char} {span : Span} {h : Highlight} {hs more : List Highlight} {i j k o : Nat}
  {lit : Nat → Prop} {clear clear' : Prop}

/-- A highlight covers the characters of its span. -/
theorem Marks.covers_iff (hmarks : h.Marks text span) (ho : o < text.length) :
    h.Covers text o ↔ span.start ≤ o ∧ o < span.stop := by
  have hnonempty := hmarks.nonempty
  have hinside := hmarks.inside
  rw [Covers, hmarks.range]
  exact LineIndex.contains_position (by omega) hinside (Nat.le_of_lt ho)

/-- To put highlights in order is to permute them. -/
theorem inOrder_perm (hs : List Highlight) : (inOrder hs).Perm hs := List.mergeSort_perm _ _

/-- What is covered does not depend on their order. -/
theorem covered_inOrder : Covered text (inOrder hs) o ↔ Covered text hs o := by
  simp only [Covered, (inOrder_perm hs).mem_iff]

/-- What is covered by two lists of highlights. -/
theorem covered_append : Covered text (hs ++ more) o ↔ Covered text hs o ∨ Covered text more o := by
  simp only [Covered, List.mem_append, or_and_right, exists_or]

namespace Paints

/-- Highlights in a piece cover no character outside of it. -/
theorem between (hpaints : Paints text lit clear i j hs) (hh : h ∈ hs) (ho : o < text.length)
    (hcovers : h.Covers text o) : i ≤ o ∧ o < j := by
  obtain ⟨span, hmarks, hi, hj⟩ := hpaints.within h hh
  have hspan := (hmarks.covers_iff ho).mp hcovers
  omega

/-- What is not lit gets no highlights. -/
theorem dark (hij : i ≤ j) (hdark : ∀ o, i ≤ o → o < j → Solid text o → ¬ lit o) :
    Paints text lit True i j [] where
  le := hij
  within := by simp
  covered_iff o hi hj hsolid := iff_of_false (by simp [Covered]) (hdark o hi hj hsolid)
  apart_iff := iff_of_true .nil trivial

theorem blank (hij : i ≤ j) (hblank : ∀ o, i ≤ o → o < j → ¬ Solid text o) :
    Paints text lit True i j [] :=
  dark hij fun o hi hj hsolid => absurd hsolid (hblank o hi hj)

/-- A piece without characters needs no highlights. -/
theorem nil (i : Nat) : Paints text lit True i i [] :=
  blank (Nat.le_refl i) fun _ hi ho => absurd hi (Nat.not_le.mpr ho)

/-- **Two pieces, one behind the other.** -/
theorem append (hfirst : Paints text lit clear i j hs) (hsecond : Paints text lit clear' j k more) :
    Paints text lit (clear ∧ clear') i k (hs ++ more) where
  le := Nat.le_trans hfirst.le hsecond.le
  within h hh := by
    have hij := hfirst.le
    have hjk := hsecond.le
    rcases List.mem_append.mp hh with hh | hh
    · obtain ⟨span, hmarks, hi, hj⟩ := hfirst.within h hh
      exact ⟨span, hmarks, hi, by omega⟩
    · obtain ⟨span, hmarks, hj, hk⟩ := hsecond.within h hh
      exact ⟨span, hmarks, by omega, hk⟩
  covered_iff o hi hk hsolid := by
    rw [covered_append]
    -- Each character lies in one of the two pieces, and the highlights of the other one do not
    -- reach it.
    by_cases hj : o < j
    · have hother : ¬ Covered text more o := by
        rintro ⟨h, hh, hcovers⟩
        have hle := (hsecond.between hh hsolid.lt_length hcovers).1
        omega
      rw [hfirst.covered_iff o hi hj hsolid, or_iff_left hother]
    · have hother : ¬ Covered text hs o := by
        rintro ⟨h, hh, hcovers⟩
        exact hj (hfirst.between hh hsolid.lt_length hcovers).2
      rw [hsecond.covered_iff o (by omega) hk hsolid, or_iff_right hother]
  apart_iff := by
    rw [Apart, List.pairwise_append, ← hfirst.apart_iff, ← hsecond.apart_iff, ← and_assoc]
    refine and_iff_left_of_imp fun _ a ha b hb o ho hboth => ?_
    have hlt := (hfirst.between ha ho hboth.1).2
    have hle := (hsecond.between hb ho hboth.2).1
    omega

/-- The condition may be stated in another way. -/
theorem congr (hpaints : Paints text lit clear i j hs) (hclear : clear ↔ clear') :
    Paints text lit clear' i j hs :=
  { hpaints with apart_iff := hpaints.apart_iff.trans hclear }

/-- What is lit elsewhere does not matter. -/
theorem congr_lit {lit' : Nat → Prop} (hpaints : Paints text lit clear i j hs)
    (hlit : ∀ o, i ≤ o → o < j → (lit o ↔ lit' o)) : Paints text lit' clear i j hs :=
  { hpaints with
    covered_iff o hi hj hsolid := (hpaints.covered_iff o hi hj hsolid).trans (hlit o hi hj) }

theorem blank_append (hij : i ≤ j) (hblank : ∀ o, i ≤ o → o < j → ¬ Solid text o)
    (hpaints : Paints text lit clear j k hs) : Paints text lit clear i k hs :=
  ((blank hij hblank).append hpaints).congr (iff_of_eq (true_and clear))

theorem append_blank (hpaints : Paints text lit clear i j hs) (hjk : j ≤ k)
    (hblank : ∀ o, j ≤ o → o < k → ¬ Solid text o) : Paints text lit clear i k hs := by
  have happend := (hpaints.append (blank hjk hblank)).congr (iff_of_eq (and_true clear))
  rwa [List.append_nil] at happend

/-- A single highlight. -/
theorem single (span : Span) (hmarks : h.Marks text span)
    (hlit : ∀ o, span.start ≤ o → o < span.stop → lit o) :
    Paints text lit True span.start span.stop [h] where
  le := Nat.le_of_lt hmarks.nonempty
  within x hx := by
    rw [List.mem_singleton.mp hx]
    exact ⟨span, hmarks, Nat.le_refl _, Nat.le_refl _⟩
  covered_iff o hi hj hsolid := by
    refine iff_of_true ⟨h, List.mem_singleton_self h, ?_⟩ (hlit o hi hj)
    exact (hmarks.covers_iff hsolid.lt_length).mpr ⟨hi, hj⟩
  apart_iff := iff_of_true (List.pairwise_singleton _ h) trivial

end Paints

/-! ### Spans, line by line -/

/-- A line that is complete is painted by one highlight, unless it is empty. -/
private theorem paints_flush {line rest : List Char} (htext : text.drop i = line.reverse ++ rest)
    (hi : i ≤ text.length) (hline : '\n' ∉ line) (hlit : ∀ o, i ≤ o → o < i + line.length → lit o)
    (cls : HighlightClass) :
    Paints text lit True i (i + line.length)
      (linesFrom.flush (LineIndex.ofChars text) cls (i + line.length) line) := by
  have hlength := congrArg List.length htext
  rw [List.length_drop, List.length_append, List.length_reverse] at hlength
  rw [linesFrom.flush]
  split
  · rename_i hempty
    rw [List.isEmpty_iff.mp hempty]
    exact .nil i
  · rename_i hempty
    have hpos : 0 < line.length := List.length_pos_iff.mpr fun h => hempty (List.isEmpty_iff.mpr h)
    -- The line is gathered in reverse.
    have hof : Span.of ⟨i, i + line.length⟩ text = line.reverse := by
      rw [Span.of, Span.length, htext, Nat.add_sub_cancel_left, List.take_left' List.length_reverse]
    refine Paints.single ⟨i, i + line.length⟩ ?_ hlit
    refine ⟨show i < i + line.length by omega, show i + line.length ≤ text.length by omega,
      ?_, ?_, hof.symm⟩
    · rwa [hof, List.mem_reverse]
    · rw [Nat.add_sub_cancel]

/-- A span is painted line by line, when some characters of its first line have been read. -/
private theorem paints_linesFrom (line : List Char) {cs rest : List Char}
    (htext : text.drop i = line.reverse ++ cs ++ rest) (hi : i ≤ text.length) (hline : '\n' ∉ line)
    (hlit : ∀ o, i ≤ o → o < i + line.length + cs.length → lit o) (cls : HighlightClass) :
    Paints text lit True i (i + line.length + cs.length)
      (linesFrom (LineIndex.ofChars text) cls (i + line.length) line cs) := by
  induction cs generalizing i line with
  | nil =>
    rw [List.append_nil] at htext
    exact paints_flush htext hi hline hlit cls
  | cons c cs ih =>
    rw [List.length_cons] at hlit ⊢
    rw [linesFrom]
    have hlength := congrArg List.length htext
    simp only [List.length_drop, List.length_append, List.length_reverse,
      List.length_cons] at hlength
    split
    · -- A newline ends the line and is not shown.
      rename_i hc
      have hbehind : text.drop (i + line.length) = ['\n'] ++ (cs ++ rest) := by
        rw [← List.drop_drop, htext, List.append_assoc, List.drop_left' List.length_reverse, hc]
        rfl
      have hnewline : ∀ o, i + line.length ≤ o → o < i + line.length + 1 → ¬ Solid text o :=
        fun _ => not_solid_of_drop hbehind fun c hc => by rw [List.mem_singleton.mp hc]; decide
      have hrest : text.drop (i + line.length + 1) = [].reverse ++ cs ++ rest := by
        rw [← List.drop_drop, hbehind]
        rfl
      have hfirst : Paints text lit True i (i + line.length) _ :=
        paints_flush (by rw [htext, List.append_assoc]) hi hline
          (fun o hlo hhi => hlit o hlo (by omega)) cls
      have hothers := ih (i := i + line.length + 1) [] hrest (by omega) (by simp)
        fun o hlo hhi => hlit o (by omega) (by rw [List.length_nil] at hhi; omega)
      rw [List.length_nil, Nat.add_zero] at hothers
      have happend := (hfirst.append_blank (Nat.le_succ _) hnewline).append hothers
      rw [and_true] at happend
      rwa [show i + line.length + 1 + cs.length
        = i + line.length + (cs.length + 1) by omega] at happend
    · rename_i hc
      -- The character belongs to the line that is not complete yet.
      have hpaints := ih (i := i) (c :: line) (by simp [htext]) hi (by simp [hline, Ne.symm hc])
        (by rw [List.length_cons]; intro o hlo hhi; exact hlit o hlo (by omega))
      rw [List.length_cons] at hpaints
      rwa [show i + (line.length + 1) + cs.length
        = i + line.length + (cs.length + 1) by omega] at hpaints

/-- **The highlights of a span paint it.** -/
theorem paints_ofSpan (hij : i ≤ j) (hj : j ≤ text.length) (hlit : ∀ o, i ≤ o → o < j → lit o)
    (cls : HighlightClass) : Paints text lit True i j (ofSpan text ⟨i, j⟩ cls) := by
  have hlength : (Span.of ⟨i, j⟩ text).length = j - i := by
    show ((text.drop i).take (j - i)).length = j - i
    rw [List.length_take, List.length_drop]
    omega
  -- The text from the start on is the span and what follows it.
  have htext : text.drop i = [].reverse ++ Span.of ⟨i, j⟩ text ++ (text.drop i).drop (j - i) := by
    rw [Span.of, Span.length]
    exact (List.take_append_drop (j - i) (text.drop i)).symm
  have hpaints : Paints text lit True i _ _ := paints_linesFrom [] htext (by omega) (by simp) (by
    rw [List.length_nil, hlength]
    intro o hlo hhi
    exact hlit o hlo (by omega)) cls
  rw [List.length_nil, hlength, Nat.add_zero, Nat.add_sub_cancel' hij] at hpaints
  exact hpaints

/-- A character that is there is painted. -/
theorem paints_ofChar {c : Char} (hc : text[i]? = some c) (hlit : lit i) (cls : HighlightClass) :
    Paints text lit True i (i + 1) (ofChar text i c cls) := by
  rw [ofChar, if_pos hc]
  apply paints_ofSpan (Nat.le_succ i) (List.getElem?_eq_some_iff.mp hc).1
  intro o hlo hhi
  obtain rfl : o = i := by omega
  exact hlit

/-- Behind the text there is no character. -/
theorem ofChar_length (text : List Char) (c : Char) (cls : HighlightClass) :
    ofChar text text.length c cls = [] :=
  if_neg (by simp)

end Highlight

end Softcode
