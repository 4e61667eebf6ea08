import Softcode.Proofs.Highlight.Order

namespace Softcode

/-!
# Highlights on their way to an editor

Highlights are sent as words of 32 bits, five for each of them, and their places as distances from
the place before.  An editor adds the distances up again.  It gets back what was sent, because the
highlights of a text are in order, so that no distance is negative, and because a text of fewer than
`2 ^ 32` characters has no number that does not fit into a word.

* `Highlight.decode` — what an editor does with the words;
* `Highlight.Advances`, `Highlight.Fits` — what highlights must be like for that;
* `Highlight.decode_encode_highlights` — those of a text are.
-/

namespace Highlight

/-! ### The editor's side -/

/-- What an editor is told about a highlight: where it begins, how long it is, and the place of its
    class in the legend. -/
structure Received where
  start : Position
  length : Nat
  legend : Nat
deriving Repr, DecidableEq

/-- What there is to tell about a highlight. -/
def told (h : Highlight) : Received := ⟨h.range.start, h.length, h.cls.index⟩

/-- Read the words five by five.  Characters are counted from the place before on the same line, and
    from the beginning of the line on another one. -/
def decodeFrom (place : Position) : List UInt32 → List Received
  | lines :: characters :: length :: legend :: _ :: words =>
    let start : Position :=
      ⟨place.line + lines.toNat,
        if lines = 0 then place.character + characters.toNat else characters.toNat⟩
    ⟨start, length.toNat, legend.toNat⟩ :: decodeFrom start words
  | _ => []

/-- Read the words that highlights were sent as. -/
def decode (words : List UInt32) : List Received := decodeFrom ⟨0, 0⟩ words

/-! ### What can be sent -/

/-- Does each highlight begin at the place of the one before it or further on, and end no further
    back than it begins?  Then the encoding takes no number from a smaller one. -/
def Advances (place : Position) : List Highlight → Prop
  | [] => True
  | h :: hs =>
    (place.line ≤ h.range.start.line ∧
      (h.range.start.line = place.line → place.character ≤ h.range.start.character) ∧
      h.range.start.character ≤ h.range.stop.character) ∧ Advances h.range.start hs

/-- Do the numbers of the highlight fit into words? -/
structure Fits (h : Highlight) : Prop where
  line : h.range.start.line < 2 ^ 32
  character : h.range.start.character < 2 ^ 32
  length : h.length < 2 ^ 32

variable {text : List Char} {h : Highlight} {hs : List Highlight} {place : Position} {span : Span}

/-- A small number is kept by a word. -/
private theorem toNat_toUInt32 {n : Nat} (hn : n < 2 ^ 32) : n.toUInt32.toNat = n :=
  UInt32.toNat_ofNat_of_lt' hn

/-- Only zero is sent as zero. -/
private theorem toUInt32_eq_zero_iff {n : Nat} (hn : n < 2 ^ 32) : n.toUInt32 = 0 ↔ n = 0 := by
  rw [← UInt32.toNat_inj, toNat_toUInt32 hn]
  rfl

/-- Five words for each highlight. -/
private theorem length_encodeFrom (place : Position) (hs : List Highlight) :
    (encodeFrom place hs).length = 5 * hs.length := by
  induction hs generalizing place with
  | nil => rfl
  | cons h hs ih =>
    simp only [encodeFrom, List.length_cons, ih]
    omega

/-- A class has one of the few places in the legend. -/
private theorem index_lt (cls : HighlightClass) : cls.index < 2 ^ 32 := by
  cases cls <;> decide

/-- The distance from a place to a later one leads there. -/
private theorem place_add_distance {start : Position} (hline : place.line ≤ start.line)
    (hcharacter : start.line = place.line → place.character ≤ start.character) :
    let lines := start.line - place.line
    let characters := if lines = 0 then start.character - place.character else start.character
    (⟨place.line + lines,
      if lines = 0 then place.character + characters else characters⟩ : Position) = start := by
  dsimp only
  by_cases hsame : start.line - place.line = 0
  · rw [if_pos hsame, if_pos hsame, Nat.add_sub_cancel' hline,
      Nat.add_sub_cancel' (hcharacter (by omega))]
  · rw [if_neg hsame, if_neg hsame, Nat.add_sub_cancel' hline]

/-- **Distances add up to the places again.** -/
theorem decodeFrom_encodeFrom (hadvances : Advances place hs) (hfits : ∀ h ∈ hs, h.Fits) :
    decodeFrom place (encodeFrom place hs) = hs.map told := by
  induction hs generalizing place with
  | nil => rfl
  | cons h hs ih =>
    obtain ⟨⟨hline, hcharacter, -⟩, hadvances⟩ := hadvances
    obtain ⟨hfit, hfits⟩ := List.forall_mem_cons.mp hfits
    have hlines : h.range.start.line - place.line < 2 ^ 32 :=
      Nat.lt_of_le_of_lt (Nat.sub_le ..) hfit.line
    have hcharacters :
        (if h.range.start.line - place.line = 0 then h.range.start.character - place.character
        else h.range.start.character) < 2 ^ 32 := by
      split
      · exact Nat.lt_of_le_of_lt (Nat.sub_le ..) hfit.character
      · exact hfit.character
    have hstart := place_add_distance hline hcharacter
    dsimp only at hstart
    -- All five words come through, and the first two lead from the place before to this one.
    simp only [encodeFrom, decodeFrom, toNat_toUInt32 hlines, toUInt32_eq_zero_iff hlines,
      toNat_toUInt32 hcharacters, toNat_toUInt32 hfit.length, toNat_toUInt32 (index_lt h.cls),
      hstart, ih hadvances hfits, List.map_cons, told]

/-! ### The highlights of a text -/

/-- Neither the line nor the character of a place is larger than the text. -/
private theorem position_le_length (text : List Char) (o : Nat) :
    ((LineIndex.ofChars text).position o).line ≤ text.length ∧
      ((LineIndex.ofChars text).position o).character ≤ text.length := by
  have htake : (text.take o).length ≤ text.length := (List.take_prefix o text).length_le
  rw [LineIndex.position_ofChars]
  refine ⟨List.count_le_length.trans htake, ?_⟩
  have hrun := (List.takeWhile_prefix (· ≠ '\n') (l := (text.take o).reverse)).length_le
  rw [List.length_reverse] at hrun
  exact hrun.trans htake

/-- A highlight is as long as its span. -/
theorem Marks.length_eq (hmarks : h.Marks text span) : h.length = span.stop - span.start := by
  rw [length, hmarks.position_stop, Nat.add_sub_cancel_left]

/-- The highlights of a text that is not too long fit into words. -/
private theorem Marks.fits (hmarks : h.Marks text span) (hsize : text.length < 2 ^ 32) :
    h.Fits := by
  have hinside := hmarks.inside
  obtain ⟨hline, hcharacter⟩ := position_le_length text span.start
  have hstart : h.range.start = (LineIndex.ofChars text).position span.start := by
    rw [hmarks.range]
    rfl
  refine ⟨?_, ?_, ?_⟩
  · rw [hstart]
    omega
  · rw [hstart]
    omega
  · rw [hmarks.length_eq]
    omega

/-- Highlights that are in order advance from any place that none of them stands before. -/
private theorem advances_of_pairwise (hmarks : ∀ h ∈ hs, ∃ span, h.Marks text span)
    (hplace : ∀ h ∈ hs, ¬ h.range.start.before place)
    (horder : hs.Pairwise fun a b => ¬ b.range.start.before a.range.start) : Advances place hs := by
  induction hs generalizing place with
  | nil => trivial
  | cons h hs ih =>
    obtain ⟨⟨span, hspan⟩, hmarks⟩ := List.forall_mem_cons.mp hmarks
    obtain ⟨hnext, horder⟩ := List.pairwise_cons.mp horder
    refine ⟨?_, ih hmarks hnext horder⟩
    have hbefore := hplace h List.mem_cons_self
    rw [Position.before_iff] at hbefore
    rw [hspan.position_stop]
    dsimp only
    omega

/-- The highlights of a text are parts of its lines. -/
private theorem exists_marks (g : Grammar) (text : List Char) :
    ∀ h ∈ g.highlights text, ∃ span, h.Marks text span := by
  obtain ⟨lit, hs, heq, hpaints⟩ := paints_highlights text g
  intro h hh
  rw [heq, (inOrder_perm hs).mem_iff] at hh
  obtain ⟨span, hmarks, -⟩ := hpaints.within h hh
  exact ⟨span, hmarks⟩

/-- Highlights that have been put in order stay as they are when they are put in order again. -/
private theorem inOrder_highlights (g : Grammar) (text : List Char) :
    inOrder (g.highlights text) = g.highlights text := by
  have hidempotent : ∀ hs, inOrder (inOrder hs) = inOrder hs := by
    intro hs
    refine List.mergeSort_of_pairwise ((pairwise_inOrder hs).imp fun hab => ?_)
    rwa [Bool.not_eq_true', ← Bool.not_eq_true]
  obtain ⟨lit, hs, heq, -⟩ := paints_highlights text g
  rw [heq, hidempotent]

/-- The highlights of a text advance from its beginning. -/
private theorem advances_highlights (g : Grammar) (text : List Char) :
    Advances ⟨0, 0⟩ (g.highlights text) := by
  refine advances_of_pairwise (exists_marks g text) (fun h _ => ?_) ?_
  · rw [Position.before_iff]
    dsimp only
    omega
  · obtain ⟨lit, hs, heq, -⟩ := paints_highlights text g
    rw [heq]
    exact pairwise_inOrder hs

/-- **An editor gets back the highlights that were sent.**  From the five words for each highlight
    of a text it reads the line, the character, the length and the place in the legend of each of
    them, in their order.  All of them have some length, and on the way no number is taken from a
    smaller one. -/
theorem decode_encode_highlights (g : Grammar) (text : List Char) (hsize : text.length < 2 ^ 32) :
    (encode (g.highlights text)).length = 5 * (g.highlights text).length ∧
      decode (encode (g.highlights text)) = (g.highlights text).map told ∧
      (∀ h ∈ g.highlights text, 0 < h.length) ∧
      Advances ⟨0, 0⟩ (inOrder (g.highlights text)) := by
  have hadvances := advances_highlights g text
  rw [encode, decode, inOrder_highlights]
  refine ⟨length_encodeFrom .., decodeFrom_encodeFrom hadvances fun h hh => ?_, fun h hh => ?_,
    hadvances⟩
  · obtain ⟨span, hmarks⟩ := exists_marks g text h hh
    exact hmarks.fits hsize
  · obtain ⟨span, hmarks⟩ := exists_marks g text h hh
    have hnonempty := hmarks.nonempty
    rw [hmarks.length_eq]
    omega

/-- A register on the second line, behind a bracket on the first one. -/
theorem two_lines_decode_encode_highlights :
    let text := "x[y]\n%q0".toList
    text.length < 2 ^ 32 ∧ decode (encode ((Grammar.expression .function).highlights text)) =
      [⟨⟨0, 0⟩, 1, 10⟩, ⟨⟨0, 1⟩, 1, 6⟩, ⟨⟨0, 2⟩, 1, 10⟩, ⟨⟨0, 3⟩, 1, 6⟩, ⟨⟨1, 0⟩, 3, 3⟩] := by
  intro text
  have hsize : text.length < 2 ^ 32 := by decide
  -- The pieces of this text are made in order already.
  have hsorted : (Grammar.expression .function).highlights text
      = ofTree text (parse .function text).tree :=
    List.mergeSort_of_pairwise (by decide +kernel)
  refine ⟨hsize, (decode_encode_highlights (.expression .function) text hsize).2.1.trans ?_⟩
  rw [hsorted]
  decide +kernel

end Highlight

end Softcode
