import Mathlib.Data.List.Basic
import Softcode.Function.Standard

namespace Softcode

/-!
# Styled texts put together piece by piece

Appending a text merges its first span with the last one before it if the two touch and have the
same markup, and it merges the spans of the appended text itself that do.  So when a text is put
together piece by piece, the same spans are merged at different times.  But a span that has been
merged begins where its first part did and ends where its last part did, which is all that later
merges look at: whatever the order, the result has the same spans.

* `Styled.foldl_addSpan_addSpan` — adding spans one by one, or some of them merged beforehand;
* `Styled.append_assoc` — appending is associative, spans included;
* `Styled.gathers_concat`, `Styled.gathers_join` — some of the texts may be put together beforehand;
* `Styled.assembled_alike` — however a text is put together, the result is the same.
-/

/-! ### Merging two spans -/

namespace StyleSpan

/-- Two spans one after the other, merged if the second one continues the first. -/
def meet (last span : StyleSpan) : List StyleSpan :=
  if last.stop = span.start ∧ last.markup = span.markup then [{ last with stop := span.stop }]
  else [last, span]

/-- To shift twice is to shift once. -/
private theorem shift_shift (s : StyleSpan) (m n : Nat) :
    (s.shift m).shift n = s.shift (n + m) := by
  simp only [shift, mk.injEq, and_true]
  omega

/-- Two spans are merged before or after they are shifted, with the same result. -/
private theorem map_shift_meet (last span : StyleSpan) (n : Nat) :
    (last.meet span).map (·.shift n) = (last.shift n).meet (span.shift n) := by
  have hiff : (last.shift n).stop = (span.shift n).start ∧
      (last.shift n).markup = (span.shift n).markup
      ↔ last.stop = span.start ∧ last.markup = span.markup :=
    and_congr_left' Nat.add_right_cancel_iff
  unfold meet
  simp only [hiff]
  split <;> rfl

end StyleSpan

namespace Styled

@[simp] private theorem addSpan_nil (span : StyleSpan) : addSpan [] span = [span] := rfl

/-- A span is added by merging it with the last one. -/
private theorem addSpan_concat (spans : List StyleSpan) (last span : StyleSpan) :
    addSpan (spans ++ [last]) span = spans ++ last.meet span := by
  unfold addSpan StyleSpan.meet
  rw [List.getLast?_concat]
  dsimp only
  by_cases hmeet : last.stop = span.start ∧ last.markup = span.markup
  · rw [if_pos (by simpa using hmeet), if_pos hmeet, List.dropLast_concat]
  · rw [if_neg (by simpa using hmeet), if_neg hmeet, List.append_assoc]
    rfl

/-- Shifting all spans shifts what they are merged to. -/
private theorem map_shift_addSpan (spans : List StyleSpan) (span : StyleSpan) (n : Nat) :
    (addSpan spans span).map (·.shift n) = addSpan (spans.map (·.shift n)) (span.shift n) := by
  rcases List.eq_nil_or_concat spans with rfl | ⟨spans, last, rfl⟩
  · rfl
  · rw [List.concat_eq_append, addSpan_concat, List.map_append, List.map_append, List.map_singleton,
      addSpan_concat, StyleSpan.map_shift_meet]

/-- Many spans are added before or after they are shifted, with the same result. -/
private theorem map_shift_foldl_addSpan (spans more : List StyleSpan) (n : Nat) :
    (more.foldl addSpan spans).map (·.shift n)
      = (more.map (·.shift n)).foldl addSpan (spans.map (·.shift n)) := by
  induction more generalizing spans with
  | nil => rfl
  | cons span more ih =>
    rw [List.foldl_cons, ih, map_shift_addSpan, List.map_cons, List.foldl_cons]

/-- Two spans that may have been merged beforehand, added to others. -/
private theorem foldl_addSpan_meet (spans : List StyleSpan) (last span : StyleSpan) :
    (last.meet span).foldl addSpan spans = addSpan (addSpan spans last) span := by
  by_cases hmeet : last.stop = span.start ∧ last.markup = span.markup
  · have hmerged : last.meet span = [{ last with stop := span.stop }] := if_pos hmeet
    rw [hmerged, List.foldl_cons, List.foldl_nil]
    rcases List.eq_nil_or_concat spans with rfl | ⟨spans, first, rfl⟩
    · rw [addSpan_nil, addSpan_nil, ← List.nil_append [last], addSpan_concat, hmerged,
        List.nil_append]
    · rw [List.concat_eq_append, addSpan_concat, addSpan_concat]
      by_cases hfirst : first.stop = last.start ∧ first.markup = last.markup
      · -- All three are one span, which ends where the last of them does.
        have hthree : (StyleSpan.mk first.start last.stop first.markup).meet span
            = [{ first with stop := span.stop }] := if_pos ⟨hmeet.1, hfirst.2.trans hmeet.2⟩
        rw [StyleSpan.meet, StyleSpan.meet, if_pos hfirst, if_pos hfirst, addSpan_concat, hthree]
      · rw [StyleSpan.meet, StyleSpan.meet, if_neg hfirst, if_neg hfirst,
          ← List.singleton_append (x := first) (l := [last]), ← List.append_assoc, addSpan_concat,
          hmerged, List.append_assoc]
        rfl
  · rw [StyleSpan.meet, if_neg hmeet]
    rfl

/-- **Spans are added one by one, or some of them merged beforehand,** with the same result. -/
theorem foldl_addSpan_addSpan (spans more : List StyleSpan) (span : StyleSpan) :
    (addSpan more span).foldl addSpan spans = addSpan (more.foldl addSpan spans) span := by
  rcases List.eq_nil_or_concat more with rfl | ⟨more, last, rfl⟩
  · rfl
  · rw [List.concat_eq_append, addSpan_concat, List.foldl_append, foldl_addSpan_meet,
      List.foldl_append]
    rfl

/-- Many spans may be merged beforehand. -/
private theorem foldl_addSpan_foldl (spans more rest : List StyleSpan) :
    (rest.foldl addSpan more).foldl addSpan spans
      = rest.foldl addSpan (more.foldl addSpan spans) := by
  induction rest generalizing more with
  | nil => rfl
  | cons span rest ih => rw [List.foldl_cons, ih, foldl_addSpan_addSpan, List.foldl_cons]

/-! ### Appending -/

/-- **Appending is associative,** spans included. -/
theorem append_assoc (a b c : Styled) : a ++ b ++ c = a ++ (b ++ c) := by
  have hlength : (a ++ b).length = a.length + b.length := rfl
  have hspans : (c.spans.map (·.shift (a ++ b).length)).foldl addSpan (a ++ b).spans
      = ((b ++ c).spans.map (·.shift a.length)).foldl addSpan a.spans := by
    have hshift : (c.spans.map (·.shift b.length)).map (·.shift a.length)
        = c.spans.map (·.shift (a ++ b).length) := by
      simp only [List.map_map, Function.comp_def, StyleSpan.shift_shift, hlength]
    -- Spans are added one by one, and where two of them meet they are merged in either order.
    calc (c.spans.map (·.shift (a ++ b).length)).foldl addSpan (a ++ b).spans
        = (c.spans.map (·.shift (a ++ b).length)).foldl addSpan
            ((b.spans.map (·.shift a.length)).foldl addSpan a.spans) := rfl
      _ = ((c.spans.map (·.shift (a ++ b).length)).foldl addSpan
            (b.spans.map (·.shift a.length))).foldl addSpan a.spans :=
              (foldl_addSpan_foldl _ _ _).symm
      _ = (((c.spans.map (·.shift b.length)).foldl addSpan b.spans).map (·.shift a.length)).foldl
            addSpan a.spans := by rw [map_shift_foldl_addSpan, hshift]
  exact eq_of_chars_of_spans (List.append_assoc a.chars b.chars c.chars) hspans

@[simp] private theorem append_empty (s : Styled) : s ++ empty = s :=
  eq_of_chars_of_spans (List.append_nil s.chars) rfl

/-! ### Texts put together beforehand -/

/-- Can some of the texts that stand together be put together beforehand? -/
def Gathers (f : List Styled → Styled) : Prop :=
  ∀ before run after, run ≠ [] → f (before ++ f run :: after) = f (before ++ run ++ after)

/-- Texts appended to one that is there already. -/
theorem foldl_append (s : Styled) (items : List Styled) :
    items.foldl append s = s ++ concat items := by
  induction items generalizing s with
  | nil => exact (append_empty s).symm
  | cons x items ih =>
    have hfront : concat (x :: items) = empty ++ x ++ concat items := ih (empty ++ x)
    rw [List.foldl_cons, ih, hfront, ← append_assoc, ← append_assoc, append_empty]
    rfl

/-- What is put together in two parts is put together. -/
private theorem concat_append (xs ys : List Styled) :
    concat (xs ++ ys) = concat xs ++ concat ys := by
  rw [concat, List.foldl_append, foldl_append]
  rfl

private theorem concat_cons (x : Styled) (items : List Styled) :
    concat (x :: items) = empty ++ x ++ concat items :=
  foldl_append (empty ++ x) items

private theorem append_concat_cons (s x : Styled) (items : List Styled) :
    s ++ concat (x :: items) = s ++ x ++ concat items := by
  rw [concat_cons, ← append_assoc, ← append_assoc, append_empty]

/-- **Texts may be put together beforehand.** -/
theorem gathers_concat : Gathers concat := by
  intro before run after _
  rw [concat_append, append_concat_cons, ← concat_append, ← concat_append]

/-- Joined texts are put together with the separator before each but the first. -/
private theorem join_cons (separator x : Styled) (items : List Styled) :
    join separator (x :: items) = concat (x :: items.flatMap ([separator, ·])) := by
  have hfold : ∀ s : Styled, items.foldl (fun acc i => (acc ++ separator) ++ i) s
      = s ++ concat (items.flatMap ([separator, ·])) := by
    induction items with
    | nil => exact fun s => (append_empty s).symm
    | cons y items ih =>
      intro s
      rw [List.foldl_cons, ih, List.flatMap_cons, List.cons_append, List.singleton_append,
        append_concat_cons, append_concat_cons]
  rw [join, hfold, concat_cons]

/-- **Texts may be joined beforehand.** -/
theorem gathers_join (separator : Styled) : Gathers (join separator) := by
  intro before run after hrun
  obtain ⟨first, run, rfl⟩ := List.exists_cons_of_ne_nil hrun
  cases before with
  | nil =>
    have hgather := gathers_concat [] (first :: run.flatMap ([separator, ·]))
      (after.flatMap ([separator, ·])) (List.cons_ne_nil _ _)
    rw [List.nil_append, List.nil_append, List.cons_append, join_cons, join_cons, join_cons,
      List.flatMap_append]
    exact hgather
  | cons x before =>
    -- The separator before the first text of the run stands before what the run is put together to.
    have hgather := gathers_concat (x :: before.flatMap ([separator, ·]) ++ [separator])
      (first :: run.flatMap ([separator, ·])) (after.flatMap ([separator, ·]))
      (List.cons_ne_nil _ _)
    rw [List.cons_append, List.cons_append, List.cons_append, join_cons, join_cons, join_cons]
    simp only [List.flatMap_append, List.flatMap_cons, List.append_assoc, List.cons_append,
      List.nil_append] at hgather ⊢
    exact hgather

/-- What texts give that are put together piece by piece: again and again, some that stand together
    are put together and take their place as one text. -/
inductive Assembled (f : List Styled → Styled) : List Styled → Styled → Prop
  | whole (items : List Styled) : Assembled f items (f items)
  | part {before run after : List Styled} {s : Styled} (hrun : run ≠ [])
      (h : Assembled f (before ++ f run :: after) s) : Assembled f (before ++ run ++ after) s

/-- By induction on how often texts have been put together. -/
private theorem Gathers.eq_of_assembled {f : List Styled → Styled} (hf : Gathers f)
    {items : List Styled} {s : Styled} (h : Assembled f items s) : s = f items := by
  induction h with
  | whole items => rfl
  | @part before run after s hrun _ ih => exact ih.trans (hf before run after hrun)

/-- **However a text is put together, the result is the same,** with the same spans, whatever the
    spans of the pieces are.  Appending is associative, and what is put together or joined piece by
    piece is what is put together or joined at once; in particular by `strcat` and `cat`. -/
theorem assembled_alike :
    (∀ a b c : Styled, a ++ b ++ c = a ++ (b ++ c)) ∧
    (∀ items s, Assembled concat items s → s = concat items) ∧
    (∀ separator items s, Assembled (join separator) items s → s = join separator items) ∧
    ∀ name ∈ ["strcat", "cat"], ∃ f g, standardFunctions.get? name = some f ∧ f.body = .native g ∧
      ∀ items s, Assembled g items s → s = g items := by
  refine ⟨append_assoc, fun items s => gathers_concat.eq_of_assembled,
    fun separator items s => (gathers_join separator).eq_of_assembled, ?_⟩
  intro name hname
  rcases List.mem_pair.mp hname with rfl | rfl
  · exact ⟨.native "strcat" 0 none concat, concat, rfl, rfl, fun _ _ =>
      gathers_concat.eq_of_assembled⟩
  · exact ⟨.native "cat" 0 none (join (.ofString " ")), join (.ofString " "), rfl, rfl,
      fun _ _ => (gathers_join _).eq_of_assembled⟩

/-- Three texts in one markup, the second with two spans that touch: all spans become one, also if
    the last two texts are put together first. -/
theorem link_assembled_alike :
    let link : Markup := .link "a"
    let a := marked ['a'] link
    let b := ((ofChars ['b', 'c']).mark 0 1 link).mark 1 2 link
    let c := marked ['d'] link
    a ++ b ++ c = a ++ (b ++ c) ∧ concat [a, concat [b, c]] = concat [a, b, c] ∧
      (concat [a, b, c]).spans = [⟨0, 4, link⟩] := by
  intro link a b c
  obtain ⟨hassoc, hconcat, -⟩ := assembled_alike
  have hpart : Assembled concat ([a] ++ [b, c] ++ []) (concat [a, concat [b, c]]) :=
    .part (List.cons_ne_nil _ _) (.whole _)
  exact ⟨hassoc a b c, hconcat _ _ hpart, by decide +kernel⟩

end Styled

end Softcode
