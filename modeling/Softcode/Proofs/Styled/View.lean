import Softcode.Proofs.Styled.Cutting
import Softcode.Proofs.Text.Runs

namespace Softcode

/-!
# Styled texts as lists of styled characters

A styled text keeps its characters and its spans apart.  What it shows is a list of characters, each
with the markups of the spans over it in their order: its `view`.  Spans are cut, shifted and merged
on the way, but what each operation does to the view is the list operation of the same name:

* `Styled.view_append`, `Styled.view_slice`, `Styled.view_split`, `Styled.view_trim`,
  `Styled.view_join` — one equation for each operation;
* `Styled.Built.wellFormed` — whatever the operations build has spans that lie in the text and are
  not empty, which is what makes merging spans right;
* `Styled.Built.view_operations` — all of it together.
-/

/-! ### The styles of a character -/

/-- The markups of the spans that cover the character at `i`, in their order. -/
def stylesAt (spans : List StyleSpan) (i : Nat) : List Markup :=
  (spans.filter (·.covers i)).map (·.markup)

/-- Does the span cover some of the first `n` characters and no others? -/
structure StyleSpan.Within (n : Nat) (s : StyleSpan) : Prop where
  nonempty : s.start < s.stop
  inside : s.stop ≤ n

/-- What lies in a text lies in a longer one. -/
theorem StyleSpan.Within.mono {n m : Nat} {s : StyleSpan} (h : s.Within n) (hnm : n ≤ m) :
    s.Within m :=
  ⟨h.nonempty, h.inside.trans hnm⟩

/-- What is shifted lies in a text that is longer by as much. -/
theorem StyleSpan.Within.shift {n : Nat} {s : StyleSpan} (h : s.Within n) (k : Nat) :
    (s.shift k).Within (k + n) := by
  have hnonempty := h.nonempty
  have hinside := h.inside
  exact ⟨by simp only [StyleSpan.shift]; omega, by simp only [StyleSpan.shift]; omega⟩

section

variable {spans more : List StyleSpan} {span : StyleSpan} {n i : Nat}

/-- The styles of later spans come later. -/
@[simp] private theorem stylesAt_append (spans more : List StyleSpan) (i : Nat) :
    stylesAt (spans ++ more) i = stylesAt spans i ++ stylesAt more i := by
  simp [stylesAt]

private theorem stylesAt_cons (span : StyleSpan) (spans : List StyleSpan) (i : Nat) :
    stylesAt (span :: spans) i = stylesAt [span] i ++ stylesAt spans i :=
  stylesAt_append [span] spans i

/-- A span puts its markup on the characters that it covers. -/
private theorem stylesAt_singleton :
    stylesAt [span] i = if span.start ≤ i ∧ i < span.stop then [span.markup] else [] := by
  by_cases h : span.start ≤ i ∧ i < span.stop <;> simp [stylesAt, StyleSpan.covers, h]

/-- Behind the last span there are no styles. -/
private theorem stylesAt_of_le (hspans : ∀ x ∈ spans, x.Within n) (hi : n ≤ i) :
    stylesAt spans i = [] := by
  rw [stylesAt, List.map_eq_nil_iff, List.filter_eq_nil_iff]
  intro x hx
  have hinside := (hspans x hx).inside
  simp only [StyleSpan.covers, Bool.and_eq_true, decide_eq_true_eq]
  omega

/-- Before a shifted span there are no styles. -/
private theorem stylesAt_shift_of_lt (hi : i < n) : stylesAt (spans.map (·.shift n)) i = [] := by
  rw [stylesAt, List.map_eq_nil_iff, List.filter_eq_nil_iff]
  intro x hx
  obtain ⟨y, -, rfl⟩ := List.mem_map.mp hx
  have hout : ¬ y.start + n ≤ i := by omega
  simp [StyleSpan.covers, StyleSpan.shift, hout]

/-- Styles are shifted with their spans. -/
private theorem stylesAt_shift_add :
    stylesAt (spans.map (·.shift n)) (i + n) = stylesAt spans i := by
  have hcovers : ((·.covers (i + n)) ∘ (·.shift n) : StyleSpan → Bool) = (·.covers i) := by
    funext x
    simp [StyleSpan.covers, StyleSpan.shift]
  rw [stylesAt, stylesAt, List.filter_map, List.map_map, hcovers]
  rfl

/-- The styles of a cut text are those of the text itself, counted from the cut. -/
private theorem stylesAt_clip {start stop : Nat} (hi : start + i < stop) :
    stylesAt (spans.filterMap (Styled.clip start stop)) i = stylesAt spans (start + i) := by
  induction spans with
  | nil => rfl
  | cons x spans ih =>
    rw [stylesAt_cons, ← ih, List.filterMap_cons]
    unfold Styled.clip
    by_cases hx : x.start < stop ∧ start < x.stop
    · -- What is left of the span covers the character if the span does.
      rw [if_pos (by simpa using hx)]
      have hiff : max x.start start - start ≤ i ∧ i < min x.stop stop - start
          ↔ x.start ≤ start + i ∧ start + i < x.stop := by omega
      rw [stylesAt_cons, stylesAt_singleton, stylesAt_singleton]
      simp only [hiff]
    · -- The span lies elsewhere.
      have hout : ¬ (x.start ≤ start + i ∧ start + i < x.stop) := by omega
      rw [if_neg (by simpa using hx), stylesAt_singleton, if_neg hout]
      rfl

end

namespace Styled

/-! ### Merging spans -/

section

variable {spans more : List StyleSpan} {span : StyleSpan} {n : Nat}

/-- A span that is added, merged or not, stays in the text. -/
private theorem within_addSpan (hspans : ∀ x ∈ spans, x.Within n) (hspan : span.Within n) :
    ∀ x ∈ addSpan spans span, x.Within n := by
  unfold addSpan
  split
  · rename_i last hlast
    have hmem : last ∈ spans := List.mem_of_getLast? hlast
    split
    · -- A span that is merged begins where the last one did.
      rename_i hmerge
      simp only [Bool.and_eq_true, decide_eq_true_eq] at hmerge
      have hlt := (hspans last hmem).nonempty
      have hlt' := hspan.nonempty
      intro x hx
      rcases List.mem_append.mp hx with hx | hx
      · exact hspans x (List.mem_of_mem_dropLast hx)
      · rw [List.mem_singleton.mp hx]
        exact ⟨show last.start < span.stop by omega, hspan.inside⟩
    · intro x hx
      rcases List.mem_append.mp hx with hx | hx
      · exact hspans x hx
      · rwa [List.mem_singleton.mp hx]
  · intro x hx
    rwa [List.mem_singleton.mp hx]

/-- A span that continues the last one puts the same styles on each character as the two spans one
    after the other. -/
private theorem stylesAt_addSpan (hspans : ∀ x ∈ spans, x.Within n) (hspan : span.Within n)
    (i : Nat) :
    stylesAt (addSpan spans span) i = stylesAt (spans ++ [span]) i := by
  unfold addSpan
  split
  · rename_i last hlast
    split
    · rename_i hmerge
      simp only [Bool.and_eq_true, decide_eq_true_eq] at hmerge
      obtain ⟨hadjacent, hmarkup⟩ := hmerge
      have hlt := (hspans last (List.mem_of_getLast? hlast)).nonempty
      have hlt' := hspan.nonempty
      have hsplit : spans.dropLast ++ [last] = spans := List.dropLast_append_getLast? last hlast
      have hstyles : stylesAt spans i = stylesAt spans.dropLast i ++ stylesAt [last] i := by
        rw [← stylesAt_append, hsplit]
      rw [stylesAt_append, stylesAt_append, hstyles, stylesAt_singleton, stylesAt_singleton,
        stylesAt_singleton, List.append_assoc]
      dsimp only
      -- The character is before the seam, behind it, or under neither span.
      by_cases hfirst : last.start ≤ i ∧ i < last.stop
      · rw [if_pos (by omega), if_pos hfirst, if_neg (by omega), List.append_nil]
      · by_cases hsecond : span.start ≤ i ∧ i < span.stop
        · rw [if_pos (by omega), if_neg hfirst, if_pos hsecond, List.nil_append, hmarkup]
        · rw [if_neg (by omega), if_neg hfirst, if_neg hsecond]
          rfl
    · rfl
  · rename_i hlast
    rw [List.getLast?_eq_none_iff.mp hlast]
    rfl

/-- Spans that are added one by one stay in the text and put the same styles on it. -/
private theorem foldl_addSpan (hspans : ∀ x ∈ spans, x.Within n) (hmore : ∀ x ∈ more, x.Within n) :
    (∀ x ∈ more.foldl addSpan spans, x.Within n) ∧
      ∀ i, stylesAt (more.foldl addSpan spans) i = stylesAt spans i ++ stylesAt more i := by
  induction more generalizing spans with
  | nil => exact ⟨hspans, fun i => (List.append_nil _).symm⟩
  | cons x more ih =>
    obtain ⟨hx, hmore⟩ := List.forall_mem_cons.mp hmore
    obtain ⟨hwithin, hstyles⟩ := ih (within_addSpan hspans hx) hmore
    refine ⟨hwithin, fun i => ?_⟩
    rw [List.foldl_cons, hstyles, stylesAt_addSpan hspans hx, stylesAt_append,
      stylesAt_cons x more, List.append_assoc]

end

/-! ### The view -/

/-- The characters of a text, each with the markups on it. -/
def view (s : Styled) : List (Char × List Markup) :=
  s.chars.mapIdx fun i c => (c, stylesAt s.spans i)

/-- Do the spans lie in the text, and is none of them empty? -/
def WellFormed (s : Styled) : Prop := ∀ span ∈ s.spans, span.Within s.length

variable {s t : Styled}

@[simp] theorem view_getElem? (s : Styled) (i : Nat) :
    s.view[i]? = s.chars[i]?.map fun c => (c, stylesAt s.spans i) :=
  List.getElem?_mapIdx

/-- The view is as long as the text. -/
@[simp] theorem length_view (s : Styled) : s.view.length = s.length :=
  List.length_mapIdx.trans s.length_eq.symm

/-- Without its styles it is the text. -/
theorem map_fst_view (s : Styled) : s.view.map Prod.fst = s.chars := by
  refine List.ext_getElem? fun i => ?_
  rw [List.getElem?_map, view_getElem?, Option.map_map]
  exact Option.map_id'

@[simp] private theorem view_empty : empty.view = [] := rfl

/-- A plain text has no spans. -/
theorem wellFormed_ofChars (cs : List Char) : (ofChars cs).WellFormed := fun x hx => by cases hx

theorem wellFormed_empty : empty.WellFormed := wellFormed_ofChars []

/-! ### Joining -/

/-- What is appended lies behind what was there. -/
theorem WellFormed.append (hs : s.WellFormed) (ht : t.WellFormed) :
    (s ++ t).WellFormed ∧
      ∀ i, stylesAt (s ++ t).spans i
        = stylesAt s.spans i ++ stylesAt (t.spans.map (·.shift s.length)) i := by
  have hlength : (s ++ t).length = s.length + t.length := rfl
  rw [WellFormed, hlength]
  refine foldl_addSpan (fun x hx => (hs x hx).mono (Nat.le_add_right _ _)) ?_
  intro x hx
  obtain ⟨y, hy, rfl⟩ := List.mem_map.mp hx
  exact (ht y hy).shift s.length

/-- **Appending is appending views.** -/
theorem view_append (hs : s.WellFormed) (ht : t.WellFormed) :
    (s ++ t).view = s.view ++ t.view := by
  have hstyles := (hs.append ht).2
  have hchars : (s ++ t).chars = s.chars ++ t.chars := rfl
  have hlength := s.length_eq
  refine List.ext_getElem? fun i => ?_
  rw [view_getElem?, hstyles, hchars]
  by_cases hi : i < s.length
  · -- A character of the first text: nothing of the second lies over it.
    rw [List.getElem?_append_left (by omega), List.getElem?_append_left (by rwa [length_view]),
      view_getElem?, stylesAt_shift_of_lt hi, List.append_nil]
  · -- A character of the second text: the spans of the first end before it.
    have hle : s.length ≤ i := Nat.le_of_not_lt hi
    obtain ⟨j, rfl⟩ := Nat.exists_eq_add_of_le' hle
    rw [List.getElem?_append_right (by omega), List.getElem?_append_right (by rwa [length_view]),
      view_getElem?, stylesAt_of_le hs hle, stylesAt_shift_add, length_view, hlength]
    simp only [Nat.add_sub_cancel, List.nil_append]

theorem WellFormed.appendChars (hs : s.WellFormed) (cs : List Char) :
    (s.appendChars cs).WellFormed := by
  intro x hx
  exact (hs x hx).mono (Nat.le_add_right s.length cs.length)

/-- Plain characters have no styles. -/
private theorem view_appendChars (hs : s.WellFormed) (cs : List Char) :
    (s.appendChars cs).view = s.view ++ cs.map (·, []) := by
  refine List.ext_getElem? fun i => ?_
  rw [view_getElem?]
  by_cases hi : i < s.length
  · rw [List.getElem?_append_left (by rwa [length_view]), view_getElem?]
    exact congrArg _ (List.getElem?_append_left (s.length_eq ▸ hi))
  · have hle : s.length ≤ i := Nat.le_of_not_lt hi
    rw [List.getElem?_append_right (by rwa [length_view]), length_view, List.getElem?_map]
    change Option.map _ (s.chars ++ cs)[i]? = _
    rw [List.getElem?_append_right (s.length_eq ▸ hle), s.length_eq]
    refine congrArg (Option.map · _) (funext fun c => ?_)
    exact congrArg (Prod.mk c) (stylesAt_of_le hs hle)

/-- Texts are put one behind the other. -/
theorem view_concat {items : List Styled} (hitems : ∀ x ∈ items, x.WellFormed) :
    (concat items).view = items.flatMap view := by
  -- The texts so far are those that the result begins with.
  have hfold : ∀ (items : List Styled) (acc : Styled), acc.WellFormed →
      (∀ x ∈ items, x.WellFormed) →
      (items.foldl append acc).view = acc.view ++ items.flatMap view := by
    intro items
    induction items with
    | nil => exact fun acc _ _ => (List.append_nil _).symm
    | cons x items ih =>
      intro acc hacc hitems
      obtain ⟨hx, hitems⟩ := List.forall_mem_cons.mp hitems
      have hview : (append acc x).view = acc.view ++ x.view := view_append hacc hx
      rw [List.foldl_cons, ih (append acc x) (hacc.append hx).1 hitems, hview, List.flatMap_cons,
        List.append_assoc]
  exact hfold items empty wellFormed_empty hitems

/-- The texts that are joined one after the other to a text that is there already. -/
theorem foldl_join (ht : t.WellFormed) {items : List Styled} (hitems : ∀ x ∈ items, x.WellFormed)
    (hs : s.WellFormed) :
    (items.foldl (fun acc x => (acc ++ t) ++ x) s).WellFormed ∧
      (items.foldl (fun acc x => (acc ++ t) ++ x) s).view
        = t.view.intercalate (s.view :: items.map view) := by
  induction items generalizing s with
  | nil => exact ⟨hs, List.intercalate_singleton.symm⟩
  | cons x items ih =>
    obtain ⟨hx, hitems⟩ := List.forall_mem_cons.mp hitems
    have hst := (hs.append ht).1
    obtain ⟨hwell, hview⟩ := ih hitems (hst.append hx).1
    refine ⟨hwell, ?_⟩
    -- A text in front of the first one comes out in front of all of them.
    have hfront : ∀ (u v : List (Char × List Markup)) (ws : List (List (Char × List Markup))),
        t.view.intercalate ((u ++ v) :: ws) = u ++ t.view.intercalate (v :: ws) := by
      intro u v ws
      cases ws with
      | nil => rw [List.intercalate_singleton, List.intercalate_singleton]
      | cons w ws =>
        rw [List.intercalate_cons_cons, List.intercalate_cons_cons]
        simp only [List.append_assoc]
    rw [List.foldl_cons, hview, view_append hst hx, view_append hs ht, List.map_cons,
      List.intercalate_cons_cons, hfront]

/-- **Joining is joining views.** -/
theorem view_join (hs : s.WellFormed) {items : List Styled} (hitems : ∀ x ∈ items, x.WellFormed) :
    (join s items).view = s.view.intercalate (items.map view) := by
  cases items with
  | nil => rfl
  | cons x items =>
    obtain ⟨hx, hitems⟩ := List.forall_mem_cons.mp hitems
    rw [join, (foldl_join hs hitems (wellFormed_empty.append hx).1).2,
      view_append wellFormed_empty hx, view_empty, List.nil_append, List.map_cons]

/-! ### Cutting -/

/-- Of the spans of a piece there is left what lies in it. -/
theorem WellFormed.slice (hs : s.WellFormed) (start stop : Nat) :
    (s.slice start stop).WellFormed := by
  rw [slice_eq]
  split
  · rename_i hlt
    intro x hx
    obtain ⟨y, hy, hclip⟩ := List.mem_filterMap.mp hx
    have hnonempty := (hs y hy).nonempty
    unfold clip at hclip
    split at hclip
    · -- What is left of a span after cutting is not empty.
      rename_i hcut
      simp only [Bool.and_eq_true, decide_eq_true_eq] at hcut
      obtain rfl := Option.some.inj hclip
      refine ⟨show max y.start start - start < min y.stop (min stop s.length) - start by omega, ?_⟩
      simp only [s.length_eq, List.length_take, List.length_drop] at hlt ⊢
      omega
    · exact absurd hclip (by simp)
  · exact wellFormed_empty

/-- **Cutting is cutting the view.** -/
theorem view_slice (s : Styled) (start stop : Nat) :
    (s.slice start stop).view = (s.view.take stop).drop start := by
  rw [slice_eq]
  split
  · rename_i hlt
    refine List.ext_getElem? fun i => ?_
    rw [view_getElem?, List.getElem?_drop, List.getElem?_take, List.getElem?_take]
    -- The character is in the piece, or behind it or the text.
    by_cases hi : start + i < min stop s.length
    · rw [if_pos (by omega), if_pos (by omega), List.getElem?_drop, view_getElem?, stylesAt_clip hi]
    · rw [if_neg (by omega)]
      by_cases hstop : start + i < stop
      · rw [if_pos hstop, List.getElem?_eq_none (by rw [length_view]; omega)]
        rfl
      · rw [if_neg hstop]
        rfl
  · rename_i hge
    rw [view_empty, eq_comm, List.drop_eq_nil_iff, List.length_take, length_view]
    omega

/-- A piece ends where the text does. -/
theorem length_slice (s : Styled) (start stop : Nat) :
    (s.slice start stop).length = min stop s.length - start := by
  rw [← length_view, view_slice, List.length_drop, List.length_take, length_view]

/-- A piece of a given length. -/
private theorem view_substring (s : Styled) (start count : Nat) :
    (s.substring start count).view = (s.view.drop start).take count := by
  rw [substring, view_slice, List.drop_take, Nat.add_sub_cancel_left]

/-- **Trimming is trimming the view.** -/
theorem view_trim (s : Styled) :
    s.trim.view = (s.view.dropWhile (Text.isBlank ·.1)).rdropWhile (Text.isBlank ·.1) := by
  have hrun : ∀ xs : List (Char × List Markup),
      ((xs.map Prod.fst).takeWhile Text.isBlank).length
        = (xs.takeWhile (Text.isBlank ·.1)).length := by
    intro xs
    rw [List.takeWhile_map, List.length_map]
    rfl
  rw [trim, view_slice, ← Text.drop_take_runs, ← hrun, ← hrun, List.map_reverse, map_fst_view,
    length_view]

/-- A piece that begins with what is left of a text. -/
private theorem view_slice_run {start i : Nat} {run rest : List (Char × List Markup)}
    (hview : s.view.drop start = run ++ rest) (hi : i = start + run.length) :
    (s.slice start i).view = run := by
  rw [view_slice, List.drop_take, hi, Nat.add_sub_cancel_left, hview, List.take_left]

/-- The pieces of a text of which `run` has been seen since the last occurrence of `d`. -/
private theorem view_piecesFrom (s : Styled) (d : Char) {start i : Nat}
    {run rest : List (Char × List Markup)} (hview : s.view.drop start = run ++ rest)
    (hrun : ∀ x ∈ run, (x.1 == d) = false) (hi : i = start + run.length) :
    (s.piecesFrom d start i (rest.map Prod.fst)).map view = (run ++ rest).splitOnP (·.1 == d) := by
  induction rest generalizing start i run with
  | nil =>
    rw [List.map_nil, piecesFrom, List.map_singleton, view_slice_run hview hi, List.append_nil,
      List.splitOnP_eq_singleton hrun]
  | cons x rest ih =>
    rw [List.map_cons, piecesFrom]
    split
    · -- A piece ends here, and the next one begins behind `x`.
      rename_i hd
      have hnext : s.view.drop (i + 1) = [] ++ rest := by
        rw [hi, Nat.add_assoc, ← List.drop_drop, hview, ← List.drop_drop, List.drop_left]
        rfl
      rw [List.map_cons, view_slice_run hview hi, ih (i := i + 1) hnext (by simp) rfl,
        List.splitOnP_append_cons_of_forall_mem hrun x (by simpa using hd)]
      rfl
    · rename_i hd
      have hassoc : run ++ x :: rest = (run ++ [x]) ++ rest := by simp
      have hrun' : ∀ y ∈ run ++ [x], (y.1 == d) = false := by
        intro y hy
        rcases List.mem_append.mp hy with hy | hy
        · exact hrun y hy
        · rw [List.mem_singleton.mp hy]
          simpa using hd
      rw [hassoc] at hview ⊢
      refine ih hview hrun' ?_
      rw [List.length_append, List.length_singleton, hi, Nat.add_assoc]

/-- **Splitting is splitting the view.** -/
theorem view_split (s : Styled) (d : Char) :
    (s.split d).map view = s.view.splitOnP (·.1 == d) := by
  have h : (s.piecesFrom d 0 0 (s.view.map Prod.fst)).map view
      = ([] ++ s.view).splitOnP (·.1 == d) :=
    s.view_piecesFrom d rfl (by simp) rfl
  rwa [map_fst_view, ← split_eq] at h

/-! ### Marking and case -/

/-- Marks do not go beyond the text. -/
theorem WellFormed.mark (hs : s.WellFormed) (start stop : Nat) (markup : Markup) :
    (s.mark start stop markup).WellFormed := by
  unfold Styled.mark
  dsimp only
  split
  · rename_i hlt
    intro x hx
    rcases List.mem_append.mp hx with hx | hx
    · exact hs x hx
    · rw [List.mem_singleton.mp hx]
      exact ⟨hlt, Nat.min_le_right stop s.length⟩
  · exact hs

private theorem length_mark (s : Styled) (start stop : Nat) (markup : Markup) :
    (s.mark start stop markup).length = s.length := by
  unfold mark
  dsimp only
  split <;> rfl

/-- A markup is added to the styles of the characters between the bounds. -/
private theorem view_mark (s : Styled) (start stop : Nat) (markup : Markup) :
    (s.mark start stop markup).view = s.view.mapIdx fun i x =>
      if start ≤ i ∧ i < min stop s.length then (x.1, x.2 ++ [markup]) else x := by
  refine List.ext_getElem? fun i => ?_
  rw [List.getElem?_mapIdx, view_getElem?, view_getElem?, Option.map_map]
  unfold mark
  dsimp only
  split
  · refine congrArg (Option.map · _) (funext fun c => ?_)
    rw [stylesAt_append, stylesAt_singleton, Function.comp_apply]
    by_cases hi : start ≤ i ∧ i < min stop s.length
    · rw [if_pos hi, if_pos hi]
    · rw [if_neg hi, if_neg hi, List.append_nil]
  · -- Nothing is marked, and no character is between the bounds.
    refine congrArg (Option.map · _) (funext fun c => ?_)
    rw [Function.comp_apply, if_neg (by omega)]

/-- To change the characters of a text one by one is to change those of the view. -/
private theorem view_mapChars (s : Styled) (f : Char → Char) :
    (s.mapChars f).view = s.view.map (Prod.map f id) := by
  have hchars : (s.mapChars f).chars = s.chars.map f := rfl
  refine List.ext_getElem? fun i => ?_
  rw [List.getElem?_map, view_getElem?, view_getElem?, hchars, List.getElem?_map, Option.map_map,
    Option.map_map]
  rfl

/-- The spans stay as they are. -/
theorem WellFormed.mapChars (hs : s.WellFormed) (f : Char → Char) :
    (s.mapChars f).WellFormed :=
  hs

/-! ### What the operations build -/

/-- The texts that the operations build.  The number is that of the characters, as each operation
    works it out from the numbers of the texts it is given.  The other operations are made of these:
    pieces of a text are cut out of it, and joining is appending. -/
inductive Built : Nat → Styled → Prop
  | empty : Built 0 empty
  | ofChars (cs : List Char) : Built cs.length (ofChars cs)
  | marked (cs : List Char) (markup : Markup) : Built cs.length (marked cs markup)
  | mark {n : Nat} {s : Styled} (h : Built n s) (start stop : Nat) (markup : Markup) :
      Built n (s.mark start stop markup)
  | slice {n : Nat} {s : Styled} (h : Built n s) (start stop : Nat) :
      Built (min stop n - start) (s.slice start stop)
  | append {n m : Nat} {s t : Styled} (hs : Built n s) (ht : Built m t) : Built (n + m) (s ++ t)
  | appendChars {n : Nat} {s : Styled} (h : Built n s) (cs : List Char) :
      Built (n + cs.length) (s.appendChars cs)
  | upper {n : Nat} {s : Styled} (h : Built n s) : Built n s.upper
  | lower {n : Nat} {s : Styled} (h : Built n s) : Built n s.lower

namespace Built

variable {n : Nat}

/-- The number that is kept along the way is that of the characters. -/
private theorem count_eq (h : Built n s) : n = s.length := by
  induction h with
  | empty => rfl
  | ofChars cs => rfl
  | marked cs markup => exact (length_mark (Styled.ofChars cs) 0 cs.length markup).symm
  | mark h start stop markup ih => rw [length_mark, ih]
  | slice h start stop ih => rw [length_slice, ih]
  | append hs ht ihs iht =>
    rw [ihs, iht]
    rfl
  | appendChars h cs ih =>
    rw [ih]
    rfl
  | upper h ih => exact ih
  | lower h ih => exact ih

/-- **Whatever the operations build is well-formed.** -/
theorem wellFormed (h : Built n s) : s.WellFormed := by
  induction h with
  | empty => exact wellFormed_empty
  | ofChars cs => exact wellFormed_ofChars cs
  | marked cs markup => exact (wellFormed_ofChars cs).mark 0 cs.length markup
  | mark h start stop markup ih => exact ih.mark start stop markup
  | slice h start stop ih => exact ih.slice start stop
  | append hs ht ihs iht => exact (ihs.append iht).1
  | appendChars h cs ih => exact ih.appendChars cs
  | upper h ih => exact ih.mapChars Char.toUpper
  | lower h ih => exact ih.mapChars Char.toLower

/-- The pieces of a text are built. -/
theorem split (h : Built n s) {d : Char} {piece : Styled} (hpiece : piece ∈ s.split d) :
    ∃ m, Built m piece := by
  obtain ⟨start, stop, rfl⟩ := exists_slice_of_mem_split hpiece
  exact ⟨_, h.slice start stop⟩

/-- A text that is joined from such texts is built. -/
theorem join (h : Built n s) {items : List Styled} (hitems : ∀ x ∈ items, ∃ m, Built m x) :
    ∃ m, Built m (s.join items) := by
  -- What is joined so far is built, and so is what it becomes with each item.
  have hfold : ∀ (items : List Styled) (acc : Styled), (∀ x ∈ items, ∃ m, Built m x) →
      (∃ m, Built m acc) → ∃ m, Built m (items.foldl (fun acc x => (acc ++ s) ++ x) acc) := by
    intro items
    induction items with
    | nil => exact fun _ _ hacc => hacc
    | cons y items ih =>
      rintro acc hitems ⟨l, hacc⟩
      obtain ⟨⟨k, hy⟩, hitems⟩ := List.forall_mem_cons.mp hitems
      exact ih _ hitems ⟨_, (hacc.append h).append hy⟩
  cases items with
  | nil => exact ⟨0, .empty⟩
  | cons x items =>
    obtain ⟨⟨m, hx⟩, hitems⟩ := List.forall_mem_cons.mp hitems
    exact hfold items _ hitems ⟨_, Built.empty.append hx⟩

/-- **The operations on styled texts are list operations on styled characters.**  Whatever the
    operations build has as many characters as were counted and spans that lie in the text, and on
    such texts each operation does to the view what its name says. -/
theorem view_operations (h : Built n s) :
    n = s.chars.length ∧
    (∀ span ∈ s.spans, span.start < span.stop ∧ span.stop ≤ n) ∧
    (∀ m t, Built m t → (s ++ t).view = s.view ++ t.view) ∧
    (∀ cs, (s.appendChars cs).view = s.view ++ cs.map (·, [])) ∧
    (∀ start stop, (s.slice start stop).view = (s.view.take stop).drop start) ∧
    (∀ start count, (s.substring start count).view = (s.view.drop start).take count ∧
      ∃ m, Built m (s.substring start count)) ∧
    (∀ d, (s.split d).map view = s.view.splitOnP (·.1 == d) ∧
      ∀ piece ∈ s.split d, ∃ m, Built m piece) ∧
    (s.trim.view = (s.view.dropWhile (Text.isBlank ·.1)).rdropWhile (Text.isBlank ·.1) ∧
      ∃ m, Built m s.trim) ∧
    (∀ items, (∀ x ∈ items, ∃ m, Built m x) →
      (s.join items).view = s.view.intercalate (items.map view) ∧ ∃ m, Built m (s.join items)) ∧
    s.upper.view = s.view.map (Prod.map Char.toUpper id) ∧
    s.lower.view = s.view.map (Prod.map Char.toLower id) ∧
    (∀ start stop markup, (s.mark start stop markup).view = s.view.mapIdx fun i x =>
      if start ≤ i ∧ i < min stop n then (x.1, x.2 ++ [markup]) else x) := by
  have hs := h.wellFormed
  obtain rfl := h.count_eq
  refine ⟨s.length_eq, fun span hspan => ⟨(hs span hspan).nonempty, (hs span hspan).inside⟩,
    fun m t ht => view_append hs ht.wellFormed, view_appendChars hs, s.view_slice,
    fun start count => ⟨s.view_substring start count, _, h.slice start (start + count)⟩,
    fun d => ⟨s.view_split d, fun piece hpiece => h.split hpiece⟩, ⟨s.view_trim, _, h.slice _ _⟩,
    fun items hitems => ⟨view_join hs fun x hx => ?_, h.join hitems⟩, s.view_mapChars Char.toUpper,
    s.view_mapChars Char.toLower, s.view_mark⟩
  obtain ⟨m, hm⟩ := hitems x hx
  exact hm.wellFormed

/-- Two red words, whose spans become one, with a link over the seam: cutting behind the seam keeps
    both markups in their order, as far as the link goes. -/
theorem seam_view_operations :
    let red := Markup.style { foreground := some .red }
    let link := Markup.link "seam"
    let s := (Styled.marked ['a', 'b'] red ++ Styled.marked ['c', 'd'] red).mark 1 3 link
    s.spans = [⟨0, 4, red⟩, ⟨1, 3, link⟩] ∧ Built 4 s ∧
      (s.slice 2 9).view = [('c', [red, link]), ('d', [red])] := by
  intro red link s
  have h : Built 4 s :=
    ((Built.marked ['a', 'b'] red).append (.marked ['c', 'd'] red)).mark 1 3 link
  exact ⟨by decide, h, (h.view_operations.2.2.2.2.1 2 9).trans (by decide)⟩

end Built

end Styled

end Softcode
