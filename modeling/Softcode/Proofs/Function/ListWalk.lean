import Softcode.Function.Standard
import Softcode.Proofs.Evaluation.Follows
import Softcode.Proofs.Results
import Softcode.Proofs.Styled.View

namespace Softcode

/-!
# Walking a list

The elements of a list can be had one by one, as the first element, the first of the rest, the first
of the rest of that and so on, or all in turn as what `iter` hands to its second argument.  On the
way, the rest is put together again and cut again.  With a delimiter of its own a list comes apart
as before.  Where spaces delimit, what is cut off at both ends are blanks of all kinds, so that an
element which begins with another blank loses it, or is lost, once it comes to stand first.

* `visits_elements` — `iter` hands over the elements;
* `cut_intercalate_of_ne`, `wordsOf_intercalate` — when elements that are put together come apart as
  before;
* `map_view_steps` — then the walk comes to the same elements;
* `walk_eq_visited_iff` — and only then.
-/

open Styled

/-! ### What the functions do -/

/-- The value of a standard function of values, if it takes as many. -/
def standardValue? (name : String) (values : List Styled) : Option Styled :=
  (standardFunctions.get? name).bind fun f =>
    match f.body with
    | .native g => if f.accepts values.length then some (g values) else none
    | _ => none

/-- The first element of a list, the first of its rest, the first of the rest of that, and so on. -/
def walk (delimiter : Option Styled) : Nat → Styled → Option (List Styled)
  | 0, _ => some []
  | n + 1, list => do
    let x ← standardValue? "first" (list :: delimiter.toList)
    let rest ← standardValue? "rest" (list :: delimiter.toList)
    return x :: (← walk delimiter n rest)

/-- An argument with a known value. -/
def LazyArgument.known (value : Styled) : LazyArgument :=
  ⟨value, value.isEmpty, fun _ => pure value⟩

/-- An argument that takes note of the element that the innermost loop is at. -/
def LazyArgument.noting (note : Styled → EvalState → EvalState) : LazyArgument where
  raw := {}
  isEmpty := false
  eval stack := do
    modify fun s => (stack.top.iteration? 0).elim s fun i => note i.value s
    return {}

/-- Does `iter` hand over the texts one after the other?  That is, whatever its second argument
    notes of the elements, it notes it of these, as long as it does not ask the loop to stop. -/
def Visits (list : Styled) (delimiter : Option Styled) (ys : List Styled) : Prop :=
  ∃ f g, standardFunctions.get? "iter" = some f ∧ f.noParse = true ∧ f.body = .engine g ∧
    f.accepts (2 + delimiter.toList.length) = true ∧
    ∀ (c : Call) (note : Styled → EvalState → EvalState) (s : EvalState),
      c.args = .known list :: .noting note :: (delimiter.map LazyArgument.known).toList →
      (∀ x s, (note x s).halted = s.halted) → s.loops ∉ s.halted →
      ∃ value, (g.run c).run.run s
        = (.ok value, ys.foldl (fun s x => note x s) { s with loops := s.loops + 1 })

section

variable {c : Call} {note : Styled → EvalState → EvalState}

/-- The loop goes through all its elements, since nothing asks it to stop. -/
private theorem run_evalElements (hbody : c.args[1]? = some (.noting note))
    (hnote : ∀ x s, (note x s).halted = s.halted) {loop : LoopId} (xs : List Styled) (index : Nat)
    {s : EvalState} (hloop : loop ∉ s.halted) :
    ∃ values, (c.evalElements loop index xs).run.run s
      = (.ok values, xs.foldl (fun s x => note x s) s) := by
  induction xs generalizing index s with
  | nil => exact ⟨[], rfl⟩
  | cons x xs ih =>
    have hrun : (c.evalIn 1 (c.stack.push (c.frame.iterate ⟨x, index, loop⟩))).run.run s
        = (.ok {}, note x s) := by
      rw [Call.evalIn, hbody]
      rfl
    -- Noting does not ask the loop to stop, so the next element has its turn.
    have hnext : loop ∉ (note x s).halted := by rwa [hnote]
    obtain ⟨values, hvalues⟩ := ih (index + 1) hnext
    refine ⟨{} :: values, ?_⟩
    rw [Call.evalElements, EarlyM.run_bind, hrun]
    dsimp only
    rw [run_get_bind, if_neg (by simpa using hnext), EarlyM.run_bind, hvalues]
    rfl

/-- What `iter` hands to its second argument are the elements of its list. -/
theorem visits_elements (list : Styled) (delimiter : Option Styled) :
    Visits list delimiter (elements list (delimiter? delimiter)) := by
  refine ⟨_, _, rfl, rfl, rfl, by cases delimiter <;> rfl, fun c note s hargs hnote hs => ?_⟩
  have hlist : (c.eval 0).run.run s = (.ok list, s) := by
    rw [Call.eval, Call.evalIn, hargs]
    rfl
  -- An argument that is not there has an empty value, which delimits like none.
  have hdelimiter : ∃ d, (c.eval 2).run.run s = (.ok d, s) ∧
      d.chars.head? = delimiter? delimiter := by
    rw [Call.eval, Call.evalIn, hargs]
    cases delimiter with
    | none => exact ⟨{}, rfl, rfl⟩
    | some d => exact ⟨d, rfl, rfl⟩
  obtain ⟨d, hd, hhead⟩ := hdelimiter
  have hfew : ¬ 3 < c.args.length := by
    rw [hargs]
    cases delimiter <;> simp
  -- The loop has a number of its own, so nobody has asked it to stop.
  obtain ⟨values, hvalues⟩ := run_evalElements (c := c) (by rw [hargs]; rfl) hnote
    (elements list (delimiter? delimiter)) 1 (s := { s with loops := s.loops + 1 }) hs
  refine ⟨.join (separator (delimiter? delimiter)) values, ?_⟩
  show c.iterateOver.run.run s = _
  rw [Call.iterateOver, EarlyM.run_bind, hlist]
  dsimp only
  rw [EarlyM.run_bind, hd]
  dsimp only
  rw [hhead, if_neg hfew, pure_bind, EvalM.newLoop, run_modifyGet_bind]
  dsimp only
  rw [EarlyM.run_bind, hvalues]
  rfl

end

/-! ### Elements as styled characters -/

/-- The words of a text with styled characters. -/
def wordsOf (xs : List (Char × List Markup)) : List (List (Char × List Markup)) :=
  (((xs.dropWhile (Text.isBlank ·.1)).rdropWhile (Text.isBlank ·.1)).splitOnP (·.1 == ' ')).filter
    (!·.isEmpty)

/-- The elements of a list with styled characters. -/
def cut (d : Option Char) (xs : List (Char × List Markup)) : List (List (Char × List Markup)) :=
  match d.filter (· ≠ ' ') with
  | some d => xs.splitOnP (·.1 == d)
  | none => wordsOf xs

/-- The elements of a list, with the markup of each character. -/
private theorem map_view_elements (list : Styled) (d : Option Char) :
    (elements list d).map view = cut d list.view := by
  unfold elements cut
  cases d.filter (· ≠ ' ') with
  | some d => exact view_split list d
  | none =>
    -- Whether a word is empty can be seen, so words may be left out before or after.
    have hempty : (fun word : Styled => !word.isEmpty) = (fun xs => !xs.isEmpty) ∘ view := by
      funext word
      rw [Function.comp_apply, Styled.isEmpty, ← length_view]
      cases word.view with
      | nil => rfl
      | cons x xs => rfl
    dsimp only
    rw [hempty, ← List.filter_map, view_split, view_trim]
    rfl

/-- Elements are pieces of the list. -/
private theorem wellFormed_of_mem_elements {list y : Styled} (hlist : list.WellFormed)
    {d : Option Char} (hy : y ∈ elements list d) : y.WellFormed := by
  unfold elements at hy
  split at hy
  · obtain ⟨start, stop, rfl⟩ := exists_slice_of_mem_split hy
    exact hlist.slice start stop
  · obtain ⟨start, stop, rfl⟩ := exists_slice_of_mem_split (List.mem_of_mem_filter hy)
    exact (hlist.slice _ _).slice start stop

/-! ### Putting elements together again -/

section

variable {α : Type} {p : α → Bool} {x : α} {xs : List α} {ws : List (List α)}

/-- No piece holds a character at which the text was cut. -/
private theorem not_of_mem_splitOnP {w : List α} (hw : w ∈ xs.splitOnP p) :
    ∀ y ∈ w, p y = false := by
  induction xs generalizing w with
  | nil => simp_all [List.splitOnP_nil]
  | cons x xs ih =>
    rw [List.splitOnP_cons_eq_if_modifyHead] at hw
    split at hw
    · obtain rfl | hw := List.mem_cons.mp hw
      · simp
      · exact ih hw
    · -- The character comes in front of the first piece.
      rename_i hx
      obtain ⟨v, vs, hvs⟩ := List.exists_cons_of_ne_nil (List.splitOnP_ne_nil p xs)
      rw [hvs, List.modifyHead_cons] at hw
      rw [hvs] at ih
      obtain rfl | hw := List.mem_cons.mp hw
      · exact List.forall_mem_cons.mpr ⟨by simpa using hx, ih List.mem_cons_self⟩
      · exact ih (List.mem_cons_of_mem v hw)

/-- Pieces between which such a character is put come apart as before. -/
private theorem splitOnP_intercalate (hx : p x = true) (hws : ∀ w ∈ ws, ∀ y ∈ w, p y = false)
    (hne : ws ≠ []) :
    ([x].intercalate ws).splitOnP p = ws := by
  induction ws with
  | nil => exact absurd rfl hne
  | cons w ws ih =>
    have hw := hws w List.mem_cons_self
    cases ws with
    | nil => rw [List.intercalate_singleton, List.splitOnP_eq_singleton hw]
    | cons v vs =>
      rw [List.intercalate_cons_cons, List.append_assoc, List.singleton_append,
        List.splitOnP_append_cons _ _ hx, List.splitOnP_eq_singleton hw,
        ih (fun u hu => hws u (List.mem_cons_of_mem w hu)) (by simp)]
      rfl

/-- A text that begins with another character than those at which it is cut begins with its first
    piece. -/
private theorem splitOnP_cons_of_not (hx : p x = false) :
    ∃ w ws, (x :: xs).splitOnP p = (x :: w) :: ws := by
  obtain ⟨w, ws, hws⟩ := List.exists_cons_of_ne_nil (List.splitOnP_ne_nil p xs)
  exact ⟨w, ws, by rw [List.splitOnP_cons_eq_if_modifyHead, hx, hws]; rfl⟩

/-- A text that ends with another character than those at which it is cut ends with its last
    piece. -/
private theorem splitOnP_concat_of_not (hx : p x = false) :
    ∃ ws w, (xs ++ [x]).splitOnP p = ws ++ [w ++ [x]] := by
  induction xs with
  | nil =>
    exact ⟨[], [], by rw [List.nil_append, List.splitOnP_eq_singleton (by simpa using hx)]; rfl⟩
  | cons y xs ih =>
    obtain ⟨ws, w, h⟩ := ih
    rw [List.cons_append, List.splitOnP_cons_eq_if_modifyHead, h]
    split
    · exact ⟨[] :: ws, w, rfl⟩
    · -- The character comes in front of the first piece, which may be the last one too.
      cases ws with
      | nil => exact ⟨[], y :: w, rfl⟩
      | cons v vs => exact ⟨(y :: v) :: vs, w, rfl⟩

/-- Pieces that are put together begin as the first one. -/
private theorem head?_intercalate {w : List α} (hw : w ≠ []) :
    ([x].intercalate (w :: ws)).head? = w.head? := by
  obtain ⟨y, w, rfl⟩ := List.exists_cons_of_ne_nil hw
  cases ws with
  | nil => rw [List.intercalate_singleton]
  | cons v vs => rw [List.intercalate_cons_cons]; rfl

/-- Joined texts end as the last one does. -/
private theorem getLast?_intercalate (hws : ∀ w ∈ ws, w ≠ []) :
    ([x].intercalate ws).getLast? = ws.getLast?.bind List.getLast? := by
  induction ws with
  | nil => rfl
  | cons w ws ih =>
    cases ws with
    | nil => rw [List.intercalate_singleton]; rfl
    | cons v vs =>
      -- What stands behind the first piece is not empty, so the last is found there.
      have hne : ([x].intercalate (v :: vs)).getLast? ≠ none := by
        rw [Ne, List.getLast?_eq_none_iff, ← List.head?_eq_none_iff,
          head?_intercalate (hws v (by simp)), List.head?_eq_none_iff]
        exact hws v (by simp)
      rw [List.intercalate_cons_cons, List.getLast?_append_of_ne_nil, List.getLast?_cons_cons]
      · exact ih fun u hu => hws u (List.mem_cons_of_mem w hu)
      · exact fun h => hne (by rw [h]; rfl)

/-- What is left without the blanks at both ends begins and ends with other characters. -/
private theorem not_head_trim {t : List α} (h : (xs.dropWhile p).rdropWhile p = x :: t) :
    p x = false := by
  obtain ⟨rest, hrest⟩ := h ▸ List.rdropWhile_prefix p (xs.dropWhile p)
  simpa [← hrest] using List.head?_dropWhile_not p xs

private theorem not_getLast_trim {t : List α} (h : (xs.dropWhile p).rdropWhile p = t ++ [x]) :
    p x = false := by
  have hlast := List.rdropWhile_last_not p (xs.dropWhile p) (by simp [h])
  simpa [h] using hlast

end

variable {xs : List (Char × List Markup)} {ws : List (List (Char × List Markup))} {d : Option Char}

/-- Does the text begin with a blank? -/
def Styled.startsBlank (s : Styled) : Bool := s.chars.head?.any Text.isBlank

private theorem ne_space_of_not_isBlank {x : Char × List Markup} (hx : Text.isBlank x.1 = false) :
    (x.1 == ' ') = false := by
  rw [beq_eq_false_iff_ne]
  intro h
  rw [h] at hx
  exact absurd hx (by decide)

/-- Are these words, of which the last does not end with a blank?  Words are not empty and hold no
    space. -/
structure AreWords (ws : List (List (Char × List Markup))) : Prop where
  ne_nil : ∀ w ∈ ws, w ≠ []
  ne_space : ∀ w ∈ ws, ∀ x ∈ w, (x.1 == ' ') = false
  solidEnd : (ws.getLast?.bind List.getLast?).any (Text.isBlank ·.1) = false

/-- The last words of a text are words. -/
private theorem AreWords.of_suffix {vs : List (List (Char × List Markup))} (h : AreWords ws)
    (hvs : vs <:+ ws) :
    AreWords vs where
  ne_nil w hw := h.ne_nil w (hvs.mem hw)
  ne_space w hw := h.ne_space w (hvs.mem hw)
  solidEnd := by
    obtain ⟨us, rfl⟩ := hvs
    by_cases hne : vs = []
    · subst hne
      rfl
    · have hend := h.solidEnd
      rwa [List.getLast?_append_of_ne_nil _ hne] at hend

/-- The words of a text are words. -/
private theorem areWords_wordsOf : AreWords (wordsOf xs) where
  ne_nil w hw := by simpa using (List.mem_filter.mp hw).2
  ne_space w hw := not_of_mem_splitOnP (List.mem_of_mem_filter hw)
  solidEnd := by
    unfold wordsOf
    obtain htrim | ⟨t, x, htrim⟩ :=
      List.eq_nil_or_concat' ((xs.dropWhile (Text.isBlank ·.1)).rdropWhile (Text.isBlank ·.1))
    · rw [htrim]
      rfl
    · -- What is left by trimming ends in a character that is no blank, which no cut can be at.
      have hx := not_getLast_trim htrim
      obtain ⟨ws, w, hws⟩ :=
        splitOnP_concat_of_not (p := fun x : Char × List Markup => x.1 == ' ')
          (ne_space_of_not_isBlank hx)
      rw [htrim, hws]
      simp [hx]

/-- The first word of a text does not begin with a blank, of whatever kind. -/
private theorem head?_wordsOf (xs : List (Char × List Markup)) :
    ((wordsOf xs).head?.bind List.head?).any (Text.isBlank ·.1) = false := by
  unfold wordsOf
  cases htrim : (xs.dropWhile (Text.isBlank ·.1)).rdropWhile (Text.isBlank ·.1) with
  | nil => rfl
  | cons x t =>
    have hx := not_head_trim htrim
    obtain ⟨w, ws, hws⟩ :=
      splitOnP_cons_of_not (p := fun x : Char × List Markup => x.1 == ' ')
        (ne_space_of_not_isBlank hx)
    rw [hws]
    simp [hx]

/-- Words none of which begins with a blank come apart as before when spaces are put between
    them. -/
theorem wordsOf_intercalate (hws : AreWords ws)
    (hstart : ∀ w ∈ ws, w.head?.any (Text.isBlank ·.1) = false) :
    wordsOf ([(' ', [])].intercalate ws) = ws := by
  cases ws with
  | nil => rfl
  | cons w ws =>
    -- There is nothing to cut off at either end.
    generalize htext : [(' ', [])].intercalate (w :: ws) = text
    have hhead : text.head?.any (Text.isBlank ·.1) = false := by
      rw [← htext, head?_intercalate (hws.ne_nil w List.mem_cons_self)]
      exact hstart w List.mem_cons_self
    have hlast : text.getLast?.any (Text.isBlank ·.1) = false := by
      rw [← htext, getLast?_intercalate hws.ne_nil]
      exact hws.solidEnd
    have hleading : text.dropWhile (Text.isBlank ·.1) = text := by
      cases text with
      | nil => rfl
      | cons x text => exact List.dropWhile_cons_of_neg (by simpa using hhead)
    have htrailing : text.rdropWhile (Text.isBlank ·.1) = text := by
      refine List.rdropWhile_eq_self_iff.mpr fun hne => ?_
      simpa [List.getLast?_eq_some_getLast hne] using hlast
    rw [wordsOf, hleading, htrailing, ← htext, splitOnP_intercalate rfl hws.ne_space (by simp)]
    exact List.filter_eq_self.mpr fun v hv => by simpa using hws.ne_nil v hv

/-- Elements between which a delimiter other than the space is put come apart as before. -/
theorem cut_intercalate_of_ne {d : Char} (hd : d ≠ ' ')
    (hws : ∀ w ∈ ws, ∀ x ∈ w, (x.1 == d) = false) (hne : ws ≠ []) :
    cut (some d) ([(d, [])].intercalate ws) = ws := by
  have hfilter : (some d).filter (· ≠ ' ') = some d := by simp [hd]
  rw [cut, hfilter]
  exact splitOnP_intercalate (by simp) hws hne

/-! ### The walk -/

/-- What the walk comes to. -/
def steps (d : Option Char) : Nat → Styled → List Styled
  | 0, _ => []
  | n + 1, list =>
    (elements list d).headD {} :: steps d n (.join (separator d) ((elements list d).drop 1))

section

variable (delimiter : Option Styled) (list : Styled)

/-- A function that takes up to two values takes a list with or without a delimiter. -/
private theorem standardValue?_list {name : String} {f : List Styled → Styled}
    (h : standardFunctions.get? name = some (.native name 0 (some 2) f)) :
    standardValue? name (list :: delimiter.toList) = some (f (list :: delimiter.toList)) := by
  rw [standardValue?, h]
  cases delimiter <;> rfl

/-- The delimiter is the second value, if there is one. -/
private theorem delimiter_given : (list :: delimiter.toList)[1]? = delimiter := by
  cases delimiter <;> rfl

/-- What `words` counts are the elements. -/
private theorem standardValue?_words : standardValue? "words" (list :: delimiter.toList)
    = some (.ofChars (Number.natText (elements list (delimiter? delimiter)).length)) := by
  rw [standardValue?_list delimiter list rfl, givenElements, delimiter_given]
  rfl

/-- What `first` gives is the first element. -/
private theorem standardValue?_first : standardValue? "first" (list :: delimiter.toList)
    = some ((elements list (delimiter? delimiter)).headD {}) := by
  rw [standardValue?_list delimiter list rfl, givenElements, delimiter_given]
  rfl

/-- What `rest` gives are the other elements, put together again. -/
private theorem standardValue?_rest : standardValue? "rest" (list :: delimiter.toList)
    = some (.join (separator (delimiter? delimiter))
      ((elements list (delimiter? delimiter)).drop 1)) := by
  rw [standardValue?_list delimiter list rfl, givenElements, delimiter_given]
  rfl

/-- The functions take these steps. -/
private theorem walk_eq_steps (n : Nat) :
    walk delimiter n list = some (steps (delimiter? delimiter) n list) := by
  induction n generalizing list with
  | zero => rfl
  | succ n ih =>
    rw [walk, standardValue?_first, standardValue?_rest]
    simp [ih, steps]

end

/-- Texts that are put together from well-formed ones are well-formed. -/
private theorem wellFormed_join {s : Styled} (hs : s.WellFormed) {items : List Styled}
    (hitems : ∀ x ∈ items, x.WellFormed) :
    (join s items).WellFormed := by
  cases items with
  | nil => exact wellFormed_empty
  | cons x items =>
    obtain ⟨hx, hitems⟩ := List.forall_mem_cons.mp hitems
    exact (foldl_join hs hitems (wellFormed_empty.append hx).1).1

/-- As long as the elements that are left come apart as before, the walk comes to them. -/
theorem map_view_steps {list : Styled} (hlist : list.WellFormed) (hcut : cut d list.view = ws)
    (hagain : ∀ vs, vs ≠ [] → vs <:+ ws.tail → cut d ([(d.getD ' ', [])].intercalate vs) = vs) :
    (steps d ws.length list).map view = ws := by
  induction ws generalizing list with
  | nil => rfl
  | cons w ws ih =>
    rw [← map_view_elements] at hcut
    obtain ⟨y, ys, hys, rfl, rfl⟩ := List.map_eq_cons_iff.mp hcut
    have hwell : ∀ x ∈ ys, x.WellFormed := fun x hx =>
      wellFormed_of_mem_elements hlist (hys ▸ List.mem_cons_of_mem y hx)
    -- Behind the last element the walk is over: the rest is empty then, and cut again it could be
    -- one element.
    have hrest : (steps d (ys.map view).length (.join (separator d) ys)).map view
        = ys.map view := by
      by_cases hne : ys = []
      · subst hne
        rfl
      · have hseparator : (separator d).WellFormed := wellFormed_ofChars _
        refine ih (wellFormed_join hseparator hwell) ?_ fun vs hvs htail =>
          hagain vs hvs (htail.trans (List.tail_suffix _))
        rw [view_join hseparator hwell]
        exact hagain _ (by simpa using hne) List.suffix_rfl
    rw [List.length_cons, steps, hys, List.map_cons]
    exact congrArg (y.view :: ·) hrest

/-- Whether a text begins with a blank can be seen. -/
private theorem startsBlank_eq (s : Styled) :
    s.startsBlank = s.view.head?.any (Text.isBlank ·.1) := by
  rw [startsBlank, List.head?_eq_getElem?, List.head?_eq_getElem?, view_getElem?, Option.any_map]

/-- Where spaces delimit, no element begins with a blank when it stands first. -/
private theorem startsBlank_of_mem_steps (hd : d.filter (· ≠ ' ') = none) {n : Nat}
    {list x : Styled} (hx : x ∈ steps d n list) : x.startsBlank = false := by
  induction n generalizing list with
  | zero => cases hx
  | succ n ih =>
    obtain rfl | hx := List.mem_cons.mp hx
    · -- A word is the first of what is left, and what is left has been trimmed.
      have hcut : (elements list d).map view = wordsOf list.view := by
        rw [map_view_elements, cut, hd]
      have hhead := hcut ▸ head?_wordsOf list.view
      cases hys : elements list d with
      | nil => rfl
      | cons y ys =>
        rw [hys] at hhead
        rw [List.headD_cons, startsBlank_eq]
        exact hhead
    · exact ih hx

section

variable {list : Styled} (hlist : list.WellFormed)

include hlist

/-- With a delimiter of its own a list can be walked. -/
private theorem map_view_steps_of_ne {c : Char} (hc : c ≠ ' ') :
    (steps (some c) (elements list (some c)).length list).map view
      = (elements list (some c)).map view := by
  have hcut : cut (some c) list.view = list.view.splitOnP (·.1 == c) := by
    rw [cut, Option.filter_some_pos (by simpa using hc)]
  rw [← List.length_map (f := view), map_view_elements]
  refine map_view_steps hlist rfl fun vs hvs htail => cut_intercalate_of_ne hc (fun w hw => ?_) hvs
  exact not_of_mem_splitOnP (hcut ▸ List.mem_of_mem_tail (htail.mem hw))

/-- Where spaces delimit, a list can be walked if no element begins with a blank. -/
private theorem map_view_steps_of_startsBlank (hd : d.filter (· ≠ ' ') = none)
    (hstart : ∀ y ∈ elements list d, y.startsBlank = false) :
    (steps d (elements list d).length list).map view = (elements list d).map view := by
  have hcut : ∀ xs, cut d xs = wordsOf xs := fun xs => by rw [cut, hd]
  have hdelimiter : d.getD ' ' = ' ' := by
    cases d with
    | none => rfl
    | some c => simpa using hd
  rw [← List.length_map (f := view), map_view_elements]
  -- Every rest is a list of words with single spaces between them.
  refine map_view_steps hlist rfl fun vs _ htail => ?_
  have hvs : vs <:+ cut d list.view := htail.trans (List.tail_suffix _)
  rw [hdelimiter, hcut]
  refine wordsOf_intercalate (areWords_wordsOf.of_suffix (hcut _ ▸ hvs)) fun w hw => ?_
  obtain ⟨y, hy, rfl⟩ := List.mem_map.mp (map_view_elements list d ▸ hvs.mem hw)
  rw [← startsBlank_eq]
  exact hstart y hy

/-- **When a walk comes to the elements.** -/
private theorem map_view_steps_iff (d : Option Char) :
    (steps d (elements list d).length list).map view = (elements list d).map view ↔
      (∃ c, d = some c ∧ c ≠ ' ') ∨ ∀ y ∈ elements list d, y.startsBlank = false := by
  cases hd : d.filter (· ≠ ' ') with
  | some c =>
    obtain ⟨rfl, hc⟩ := Option.filter_eq_some_iff.mp hd
    have hne : c ≠ ' ' := by simpa using hc
    exact iff_of_true (map_view_steps_of_ne hlist hne) (.inl ⟨c, rfl, hne⟩)
  | none =>
    constructor
    · intro h
      -- The walk comes to every element, and whatever it comes to stands first then.
      refine .inr fun y hy => ?_
      obtain ⟨x, hx, hview⟩ := List.mem_map.mp (h ▸ List.mem_map_of_mem (f := view) hy)
      rw [startsBlank_eq, ← hview, ← startsBlank_eq]
      exact startsBlank_of_mem_steps hd hx
    · rintro (⟨c, rfl, hne⟩ | hstart)
      · exact absurd (by simpa using hd) hne
      · exact map_view_steps_of_startsBlank hlist hd hstart

end

/-- **A walk comes to what a loop comes to** if the delimiter is a character other than the space or
    no element begins with a blank, and only then.  The walk takes as many steps as there are
    words. -/
theorem walk_eq_visited_iff {list : Styled} (hlist : list.WellFormed) (delimiter : Option Styled) :
    let ys := elements list (delimiter? delimiter)
    Visits list delimiter ys ∧
      standardValue? "words" (list :: delimiter.toList)
        = some (.ofChars (Number.natText ys.length)) ∧
      ∃ xs, walk delimiter ys.length list = some xs ∧
        (xs.map view = ys.map view ↔
          (∃ c, delimiter? delimiter = some c ∧ c ≠ ' ') ∨ ∀ y ∈ ys, y.startsBlank = false) :=
  ⟨visits_elements list delimiter, standardValue?_words delimiter list, _,
    walk_eq_steps delimiter list _, map_view_steps_iff hlist _⟩

/-- Blanks inside and behind a word do no harm, and the markup comes along. -/
theorem linked_walk_eq_visited :
    let list := Styled.marked " a  b\tc\u00a0 d ".toList (.link "list")
    let ys := elements list none
    list.WellFormed ∧ Visits list none ys ∧ standardValue? "words" [list] = some (.ofString "3") ∧
      ys.map (·.chars) = ["a", "b\tc\u00a0", "d"].map (·.toList) ∧
      ∃ xs, walk none 3 list = some xs ∧ xs.map view = ys.map view := by
  intro list ys
  have hlist : list.WellFormed := (wellFormed_ofChars _).mark 0 _ _
  have hlength : ys.length = 3 := by decide +kernel
  obtain ⟨hvisits, hwords, xs, hwalk, hiff⟩ := walk_eq_visited_iff hlist none
  exact ⟨hlist, hvisits, hwords.trans (by decide +kernel), by decide +kernel, xs, hlength ▸ hwalk,
    hiff.mpr (.inr (by decide +kernel))⟩

/-- A tab between spaces is an element that is lost once it stands first. -/
theorem tab_lost_in_walk :
    let list := Styled.ofString "a \t b"
    Visits list none (["a", "\t", "b"].map .ofString) ∧
      standardValue? "words" [list] = some (.ofString "3") ∧
      walk none 3 list = some (["a", "b", ""].map .ofString) := by
  have helements : elements (.ofString "a \t b") none = ["a", "\t", "b"].map .ofString := by
    decide +kernel
  refine ⟨helements ▸ visits_elements _ none, by decide +kernel, by decide +kernel⟩

end Softcode
