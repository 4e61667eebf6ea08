import Mathlib.Data.List.Induction
import Mathlib.Data.Nat.Init
import Softcode.Source.Position

namespace Softcode

/-!
# Places follow offsets

The place of an offset is looked up among the beginnings of the lines, which are strictly
increasing (`LineIndex.starts_increasing`) and are the offsets behind the newlines
(`LineIndex.mem_startsAfter`).  The search either finds the offset among them or the first line that
begins behind it (`binarySearch_ok`, `binarySearch_error`); in both cases the line is the last one
that has begun (`LineIndex.line_spec`).  What the place says can then be read off the characters
before it: how many newlines there are, and how many characters stand behind the last one.  So
places are in the order of the offsets, and on one line they are as far apart.

* `LineIndex.position_ofChars` — the place of an offset, by the characters before it;
* `LineIndex.position_succ` — the place behind one more character;
* `LineIndex.position_before_iff`, `LineIndex.contains_position` — places are ordered as their
  offsets are;
* `LineIndex.position_of_line` — the places on one line;
* `LineIndex.position_exact` — places are exact, and ranges hold the places between their ends.
-/

/-! ### The order of places -/

namespace Position

variable {p q r : Position}

/-- The lines are compared first, and then the characters. -/
theorem before_iff :
    p.before q ↔ p.line < q.line ∨ p.line = q.line ∧ p.character < q.character := by
  simp [before]

/-- The order of places is transitive. -/
private theorem before_trans (hpq : p.before q) (hqr : q.before r) : p.before r := by
  rw [before_iff] at hpq hqr ⊢
  omega

private theorem not_before_of_before (h : p.before q) : ¬ q.before p := by
  rw [before_iff] at h ⊢
  omega

/-- Two places of which none stands before the other are the same. -/
theorem eq_of_not_before (hpq : ¬ p.before q) (hqp : ¬ q.before p) : p = q := by
  rw [before_iff] at hpq hqp
  obtain ⟨line, character⟩ := p
  obtain ⟨line', character'⟩ := q
  rw [mk.injEq]
  dsimp only at hpq hqp
  omega

end Position

/-! ### Looking a number up -/

section Search

variable {xs : Array Nat} {x i j : Nat}

/-- In a row of increasing numbers, later ones are larger. -/
private theorem getD_lt_getD (hxs : xs.toList.Pairwise (· < ·)) (hij : i < j) (hj : j < xs.size) :
    xs.getD i 0 < xs.getD j 0 := by
  have hi : i < xs.size := Nat.lt_trans hij hj
  simp only [Array.getD, hi, hj, ↓reduceDIte]
  exact List.pairwise_iff_getElem.mp hxs i j hi hj hij

/-- Halving keeps the window around the last number up to `x`: what stands behind the window is
    larger than `x`, and its first number is not, unless the window still begins at the front. -/
private theorem bisect_spec (hxs : xs.toList.Pairwise (· < ·)) {base size : Nat} (hsize : 0 < size)
    (hend : base + size ≤ xs.size) (hbase : base = 0 ∨ xs.getD base 0 ≤ x)
    (hbehind : ∀ j, base + size ≤ j → j < xs.size → x < xs.getD j 0) :
    bisect xs x base size < xs.size ∧
      (bisect xs x base size = 0 ∨ xs.getD (bisect xs x base size) 0 ≤ x) ∧
      ∀ j, bisect xs x base size < j → j < xs.size → x < xs.getD j 0 := by
  fun_induction bisect xs x base size with
  | case1 base size hone =>
    exact ⟨by omega, hbase, fun j hj => hbehind j (by omega)⟩
  | case2 base size hone half ih =>
    have hhalf : half = size / 2 := rfl
    by_cases hx : x < xs.getD (base + half) 0
    · rw [if_pos hx]
      rw [dif_pos hx] at ih
      refine ih (by omega) (by omega) hbase fun j hj hjs => ?_
      -- From the middle on, the numbers are at least the one in the middle.
      rcases Nat.lt_or_ge (base + half) j with hlt | hge
      · exact Nat.lt_trans hx (getD_lt_getD hxs hlt hjs)
      · rwa [show j = base + half by omega]
    · rw [if_neg hx]
      rw [dif_neg hx] at ih
      exact ih (by omega) (by omega) (.inr (Nat.not_lt.mp hx)) fun j hj => hbehind j (by omega)

/-- The place at which a search stops: the numbers behind it are larger, and it holds the last one
    that is not, unless all of them are larger. -/
private theorem bisect_all_spec (hxs : xs.toList.Pairwise (· < ·)) (hne : ¬ xs.isEmpty) :
    bisect xs x 0 xs.size < xs.size ∧
      (bisect xs x 0 xs.size = 0 ∨ xs.getD (bisect xs x 0 xs.size) 0 ≤ x) ∧
      ∀ j, bisect xs x 0 xs.size < j → j < xs.size → x < xs.getD j 0 := by
  have hsize : 0 < xs.size := Array.size_pos_iff.mpr (by simpa using hne)
  exact bisect_spec hxs hsize (by omega) (.inl rfl) (by omega)

/-- The first outcome of a search: the number stands at the place given. -/
theorem binarySearch_ok (hxs : xs.toList.Pairwise (· < ·)) (h : binarySearch xs x = .ok i) :
    i < xs.size ∧ xs.getD i 0 = x := by
  unfold binarySearch at h
  split at h
  · cases h
  next hne =>
    dsimp only at h
    split at h
    next heq =>
      cases h
      exact ⟨(bisect_all_spec hxs hne).1, Nat.compare_eq_eq.mp heq⟩
    · cases h
    · cases h

/-- The second outcome of a search: the number is missing, and those before the place given are
    smaller and those from there on larger. -/
theorem binarySearch_error (hxs : xs.toList.Pairwise (· < ·)) (h : binarySearch xs x = .error i) :
    i ≤ xs.size ∧ (∀ j < i, xs.getD j 0 < x) ∧ ∀ j, i ≤ j → j < xs.size → x < xs.getD j 0 := by
  unfold binarySearch at h
  split at h
  next hempty =>
    cases h
    have hsize : xs.size = 0 := by simpa using hempty
    exact ⟨Nat.zero_le _, by omega, by omega⟩
  next hne =>
    obtain ⟨hinside, hfront, hbehind⟩ := bisect_all_spec (x := x) hxs hne
    dsimp only at h
    generalize bisect xs x 0 xs.size = base at h hinside hfront hbehind
    split at h
    · cases h
    next hlt =>
      -- The number would come behind the one at which the search has stopped.
      cases h
      have hless := Nat.compare_eq_lt.mp hlt
      refine ⟨hinside, fun j hj => ?_, fun j hj => hbehind j hj⟩
      rcases Nat.lt_or_ge j base with hjb | hjb
      · exact Nat.lt_trans (getD_lt_getD hxs hjb hinside) hless
      · rwa [show j = base by omega]
    next hgt =>
      -- A larger number is only left at the front.
      cases h
      have hgreater := Nat.compare_eq_gt.mp hgt
      refine ⟨Nat.le_of_lt hinside, by omega, fun j hj hjs => ?_⟩
      rcases Nat.lt_or_ge i j with hij | hij
      · exact hbehind j hij hjs
      · rwa [show j = i by omega]

end Search

namespace LineIndex

/-! ### The beginnings of lines -/

/-- A newline at the end begins one more line. -/
private theorem startsAfter_concat (i : Nat) (cs : List Char) (c : Char) :
    startsAfter i (cs ++ [c])
      = startsAfter i cs ++ if c = '\n' then [i + cs.length + 1] else [] := by
  induction cs generalizing i with
  | nil => rfl
  | cons d cs ih =>
    rw [List.cons_append, startsAfter, startsAfter, ih, List.length_cons, Nat.add_right_comm i 1,
      Nat.add_assoc i cs.length]
    split <;> rfl

/-- **The beginnings of lines are complete:** a line begins behind each newline. -/
theorem mem_startsAfter {i n : Nat} {cs : List Char} :
    n ∈ startsAfter i cs ↔ ∃ k, cs[k]? = some '\n' ∧ n = i + k + 1 := by
  induction cs generalizing i with
  | nil => simp [startsAfter]
  | cons c cs ih =>
    -- The newline is the first character or one of the others, which are one further on.
    have hsplit : (∃ k, (c :: cs)[k]? = some '\n' ∧ n = i + k + 1) ↔
        c = '\n' ∧ n = i + 1 ∨ n ∈ startsAfter (i + 1) cs := by
      rw [ih]
      constructor
      · rintro ⟨_ | k, hk, rfl⟩
        · exact .inl ⟨Option.some.inj hk, rfl⟩
        · exact .inr ⟨k, hk, by omega⟩
      · rintro (⟨rfl, rfl⟩ | ⟨k, hk, rfl⟩)
        · exact ⟨0, rfl, rfl⟩
        · exact ⟨k + 1, hk, by omega⟩
    rw [hsplit, startsAfter]
    split
    next hc => rw [List.mem_cons, and_iff_right hc]
    next hc => exact ⟨.inr, Or.rec (fun h => absurd h.1 hc) id⟩

/-- All of these lines begin behind the offset. -/
private theorem lt_of_mem_startsAfter {i n : Nat} {cs : List Char} (h : n ∈ startsAfter i cs) :
    i < n := by
  obtain ⟨k, -, rfl⟩ := mem_startsAfter.mp h
  omega

/-- **The beginnings of lines are strictly increasing.** -/
theorem starts_increasing (text : List Char) : (ofChars text).starts.toList.Pairwise (· < ·) := by
  have hafter : ∀ i, (startsAfter i text).Pairwise (· < ·) := by
    induction text with
    | nil => exact fun _ => .nil
    | cons c cs ih =>
      intro i
      rw [startsAfter]
      split
      · exact List.pairwise_cons.mpr ⟨fun n => lt_of_mem_startsAfter, ih (i + 1)⟩
      · exact ih (i + 1)
  exact List.pairwise_cons.mpr ⟨fun n => lt_of_mem_startsAfter, hafter 0⟩

/-- The lines that have begun `k` characters on are those that begin among these characters. -/
private theorem filter_startsAfter (i k : Nat) (cs : List Char) :
    (startsAfter i cs).filter (· ≤ i + k) = startsAfter i (cs.take k) := by
  induction cs generalizing i k with
  | nil => rw [List.take_nil]; rfl
  | cons c cs ih =>
    cases k with
    | zero =>
      -- Whatever begins behind a newline begins behind `i`.
      rw [List.take_zero, startsAfter, List.filter_eq_nil_iff]
      intro n hn
      have hlt := lt_of_mem_startsAfter hn
      simp only [decide_eq_true_eq]
      omega
    | succ k =>
      have hih := ih (i + 1) k
      rw [Nat.add_right_comm i 1 k, Nat.add_assoc i k 1] at hih
      rw [List.take_succ_cons, startsAfter, startsAfter]
      split
      · rw [List.filter_cons_of_pos (by simp), hih]
      · exact hih

/-- How many lines begin, and where the last one of them begins. -/
private theorem startsAfter_spec (i : Nat) (cs : List Char) :
    (startsAfter i cs).length = cs.count '\n' ∧
      (startsAfter i cs).getLastD i + (cs.reverse.takeWhile (· ≠ '\n')).length = i + cs.length := by
  -- The character counts from the last line break, so the induction is from the end.
  induction cs using List.reverseRecOn with
  | nil => exact ⟨rfl, rfl⟩
  | append_singleton cs c ih =>
    obtain ⟨hlength, hlast⟩ := ih
    rw [startsAfter_concat, List.reverse_concat, List.length_append]
    by_cases hc : c = '\n'
    · simp [hc, hlength]
      omega
    · simp only [if_neg hc, List.append_nil, hlength, List.count_append, List.length_append]
      rw [List.takeWhile_cons_of_pos (by simpa using hc), List.length_cons]
      refine ⟨by simp [hc], ?_⟩
      rw [List.length_singleton]
      omega

variable {text : List Char} {a b o : Nat}

/-- **The line of an offset is the last one that has begun.**  If the offset is found among the
    beginnings, that line begins there; if not, it is the one before the first that begins behind
    it, and since the first line begins at zero there is one. -/
theorem line_spec (text : List Char) (o : Nat) :
    let index := ofChars text
    index.line o < index.starts.size ∧ (∀ j ≤ index.line o, index.starts.getD j 0 ≤ o) ∧
      ∀ j, index.line o < j → j < index.starts.size → o < index.starts.getD j 0 := by
  intro index
  have hincreasing : index.starts.toList.Pairwise (· < ·) := starts_increasing text
  have hfirst : index.starts.getD 0 0 = 0 := rfl
  have hsize : 0 < index.starts.size := Nat.succ_pos _
  unfold line
  cases h : binarySearch index.starts o with
  -- The offset is the beginning of a line.
  | ok i =>
    obtain ⟨hinside, hfound⟩ := binarySearch_ok hincreasing h
    refine ⟨hinside, fun j hj => ?_, fun j hj hjs => hfound ▸ getD_lt_getD hincreasing hj hjs⟩
    rcases Nat.lt_or_eq_of_le hj with hlt | rfl
    · exact Nat.le_of_lt (hfound ▸ getD_lt_getD hincreasing hlt hinside)
    · exact Nat.le_of_eq hfound
  -- The offset is inside a line; the first line begins at zero, so there is one before it.
  | error i =>
    obtain ⟨hinside, hbefore, hbehind⟩ := binarySearch_error hincreasing h
    have hpos : i ≠ 0 := by
      rintro rfl
      have := hbehind 0 (Nat.le_refl 0) hsize
      omega
    refine ⟨by dsimp only; omega, fun j hj => ?_, fun j hj => hbehind j ?_⟩
    · dsimp only at hj
      exact Nat.le_of_lt (hbefore j (by omega))
    · dsimp only at hj
      omega

/-- The lines that have begun are those up to the line of the offset. -/
private theorem filter_starts (text : List Char) (o : Nat) :
    (ofChars text).starts.toList.filter (· ≤ o)
      = (ofChars text).starts.toList.take ((ofChars text).line o + 1) := by
  obtain ⟨-, hbegun, hbehind⟩ := line_spec text o
  generalize (ofChars text).line o = l at hbegun hbehind ⊢
  generalize (ofChars text).starts = xs at hbegun hbehind ⊢
  -- The lines that have begun by then are the first ones.
  have hup : (xs.toList.take (l + 1)).filter (· ≤ o) = xs.toList.take (l + 1) := by
    refine List.filter_eq_self.mpr fun n hn => ?_
    obtain ⟨j, hj, rfl⟩ := List.mem_take_iff_getElem.mp hn
    have hjo := hbegun j (by omega)
    have hjs : j < xs.size := by simp at hj; omega
    simpa [Array.getD, hjs] using hjo
  have hdown : (xs.toList.drop (l + 1)).filter (· ≤ o) = [] := by
    refine List.filter_eq_nil_iff.mpr fun n hn => ?_
    obtain ⟨j, hj, rfl⟩ := List.mem_drop_iff_getElem.mp hn
    have hjs : l + 1 + j < xs.size := by rwa [Nat.add_comm]
    have hjo := hbehind (l + 1 + j) (by omega) hjs
    simpa [Array.getD, hjs] using hjo
  calc xs.toList.filter (· ≤ o)
      = (xs.toList.take (l + 1) ++ xs.toList.drop (l + 1)).filter (· ≤ o) := by
        rw [List.take_append_drop]
    _ = xs.toList.take (l + 1) := by rw [List.filter_append, hup, hdown, List.append_nil]

/-- **The place of an offset** has the number of newlines before it as its line, and the number of
    characters behind the last of them as its character. -/
theorem position_ofChars (text : List Char) (o : Nat) :
    (ofChars text).position o =
      ⟨(text.take o).count '\n', ((text.take o).reverse.takeWhile (· ≠ '\n')).length⟩ := by
  have htake : text.take (min o text.length) = text.take o := by
    rw [← List.take_take, List.take_length]
  obtain ⟨hlength, hlast⟩ := startsAfter_spec 0 (text.take o)
  -- The lines that have begun, told by the search and told by the newlines.
  have hbegun : (0 :: startsAfter 0 (text.take o))
      = (ofChars text).starts.toList.take ((ofChars text).line (min o text.length) + 1) := by
    have hfilter := filter_startsAfter 0 (min o text.length) text
    rw [Nat.zero_add, htake] at hfilter
    rw [← filter_starts, ← hfilter]
    exact (List.filter_cons_of_pos (by simp)).symm
  have hinside := (line_spec text (min o text.length)).1
  rw [Nat.zero_add, List.length_take] at hlast
  have hline : (ofChars text).line (min o text.length) = (text.take o).count '\n' := by
    have hlengths := congrArg List.length hbegun
    rw [List.length_cons, List.length_take_of_le hinside, hlength] at hlengths
    exact (Nat.succ.inj hlengths).symm
  have hstart : (ofChars text).starts.getD ((ofChars text).line (min o text.length)) 0
      = (startsAfter 0 (text.take o)).getLastD 0 := by
    have hlasts := congrArg (List.getLastD · 0) hbegun
    rw [List.getLastD_cons] at hlasts
    rw [hlasts, List.getLastD_eq_getLast?, List.getLast?_take]
    simp [Array.getD, hinside]
  show Position.mk ((ofChars text).line (min o text.length)) (min o text.length -
    (ofChars text).starts.getD ((ofChars text).line (min o text.length)) 0) = _
  rw [hstart, hline]
  congr 1
  omega

/-- One character on, the line is the same one unless the character is a newline. -/
theorem position_succ {c : Char} (hc : text[o]? = some c) :
    (ofChars text).position (o + 1) =
      if c = '\n' then ⟨((ofChars text).position o).line + 1, 0⟩
      else ⟨((ofChars text).position o).line, ((ofChars text).position o).character + 1⟩ := by
  rw [position_ofChars, position_ofChars, List.take_add_one, hc, Option.toList_some,
    List.reverse_concat]
  by_cases hnl : c = '\n'
  · simp [hnl]
  · rw [if_neg hnl, List.takeWhile_cons_of_pos (by simpa using hnl)]
    simp [hnl]

/-! ### Order -/

/-- One character on, the place is a later one. -/
private theorem position_before_succ (ho : o < text.length) :
    ((ofChars text).position o).before ((ofChars text).position (o + 1)) := by
  rw [position_succ (List.getElem?_eq_getElem ho), Position.before_iff]
  split
  · exact .inl (Nat.lt_succ_self _)
  · exact .inr ⟨rfl, Nat.lt_succ_self _⟩

/-- Further on in the text, the place is a later one. -/
private theorem position_before (hab : a < b) (hb : b ≤ text.length) :
    ((ofChars text).position a).before ((ofChars text).position b) := by
  induction b, hab using Nat.le_induction with
  | base => exact position_before_succ hb
  | succ b hab ih => exact Position.before_trans (ih (by omega)) (position_before_succ (by omega))

/-- **Places are in the order of their offsets.** -/
theorem position_before_iff (ha : a ≤ text.length) (hb : b ≤ text.length) :
    ((ofChars text).position a).before ((ofChars text).position b) ↔ a < b := by
  refine ⟨fun hbefore => ?_, fun hab => position_before hab hb⟩
  rcases Nat.lt_trichotomy a b with hab | rfl | hba
  · exact hab
  · exact absurd hbefore (Position.not_before_of_before hbefore)
  · exact absurd hbefore (Position.not_before_of_before (position_before hba ha))

/-- A range holds the places of the offsets between its ends. -/
theorem contains_position (ha : a ≤ text.length) (hb : b ≤ text.length) (ho : o ≤ text.length) :
    ((ofChars text).range a b).contains ((ofChars text).position o) ↔ a ≤ o ∧ o < b := by
  have hstart := position_before_iff ho ha
  have hstop := position_before_iff ho hb
  rw [Range.contains, Bool.and_eq_true, Bool.not_eq_true', ← Bool.not_eq_true]
  show ¬ ((ofChars text).position o).before ((ofChars text).position a) ∧
    ((ofChars text).position o).before ((ofChars text).position b) ↔ _
  rw [hstart, hstop, Nat.not_lt]

/-- Offsets past the end stand for the end. -/
private theorem position_of_length_le (ho : text.length ≤ o) :
    (ofChars text).position o = (ofChars text).position text.length := by
  rw [position_ofChars, position_ofChars, List.take_of_length_le ho, List.take_length]

/-- **On one line, places are as far apart as their offsets.** -/
theorem position_of_line (hab : a ≤ b) (hb : b ≤ text.length)
    (hline : ∀ o, a ≤ o → o < b → text[o]? ≠ some '\n') :
    (ofChars text).position b =
      ⟨((ofChars text).position a).line, ((ofChars text).position a).character + (b - a)⟩ := by
  -- No character up to the second offset is a newline.
  induction b, hab using Nat.le_induction with
  | base => rw [Nat.sub_self, Nat.add_zero]
  | succ b hab ih =>
    have hc := List.getElem?_eq_getElem (l := text) (i := b) hb
    have hnl : text[b] ≠ '\n' := by
      intro hnl
      exact hline b hab (Nat.lt_succ_self b) (by rw [hc, hnl])
    rw [position_succ hc, if_neg hnl, ih (by omega) fun o ha ho => hline o ha (by omega)]
    dsimp only
    rw [Nat.succ_sub hab, Nat.add_assoc]

/-- **Places are exact.**  The line of an offset is the number of newlines before it, and its
    character is the number of characters behind the last of them, where offsets past the end stand
    for the end.  So places are strictly in the order of their offsets up to the end and the same
    from there on, and a range holds the places of the offsets from its first end up to, not
    including, its second. -/
theorem position_exact (text : List Char) :
    (∀ o, (ofChars text).position o =
      ⟨(text.take (min o text.length)).count '\n',
        ((text.take (min o text.length)).reverse.takeWhile (· ≠ '\n')).length⟩) ∧
    (∀ a b, a < b → b ≤ text.length →
      ((ofChars text).position a).before ((ofChars text).position b)) ∧
    (∀ o, text.length ≤ o → (ofChars text).position o = (ofChars text).position text.length) ∧
    ∀ a b o, a ≤ text.length → b ≤ text.length → o ≤ text.length →
      (((ofChars text).range a b).contains ((ofChars text).position o) ↔ a ≤ o ∧ o < b) := by
  refine ⟨fun o => ?_, fun a b => position_before, fun o => position_of_length_le,
    fun a b o => contains_position⟩
  rw [position_ofChars, ← List.take_take, List.take_length]

/-- A newline, the beginning of an empty line, and an offset past the end. -/
theorem emptyLine_position_exact :
    let text := ['a', 'b', '\n', '\n', 'c']
    let place := (ofChars text).position
    place 2 = ⟨0, 2⟩ ∧ place 3 = ⟨1, 0⟩ ∧ (place 2).before (place 3) ∧ place 9 = place 5 ∧
      ((ofChars text).range 2 4).contains (place 3) := by
  intro text place
  obtain ⟨hplace, hbefore, hpast, hcontains⟩ := position_exact text
  exact ⟨hplace 2, hplace 3, hbefore 2 3 (by decide) (by decide), hpast 9 (by decide),
    (hcontains 2 4 3 (by decide) (by decide) (by decide)).mpr (by decide)⟩

end LineIndex

end Softcode
