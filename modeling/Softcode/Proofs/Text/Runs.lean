import Mathlib
import Softcode.Text.Blank
import Softcode.Text.Case

namespace Softcode.Text

/-!
# Runs of characters

Readers take the longest run of characters of a class and cut blanks off its ends.  This file says
what they take from a text that was printed: the printed run itself, whatever follows it, as long as
the text behind it begins with a character of another class.

* `takeWhile_append_stop` — a run ends exactly where the class does;
* `drop_take_runs` — cutting runs off both ends at once and one after the other;
* `trim_trim`, `trim_append_blank` — trimming is idempotent and does not see blanks at the end;
* `upper_upper`, `lower_lower` — upper and lower case are normal forms.
-/

variable {p : Char → Bool}

/-! ### Longest runs -/

/-- The run of a class that a text begins with is `run`, if `run` is of the class and what follows
    it begins with a character of another class. -/
theorem takeWhile_append_stop {run rest : List Char} (hrun : ∀ c ∈ run, p c)
    (hrest : ∀ c ∈ rest.head?, p c = false) : (run ++ rest).takeWhile p = run := by
  rw [List.takeWhile_append_of_pos hrun]
  cases rest with
  | nil => simp
  | cons c rest =>
    have hc : ¬ p c := by simp [hrest c rfl]
    rw [List.takeWhile_cons_of_neg hc, List.append_nil]

/-- What is left is what follows the run. -/
theorem dropWhile_append_stop {run rest : List Char} (hrun : ∀ c ∈ run, p c)
    (hrest : ∀ c ∈ rest.head?, p c = false) : (run ++ rest).dropWhile p = rest := by
  rw [List.dropWhile_append_of_pos hrun]
  cases rest with
  | nil => rfl
  | cons c rest =>
    have hc : ¬ p c := by simp [hrest c rfl]
    rw [List.dropWhile_cons_of_neg hc]

/-- To drop the run of a class is to drop its members. -/
theorem drop_length_takeWhile {α : Type} {p : α → Bool} (xs : List α) :
    xs.drop (xs.takeWhile p).length = xs.dropWhile p := by
  have h := congrArg (List.drop (xs.takeWhile p).length)
    (List.takeWhile_append_dropWhile (p := p) (l := xs))
  rwa [List.drop_left, eq_comm] at h

/-- To cut the runs of a class off both ends is to cut off one and then the other. -/
theorem drop_take_runs {α : Type} (p : α → Bool) (xs : List α) :
    (xs.take (xs.length - (xs.reverse.takeWhile p).length)).drop (xs.takeWhile p).length
      = (xs.dropWhile p).rdropWhile p := by
  have hright : xs.take (xs.length - (xs.reverse.takeWhile p).length) = xs.rdropWhile p := by
    rw [List.rdropWhile, ← drop_length_takeWhile, List.reverse_drop, List.reverse_reverse,
      List.length_reverse]
  rw [hright]
  by_cases hall : xs.dropWhile p = []
  · have hnil : xs.rdropWhile p = [] :=
      List.rdropWhile_eq_nil_iff.mpr (List.dropWhile_eq_nil_iff.mp hall)
    rw [hall, hnil, List.drop_nil, List.rdropWhile_nil]
  · -- Behind the leading run stands something that is not of the class.
    have hne : ¬ ((xs.dropWhile p).reverse.dropWhile p).isEmpty := by
      rw [List.isEmpty_iff, List.dropWhile_eq_nil_iff]
      intro hp
      have hhead := List.head_dropWhile_not p hall
      rw [hp _ (List.mem_reverse.mpr (List.head_mem hall))] at hhead
      exact Bool.noConfusion hhead
    have hsplit : xs.rdropWhile p = xs.takeWhile p ++ (xs.dropWhile p).rdropWhile p := by
      conv_lhs => rw [← List.takeWhile_append_dropWhile (p := p) (l := xs)]
      rw [List.rdropWhile, List.reverse_append, List.dropWhile_append, if_neg hne,
        List.reverse_append, List.reverse_reverse, List.rdropWhile]
    rw [hsplit, List.drop_left]

/-- The run of a class is of the class. -/
theorem mem_takeWhile {c : Char} {cs : List Char} (h : c ∈ cs.takeWhile p) : p c :=
  List.all_eq_true.mp List.all_takeWhile c h

/-- What is not of the class is left. -/
private theorem mem_dropWhile {c : Char} {cs : List Char} (h : c ∈ cs) (hc : p c = false) :
    c ∈ cs.dropWhile p := by
  rw [← List.takeWhile_append_dropWhile (p := p) (l := cs), List.mem_append] at h
  refine h.resolve_left fun hmem => ?_
  rw [mem_takeWhile hmem] at hc
  cases hc

/-! ### Blanks at the ends -/

theorem dropRightWhile_eq_rdropWhile (cs : List Char) : dropRightWhile p cs = cs.rdropWhile p := rfl

/-- Trimming only drops characters. -/
theorem mem_of_mem_trim {c : Char} {cs : List Char} (h : c ∈ trim cs) : c ∈ cs := by
  have h1 : c ∈ cs.dropWhile isBlank := (List.rdropWhile_prefix isBlank _).subset h
  exact List.dropWhile_subset isBlank h1

/-- Only blanks are trimmed off. -/
theorem mem_trim {c : Char} {cs : List Char} (h : c ∈ cs) (hc : isBlank c = false) :
    c ∈ trim cs := by
  unfold trim dropRightWhile
  rw [List.mem_reverse]
  exact mem_dropWhile (List.mem_reverse.mpr (mem_dropWhile h hc)) hc

/-- A text that is not blank has something left after trimming. -/
theorem trim_ne_nil {cs : List Char} (h : allBlank cs = false) : trim cs ≠ [] := by
  intro hnil
  rw [trim, dropRightWhile_eq_rdropWhile, List.rdropWhile_eq_nil_iff] at hnil
  -- A character that is no blank is not cut off at either end.
  have hall : ∀ c ∈ cs, isBlank c := by
    intro c hc
    by_contra hblank
    exact hblank (hnil c (mem_dropWhile hc (by simpa using hblank)))
  rw [allBlank, List.all_eq_true.mpr hall] at h
  exact Bool.noConfusion h

/-- Blanks at the end do not count. -/
theorem trim_append_blank (cs : List Char) {gap : List Char} (hgap : ∀ c ∈ gap, isBlank c) :
    trim (cs ++ gap) = trim cs := by
  have hrev : ∀ c ∈ gap.reverse, isBlank c := fun c hc => hgap c (List.mem_reverse.mp hc)
  rw [trim, trim, List.dropWhile_append]
  split
  · rename_i hempty
    rw [List.isEmpty_iff.mp hempty, List.dropWhile_eq_nil_iff.mpr hgap]
  · rw [dropRightWhile, dropRightWhile, List.reverse_append, List.dropWhile_append_of_pos hrev]

/-- Trimming twice is trimming once. -/
theorem trim_trim (cs : List Char) : trim (trim cs) = trim cs := by
  have hfront : (trim cs).dropWhile isBlank = trim cs := by
    rw [List.dropWhile_eq_self_iff]
    intro hpos
    -- The first character of the trimmed text is that of the text without leading blanks.
    have hpre : trim cs <+: cs.dropWhile isBlank := List.rdropWhile_prefix isBlank _
    have hlen : 0 < (cs.dropWhile isBlank).length := lt_of_lt_of_le hpos hpre.length_le
    have hhead := List.dropWhile_get_zero_not isBlank cs hlen
    rw [List.get_eq_getElem] at hhead
    rwa [hpre.getElem hpos]
  rw [trim, hfront, trim, dropRightWhile_eq_rdropWhile, dropRightWhile_eq_rdropWhile,
    List.rdropWhile_idempotent]

/-! ### Case -/

/-- What is in upper case stays as it is. -/
theorem upper_upper (cs : List Char) : upper (upper cs) = upper cs := by
  simp [upper]

/-- What is in lower case stays as it is. -/
theorem lower_lower (cs : List Char) : lower (lower cs) = lower cs := by
  simp [lower]

end Softcode.Text
