import Softcode.Source.Span
import Softcode.Styled.Basic

namespace Softcode

/-!
# Cutting by offsets is cutting by characters

A text is cut at offsets in bytes, which are looked up for a slice and counted along the way for the
pieces of a text.  Either way each character is kept or dropped whole, and what is kept are the
characters between two numbers of characters:

* `Styled.slice_eq` — a slice, whichever way its offsets are found;
* `Styled.split_eq` — the pieces of a text are slices of it.

No later proof has to look at an offset.
-/

namespace Styled

variable {s : Styled}

/-- Two offsets are compared as the numbers of characters before them are. -/
private theorem sliceBytes_eq (start stop : Text.Cut s.chars) :
    s.sliceBytes start stop =
      if start.index < stop.index then
        { chars := (s.chars.drop start.index).take (stop.index - start.index)
          spans := s.spans.filterMap (clip start.index stop.index) }
      else empty := by
  unfold sliceBytes
  split
  · exact eq_of_chars_of_spans (start.between_offset stop) rfl
  · rfl

/-- **A slice is cut by its characters.** -/
theorem slice_eq (s : Styled) (start stop : Nat) :
    s.slice start stop =
      if start < min stop s.length then
        { chars := (s.chars.drop start).take (min stop s.length - start)
          spans := s.spans.filterMap (clip start (min stop s.length)) }
      else empty := by
  unfold slice
  dsimp only
  split
  · rename_i hlt
    rw [sliceBytes_eq]
    exact if_pos hlt
  · rfl

/-- A slice between offsets is a slice between characters. -/
private theorem sliceBytes_eq_slice (start stop : Text.Cut s.chars) :
    s.sliceBytes start stop = s.slice start.index stop.index := by
  have hstop : min stop.index s.length = stop.index := Nat.min_eq_left (s.length_eq ▸ stop.index_le)
  rw [sliceBytes_eq, slice_eq, hstop]

/-- The characters of a slice are those of its span. -/
theorem chars_slice (s : Styled) (start stop : Nat) :
    (s.slice start stop).chars = Span.of ⟨start, stop⟩ s.chars := by
  have hlength := s.length_eq
  rw [slice_eq]
  unfold Span.of Span.length
  dsimp only
  split
  · -- A slice that would go beyond the end goes to the end.
    by_cases hstop : stop ≤ s.length
    · rw [Nat.min_eq_left hstop]
    · have hdrop : (s.chars.drop start).length = s.length - start := by
        rw [List.length_drop, hlength]
      rw [Nat.min_eq_right (by omega), ← hdrop, List.take_length, List.take_of_length_le]
      omega
  · have hempty : ((s.chars.drop start).take (stop - start)).length = 0 := by
      rw [List.length_take, List.length_drop]
      omega
    rw [List.length_eq_zero_iff.mp hempty]
    rfl

/-! ### Pieces -/

/-- The pieces of a text as slices of it, the current one having begun at `start` and the characters
    `cs` from `i` on being left. -/
def piecesFrom (s : Styled) (d : Char) (start i : Nat) : List Char → List Styled
  | [] => [s.slice start i]
  | c :: cs =>
    if c = d then s.slice start i :: piecesFrom s d (i + 1) (i + 1) cs
    else piecesFrom s d start (i + 1) cs

/-- The offsets that are counted along the way are those of the slices. -/
private theorem splitFrom_eq (d : Char) (start here : Text.Cut s.chars) (rest : List Char)
    (h : s.chars.drop here.index = rest) :
    s.splitFrom d start here rest h = s.piecesFrom d start.index here.index rest := by
  induction rest generalizing start here with
  | nil =>
    -- Nothing is left, so the last piece ends with the text.
    have hlength : s.length = here.index := by
      rw [s.length_eq]
      exact Nat.le_antisymm (List.drop_eq_nil_iff.mp h) here.index_le
    have hending : s.ending.index = here.index := hlength
    rw [splitFrom, piecesFrom, sliceBytes_eq_slice, hending]
  | cons c rest ih =>
    rw [splitFrom, piecesFrom]
    split
    · rw [sliceBytes_eq_slice, ih]
      rfl
    · exact ih start (here.next h) _

/-- Each piece is one of the slices. -/
private theorem exists_slice_of_mem_piecesFrom {d : Char} {piece : Styled} {start i : Nat}
    {cs : List Char} (h : piece ∈ s.piecesFrom d start i cs) :
    ∃ start stop, piece = s.slice start stop := by
  induction cs generalizing start i with
  | nil => exact ⟨start, i, List.mem_singleton.mp h⟩
  | cons c cs ih =>
    rw [piecesFrom] at h
    split at h
    · rcases List.mem_cons.mp h with h | h
      · exact ⟨start, i, h⟩
      · exact ih h
    · exact ih h

/-- **The pieces of a text are cut by its characters.** -/
theorem split_eq (s : Styled) (d : Char) : s.split d = s.piecesFrom d 0 0 s.chars :=
  splitFrom_eq d .first .first s.chars rfl

/-- The pieces of a text are slices of it. -/
theorem exists_slice_of_mem_split {d : Char} {piece : Styled} (h : piece ∈ s.split d) :
    ∃ start stop, piece = s.slice start stop := by
  rw [split_eq] at h
  exact exists_slice_of_mem_piecesFrom h

end Styled

end Softcode
