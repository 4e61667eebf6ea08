namespace Softcode.Text

/-!
# Offsets

A text is stored in UTF-8, so a place in it is an offset in bytes, and a part of it is what stands
between two offsets.  A `Cut` is a place between two characters that is known both ways: as the
number of the characters before it, and as an offset.
-/

/-- The number of bytes that a text takes. -/
def utf8Size : List Char → Nat
  | [] => 0
  | c :: cs => c.utf8Size + utf8Size cs

/-- The offsets at which the characters begin, the first of them at `n`, and the one behind the
    last. -/
def boundsFrom (n : Nat) : List Char → List Nat
  | [] => [n]
  | c :: cs => n :: boundsFrom (n + c.utf8Size) cs

/-- The characters that do not begin in the first `n` bytes. -/
def dropBytes (n : Nat) : List Char → List Char
  | [] => []
  | c :: cs => if n = 0 then c :: cs else dropBytes (n - c.utf8Size) cs

/-- The characters that begin in the first `n` bytes. -/
def takeBytes (n : Nat) : List Char → List Char
  | [] => []
  | c :: cs => if n = 0 then [] else c :: takeBytes (n - c.utf8Size) cs

/-- The characters between two offsets. -/
def between (start stop : Nat) (cs : List Char) : List Char :=
  takeBytes (stop - start) (dropBytes start cs)

/-! ### Sizes -/

@[simp] theorem utf8Size_nil : utf8Size [] = 0 := rfl

@[simp] theorem utf8Size_cons (c : Char) (cs : List Char) :
    utf8Size (c :: cs) = c.utf8Size + utf8Size cs := rfl

@[simp] theorem utf8Size_append (cs ds : List Char) :
    utf8Size (cs ++ ds) = utf8Size cs + utf8Size ds := by
  induction cs with
  | nil => simp
  | cons c cs ih => rw [List.cons_append, utf8Size_cons, utf8Size_cons, ih, Nat.add_assoc]

theorem length_le_utf8Size (cs : List Char) : cs.length ≤ utf8Size cs := by
  induction cs with
  | nil => exact Nat.le_refl 0
  | cons c cs ih =>
    have hc := c.utf8Size_pos
    rw [utf8Size_cons, List.length_cons]
    omega

/-- Where a text takes no more bytes than it has characters, offsets are numbers of characters. -/
theorem utf8Size_take_of_eq_length {cs : List Char} (h : utf8Size cs = cs.length) {i : Nat}
    (hi : i ≤ cs.length) : utf8Size (cs.take i) = i := by
  have hsplit : utf8Size (cs.take i) + utf8Size (cs.drop i) = utf8Size cs := by
    rw [← utf8Size_append, List.take_append_drop]
  have htake := length_le_utf8Size (cs.take i)
  have hdrop := length_le_utf8Size (cs.drop i)
  rw [List.length_take_of_le hi] at htake
  rw [List.length_drop] at hdrop
  omega

/-! ### Bounds -/

theorem boundsFrom_getElem? (n : Nat) {cs : List Char} {i : Nat} (hi : i ≤ cs.length) :
    (boundsFrom n cs)[i]? = some (n + utf8Size (cs.take i)) := by
  induction cs generalizing n i with
  | nil =>
    obtain rfl := Nat.le_zero.mp hi
    rfl
  | cons c cs ih =>
    cases i with
    | zero => rfl
    | succ i =>
      rw [boundsFrom, List.getElem?_cons_succ, ih _ (Nat.le_of_succ_le_succ hi),
        List.take_succ_cons, utf8Size_cons, Nat.add_assoc]

/-! ### Parts -/

theorem dropBytes_utf8Size_take (cs : List Char) (i : Nat) :
    dropBytes (utf8Size (cs.take i)) cs = cs.drop i := by
  induction cs generalizing i with
  | nil => rw [List.drop_nil, dropBytes]
  | cons c cs ih =>
    cases i with
    | zero => rfl
    | succ i =>
      have hc := c.utf8Size_pos
      rw [List.take_succ_cons, utf8Size_cons, dropBytes, if_neg (by omega), Nat.add_sub_cancel_left,
        ih, List.drop_succ_cons]

theorem takeBytes_utf8Size_take (cs : List Char) (i : Nat) :
    takeBytes (utf8Size (cs.take i)) cs = cs.take i := by
  induction cs generalizing i with
  | nil => rw [List.take_nil, takeBytes]
  | cons c cs ih =>
    cases i with
    | zero => rfl
    | succ i =>
      have hc := c.utf8Size_pos
      rw [List.take_succ_cons, utf8Size_cons, takeBytes, if_neg (by omega), Nat.add_sub_cancel_left,
        ih]

/-! ### Cuts -/

/-- A place between characters of a text. -/
structure Cut (cs : List Char) where
  index : Nat
  offset : Nat
  index_le : index ≤ cs.length
  offset_eq : offset = utf8Size (cs.take index)

namespace Cut

variable {cs rest : List Char} {c : Char}

/-- The place before all characters. -/
def first : Cut cs := ⟨0, 0, Nat.zero_le _, rfl⟩

/-- The place behind the next character. -/
def next (cut : Cut cs) (h : cs.drop cut.index = c :: rest) : Cut cs where
  index := cut.index + 1
  offset := cut.offset + c.utf8Size
  index_le := by
    have hlength := congrArg List.length h
    rw [List.length_drop, List.length_cons] at hlength
    omega
  offset_eq := by
    rw [List.take_add, h, utf8Size_append, cut.offset_eq]
    rfl

theorem drop_next (cut : Cut cs) (h : cs.drop cut.index = c :: rest) :
    cs.drop (cut.next h).index = rest := by
  rw [next, ← List.drop_drop, h]
  rfl

/-- What stands between two cuts by their offsets stands between them by their numbers. -/
theorem between_offset (a b : Cut cs) :
    between a.offset b.offset cs = (cs.drop a.index).take (b.index - a.index) := by
  have hsize : b.offset - a.offset = utf8Size ((cs.drop a.index).take (b.index - a.index)) := by
    rcases Nat.le_total a.index b.index with hle | hle
    · have htake := List.take_add (l := cs) (i := a.index) (j := b.index - a.index)
      rw [Nat.add_sub_cancel' hle] at htake
      rw [a.offset_eq, b.offset_eq, htake, utf8Size_append, Nat.add_sub_cancel_left]
    · have htake := List.take_add (l := cs) (i := b.index) (j := a.index - b.index)
      rw [Nat.add_sub_cancel' hle] at htake
      rw [a.offset_eq, b.offset_eq, htake, utf8Size_append, Nat.sub_eq_zero_of_le hle,
        Nat.sub_eq_zero_of_le (Nat.le_add_right ..)]
      rfl
  rw [between, hsize, a.offset_eq, dropBytes_utf8Size_take, takeBytes_utf8Size_take]

end Cut

end Softcode.Text
