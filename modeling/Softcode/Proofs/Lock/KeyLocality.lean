import Softcode.Proofs.Lock.KeyText

namespace Softcode

/-!
# Keys see no further than an operator

A key is read from the text up to the next operator, and blanks before that make no difference.  So
a key is read from a piece of text as it is read from the whole text, if what follows the piece are
blanks and then an operator or the end.  All that can be different is that more of these blanks are
taken.

* `Key.Local` — a reader reads a piece of text as it reads the whole text;
* `Key.Local.readPair`, `Key.local_readTarget` and the like — the small readers do;
* `Key.local_read` — so the reader of keys does.
-/

/-- No blank is alphanumeric. -/
private theorem Text.isAlphanumeric_of_isBlank {c : Char} (h : isBlank c) :
    isAlphanumeric c = false := by
  -- The ranges of the two tables lie apart, and so do the blanks and the letters and digits of
  -- ASCII.
  have hapart : blankRanges.all (fun r => alphanumericRanges.all fun r' =>
      decide (r.2 < r'.1) || decide (r'.2 < r.1)) = true := by decide +kernel
  have hascii : blankRanges.all (fun r => decide (r.2 < 48) || decide (122 < r.1)) = true := by
    decide
  obtain ⟨r, hr, hc⟩ := List.any_eq_true.mp h
  have hapart := List.all_eq_true.mp hapart r hr
  have hascii := List.all_eq_true.mp hascii r hr
  simp only [Bool.and_eq_true, decide_eq_true_eq] at hc
  simp only [Bool.or_eq_true, decide_eq_true_eq] at hascii
  have hout : inRanges alphanumericRanges c = false := by
    rw [inRanges, List.any_eq_false]
    intro r' hr'
    have hr' := List.all_eq_true.mp hapart r' hr'
    simp only [Bool.or_eq_true, decide_eq_true_eq] at hr'
    simp only [Bool.and_eq_true, decide_eq_true_eq]
    omega
  have halphanum : c.isAlphanum = false := by
    by_contra halphanum
    simp only [Bool.not_eq_false, Char.isAlphanum, Char.isAlpha, Char.isUpper, Char.isLower,
      Char.isDigit, Bool.or_eq_true, Bool.and_eq_true, decide_eq_true_eq, UInt32.le_iff_toNat_le,
      ge_iff_le] at halphanum
    change ((65 ≤ c.toNat ∧ c.toNat ≤ 90) ∨ (97 ≤ c.toNat ∧ c.toNat ≤ 122)) ∨
      48 ≤ c.toNat ∧ c.toNat ≤ 57
      at halphanum
    omega
  rw [isAlphanumeric, halphanum, hout, Bool.or_false]

namespace Key

/-! ### What stands behind a key -/

/-- Can the character stand behind a key? -/
def closes (c : Char) : Bool := Text.isBlank c || isOperator c

/-- What stands behind a piece of a lock: blanks, and then the end or an operator. -/
structure Behind (gap tail : List Char) : Prop where
  blank : ∀ c ∈ gap, Text.isBlank c
  operator : ∀ c ∈ tail.head?, isOperator c

variable {gap tail : List Char} {c : Char}

/-- What can stand behind a key is no part of an attribute's name. -/
private theorem closes_not_attributeChar (h : closes c) : isAttributeChar c = false := by
  rcases Bool.or_eq_true_iff.mp h with h | h
  · have hother : ['_', '-', '.', '`', '~'].contains c = false := by
      by_contra hmem
      rw [Bool.not_eq_false, List.contains_iff_mem] at hmem
      have hall : ['_', '-', '.', '`', '~'].all (fun d => !Text.isBlank d) = true := by decide
      have hblank := List.all_eq_true.mp hall c hmem
      rw [h] at hblank
      cases hblank
    rw [isAttributeChar, Text.isAlphanumeric_of_isBlank h, hother, Bool.or_false]
  · rcases isOperator_iff.mp h with rfl | rfl | rfl | rfl <;>
      exact isAttributeChar_sign (by simp [signs])

private theorem closes_not_isAlphanum (h : closes c) : c.isAlpha = false ∧ c.isDigit = false := by
  have hattr := closes_not_attributeChar h
  simp only [isAttributeChar, Text.isAlphanumeric, Char.isAlphanum, Bool.or_eq_false_iff] at hattr
  exact hattr.1.1

/-- What stands behind a piece begins with such a character. -/
theorem Behind.head (h : Behind gap tail) : ∀ c ∈ (gap ++ tail).head?, closes c := by
  intro c hc
  cases gap with
  | nil => exact Bool.or_eq_true_iff.mpr (.inr (h.operator c hc))
  | cons d gap =>
    obtain rfl : d = c := by simpa using hc
    exact Bool.or_eq_true_iff.mpr (.inl (h.blank d List.mem_cons_self))

/-- Some of the blanks may be taken. -/
theorem Behind.drop (h : Behind gap tail) (j : Nat) : Behind (gap.drop j) tail :=
  ⟨fun c hc => h.blank c (List.mem_of_mem_drop hc), h.operator⟩

/-- What is left when some of the blanks are taken does not begin with any other character. -/
private theorem Behind.head_drop_ne (h : Behind gap tail) {j : Nat} (hj : j ≤ gap.length)
    (hc : closes c = false) :
    ((gap ++ tail).drop j).head? ≠ some c := by
  rw [List.drop_append_of_le_length hj]
  intro hhead
  rw [(h.drop j).head c hhead] at hc
  cases hc

theorem Behind.head_ne (h : Behind gap tail) (hc : closes c = false) :
    (gap ++ tail).head? ≠ some c :=
  h.head_drop_ne (Nat.zero_le _) hc

/-! ### Readers that see no further -/

/-- Does the reader read a piece of a lock as it reads the whole text, apart from blanks behind the
    piece that it takes? -/
def Local {α : Type} (gap tail : List Char) (r : List Char → Option (α × Nat)) : Prop :=
  ∀ t, r t = (r (t ++ (gap ++ tail))).map (fun x => (x.1, min x.2 t.length)) ∧
    ∀ x ∈ r (t ++ (gap ++ tail)), x.2 ≤ t.length + gap.length

namespace Local

variable {α β : Type} {r r' : List Char → Option (α × Nat)}

/-- A reader that takes no blanks behind a piece. -/
private theorem of_eq (heq : ∀ t, r (t ++ (gap ++ tail)) = r t)
    (hle : ∀ t, ∀ x ∈ r t, x.2 ≤ t.length) :
    Local gap tail r := by
  intro t
  rw [heq]
  cases hread : r t with
  | none => exact ⟨rfl, by simp⟩
  | some x =>
    have hx := hle t x hread
    refine ⟨by rw [Option.map_some, Nat.min_eq_left hx], ?_⟩
    rintro y ⟨⟩
    omega

/-- What is made of what is read does not matter. -/
theorem map (h : Local gap tail r) (f : α → β) :
    Local gap tail fun cs => (r cs).map fun x => (f x.1, x.2) := by
  intro t
  obtain ⟨heq, hle⟩ := h t
  refine ⟨?_, ?_⟩
  · beta_reduce
    rw [heq, Option.map_map, Option.map_map]
    rfl
  · intro y hy
    obtain ⟨x, hx, rfl⟩ := Option.map_eq_some_iff.mp hy
    exact hle x hx

/-- A reader that is tried after another. -/
theorem or (h : Local gap tail r) (h' : Local gap tail r') :
    Local gap tail fun cs => (r cs).or (r' cs) := by
  intro t
  obtain ⟨heq, hle⟩ := h t
  obtain ⟨heq', hle'⟩ := h' t
  refine ⟨?_, ?_⟩
  · beta_reduce
    rw [heq, heq', Option.map_or]
  · intro x hx
    rcases Option.or_eq_some_iff.mp hx with hx | ⟨-, hx⟩
    · exact hle x hx
    · exact hle' x hx

/-- A sign before what is read. -/
theorem sign (h : Local gap tail r) (f : α → β) (t : List Char) :
    (r t).map (fun x => (f x.1, x.2 + 1)) =
        ((r (t ++ (gap ++ tail))).map fun x => (f x.1, x.2 + 1)).map
          (fun x => (x.1, min x.2 (t.length + 1))) ∧
      ∀ x ∈ (r (t ++ (gap ++ tail))).map (fun x => (f x.1, x.2 + 1)),
        x.2 ≤ t.length + 1 + gap.length := by
  obtain ⟨heq, hle⟩ := h t
  refine ⟨?_, ?_⟩
  · rw [heq, Option.map_map, Option.map_map]
    refine congrArg (Option.map · _) (funext fun x => ?_)
    exact congrArg (Prod.mk (f x.1)) (Nat.add_min_add_right ..).symm
  · intro y hy
    obtain ⟨x, hx, rfl⟩ := Option.map_eq_some_iff.mp hy
    have := hle x hx
    dsimp only
    omega

end Local

/-! ### Runs -/

section

variable {p : Char → Bool}

/-- A run that ends before what stands behind a piece ends in the piece. -/
private theorem takeWhile_append_of_stop {rest : List Char} (hrest : ∀ c ∈ rest.head?, p c = false)
    (t : List Char) :
    (t ++ rest).takeWhile p = t.takeWhile p := by
  have hnil : ([] ++ rest).takeWhile p = [] := Text.takeWhile_append_stop (by simp) hrest
  rw [List.nil_append] at hnil
  rw [List.takeWhile_append, hnil, List.append_nil]
  split
  · rename_i hall
    exact ((List.takeWhile_prefix p).eq_of_length hall).symm
  · rfl

/-- What is left of the piece then stands before it. -/
private theorem dropWhile_append_of_stop {rest : List Char} (hrest : ∀ c ∈ rest.head?, p c = false)
    (t : List Char) :
    (t ++ rest).dropWhile p = t.dropWhile p ++ rest := by
  rw [List.dropWhile_append]
  split
  · rename_i hempty
    rw [List.isEmpty_iff.mp hempty]
    have hstays : ([] ++ rest).dropWhile p = rest := Text.dropWhile_append_stop (by simp) hrest
    exact hstays
  · rfl

/-- A run of a class is read in the piece as in the whole text. -/
private theorem readWhile_append {rest : List Char} (hrest : ∀ c ∈ rest.head?, p c = false)
    (t : List Char) :
    readWhile p (t ++ rest) = readWhile p t := by
  rw [readWhile, takeWhile_append_of_stop hrest, readWhile]

/-- A run is taken from the text. -/
private theorem readWhile_le {t : List Char} {x : String × Nat} (hx : x ∈ readWhile p t) :
    x.2 ≤ t.length := by
  unfold readWhile at hx
  dsimp only at hx
  split at hx
  · cases hx
  · obtain rfl := Option.some.inj hx
    exact (List.takeWhile_prefix p).length_le

/-- Runs of characters of which none can stand behind a key. -/
private theorem local_readWhile (hp : ∀ c, closes c → p c = false) (h : Behind gap tail) :
    Local gap tail (readWhile p) :=
  .of_eq (readWhile_append fun c hc => hp c (h.head c hc)) fun _ _ hx => readWhile_le hx

/-- What a run of a class without operators takes of what stands behind a piece are blanks. -/
theorem Behind.takeWhile_prefix (h : Behind gap tail) (hp : ∀ c, isOperator c → p c = false) :
    (gap ++ tail).takeWhile p <+: gap := by
  rw [takeWhile_append_of_stop fun c hc => hp c (h.operator c hc)]
  exact List.takeWhile_prefix p

/-- Runs of characters among which there may be blanks. -/
private theorem local_readRun (hp : ∀ c, isOperator c → p c = false) (h : Behind gap tail) :
    Local gap tail (readRun p) := by
  intro t
  have hbegins := h.takeWhile_prefix hp
  have hblank : ∀ c ∈ (gap ++ tail).takeWhile p, Text.isBlank c :=
    fun c hc => h.blank c (hbegins.subset hc)
  unfold readRun
  dsimp only
  rw [List.takeWhile_append]
  by_cases hall : (t.takeWhile p).length = t.length
  · -- The run goes through the piece and takes blanks behind it, which are trimmed off.
    have hrun : t.takeWhile p = t := (List.takeWhile_prefix p).eq_of_length hall
    have hallBlank : Text.allBlank (t ++ (gap ++ tail).takeWhile p) = Text.allBlank t := by
      rw [Text.allBlank, List.all_append, List.all_eq_true.mpr hblank, Bool.and_true, Text.allBlank]
    rw [if_pos hall, hrun, Text.trim_append_blank t hblank, hallBlank, List.length_append]
    split
    · exact ⟨rfl, by simp⟩
    · refine ⟨by rw [Option.map_some, Nat.min_eq_right (Nat.le_add_right ..)], ?_⟩
      rintro x ⟨⟩
      exact Nat.add_le_add_left hbegins.length_le _
  · have hle : (t.takeWhile p).length ≤ t.length := (List.takeWhile_prefix p).length_le
    rw [if_neg hall]
    split
    · exact ⟨rfl, by simp⟩
    · refine ⟨by rw [Option.map_some, Nat.min_eq_left hle], ?_⟩
      rintro x ⟨⟩
      exact hle.trans (Nat.le_add_right ..)

private theorem local_readValue (h : Behind gap tail) : Local gap tail readValue :=
  local_readRun (fun c hc => by simp [isValueChar, hc]) h

private theorem local_readName (h : Behind gap tail) : Local gap tail readName :=
  local_readRun (fun c hc => by simp [isNameChar, hc]) h

private theorem local_readLetters (h : Behind gap tail) : Local gap tail readLetters :=
  local_readWhile (fun _ hc => (closes_not_isAlphanum hc).1) h

private theorem local_readAttribute (h : Behind gap tail) : Local gap tail readAttribute :=
  local_readWhile (fun _ hc => closes_not_attributeChar hc) h

end

/-! ### Targets -/

/-- The sign of a number stands in the piece. -/
private theorem signOf_append {rest : List Char} (hrest : rest.head? ≠ some '-') (t : List Char) :
    signOf (t ++ rest) = signOf t := by
  cases t with
  | nil =>
    rw [List.nil_append, signOf, if_neg hrest]
    rfl
  | cons c t => rfl

/-- A sign is taken from the text. -/
private theorem length_signOf_le (t : List Char) : (signOf t).length ≤ t.length := by
  unfold signOf
  split
  · rename_i hhead
    cases t with
    | nil => cases hhead
    | cons c t => exact Nat.succ_le_succ (Nat.zero_le _)
  · exact Nat.zero_le _

/-- The time behind a number stands in the piece. -/
private theorem timeOf_append_of_stop {rest : List Char} (hcolon : rest.head? ≠ some ':')
    (hdigit : ∀ c ∈ rest.head?, c.isDigit = false) (t : List Char) :
    timeOf (t ++ rest) = timeOf t := by
  cases t with
  | nil => exact timeOf_eq_nil hcolon
  | cons c t =>
    by_cases hc : c = ':'
    · rw [hc, List.cons_append, timeOf, timeOf, takeWhile_append_of_stop hdigit]
    · have hnil : ∀ cs, timeOf (c :: cs) = [] := fun cs => timeOf_eq_nil (by simpa using hc)
      rw [List.cons_append, hnil, hnil]

/-- A time is taken from the text. -/
private theorem length_timeOf_le (t : List Char) : (timeOf t).length ≤ t.length := by
  unfold timeOf
  split
  · rename_i rest
    dsimp only
    split
    · exact Nat.zero_le _
    · exact Nat.succ_le_succ (List.takeWhile_prefix _).length_le
  · exact Nat.zero_le _

/-- References to objects, which take no blanks. -/
private theorem local_readReference (h : Behind gap tail) : Local gap tail readReference := by
  have hdigit : ∀ c ∈ (gap ++ tail).head?, c.isDigit = false :=
    fun c hc => (closes_not_isAlphanum (h.head c hc)).2
  refine .of_eq (fun t => ?_) ?_
  · cases t with
    | nil =>
      have hsharp := h.head_ne (c := '#') (by decide)
      rw [List.nil_append]
      cases hrest : gap ++ tail with
      | nil => rfl
      | cons c cs =>
        rw [hrest] at hsharp
        have hc : c ≠ '#' := by simpa using hsharp
        simp [readReference, hc]
    | cons c t =>
      by_cases hc : c = '#'
      · have hsign := signOf_append (h.head_ne (c := '-') (by decide)) t
        have hafter : (t ++ (gap ++ tail)).drop (signOf t).length
            = t.drop (signOf t).length ++ (gap ++ tail) :=
          List.drop_append_of_le_length (length_signOf_le t)
        rw [hc, List.cons_append, readReference, readReference, hsign, hafter,
          takeWhile_append_of_stop hdigit, dropWhile_append_of_stop hdigit,
          timeOf_append_of_stop (h.head_ne (by decide)) hdigit]
      · simp [readReference, hc]
  · intro t x hx
    unfold readReference at hx
    split at hx
    · rename_i rest
      dsimp only at hx
      split at hx
      · cases hx
      · obtain ⟨r, -, rfl⟩ := Option.map_eq_some_iff.mp hx
        -- The sign, the digits and the time stand one behind the other.
        have hsign := length_signOf_le rest
        have hdigits := congrArg List.length
          (List.takeWhile_append_dropWhile (p := Char.isDigit)
            (l := rest.drop (signOf rest).length))
        have htime := length_timeOf_le ((rest.drop (signOf rest).length).dropWhile Char.isDigit)
        rw [List.length_append, List.length_drop] at hdigits
        simp only [List.length_cons, List.length_append]
        omega
    · cases hx

/-- References or names. -/
theorem local_readTarget (h : Behind gap tail) : Local gap tail readTarget := by
  have heq : readTarget = fun cs =>
      ((readReference cs).map fun x => (Target.ref x.1, x.2)).or
        ((readName cs).map fun x => (Target.name x.1, x.2)) := by
    funext cs
    rw [readTarget]
    cases readReference cs <;> rfl
  rw [heq]
  exact ((local_readReference h).map _).or ((local_readName h).map _)

/-! ### Pairs -/

section

variable {first second : List Char → Option (String × Nat)}

/-- A pair is what the second reader reads behind the character between them. -/
private theorem readPair_eq_map {cs after : List Char} {a : String} {n : Nat}
    (hfirst : first cs = some (a, n)) (hdrop : cs.drop n = c :: after) :
    readPair first c second cs = (second after).map fun x => ((a, x.1), n + 1 + x.2) := by
  have hafter : cs.drop (n + 1) = after := by rw [← List.drop_drop, hdrop]; rfl
  simp only [readPair, hfirst, Option.bind_eq_bind, Option.bind_some, hdrop, hafter]
  cases second after <;> simp

/-- **Two parts with a character between them,** which cannot stand behind a key. -/
theorem Local.readPair (hfirst : Local gap tail first) (hsecond : Local gap tail second)
    (h : Behind gap tail) (hc : closes c = false) : Local gap tail (readPair first c second) := by
  intro t
  obtain ⟨heq, hle⟩ := hfirst t
  cases hread : first (t ++ (gap ++ tail)) with
  | none =>
    rw [hread] at heq
    rw [readPair_first_none heq, readPair_first_none hread]
    exact ⟨rfl, by simp⟩
  | some x =>
    obtain ⟨a, m⟩ := x
    have hm := hle (a, m) hread
    rw [hread, Option.map_some] at heq
    dsimp only at heq hm
    by_cases hlt : m < t.length
    · -- The first part ends inside the piece.
      rw [Nat.min_eq_left hlt.le] at heq
      have hdrop : (t ++ (gap ++ tail)).drop m = t.drop m ++ (gap ++ tail) :=
        List.drop_append_of_le_length hlt.le
      obtain ⟨d, after, hafter⟩ :=
        List.exists_cons_of_ne_nil (mt List.drop_eq_nil_iff.mp (Nat.not_le.mpr hlt))
      rw [hafter, List.cons_append] at hdrop
      by_cases hd : d = c
      · subst hd
        obtain ⟨heq', hle'⟩ := hsecond after
        have hlength := congrArg List.length hafter
        rw [List.length_drop, List.length_cons] at hlength
        rw [readPair_eq_map heq hafter, readPair_eq_map hread hdrop, heq', Option.map_map,
          Option.map_map]
        refine ⟨congrArg (Option.map · _) (funext fun x => ?_), ?_⟩
        · simp only [Function.comp_apply]
          congr 1
          omega
        · intro y hy
          obtain ⟨x, hx, rfl⟩ := Option.map_eq_some_iff.mp hy
          have := hle' x hx
          dsimp only
          omega
      · rw [readPair_eq_none heq (by simpa [hafter] using hd),
          readPair_eq_none hread (by simpa [hdrop] using hd)]
        exact ⟨rfl, by simp⟩
    · -- The first part goes through the piece, and what it does not take of the blanks is not the
      -- character.
      have hdrop : (t ++ (gap ++ tail)).drop m = (gap ++ tail).drop (m - t.length) := by
        rw [List.drop_append, List.drop_eq_nil_iff.mpr (Nat.not_lt.mp hlt), List.nil_append]
      rw [readPair_eq_none heq (by simp [Nat.min_eq_right (Nat.not_lt.mp hlt)]),
        readPair_eq_none hread (by rw [hdrop]; exact h.head_drop_ne (by omega) hc)]
      exact ⟨rfl, by simp⟩

end

/-! ### Keys with a sign -/

/-- The name of a lock behind a target, if there is one, and the number of characters that it takes
    with the slash before it. -/
def lockBehind : List Char → Option String × Nat
  | '/' :: after =>
    match readLetters after with
    | some (lock, m) => (some lock, m + 1)
    | none => (none, 0)
  | _ => (none, 0)

/-- Without a slash there is no name of a lock. -/
private theorem lockBehind_of_head_ne {cs : List Char} (h : cs.head? ≠ some '/') :
    lockBehind cs = (none, 0) := by
  unfold lockBehind
  split
  · exact absurd rfl h
  · rfl

/-- How a key is read that asks for the lock of another object. -/
private theorem readSigned_at (cs : List Char) :
    readSigned ('@' :: cs) = (readTarget cs).map fun x =>
      (.indirect x.1 (lockBehind (cs.drop x.2)).1, x.2 + (lockBehind (cs.drop x.2)).2 + 1) := by
  rw [readSigned]
  cases readTarget cs with
  | none => rfl
  | some x =>
    obtain ⟨t, n⟩ := x
    simp only [Option.bind_eq_bind, Option.bind_some, Option.map_some]
    -- The name of a lock is looked for only behind a slash.
    split
    · rename_i after hdrop
      rw [hdrop, lockBehind]
      cases readLetters after with
      | none => rfl
      | some y =>
        simp only [Option.pure_def]
        congr 2
    · rename_i hslash
      have hhead : (cs.drop n).head? ≠ some '/' := by
        intro hhead
        obtain ⟨after, hafter⟩ := List.head?_eq_some_iff.mp hhead
        exact hslash after hafter
      rw [lockBehind_of_head_ne hhead]
      rfl

/-- The name of a lock stands in the piece. -/
private theorem lockBehind_append (h : Behind gap tail) (t : List Char) :
    lockBehind (t ++ (gap ++ tail)) = lockBehind t := by
  cases t with
  | nil => exact lockBehind_of_head_ne (h.head_ne (by decide))
  | cons c t =>
    by_cases hc : c = '/'
    · have hletters : readLetters (t ++ (gap ++ tail)) = readLetters t :=
        readWhile_append (fun c hc => (closes_not_isAlphanum (h.head c hc)).1) t
      rw [hc, List.cons_append, lockBehind, lockBehind, hletters]
    · have hnone : ∀ cs, lockBehind (c :: cs) = (none, 0) :=
        fun cs => lockBehind_of_head_ne (by simpa using hc)
      rw [List.cons_append, hnone, hnone]

/-- The name of a lock is taken from the text. -/
private theorem lockBehind_le (t : List Char) : (lockBehind t).2 ≤ t.length := by
  unfold lockBehind
  split
  · split
    · rename_i hletters
      exact Nat.succ_le_succ (readWhile_le hletters)
    · exact Nat.zero_le _
  · exact Nat.zero_le _

/-- The lock of another object. -/
private theorem readSigned_at_local (h : Behind gap tail) (t : List Char) :
    readSigned ('@' :: t) =
        (readSigned ('@' :: (t ++ (gap ++ tail)))).map (fun x => (x.1, min x.2 (t.length + 1))) ∧
      ∀ x ∈ readSigned ('@' :: (t ++ (gap ++ tail))), x.2 ≤ t.length + 1 + gap.length := by
  obtain ⟨heq, hle⟩ := local_readTarget h t
  rw [readSigned_at, readSigned_at, heq]
  cases hread : readTarget (t ++ (gap ++ tail)) with
  | none => exact ⟨rfl, by simp⟩
  | some x =>
    obtain ⟨target, n⟩ := x
    have hn := hle _ hread
    simp only [Option.map_some, Option.mem_some, forall_eq'] at hn ⊢
    by_cases hinside : n ≤ t.length
    · -- The target ends inside the piece, and so does the name of a lock behind it.
      have hlock := lockBehind_le (t.drop n)
      rw [List.length_drop] at hlock
      rw [Nat.min_eq_left hinside, List.drop_append_of_le_length hinside, lockBehind_append h,
        Nat.min_eq_left (by omega)]
      exact ⟨rfl, by omega⟩
    · -- The target takes blanks behind the piece, and no slash stands there.
      have hdrop : (t ++ (gap ++ tail)).drop n = (gap ++ tail).drop (n - t.length) := by
        rw [List.drop_append, List.drop_eq_nil_iff.mpr (by omega), List.nil_append]
      rw [hdrop, lockBehind_of_head_ne (h.head_drop_ne (by omega) (by decide)),
        Nat.min_eq_right (by omega), List.drop_length, Nat.min_eq_right (by omega)]
      exact ⟨rfl, by omega⟩

/-- Only these signs begin a key. -/
private theorem readSigned_eq_none (hc : c ∉ ['=', '+', '$', '@']) (cs : List Char) :
    readSigned (c :: cs) = none := by
  simp only [List.mem_cons, List.not_mem_nil, or_false, not_or] at hc
  obtain ⟨hexact, hcarry, howner, hindirect⟩ := hc
  simp [readSigned, hexact, hcarry, howner, hindirect]

/-- Keys that begin with a sign. -/
private theorem local_readSigned (h : Behind gap tail) : Local gap tail readSigned := by
  -- What follows the piece begins with none of the four signs.
  have hsigns : ['=', '+', '$', '@'].all (fun c => !closes c) = true := by decide
  intro t
  cases t with
  | nil =>
    have hnone : readSigned ([] ++ (gap ++ tail)) = none := by
      rw [List.nil_append]
      cases hrest : gap ++ tail with
      | nil => rfl
      | cons c cs =>
        refine readSigned_eq_none (fun hc => ?_) cs
        have hcloses := List.all_eq_true.mp hsigns c hc
        rw [h.head c (by rw [hrest]; rfl)] at hcloses
        cases hcloses
    rw [hnone]
    exact ⟨rfl, by simp⟩
  | cons c t =>
    rw [List.cons_append, List.length_cons]
    by_cases hc : c ∈ ['=', '+', '$', '@']
    · simp only [List.mem_cons, List.not_mem_nil, or_false] at hc
      rcases hc with rfl | rfl | rfl | rfl
      · exact (local_readTarget h).sign Key.exact t
      · exact (local_readTarget h).sign Key.carry t
      · exact (local_readTarget h).sign Key.owner t
      · exact readSigned_at_local h t
    · rw [readSigned_eq_none hc, readSigned_eq_none hc]
      exact ⟨rfl, by simp⟩

/-! ### Keys -/

/-- Keys without a prefix. -/
private theorem local_readPlain (h : Behind gap tail) : Local gap tail readPlain := by
  have hpair : ∀ c, closes c = false → Local gap tail (readPair readAttribute c readValue) :=
    fun c hc => (local_readAttribute h).readPair (local_readValue h) h hc
  have hcolon := (hpair ':' (by decide)).map fun x => unlockerAttr (upperName x.1) x.2
  have hslash := (hpair '/' (by decide)).map fun x => lockedAttr (upperName x.1) x.2
  have hreference := (local_readReference h).map fun r => bare (.ref r)
  have hname := (local_readAttribute h).map fun word => bare (.name word)
  have hall := (local_readSigned h).or (hreference.or (hcolon.or (hslash.or hname)))
  intro t
  simp only [readPlain, Option.orElse_eq_orElse, Option.orElse_eq_or]
  exact hall t

/-- A constant lies in the piece if it is there at all. -/
private theorem sameName_take_append (h : Behind gap tail) (word : List Char)
    (hword : word.all (!closes ·.toLower)) (t : List Char) :
    Text.sameName ((t ++ (gap ++ tail)).take word.length) word
      = Text.sameName (t.take word.length) word := by
  by_cases hle : word.length ≤ t.length
  · rw [List.take_append_of_le_length hle]
  · cases hrest : gap ++ tail with
    | nil => rw [List.append_nil]
    | cons c rest =>
      have hcloses : closes c := h.head c (by rw [hrest]; rfl)
      have hlower : c.toLower = c := by
        refine Char.toLower_eq_of_not_isUpper fun hupper => ?_
        have halpha := (closes_not_isAlphanum hcloses).1
        rw [Char.isAlpha, hupper] at halpha
        cases halpha
      have hpiece : Text.sameName (t.take word.length) word = false := by
        rw [Text.sameName, beq_eq_false_iff_ne]
        intro hsame
        have hlength := congrArg List.length hsame
        simp only [Text.lower, List.length_map, List.length_take] at hlength
        omega
      rw [hpiece, Text.sameName, beq_eq_false_iff_ne]
      intro hsame
      -- The character behind the piece would have to be one of the constant's.
      obtain ⟨k, hk⟩ := Nat.exists_eq_add_of_lt (Nat.not_le.mp hle)
      have hmem : c ∈ (t ++ c :: rest).take word.length := by
        rw [hk, Nat.add_assoc, List.take_length_add_append]
        exact List.mem_append_right _ List.mem_cons_self
      have hmem := List.mem_map_of_mem (f := Char.toLower) hmem
      rw [show List.map Char.toLower _ = word.map Char.toLower from hsame, hlower] at hmem
      obtain ⟨d, hd, hdc⟩ := List.mem_map.mp hmem
      have hd := List.all_eq_true.mp hword d hd
      rw [hdc, hcloses] at hd
      cases hd

/-- A constant is as long as the text that it is compared with. -/
private theorem length_le_of_sameName {t word : List Char}
    (h : Text.sameName (t.take word.length) word) :
    word.length ≤ t.length := by
  have hlength := congrArg List.length (eq_of_beq h)
  simp only [Text.lower, List.length_map, List.length_take] at hlength
  omega

/-- **A key is read from a piece of a lock as it is read from the whole text.** -/
theorem local_read (h : Behind gap tail) : Local gap tail read := by
  intro t
  have htrue := sameName_take_append h "#true".toList (by decide) t
  have hfalse := sameName_take_append h "#false".toList (by decide) t
  obtain ⟨hpair, hpairLe⟩ :=
    ((local_readLetters h).readPair (local_readValue h) h (c := '^') (by decide)) t
  obtain ⟨hplain, hplainLe⟩ := local_readPlain h t
  -- A constant is taken from the piece, with nothing behind it.
  have hconstant : ∀ {word : List Char} {k : Key}, Text.sameName (t.take word.length) word →
      some (k, word.length) = (some (k, word.length)).map (fun x => (x.1, min x.2 t.length)) ∧
        ∀ x ∈ some (k, word.length), x.2 ≤ t.length + gap.length := by
    intro word k hsame
    have hle := length_le_of_sameName hsame
    refine ⟨by rw [Option.map_some, Nat.min_eq_left hle], ?_⟩
    rintro x ⟨⟩
    exact hle.trans (Nat.le_add_right ..)
  unfold read
  rw [show 5 = "#true".toList.length from rfl, show 6 = "#false".toList.length from rfl, htrue,
    hfalse]
  split
  · rename_i hsame
    exact hconstant hsame
  split
  · rename_i hsame
    exact hconstant hsame
  rw [hpair]
  cases hread : readPair readLetters '^' readValue (t ++ (gap ++ tail)) with
  | none => exact ⟨hplain, hplainLe⟩
  | some x =>
    obtain ⟨⟨word, value⟩, n⟩ := x
    have hn := hpairLe _ hread
    simp only [Option.map_some, Option.map_map]
    refine ⟨rfl, ?_⟩
    intro y hy
    obtain ⟨k, -, rfl⟩ := Option.map_eq_some_iff.mp hy
    exact hn

/-- What can stand behind a key begins none. -/
private theorem read_of_closes (h : closes c) (cs : List Char) : read (c :: cs) = none := by
  -- No key begins with such a character: each of them needs another one first.
  have hne : ∀ d, closes d = false → c ≠ d := by
    rintro d hd rfl
    rw [h] at hd
    cases hd
  have hletters : ((c :: cs).dropWhile Char.isAlpha).head? ≠ some '^' := by
    rw [List.dropWhile_cons_of_neg (by rw [(closes_not_isAlphanum h).1]; exact Bool.noConfusion)]
    simpa using hne '^' (by decide)
  have hattribute : readAttribute (c :: cs) = none := by
    simp [readAttribute, readWhile, closes_not_attributeChar h]
  have hsharp : c ≠ '#' := hne '#' (by decide)
  have hsigned : readSigned (c :: cs) = none := by
    refine readSigned_eq_none ?_ cs
    simp only [List.mem_cons, List.not_mem_nil, or_false, not_or]
    exact ⟨hne '=' (by decide), hne '+' (by decide), hne '$' (by decide), hne '@' (by decide)⟩
  rw [read_of_ne_sharp hsharp, readPair_letters_eq_none hletters]
  simp [readPlain, hsigned, readReference, hsharp, readPair_first_none hattribute, hattribute]

/-- No key begins with a blank or an operator. -/
theorem not_closes_of_read {cs : List Char} {x : Key × Nat} (h : read (c :: cs) = some x) :
    Text.isBlank c = false ∧ isOperator c = false := by
  rw [← Bool.or_eq_false_iff]
  by_contra hcloses
  rw [read_of_closes (Bool.eq_true_of_not_eq_false hcloses)] at h
  cases h

end Key

end Softcode
