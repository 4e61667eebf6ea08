import Softcode.Lock.Reader
import Softcode.Proofs.Results
import Softcode.Proofs.Text.Runs

namespace Softcode

/-!
# References as they are written

Numerals, and references made of them, are read back from their text.  A reference can be written in
a lock only if its time of creation is not negative, since a lock has no room for a sign there; such
references are `Writable`, and reading a lock gives no others.

* `Number.readInteger?_intText` — a numeral of 64 bits is read back;
* `Reference.read_text` — so is a reference;
* `Key.readReference_text`, `Key.readReference_writable` — inside a lock, a writable reference is
  read back from its text, whatever follows, and what is read is writable;
* `Key.readReference_stops` — of a reference that is not writable, all that can be read is its
  number up to the colon.
-/

/-! ### Numerals -/

namespace Number

/-- A number is written in digits. -/
private theorem isDigit_of_mem_natText {n : Nat} {c : Char} (h : c ∈ natText n) : c.isDigit :=
  Nat.isDigit_of_mem_toDigits (by decide) (by decide) h

private theorem natText_ne_nil (n : Nat) : natText n ≠ [] := Nat.toDigits_ne_nil

/-- The digits of a number are read back. -/
private theorem readDigits?_natText (n : Nat) : readDigits? (natText n) = some n := by
  have hall : (natText n).all Char.isDigit = true :=
    List.all_eq_true.mpr fun c hc => isDigit_of_mem_natText hc
  have hne : (natText n).isEmpty = false := by simp [natText_ne_nil]
  rw [readDigits?, hall, hne]
  simp only [Bool.not_true, Bool.or_self, Bool.false_eq_true, if_false, Option.some.injEq]
  exact Nat.ofDigitChars_ten_toDigits

/-- A text of digits is read as a number of 64 bits that is not negative. -/
private theorem readInteger?_digits {cs : List Char} (hcs : ∀ c ∈ cs, c.isDigit) :
    readInteger? cs = ((readDigits? cs).map (fun n : Nat => (n : Int))).filter
      fun n => minInteger ≤ n && n ≤ maxInteger := by
  cases cs with
  | nil => rfl
  | cons c ds =>
    have hc := hcs c (by simp)
    have hminus : c ≠ '-' := fun he => absurd (he ▸ hc) (by decide)
    have hplus : c ≠ '+' := fun he => absurd (he ▸ hc) (by decide)
    simp [readInteger?, hminus, hplus]

/-- What is read from digits is not negative. -/
private theorem readInteger?_nonneg {cs : List Char} (hcs : ∀ c ∈ cs, c.isDigit) {n : Int}
    (h : readInteger? cs = some n) : 0 ≤ n := by
  rw [readInteger?_digits hcs] at h
  obtain ⟨m, _, rfl⟩ := Option.map_eq_some_iff.mp (Option.filter_eq_some_iff.mp h).1
  exact Int.natCast_nonneg m

/-- What is read as an integer has 64 bits. -/
private theorem readInteger?_bounds {cs : List Char} {n : Int} (h : readInteger? cs = some n) :
    minInteger ≤ n ∧ n ≤ maxInteger := by
  have h := (Option.filter_eq_some_iff.mp h).2
  simpa using h

/-- The numeral of an integer is read as that integer, unless it has more than 64 bits. -/
private theorem readInteger?_intText_eq (n : Int) : readInteger? (intText n)
    = (some n).filter fun n => minInteger ≤ n && n ≤ maxInteger := by
  rw [intText]
  split
  · rename_i hneg
    have habs : -((n.natAbs : Nat) : Int) = n := by omega
    simp only [readInteger?, readDigits?_natText, Option.map_some, habs]
  · rename_i hpos
    have habs : ((n.natAbs : Nat) : Int) = n := by omega
    rw [readInteger?_digits fun c hc => isDigit_of_mem_natText hc, readDigits?_natText,
      Option.map_some, habs]

/-- **Numerals round-trip.** An integer of 64 bits is read back from its numeral. -/
theorem readInteger?_intText {n : Int} (hlo : minInteger ≤ n) (hhi : n ≤ maxInteger) :
    readInteger? (intText n) = some n := by
  rw [readInteger?_intText_eq, Option.filter_some, if_pos (by simp [hlo, hhi])]

/-- Nothing else is read from the numeral of an integer. -/
private theorem eq_of_readInteger?_intText {n m : Int} (h : readInteger? (intText n) = some m) :
    m = n := by
  rw [readInteger?_intText_eq] at h
  exact (Option.some.inj (Option.filter_eq_some_iff.mp h).1).symm

end Number

/-! ### References -/

/-- Can the reference be written in a lock?  Its numbers have 64 bits, and its time is not negative.
    -/
structure Reference.Writable (r : Reference) : Prop where
  number_lo : Number.minInteger ≤ r.number
  number_hi : r.number ≤ Number.maxInteger
  time : ∀ t ∈ r.created, 0 ≤ t ∧ t ≤ Number.maxInteger

namespace Text

/-- A text is cut at the first character of a class. -/
private theorem cutAt_append_cons {p : Char → Bool} {d : Char} (hd : p d) :
    ∀ {a : List Char}, (∀ c ∈ a, p c = false) → ∀ b, cutAt p (a ++ d :: b) = some (a, b)
  | [], _, b => by rw [List.nil_append, cutAt, if_pos hd]
  | c :: a, h, b => by
    have hc : ¬ p c := by simp [h c (by simp)]
    have ih := cutAt_append_cons hd (fun x hx => h x (List.mem_cons_of_mem c hx)) b
    rw [List.cons_append, cutAt, if_neg hc, ih, Option.map_some]

/-- A text without such a character is not cut. -/
private theorem cutAt_eq_none {p : Char → Bool} :
    ∀ {a : List Char}, (∀ c ∈ a, p c = false) → cutAt p a = none
  | [], _ => rfl
  | c :: a, h => by
    have hc : ¬ p c := by simp [h c (by simp)]
    have ih := cutAt_eq_none fun x hx => h x (List.mem_cons_of_mem c hx)
    rw [cutAt, if_neg hc, ih, Option.map_none]

/-- Without blanks there is nothing to trim. -/
theorem trim_eq_self {cs : List Char} (h : ∀ c ∈ cs, isBlank c = false) : trim cs = cs := by
  have hfront : cs.dropWhile isBlank = cs := by
    rw [List.dropWhile_eq_self_iff]
    intro hpos
    simp [h _ (List.getElem_mem hpos)]
  rw [trim, hfront, dropRightWhile_eq_rdropWhile, List.rdropWhile_eq_self_iff]
  intro hne
  simp [h _ (List.getLast_mem hne)]

/-- No digit is blank. -/
private theorem isBlank_digit {c : Char} (h : c.isDigit) : isBlank c = false := by
  have h := Char.isDigit_iff_toNat.mp h
  simp only [isBlank, inRanges, blankRanges, List.any_cons, List.any_nil, Bool.or_false,
    Bool.or_eq_false_iff, Bool.and_eq_false_iff, decide_eq_false_iff_not]
  have h0 : '0'.toNat = 48 := rfl
  have h9 : '9'.toNat = 57 := rfl
  omega

end Text

/-- Is `c` one of the characters that a number with its number sign and sign is written with? -/
def Dbref.IsTextChar (c : Char) : Prop := c = '#' ∨ c = '-' ∨ c.isDigit

private theorem Dbref.IsTextChar.not_blank {c : Char} (h : IsTextChar c) :
    Text.isBlank c = false := by
  rcases h with rfl | rfl | h
  · decide
  · decide
  · exact Text.isBlank_digit h

private theorem Dbref.IsTextChar.not_colon {c : Char} (h : IsTextChar c) : (c == ':') = false := by
  rcases h with rfl | rfl | h
  · decide
  · decide
  · exact beq_eq_false_iff_ne.mpr fun he => absurd (he ▸ h) (by decide)

namespace Dbref

/-- A number with its number sign is written with them. -/
private theorem isTextChar_of_mem_text {d : Dbref} {c : Char} (h : c ∈ text d) : IsTextChar c := by
  simp only [text, Number.intText] at h
  split at h
  · rcases List.mem_cons.mp h with h | h
    · exact .inl h
    · rcases List.mem_cons.mp h with h | h
      · exact .inr (.inl h)
      · exact .inr (.inr (Number.isDigit_of_mem_natText h))
  · rcases List.mem_cons.mp h with h | h
    · exact .inl h
    · exact .inr (.inr (Number.isDigit_of_mem_natText h))

/-- A number of 64 bits is read back from its text. -/
theorem read_text {d : Dbref} (hlo : Number.minInteger ≤ d) (hhi : d ≤ Number.maxInteger) :
    read (text d) = .ok d := by
  have htrim : Text.trim (text d) = '#' :: Number.intText d :=
    Text.trim_eq_self fun _ h => (isTextChar_of_mem_text h).not_blank
  rw [read, read?, htrim]
  simp only [Number.readInteger?_intText hlo hhi]

/-- Nothing else is read from the text of a number. -/
theorem eq_of_read_text {d d' : Dbref} (h : read (text d) = .ok d') : d' = d := by
  have htrim : Text.trim (text d) = '#' :: Number.intText d :=
    Text.trim_eq_self fun _ h => (isTextChar_of_mem_text h).not_blank
  rw [read, read?, htrim] at h
  split at h
  · rename_i d'' hd
    cases h
    exact Number.eq_of_readInteger?_intText hd
  · exact absurd h (by simp)

/-- What is read as a number has 64 bits. -/
private theorem read_bounds {cs : List Char} {d : Dbref} (h : read cs = .ok d) :
    Number.minInteger ≤ d ∧ d ≤ Number.maxInteger := by
  unfold read at h
  split at h
  · rename_i d' hd
    cases h
    unfold read? at hd
    split at hd
    · exact Number.readInteger?_bounds hd
    · exact absurd hd (by simp)
  · exact absurd h (by simp)

end Dbref

namespace Reference

/-- There are no blanks in a number, a colon and digits. -/
private theorem trim_number_time {number time : List Char}
    (hnumber : ∀ c ∈ number, Dbref.IsTextChar c) (htime : ∀ c ∈ time, c.isDigit) :
    Text.trim (number ++ ':' :: time) = number ++ ':' :: time := by
  refine Text.trim_eq_self fun c hc => ?_
  rcases List.mem_append.mp hc with hc | hc
  · exact (hnumber c hc).not_blank
  · rcases List.mem_cons.mp hc with rfl | hc
    · decide
    · exact Text.isBlank_digit (htime c hc)

/-- A number without a time is read as a number. -/
private theorem read_number_eq_ok {number : List Char} (hnumber : ∀ c ∈ number, Dbref.IsTextChar c)
    {r : Reference} :
    read number = .ok r ↔ ∃ d, Dbref.read number = .ok d ∧ r = { number := d } := by
  have htrim : Text.trim number = number := Text.trim_eq_self fun c hc => (hnumber c hc).not_blank
  simp only [read, htrim, Text.cutAt_eq_none fun c hc => (hnumber c hc).not_colon]
  rw [bind_eq_ok]
  simp only [pure, Except.pure, Except.ok.injEq, eq_comm]

/-- A number and a time are read each by itself. -/
private theorem read_number_time_eq_ok {number time : List Char}
    (hnumber : ∀ c ∈ number, Dbref.IsTextChar c) (htime : ∀ c ∈ time, c.isDigit) {r : Reference} :
    read (number ++ ':' :: time) = .ok r ↔ ∃ d t, Dbref.read number = .ok d ∧
      Number.readInteger? time = some t ∧ r = { number := d, created := some t } := by
  -- The number has no colon in it, so it ends at the first one.
  have hcut := Text.cutAt_append_cons (p := (· == ':')) (d := ':') rfl
    (fun c hc => (hnumber c hc).not_colon) time
  simp only [read, trim_number_time hnumber htime, hcut]
  cases ht : Number.readInteger? time with
  | none => simp
  | some t =>
    simp only [bind_eq_ok, pure, Except.pure, Except.ok.injEq, Option.some.injEq]
    constructor
    · rintro ⟨d, hd, rfl⟩
      exact ⟨d, t, hd, rfl, rfl⟩
    · rintro ⟨d, _, hd, rfl, rfl⟩
      exact ⟨d, hd, rfl⟩

/-- The time of a reference is written in digits, unless it is negative. -/
private theorem isDigit_of_mem_time {t : Int} (ht : 0 ≤ t) {c : Char} (hc : c ∈ Number.intText t) :
    c.isDigit := by
  rw [Number.intText, if_neg (by omega)] at hc
  exact Number.isDigit_of_mem_natText hc

/-- **References round-trip.** A writable reference is read back from its text. -/
theorem read_text {r : Reference} (h : r.Writable) : read r.text = .ok r := by
  obtain ⟨number, created⟩ := r
  have hnumber : ∀ c ∈ Dbref.text number, Dbref.IsTextChar c :=
    fun _ hc => Dbref.isTextChar_of_mem_text hc
  have hread : Dbref.read (Dbref.text number) = .ok number :=
    Dbref.read_text h.number_lo h.number_hi
  cases created with
  | none => exact (read_number_eq_ok hnumber).mpr ⟨number, hread, rfl⟩
  | some t =>
    obtain ⟨hpos, hhi⟩ := h.time t rfl
    have ht : Number.readInteger? (Number.intText t) = some t :=
      Number.readInteger?_intText (by rw [Number.minInteger]; omega) hhi
    exact (read_number_time_eq_ok hnumber fun _ => isDigit_of_mem_time hpos).mpr
      ⟨number, t, hread, ht, rfl⟩

/-- Nothing else is read from the text of a reference whose time is not negative. -/
theorem eq_of_read_text {r r' : Reference} (htime : ∀ t ∈ r.created, 0 ≤ t)
    (h : read r.text = .ok r') : r' = r := by
  obtain ⟨number, created⟩ := r
  have hnumber : ∀ c ∈ Dbref.text number, Dbref.IsTextChar c :=
    fun _ hc => Dbref.isTextChar_of_mem_text hc
  cases created with
  | none =>
    obtain ⟨d, hd, rfl⟩ := (read_number_eq_ok hnumber).mp h
    rw [Dbref.eq_of_read_text hd]
  | some t =>
    have hpos : 0 ≤ t := htime t rfl
    obtain ⟨d, t', hd, ht', rfl⟩ :=
      (read_number_time_eq_ok hnumber fun _ => isDigit_of_mem_time hpos).mp h
    rw [Dbref.eq_of_read_text hd, Number.eq_of_readInteger?_intText ht']

/-- A reference is written as a number sign and then a minus sign or a digit. -/
theorem text_eq_cons (r : Reference) :
    ∃ c cs, r.text = '#' :: c :: cs ∧ c.isAlpha = false := by
  -- A number begins with its sign or with a digit.
  have hnumber : ∃ c cs, Number.intText r.number = c :: cs ∧ c.isAlpha = false := by
    unfold Number.intText
    split
    · exact ⟨'-', _, rfl, by decide⟩
    · obtain ⟨c, cs, hcs⟩ := List.exists_cons_of_ne_nil (Number.natText_ne_nil r.number.natAbs)
      have hdigit := Number.isDigit_of_mem_natText (hcs ▸ List.mem_cons_self)
      refine ⟨c, cs, hcs, ?_⟩
      simp only [Char.isDigit, Char.isAlpha, Char.isUpper, Char.isLower] at hdigit ⊢
      grind
  obtain ⟨c, cs, hcs, hc⟩ := hnumber
  unfold text
  split
  · exact ⟨c, _, by rw [Dbref.text, hcs]; rfl, hc⟩
  · exact ⟨c, _, by rw [Dbref.text, hcs], hc⟩

end Reference

/-! ### References inside locks -/

namespace Key

/-- A time is nothing, or a colon and digits. -/
private theorem timeOf_cases (cs : List Char) :
    timeOf cs = [] ∨ ∃ digits, timeOf cs = ':' :: digits ∧ ∀ c ∈ digits, c.isDigit := by
  unfold timeOf
  split
  · rename_i rest
    by_cases hempty : (rest.takeWhile Char.isDigit).isEmpty
    · exact .inl (if_pos hempty)
    · exact .inr ⟨_, if_neg hempty, fun c hc => Text.mem_takeWhile hc⟩
  · exact .inl rfl

/-- A sign is nothing or a minus sign. -/
private theorem mem_signOf {cs : List Char} {c : Char} (h : c ∈ signOf cs) : c = '-' := by
  unfold signOf at h
  split at h
  · exact List.mem_singleton.mp h
  · exact absurd h (by simp)

/-- What is read as a number is written with them too. -/
private theorem isTextChar_of_mem_numeral {cs digits : List Char}
    (hdigits : ∀ c ∈ digits, c.isDigit) {c : Char} (h : c ∈ '#' :: (signOf cs ++ digits)) :
    Dbref.IsTextChar c := by
  rcases List.mem_cons.mp h with h | h
  · exact .inl h
  rcases List.mem_append.mp h with h | h
  · exact .inr (.inl (mem_signOf h))
  · exact .inr (.inr (hdigits c h))

/-- **What is read inside a lock is writable.** The time is read from digits only, so it has no
    sign. -/
theorem readReference_writable {cs : List Char} {r : Reference} {n : Nat}
    (h : readReference cs = some (r, n)) : r.Writable := by
  unfold readReference at h
  split at h
  case h_2 => exact absurd h (by simp)
  rename_i rest
  dsimp only at h
  split at h
  case isTrue => exact absurd h (by simp)
  obtain ⟨r', hr', heq⟩ := Option.map_eq_some_iff.mp h
  obtain rfl : r' = r := congrArg Prod.fst heq
  have hr' := toOption_eq_some.mp hr'
  generalize hafter : rest.drop (signOf rest).length = after at hr'
  have hnumber : ∀ c ∈ '#' :: (signOf rest ++ after.takeWhile Char.isDigit), Dbref.IsTextChar c :=
    fun _ hc => isTextChar_of_mem_numeral (fun _ hd => Text.mem_takeWhile hd) hc
  -- Behind the number stands a time or none.
  rcases timeOf_cases (after.dropWhile Char.isDigit) with htime | ⟨digits, htime, hdigits⟩
  · rw [htime, List.append_nil] at hr'
    obtain ⟨d, hd, rfl⟩ := (Reference.read_number_eq_ok hnumber).mp hr'
    exact ⟨(Dbref.read_bounds hd).1, (Dbref.read_bounds hd).2, by simp⟩
  · rw [htime, ← List.cons_append] at hr'
    obtain ⟨d, t, hd, ht, rfl⟩ := (Reference.read_number_time_eq_ok hnumber hdigits).mp hr'
    refine ⟨(Dbref.read_bounds hd).1, (Dbref.read_bounds hd).2, ?_⟩
    rintro t' ⟨⟩
    exact ⟨Number.readInteger?_nonneg hdigits ht, (Number.readInteger?_bounds ht).2⟩

/-- A numeral begins with a sign exactly if it is negative, and then come the digits. -/
private theorem signOf_intText (n : Int) (rest : List Char) :
    signOf (Number.intText n ++ rest) ++ Number.natText n.natAbs = Number.intText n := by
  unfold Number.intText
  split
  · rfl
  · obtain ⟨c, cs, hcs⟩ := List.exists_cons_of_ne_nil (Number.natText_ne_nil n.natAbs)
    have hc : c ≠ '-' := by
      rintro rfl
      exact absurd (Number.isDigit_of_mem_natText (hcs ▸ List.mem_cons_self)) (by decide)
    simp [signOf, hcs, hc]

/-- What does not begin with a colon does not begin with a time. -/
theorem timeOf_eq_nil {rest : List Char} (hcolon : rest.head? ≠ some ':') : timeOf rest = [] := by
  cases rest with
  | nil => rfl
  | cons c rest =>
    have hc : c ≠ ':' := fun he => hcolon (by rw [he]; rfl)
    simp [timeOf, hc]

/-- The time of a writable reference is read to its end, and does not begin with a digit. -/
private theorem timeOf_append {t : Option Int} (ht : ∀ n ∈ t, 0 ≤ n) {rest : List Char}
    (hdigit : ∀ c ∈ rest.head?, c.isDigit = false) (hrest : timeOf rest = []) :
    let time := t.elim [] fun n => ':' :: Number.intText n
    timeOf (time ++ rest) = time ∧ ∀ c ∈ (time ++ rest).head?, c.isDigit = false := by
  cases t with
  | none => exact ⟨hrest, hdigit⟩
  | some n =>
    have hn : Number.intText n = Number.natText n.natAbs := by
      rw [Number.intText, if_neg (by simpa using ht n rfl)]
    have hrun : (Number.natText n.natAbs ++ rest).takeWhile Char.isDigit
        = Number.natText n.natAbs :=
      Text.takeWhile_append_stop (fun _ hc => Number.isDigit_of_mem_natText hc) hdigit
    refine ⟨?_, by simp⟩
    simp [timeOf, hn, hrun, Number.natText_ne_nil]

/-- Inside a lock, the text of a reference is taken to its end, whatever follows, unless that could
    be a part of the reference. -/
private theorem readReference_append {r : Reference} (hpos : ∀ t ∈ r.created, 0 ≤ t)
    {rest : List Char} (hdigit : ∀ c ∈ rest.head?, c.isDigit = false) (hrest : timeOf rest = []) :
    readReference (r.text ++ rest)
      = (Reference.read r.text).toOption.map fun r' => (r', r.text.length) := by
  obtain ⟨number, created⟩ := r
  have hafter := timeOf_append hpos hdigit hrest
  generalize htime : (created.elim [] fun t => ':' :: Number.intText t : List Char) = time at hafter
  have htext : Reference.text ⟨number, created⟩ = '#' :: (Number.intText number ++ time) := by
    cases created <;> simp [Reference.text, Dbref.text, ← htime]
  have hsign := signOf_intText number (time ++ rest)
  have hdrop : (Number.intText number ++ (time ++ rest)).drop
      (signOf (Number.intText number ++ (time ++ rest))).length
        = Number.natText number.natAbs ++ (time ++ rest) := by
    -- The sign is cut off the whole text, but it is the sign of the number.
    nth_rewrite 2 [← hsign]
    rw [List.append_assoc, List.drop_left]
  have hdigits : ∀ c ∈ Number.natText number.natAbs, c.isDigit :=
    fun _ hc => Number.isDigit_of_mem_natText hc
  rw [htext, List.cons_append, List.append_assoc, readReference]
  simp only [hdrop, Text.takeWhile_append_stop hdigits hafter.2,
    Text.dropWhile_append_stop hdigits hafter.2, hafter.1, hsign]
  simp [Number.natText_ne_nil]

/-- **References in locks round-trip.** A writable reference is read back from its text, whatever
    follows, unless it could be a part of the reference. -/
theorem readReference_text {r : Reference} (h : r.Writable) {rest : List Char}
    (hdigit : ∀ c ∈ rest.head?, c.isDigit = false) (hcolon : rest.head? ≠ some ':') :
    readReference (r.text ++ rest) = some (r, r.text.length) := by
  rw [readReference_append (fun t ht => (h.time t ht).1) hdigit (timeOf_eq_nil hcolon),
    Reference.read_text h]
  rfl

/-- A reference that is read from its own text is writable. -/
theorem writable_of_readReference_text {r : Reference} (hpos : ∀ t ∈ r.created, 0 ≤ t)
    {rest : List Char} (hdigit : ∀ c ∈ rest.head?, c.isDigit = false)
    (hcolon : rest.head? ≠ some ':') {x : Reference × Nat}
    (h : readReference (r.text ++ rest) = some x) : r.Writable := by
  have hread := readReference_append hpos hdigit (timeOf_eq_nil hcolon)
  rw [h] at hread
  obtain ⟨r', hr', rfl⟩ := Option.map_eq_some_iff.mp hread.symm
  obtain rfl := Reference.eq_of_read_text hpos (toOption_eq_some.mp hr')
  exact readReference_writable h

/-- **What is read of a reference that is not writable** is its number at most, and a colon is left.
    -/
theorem readReference_stops {r : Reference} (hr : ¬ r.Writable) {rest : List Char}
    (hdigit : ∀ c ∈ rest.head?, c.isDigit = false) (hcolon : rest.head? ≠ some ':')
    {x : Reference × Nat} (h : readReference (r.text ++ rest) = some x) :
    ((r.text ++ rest).drop x.2).head? = some ':' := by
  by_cases hpos : ∀ t ∈ r.created, 0 ≤ t
  · exact absurd (writable_of_readReference_text hpos hdigit hcolon h) hr
  · obtain ⟨number, created⟩ := r
    push Not at hpos
    obtain ⟨t, rfl, ht⟩ := hpos
    -- A minus sign behind the colon is no time.
    have htext : Reference.text ⟨number, some t⟩ ++ rest
        = Reference.text ⟨number, none⟩ ++ ':' :: '-' :: (Number.natText t.natAbs ++ rest) := by
      simp [Reference.text, Number.intText, ht]
    rw [htext] at h ⊢
    rw [readReference_append (by simp) (by simp) (by simp [timeOf])] at h
    obtain ⟨r', -, rfl⟩ := Option.map_eq_some_iff.mp h
    rw [List.drop_left]
    rfl

end Key

end Softcode
