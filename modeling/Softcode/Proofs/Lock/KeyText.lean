import Softcode.Proofs.Object.ReferenceText

namespace Softcode

/-!
# Keys as they are written

The reader of a key and the printer of keys fit together.  A key is `Writable` if the texts in it
are made of the characters that its reader takes there:

* `Key.read_writable` — what is read is writable;
* `Key.read_text` — a writable key is read back from its text, whatever follows, as long as blanks
  and then the end or an operator follow.  The reader may also take some of those blanks.

Each small reader has the same two lemmas, and the key readers are put together from them.
-/

/-! ### Classes of characters -/

/-- The characters below the first letter beyond ASCII are alphanumeric if ASCII says so. -/
private theorem Text.isAlphanumeric_of_lt {c : Char} (hc : c.toNat < 0xAA) :
    isAlphanumeric c = c.isAlphanum := by
  have hranges : alphanumericRanges.all (fun r => decide (0xAA ≤ r.1)) = true := by decide +kernel
  have hout : inRanges alphanumericRanges c = false := by
    rw [inRanges, List.any_eq_false]
    intro r hr
    have hlo := of_decide_eq_true (List.all_eq_true.mp hranges r hr)
    simp only [Bool.and_eq_true, decide_eq_true_eq, not_and]
    omega
  rw [isAlphanumeric, hout, Bool.or_false]

/-- What is skipped between the parts of a lock. -/
theorem LockExpr.isGap_iff {c : Char} : isGap c ↔ c = ' ' ∨ c = '\t' ∨ c = '\r' ∨ c = '\n' := by
  simp [isGap]

namespace Key

theorem isOperator_iff {c : Char} : isOperator c ↔ c = '&' ∨ c = '|' ∨ c = '(' ∨ c = ')' := by
  simp [isOperator]

/-- The characters that have a meaning in locks. -/
def signs : List Char :=
  [' ', '\t', '\r', '\n', '&', '|', '(', ')', '!', '/', ':', '^', '#', '=', '+', '$', '@']

/-- A character that has a meaning in locks is no part of the name of an attribute. -/
theorem isAttributeChar_sign {c : Char} (h : c ∈ signs) : isAttributeChar c = false := by
  have hall : signs.all (fun c => decide (c.toNat < 0xAA) && !c.isAlphanum &&
      !(['_', '-', '.', '`', '~'].contains c)) = true := by decide
  have hc := List.all_eq_true.mp hall c h
  simp only [Bool.and_eq_true, decide_eq_true_eq, Bool.not_eq_true'] at hc
  rw [isAttributeChar, Text.isAlphanumeric_of_lt hc.1.1, hc.1.2, hc.2, Bool.or_false]

/-- A part of the name of an attribute is no such character. -/
theorem ne_sign {c d : Char} (hc : isAttributeChar c) (hd : d ∈ signs) : c ≠ d := by
  rintro rfl
  rw [isAttributeChar_sign hd] at hc
  exact Bool.noConfusion hc

/-- What can follow a key: blanks, and then the end of the text or an operator. -/
def Ends (rest : List Char) : Prop :=
  ∀ c ∈ (rest.dropWhile LockExpr.isGap).head?, isOperator c

namespace Ends

variable {rest : List Char} {p : Char → Bool}

/-- The first character behind a key is one that is skipped, or an operator. -/
theorem head (h : Ends rest) : ∀ c ∈ rest.head?, LockExpr.isGap c ∨ isOperator c := by
  intro c hc
  cases rest with
  | nil => exact absurd hc (by simp)
  | cons d rest =>
    obtain rfl : d = c := by simpa using hc
    by_cases hd : LockExpr.isGap d
    · exact .inl hd
    · refine .inr (h d ?_)
      rw [List.dropWhile_cons_of_neg hd]
      rfl

/-- No other character stands first. -/
theorem head_ne (h : Ends rest) {c : Char} (hgap : LockExpr.isGap c = false)
    (hop : isOperator c = false) : rest.head? ≠ some c := by
  intro hc
  rcases h.head c hc with hc | hc
  · rw [hgap] at hc
    exact Bool.noConfusion hc
  · rw [hop] at hc
    exact Bool.noConfusion hc

/-- A run of a class that has the skipped characters, but no operator, takes just these. -/
private theorem takeWhile_eq (h : Ends rest) (hgap : ∀ c, LockExpr.isGap c → p c)
    (hop : ∀ c, isOperator c → p c = false) :
    rest.takeWhile p = rest.takeWhile LockExpr.isGap := by
  have hsplit := List.takeWhile_append_dropWhile (p := LockExpr.isGap) (l := rest)
  have hrun : ∀ c ∈ rest.takeWhile LockExpr.isGap, p c := fun c hc => hgap c (Text.mem_takeWhile hc)
  have hstop : ∀ c ∈ (rest.dropWhile LockExpr.isGap).head?, p c = false :=
    fun c hc => hop c (h c hc)
  have htake := Text.takeWhile_append_stop hrun hstop
  rwa [hsplit] at htake

/-- What is left when some of the blanks are taken can follow a key too. -/
theorem drop (h : Ends rest) {j : Nat} (hj : j ≤ (rest.takeWhile LockExpr.isGap).length) :
    Ends (rest.drop j) := by
  induction j generalizing rest with
  | zero => exact h
  | succ j ih =>
    cases rest with
    | nil => exact absurd hj (by simp)
    | cons c rest =>
      -- Only gaps are dropped, and what follows them is still the end of a key.
      by_cases hc : LockExpr.isGap c
      · rw [List.takeWhile_cons_of_pos hc, List.length_cons] at hj
        refine ih ?_ (by omega)
        rwa [Ends, List.dropWhile_cons_of_pos hc] at h
      · rw [List.takeWhile_cons_of_neg hc] at hj
        exact absurd hj (by simp)

end Ends

/-! ### Words and phrases -/

/-- Is the text a run of characters of a class? -/
structure Word (p : Char → Bool) (s : String) : Prop where
  nonempty : s.toList ≠ []
  all : ∀ c ∈ s.toList, p c

instance (p : Char → Bool) (s : String) : Decidable (Word p s) :=
  decidable_of_iff (s.toList ≠ [] ∧ s.toList.all p) (by
    rw [List.all_eq_true]
    exact ⟨fun h => ⟨h.1, h.2⟩, fun h => ⟨h.nonempty, h.all⟩⟩)

/-- Is the text a run of characters of a class, with no blanks around it? -/
structure Phrase (p : Char → Bool) (s : String) : Prop extends Word p s where
  trimmed : Text.trim s.toList = s.toList

instance (p : Char → Bool) (s : String) : Decidable (Phrase p s) :=
  decidable_of_iff (Word p s ∧ Text.trim s.toList = s.toList)
    ⟨fun h => ⟨h.1, h.2⟩, fun h => ⟨h.toWord, h.trimmed⟩⟩

variable {p : Char → Bool} {cs rest : List Char} {s : String} {n : Nat}

/-- A run that is read is a word. -/
private theorem readWhile_word (h : readWhile p cs = some (s, n)) : Word p s := by
  unfold readWhile at h
  dsimp only at h
  split at h
  · exact absurd h (by simp)
  · rename_i hne
    obtain ⟨rfl, -⟩ := Prod.mk.inj (Option.some.inj h)
    refine ⟨?_, ?_⟩
    · simpa using hne
    · intro c hc
      rw [String.toList_ofList] at hc
      exact Text.mem_takeWhile hc

/-- A word is read back from its text, if its class ends there. -/
private theorem readWhile_text (hs : Word p s) (hrest : ∀ c ∈ rest.head?, p c = false) :
    readWhile p (s.toList ++ rest) = some (s, s.toList.length) := by
  simp [readWhile, Text.takeWhile_append_stop hs.all hrest, hs.nonempty]

/-- A run that may have blanks in it is read as a phrase, without those at its ends. -/
private theorem readRun_phrase (h : readRun p cs = some (s, n)) : Phrase p s := by
  unfold readRun at h
  dsimp only at h
  split at h
  · exact absurd h (by simp)
  · rename_i hne
    obtain ⟨rfl, -⟩ := Prod.mk.inj (Option.some.inj h)
    refine ⟨⟨?_, ?_⟩, ?_⟩
    · rw [String.toList_ofList]
      exact Text.trim_ne_nil (Bool.eq_false_of_not_eq_true hne)
    · intro c hc
      rw [String.toList_ofList] at hc
      exact Text.mem_takeWhile (Text.mem_of_mem_trim hc)
    · rw [String.toList_ofList, Text.trim_trim]

/-- A phrase is read back from its text, with the blanks of the class that follow. -/
private theorem readRun_text (hs : Phrase p s) (hrest : ∀ c ∈ rest.takeWhile p, Text.isBlank c) :
    readRun p (s.toList ++ rest) = some (s, s.toList.length + (rest.takeWhile p).length) := by
  have hrun : (s.toList ++ rest).takeWhile p = s.toList ++ rest.takeWhile p :=
    List.takeWhile_append_of_pos hs.all
  have htrim : Text.trim (s.toList ++ rest.takeWhile p) = s.toList := by
    rw [Text.trim_append_blank _ hrest, hs.trimmed]
  -- A text of blanks only would be trimmed to nothing.
  have hblank : Text.allBlank (s.toList ++ rest.takeWhile p) = false := by
    by_contra hall
    have hnil : Text.trim (s.toList ++ rest.takeWhile p) = [] := by
      rw [Bool.not_eq_false] at hall
      rw [Text.trim, List.dropWhile_eq_nil_iff.mpr (List.all_eq_true.mp hall)]
      rfl
    exact hs.nonempty (htrim.symm.trans hnil)
  simp only [readRun, hrun, hblank, htrim, String.ofList_toList, List.length_append,
    Bool.false_eq_true, if_false]

/-! ### Targets -/

end Key

/-- Can the target be written in a lock? -/
def Target.Writable : Target → Prop
  | ref r => r.Writable
  | name n => Key.Phrase Key.isNameChar n

namespace Key

variable {cs rest : List Char} {n : Nat}

/-- A target that is read is writable. -/
private theorem readTarget_writable {t : Target} (h : readTarget cs = some (t, n)) :
    t.Writable := by
  unfold readTarget at h
  split at h
  · rename_i r m hr
    obtain ⟨rfl, -⟩ := Prod.mk.inj (Option.some.inj h)
    exact readReference_writable hr
  · obtain ⟨⟨word, m⟩, hword, heq⟩ := Option.map_eq_some_iff.mp h
    obtain ⟨rfl, -⟩ := Prod.mk.inj heq
    exact readRun_phrase hword

/-- What begins with a number sign is a reference or no target at all. -/
theorem readTarget_reference (r : Reference) (rest : List Char) :
    readTarget (r.text ++ rest)
      = (readReference (r.text ++ rest)).map fun (r', n) => (.ref r', n) := by
  obtain ⟨c, cs, htext, -⟩ := r.text_eq_cons
  have hname : readName (r.text ++ rest) = none := by
    rw [htext]
    rfl
  rw [readTarget, hname]
  cases readReference (r.text ++ rest) <;> rfl

/-- What follows a target: characters of names only if they are blank, and nothing that could be a
    part of a reference. -/
structure EndsTarget (rest : List Char) : Prop where
  blank : ∀ c ∈ rest.takeWhile isNameChar, Text.isBlank c
  digit : ∀ c ∈ rest.head?, c.isDigit = false
  colon : rest.head? ≠ some ':'

/-- A writable target is read back, with some of the blanks behind it. -/
private theorem readTarget_text {t : Target} (ht : t.Writable) (hrest : EndsTarget rest) :
    ∃ j ≤ (rest.takeWhile isNameChar).length,
      readTarget (t.text ++ rest) = some (t, t.text.length + j) := by
  cases t with
  | ref r =>
    refine ⟨0, Nat.zero_le _, ?_⟩
    rw [readTarget, Target.text, readReference_text ht hrest.digit hrest.colon, Nat.add_zero]
  | name word =>
    have hword : Phrase isNameChar word := ht
    refine ⟨(rest.takeWhile isNameChar).length, Nat.le_refl _, ?_⟩
    -- A name does not begin with a number sign, so it is not read as a reference.
    have href : readReference (word.toList ++ rest) = none := by
      obtain ⟨c, cs, hcs⟩ := List.exists_cons_of_ne_nil hword.nonempty
      have hc : c ≠ '#' := by
        rintro rfl
        exact absurd (hword.all '#' (by simp [hcs])) (by decide)
      simp [readReference, hcs, hc]
    rw [readTarget, Target.text, href]
    simp only [readName, readRun_text hword hrest.blank, Option.map_some]

/-! ### Pairs -/

/-- What two readers read with a character between them. -/
private theorem readPair_eq_some {first second : List Char → Option (String × Nat)} {c : Char}
    {a b : String} (h : readPair first c second cs = some ((a, b), n)) :
    ∃ l m, first cs = some (a, l) ∧ second (cs.drop (l + 1)) = some (b, m) := by
  unfold readPair at h
  obtain ⟨⟨a', l⟩, hfirst, h⟩ := Option.bind_eq_some_iff.mp h
  dsimp only at h
  split at h
  · exact absurd h (by simp)
  · obtain ⟨⟨b', m⟩, hsecond, h⟩ := Option.bind_eq_some_iff.mp h
    obtain ⟨hab, -⟩ := Prod.mk.inj (Option.some.inj h)
    obtain ⟨rfl, rfl⟩ := Prod.mk.inj hab
    exact ⟨l, m, hfirst, hsecond⟩

/-- Two texts with a character between them are read as a pair, if each is read. -/
private theorem readPair_text {first second : List Char → Option (String × Nat)} {c : Char}
    {a b : String} {l m : Nat} {before after : List Char} (hl : l = before.length)
    (hfirst : first (before ++ c :: after) = some (a, l)) (hsecond : second after = some (b, m)) :
    readPair first c second (before ++ c :: after) = some ((a, b), l + 1 + m) := by
  have hdrop : (before ++ c :: after).drop (before.length + 1) = after := by simp
  subst hl
  simp [readPair, hfirst, hsecond, hdrop]

/-- No pair is read if the first reader stops at another character. -/
theorem readPair_eq_none {first second : List Char → Option (String × Nat)} {c : Char} {a : String}
    (hfirst : first cs = some (a, n)) (hc : (cs.drop n).head? ≠ some c) :
    readPair first c second cs = none := by
  rw [List.head?_drop] at hc
  simp [readPair, hfirst, hc]

/-- No pair is read without its first part. -/
theorem readPair_first_none {first second : List Char → Option (String × Nat)} {c : Char}
    (hfirst : first cs = none) : readPair first c second cs = none := by
  simp [readPair, hfirst]

/-- No word with a caret is read from a text whose first character that is no letter is no caret. -/
theorem readPair_letters_eq_none (h : (cs.dropWhile Char.isAlpha).head? ≠ some '^') :
    readPair readLetters '^' readValue cs = none := by
  by_cases hempty : (cs.takeWhile Char.isAlpha).isEmpty
  · exact readPair_first_none (by simp only [readLetters, readWhile, hempty, if_true])
  · refine readPair_eq_none (a := String.ofList (cs.takeWhile Char.isAlpha))
      (n := (cs.takeWhile Char.isAlpha).length) ?_ ?_
    · simp only [readLetters, readWhile, hempty, Bool.false_eq_true, if_false]
    · rwa [Text.drop_length_takeWhile]

/-! ### Keys -/

/-- Can the key be written in a lock? -/
def Writable : Key → Prop
  | always | never => True
  | bare (.ref r) => r.Writable
  | bare (.name n) => Word isAttributeChar n
  | exact t | carry t | owner t => t.Writable
  | indirect t lock => t.Writable ∧ ∀ l ∈ lock, Word Char.isAlpha l
  | kind v | name v | flag v | power v | dbrefList v | ip v | hostname v | channel v =>
    Phrase isValueChar v
  | unlockerAttr a v | lockedAttr a v =>
    Word isAttributeChar a ∧ upperName a = a ∧ Phrase isValueChar v

/-- What a word makes of a phrase is writable. -/
private theorem keyed?_writable {word value : String} {k : Key} (h : keyed? word value = some k)
    (hv : Phrase isValueChar value) : k.Writable := by
  unfold keyed? at h
  split at h
  case h_9 => exact absurd h (by simp)
  all_goals
    obtain rfl := Option.some.inj h
    exact hv

/-- A key with a sign that is read is writable. -/
private theorem readSigned_writable {k : Key} (h : readSigned cs = some (k, n)) : k.Writable := by
  unfold readSigned at h
  split at h
  case h_5 => exact absurd h (by simp)
  -- Behind an indirect target the name of a lock may stand; the other signs have a target only.
  case h_4 rest =>
    obtain ⟨⟨t, m⟩, ht, h⟩ := Option.bind_eq_some_iff.mp h
    have ht := readTarget_writable ht
    dsimp only at h
    split at h
    · split at h
      · rename_i lock l hlock
        obtain ⟨rfl, -⟩ := Prod.mk.inj (Option.some.inj h)
        refine ⟨ht, ?_⟩
        rintro l' ⟨⟩
        exact readWhile_word hlock
      · obtain ⟨rfl, -⟩ := Prod.mk.inj (Option.some.inj h)
        exact ⟨ht, by simp⟩
    · obtain ⟨rfl, -⟩ := Prod.mk.inj (Option.some.inj h)
      exact ⟨ht, by simp⟩
  all_goals
    obtain ⟨⟨t, m⟩, ht, heq⟩ := Option.map_eq_some_iff.mp h
    obtain ⟨rfl, -⟩ := Prod.mk.inj heq
    exact readTarget_writable ht

/-- The name of an attribute stays one in upper case. -/
private theorem isAttributeChar_toUpper {c : Char} (h : isAttributeChar c) :
    isAttributeChar c.toUpper := by
  by_cases hlower : c.isLower
  · have hupper : c.toUpper.isUpper := by
      rw [Char.isUpper_toUpper_eq_isAlpha, Char.isAlpha, hlower, Bool.or_true]
    simp [isAttributeChar, Text.isAlphanumeric, Char.isAlphanum, Char.isAlpha, hupper]
  · rwa [Char.toUpper_eq_of_not_isLower hlower]

/-- The name of an attribute is stored in upper case, and that twice is the same. -/
theorem Word.upper {a : String} (h : Word isAttributeChar a) :
    Word isAttributeChar (upperName a) ∧ upperName (upperName a) = upperName a := by
  refine ⟨⟨?_, ?_⟩, ?_⟩
  · simpa [upperName, Text.upper] using h.nonempty
  · intro c hc
    rw [upperName, String.toList_ofList, Text.upper, List.mem_map] at hc
    obtain ⟨d, hd, rfl⟩ := hc
    exact isAttributeChar_toUpper (h.all d hd)
  · rw [upperName, upperName, String.toList_ofList, Text.upper_upper]

/-- A key without a prefix that is read is writable. -/
private theorem readPlain_writable {k : Key} (h : readPlain cs = some (k, n)) : k.Writable := by
  simp only [readPlain, Option.orElse_eq_orElse, Option.orElse_eq_or, Option.or_eq_some_iff] at h
  -- The readers in the order in which they are tried.
  rcases h with h | ⟨-, h⟩
  · exact readSigned_writable h
  rcases h with h | ⟨-, h⟩
  · obtain ⟨⟨r, m⟩, hr, heq⟩ := Option.map_eq_some_iff.mp h
    obtain ⟨rfl, -⟩ := Prod.mk.inj heq
    exact readReference_writable hr
  rcases h with h | ⟨-, h⟩
  · obtain ⟨⟨⟨a, v⟩, m⟩, hpair, heq⟩ := Option.map_eq_some_iff.mp h
    obtain ⟨rfl, -⟩ := Prod.mk.inj heq
    obtain ⟨_, _, ha, hv⟩ := readPair_eq_some hpair
    exact ⟨(readWhile_word ha).upper.1, (readWhile_word ha).upper.2, readRun_phrase hv⟩
  rcases h with h | ⟨-, h⟩
  · obtain ⟨⟨⟨a, v⟩, m⟩, hpair, heq⟩ := Option.map_eq_some_iff.mp h
    obtain ⟨rfl, -⟩ := Prod.mk.inj heq
    obtain ⟨_, _, ha, hv⟩ := readPair_eq_some hpair
    exact ⟨(readWhile_word ha).upper.1, (readWhile_word ha).upper.2, readRun_phrase hv⟩
  · obtain ⟨⟨a, m⟩, ha, heq⟩ := Option.map_eq_some_iff.mp h
    obtain ⟨rfl, -⟩ := Prod.mk.inj heq
    exact readWhile_word ha

/-- **What is read is writable.** -/
theorem read_writable {k : Key} (h : read cs = some (k, n)) : k.Writable := by
  unfold read at h
  split at h
  · obtain ⟨rfl, -⟩ := Prod.mk.inj (Option.some.inj h)
    trivial
  split at h
  · obtain ⟨rfl, -⟩ := Prod.mk.inj (Option.some.inj h)
    trivial
  split at h
  · rename_i word value m hpair
    obtain ⟨k', hk, heq⟩ := Option.map_eq_some_iff.mp h
    obtain ⟨rfl, -⟩ := Prod.mk.inj heq
    obtain ⟨_, _, _, hv⟩ := readPair_eq_some hpair
    exact keyed?_writable hk (readRun_phrase hv)
  · exact readPlain_writable h

/-! ### Reading keys back -/

theorem isBlank_of_isGap {c : Char} (h : LockExpr.isGap c) : Text.isBlank c := by
  rcases LockExpr.isGap_iff.mp h with rfl | rfl | rfl | rfl <;> decide

private theorem isValueChar_of_isGap (c : Char) (h : LockExpr.isGap c) : isValueChar c := by
  rcases LockExpr.isGap_iff.mp h with rfl | rfl | rfl | rfl <;> decide

private theorem isNameChar_of_isGap (c : Char) (h : LockExpr.isGap c) : isNameChar c := by
  rcases LockExpr.isGap_iff.mp h with rfl | rfl | rfl | rfl <;> decide

/-- What stands first behind a key has a meaning in locks. -/
private theorem mem_signs_of_head (h : Ends rest) : ∀ c ∈ rest.head?, c ∈ signs := by
  intro c hc
  rcases h.head c hc with hc | hc
  · rcases LockExpr.isGap_iff.mp hc with rfl | rfl | rfl | rfl <;> simp [signs]
  · rcases isOperator_iff.mp hc with rfl | rfl | rfl | rfl <;> simp [signs]

/-- Neither letters nor digits nor other characters of attribute names follow a key. -/
private theorem Ends.not_attributeChar (h : Ends rest) :
    ∀ c ∈ rest.head?, isAttributeChar c = false :=
  fun c hc => isAttributeChar_sign (mem_signs_of_head h c hc)

/-- In particular, no letter and no digit does. -/
private theorem Ends.not_isAlphanum (h : Ends rest) :
    ∀ c ∈ rest.head?, c.isAlpha = false ∧ c.isDigit = false := by
  intro c hc
  have hattr := h.not_attributeChar c hc
  simp only [isAttributeChar, Text.isAlphanumeric, Char.isAlphanum, Bool.or_eq_false_iff] at hattr
  exact hattr.1.1

/-- What can follow a key can follow its target. -/
theorem Ends.endsTarget (h : Ends rest) : EndsTarget rest := by
  have htake : rest.takeWhile isNameChar = rest.takeWhile LockExpr.isGap :=
    h.takeWhile_eq isNameChar_of_isGap fun c hc => by simp [isNameChar, hc]
  refine ⟨?_, ?_, ?_⟩
  · intro c hc
    rw [htake] at hc
    exact isBlank_of_isGap (Text.mem_takeWhile hc)
  · exact fun c hc => (h.not_isAlphanum c hc).2
  · exact h.head_ne (by decide) (by decide)

/-- The name of a lock can follow a target. -/
theorem endsTarget_slash (rest : List Char) : EndsTarget ('/' :: rest) := by
  have hslash : isNameChar '/' = false := by decide
  refine ⟨?_, ?_, ?_⟩
  · simp [hslash]
  · simp
  · simp

/-- Free text is read back, with the blanks behind it. -/
private theorem readValue_text {v : String} (hv : Phrase isValueChar v) (hrest : Ends rest) :
    readValue (v.toList ++ rest)
      = some (v, v.toList.length + (rest.takeWhile LockExpr.isGap).length) := by
  have htake : rest.takeWhile isValueChar = rest.takeWhile LockExpr.isGap :=
    hrest.takeWhile_eq isValueChar_of_isGap fun c hc => by simp [isValueChar, hc]
  rw [readValue, readRun_text hv, htake]
  intro c hc
  rw [htake] at hc
  exact isBlank_of_isGap (Text.mem_takeWhile hc)

/-- The reader sees a constant only behind a number sign. -/
theorem read_of_ne_sharp {c : Char} (hc : c ≠ '#') (cs : List Char) :
    read (c :: cs) = match readPair readLetters '^' readValue (c :: cs) with
      | some ((word, value), n) => (keyed? word value).map fun k => (k, n)
      | none => readPlain (c :: cs) := by
  -- The constants are compared without regard to case, but a number sign has none.
  have hlower : c.toLower ≠ '#' := by
    intro h
    by_cases hupper : c.isUpper
    · have halpha : c.toLower.isLower := by
        rw [Char.isLower_toLower_eq_isAlpha, Char.isAlpha, hupper, Bool.true_or]
      rw [h] at halpha
      exact absurd halpha (by decide)
    · rw [Char.toLower_eq_of_not_isUpper hupper] at h
      exact hc h
  have htrue : Text.sameName ((c :: cs).take 5) "#true".toList = false := by
    simp [Text.sameName, Text.lower, hlower]
  have hfalse : Text.sameName ((c :: cs).take 6) "#false".toList = false := by
    simp [Text.sameName, Text.lower, hlower]
  rw [read, htrue, hfalse]
  rfl

/-- What begins with a sign before a target is read as nothing else. -/
theorem read_signed {c : Char} (hc : c ∈ ['=', '+', '$', '@']) (cs : List Char) :
    read (c :: cs) = readSigned (c :: cs) := by
  -- None of the four signs can begin a truth value, a word or an attribute.
  have hfacts : ['=', '+', '$', '@'].all (fun c => decide (c ≠ '#') && !c.isAlpha &&
      decide (c ≠ '^') && decide (c ∈ signs)) = true := by decide
  have hfact := List.all_eq_true.mp hfacts c hc
  simp only [Bool.and_eq_true, decide_eq_true_eq, Bool.not_eq_true'] at hfact
  obtain ⟨⟨⟨hsharp, halpha⟩, hcaret⟩, hsign⟩ := hfact
  have hletters : ((c :: cs).dropWhile Char.isAlpha).head? ≠ some '^' := by
    rw [List.dropWhile_cons_of_neg (by simp [halpha])]
    simpa using hcaret
  have hattribute : readAttribute (c :: cs) = none := by
    simp [readAttribute, readWhile, isAttributeChar_sign hsign]
  rw [read_of_ne_sharp hsharp, readPair_letters_eq_none hletters]
  simp [readPlain, readReference, hsharp, readPair_first_none hattribute, hattribute]

/-- A reference behind an equals sign is read from its text only if it is writable. -/
theorem writable_of_read_exact {r : Reference} (hpos : ∀ t ∈ r.created, 0 ≤ t) {x : Key × Nat}
    (h : read ('=' :: r.text) = some x) : r.Writable := by
  rw [read_signed (by simp), readSigned, ← List.append_nil r.text, readTarget_reference] at h
  obtain ⟨y, hy, -⟩ := Option.map_eq_some_iff.mp h
  obtain ⟨z, hz, -⟩ := Option.map_eq_some_iff.mp hy
  exact writable_of_readReference_text hpos (by simp) (by simp) hz

/-- What begins with the name of an attribute, and goes on with neither a letter nor a caret, is
    neither a constant nor a word with a caret, and has no sign. -/
private theorem read_attribute {a : String} (ha : Word isAttributeChar a)
    (hrest : ∀ c ∈ rest.head?, c.isAlpha = false ∧ c ≠ '^') :
    read (a.toList ++ rest)
      = ((readPair readAttribute ':' readValue (a.toList ++ rest)).map
          (fun ((attr, value), n) => (unlockerAttr (upperName attr) value, n))
        <|> (readPair readAttribute '/' readValue (a.toList ++ rest)).map
          (fun ((attr, value), n) => (lockedAttr (upperName attr) value, n))
        <|> (readAttribute (a.toList ++ rest)).map fun (word, n) => (bare (.name word), n)) := by
  obtain ⟨c, cs, hcs⟩ := List.exists_cons_of_ne_nil ha.nonempty
  have hc : isAttributeChar c := ha.all c (by simp [hcs])
  have hletters : ((a.toList ++ rest).dropWhile Char.isAlpha).head? ≠ some '^' := by
    rw [List.dropWhile_append]
    split
    · -- All of the name is letters, and the rest does not begin with one.
      cases rest with
      | nil => simp
      | cons d rest =>
        obtain ⟨halpha, hcaret⟩ := hrest d rfl
        rw [List.dropWhile_cons_of_neg (by simp [halpha])]
        simpa using hcaret
    · rename_i hne
      obtain ⟨d, ds, hds⟩ := List.exists_cons_of_ne_nil (mt List.isEmpty_iff.mpr hne)
      have hd : isAttributeChar d :=
        ha.all d (List.dropWhile_subset Char.isAlpha (by rw [hds]; exact List.mem_cons_self))
      rw [hds, List.cons_append, List.head?_cons]
      simpa using ne_sign hd (by simp [signs])
  have hsigned : readSigned (c :: (cs ++ rest)) = none := by
    have heq : c ≠ '=' := ne_sign hc (by simp [signs])
    have hplus : c ≠ '+' := ne_sign hc (by simp [signs])
    have hdollar : c ≠ '$' := ne_sign hc (by simp [signs])
    have hat : c ≠ '@' := ne_sign hc (by simp [signs])
    simp [readSigned, heq, hplus, hdollar, hat]
  have hsharp : c ≠ '#' := ne_sign hc (by simp [signs])
  have href : readReference (c :: (cs ++ rest)) = none := by simp [readReference, hsharp]
  rw [hcs, List.cons_append] at hletters ⊢
  rw [read_of_ne_sharp hsharp, readPair_letters_eq_none hletters]
  simp only [readPlain, hsigned, href]
  rfl

/-- The constants are read back, whatever follows. -/
private theorem read_always (rest : List Char) : read (always.text ++ rest) = some (always, 5) := by
  have htext : always.text ++ rest = '#' :: 'T' :: 'R' :: 'U' :: 'E' :: rest := by simp [text]
  have hsame : Text.sameName ['#', 'T', 'R', 'U', 'E'] ['#', 't', 'r', 'u', 'e'] = true := by decide
  rw [htext]
  simp [read, hsame]

/-- The key that nobody has is read back. -/
private theorem read_never (rest : List Char) : read (never.text ++ rest) = some (never, 6) := by
  have htext : never.text ++ rest = '#' :: 'F' :: 'A' :: 'L' :: 'S' :: 'E' :: rest := by simp [text]
  have hdiff : Text.sameName ['#', 'F', 'A', 'L', 'S'] ['#', 't', 'r', 'u', 'e'] = false := by
    decide
  have hsame : Text.sameName ['#', 'F', 'A', 'L', 'S', 'E'] ['#', 'f', 'a', 'l', 's', 'e']
      = true := by
    decide
  rw [htext]
  simp [read, hdiff, hsame]

/-- A word that makes keys is read back with its caret and the text behind that. -/
private theorem read_keyed (word : String) (hword : Word Char.isAlpha word) {v : String} {k : Key}
    (hk : keyed? word v = some k) (htext : k.text = caretText word v)
    (hv : Phrase isValueChar v) (hrest : Ends rest) :
    read (k.text ++ rest)
      = some (k, k.text.length + (rest.takeWhile LockExpr.isGap).length) := by
  -- The word and the value are read up to the caret and up to the end.
  have hpair : readPair readLetters '^' readValue (word.toList ++ '^' :: (v.toList ++ rest))
      = some ((word, v), k.text.length + (rest.takeWhile LockExpr.isGap).length) := by
    have hletters : readLetters (word.toList ++ '^' :: (v.toList ++ rest))
        = some (word, word.toList.length) := readWhile_text hword (by simp)
    rw [readPair_text rfl hletters (readValue_text hv hrest), htext, caretText, List.length_append,
      List.length_cons]
    congr 2
    omega
  obtain ⟨c, cs, hcs⟩ := List.exists_cons_of_ne_nil hword.nonempty
  have hsharp : c ≠ '#' := by
    rintro rfl
    exact absurd (hword.all '#' (by simp [hcs])) (by decide)
  have hcons : k.text ++ rest = c :: (cs ++ '^' :: (v.toList ++ rest)) := by
    rw [htext, caretText, hcs, List.append_assoc]
    rfl
  rw [hcs, List.cons_append] at hpair
  rw [hcons, read_of_ne_sharp hsharp, hpair]
  simp only [hk, Option.map_some]

/-- What begins with a reference is that reference or nothing; it is no constant. -/
theorem read_sharp (r : Reference) (rest : List Char) :
    read (r.text ++ rest)
      = (readReference (r.text ++ rest)).map fun (r', n) => (bare (.ref r'), n) := by
  obtain ⟨c, cs, htext, hc⟩ := Reference.text_eq_cons r
  have hlower : c.toLower = c := by
    rw [Char.isAlpha, Bool.or_eq_false_iff] at hc
    exact Char.toLower_eq_of_not_isUpper (by simp [hc.1])
  -- A number sign with a letter behind it would be a truth value.
  have hne : c ≠ 't' ∧ c ≠ 'f' := by
    constructor <;> (rintro rfl; exact absurd hc (by decide))
  rw [htext]
  simp only [List.cons_append]
  have hletters : (('#' :: c :: (cs ++ rest)).dropWhile Char.isAlpha).head? ≠ some '^' := by
    simp
  have hattribute : readAttribute ('#' :: c :: (cs ++ rest)) = none := by
    simp [readAttribute, readWhile, isAttributeChar_sign (c := '#') (by simp [signs])]
  simp [read, readPlain, Text.sameName, Text.lower, hlower, hne, readPair_letters_eq_none hletters,
    readSigned, readPair_first_none hattribute, hattribute]

/-- A reference alone is read back. -/
private theorem read_reference {r : Reference} (hr : r.Writable) (hrest : Ends rest) :
    read (r.text ++ rest) = some (bare (.ref r), r.text.length) := by
  have href := readReference_text hr (fun c hc => (hrest.not_isAlphanum c hc).2)
    (hrest.head_ne (by decide) (by decide))
  rw [read_sharp, href]
  rfl

/-- A name alone is read back as the name of an object. -/
private theorem read_name {n : String} (hn : Word isAttributeChar n) (hrest : Ends rest) :
    read (n.toList ++ rest) = some (bare (.name n), n.toList.length) := by
  have hword : readAttribute (n.toList ++ rest) = some (n, n.toList.length) :=
    readWhile_text hn hrest.not_attributeChar
  -- Neither a colon nor a slash can stand behind the name, so it is not the name of an attribute.
  have hpair : ∀ c, LockExpr.isGap c = false → isOperator c = false →
      readPair readAttribute c readValue (n.toList ++ rest) = none := by
    intro c hgap hop
    refine readPair_eq_none hword ?_
    rw [List.drop_left]
    exact hrest.head_ne hgap hop
  have hcaret : rest.head? ≠ some '^' := hrest.head_ne (by decide) (by decide)
  rw [read_attribute hn, hpair ':' (by decide) (by decide), hpair '/' (by decide) (by decide),
    hword]
  · rfl
  · intro c hc
    refine ⟨(hrest.not_isAlphanum c hc).1, ?_⟩
    rintro rfl
    exact hcaret hc

/-- A sign before a target is read back with the target. -/
theorem read_sign {c : Char} (hc : c ∈ ['=', '+', '$', '@']) {k : Target → Key} {t : Target}
    (hread : ∀ cs, readSigned (c :: cs) = (readTarget cs).map fun (t, n) => (k t, n + 1))
    (htext : (k t).text = c :: t.text) (ht : t.Writable) (hrest : Ends rest) :
    ∃ j ≤ (rest.takeWhile LockExpr.isGap).length,
      read ((k t).text ++ rest) = some (k t, (k t).text.length + j) := by
  obtain ⟨j, hj, htarget⟩ := readTarget_text ht hrest.endsTarget
  rw [hrest.takeWhile_eq isNameChar_of_isGap fun c hc => by simp [isNameChar, hc]] at hj
  refine ⟨j, hj, ?_⟩
  rw [htext, List.cons_append, read_signed hc, hread, htarget, Option.map_some, List.length_cons,
    Nat.add_right_comm]

/-- A lock of another object is read back with its name, if it has one. -/
private theorem read_indirect {t : Target} {lock : Option String} (ht : t.Writable)
    (hlock : ∀ l ∈ lock, Word Char.isAlpha l) (hrest : Ends rest) :
    ∃ j ≤ (rest.takeWhile LockExpr.isGap).length, read ((indirect t lock).text ++ rest)
      = some (indirect t lock, (indirect t lock).text.length + j) := by
  cases lock with
  | none =>
    obtain ⟨j, hj, htarget⟩ := readTarget_text ht hrest.endsTarget
    rw [hrest.takeWhile_eq isNameChar_of_isGap fun c hc => by simp [isNameChar, hc]] at hj
    refine ⟨j, hj, ?_⟩
    have hslash : (rest.drop j).head? ≠ some '/' := (hrest.drop hj).head_ne (by decide) (by decide)
    have hdrop : (t.text ++ rest).drop (t.text.length + j) = rest.drop j := by simp
    rw [text, List.cons_append, read_signed (by simp)]
    simp only [readSigned, htarget, Option.bind_eq_bind, Option.bind_some, hdrop]
    split
    · rename_i heq
      rw [heq] at hslash
      exact absurd rfl hslash
    · rw [List.length_cons, Nat.add_right_comm]
      rfl
  | some l =>
    obtain ⟨j, hj, htarget⟩ := readTarget_text ht (endsTarget_slash (l.toList ++ rest))
    -- A slash stands directly behind the target, so no blanks are taken there.
    have hzero : j = 0 := by
      rw [List.takeWhile_cons_of_neg (by decide)] at hj
      exact Nat.le_zero.mp hj
    subst hzero
    refine ⟨0, Nat.zero_le _, ?_⟩
    have hletters : readLetters (l.toList ++ rest) = some (l, l.toList.length) :=
      readWhile_text (hlock l rfl) fun c hc => (hrest.not_isAlphanum c hc).1
    rw [text, List.cons_append, List.cons_append, List.append_assoc, List.cons_append,
      read_signed (by simp)]
    simp only [readSigned, htarget, Option.bind_eq_bind, Option.bind_some, Nat.add_zero,
      List.drop_left, hletters, List.length_cons, List.length_append]
    rfl

/-- An attribute and its pattern are read back, with the blanks behind the pattern. -/
private theorem readPair_attribute {a v : String} (ha : Word isAttributeChar a)
    (hv : Phrase isValueChar v) (hrest : Ends rest) {c : Char} (hc : isAttributeChar c = false) :
    readPair readAttribute c readValue (a.toList ++ c :: (v.toList ++ rest)) = some ((a, v),
      (a.toList ++ c :: v.toList).length + (rest.takeWhile LockExpr.isGap).length) := by
  have hattr : readAttribute (a.toList ++ c :: (v.toList ++ rest)) = some (a, a.toList.length) :=
    readWhile_text ha (by simpa using hc)
  rw [readPair_text rfl hattr (readValue_text hv hrest), List.length_append, List.length_cons]
  congr 2
  omega

/-- **A writable key is read back from its text,** with some of the blanks behind it. -/
theorem read_text {k : Key} (hk : k.Writable) (hrest : Ends rest) :
    ∃ j ≤ (rest.takeWhile LockExpr.isGap).length,
      read (k.text ++ rest) = some (k, k.text.length + j) := by
  cases k with
  | always => exact ⟨0, Nat.zero_le _, read_always rest⟩
  | never => exact ⟨0, Nat.zero_le _, read_never rest⟩
  | bare t =>
    refine ⟨0, Nat.zero_le _, ?_⟩
    cases t with
    | ref r => exact read_reference hk hrest
    | name n => exact read_name hk hrest
  | exact t => exact read_sign (k := .exact) (by simp) (fun _ => rfl) rfl hk hrest
  | carry t => exact read_sign (k := .carry) (by simp) (fun _ => rfl) rfl hk hrest
  | owner t => exact read_sign (k := .owner) (by simp) (fun _ => rfl) rfl hk hrest
  | indirect t lock => exact read_indirect hk.1 hk.2 hrest
  | kind v => exact ⟨_, Nat.le_refl _, read_keyed "type" (by decide) rfl rfl hk hrest⟩
  | name v => exact ⟨_, Nat.le_refl _, read_keyed "name" (by decide) rfl rfl hk hrest⟩
  | flag v => exact ⟨_, Nat.le_refl _, read_keyed "flag" (by decide) rfl rfl hk hrest⟩
  | power v => exact ⟨_, Nat.le_refl _, read_keyed "power" (by decide) rfl rfl hk hrest⟩
  | dbrefList v => exact ⟨_, Nat.le_refl _, read_keyed "dbreflist" (by decide) rfl rfl hk hrest⟩
  | ip v => exact ⟨_, Nat.le_refl _, read_keyed "ip" (by decide) rfl rfl hk hrest⟩
  | hostname v => exact ⟨_, Nat.le_refl _, read_keyed "hostname" (by decide) rfl rfl hk hrest⟩
  | channel v => exact ⟨_, Nat.le_refl _, read_keyed "channel" (by decide) rfl rfl hk hrest⟩
  | unlockerAttr a v =>
    obtain ⟨ha, hupper, hv⟩ := hk
    refine ⟨_, Nat.le_refl _, ?_⟩
    rw [text, List.append_assoc, List.cons_append, read_attribute ha (by simp),
      readPair_attribute ha hv hrest (isAttributeChar_sign (by simp [signs]))]
    simp only [Option.map_some, hupper]
    rfl
  | lockedAttr a v =>
    obtain ⟨ha, hupper, hv⟩ := hk
    refine ⟨_, Nat.le_refl _, ?_⟩
    -- A colon is looked for first.
    have hcolon : readPair readAttribute ':' readValue (a.toList ++ '/' :: (v.toList ++ rest))
        = none := by
      refine readPair_eq_none (readWhile_text ha ?_) (by simp)
      simpa using isAttributeChar_sign (c := '/') (by simp [signs])
    rw [text, List.append_assoc, List.cons_append, read_attribute ha (by simp), hcolon,
      readPair_attribute ha hv hrest (isAttributeChar_sign (by simp [signs]))]
    simp only [Option.map_some, hupper]
    rfl

end Key

end Softcode
