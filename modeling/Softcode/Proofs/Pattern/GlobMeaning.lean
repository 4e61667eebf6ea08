import Softcode.Proofs.Pattern.GlobReading
import Softcode.Proofs.Regex.Straight

namespace Softcode

/-!
# What globs mean

A glob is matched as a regular expression that is written out, read, compiled and searched for.
What comes of all this is described directly, by how a text is cut into one piece for each item of
the glob (`Glob.Fits`).

* `Glob.Fits` — the texts that a glob stands for;
* `Glob.spans_items` — the expressions of its items take these texts;
* `Glob.compile_accepts` — and so does the matcher of the glob.
-/

/-! ### Characters without case -/

namespace Text

/-- Is there no other character that agrees with this one up to case? -/
def isUncased (c : Char) : Bool :=
  c != '\x00' && foldRuns.all fun run => !run.has c.toNat && (run.unmap? c).isNone

/-- Only the number of a character gives that character, unless it is the null character. -/
private theorem toNat_eq_of_ofNat {n : Nat} {c : Char} (h : Char.ofNat n = c) (hc : c ≠ '\x00') :
    c.toNat = n := by
  by_cases hn : n.isValidChar
  · rw [Char.ofNat, dif_pos hn] at h
    subst h
    rfl
  · rw [Char.ofNat, dif_neg hn] at h
    exact absurd h.symm hc

variable {run : CaseRun} {c x : Char}

/-- What a run moves can be moved back. -/
private theorem CaseRun.unmap?_of_map? (h : run.map? x = some c) (hc : c ≠ '\x00') :
    run.unmap? c = some x := by
  rw [map?] at h
  split at h
  · rename_i hx
    have hn := toNat_eq_of_ofNat (Option.some.inj h) hc
    have hc' : c.toNat ≠ 0 := fun h0 => hc (by rw [← Char.ofNat_toNat c, h0])
    have hdistance : (c.toNat : Int) - run.distance = x.toNat := by omega
    simp [unmap?, hdistance, hx, Char.ofNat_toNat]
  · cases h

/-- What is moved back belongs to the run. -/
private theorem CaseRun.has_of_unmap? (h : run.unmap? x = some c) (hc : c ≠ '\x00') :
    run.has c.toNat := by
  simp only [unmap?] at h
  split at h
  · rename_i hn
    rw [toNat_eq_of_ofNat (Option.some.inj h) hc]
    exact (Bool.and_eq_true_iff.mp hn).2
  · cases h

/-- Such a character is the folded form of itself and of no other. -/
private theorem fold_eq_iff_of_uncased (hc : isUncased c) : fold x = c ↔ x = c := by
  simp only [isUncased, Bool.and_eq_true, bne_iff_ne, List.all_eq_true, Bool.not_eq_true',
    Option.isNone_iff_eq_none] at hc
  obtain ⟨hzero, hruns⟩ := hc
  constructor
  · intro h
    rw [fold] at h
    cases hx : foldRuns.findSome? (·.map? x) with
    | none => rwa [hx] at h
    -- A run that leads to the character would lead back from it.
    | some y =>
      rw [hx, Option.getD_some] at h
      obtain ⟨run, hrun, hmap⟩ := List.exists_of_findSome?_eq_some hx
      cases (hruns run hrun).2.symm.trans (CaseRun.unmap?_of_map? (h ▸ hmap) hzero)
  · rintro rfl
    have hnone : foldRuns.findSome? (·.map? x) = none :=
      List.findSome?_eq_none_iff.mpr fun run hrun => by simp [CaseRun.map?, (hruns run hrun).1]
    rw [fold, hnone, Option.getD_none]

/-- Such a character is a variant of itself only. -/
private theorem mem_caseVariants_iff_of_uncased (hc : isUncased c) :
    c ∈ caseVariants x ↔ x = c := by
  have hfold := fold_eq_iff_of_uncased (x := x) hc
  simp only [isUncased, Bool.and_eq_true, bne_iff_ne, List.all_eq_true, Bool.not_eq_true'] at hc
  obtain ⟨hzero, hruns⟩ := hc
  have hnot : c ∉ foldRuns.filterMap (·.unmap? (fold x)) := by
    intro hmem
    obtain ⟨run, hrun, hunmap⟩ := List.mem_filterMap.mp hmem
    cases (hruns run hrun).1.symm.trans (CaseRun.has_of_unmap? hunmap hzero)
  simp only [caseVariants, List.mem_cons, hnot, or_false, eq_comm (a := c), hfold, or_self]

end Text

/-! ### The meaning of globs -/

namespace Glob

/-- Is the character the one that is asked for, up to case unless case matters? -/
def Same (caseSensitive : Bool) (c x : Char) : Prop :=
  if caseSensitive then x = c else Text.fold x = Text.fold c

/-- May a wildcard that stays within a segment take the character? -/
def Wild (style : GlobStyle) (x : Char) : Prop :=
  style = .attributeName → x ≠ '`'

instance (caseSensitive : Bool) (c x : Char) : Decidable (Same caseSensitive c x) :=
  inferInstanceAs (Decidable (if caseSensitive then x = c else Text.fold x = Text.fold c))

instance (style : GlobStyle) (x : Char) : Decidable (Wild style x) :=
  inferInstanceAs (Decidable (_ → _))

/-- Can the text be cut into pieces that fit the items of the glob in order? -/
inductive Fits (style : GlobStyle) (caseSensitive : Bool) : List Char → List Char → Prop
  | done : Fits style caseSensitive [] []
  /-- A backslash takes the meaning from the character after it. -/
  | escaped {c x glob text} (hx : Same caseSensitive c x) (h : Fits style caseSensitive glob text) :
      Fits style caseSensitive ('\\' :: c :: glob) (x :: text)
  /-- A backslash at the end stands for itself. -/
  | backslash : Fits style caseSensitive ['\\'] ['\\']
  | one {x glob text} (hx : Wild style x) (h : Fits style caseSensitive glob text) :
      Fits style caseSensitive ('?' :: glob) (x :: text)
  /-- In names of attributes, a star with another one after it is not read alone. -/
  | run {piece glob text} (hglob : style = .attributeName → glob.head? ≠ some '*')
      (hpiece : ∀ x ∈ piece, Wild style x) (h : Fits style caseSensitive glob text) :
      Fits style caseSensitive ('*' :: glob) (piece ++ text)
  /-- There, two stars cross segments. -/
  | deepRun {piece glob text} (hstyle : style = .attributeName)
      (h : Fits style caseSensitive glob text) :
      Fits style caseSensitive ('*' :: '*' :: glob) (piece ++ text)
  | char {c x glob text} (hc : c ∉ ['\\', '?', '*']) (hx : Same caseSensitive c x)
      (h : Fits style caseSensitive glob text) : Fits style caseSensitive (c :: glob) (x :: text)

variable {style : GlobStyle} {caseSensitive : Bool}

/-- Only the empty text fits an empty glob. -/
private theorem fits_nil_iff {text : List Char} : Fits style caseSensitive [] text ↔ text = [] := by
  constructor
  · rintro ⟨⟩
    rfl
  · rintro rfl
    exact .done

/-- A character after a backslash stands for itself. -/
private theorem fits_escaped_iff {c : Char} {glob text : List Char} :
    Fits style caseSensitive ('\\' :: c :: glob) text ↔
      ∃ x rest, text = x :: rest ∧ Same caseSensitive c x ∧ Fits style caseSensitive glob rest := by
  constructor
  · intro h
    cases h with
    | escaped hx h => exact ⟨_, _, rfl, hx, h⟩
    | char hc => exact absurd List.mem_cons_self hc
  · rintro ⟨x, rest, rfl, hx, h⟩
    exact .escaped hx h

/-- A backslash at the end stands for itself. -/
private theorem fits_backslash_iff {text : List Char} :
    Fits style caseSensitive ['\\'] text ↔ text = ['\\'] := by
  constructor
  · intro h
    cases h with
    | backslash => rfl
    | char hc => exact absurd List.mem_cons_self hc
  · rintro rfl
    exact .backslash

/-- A question mark stands for one character. -/
private theorem fits_one_iff {glob text : List Char} :
    Fits style caseSensitive ('?' :: glob) text ↔
      ∃ x rest, text = x :: rest ∧ Wild style x ∧ Fits style caseSensitive glob rest := by
  constructor
  · intro h
    cases h with
    | one hx h => exact ⟨_, _, rfl, hx, h⟩
    | char hc => exact absurd (by decide) hc
  · rintro ⟨x, rest, rfl, hx, h⟩
    exact .one hx h

/-- A star that does not come with another one in the name of an attribute. -/
private theorem fits_run_iff {glob text : List Char}
    (hglob : style = .attributeName → glob.head? ≠ some '*') :
    Fits style caseSensitive ('*' :: glob) text ↔
      ∃ piece rest, text = piece ++ rest ∧ (∀ x ∈ piece, Wild style x) ∧
        Fits style caseSensitive glob rest := by
  constructor
  · intro h
    cases h with
    | run _ hpiece h => exact ⟨_, _, rfl, hpiece, h⟩
    | deepRun hstyle => exact absurd rfl (hglob hstyle)
    | char hc => exact absurd (by decide) hc
  · rintro ⟨piece, rest, rfl, hpiece, h⟩
    exact .run hglob hpiece h

/-- Two stars in the name of an attribute stand for any text. -/
private theorem fits_deepRun_iff {glob text : List Char} (hstyle : style = .attributeName) :
    Fits style caseSensitive ('*' :: '*' :: glob) text ↔
      ∃ piece rest, text = piece ++ rest ∧ Fits style caseSensitive glob rest := by
  constructor
  · intro h
    cases h with
    | run hglob => exact absurd rfl (hglob hstyle)
    | deepRun _ h => exact ⟨_, _, rfl, h⟩
    | char hc => exact absurd (by decide) hc
  · rintro ⟨piece, rest, rfl, h⟩
    exact .deepRun hstyle h

/-- All other characters stand for themselves. -/
private theorem fits_char_iff {c : Char} {glob text : List Char} (hc : c ∉ ['\\', '?', '*']) :
    Fits style caseSensitive (c :: glob) text ↔
      ∃ x rest, text = x :: rest ∧ Same caseSensitive c x ∧ Fits style caseSensitive glob rest := by
  constructor
  · intro h
    cases h with
    | char _ hx h => exact ⟨_, _, rfl, hx, h⟩
    | escaped | backslash | one | run | deepRun => exact absurd (by decide) hc
  · rintro ⟨x, rest, rfl, hx, h⟩
    exact .char hc hx h

/-! ### Classes -/

/-- The class of a character has those that are the same. -/
theorem has_literal_iff (c x : Char) :
    (if !caseSensitive then CharClass.like c else .char c).has x ↔ Same caseSensitive c x := by
  cases caseSensitive <;> simp [CharClass.has, Same, Text.foldEq]

/-- A backslash stands for no other character up to case. -/
theorem same_backslash_iff (x : Char) : Same caseSensitive '\\' x ↔ x = '\\' := by
  have huncased : Text.isUncased '\\' := by decide +kernel
  cases caseSensitive with
  | false =>
    rw [Same, if_neg Bool.false_ne_true, (Text.fold_eq_iff_of_uncased huncased).mpr rfl]
    exact Text.fold_eq_iff_of_uncased huncased
  | true => exact Iff.rfl

/-- The class of a wildcard has those that it may take. -/
private theorem has_wildClass_iff (style : GlobStyle) (fold : Bool) (x : Char) :
    (GlobItem.wildClass style fold).has x ↔ Wild style x := by
  have hnone : ∀ x, CharClass.none.has x = false := fun _ => rfl
  -- The backtick has no case, so it stays the only character of the class when this is folded.
  have hfolded : (Text.caseVariants x).any (CharClass.union .none (.char '`')).has = true ↔
      x = '`' := by
    rw [List.any_eq_true]
    simp only [CharClass.has, hnone, Bool.false_or, beq_iff_eq, exists_eq_right]
    exact Text.mem_caseVariants_iff_of_uncased (by decide +kernel)
  rw [GlobItem.wildClass, Wild]
  split
  · rename_i hstyle
    cases fold with
    | false => simp [CharClass.foldedIf, CharClass.has, hnone, hstyle]
    | true => simp [CharClass.foldedIf, CharClass.has, hstyle, ← hfolded]
  · rename_i hstyle
    simp [CharClass.has, hstyle]

/-! ### Items -/

/-- A character that none of the rules for special characters applies to is none of them. -/
theorem notMem_special {c : Char} {cs : List Char} (hlone : c = '\\' → cs = [] → False)
    (hescaped : ∀ c' cs', c = '\\' → cs = c' :: cs' → False) (hone : c = '?' → False)
    (hrun : c = '*' → False) :
    c ∉ ['\\', '?', '*'] := by
  simp only [List.mem_cons, List.not_mem_nil, or_false, not_or]
  refine ⟨fun h => ?_, hone, hrun⟩
  cases cs with
  | nil => exact hlone h rfl
  | cons c' cs => exact hescaped c' cs h rfl

/-- The expressions of the items that follow, up to the end of the text. -/
def itemsRegex (style : GlobStyle) (fold : Bool) (items : List GlobItem) : Regex :=
  .sequence (items.map (GlobItem.regex style fold) ++ [.look .stop])

/-- An item comes before those that follow it. -/
private theorem itemsRegex_cons (fold : Bool) (item : GlobItem) (items : List GlobItem) :
    itemsRegex style fold (item :: items)
      = .cat (item.regex style fold) (itemsRegex style fold items) :=
  Regex.sequence_cons _ (by simp)

/-- **The expressions of the items of a glob take the texts that fit it.** -/
theorem spans_items (style : GlobStyle) (caseSensitive : Bool) (glob : List Char) :
    (itemsRegex style (!caseSensitive) (GlobItem.read style glob)).Spans
      (Fits style caseSensitive glob) := by
  -- The cases are those of reading a glob: its end, a backslash at the end and before a character,
  -- a question mark, two stars across segments and otherwise, one star, and any other character.
  fun_induction GlobItem.read style glob with
  | case1 => exact Regex.spans_stop.congr fun _ => fits_nil_iff.symm
  | case2 =>
    rw [itemsRegex_cons]
    refine (Regex.spans_stop.cls _).congr fun text => ?_
    simp only [has_literal_iff, same_backslash_iff, fits_backslash_iff]
    constructor
    · rintro ⟨_, _, rfl, rfl, rfl⟩
      rfl
    · rintro rfl
      exact ⟨_, _, rfl, rfl, rfl⟩
  | case3 c cs ih =>
    rw [itemsRegex_cons]
    exact (ih.cls _).congr fun text => by simp only [has_literal_iff, fits_escaped_iff]
  | case4 cs ih =>
    rw [itemsRegex_cons]
    exact (ih.cls _).congr fun text => by simp only [has_wildClass_iff, fits_one_iff]
  | case5 cs hstyle ih =>
    rw [itemsRegex_cons]
    refine (ih.run true _).congr fun text => ?_
    simp only [CharClass.has, implies_true, true_and, fits_deepRun_iff hstyle]
  | case6 cs hstyle ih =>
    rw [itemsRegex_cons]
    refine (ih.run true _).congr fun text => ?_
    simp only [has_wildClass_iff, fits_run_iff fun h => absurd h hstyle]
  | case7 cs hcs ih =>
    have hglob : cs.head? ≠ some '*' := by
      intro h
      obtain ⟨cs', rfl⟩ := List.head?_eq_some_iff.mp h
      exact hcs cs' rfl
    rw [itemsRegex_cons]
    refine (ih.run true _).congr fun text => ?_
    simp only [has_wildClass_iff, fits_run_iff fun _ => hglob]
  | case8 c cs hlone hescaped hone _ hrun ih =>
    have hc := notMem_special hlone hescaped hone hrun
    rw [itemsRegex_cons]
    exact (ih.cls _).congr fun text => by simp only [has_literal_iff, fits_char_iff hc]

/-! ### Matchers -/

/-- The expression begins at the start of the text. -/
private theorem globRegex_eq (style : GlobStyle) (fold : Bool) (glob : List Char) :
    globRegex style fold glob
      = .cat (.look .start) (itemsRegex style fold (GlobItem.read style glob)) :=
  Regex.sequence_cons _ (by simp)

/-- Nothing in it branches. -/
private theorem straight_globRegex (style : GlobStyle) (fold : Bool) (glob : List Char) :
    (globRegex style fold glob).Straight := by
  refine Regex.straight_sequence (by simp) fun a ha => ?_
  simp only [List.cons_append, List.mem_cons, List.mem_append, List.mem_map, List.not_mem_nil,
    or_false] at ha
  rcases ha with rfl | ⟨item, -, rfl⟩ | rfl
  · exact .look _
  · cases item with
    | char | one => exact .cls _
    | run | deepRun => exact .run _ _
  · exact .look _

/-- No glob has more items than characters. -/
theorem length_read_le (style : GlobStyle) (glob : List Char) :
    (GlobItem.read style glob).length ≤ glob.length := by
  fun_induction GlobItem.read style glob <;> simp only [List.length_cons, List.length_nil] at * <;>
    omega

/-- No item takes more than two instructions. -/
theorem size_globRegex_le (style : GlobStyle) (fold : Bool) (glob : List Char) :
    (globRegex style fold glob).size ≤ 2 * glob.length + 2 := by
  have hitem : ∀ item, (GlobItem.regex style fold item).size ≤ 2 := by
    intro item
    cases item <;> simp [GlobItem.regex, Regex.size, Regex.minLength]
  -- No item takes more than two instructions, and none is read from less than one character.
  have hitems : ∀ items, (itemsRegex style fold items).size ≤ 2 * items.length + 1 := by
    intro items
    induction items with
    | nil => exact Nat.le_refl 1
    | cons item items ih =>
      have := hitem item
      rw [itemsRegex_cons, Regex.size, List.length_cons]
      omega
  have hsize := hitems (GlobItem.read style glob)
  have hlength := length_read_le style glob
  rw [globRegex_eq, Regex.size, Regex.size]
  omega

/-- From the start of a text, the expression of a glob leads somewhere exactly if the text fits. -/
private theorem takes_globRegex_iff (offset : Nat) (before : Option Char) (glob text : List Char) :
    (∃ place, (globRegex style (!caseSensitive) glob).Takes ⟨offset, before, text⟩ place) ↔
      before = none ∧ Fits style caseSensitive glob text := by
  have hitems := spans_items style caseSensitive glob offset before text
  rw [globRegex_eq, ← hitems]
  constructor
  · rintro ⟨place, htakes⟩
    cases htakes with
    | cat hstart htakes =>
      cases hstart with
      | look hl => exact ⟨Option.isNone_iff_eq_none.mp hl, place, htakes⟩
  · rintro ⟨rfl, place, htakes⟩
    exact ⟨place, .cat (.look rfl) htakes⟩

/-- The whole text has to fit. -/
theorem accepts_globRegex_iff (style : GlobStyle) (caseSensitive : Bool) (glob text : List Char) :
    (Matcher.ofRegex (globRegex style (!caseSensitive) glob) []).accepts text ↔
      Fits style caseSensitive glob text := by
  have hanchored : ∀ offset x rest place,
      ¬ (globRegex style (!caseSensitive) glob).Takes ⟨offset, some x, rest⟩ place := by
    intro offset x rest place htakes
    cases ((takes_globRegex_iff offset (some x) glob rest).mp ⟨place, htakes⟩).1
  rw [Matcher.accepts_ofRegex (straight_globRegex _ _ _) hanchored, takes_globRegex_iff]
  exact and_iff_right rfl

/-- **Globs mean what they say.**  A glob that captures nothing is read as a regular expression, of
    at most two instructions for each of its characters and two more for the ends of the text.
    Unless this is too large, whatever the limit is, it can be used.  It then accepts exactly the
    texts that can be cut into pieces that fit the items of the glob. -/
theorem compile_accepts (style : GlobStyle) (hstyle : style ≠ .capturing) (caseSensitive : Bool)
    (glob : List Char) :
    ∃ r : Regex, r.size ≤ 2 * glob.length + 2 ∧
      (∀ maxSize, Pattern.compile? ⟨.glob style, glob, caseSensitive⟩ maxSize =
        if r.size ≤ maxSize then some (Matcher.ofRegex r []) else none) ∧
      ∀ text, (Matcher.ofRegex r []).accepts text ↔ Fits style caseSensitive glob text := by
  refine ⟨globRegex style (!caseSensitive) glob, size_globRegex_le _ _ _, fun maxSize => ?_,
    accepts_globRegex_iff style caseSensitive glob⟩
  simp [Pattern.compile?, Pattern.source, Regex.read?_globSource hstyle]

/-- In the names of attributes, one star stays within a segment and two stars do not. -/
theorem compile_accepts_stars :
    GlobStyle.attributeName ≠ .capturing ∧
      (∃ m, Pattern.compile? ⟨.glob .attributeName, ['a', '*'], false⟩ = some m ∧
        m.accepts ['A', 'B', 'C'] ∧ ¬ m.accepts ['A', '`', 'C']) ∧
      ∃ m, Pattern.compile? ⟨.glob .attributeName, ['a', '*', '*'], false⟩ = some m ∧
        m.accepts ['A', '`', 'C'] := by
  have ha : Same false 'a' 'A' := by decide +kernel
  refine ⟨by decide, ?_, ?_⟩
  · obtain ⟨r, hsize, hcompile, haccepts⟩ :=
      compile_accepts .attributeName (by decide) false ['a', '*']
    have hready := (hcompile Regex.maxSize).trans (if_pos (Nat.le_trans hsize (by decide)))
    refine ⟨_, hready, (haccepts _).mpr ?_, fun h => ?_⟩
    · have hpiece : ∀ x ∈ ['B', 'C'], Wild .attributeName x := by simp [Wild]
      exact .char (by decide) ha (.run (fun _ => by decide) hpiece .done)
    · -- One star would have to take the mark between segments.
      obtain ⟨_, _, ⟨⟩, -, hstar⟩ := (fits_char_iff (by decide)).mp ((haccepts _).mp h)
      obtain ⟨piece, rest, htext, hpiece, hrest⟩ := (fits_run_iff fun _ => by decide).mp hstar
      rw [fits_nil_iff.mp hrest, List.append_nil] at htext
      exact hpiece '`' (htext ▸ List.mem_cons_self) rfl rfl
  · obtain ⟨r, hsize, hcompile, haccepts⟩ :=
      compile_accepts .attributeName (by decide) false ['a', '*', '*']
    have hready := (hcompile Regex.maxSize).trans (if_pos (Nat.le_trans hsize (by decide)))
    have hstars : Fits .attributeName false ['*', '*'] (['`', 'C'] ++ []) := .deepRun rfl .done
    exact ⟨_, hready, (haccepts _).mpr (.char (by decide) ha hstars)⟩

end Glob

end Softcode
