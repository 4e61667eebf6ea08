import Softcode.Pattern.Basic

namespace Softcode

/-!
# Globs as regular expressions

The regular expression of a glob is written out as text, and read again before it is used.  What is
read is one expression for each item of the glob, between the two ends of the text: no character of
a glob, however it is used in regular expressions, is taken for anything but itself.

* `Regex.Reader.run_source` — the text of an item is read as the item's expression;
* `Regex.read?_globSource` — hence that of a glob as the expressions of its items, none of which is
  nested too deep.
-/

/-! ### The expressions of items -/

namespace GlobItem

/-- The characters that a wildcard takes, as a bracket that has been read. -/
def wildClass (style : GlobStyle) (fold : Bool) : CharClass :=
  if style = .attributeName then .compl ((CharClass.union .none (.char '`')).foldedIf fold)
    else .any

/-- The expression of an item, if nothing is captured. -/
def regex (style : GlobStyle) (fold : Bool) : GlobItem → Regex
  | char c => .cls (if fold then .like c else .char c)
  | one => .cls (wildClass style fold)
  | run => .rep 0 none true (.cls (wildClass style fold))
  | deepRun => .rep 0 none true (.cls .any)

end GlobItem

/-- The expression of a glob, if nothing is captured. -/
def globRegex (style : GlobStyle) (fold : Bool) (glob : List Char) : Regex :=
  .sequence (.look .start :: (GlobItem.read style glob).map (GlobItem.regex style fold)
    ++ [.look .stop])

namespace Regex

/-! ### Brackets -/

section

variable {f : Flags} (hskip : ∀ cs, f.skip cs = cs) (b : Bracket) (cs : List Char)

include hskip

/-- A bracket that is closed is read. -/
private theorem readBracket_close :
    readBracket f b [] (']' :: cs) = (b.close? f).map (·, b.nesting + 1, cs) := by
  rw [readBracket]
  split <;> simp_all

/-- A backtick in it is listed. -/
private theorem readBracket_backtick (hwide : f.wide = true) :
    readBracket f b [] ('`' :: ']' :: cs) = readBracket f (b.list (.char '`')) [] (']' :: cs) := by
  rw [readBracket]
  split <;> simp_all [readRange, readMember, Flags.admits]

end

/-- The flags that are in force in the expression of a glob. -/
def globFlags (fold : Bool) : Flags := { fold, dotAll := true }

namespace Reader

variable {r : Reader} {fold : Bool}

/-! ### Reading on -/

/-- One construct is read after another. -/
theorem run_cons {next : Reader} {c : Char} {cs rest : List Char}
    (hverbose : r.flags.verbose = false) (hstep : r.step c cs = some (next, rest))
    (hrest : rest.length ≤ cs.length) :
    r.run (c :: cs) = next.run rest := by
  have hskip : r.flags.skip (c :: cs) = c :: cs := by simp [Flags.skip, hverbose]
  rw [run]
  split
  · rename_i h
    cases hskip.symm.trans h
  · rename_i h
    cases hskip.symm.trans h
    simp [hstep, hrest]

/-- At the end, what has been read is left. -/
theorem run_nil (hverbose : r.flags.verbose = false) : r.run [] = some r := by
  rw [run]
  split
  · rfl
  · rename_i h
    simp [Flags.skip, hverbose] at h

/-! ### Single constructs -/

/-- What has no meaning of its own stands for itself. -/
private theorem step_literal {c : Char} (hc : isMeta c = false) (cs : List Char) :
    r.step c cs = some (r.push (.cls (r.flags.literal c)), cs) := by
  unfold step
  split <;> first | rfl | exact absurd hc (by decide)

/-- What has a meaning of its own loses it after a backslash. -/
private theorem step_escaped {c : Char} (hc : isMeta c = true) (cs : List Char) :
    r.step '\\' (c :: cs) = some (r.push (.cls (r.flags.literal c)), cs) := by
  simp [step, readEscape, isEscapable, hc]

/-- Blanks count in the expression of a glob. -/
theorem verbose_of_flags (hflags : r.flags = globFlags fold) : r.flags.verbose = false :=
  hflags ▸ rfl

/-- A dot stands for any character. -/
theorem run_dot (hflags : r.flags = globFlags fold) (cs : List Char) :
    r.run ('.' :: cs) = (r.push (.cls .any)).run cs := by
  refine run_cons (verbose_of_flags hflags) ?_ (Nat.le_refl _)
  simp [step, hflags, globFlags, Flags.dot?]

/-- A bracket that excludes backticks. -/
private theorem run_bracket (hflags : r.flags = globFlags fold) (cs : List Char) :
    r.run ('[' :: '^' :: '`' :: ']' :: cs) =
      (r.push (.cls (GlobItem.wildClass .attributeName fold)) 1).run cs := by
  have hskip : ∀ cs, (globFlags fold).skip cs = cs := fun _ => rfl
  have hopen : Bracket.open (globFlags fold) ('^' :: '`' :: ']' :: cs) =
      ({ negated := true }, '`' :: ']' :: cs) := by
    simp [Bracket.open, hskip, Bracket.readHyphens]
  refine run_cons (verbose_of_flags hflags) ?_ (Nat.le_add_right cs.length 3)
  simp only [step, hflags, hopen]
  rw [readBracket_backtick hskip _ _ rfl, readBracket_close hskip]
  simp [Bracket.list, Bracket.close?, Bracket.value, Bracket.nesting, Flags.compl?, globFlags,
    GlobItem.wildClass]

/-- A class may be repeated. -/
private theorem run_star (hflags : r.flags = globFlags fold) (k : CharClass) (n : Nat)
    {cs : List Char} (hcs : cs.head? ≠ some '?') :
    (r.push (.cls k) n).run ('*' :: cs) = (r.push (.rep 0 none true (.cls k)) (n + 1)).run cs := by
  -- A question mark would belong to the star.
  have hmark : ∀ rest, cs ≠ '?' :: rest := by
    rintro rest rfl
    exact hcs rfl
  refine run_cons (verbose_of_flags hflags) ?_ (Nat.le_refl _)
  simp [step, repeatLast, push, Draft.push, Draft.repeatLast?, hflags, globFlags, repeated,
    takesNone]

/-! ### Items -/

/-- The text of an item never asks for a lazy repetition of what stands before it. -/
private theorem head?_source_ne (style : GlobStyle) (item : GlobItem) (cs : List Char) :
    (item.source style ++ cs).head? ≠ some '?' := by
  cases item with
  | char c =>
    rw [GlobItem.source, quote]
    split
    · simp
    · rename_i hc
      simp only [List.singleton_append, List.head?_cons, ne_eq, Option.some.injEq]
      rintro rfl
      exact hc (by decide)
  | one | run => cases style <;> simp [GlobItem.source]
  | deepRun => simp [GlobItem.source]

/-- A literal stands for itself, however it has to be written. -/
theorem run_quote (hflags : r.flags = globFlags fold) (c : Char) (cs : List Char) :
    r.run (quote c ++ cs) = (r.push (.cls (if fold then .like c else .char c))).run cs := by
  have hverbose : r.flags.verbose = false := by rw [hflags]; rfl
  have hliteral : r.flags.literal c = if fold then .like c else .char c := by
    cases fold <;> simp [hflags, globFlags, Flags.literal]
  rw [quote, ← hliteral]
  split
  · rename_i hc
    exact run_cons hverbose (step_escaped hc cs) (by simp)
  · rename_i hc
    exact run_cons hverbose (step_literal (by simpa using hc) cs) (Nat.le_refl _)

/-- **An item is read as its expression**, whatever follows it, and this is hardly nested. -/
theorem run_source {style : GlobStyle} (hstyle : style ≠ .capturing)
    (hflags : r.flags = globFlags fold) (item : GlobItem) {cs : List Char}
    (hcs : cs.head? ≠ some '?') :
    ∃ n ≤ 2, r.run (item.source style ++ cs) = (r.push (item.regex style fold) n).run cs := by
  have hdots : r.run ('.' :: '*' :: cs) = (r.push (.rep 0 none true (.cls .any)) 1).run cs :=
    (run_dot hflags ('*' :: cs)).trans (run_star hflags _ 0 hcs)
  -- A bracket nests once and a repetition once more, so that two is the most.
  cases item with
  | char c => exact ⟨0, Nat.zero_le 2, run_quote hflags c cs⟩
  | one =>
    cases style with
    | attributeName => exact ⟨1, Nat.le_succ 1, run_bracket hflags cs⟩
    | capturing => exact absurd rfl hstyle
    | plain => exact ⟨0, Nat.zero_le 2, run_dot hflags cs⟩
  | run =>
    cases style with
    | attributeName =>
      exact ⟨2, Nat.le_refl 2, (run_bracket hflags ('*' :: cs)).trans (run_star hflags _ 1 hcs)⟩
    | capturing => exact absurd rfl hstyle
    | plain => exact ⟨1, Nat.le_succ 1, hdots⟩
  | deepRun => exact ⟨1, Nat.le_succ 1, hdots⟩

/-- Pieces have been read one after another, `groups` of them groups. -/
def readOn (r : Reader) (pieces : List Piece) (groups : Nat) : Reader :=
  { r with
    draft := { r.draft with pieces := pieces.reverse ++ r.draft.pieces }
    groups := r.groups + groups }

/-- Are the pieces these expressions, one for one, and hardly nested? -/
structure Holds (pieces : List Piece) (xs : List Regex) : Prop where
  regexes : pieces.filterMap Piece.regex? = xs
  nesting : ∀ p ∈ pieces, p.nesting ≤ 2

/-- One more expression is read as one more piece. -/
theorem Holds.cons {pieces : List Piece} {xs : List Regex} (h : Holds pieces xs) (x : Regex)
    {n : Nat} (hn : n ≤ 2) : Holds (.item x n :: pieces) (x :: xs) where
  regexes := by rw [List.filterMap_cons, Piece.regex?, h.regexes]
  nesting := List.forall_mem_cons.mpr ⟨hn, h.nesting⟩

/-- Items are read one after another. -/
private theorem run_flatMap_source {style : GlobStyle} (hstyle : style ≠ .capturing)
    (hflags : r.flags = globFlags fold) (items : List GlobItem) (cs : List Char)
    (hcs : cs.head? ≠ some '?') :
    ∃ pieces, Holds pieces (items.map (GlobItem.regex style fold)) ∧
      r.run (items.flatMap (GlobItem.source style) ++ cs) = (r.readOn pieces 0).run cs := by
  induction items generalizing r with
  | nil => exact ⟨[], ⟨rfl, by simp⟩, rfl⟩
  | cons item items ih =>
    -- A star at the end of the item is followed by the text of the next one.
    have hnext : (items.flatMap (GlobItem.source style) ++ cs).head? ≠ some '?' := by
      cases items with
      | nil => exact hcs
      | cons item' items =>
        rw [List.flatMap_cons, List.append_assoc]
        exact head?_source_ne style item' _
    obtain ⟨n, hn, hitem⟩ := run_source hstyle hflags item hnext
    obtain ⟨pieces, hpieces, hrun⟩ := ih (r := r.push (item.regex style fold) n) hflags
    refine ⟨.item (item.regex style fold) n :: pieces, hpieces.cons _ hn, ?_⟩
    rw [List.flatMap_cons, List.append_assoc, hitem, hrun]
    simp [readOn, push, Draft.push]

/-- The start of the expression of a glob sets the flags. -/
theorem run_start (caseSensitive : Bool) (cs : List Char) :
    Reader.run { flags := { fold := !caseSensitive } }
        ((if caseSensitive then "(?s)^" else "(?is)^").toList ++ cs) =
      Reader.run { flags := globFlags (!caseSensitive)
                   draft := { pieces := [.item (.look .start) 0, .setting] } } cs := by
  cases caseSensitive with
  | false =>
    refine (run_cons rfl rfl (by simp)).trans ?_
    exact run_cons rfl rfl (Nat.le_refl _)
  | true =>
    refine (run_cons rfl rfl (by simp)).trans ?_
    exact run_cons rfl rfl (Nat.le_refl _)

/-- The end of the expression of a glob. -/
theorem run_stop (hflags : r.flags = globFlags fold) :
    r.run ['$'] = some (r.push (.look .stop)) := by
  refine (run_cons (verbose_of_flags hflags) ?_ (Nat.le_refl _)).trans
    (run_nil (verbose_of_flags hflags))
  simp [step, hflags, globFlags, Flags.dollar]

end Reader

/-- A sequence is nested one level deeper than its pieces. -/
private theorem Draft.branchNesting_le {d : Draft} {n : Nat} (h : ∀ p ∈ d.pieces, p.nesting ≤ n) :
    d.branchNesting ≤ n + 1 := by
  -- Nothing is deeper than the deepest piece.
  have hdeepest : ∀ pieces : List Piece, (∀ p ∈ pieces, p.nesting ≤ n) →
      (pieces.map Piece.nesting).foldr max 0 ≤ n := by
    intro pieces hpieces
    induction pieces with
    | nil => exact Nat.zero_le n
    | cons p pieces ih =>
      obtain ⟨hp, hpieces⟩ := List.forall_mem_cons.mp hpieces
      exact Nat.max_le.mpr ⟨hp, ih hpieces⟩
  have hle := hdeepest d.pieces h
  unfold branchNesting
  dsimp only
  split <;> omega

/-- What is read of the expression of a glob, once the last piece has been read: the expressions
    between the ends of the text. -/
theorem read?_of_run {flags : Flags} {text : List Char} {r : Reader} {pieces : List Piece}
    {xs : List Regex} (groups : Nat)
    (hrun : ({ flags } : Reader).run text = some ((r.readOn pieces groups).push (.look .stop)))
    (hpieces : Reader.Holds pieces xs)
    (hdraft : r.draft = { pieces := [.item (.look .start) 0, .setting] }) (hstack : r.stack = []) :
    read? flags text = some (sequence (.look .start :: xs ++ [.look .stop]), r.names) := by
  -- What has been read last stands first.
  let draft : Draft :=
    { pieces := .item (.look .stop) 0 :: (pieces.reverse ++ [.item (.look .start) 0, .setting]) }
  have hread : (r.readOn pieces groups).push (.look .stop)
      = { r with draft, groups := r.groups + groups } := by
    rw [Reader.push, Reader.readOn, hdraft]
    rfl
  have hnesting : draft.nesting ≤ maxNesting := by
    refine Nat.le_trans (Draft.branchNesting_le (d := draft) (n := 2) fun p hp => ?_) (by decide)
    simp only [draft, List.mem_cons, List.mem_append, List.mem_reverse, List.not_mem_nil,
      or_false] at hp
    rcases hp with rfl | hp | rfl | rfl
    · exact Nat.zero_le 2
    · exact hpieces.nesting p hp
    · exact Nat.zero_le 2
    · exact Nat.zero_le 2
  have hregex : draft.regex = sequence (.look .start :: xs ++ [.look .stop]) := by
    have hbranch : draft.regex = draft.branch := rfl
    rw [hbranch, Draft.branch, ← hpieces.regexes]
    simp [draft, List.filterMap_cons, Piece.regex?]
  rw [read?, hrun, hread, hstack, ← hregex]
  exact if_pos hnesting

/-- **The expression of a glob is read as the expressions of its items**, between the ends of the
    text. -/
theorem read?_globSource {style : GlobStyle} (hstyle : style ≠ .capturing) (caseSensitive : Bool)
    (glob : List Char) :
    read? { fold := !caseSensitive } (globSource style caseSensitive glob) =
      some (globRegex style (!caseSensitive) glob, []) := by
  let start : Reader :=
    { flags := globFlags (!caseSensitive)
      draft := { pieces := [.item (.look .start) 0, .setting] } }
  obtain ⟨pieces, hpieces, hrun⟩ :=
    Reader.run_flatMap_source (r := start) hstyle rfl (GlobItem.read style glob) ['$'] (by simp)
  refine read?_of_run (r := start) 0 ?_ hpieces rfl rfl
  rw [globSource, List.append_assoc, Reader.run_start, hrun, Reader.run_stop rfl]

end Regex

end Softcode
