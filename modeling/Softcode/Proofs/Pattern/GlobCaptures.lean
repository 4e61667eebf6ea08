import Mathlib.Data.List.Basic
import Softcode.Proofs.Pattern.CaptureReading
import Softcode.Proofs.Regex.Ways

namespace Softcode

/-!
# What globs capture

In a command pattern, each wildcard captures the text that it stands for.  Put in place of the
wildcards, the captured pieces give the command back.  There may be several ways to cut a command
into such pieces.  The one that is found is the one in which the first star takes as little as
possible, then the second, and so on.

* `Glob.Rebuilds` — the pieces, put in place of the wildcards, give the text;
* `Glob.cuts` — all such pieces, in the order in which the search goes through them;
* `Glob.pairwise_cuts` — which is the lexicographic order of what the stars take;
* `Glob.compile_captures` — hence the pieces that are captured are the first in this order.
-/

namespace Glob

/-! ### Cuts -/

/-- The ways to cut a text in two, the shortest first part first. -/
def splits : List Char → List (List Char × List Char)
  | [] => [([], [])]
  | x :: text => ([], x :: text) :: (splits text).map fun s => (x :: s.1, s.2)

/-- All ways to cut a text in two are among them. -/
private theorem mem_splits_iff {text : List Char} {s : List Char × List Char} :
    s ∈ splits text ↔ s.1 ++ s.2 = text := by
  obtain ⟨piece, rest⟩ := s
  induction text generalizing piece with
  | nil => simp [splits]
  | cons x text ih =>
    cases piece with
    | nil => simp [splits]
    | cons y piece =>
      simp only [splits, List.mem_cons, Prod.mk.injEq, reduceCtorEq, false_and, false_or,
        List.mem_map, List.cons_append, List.cons.injEq, ← ih]
      constructor
      · rintro ⟨⟨_, _⟩, hs, ⟨rfl, rfl⟩, rfl⟩
        exact ⟨rfl, hs⟩
      · rintro ⟨rfl, hs⟩
        exact ⟨_, hs, ⟨rfl, rfl⟩, rfl⟩

/-- The first parts become longer. -/
private theorem pairwise_splits (text : List Char) :
    (splits text).Pairwise fun s s' => s.1.length < s'.1.length := by
  induction text with
  | nil => exact List.pairwise_singleton _ _
  | cons x text ih =>
    refine List.pairwise_cons.mpr ⟨fun s hs => ?_, List.pairwise_map.mpr (ih.imp Nat.succ_lt_succ)⟩
    obtain ⟨s', -, rfl⟩ := List.mem_map.mp hs
    exact Nat.succ_pos _

/-- What a wildcard can take from the start of a text, and what it leaves, the shortest first. -/
def takes : GlobItem → List Char → List (List Char × List Char)
  | .one, [] => []
  | .one, x :: text => [([x], text)]
  | _, text => splits text

/-- What is taken and what is left are the text. -/
private theorem append_of_mem_takes {item : GlobItem} {text : List Char} {s : List Char × List Char}
    (hs : s ∈ takes item text) : s.1 ++ s.2 = text := by
  cases item with
  | one =>
    cases text with
    | nil => cases hs
    | cons x text => rw [List.mem_singleton.mp hs]; rfl
  | char | run | deepRun => exact mem_splits_iff.mp hs

/-- The pieces that the wildcards among the items can take if the items take the whole text. -/
def cuts (caseSensitive : Bool) : List GlobItem → List Char → List (List (List Char))
  | [], text => if text = [] then [[]] else []
  | .char c :: items, text =>
    match text with
    | [] => []
    | x :: text => if Same caseSensitive c x then cuts caseSensitive items text else []
  | item :: items, text =>
    (takes item text).flatMap fun s => (cuts caseSensitive items s.2).map (s.1 :: ·)

variable {caseSensitive : Bool}

/-- A wildcard takes a piece, and the items behind it cut what is left. -/
private theorem cuts_wild {item : GlobItem} (hitem : captures item = true) (items : List GlobItem)
    (text : List Char) :
    cuts caseSensitive (item :: items) text =
      (takes item text).flatMap fun s => (cuts caseSensitive items s.2).map (s.1 :: ·) := by
  cases item with
  | char c => cases hitem
  | one | run | deepRun => rfl

/-! ### Ways -/

/-- What is noted when the wildcards among the items take the pieces, from an offset on, if `n`
    groups stand before them. -/
def saved : Nat → Nat → List GlobItem → List (List Char) → Regex.Saves → Regex.Saves
  | n, offset, .char _ :: items, pieces, saves => saved n (offset + 1) items pieces saves
  | n, offset, _ :: items, piece :: pieces, saves =>
    saved (n + 1) (offset + piece.length) items pieces
      ((2 * (n + 1) + 1, offset + piece.length) :: (2 * (n + 1), offset) :: saves)
  | _, _, _, _, saves => saves

/-- A wildcard notes where its piece begins and ends. -/
private theorem saved_wild {item : GlobItem} (hitem : captures item = true) (n offset : Nat)
    (items : List GlobItem) (piece : List Char) (pieces : List (List Char)) (saves : Regex.Saves) :
    saved n offset (item :: items) (piece :: pieces) saves =
      saved (n + 1) (offset + piece.length) items pieces
        ((2 * (n + 1) + 1, offset + piece.length) :: (2 * (n + 1), offset) :: saves) := by
  cases item with
  | char c => cases hitem
  | one | run | deepRun => rfl

/-- What matters of the end of a way for what follows. -/
def reach (w : Place × Regex.Saves) : Nat × List Char × Regex.Saves := (w.1.offset, w.1.rest, w.2)

variable {offset n : Nat} {before : Option Char} {text : List Char} {saves : Regex.Saves}

/-- The places that a lazy repetition leads to are the ways to cut the text in two. -/
private theorem runPlaces_eq (offset : Nat) (before : Option Char) (text : List Char) :
    (Regex.runPlaces false .any offset before text).map (fun p => (p.offset, p.rest)) =
      (splits text).map fun s => (offset + s.1.length, s.2) := by
  induction text generalizing offset before with
  | nil => rfl
  | cons x text ih =>
    have hany : CharClass.any.has x = true := rfl
    simp only [Regex.runPlaces, hany, if_true, Bool.false_eq_true, if_false, List.map_cons, ih,
      splits, List.map_map, List.length_nil, Nat.add_zero, List.cons.injEq, true_and]
    refine List.map_congr_left fun s _ => ?_
    simp only [Function.comp_apply, List.length_cons, Prod.mk.injEq, and_true]
    omega

/-- The ways through a group are what its wildcard can take. -/
private theorem reach_wild (i : Nat) (item : GlobItem) :
    ((Regex.group i (wildRegex item)).ways ⟨offset, before, text⟩ saves).map reach =
      (takes item text).map fun s =>
        (offset + s.1.length, s.2,
          (2 * i + 1, offset + s.1.length) :: (2 * i, offset) :: saves) := by
  -- A star takes any beginning of the text, the shortest first.
  have hrun :
      ((Regex.group i (.rep 0 none false (.cls .any))).ways ⟨offset, before, text⟩ saves).map reach
        = (splits text).map fun s =>
          (offset + s.1.length, s.2,
            (2 * i + 1, offset + s.1.length) :: (2 * i, offset) :: saves) := by
    have hplaces := congrArg
      (List.map fun p => (p.1, p.2, (2 * i + 1, p.1) :: (2 * i, offset) :: saves))
      (runPlaces_eq offset before text)
    rw [List.map_map, List.map_map] at hplaces
    simp only [Regex.ways, List.map_map]
    exact hplaces
  cases item with
  | one => cases text <;> simp [wildRegex, takes, Regex.ways, reach, CharClass.has]
  | char | run | deepRun => exact hrun

/-- The expression of the items that follow, up to the end of the text. -/
def captureTail (fold : Bool) (n : Nat) (items : List GlobItem) : Regex :=
  .sequence (captureRegexes fold n items ++ [.look .stop])

/-- A character comes before what follows it. -/
private theorem captureTail_char (fold : Bool) (n : Nat) (c : Char) (items : List GlobItem) :
    captureTail fold n (.char c :: items) =
      .cat (.cls (if fold then .like c else .char c)) (captureTail fold n items) :=
  Regex.sequence_cons _ (by simp)

/-- The group of a wildcard comes before what follows it. -/
private theorem captureTail_wild {item : GlobItem} (hitem : captures item = true) (fold : Bool)
    (n : Nat) (items : List GlobItem) :
    captureTail fold n (item :: items) =
      .cat (.group (n + 1) (wildRegex item)) (captureTail fold (n + 1) items) := by
  rw [captureTail, captureRegexes_wild hitem]
  exact Regex.sequence_cons _ (by simp)

/-- **The ways through a command pattern are its cuts.** -/
theorem ways_captureTail (items : List GlobItem) :
    ((captureTail (!caseSensitive) n items).ways ⟨offset, before, text⟩ saves).map
        (fun w => (w.1.offset, w.2)) =
      (cuts caseSensitive items text).map fun pieces =>
        (offset + text.length, saved n offset items pieces saves) := by
  induction items generalizing n offset before text saves with
  | nil => cases text <;> rfl
  | cons item items ih =>
    -- What follows an expression depends on where it leads, but not on the character before that.
    have hcat : ∀ (a : Regex) (m : Nat),
        ((Regex.cat a (captureTail (!caseSensitive) m items)).ways ⟨offset, before, text⟩ saves).map
            (fun w => (w.1.offset, w.2)) =
          ((a.ways ⟨offset, before, text⟩ saves).map reach).flatMap fun t =>
            (cuts caseSensitive items t.2.1).map fun pieces =>
              (t.1 + t.2.1.length, saved m t.1 items pieces t.2.2) := by
      intro a m
      rw [Regex.ways, List.map_flatMap, List.flatMap_map]
      exact congrArg (List.flatMap · _) (funext fun w => ih)
    cases item using captureCases with
    | char c =>
      rw [captureTail_char, hcat]
      cases text with
      | nil => rfl
      | cons x text =>
        have hlength : offset + 1 + text.length = offset + (x :: text).length := by
          rw [List.length_cons]
          omega
        simp only [Regex.ways, has_literal_iff, cuts, saved]
        split
        · simp only [List.map_cons, List.map_nil, List.flatMap_singleton, reach, hlength]
        · rfl
    | wild item hitem =>
      rw [captureTail_wild hitem, hcat, reach_wild, cuts_wild hitem, List.map_flatMap,
        List.flatMap_map]
      refine List.flatMap_congr fun s hs => ?_
      have hlength : offset + s.1.length + s.2.length = offset + text.length := by
        rw [← append_of_mem_takes hs, List.length_append, Nat.add_assoc]
      rw [List.map_map, hlength]
      refine List.map_congr_left fun pieces _ => ?_
      rw [Function.comp_apply, saved_wild hitem]

/-! ### What has been noted -/

/-- Items note nothing in the slots of the groups before them. -/
private theorem lookup_saved {slot : Nat} (hslot : slot < 2 * (n + 1)) (items : List GlobItem)
    (pieces : List (List Char)) :
    (saved n offset items pieces saves).lookup slot = saves.lookup slot := by
  fun_induction saved n offset items pieces saves with
  | case1 _ _ _ _ _ _ ih => exact ih hslot
  | case2 n offset item items piece pieces saves hitem ih =>
    have hstart : (slot == 2 * (n + 1)) = false := beq_eq_false_iff_ne.mpr (by omega)
    have hstop : (slot == 2 * (n + 1) + 1) = false := beq_eq_false_iff_ne.mpr (by omega)
    simp only [ih (by omega), List.lookup_cons, hstart, hstop]
  | case3 => rfl

variable (saves) in
/-- **The groups hold the pieces.** -/
theorem text?_saved {whole : List Char} {items : List GlobItem} {pieces : List (List Char)}
    (hpieces : pieces ∈ cuts caseSensitive items text) (htext : whole.drop offset = text) :
    pieces.length = captureCount items ∧
      (List.range' (n + 1) pieces.length).map ((saved n offset items pieces saves).text? whole) =
        pieces.map some := by
  induction items generalizing n offset text saves pieces with
  | nil =>
    rw [cuts] at hpieces
    split at hpieces
    · rw [List.mem_singleton.mp hpieces]
      exact ⟨rfl, rfl⟩
    · cases hpieces
  | cons item items ih =>
    cases item using captureCases with
    | char c =>
      cases text with
      | nil => cases hpieces
      | cons x text =>
        simp only [cuts] at hpieces
        split at hpieces
        · have hdrop : whole.drop (offset + 1) = text := by
            rw [← List.drop_drop, htext, List.drop_one, List.tail_cons]
          exact ih saves hpieces hdrop
        · cases hpieces
    | wild item hitem =>
      rw [cuts_wild hitem] at hpieces
      -- The first piece is in the group of the wildcard, the others are in the groups behind it.
      obtain ⟨⟨piece, rest⟩, hs, hmem⟩ := List.mem_flatMap.mp hpieces
      obtain ⟨pieces, hrest, rfl⟩ := List.mem_map.mp hmem
      obtain rfl : piece ++ rest = text := append_of_mem_takes hs
      have hdrop : whole.drop (offset + piece.length) = rest := by
        rw [← List.drop_drop, htext, List.drop_left]
      have hpiece : (saved n offset (item :: items) (piece :: pieces) saves).text? whole (n + 1)
          = some piece := by
        have hother : (2 * (n + 1) == 2 * (n + 1) + 1) = false := by simp
        rw [saved_wild hitem, Regex.Saves.text?, lookup_saved (by omega), lookup_saved (by omega)]
        simp only [List.lookup_cons, BEq.rfl, hother, Option.bind_eq_bind, Option.bind_some, htext,
          Nat.add_sub_cancel_left, List.take_left', Option.pure_def]
      obtain ⟨hlength, hmap⟩ := ih (n := n + 1)
        ((2 * (n + 1) + 1, offset + piece.length) :: (2 * (n + 1), offset) :: saves) hrest hdrop
      refine ⟨by rw [captureCount_cons hitem, List.length_cons, hlength], ?_⟩
      rw [List.length_cons, List.range'_succ, List.map_cons, hpiece, List.map_cons,
        saved_wild hitem, hmap]

/-! ### Putting the pieces back -/

/-- Do the pieces, put in place of the wildcards in order, give the text?  A question mark stands
    for one character.  All other characters agree, up to case unless case matters. -/
inductive Rebuilds (caseSensitive : Bool) : List Char → List (List Char) → List Char → Prop
  | done : Rebuilds caseSensitive [] [] []
  | escaped {c x glob pieces text} (hx : Same caseSensitive c x)
      (h : Rebuilds caseSensitive glob pieces text) :
      Rebuilds caseSensitive ('\\' :: c :: glob) pieces (x :: text)
  | backslash : Rebuilds caseSensitive ['\\'] [] ['\\']
  | one {x glob pieces text} (h : Rebuilds caseSensitive glob pieces text) :
      Rebuilds caseSensitive ('?' :: glob) ([x] :: pieces) (x :: text)
  | run {piece glob pieces text} (h : Rebuilds caseSensitive glob pieces text) :
      Rebuilds caseSensitive ('*' :: glob) (piece :: pieces) (piece ++ text)
  | char {c x glob pieces text} (hc : c ∉ ['\\', '?', '*']) (hx : Same caseSensitive c x)
      (h : Rebuilds caseSensitive glob pieces text) :
        Rebuilds caseSensitive (c :: glob) pieces (x :: text)

/-- The wildcards of a glob, in order. -/
def wildcards : List Char → List Char
  | [] | ['\\'] => []
  | '\\' :: _ :: glob => wildcards glob
  | '?' :: glob => '?' :: wildcards glob
  | '*' :: glob => '*' :: wildcards glob
  | _ :: glob => wildcards glob

/-- A character without a meaning of its own is no wildcard. -/
private theorem wildcards_char {c : Char} (hc : c ∉ ['\\', '?', '*']) (glob : List Char) :
    wildcards (c :: glob) = wildcards glob := by
  rw [wildcards.eq_def]
  split <;> simp_all

/-- How many characters each star takes, in order. -/
def runLengths (glob : List Char) (pieces : List (List Char)) : List Nat :=
  ((wildcards glob).zip pieces).filterMap fun w => if w.1 = '*' then some w.2.length else none

variable {glob : List Char} {pieces : List (List Char)}

/-- A glob matches a text exactly if the text can be rebuilt. -/
private theorem fits_plain_iff :
    Fits .plain caseSensitive glob text ↔ ∃ pieces, Rebuilds caseSensitive glob pieces text := by
  -- Without paths there is no character that a wildcard cannot take.
  have hwild : ∀ x, Wild .plain x := fun x h => by cases h
  constructor
  · intro h
    induction h with
    | done => exact ⟨_, .done⟩
    | escaped hx _ ih => exact ih.imp fun _ => .escaped hx
    | backslash => exact ⟨_, .backslash⟩
    | one _ _ ih => exact ih.elim fun _ h => ⟨_, .one h⟩
    | run _ _ _ ih => exact ih.elim fun _ h => ⟨_, .run h⟩
    | deepRun hstyle => cases hstyle
    | char hc hx _ ih => exact ih.imp fun _ => .char hc hx
  · rintro ⟨pieces, h⟩
    induction h with
    | done => exact .done
    | escaped hx _ ih => exact .escaped hx ih
    | backslash => exact .backslash
    | one _ ih => exact .one (hwild _) ih
    | run _ ih => exact .run (fun h => by cases h) (fun x _ => hwild x) ih
    | char hc hx _ ih => exact .char hc hx ih

/-- Each wildcard has one piece, and that of a question mark is one character. -/
private theorem Rebuilds.forall₂_wildcards (h : Rebuilds caseSensitive glob pieces text) :
    List.Forall₂ (fun w piece => w = '?' → piece.length = 1) (wildcards glob) pieces := by
  induction h with
  | done | backslash => exact .nil
  | escaped _ _ ih => exact ih
  | one _ ih => exact .cons (fun _ => rfl) ih
  | run _ ih => exact .cons (fun h => absurd h (by decide)) ih
  | char hc _ _ ih => rwa [wildcards_char hc]

/-- Nothing is rebuilt from an empty glob. -/
private theorem rebuilds_nil_iff :
    Rebuilds caseSensitive [] pieces text ↔ pieces = [] ∧ text = [] := by
  constructor
  · rintro ⟨⟩
    exact ⟨rfl, rfl⟩
  · rintro ⟨rfl, rfl⟩
    exact .done

/-- A character after a backslash stands for itself. -/
private theorem rebuilds_escaped_iff {c : Char} :
    Rebuilds caseSensitive ('\\' :: c :: glob) pieces text ↔
      ∃ x rest, text = x :: rest ∧ Same caseSensitive c x ∧
        Rebuilds caseSensitive glob pieces rest := by
  constructor
  · intro h
    cases h with
    | escaped hx h => exact ⟨_, _, rfl, hx, h⟩
    | char hc => exact absurd List.mem_cons_self hc
  · rintro ⟨x, rest, rfl, hx, h⟩
    exact .escaped hx h

/-- A backslash at the end stands for itself. -/
private theorem rebuilds_backslash_iff :
    Rebuilds caseSensitive ['\\'] pieces text ↔ pieces = [] ∧ text = ['\\'] := by
  constructor
  · intro h
    cases h with
    | backslash => exact ⟨rfl, rfl⟩
    | char hc => exact absurd List.mem_cons_self hc
  · rintro ⟨rfl, rfl⟩
    exact .backslash

/-- A question mark is replaced by one character. -/
private theorem rebuilds_one_iff :
    Rebuilds caseSensitive ('?' :: glob) pieces text ↔
      ∃ x rest more, text = x :: rest ∧ pieces = [x] :: more ∧
        Rebuilds caseSensitive glob more rest := by
  constructor
  · intro h
    cases h with
    | one h => exact ⟨_, _, _, rfl, rfl, h⟩
    | char hc => exact absurd (by decide) hc
  · rintro ⟨x, rest, more, rfl, rfl, h⟩
    exact .one h

/-- A star is replaced by any piece. -/
private theorem rebuilds_run_iff :
    Rebuilds caseSensitive ('*' :: glob) pieces text ↔
      ∃ piece rest more, text = piece ++ rest ∧ pieces = piece :: more ∧
        Rebuilds caseSensitive glob more rest := by
  constructor
  · intro h
    cases h with
    | run h => exact ⟨_, _, _, rfl, rfl, h⟩
    | char hc => exact absurd (by decide) hc
  · rintro ⟨piece, rest, more, rfl, rfl, h⟩
    exact .run h

/-- All other characters stand for themselves. -/
private theorem rebuilds_char_iff {c : Char} (hc : c ∉ ['\\', '?', '*']) :
    Rebuilds caseSensitive (c :: glob) pieces text ↔
      ∃ x rest, text = x :: rest ∧ Same caseSensitive c x ∧
        Rebuilds caseSensitive glob pieces rest := by
  constructor
  · intro h
    cases h with
    | char _ hx h => exact ⟨_, _, rfl, hx, h⟩
    | escaped | backslash | one | run => exact absurd (by decide) hc
  · rintro ⟨x, rest, rfl, hx, h⟩
    exact .char hc hx h

/-- Without items there is only the empty text. -/
private theorem mem_cuts_nil_iff :
    pieces ∈ cuts caseSensitive [] text ↔ pieces = [] ∧ text = [] := by
  rw [cuts]
  split <;> simp_all

/-- A character takes one character and no piece. -/
private theorem mem_cuts_char_iff {c : Char} {items : List GlobItem} :
    pieces ∈ cuts caseSensitive (.char c :: items) text ↔
      ∃ x rest, text = x :: rest ∧ Same caseSensitive c x ∧
        pieces ∈ cuts caseSensitive items rest := by
  cases text with
  | nil => simp [cuts]
  | cons x text =>
    simp only [cuts, List.cons.injEq]
    split <;> simp_all

/-- A wildcard takes a piece. -/
private theorem mem_cuts_wild_iff {item : GlobItem} (hitem : captures item = true)
    {items : List GlobItem} :
    pieces ∈ cuts caseSensitive (item :: items) text ↔
      ∃ piece rest more, (piece, rest) ∈ takes item text ∧ pieces = piece :: more ∧
        more ∈ cuts caseSensitive items rest := by
  rw [cuts_wild hitem]
  simp only [List.mem_flatMap, List.mem_map, Prod.exists]
  grind

/-- **The cuts of a text are the pieces that rebuild it.** -/
theorem mem_cuts_iff (glob text : List Char) (pieces : List (List Char)) :
    pieces ∈ cuts caseSensitive (GlobItem.read .capturing glob) text ↔
      Rebuilds caseSensitive glob pieces text := by
  have hone : ∀ {piece rest text}, (piece, rest) ∈ takes .one text ↔
      ∃ x, piece = [x] ∧ text = x :: rest := by
    intro piece rest text
    cases text with
    | nil => simp [takes]
    | cons x text => simp [takes]; grind
  have hrun : ∀ {piece rest text}, (piece, rest) ∈ takes .run text ↔ text = piece ++ rest :=
    mem_splits_iff.trans eq_comm
  generalize hstyle : GlobStyle.capturing = style
  -- The glob is read as the definition of rebuilding goes through it.
  fun_induction GlobItem.read style glob generalizing text pieces with
  | case1 => rw [mem_cuts_nil_iff, rebuilds_nil_iff]
  | case2 =>
    rw [mem_cuts_char_iff, rebuilds_backslash_iff]
    simp only [mem_cuts_nil_iff, same_backslash_iff]
    grind
  | case3 c cs ih =>
    rw [mem_cuts_char_iff, rebuilds_escaped_iff]
    simp only [ih]
  | case4 cs ih =>
    rw [mem_cuts_wild_iff rfl, rebuilds_one_iff]
    simp only [ih, hone]
    grind
  | case5 _ hname => exact absurd (hstyle.trans hname) (by decide)
  | case6 cs _ ih =>
    rw [mem_cuts_wild_iff rfl, rebuilds_run_iff]
    simp only [ih, hrun]
  | case7 cs _ ih =>
    rw [mem_cuts_wild_iff rfl, rebuilds_run_iff]
    simp only [ih, hrun]
  | case8 c cs hlone hescaped hone' _ hrun' ih =>
    rw [mem_cuts_char_iff, rebuilds_char_iff (notMem_special hlone hescaped hone' hrun')]
    simp only [ih]

/-! ### The order of the cuts -/

/-- What a question mark takes does not count. -/
private theorem runLengths_one (piece : List Char) :
    runLengths ('?' :: glob) (piece :: pieces) = runLengths glob pieces := by
  simp [runLengths, wildcards]

/-- What a star takes is counted. -/
private theorem runLengths_run (piece : List Char) :
    runLengths ('*' :: glob) (piece :: pieces) = piece.length :: runLengths glob pieces := by
  simp [runLengths, wildcards]

/-- A character changes nothing in the order of the cuts. -/
private theorem pairwise_cuts_char {c : Char} {items : List GlobItem}
    {order : List (List Char) → List (List Char) → Prop}
    (h : ∀ text, (cuts caseSensitive items text).Pairwise order) (text : List Char) :
    (cuts caseSensitive (.char c :: items) text).Pairwise order := by
  cases text with
  | nil => exact .nil
  | cons x text =>
    rw [cuts]
    split
    · exact h text
    · exact .nil

/-- What a star takes comes first in the order of the cuts. -/
private theorem pairwise_cuts_run {items : List GlobItem}
    (h : ∀ text, (cuts caseSensitive items text).Pairwise fun a b =>
      List.Lex (· < ·) (runLengths glob a) (runLengths glob b)) (text : List Char) :
    (cuts caseSensitive (.run :: items) text).Pairwise fun a b =>
      List.Lex (· < ·) (runLengths ('*' :: glob) a) (runLengths ('*' :: glob) b) := by
  rw [cuts_wild rfl, List.pairwise_flatMap]
  -- Cuts with the same first piece are in the order of the others, and a shorter first piece comes
  -- first.
  refine ⟨fun s _ => ?_, (pairwise_splits text).imp fun {s s'} hlt a ha b hb => ?_⟩
  · refine List.pairwise_map.mpr ((h s.2).imp fun {a b} hab => ?_)
    rw [runLengths_run, runLengths_run]
    exact .cons hab
  · obtain ⟨a, -, rfl⟩ := List.mem_map.mp ha
    obtain ⟨b, -, rfl⟩ := List.mem_map.mp hb
    rw [runLengths_run, runLengths_run]
    exact .rel hlt

/-- **The cuts come in the lexicographic order of what the stars take.** -/
theorem pairwise_cuts (glob text : List Char) :
    (cuts caseSensitive (GlobItem.read .capturing glob) text).Pairwise fun a b =>
      List.Lex (· < ·) (runLengths glob a) (runLengths glob b) := by
  -- The cases are those of reading a glob, of which two stars that cross segments cannot occur.
  generalize hstyle : GlobStyle.capturing = style
  fun_induction GlobItem.read style glob generalizing text with
  | case1 =>
    rw [cuts]
    split
    · exact List.pairwise_singleton _ _
    · exact .nil
  | case2 =>
    refine pairwise_cuts_char (fun text => ?_) text
    rw [cuts]
    split
    · exact List.pairwise_singleton _ _
    · exact .nil
  | case3 c cs ih => exact pairwise_cuts_char ih text
  | case4 cs ih =>
    cases text with
    | nil => exact .nil
    | cons x text =>
      rw [cuts_wild rfl, takes, List.flatMap_singleton]
      refine List.pairwise_map.mpr ((ih text).imp fun {a b} hab => ?_)
      rwa [runLengths_one, runLengths_one]
  | case5 _ hname => exact absurd (hstyle.trans hname) (by decide)
  | case6 cs _ ih => exact pairwise_cuts_run ih text
  | case7 cs _ ih => exact pairwise_cuts_run ih text
  | case8 c cs hlone hescaped hone _ hrun ih =>
    have hwild := wildcards_char (notMem_special hlone hescaped hone hrun) cs
    simp only [runLengths, hwild]
    exact pairwise_cuts_char ih text

/-! ### Matchers -/

/-- The expression begins at the start of the text. -/
private theorem captureRegex_eq (fold : Bool) (glob : List Char) :
    captureRegex fold glob =
      .cat (.look .start) (captureTail fold 0 (GlobItem.read .capturing glob)) :=
  Regex.sequence_cons _ (by simp)

/-- Nothing in the expressions of the items branches. -/
private theorem straight_captureRegexes (fold : Bool) (n : Nat) (items : List GlobItem) :
    ∀ a ∈ captureRegexes fold n items, a.Straight := by
  have hwild : ∀ item, (wildRegex item).Straight := by
    intro item
    cases item with
    | one => exact .cls _
    | char | run | deepRun => exact .run _ _
  induction items generalizing n with
  | nil => simp [captureRegexes]
  | cons item items ih =>
    cases item with
    | char c => exact List.forall_mem_cons.mpr ⟨.cls _, ih n⟩
    | one | run | deepRun => exact List.forall_mem_cons.mpr ⟨.group _ (hwild _), ih (n + 1)⟩

/-- Nothing in the expression of a command pattern branches. -/
private theorem straight_captureRegex (fold : Bool) (glob : List Char) :
    (captureRegex fold glob).Straight := by
  refine Regex.straight_sequence (by simp) fun a ha => ?_
  simp only [List.cons_append, List.mem_cons, List.mem_append, List.not_mem_nil, or_false] at ha
  rcases ha with rfl | ha | rfl
  · exact .look _
  · exact straight_captureRegexes _ _ _ a ha
  · exact .look _

/-- Groups are numbered from one on. -/
private theorem lastGroup_captureTail (fold : Bool) (n : Nat) (items : List GlobItem) :
    max n (captureTail fold n items).lastGroup = n + captureCount items := by
  have hbody : ∀ item, (wildRegex item).lastGroup = 0 := by
    intro item
    cases item <;> rfl
  -- Each wildcard takes the next number for its group.
  induction items generalizing n with
  | nil => exact Nat.max_zero n
  | cons item items ih =>
    cases item using captureCases with
    | char c =>
      rw [captureTail_char, Regex.lastGroup, Regex.lastGroup, Nat.zero_max]
      exact ih n
    | wild item hitem =>
      have hmore := ih (n + 1)
      rw [captureTail_wild hitem, Regex.lastGroup, Regex.lastGroup, hbody, captureCount_cons hitem]
      omega

/-- No item takes more than four instructions. -/
private theorem size_captureRegex_le (fold : Bool) (glob : List Char) :
    (captureRegex fold glob).size ≤ 4 * glob.length + 2 := by
  have hwild : ∀ item, (wildRegex item).size ≤ 2 := by
    intro item
    cases item <;> simp [wildRegex, Regex.size, Regex.minLength]
  -- A wildcard takes at most four instructions: two of its own and two for its group.
  have hitems : ∀ items n, (captureTail fold n items).size ≤ 4 * items.length + 1 := by
    intro items
    induction items with
    | nil => exact fun _ => Nat.le_refl 1
    | cons item items ih =>
      intro n
      cases item using captureCases with
      | char c =>
        have hmore := ih n
        rw [captureTail_char, Regex.size, Regex.size, List.length_cons]
        omega
      | wild item hitem =>
        have hmore := ih (n + 1)
        have hbody := hwild item
        rw [captureTail_wild hitem, Regex.size, Regex.size, List.length_cons]
        omega
  have hsize := hitems (GlobItem.read .capturing glob) 0
  have hlength := length_read_le .capturing glob
  rw [captureRegex_eq, Regex.size, Regex.size]
  omega

/-- The groups of a cut: the whole text, and the pieces. -/
private theorem text?_cut
    (hpieces : pieces ∈ cuts caseSensitive (GlobItem.read .capturing glob) text) :
    (List.range ((captureRegex (!caseSensitive) glob).lastGroup + 1)).map
        (Regex.Saves.text?
          ((1, text.length) :: saved 0 0 (GlobItem.read .capturing glob) pieces [(0, 0)]) text) =
      some text :: pieces.map some := by
  obtain ⟨hlength, hmap⟩ := text?_saved (n := 0) [(0, 0)] hpieces (List.drop_zero)
  have hlast : (captureRegex (!caseSensitive) glob).lastGroup = pieces.length := by
    have htail := lastGroup_captureTail (!caseSensitive) 0 (GlobItem.read .capturing glob)
    rw [captureRegex_eq, Regex.lastGroup, Regex.lastGroup, hlength]
    omega
  rw [hlast, List.range_eq_range', List.range'_succ, List.map_cons, ← hmap]
  congr 1
  · -- The whole text is noted before all pieces and after them.
    have hstart : (saved 0 0 (GlobItem.read .capturing glob) pieces [(0, 0)]).lookup 0 = some 0 :=
      lookup_saved (by omega) _ _
    simp [Regex.Saves.text?, List.lookup_cons, hstart]
  · refine List.map_congr_left fun i hi => ?_
    have hi : 1 ≤ i := (List.mem_range'_1.mp hi).1
    have hstart : (2 * i == 1) = false := beq_eq_false_iff_ne.mpr (by omega)
    have hstop : (2 * i + 1 == 1) = false := beq_eq_false_iff_ne.mpr (by omega)
    simp only [Regex.Saves.text?, List.lookup_cons, hstart, hstop]

/-- **A command pattern captures the first cut of the text.** -/
theorem captures_captureRegex (caseSensitive : Bool) (glob text : List Char) :
    (Matcher.ofRegex (captureRegex (!caseSensitive) glob) []).captures text =
      (cuts caseSensitive (GlobItem.read .capturing glob) text).head?.map fun pieces =>
        some text :: pieces.map some := by
  -- Further on in the text there is nothing to find.
  have hanchored : ∀ offset x rest place,
      ¬ (captureRegex (!caseSensitive) glob).Takes ⟨offset, some x, rest⟩ place := by
    intro offset x rest place htakes
    rw [captureRegex_eq] at htakes
    cases htakes with
    | cat hstart => cases hstart with
      | look hl => cases hl
  let groups (w : Nat × Regex.Saves) : List (Option (List Char)) :=
    (List.range ((captureRegex (!caseSensitive) glob).lastGroup + 1)).map
      (Regex.Saves.text? ((1, w.1) :: w.2) text)
  let tail := captureTail (!caseSensitive) 0 (GlobItem.read .capturing glob)
  -- The start of the text is checked, and then only the items matter.
  have hways : (Regex.group 0 (captureRegex (!caseSensitive) glob)).ways ⟨0, none, text⟩ [] =
      (tail.ways ⟨0, none, text⟩ [(0, 0)]).map fun w => (w.1, (1, w.1.offset) :: w.2) := by
    rw [captureRegex_eq]
    exact congrArg (List.map _) (List.flatMap_singleton _ _)
  rw [Matcher.captures_ofRegex (straight_captureRegex _ _) hanchored, hways, ← List.head?_map,
    List.map_map]
  calc ((tail.ways ⟨0, none, text⟩ [(0, 0)]).map _).head?
    _ = (((tail.ways ⟨0, none, text⟩ [(0, 0)]).map fun w => (w.1.offset, w.2)).map
      groups).head? := by
        rw [List.map_map]
        rfl
    _ = ((cuts caseSensitive (GlobItem.read .capturing glob) text).map fun pieces =>
          some text :: pieces.map some).head? := by
        rw [ways_captureTail, List.map_map]
        refine congrArg List.head? (List.map_congr_left fun pieces hpieces => ?_)
        rw [Function.comp_apply, Nat.zero_add]
        exact text?_cut hpieces
    _ = _ := List.head?_map

/-- **What a command pattern captures rebuilds the command.**  A command pattern accepts a text
    exactly if the glob without captures does, unless one of the two is too large to be used.  Then
    it captures the whole text and one piece for each wildcard, in order.  The pieces rebuild the
    text, and the numbers of characters that the stars take are the lexicographically smallest with
    which it can be rebuilt. -/
theorem compile_captures (caseSensitive : Bool) (glob : List Char) :
    ∃ r p : Regex, r.size ≤ 4 * glob.length + 2 ∧ p.size ≤ 2 * glob.length + 2 ∧
      (∀ maxSize, Pattern.compile? ⟨.glob .capturing, glob, caseSensitive⟩ maxSize =
        if r.size ≤ maxSize then some (Matcher.ofRegex r []) else none) ∧
      (∀ maxSize, Pattern.compile? ⟨.glob .plain, glob, caseSensitive⟩ maxSize =
        if p.size ≤ maxSize then some (Matcher.ofRegex p []) else none) ∧
      ∀ text,
        ((Matcher.ofRegex r []).accepts text ↔ (Matcher.ofRegex p []).accepts text) ∧
        ((Matcher.ofRegex r []).accepts text → ∃ pieces : List (List Char),
          (Matcher.ofRegex r []).captures text = some (some text :: pieces.map some) ∧
          List.Forall₂ (fun w piece => w = '?' → piece.length = 1) (wildcards glob) pieces ∧
          Rebuilds caseSensitive glob pieces text ∧
          ∀ others, Rebuilds caseSensitive glob others text →
            runLengths glob pieces = runLengths glob others ∨
              List.Lex (· < ·) (runLengths glob pieces) (runLengths glob others)) := by
  refine ⟨captureRegex (!caseSensitive) glob, globRegex .plain (!caseSensitive) glob,
    size_captureRegex_le _ _, size_globRegex_le _ _ _, fun maxSize => ?_, fun maxSize => ?_,
    fun text => ?_⟩
  · simp [Pattern.compile?, Pattern.source, Regex.read?_capturing]
  · simp [Pattern.compile?, Pattern.source,
      Regex.read?_globSource (show GlobStyle.plain ≠ .capturing by decide)]
  have hmem : ∀ pieces, pieces ∈ cuts caseSensitive (GlobItem.read .capturing glob) text ↔
      Rebuilds caseSensitive glob pieces text := mem_cuts_iff glob text
  have hpairwise : (cuts caseSensitive (GlobItem.read .capturing glob) text).Pairwise fun a b =>
      List.Lex (· < ·) (runLengths glob a) (runLengths glob b) := pairwise_cuts glob text
  rw [accepts_globRegex_iff, fits_plain_iff, Matcher.accepts, captures_captureRegex]
  simp only [← hmem]
  -- The search takes the first of all cuts, and they are in the order of the lengths.
  generalize cuts caseSensitive (GlobItem.read .capturing glob) text = all at hmem hpairwise
  cases all with
  | nil => simp
  | cons pieces all =>
    refine ⟨iff_of_true rfl ⟨pieces, List.mem_cons_self⟩, fun _ =>
      ⟨pieces, rfl, ?_, List.mem_cons_self, ?_⟩⟩
    · exact ((hmem pieces).mp List.mem_cons_self).forall₂_wildcards
    · intro others hothers
      rcases List.mem_cons.mp hothers with rfl | hothers
      · exact .inl rfl
      · exact .inr ((List.pairwise_cons.mp hpairwise).1 others hothers)

end Glob

end Softcode
