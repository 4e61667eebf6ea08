import Softcode.Attribute.Basic
import Softcode.Proofs.Object.ReferenceText

namespace Softcode

/-!
# Attribute paths as they are written

A tree keeps its attributes by the texts of their paths, and tells by the characters of two texts
whether one attribute lies below another.  This file says that nothing is lost by that.  A path is
`Canonical` if it is read back from its text:

* `AttributePath.canonical_iff` — these are the paths of segments in upper case, at least one of
  them;
* `AttributePath.canonical_of_read` — every path that has been read is one of them, however it was
  written;
* `AttributePath.Canonical.isBelow_iff` — by its text an attribute lies below another one exactly if
  the segments of the other are the first of its own.
-/

/-! ### Cutting and joining -/

namespace Text

/-- Cutting at a character is cutting a list. -/
private theorem splitOn_eq (d : Char) (cs : List Char) : splitOn d cs = cs.splitOn d := by
  induction cs with
  | nil => rfl
  | cons c cs ih =>
    rw [splitOn, ih, List.splitOn_cons_eq_if_modifyHead]
    cases hpieces : cs.splitOn d with
    | nil => exact absurd hpieces (List.splitOn_ne_nil d cs)
    | cons piece pieces => rfl

/-- Cutting loses nothing but the separators. -/
theorem exists_mem_splitOn {d c : Char} (hne : c ≠ d) {cs : List Char} (h : c ∈ cs) :
    ∃ piece ∈ splitOn d cs, c ∈ piece := by
  induction cs with
  | nil => cases h
  | cons e cs ih =>
    rw [splitOn]
    rcases List.mem_cons.mp h with rfl | h
    · split <;> simp [hne]
    · obtain ⟨piece, hpiece, hc⟩ := ih h
      split
      · simp_all
      · rename_i first rest heq
        rw [heq] at hpiece
        split
        · exact ⟨piece, List.mem_cons_of_mem _ hpiece, hc⟩
        · -- The first piece has grown by a character, and the others are as they were.
          rcases List.mem_cons.mp hpiece with rfl | hpiece
          · exact ⟨_, List.mem_cons_self, List.mem_cons_of_mem e hc⟩
          · exact ⟨piece, List.mem_cons_of_mem _ hpiece, hc⟩

/-- A piece that stands before others has a separator behind it. -/
theorem joinWith_cons (sep piece : List Char) {pieces : List (List Char)} (h : pieces ≠ []) :
    joinWith sep (piece :: pieces) = piece ++ sep ++ joinWith sep pieces := by
  obtain ⟨next, rest, rfl⟩ := List.exists_cons_of_ne_nil h
  rfl

/-- Joining with a separator is joining lists. -/
private theorem joinWith_eq (sep : List Char) (pieces : List (List Char)) :
    joinWith sep pieces = sep.intercalate pieces := by
  induction pieces with
  | nil => rfl
  | cons piece pieces ih =>
    cases pieces with
    | nil => simp [joinWith]
    | cons next rest =>
      rw [joinWith_cons sep piece (List.cons_ne_nil next rest), ih, List.intercalate_cons_cons]

/-- Two rows of pieces are joined by one more separator. -/
private theorem joinWith_append (sep : List Char) {left right : List (List Char)}
    (hleft : left ≠ []) (hright : right ≠ []) :
    joinWith sep (left ++ right) = joinWith sep left ++ sep ++ joinWith sep right := by
  induction left with
  | nil => exact absurd rfl hleft
  | cons piece left ih =>
    by_cases hrest : left = []
    · subst hrest
      exact joinWith_cons sep piece hright
    · have happend : left ++ right ≠ [] := by simp [hrest]
      rw [List.cons_append, joinWith_cons sep piece happend, ih hrest,
        joinWith_cons sep piece hrest]
      simp only [List.append_assoc]

end Text

namespace AttributePath

variable {p q : AttributePath}

/-! ### Segments -/

/-- No segment holds the character between segments. -/
private theorem separator_not_segmentChar : isSegmentChar separator = false := by decide

/-- The characters of segments are visible ones. -/
private theorem isBlank_of_isSegmentChar {c : Char} (h : isSegmentChar c) :
    Text.isBlank c = false := by
  simp only [isSegmentChar, Bool.and_eq_true, decide_eq_true_eq] at h
  have hlo : '!'.toNat ≤ c.toNat := h.1.1
  have hhi : c.toNat ≤ '~'.toNat := h.1.2
  have hbang : '!'.toNat = 33 := rfl
  have htilde : '~'.toNat = 126 := rfl
  simp only [Text.isBlank, Text.inRanges, Text.blankRanges, List.any_cons, List.any_nil,
    Bool.or_false, Bool.or_eq_false_iff, Bool.and_eq_false_iff, decide_eq_false_iff_not]
  omega

/-- A segment is not empty, and each of its characters can stand in one. -/
theorem isSegment_iff {cs : List Char} : isSegment cs ↔ cs ≠ [] ∧ ∀ c ∈ cs, isSegmentChar c := by
  simp [isSegment]

private theorem trim_of_isSegment {cs : List Char} (h : isSegment cs) : Text.trim cs = cs :=
  Text.trim_eq_self fun c hc => isBlank_of_isSegmentChar ((isSegment_iff.mp h).2 c hc)

private theorem separator_not_mem {cs : List Char} (h : isSegment cs) : separator ∉ cs := by
  intro hmem
  have hchar := (isSegment_iff.mp h).2 separator hmem
  rw [separator_not_segmentChar] at hchar
  cases hchar

/-! ### Canonical paths -/

/-- Is the path read back from its text? -/
def Canonical (p : AttributePath) : Prop := read p.text = .ok p

instance (p : AttributePath) : Decidable p.Canonical :=
  inferInstanceAs (Decidable (read p.text = .ok p))

/-- What is read are the trimmed pieces in upper case, if each of them is a segment. -/
theorem read_eq_ok {cs : List Char} : read cs = .ok p ↔
    p.segments = (Text.splitOn separator cs).map (fun s => Text.upper (Text.trim s)) ∧
      ∀ s ∈ p.segments, isSegment s := by
  unfold read
  dsimp only
  -- Reading fails exactly if one of the segments cannot be one.
  split
  · rename_i hall
    rw [List.all_eq_true] at hall
    constructor
    · intro h
      cases h
      exact ⟨rfl, hall⟩
    · rintro ⟨hsegments, -⟩
      rw [← hsegments]
  · rename_i hall
    constructor
    · intro h
      cases h
    · rintro ⟨hsegments, hsegment⟩
      rw [← hsegments, List.all_eq_true] at hall
      exact absurd hsegment hall

/-- What is read has segments in upper case, at least one of them. -/
theorem segments_of_read {cs : List Char} (h : read cs = .ok p) :
    p.segments ≠ [] ∧ ∀ s ∈ p.segments, isSegment s ∧ Text.upper s = s := by
  obtain ⟨hsegments, hsegment⟩ := read_eq_ok.mp h
  refine ⟨?_, fun s hs => ⟨hsegment s hs, ?_⟩⟩
  · rw [hsegments, Text.splitOn_eq]
    simp [List.splitOn_ne_nil]
  · rw [hsegments] at hs
    obtain ⟨piece, -, rfl⟩ := List.mem_map.mp hs
    exact Text.upper_upper _

/-- To cut the text of a path gives its segments. -/
private theorem splitOn_text (hne : p.segments ≠ []) (hsegment : ∀ s ∈ p.segments, isSegment s) :
    Text.splitOn separator p.text = p.segments := by
  rw [text, Text.joinWith_eq, Text.splitOn_eq]
  exact List.splitOn_intercalate separator (fun s hs => separator_not_mem (hsegment s hs)) hne

/-- **The canonical paths are those of segments in upper case,** at least one of them. -/
theorem canonical_iff : p.Canonical ↔
    p.segments ≠ [] ∧ ∀ s ∈ p.segments, isSegment s ∧ Text.upper s = s := by
  refine ⟨segments_of_read, ?_⟩
  rintro ⟨hne, hsegment⟩
  have hsegments : ∀ s ∈ p.segments, isSegment s := fun s hs => (hsegment s hs).1
  rw [Canonical, read_eq_ok, splitOn_text hne hsegments]
  -- Segments have no blanks around them and are in upper case already.
  have hfixed : ∀ s ∈ p.segments, Text.upper (Text.trim s) = s := by
    intro s hs
    rw [trim_of_isSegment (hsegments s hs), (hsegment s hs).2]
  refine ⟨?_, hsegments⟩
  rw [List.map_congr_left hfixed, List.map_id']

/-- **Every path that has been read is canonical,** however it was written. -/
theorem canonical_of_read {cs : List Char} (h : read cs = .ok p) : p.Canonical :=
  canonical_iff.mpr (segments_of_read h)

namespace Canonical

/-- To cut the text of a canonical path gives its segments. -/
private theorem splitOn_text (h : p.Canonical) : Text.splitOn separator p.text = p.segments :=
  AttributePath.splitOn_text (canonical_iff.mp h).1 fun s hs => ((canonical_iff.mp h).2 s hs).1

/-- The paths on the way to a canonical path are canonical. -/
theorem take (h : p.Canonical) {n : Nat} (hn : 0 < n) : (p.take n).Canonical := by
  obtain ⟨hne, hsegment⟩ := canonical_iff.mp h
  rw [canonical_iff]
  refine ⟨?_, fun s hs => hsegment s (List.mem_of_mem_take hs)⟩
  simp only [AttributePath.take, ne_eq, List.take_eq_nil_iff, not_or]
  exact ⟨hn.ne', hne⟩

/-- Paths with the same name are the same. -/
theorem name_inj (hp : p.Canonical) (hq : q.Canonical) (h : p.name = q.name) : p = q := by
  have htext : p.text = q.text := String.ofList_injective h
  have hread : (Except.ok p : Except DataError AttributePath) = .ok q := by
    rw [← hp, ← hq, htext]
  exact Except.ok.inj hread

end Canonical

/-! ### Attributes below others -/

/-- Are the segments of the other path the first segments of this one? -/
def Extends (p q : AttributePath) : Prop := q.segments <+: p.segments

/-- Does the path lead to an attribute below that of the other path? -/
def Below (p q : AttributePath) : Prop := p.Extends q ∧ p ≠ q

instance (p q : AttributePath) : Decidable (p.Extends q) :=
  inferInstanceAs (Decidable (q.segments <+: p.segments))

instance (p q : AttributePath) : Decidable (p.Below q) :=
  inferInstanceAs (Decidable (p.Extends q ∧ p ≠ q))

/-- **By its text an attribute lies below another one exactly if it does so by its segments.**  A
    name that only begins with the characters of another name does not count. -/
theorem Canonical.isBelow_iff (hp : p.Canonical) (hq : q.Canonical) :
    AttributeTree.isBelow p.name q.name ↔ p.Below q := by
  have hname : AttributeTree.isBelow p.name q.name ↔ q.text ++ [separator] <+: p.text := by
    simp only [AttributeTree.isBelow, name, String.toList_ofList, List.isPrefixOf_iff_prefix]
  rw [hname]
  constructor
  · -- What stands behind the separator is cut into at least one more segment.
    rintro ⟨rest, hrest⟩
    have hsegments : p.segments = q.segments ++ Text.splitOn separator rest := by
      rw [← hp.splitOn_text, ← hq.splitOn_text, ← hrest, List.append_assoc, List.singleton_append]
      simp only [Text.splitOn_eq, List.splitOn_append_cons_self]
    refine ⟨⟨_, hsegments.symm⟩, ?_⟩
    rintro rfl
    have hnil : Text.splitOn separator rest = [] := by simpa using hsegments
    rw [Text.splitOn_eq] at hnil
    exact List.splitOn_ne_nil separator rest hnil
  · -- There are further segments, so that a separator stands before the first of them.
    rintro ⟨⟨rest, hrest⟩, hne⟩
    have hrestne : rest ≠ [] := by
      rintro rfl
      rw [List.append_nil] at hrest
      exact hne (by rw [AttributePath.mk.injEq, hrest])
    rw [text, text, ← hrest, Text.joinWith_append _ (canonical_iff.mp hq).1 hrestne]
    exact List.prefix_append _ _

end AttributePath

end Softcode
