import Softcode.Proofs.World.Allocation

namespace Softcode

/-!
# Numbers that are put in and used again

Objects get their numbers in two ways: from the allocator, or from somebody else who puts in an
object that has one already.  The allocator takes note of the numbers that are put in, so that fresh
numbers lie above them.  But it does not strike them off the numbers that wait to be used again.

A history is what has happened to the numbers of a world.  It tells which numbers are `occupied` by
an object and which are `waiting` to be used again, and so it tells when making an object destroys
another one: exactly when the lowest of the waiting numbers is occupied
(`Allocator.Holds.allocate_iff`).

* `World.History.tracked` — a history tells which numbers are occupied and which are waiting;
* `World.History.create_spares_iff` — when making an object spares all others;
* `World.create_destroys_inserted` — an object that has been put in is destroyed.
-/

/-! ### Histories -/

/-- What can happen to a number. -/
inductive NumberEvent where
  | created (d : Dbref)
  | inserted (d : Dbref)
  | recycled (d : Dbref)
deriving Repr, DecidableEq

/-- Is there an object with the number?  The latest event comes first. -/
def occupied (d : Dbref) : List NumberEvent → Bool
  | [] => false
  | .created d' :: es => d = d' || occupied d es
  | .inserted d' :: es => d = d' || occupied d es
  | .recycled d' :: es => d ≠ d' && occupied d es

/-- Has an object with the number been destroyed, and the number not been handed out since? -/
def waiting (d : Dbref) : List NumberEvent → Bool
  | [] => false
  | .created d' :: es => d ≠ d' && waiting d es
  | .inserted _ :: es => waiting d es
  | .recycled d' :: es => d = d' && occupied d es || waiting d es

/-- A number that waits although it is occupied was waiting when an object was put in under it. -/
private theorem inserted_of_waiting {d : Dbref} {es : List NumberEvent} (hoccupied : occupied d es)
    (hwaiting : waiting d es) :
    ∃ after before, es = after ++ .inserted d :: before ∧ waiting d before := by
  induction es with
  | nil => cases hoccupied
  | cons e es ih =>
    -- Unless the object was put in just now, it was there before, and its number was waiting.
    have hearlier : occupied d es → waiting d es →
        ∃ after before, e :: es = after ++ .inserted d :: before ∧ waiting d before := by
      intro ho hw
      obtain ⟨after, before, rfl, hbefore⟩ := ih ho hw
      exact ⟨e :: after, before, rfl, hbefore⟩
    cases e with
    | created d' =>
      simp only [occupied, waiting, Bool.or_eq_true, Bool.and_eq_true, decide_eq_true_eq]
        at hoccupied hwaiting
      exact hearlier (hoccupied.resolve_left hwaiting.1) hwaiting.2
    | inserted d' =>
      simp only [occupied, waiting, Bool.or_eq_true, decide_eq_true_eq] at hoccupied hwaiting
      rcases hoccupied with rfl | hoccupied
      · exact ⟨[], es, rfl, hwaiting⟩
      · exact hearlier hoccupied hwaiting
    | recycled d' =>
      simp only [occupied, waiting, Bool.or_eq_true, Bool.and_eq_true, decide_eq_true_eq]
        at hoccupied hwaiting
      refine hearlier hoccupied.2 (hwaiting.resolve_left fun hd => ?_)
      exact hoccupied.1 hd.1

namespace World

/-- The world after some events, which began with an empty one.  No object is put in under the
    number of another. -/
inductive History : List NumberEvent → World → Prop
  | empty : History [] {}
  | create {es : List NumberEvent} {w : World} (h : History es w) (kind : Kind) (name : String)
      (location : Option Dbref) :
      History (.created (w.create kind name location).1.dbref :: es) (w.create kind name location).2
  | insert {es : List NumberEvent} {w : World} (h : History es w) (o : Object)
      (ho : w.object? o.dbref = none) : History (.inserted o.dbref :: es) (w.insert o)
  | recycle {es : List NumberEvent} {w : World} (h : History es w) (d : Dbref) :
      History (.recycled d :: es) (w.recycle d)

/-- Does the history tell which numbers are those of objects, and which wait to be used again? -/
structure Tracked (es : List NumberEvent) (w : World) : Prop where
  live : ∀ d, w.object? d ≠ none ↔ occupied d es
  numbers : w.allocator.Holds (waiting · es) (occupied · es)

namespace Tracked

variable {es : List NumberEvent} {w : World}

/-- The number of a new object is occupied, and waits no more. -/
theorem create (h : Tracked es w) (kind : Kind) (name : String) (location : Option Dbref) :
    Tracked (.created (w.create kind name location).1.dbref :: es)
      (w.create kind name location).2 := by
  refine ⟨fun d => ?_, ?_⟩
  · have hlive := h.live d
    rw [object?_create]
    by_cases hd : d = (w.create kind name location).1.dbref
    · simp [occupied, hd]
    · simp [occupied, hd, hlive]
  · refine h.numbers.allocate.mono (fun d => ?_) fun d hd => ?_
    · rw [waiting, Bool.and_eq_true, decide_eq_true_eq]
      rfl
    · rwa [occupied, Bool.or_eq_true, decide_eq_true_eq] at hd

/-- A number that is put in is occupied, but it may go on waiting. -/
theorem insert (h : Tracked es w) (o : Object) :
    Tracked (.inserted o.dbref :: es) (w.insert o) := by
  refine ⟨fun d => ?_, ?_⟩
  · have hlive := h.live d
    rw [object?_insert]
    by_cases hd : d = o.dbref
    · simp [occupied, hd]
    · simp [occupied, hd, hlive]
  · refine (h.numbers.reserve o.dbref).mono (fun d => ?_) fun d hd => ?_
    · rw [waiting]
    · rwa [occupied, Bool.or_eq_true, decide_eq_true_eq] at hd

/-- The number of an object that is destroyed waits. -/
theorem recycle (h : Tracked es w) (d : Dbref) : Tracked (.recycled d :: es) (w.recycle d) := by
  refine ⟨fun d' => ?_, ?_⟩
  · have hlive := h.live d'
    rw [object?_recycle]
    by_cases hd : d' = d
    · simp [occupied, hd]
    · simp [occupied, hd, hlive]
  · -- The number of an object that does not exist is not taken back.
    have hlive := h.live d
    unfold World.recycle
    split
    · rename_i hhas
      have hd : occupied d es := hlive.mp (Option.isSome_iff_ne_none.mp hhas)
      refine (h.numbers.recycle hd).mono (fun d' => ?_) fun d' hd' => ?_
      · rw [waiting, Bool.or_eq_true, Bool.and_eq_true, decide_eq_true_eq]
        refine or_congr_left (and_iff_left_of_imp ?_)
        rintro rfl
        exact hd
      · rw [occupied, Bool.and_eq_true] at hd'
        exact hd'.2
    · rename_i hhas
      have hd : occupied d es = false := by
        rw [← Bool.not_eq_true, ← hlive, not_not]
        exact Option.not_isSome_iff_eq_none.mp hhas
      refine h.numbers.mono (fun d' => ?_) fun d' hd' => ?_
      · rw [waiting, Bool.or_eq_true, Bool.and_eq_true, decide_eq_true_eq]
        refine or_iff_right ?_
        rintro ⟨rfl, hd'⟩
        rw [hd] at hd'
        cases hd'
      · rw [occupied, Bool.and_eq_true] at hd'
        exact hd'.2

end Tracked

/-- **A history tells which numbers are occupied and which are waiting.** -/
theorem History.tracked {es : List NumberEvent} {w : World} (h : History es w) : Tracked es w := by
  induction h with
  | empty =>
    refine ⟨fun d => ?_, List.Pairwise.nil, fun d => ?_, fun d hd => ?_⟩
    · simp [object?, Table.find?, Table.find?.go, occupied]
    · simp [waiting]
    · simp [waiting, occupied] at hd
  | create _ kind name location ih => exact ih.create kind name location
  | insert _ o _ ih => exact ih.insert o
  | recycle _ d ih => exact ih.recycle d

/-- **When making an object spares all others.**  Whatever has been made, put in and destroyed, a
    new object gets a number at which there is none, unless the lowest number that waits to be used
    again is that of an object.  So nothing is destroyed if no object has been put in under a
    waiting number. -/
theorem History.create_spares_iff {es : List NumberEvent} {w : World} (h : History es w)
    (kind : Kind) (name : String) (location : Option Dbref) :
    (w.object? (w.create kind name location).1.dbref = none ↔
      ¬ ∃ d, waiting d es ∧ w.object? d ≠ none ∧ ∀ d', waiting d' es → d ≤ d') ∧
    ((∀ after d before, es = after ++ .inserted d :: before → waiting d before = false) →
      w.object? (w.create kind name location).1.dbref = none) := by
  have htracked := h.tracked
  have hiff : w.object? (w.create kind name location).1.dbref = none ↔
      ¬ ∃ d, waiting d es ∧ w.object? d ≠ none ∧ ∀ d', waiting d' es → d ≤ d' := by
    have hnumber : (w.create kind name location).1.dbref = w.allocator.allocate.1 := rfl
    simp only [htracked.live]
    rw [← htracked.numbers.allocate_iff, ← htracked.live, hnumber, not_not]
  refine ⟨hiff, fun hinserted => hiff.mpr ?_⟩
  -- A live number waits only if an object was put in with it while it waited.
  rintro ⟨d, hwaiting, hlive, -⟩
  obtain ⟨after, before, hes, hbefore⟩ :=
    inserted_of_waiting ((htracked.live d).mp hlive) hwaiting
  rw [hinserted after d before hes] at hbefore
  cases hbefore

/-- Two numbers wait to be used again, and an object is put in under the second.  The next object
    gets the first. -/
theorem second_create_spares :
    let jug : Object := .new 1 50 .thing "Jug"
    let cups := ((World.create {} .thing "Cup" none).2.create .thing "Mug" none).2
    let w := ((cups.recycle 0).recycle 1).insert jug
    History [.inserted 1, .recycled 1, .recycled 0, .created 1, .created 0] w ∧ w.Live jug ∧
      w.object? (w.create .thing "Pan" none).1.dbref = none := by
  intro jug cups w
  have h : History [.inserted 1, .recycled 1, .recycled 0, .created 1, .created 0] w :=
    let made := (History.empty.create .thing "Cup" none).create .thing "Mug" none
    ((made.recycle 0).recycle 1).insert jug (by decide +kernel)
  refine ⟨h, by decide +kernel, (h.create_spares_iff .thing "Pan" none).1.mpr ?_⟩
  rintro ⟨d, hwaiting, hlive, hlowest⟩
  -- Zero waits and has no object, and so it is given out before one.
  have hle : d ≤ 0 := hlowest 0 (by decide)
  have hd : d = 1 ∨ d = 0 := by
    simp only [waiting, occupied, Bool.or_eq_true, Bool.and_eq_true, decide_eq_true_eq] at hwaiting
    tauto
  rcases hd with rfl | rfl
  · exact absurd hle (by decide)
  · exact hlive (by decide +kernel)

/-- **An object that has been put in is destroyed.**  Its number was that of an object that had been
    destroyed, and it is handed out once more. -/
theorem create_destroys_inserted :
    let jug : Object := .new 0 50 .thing "Jug"
    let w := ((World.create {} .thing "Cup" none).2.recycle 0).insert jug
    History [.inserted 0, .recycled 0, .created 0] w ∧ w.Live jug ∧
      (w.create .thing "Mug" none).1.dbref = 0 ∧ ¬ (w.create .thing "Mug" none).2.Live jug := by
  intro jug w
  have h : History [.inserted 0, .recycled 0, .created 0] w :=
    ((History.empty.create .thing "Cup" none).recycle 0).insert jug (by decide +kernel)
  exact ⟨h, by decide +kernel, by decide +kernel, by decide +kernel⟩

end World

end Softcode
