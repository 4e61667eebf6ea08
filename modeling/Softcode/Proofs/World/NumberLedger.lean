import Softcode.Proofs.World.Allocation

namespace Softcode

/-!
# The ledger of an allocator

An allocator hands out numbers, takes numbers back, and is told of numbers that somebody else has
assigned.  A ledger has an entry for each of these, so it tells which numbers are `held`, which wait
to be used again (`waits`), and which have been `issued` at all.  The allocator does not keep a
ledger: it has its free list, one bound for all numbers issued, and its clock.  `Allocator.Follows`
says that these are enough.

* `Allocator.Ledger.follows` — whatever is asked of it, an allocator follows its ledger;
* `Allocator.Ledger.allocated_unheld` — no number is handed out that is held, and no number is
  handed out twice with the same time.
-/

namespace Allocator

/-! ### Ledgers -/

/-- What can happen to a number. -/
inductive Entry where
  | allocated (d : Dbref) (created : Int)
  | recycled (d : Dbref)
  | reserved (d : Dbref)
deriving Repr, DecidableEq

/-- Has the number been handed out, and not been taken back since?  The latest entry comes first. -/
def held (d : Dbref) : List Entry → Bool
  | [] => false
  | .allocated d' _ :: es => d = d' || held d es
  | .recycled d' :: es => d ≠ d' && held d es
  | .reserved _ :: es => held d es

/-- Has the number been taken back, and not been handed out since? -/
def waits (d : Dbref) : List Entry → Bool
  | [] => false
  | .allocated d' _ :: es => d ≠ d' && waits d es
  | .recycled d' :: es => d = d' || waits d es
  | .reserved _ :: es => waits d es

/-- Has the number ever been handed out, or assigned by somebody else? -/
def issued (d : Dbref) : List Entry → Bool
  | [] => false
  | .allocated d' _ :: es => d = d' || issued d es
  | .recycled _ :: es => issued d es
  | .reserved d' :: es => d = d' || issued d es

/-- The numbers handed out, each with its time. -/
def handedOut : List Entry → List (Dbref × Int)
  | [] => []
  | .allocated d created :: es => (d, created) :: handedOut es
  | .recycled _ :: es => handedOut es
  | .reserved _ :: es => handedOut es

/-- The ledgers of an allocator that begins with the number `first`.  It is only given back what has
    been handed out and not been given back since. -/
inductive Ledger (first : Dbref) : List Entry → Allocator → Prop
  | opened : Ledger first [] (startingAt first)
  | allocate {es : List Entry} {a : Allocator} (h : Ledger first es a) :
      Ledger first (.allocated a.allocate.1 a.allocate.2.1 :: es) a.allocate.2.2
  | recycle {es : List Entry} {a : Allocator} (h : Ledger first es a) (d : Dbref) (hd : held d es) :
      Ledger first (.recycled d :: es) (a.recycle d)
  | reserve {es : List Entry} {a : Allocator} (h : Ledger first es a) (d : Dbref) :
      Ledger first (.reserved d :: es) (a.reserve d)

variable {first d : Dbref} {created : Int} {es later earlier : List Entry} {a : Allocator}

/-- No number is held and waits at the same time. -/
private theorem not_waits_of_held (h : held d es) : ¬ waits d es := by
  -- Each entry moves a number to one side and leaves the others where they are.
  induction es with
  | nil => cases h
  | cons e es ih =>
    cases e with
    | allocated d' created =>
      simp only [held, waits, Bool.or_eq_true, Bool.and_eq_true, decide_eq_true_eq] at h ⊢
      rintro ⟨hne, hwaits⟩
      exact ih (h.resolve_left hne) hwaits
    | recycled d' =>
      simp only [held, waits, Bool.or_eq_true, Bool.and_eq_true, decide_eq_true_eq] at h ⊢
      rintro (heq | hwaits)
      · exact h.1 heq
      · exact ih h.2 hwaits
    | reserved d' => exact ih h

/-- What is held has been issued. -/
private theorem issued_of_held (h : held d es) : issued d es := by
  induction es with
  | nil => cases h
  | cons e es ih =>
    cases e with
    | allocated d' created =>
      simp only [held, issued, Bool.or_eq_true] at h ⊢
      exact h.imp_right ih
    | recycled d' =>
      rw [held, Bool.and_eq_true] at h
      exact ih h.2
    | reserved d' =>
      rw [issued, Bool.or_eq_true]
      exact .inr (ih h)

/-! ### What the allocator keeps of its ledger -/

/-- Does the allocator have the numbers that wait, a bound for those issued, and the time? -/
structure Follows (a : Allocator) (es : List Entry) : Prop where
  numbers : a.Holds (waits · es) (issued · es)
  /-- The clock is ahead of all times so far. -/
  clock : ∀ x ∈ handedOut es, x.2 < a.clock
  apart : (handedOut es).Nodup

namespace Follows

/-- The number that is handed out is noted with its time. -/
theorem allocate (h : a.Follows es) :
    a.allocate.2.2.Follows (.allocated a.allocate.1 a.allocate.2.1 :: es) := by
  have hclock := h.clock
  obtain ⟨htime, hnext⟩ := a.allocate_clock
  refine ⟨h.numbers.allocate.mono (fun d => ?_) fun d hd => ?_, fun x hx => ?_, ?_⟩
  · rw [waits, Bool.and_eq_true, decide_eq_true_eq]
  · rwa [issued, Bool.or_eq_true, decide_eq_true_eq] at hd
  · rw [hnext]
    rcases List.mem_cons.mp hx with rfl | hx
    · exact htime ▸ Int.lt_succ a.clock
    · exact lt_trans (hclock x hx) (Int.lt_succ a.clock)
  · -- The time of the new number is later than all others.
    refine List.nodup_cons.mpr ⟨fun hmem => ?_, h.apart⟩
    exact absurd htime (hclock _ hmem).ne

/-- A number that is held waits when it is taken back. -/
theorem recycle (h : a.Follows es) (hd : held d es) :
    (a.recycle d).Follows (.recycled d :: es) := by
  refine ⟨(h.numbers.recycle (issued_of_held hd)).mono (fun d' => ?_) fun d' hd' => ?_, h.clock,
    h.apart⟩
  · rw [waits, Bool.or_eq_true, decide_eq_true_eq]
  · exact hd'

/-- Fresh numbers lie above one that somebody else has assigned. -/
theorem reserve (h : a.Follows es) (d : Dbref) : (a.reserve d).Follows (.reserved d :: es) := by
  refine ⟨(h.numbers.reserve d).mono (fun d' => ?_) fun d' hd' => ?_, h.clock, h.apart⟩
  · rw [waits]
  · rwa [issued, Bool.or_eq_true, decide_eq_true_eq] at hd'

/-- The number that is handed out next is the lowest that waits, or above all numbers issued. -/
theorem allocate_cases (h : a.Follows es) :
    (waits a.allocate.1 es ∧ ∀ d, waits d es → a.allocate.1 ≤ d) ∨
      (∀ d, ¬ waits d es) ∧ ∀ d, issued d es → d < a.allocate.1 := by
  refine h.numbers.allocate_cases.imp_right ?_
  rintro ⟨hnone, hnext⟩
  exact ⟨hnone, fun d hd => hnext ▸ h.numbers.below d (.inr hd)⟩

/-- The number that is handed out next is not held. -/
private theorem not_held_allocate (h : a.Follows es) : ¬ held a.allocate.1 es := by
  intro hheld
  rcases h.allocate_cases with ⟨hwaits, -⟩ | ⟨-, habove⟩
  · exact not_waits_of_held hheld hwaits
  · exact lt_irrefl _ (habove _ (issued_of_held hheld))

end Follows

namespace Ledger

/-- **An allocator follows its ledger,** whatever is asked of it. -/
theorem follows (h : Ledger first es a) : a.Follows es := by
  induction h with
  | opened =>
    refine ⟨⟨List.Pairwise.nil, fun d => ?_, fun d hd => ?_⟩, fun x hx => ?_, List.nodup_nil⟩
    · simp [startingAt, waits]
    · simp [waits, issued] at hd
    · cases hx
  | allocate _ ih => exact ih.allocate
  | recycle _ d hd ih => exact ih.recycle hd
  | reserve _ d ih => exact ih.reserve d

/-- A ledger without its latest entries is one too. -/
private theorem earlier_entries (h : Ledger first (later ++ earlier) a) :
    ∃ b, Ledger first earlier b := by
  induction later generalizing a with
  | nil => exact ⟨a, h⟩
  | cons e later ih =>
    cases h with
    | allocate h => exact ih h
    | recycle h => exact ih h
    | reserve h => exact ih h

/-- A number that was handed out is the answer of the allocator as it was then. -/
private theorem allocated_at (h : Ledger first (later ++ .allocated d created :: earlier) a) :
    ∃ b, Ledger first earlier b ∧ d = b.allocate.1 := by
  obtain ⟨c, hc⟩ := h.earlier_entries
  cases hc with
  | allocate hb => exact ⟨_, hb, rfl⟩

/-- **No number that is held is handed out.**  Whatever an allocator is asked, each number that it
    hands out was not held then: it was the lowest of those that waited to be used again, or, if
    none did, above all numbers ever handed out or assigned by somebody else.  And no number is
    handed out twice with the same time. -/
theorem allocated_unheld (h : Ledger first es a) :
    (∀ later d created earlier, es = later ++ .allocated d created :: earlier →
      ¬ held d earlier ∧
      ((waits d earlier ∧ ∀ d', waits d' earlier → d ≤ d') ∨
        (∀ d', ¬ waits d' earlier) ∧ ∀ d', issued d' earlier → d' < d)) ∧
    (handedOut es).Nodup := by
  refine ⟨fun later d created earlier hes => ?_, h.follows.apart⟩
  rw [hes] at h
  obtain ⟨b, hb, rfl⟩ := h.allocated_at
  exact ⟨hb.follows.not_held_allocate, hb.follows.allocate_cases⟩

end Ledger

/-- Two numbers are given back, the higher one first, while a third is held that lies above a number
    assigned by somebody else.  The lower one is handed out again, with a new time. -/
theorem reused_allocated_unheld :
    let before : List Entry := [.recycled (-2), .recycled (-1), .allocated 6 3, .reserved 5,
      .allocated (-1) 2, .allocated (-2) 1]
    let a : Allocator := { free := [-1], next := 7, clock := 5 }
    Ledger (-2) (.allocated (-2) 4 :: before) a ∧ ¬ held (-2) before ∧ held 6 before ∧
      (∀ d, waits d before → -2 ≤ d) ∧
      (handedOut (.allocated (-2) 4 :: before)).Nodup := by
  intro before a
  have h : Ledger (-2) (.allocated (-2) 4 :: before) a :=
    let given := (Ledger.opened.allocate.allocate.reserve 5).allocate
    ((given.recycle (-1) (by decide)).recycle (-2) (by decide)).allocate
  obtain ⟨hall, hapart⟩ := h.allocated_unheld
  obtain ⟨hheld, hwhich⟩ := hall [] (-2) 4 before rfl
  refine ⟨h, hheld, by decide, ?_, hapart⟩
  rcases hwhich with ⟨-, hlowest⟩ | ⟨hnone, -⟩
  · exact hlowest
  · exact absurd (by decide) (hnone (-2))

end Allocator

end Softcode
