import Softcode.Proofs.World.Sound

namespace Softcode

/-!
# Numbers that are handed out

A number is given to one object at a time, and no two objects ever have both the number and the time
of creation in common.  An allocator `Holds` the numbers that wait to be used again, and `Spares`
the numbers in use if none of them waits: it hands out none of them, and that stays so when a number
is handed out or taken back.  In a world whose numbers are `Allotted`, the allocator spares the
numbers of the live objects, and the clock is ahead of all times of creation.

* `Allocator.Holds.allocate_iff` — when an allocator hands out a number that is taken;
* `Allocator.Spares.allocate`, `Allocator.Spares.recycle` — handing out numbers and taking them
  back;
* `World.Allotted.create`, `World.Allotted.recycle` — making and destroying objects.
-/

namespace Allocator

/-- A number is put in its place. -/
private theorem mem_insertInOrder {d x : Dbref} {ds : List Dbref} :
    x ∈ insertInOrder d ds ↔ x = d ∨ x ∈ ds := by
  induction ds with
  | nil => simp [insertInOrder]
  | cons y ys ih =>
    rw [insertInOrder]
    split
    · exact List.mem_cons
    split
    · rename_i heq
      simp [heq]
    · simp only [List.mem_cons, ih]
      exact or_left_comm

/-- The others stay in order. -/
private theorem pairwise_insertInOrder {d : Dbref} {ds : List Dbref} (h : ds.Pairwise (· < ·)) :
    (insertInOrder d ds).Pairwise (· < ·) := by
  induction ds with
  | nil => exact List.pairwise_singleton _ d
  | cons y ys ih =>
    obtain ⟨hy, hys⟩ := List.pairwise_cons.mp h
    rw [insertInOrder]
    -- The number goes before the first larger one, and one that is there is not put in again.
    split
    · rename_i hlt
      refine List.pairwise_cons.mpr ⟨fun z hz => ?_, h⟩
      rcases List.mem_cons.mp hz with rfl | hz
      · exact hlt
      · exact lt_trans hlt (hy z hz)
    split
    · exact h
    · rename_i hnlt hne
      refine List.pairwise_cons.mpr ⟨fun z hz => ?_, ih hys⟩
      rcases mem_insertInOrder.mp hz with rfl | hz
      · exact lt_of_le_of_ne (not_lt.mp hnlt) (Ne.symm hne)
      · exact hy z hz

/-- A number gets the time of the clock, which goes on. -/
theorem allocate_clock (a : Allocator) :
    a.allocate.2.1 = a.clock ∧ a.allocate.2.2.clock = a.clock + 1 := by
  unfold allocate
  split <;> exact ⟨rfl, rfl⟩

/-! ### Numbers that wait -/

/-- Are the waiting numbers those that the allocator can use again, in order, and do fresh numbers
    lie above them and above all numbers that are taken? -/
structure Holds (a : Allocator) (waiting taken : Dbref → Prop) : Prop where
  inOrder : a.free.Pairwise (· < ·)
  free : ∀ d, d ∈ a.free ↔ waiting d
  below : ∀ d, waiting d ∨ taken d → d < a.next

namespace Holds

variable {a : Allocator} {waiting taken : Dbref → Prop}

/-- The number that is handed out is the lowest that waits, or a fresh one if none does. -/
theorem allocate_cases (h : a.Holds waiting taken) :
    (waiting a.allocate.1 ∧ ∀ d, waiting d → a.allocate.1 ≤ d) ∨
      (∀ d, ¬ waiting d) ∧ a.allocate.1 = a.next := by
  have hinOrder := h.inOrder
  have hfree := h.free
  unfold Allocator.allocate
  -- The list is in order, so its first number is the least that waits.
  cases hlist : a.free with
  | nil =>
    rw [hlist] at hfree
    exact .inr ⟨fun d hd => List.not_mem_nil ((hfree d).mpr hd), rfl⟩
  | cons first free =>
    rw [hlist] at hfree hinOrder
    refine .inl ⟨(hfree first).mp List.mem_cons_self, fun d hd => ?_⟩
    rcases List.mem_cons.mp ((hfree d).mpr hd) with rfl | hd
    · exact le_refl d
    · exact ((List.pairwise_cons.mp hinOrder).1 d hd).le

/-- **When a number that is taken is handed out:** exactly when it is the lowest that waits. -/
theorem allocate_iff (h : a.Holds waiting taken) :
    taken a.allocate.1 ↔ ∃ d, waiting d ∧ taken d ∧ ∀ d', waiting d' → d ≤ d' := by
  constructor
  · intro htaken
    rcases h.allocate_cases with ⟨hwaiting, hlowest⟩ | ⟨-, hnext⟩
    · exact ⟨a.allocate.1, hwaiting, htaken, hlowest⟩
    · -- A fresh number is above all that are taken.
      exact absurd hnext (h.below a.allocate.1 (.inr htaken)).ne
  · rintro ⟨d, hwaiting, htaken, hlowest⟩
    rcases h.allocate_cases with ⟨hwaiting', hlowest'⟩ | ⟨hnone, -⟩
    · rwa [le_antisymm (hlowest' d hwaiting) (hlowest _ hwaiting')]
    · exact absurd hwaiting (hnone d)

/-- A number that is handed out waits no more, and is taken. -/
theorem allocate (h : a.Holds waiting taken) :
    a.allocate.2.2.Holds (fun d => d ≠ a.allocate.1 ∧ waiting d)
      fun d => d = a.allocate.1 ∨ taken d := by
  have hinOrder := h.inOrder
  have hfree := h.free
  have hbelow := h.below
  unfold Allocator.allocate
  cases hlist : a.free with
  | nil =>
    -- A fresh number is handed out, since none waits.
    rw [hlist] at hfree
    have hnone : ∀ d, ¬ waiting d := fun d hd => List.not_mem_nil ((hfree d).mpr hd)
    refine ⟨List.Pairwise.nil, fun d => ?_, fun d hd => ?_⟩
    · exact ⟨fun hd => absurd hd List.not_mem_nil, fun hd => absurd hd.2 (hnone d)⟩
    · show d < a.next + 1
      rcases hd with hd | rfl | hd
      · exact absurd hd.2 (hnone d)
      · exact Int.lt_succ a.next
      · exact lt_trans (hbelow d (.inr hd)) (Int.lt_succ a.next)
  | cons first free =>
    -- The first number that waits is handed out, and it does not occur again.
    rw [hlist] at hinOrder hfree
    obtain ⟨hfirst, hinOrder⟩ := List.pairwise_cons.mp hinOrder
    refine ⟨hinOrder, fun d => ?_, fun d hd => ?_⟩
    · show d ∈ free ↔ d ≠ first ∧ waiting d
      rw [← hfree d, List.mem_cons]
      constructor
      · intro hd
        exact ⟨(hfirst d hd).ne', .inr hd⟩
      · rintro ⟨hne, rfl | hd⟩
        · exact absurd rfl hne
        · exact hd
    · rcases hd with hd | rfl | hd
      · exact hbelow d (.inl hd.2)
      · exact hbelow d (.inl ((hfree d).mp List.mem_cons_self))
      · exact hbelow d (.inr hd)

/-- A number that is taken back waits from then on. -/
theorem recycle (h : a.Holds waiting taken) {d : Dbref} (hd : taken d) :
    (a.recycle d).Holds (fun d' => d' = d ∨ waiting d') taken := by
  refine ⟨pairwise_insertInOrder h.inOrder, fun d' => ?_, fun d' hd' => ?_⟩
  · rw [Allocator.recycle, mem_insertInOrder, h.free]
  · rcases hd' with (rfl | hd') | hd'
    · exact h.below d' (.inr hd)
    · exact h.below d' (.inl hd')
    · exact h.below d' (.inr hd')

/-- A number that somebody else has assigned is taken, but it may still be waiting. -/
theorem reserve (h : a.Holds waiting taken) (d : Dbref) :
    (a.reserve d).Holds waiting fun d' => d' = d ∨ taken d' := by
  refine ⟨h.inOrder, h.free, fun d' hd' => ?_⟩
  show d' < max a.next (d + 1)
  rcases hd' with hd' | rfl | hd'
  · exact lt_max_of_lt_left (h.below d' (.inl hd'))
  · exact lt_max_of_lt_right (Int.lt_succ d')
  · exact lt_max_of_lt_left (h.below d' (.inr hd'))

/-- The waiting numbers are known exactly, but fewer numbers may be taken. -/
theorem mono {waiting' taken' : Dbref → Prop} (h : a.Holds waiting taken)
    (hwaiting : ∀ d, waiting' d ↔ waiting d) (htaken : ∀ d, taken' d → taken d) :
    a.Holds waiting' taken' :=
  ⟨h.inOrder, fun d => (h.free d).trans (hwaiting d).symm,
    fun d hd => h.below d (hd.imp (hwaiting d).mp (htaken d))⟩

end Holds

/-! ### Numbers in use -/

/-- Will the allocator hand out none of the numbers in use?  Those are below the next fresh number,
    and are not among the numbers that can be used again, which are in order, each of them once. -/
structure Spares (a : Allocator) (used : Dbref → Prop) : Prop where
  inOrder : a.free.Pairwise (· < ·)
  below : ∀ d ∈ a.free, d < a.next
  used : ∀ d, used d → d < a.next ∧ d ∉ a.free

/-- Numbers that are taken are spared if none of them is waiting. -/
private theorem Holds.spares {a : Allocator} {waiting taken : Dbref → Prop}
    (h : a.Holds waiting taken) (hdisjoint : ∀ d, taken d → ¬ waiting d) : a.Spares taken := by
  refine ⟨h.inOrder, fun d hd => ?_, fun d hd => ⟨h.below d (.inr hd), fun hmem => ?_⟩⟩
  · exact h.below d (.inl ((h.free d).mp hd))
  · exact hdisjoint d hd ((h.free d).mp hmem)

namespace Spares

variable {a : Allocator} {used used' : Dbref → Prop}

/-- Fewer numbers in use are spared too. -/
theorem mono (h : a.Spares used) (hle : ∀ d, used' d → used d) : a.Spares used' :=
  ⟨h.inOrder, h.below, fun d hd => h.used d (hle d hd)⟩

/-- Numbers that are spared are taken, and those that can be used again wait. -/
theorem holds (h : a.Spares used) : a.Holds (· ∈ a.free) used := by
  refine ⟨h.inOrder, fun d => Iff.rfl, fun d hd => ?_⟩
  rcases hd with hd | hd
  · exact h.below d hd
  · exact (h.used d hd).1

/-- **The number that is handed out was not in use,** and is spared from then on. -/
theorem allocate (h : a.Spares used) :
    ¬ used a.allocate.1 ∧ a.allocate.2.2.Spares fun d => d = a.allocate.1 ∨ used d := by
  refine ⟨fun huse => ?_, h.holds.allocate.spares ?_⟩
  · obtain ⟨d, hmem, hd, -⟩ := h.holds.allocate_iff.mp huse
    exact (h.used d hd).2 hmem
  · rintro d (rfl | hd) ⟨hne, hmem⟩
    · exact hne rfl
    · exact (h.used d hd).2 hmem

/-- A number that is taken back is not spared any more. -/
theorem recycle (h : a.Spares used) {d : Dbref} (hd : used d) :
    (a.recycle d).Spares fun d' => d' ≠ d ∧ used d' := by
  refine ((h.holds.recycle hd).mono (fun _ => Iff.rfl) fun _ hd' => hd'.2).spares ?_
  rintro d' ⟨hne, hd'⟩ (heq | hmem)
  · exact hne heq
  · exact (h.used d' hd').2 hmem

end Spares

end Allocator

namespace World

variable {w w' : World}

/-! ### Look-ups by number -/

/-- A new object is found under its number. -/
theorem object?_create (w : World) (kind : Kind) (name : String) (location : Option Dbref)
    (d : Dbref) : (w.create kind name location).2.object? d
      = if d = (w.create kind name location).1.dbref then some (w.create kind name location).1
        else w.object? d :=
  Table.find?_insert ..

theorem object?_insert (w : World) (o : Object) (d : Dbref) :
    (w.insert o).object? d = if d = o.dbref then some o else w.object? d :=
  Table.find?_insert ..

/-- One that is destroyed is found no more. -/
theorem object?_recycle (w : World) (d d' : Dbref) :
    (w.recycle d).object? d' = if d' = d then none else w.object? d' := by
  unfold recycle
  split
  · exact Table.find?_erase ..
  · rename_i hhas
    have hnone : w.object? d = none := by
      rwa [Table.has, Bool.not_eq_true, Option.isSome_eq_false_iff,
        Option.isNone_iff_eq_none] at hhas
    split
    · rename_i heq
      rw [heq, hnone]
    · rfl

/-- One that is changed is found as it is then. -/
theorem object?_update (w : World) (d d' : Dbref) (f : Object → Object) :
    (w.update d f).object? d' = if d' = d then (w.object? d').map f else w.object? d' :=
  Table.find?_modify ..

/-! ### Worlds -/

/-- Are the numbers of live objects spared, and is the clock ahead of all times of creation? -/
structure Allotted (w : World) : Prop where
  numbers : w.allocator.Spares fun d => w.object? d ≠ none
  clock : 0 ≤ w.allocator.clock
  created : ∀ d o, w.object? d = some o → 0 ≤ o.created ∧ o.created < w.allocator.clock

/-- In an empty world no number is in use. -/
theorem allotted_empty : Allotted {} :=
  ⟨⟨List.Pairwise.nil, by simp, fun _ h => absurd rfl h⟩, by decide, fun _ _ h => by cases h⟩

/-- The time of a new object is that of the clock, which goes on. -/
theorem create_created (w : World) (kind : Kind) (name : String) (location : Option Dbref) :
    (w.create kind name location).1.created = w.allocator.clock ∧
      (w.create kind name location).2.allocator.clock = w.allocator.clock + 1 :=
  w.allocator.allocate_clock

/-- **The number of a new object was that of no object.** -/
theorem Allotted.object?_new (h : w.Allotted) (kind : Kind) (name : String)
    (location : Option Dbref) : w.object? (w.create kind name location).1.dbref = none :=
  not_not.mp h.numbers.allocate.1

/-- **Making an object keeps the numbers allotted.** -/
theorem Allotted.create (h : w.Allotted) (kind : Kind) (name : String) (location : Option Dbref) :
    (w.create kind name location).2.Allotted := by
  obtain ⟨hcreated, hclock⟩ := w.create_created kind name location
  have hpos := h.clock
  -- The new object has the time of the clock, which then goes on.
  refine ⟨h.numbers.allocate.2.mono fun d hd => ?_, by omega, fun d o ho => ?_⟩
  · rw [object?_create] at hd
    split at hd
    · exact .inl ‹_›
    · exact .inr hd
  · rw [object?_create] at ho
    split at ho
    · obtain rfl := Option.some.inj ho
      omega
    · have hold := h.created d o ho
      omega

/-- **Destroying an object keeps the numbers allotted.** -/
theorem Allotted.recycle (h : w.Allotted) (d : Dbref) : (w.recycle d).Allotted := by
  have hobject := w.object?_recycle d
  unfold World.recycle at hobject ⊢
  split
  · -- A number waits again only if an object had it.
    rename_i hhas
    rw [if_pos hhas] at hobject
    have hlive : w.object? d ≠ none := Option.isSome_iff_ne_none.mp hhas
    refine ⟨(h.numbers.recycle hlive).mono fun d' hd' => ?_, h.clock, fun d' o ho => ?_⟩
    · rw [hobject] at hd'
      split at hd'
      · exact absurd rfl hd'
      · exact ⟨‹_›, hd'⟩
    · rw [hobject] at ho
      split at ho
      · cases ho
      · exact h.created d' o ho
  · exact h

/-- What keeps the identity of objects keeps their numbers allotted. -/
theorem Allotted.update (h : w.Allotted) (d : Dbref) {f : Object → Object}
    (hf : ∀ o, (f o).identity = o.identity) : (w.update d f).Allotted := by
  refine ⟨h.numbers.mono fun d' hd' => ?_, h.clock, fun d' o ho => ?_⟩
  · rw [object?_update] at hd'
    split at hd'
    · exact fun hnone => hd' (by rw [hnone]; rfl)
    · exact hd'
  · rw [object?_update] at ho
    split at ho
    · obtain ⟨old, hold, rfl⟩ := Option.map_eq_some_iff.mp ho
      -- When an object was created is part of what an update keeps.
      have hcreated : (f old).created = old.created :=
        Option.some.inj (congrArg Reference.created (hf old))
      rw [hcreated]
      exact h.created d' old hold
    · exact h.created d' o ho

/-- Objects are looked up among the objects. -/
theorem object?_congr (h : w'.objects = w.objects) : w'.object? = w.object? := by
  funext d
  rw [object?, object?, h]

/-- What does not concern objects leaves their numbers allotted. -/
theorem Allotted.others (h : w.Allotted) (hobjects : w'.objects = w.objects)
    (hallocator : w'.allocator = w.allocator) : w'.Allotted := by
  have hobject : w'.object? = w.object? := object?_congr hobjects
  exact ⟨by rw [hobject, hallocator]; exact h.numbers, by rw [hallocator]; exact h.clock,
    by rw [hobject, hallocator]; exact h.created⟩

end World

end Softcode
