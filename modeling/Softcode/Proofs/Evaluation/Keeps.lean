import Softcode.Proofs.Evaluation.Follows

namespace Softcode

/-!
# What computations keep

A computation `Keeps` an invariant if the invariant holds wherever the computation ends, early or
not, and what it gives has a property.  The relation is closed under sequencing, choice and loops.
-/

variable {σ α β : Type} {inv : σ → Prop} {P : α → Prop} {Q : β → Prop}

/-- From every state of the invariant, does the computation end in one, and does it give only values
    with the property? -/
def Keeps (inv : σ → Prop) (x : EarlyM σ α) (P : α → Prop := fun _ => True) : Prop :=
  ∀ s, inv s → inv (x.run.run s).2 ∧ ∀ a, (x.run.run s).1 = .ok a → P a

namespace Keeps

/-- A value that has the property. -/
protected theorem pure {a : α} (h : P a) : Keeps inv (pure a) P :=
  fun _ hs => ⟨hs, fun _ hb => Except.ok.inj hb ▸ h⟩

/-- To end early gives no value. -/
protected theorem throw (e : Abort) : Keeps inv (throw e : EarlyM σ α) P :=
  fun _ hs => ⟨hs, fun _ h => by cases h⟩

/-- A sequence, whose second part may rely on what the first gives. -/
protected theorem bind {x : EarlyM σ α} {f : α → EarlyM σ β} (hx : Keeps inv x P)
    (hf : ∀ a, P a → Keeps inv (f a) Q) : Keeps inv (x >>= f) Q := by
  intro s hs
  obtain ⟨hs', hvalue⟩ := hx s hs
  rw [EarlyM.run_bind]
  generalize x.run.run s = r at hs' hvalue
  -- An evaluation that has ended early is not continued, and the state is kept.
  obtain ⟨e | a, s'⟩ := r
  · exact ⟨hs', fun _ h => by cases h⟩
  · exact hf a (hvalue a rfl) s' hs'

/-- What follows a look at the state may rely on the invariant. -/
theorem get_bind {f : σ → EarlyM σ β} (hf : ∀ s, inv s → Keeps inv (f s) Q) :
    Keeps inv (get >>= f) Q := fun s hs => hf s hs s hs

/-- A change that keeps the invariant. -/
theorem modify {f : σ → σ} (hf : ∀ s, inv s → inv (f s)) :
    Keeps inv (modify f : EarlyM σ PUnit) := fun s hs => ⟨hf s hs, fun _ _ => trivial⟩

/-- A change that keeps the invariant and gives a value with the property. -/
theorem modifyGet {f : σ → α × σ} (hf : ∀ s, inv s → inv (f s).2 ∧ P (f s).1) :
    Keeps inv (modifyGet f : EarlyM σ α) P :=
  fun s hs => ⟨(hf s hs).1, fun _ ha => Except.ok.inj ha ▸ (hf s hs).2⟩

/-- A list is gone through, each element by itself. -/
theorem forM {f : α → EarlyM σ PUnit} {as : List α} (h : ∀ a ∈ as, Keeps inv (f a)) :
    Keeps inv (as.forM f) := by
  induction as with
  | nil => exact .pure trivial
  | cons a as ih =>
    obtain ⟨ha, has⟩ := List.forall_mem_cons.mp h
    exact ha.bind fun _ _ => ih has

/-- The same with a value that is passed along. -/
theorem foldlM {f : β → α → EarlyM σ β} {as : List α} (h : ∀ b, ∀ a ∈ as, Keeps inv (f b a))
    (b : β) : Keeps inv (as.foldlM f b) := by
  induction as generalizing b with
  | nil => exact .pure trivial
  | cons a as ih =>
    rw [List.foldlM_cons]
    refine (h b a List.mem_cons_self).bind fun b _ => ih (fun b a ha => ?_) b
    exact h b a (List.mem_cons_of_mem _ ha)

/-- The same with a value for each element. -/
theorem mapM_of_mem {f : α → EarlyM σ β} {as : List α} (h : ∀ a ∈ as, Keeps inv (f a)) :
    Keeps inv (as.mapM f) := by
  induction as with
  | nil => exact .pure trivial
  | cons a as ih =>
    obtain ⟨ha, has⟩ := List.forall_mem_cons.mp h
    rw [List.mapM_cons]
    exact ha.bind fun _ _ => (ih has).bind fun _ _ => .pure trivial

theorem mapM {f : α → EarlyM σ β} (h : ∀ a, Keeps inv (f a)) (as : List α) :
    Keeps inv (as.mapM f) := mapM_of_mem fun a _ => h a

theorem imp {P' : α → Prop} {x : EarlyM σ α} (hx : Keeps inv x P) (h : ∀ a, P a → P' a) :
    Keeps inv x P' :=
  fun s hs => ⟨(hx s hs).1, fun a ha => h a ((hx s hs).2 a ha)⟩

/-- A property of all values that are given, whatever the state. -/
theorem and_gives {x : EarlyM σ α} (hx : Keeps inv x) (hP : EarlyM.Gives x P) : Keeps inv x P :=
  fun s hs => ⟨(hx s hs).1, fun a ha => hP s a _ (Prod.ext ha rfl)⟩

end Keeps

end Softcode
