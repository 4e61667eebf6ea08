import Softcode.Lock.Passing
import Softcode.Proofs.Text.Runs

namespace Softcode

/-!
# Locks seen through a cache

A cache shows for each object and kind one lock: the one that it keeps, or else the one made ready
now.  Trying locks fills the cache, but what the cache shows stays the same, and the answer depends
on nothing else:

* `World.lockFor_answers` — looking up a lock gives the one that is shown;
* `World.passesLock_answers` — trying a lock gives what `World.passesLockIn` says, which has no
  cache and asks a fixed `view` for the locks of other objects.
-/

/-- Locks by their objects and kinds. -/
abbrev LockView := Dbref → LockKind → ReadyLock

/-- The locks that a cache shows. -/
def LockCache.view (c : LockCache) (w : World) : LockView :=
  fun d kind => (c.get? d kind).getD (w.freshLock d kind)

/-- Does the computation give `a` whenever the cache shows `view`, and does the cache show it
    afterwards too? -/
def Answers {α : Type} (w : World) (view : LockView) (x : StateM LockCache α) (a : α) : Prop :=
  ∀ c : LockCache, c.view w = view → (x.run c).1 = a ∧ (x.run c).2.view w = view

namespace Answers

variable {α β : Type} {w : World} {view : LockView}

theorem pure (a : α) : Answers w view (Pure.pure a) a := fun _ hc => ⟨rfl, hc⟩

/-- A question whose answer leads to the next one. -/
theorem bind {x : StateM LockCache α} {a : α} {f : α → StateM LockCache β} {b : β}
    (hx : Answers w view x a) (hf : Answers w view (f a) b) : Answers w view (x >>= f) b := by
  intro c hc
  obtain ⟨hvalue, hview⟩ := hx c hc
  have hrun : (x >>= f).run c = (f (x.run c).1).run (x.run c).2 := rfl
  rw [hrun, hvalue]
  exact hf _ hview

/-- Two computations with the same answer agree, also if one runs in the cache that the other
    leaves. -/
theorem run_after {x y : StateM LockCache α} {a : α} (hx : Answers w view x a)
    (hy : Answers w view y a) {c : LockCache} (hc : c.view w = view) :
    (y.run (x.run c).2).1 = (x.run c).1 :=
  (hy _ (hx c hc).2).1.trans (hx c hc).1.symm

end Answers

/-! ### Conditions -/

/-- Does the condition hold, if `ask` tells who passes the locks of other objects? -/
def Condition.holdsWith (w : World) (ask : Reference → LockKind → Bool) (gated unlocker : Object)
    (c : Condition) : Bool :=
  Id.run (c.holds w (fun r lock => Pure.pure (ask r lock)) gated unlocker)

namespace Condition

section

variable (w : World) (ask : Reference → LockKind → Bool) (gated unlocker : Object) (a b : Condition)

@[simp] theorem holdsWith_or : (or a b).holdsWith w ask gated unlocker
    = (a.holdsWith w ask gated unlocker || b.holdsWith w ask gated unlocker) := by
  simp only [holdsWith, holds, Id.run_bind]
  split <;> simp [*]

@[simp] theorem holdsWith_and : (and a b).holdsWith w ask gated unlocker
    = (a.holdsWith w ask gated unlocker && b.holdsWith w ask gated unlocker) := by
  simp only [holdsWith, holds, Id.run_bind]
  split <;> simp [*]

@[simp] theorem holdsWith_not :
    (not a).holdsWith w ask gated unlocker = !a.holdsWith w ask gated unlocker := rfl

end

/-- A condition asks for other locks until its answer is known, in the order in which it is written.
    -/
private theorem holds_answers {w : World} {view : LockView}
    {ask : Reference → LockKind → StateM LockCache Bool} {answer : Reference → LockKind → Bool}
    (hask : ∀ r lock, Answers w view (ask r lock) (answer r lock)) (gated unlocker : Object)
    (c : Condition) :
    Answers w view (c.holds w ask gated unlocker) (c.holdsWith w answer gated unlocker) := by
  induction c with
  | or a b iha ihb =>
    refine iha.bind ?_
    rw [holdsWith_or]
    -- The second part is only asked if the first does not decide.
    cases a.holdsWith w answer gated unlocker with
    | true => exact .pure true
    | false => exact ihb
  | and a b iha ihb =>
    refine iha.bind ?_
    rw [holdsWith_and]
    cases a.holdsWith w answer gated unlocker with
    | true => exact ihb
    | false => exact .pure false
  | not a iha => exact iha.bind (.pure _)
  | indirect r lock => exact hask r lock
  | _ => exact .pure _

end Condition

namespace World

variable (w : World)

/-- Looking up a lock offers it to the cache, unless it is there. -/
theorem lockFor_run (d : Dbref) (kind : LockKind) (c : LockCache) :
    (w.lockFor d kind).run c = (c.get? d kind).elim
      (c.fill d kind (w.freshLock d kind) c.generation) fun lock => (lock, c) := by
  simp only [lockFor, StateT.run_bind, StateT.run_get, pure_bind]
  cases c.get? d kind <;> rfl

/-- A lock that has been looked up is in the cache afterwards, where it was shown before. -/
theorem lockFor_answers (view : LockView) (d : Dbref) (kind : LockKind) :
    Answers w view (w.lockFor d kind) (view d kind) := by
  rintro c rfl
  rw [lockFor_run]
  cases hget : c.get? d kind with
  | some lock => exact ⟨by simp [LockCache.view, hget], rfl⟩
  | none =>
    simp only [Option.elim_none, LockCache.fill, hget, if_true]
    refine ⟨by simp [LockCache.view, hget], ?_⟩
    funext d' kind'
    -- What has been put into the cache is what it showed before.
    simp only [LockCache.view, LockCache.get?, Table.find?_insert]
    split
    · rename_i heq
      obtain ⟨rfl, rfl⟩ := Prod.mk.inj heq
      have hnone : c.entries.find? (d', kind') = none := hget
      rw [hnone]
      rfl
    · rfl

/-- Does the unlocker pass the lock of the object that the reference names, if locks are as `view`
    says?  The number bounds how many more objects may be asked. -/
def passesIndirectIn (view : LockView) (unlocker : Object) : Nat → Reference → LockKind → Bool
  | 0, _, _ => false
  | more + 1, r, kind => match w.referent? r with
    | none => false
    | some target => (view target.dbref kind).condition.holdsWith w
        (passesIndirectIn view unlocker more) target unlocker

/-- Does the unlocker pass a lock on the object, if other locks are as `view` says? -/
def passesLockIn (view : LockView) (lock : ReadyLock) (gated unlocker : Object) : Bool :=
  lock.condition.holdsWith w (w.passesIndirectIn view unlocker maxIndirections) gated unlocker

/-- The locks of other objects are looked up, and then tried. -/
private theorem passesIndirect_answers (view : LockView) (unlocker : Object) (more : Nat)
    (r : Reference) (kind : LockKind) :
    Answers w view (w.passesIndirect unlocker more r kind)
      (w.passesIndirectIn view unlocker more r kind) := by
  -- One object less may be asked after this one.
  induction more generalizing r kind with
  | zero => exact .pure false
  | succ more ih =>
    rw [passesIndirect, passesIndirectIn]
    cases w.referent? r with
    | none => exact .pure false
    | some target =>
      exact (w.lockFor_answers view target.dbref kind).bind
        (Condition.holds_answers ih target unlocker _)

/-- **Trying a lock does not depend on what is cached,** only on what the cache shows. -/
theorem passesLock_answers (view : LockView) (lock : ReadyLock) (gated unlocker : Object) :
    Answers w view (w.passesLock lock gated unlocker)
      (w.passesLockIn view lock gated unlocker) :=
  Condition.holds_answers (w.passesIndirect_answers view unlocker maxIndirections) gated unlocker _

/-- Trying the lock of a kind on an object tries the lock that is shown. -/
theorem passes_answers (view : LockView) (kind : LockKind) (gated unlocker : Object) :
    Answers w view (w.passes kind gated unlocker)
      (w.passesLockIn view (view gated.dbref kind) gated unlocker) :=
  (w.lockFor_answers view gated.dbref kind).bind (w.passesLock_answers view _ gated unlocker)

end World

end Softcode
