import Softcode.Proofs.Lock.Session

namespace Softcode

/-!
# Checking a lock and making it ready

A lock is checked without a world, before it is set on an object (`isLockFor`).  Later it is made
ready in a world, and each of its keys can fail at that: one because its word is no kind, one
because its word is no lock, one because its glob is too large.  This file says exactly when a lock
can be made ready, and so that what has been checked never fails later.

* `Key.exists_condition_iff`, `LockExpr.exists_condition_iff` — which keys and locks have a
  condition.  It does not depend on the world, although what names stand for does;
* `LockExpr.problem?_some_eq_none_iff` — what the check on an object asks for beyond that.
-/

/-! ### Globs -/

/-- The glob of a key, if it has one. -/
def Key.glob? : Key → Option String
  | name glob | ip glob | hostname glob | unlockerAttr _ glob | lockedAttr _ glob => some glob
  | _ => none

/-- The globs of a lock, from left to right. -/
def LockExpr.globs (e : LockExpr) : List String := e.keys.filterMap Key.glob?

/-- Can the glob be made ready? -/
def GlobReady (glob : String) : Prop := ∃ m, readyGlob glob = .ok m

instance (glob : String) : Decidable (GlobReady glob) :=
  match h : readyGlob glob with
  | .ok m => .isTrue ⟨m, h⟩
  | .error _ => .isFalse fun ⟨_, hm⟩ => by rw [h] at hm; cases hm

/-! ### Which locks can be made ready -/

section

variable {w : World}

/-- A condition made from a glob exists if the glob can be made ready. -/
private theorem exists_bind_readyGlob {glob : String} {f : Matcher → Condition} :
    (∃ c, (do return f (← readyGlob glob) : Except ScriptError Condition) = .ok c)
      ↔ GlobReady glob := by
  constructor
  · rintro ⟨c, hc⟩
    obtain ⟨m, hm, -⟩ := bind_eq_ok.mp hc
    exact ⟨m, hm⟩
  · rintro ⟨m, hm⟩
    exact ⟨f m, bind_eq_ok.mpr ⟨m, hm, rfl⟩⟩

/-- **A key has a condition exactly if nothing is wrong with it and its glob can be made ready.** -/
theorem Key.exists_condition_iff (k : Key) : (∃ c, k.condition w = .ok c) ↔
    k.problem? none = none ∧ ∀ glob ∈ k.glob?, GlobReady glob := by
  -- Only globs, names of kinds and names of locks can be wrong.
  cases k with
  | name p | ip p | hostname p | unlockerAttr _ p | lockedAttr _ p =>
    rw [condition, exists_bind_readyGlob]
    simp [problem?, glob?]
  | kind v =>
    simp only [condition, problem?, glob?]
    cases Kind.read? v <;> simp
  | indirect t lock =>
    cases lock with
    | none => simp [condition, problem?, glob?]
    | some l =>
      cases hread : LockKind.read l <;> simp [condition, problem?, glob?, hread]
  | _ => simp [condition, problem?, glob?]

/-- A lock has a condition exactly if all its keys have. -/
private theorem LockExpr.exists_condition_iff_keys (e : LockExpr) :
    (∃ c, e.condition w = .ok c) ↔ ∀ k ∈ e.keys, ∃ c, k.condition w = .ok c := by
  -- The operands are made ready one after the other, and each may fail.
  induction e with
  | or a b iha ihb | and a b iha ihb =>
    rw [keys, List.forall_mem_append, ← iha, ← ihb, condition]
    constructor
    · rintro ⟨c, hc⟩
      obtain ⟨ca, ha, hc⟩ := bind_eq_ok.mp hc
      obtain ⟨cb, hb, -⟩ := bind_eq_ok.mp hc
      exact ⟨⟨ca, ha⟩, cb, hb⟩
    · rintro ⟨⟨ca, ha⟩, cb, hb⟩
      exact ⟨_, bind_eq_ok.mpr ⟨ca, ha, bind_eq_ok.mpr ⟨cb, hb, rfl⟩⟩⟩
  | not a iha =>
    rw [keys, ← iha, condition]
    constructor
    · rintro ⟨c, hc⟩
      obtain ⟨ca, ha, -⟩ := bind_eq_ok.mp hc
      exact ⟨ca, ha⟩
    · rintro ⟨ca, ha⟩
      exact ⟨_, bind_eq_ok.mpr ⟨ca, ha, rfl⟩⟩
  | group a iha => exact iha
  | key k => simp [keys, condition]

/-- **A lock can be made ready exactly if nothing is wrong with its keys and all its globs can be,**
    in whatever world. -/
theorem LockExpr.exists_condition_iff (e : LockExpr) : (∃ c, e.condition w = .ok c) ↔
    e.problem? none = none ∧ ∀ glob ∈ e.globs, GlobReady glob := by
  -- Both sides speak of all keys, one of them of what is wrong and of globs apart.
  rw [exists_condition_iff_keys, problem?, List.findSome?_eq_none_iff]
  simp only [Key.exists_condition_iff, globs, List.mem_filterMap]
  constructor
  · intro h
    refine ⟨fun k hk => (h k hk).1, ?_⟩
    rintro glob ⟨k, hk, hglob⟩
    exact (h k hk).2 glob hglob
  · rintro ⟨hproblem, hglobs⟩ k hk
    exact ⟨hproblem k hk, fun glob hglob => hglobs glob ⟨k, hk, hglob⟩⟩

/-- What it takes to make a text ready, and what that gives. -/
theorem ReadyLock.ofText_eq_ok_iff {text : String} {lock : ReadyLock} : ofText w text = .ok lock ↔
    ∃ e c, LockExpr.read text.toList = .ok e ∧ e.problem? none = none ∧ e.condition w = .ok c ∧
      lock = ⟨text, c⟩ := by
  unfold ofText
  constructor
  · intro h
    split at h
    · cases h
    rename_i e hread
    split at h
    · cases h
    rename_i hproblem
    obtain ⟨c, hc, h⟩ := bind_eq_ok.mp h
    cases h
    exact ⟨e, c, hread, hproblem, hc, rfl⟩
  · rintro ⟨e, c, hread, hproblem, hc, rfl⟩
    simp only [hread, hproblem, hc]
    rfl

/-- When a text can be made ready. -/
private theorem ReadyLock.exists_ofText_iff (text : String) : (∃ lock, ofText w text = .ok lock) ↔
    ∃ e, LockExpr.read text.toList = .ok e ∧ e.problem? none = none ∧
      ∀ glob ∈ e.globs, GlobReady glob := by
  constructor
  · rintro ⟨lock, hlock⟩
    obtain ⟨e, c, hread, -, hc, -⟩ := ofText_eq_ok_iff.mp hlock
    exact ⟨e, hread, e.exists_condition_iff.mp ⟨c, hc⟩⟩
  · rintro ⟨e, hread, hready⟩
    obtain ⟨c, hc⟩ := (e.exists_condition_iff (w := w)).mpr hready
    exact ⟨_, ofText_eq_ok_iff.mpr ⟨e, c, hread, hready.1, hc, rfl⟩⟩

end

/-! ### What is checked -/

/-- **The check on an object asks for one thing more:** that the lock does not ask for a lock of
    that object, by its number. -/
theorem LockExpr.problem?_some_eq_none_iff (e : LockExpr) (candidate : Dbref) :
    e.problem? (some candidate) = none ↔ e.problem? none = none ∧
      ∀ r lock, .indirect (.ref r) lock ∈ e.keys → r.number ≠ candidate := by
  constructor
  · intro h
    refine ⟨problem?_none_of_some h, fun r lock hk => ?_⟩
    rw [problem?, List.findSome?_eq_none_iff] at h
    exact (Key.problem?_indirect.mp (h _ hk)).1
  · rintro ⟨hnone, hself⟩
    rw [problem?, List.findSome?_eq_none_iff] at hnone ⊢
    intro k hk
    have hkey := hnone k hk
    -- The candidate matters only to a key that asks for the lock of an object given by its number.
    cases k with
    | indirect t lock =>
      cases t with
      | ref r => exact Key.problem?_indirect.mpr ⟨hself r lock hk, hkey⟩
      | name n => exact hkey
    | _ => exact hkey

/-- When a text passes the check on an object. -/
private theorem isLockFor_iff {candidate : Dbref} {text : List Char} : isLockFor candidate text ↔
    ∃ e, LockExpr.read text = .ok e ∧ e.problem? (some candidate) = none := by
  unfold isLockFor
  cases LockExpr.read text <;> simp

/-- **A text passes the check on an object exactly if it can be made ready and does not ask for a
    lock of that object.**  The globs in it have to be such that they can be made ready.  So what
    has passed the check can be made ready in every world, whatever its names stand for there. -/
theorem isLockFor_iff_ready (candidate : Dbref) (text : String)
    (hglobs : ∀ e, LockExpr.read text.toList = .ok e → ∀ glob ∈ e.globs, GlobReady glob)
    (w : World) :
    isLockFor candidate text.toList ↔
      (∃ lock, ReadyLock.ofText w text = .ok lock) ∧
        ∀ e, LockExpr.read text.toList = .ok e →
          ∀ r lock, .indirect (.ref r) lock ∈ e.keys → r.number ≠ candidate := by
  rw [isLockFor_iff, ReadyLock.exists_ofText_iff]
  constructor
  · rintro ⟨e, hread, hproblem⟩
    obtain ⟨hnone, hself⟩ := (e.problem?_some_eq_none_iff candidate).mp hproblem
    refine ⟨⟨e, hread, hnone, hglobs e hread⟩, fun e' hread' => ?_⟩
    obtain rfl := Except.ok.inj (hread.symm.trans hread')
    exact hself
  · rintro ⟨⟨e, hread, hnone, -⟩, hself⟩
    exact ⟨e, hread, (e.problem?_some_eq_none_iff candidate).mpr ⟨hnone, hself e hread⟩⟩

/-- A lock with a name that stands for nothing, a glob, and a lock of another object.  It can be set
    on any object but that one. -/
theorem mixed_isLockFor_iff_ready :
    let text := "!=nobody & (name^b*k | @#1:7/Use)"
    (∀ e, LockExpr.read text.toList = .ok e → ∀ glob ∈ e.globs, GlobReady glob) ∧
      isLockFor 0 text.toList ∧ (∀ w, ∃ lock, ReadyLock.ofText w text = .ok lock) ∧
      ¬ isLockFor 1 text.toList := by
  intro text
  have hread : LockExpr.read text.toList = .ok (.and (.not (.key (.exact (.name "nobody"))))
      (.group (.or (.key (.name "b*k")) (.key (.indirect (.ref ⟨1, some 7⟩) (some "Use")))))) := by
    decide +kernel
  have hglobs : ∀ e, LockExpr.read text.toList = .ok e → ∀ glob ∈ e.globs, GlobReady glob := by
    intro e he
    obtain rfl := Except.ok.inj (hread.symm.trans he)
    decide +kernel
  have hzero : isLockFor 0 text.toList := by decide +kernel
  refine ⟨hglobs, hzero, fun w => ((isLockFor_iff_ready 0 text hglobs w).mp hzero).1,
    fun hone => ?_⟩
  -- The lock asks for one of object 1, and so it is no lock for that object.
  have hself := ((isLockFor_iff_ready 1 text hglobs {}).mp hone).2 _ hread ⟨1, some 7⟩ (some "Use")
  exact hself (by decide) rfl

end Softcode
