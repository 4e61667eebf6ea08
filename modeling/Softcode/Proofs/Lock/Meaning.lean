import Softcode.Proofs.Lock.CacheView
import Softcode.Proofs.Results

namespace Softcode

/-!
# What locks mean

The meaning of a lock is defined on the tree that its text is read as, with no condition made ready
and no cache.  A key that speaks of no object, of no kind or of no lock, or has a pattern that
cannot be made ready, lets nobody pass.

* `LockExpr.holdsWith_condition` — the condition of a lock holds exactly for those who pass by its
  meaning;
* `World.admits` — the lock of an object read from its stored text, where the lock of another object
  that it asks for is read from that object's stored text in turn, through at most `maxIndirections`
  objects.
-/

/-- Does the text match the glob? -/
def globAccepts (glob : String) (text : List Char) : Bool :=
  (readyGlob glob).toOption.any (·.accepts text)

/-- Does the key let the unlocker pass?  `ask` tells who passes the locks of other objects. -/
def Key.meaning (w : World) (ask : Reference → LockKind → Bool) (gated unlocker : Object) :
    Key → Bool
  | always => true
  | never => false
  | bare t => (t.reference? w).any fun r => r.matches unlocker || w.carries unlocker r
  | exact t => (t.reference? w).any fun r => r.matches unlocker
  | carry t => (t.reference? w).any fun r => w.carries unlocker r
  | owner t => (t.reference? w).any fun r => (w.referent? r).any (·.owner == unlocker.owner)
  | indirect t none => (t.reference? w).any fun r => ask r .basic
  | indirect t (some l) =>
    (t.reference? w).any fun r => (LockKind.read l).toOption.any fun lock => ask r lock
  | kind v => (Kind.read? v).any fun k => unlocker.kind == k
  | name p => globAccepts p unlocker.name.toList
  | flag v => unlocker.hasFlag v
  | power v => unlocker.hasPower v
  | dbrefList attr => (w.attributeText? gated.dbref attr).any (listNames · unlocker)
  | ip p => (w.connectionsOf unlocker.dbref).any fun c => globAccepts p c.ip.toList
  | hostname p => (w.connectionsOf unlocker.dbref).any fun c => globAccepts p c.hostname.toList
  | channel v => w.onChannel unlocker.dbref v
  | unlockerAttr attr p => (w.attributeText? unlocker.dbref attr).any (globAccepts p)
  | lockedAttr attr p => (w.attributeText? gated.dbref attr).any (globAccepts p)

/-- Does the lock let the unlocker pass? -/
def LockExpr.meaning (w : World) (ask : Reference → LockKind → Bool) (gated unlocker : Object) :
    LockExpr → Bool
  | or a b => a.meaning w ask gated unlocker || b.meaning w ask gated unlocker
  | and a b => a.meaning w ask gated unlocker && b.meaning w ask gated unlocker
  | not a => !a.meaning w ask gated unlocker
  | group a => a.meaning w ask gated unlocker
  | key k => k.meaning w ask gated unlocker

/-- Does the lock of a kind on an object let the unlocker pass?  Its text is read as it is stored
    now, and so are those of the objects that it asks, of which `depth` have been asked before. -/
def World.admits (w : World) (unlocker : Object) (depth : Nat) (gated : Object) (kind : LockKind) :
    Bool :=
  match LockExpr.read ((w.lockText? gated.dbref kind).getD defaultLock).toList with
  | .error _ => false
  | .ok e => e.meaning w (fun r lock =>
      if _ : depth < maxIndirections then
        match w.referent? r with
        | none => false
        | some target => w.admits unlocker (depth + 1) target lock
      else false) gated unlocker
termination_by maxIndirections - depth

/-! ### Conditions mean what locks mean -/

section

variable {w : World} {ask : Reference → LockKind → Bool} {gated unlocker : Object}

/-- A condition on what a target stands for holds if there is such an object and it holds for that.
    -/
theorem Target.holdsWith_condition (t : Target) (f : Reference → Condition) :
    (t.condition w f).holdsWith w ask gated unlocker
      = (t.reference? w).any fun r => (f r).holdsWith w ask gated unlocker := by
  rw [Target.condition]
  cases t.reference? w with
  | none => rfl
  | some r => rfl

/-- A pattern that is ready accepts what its glob accepts. -/
private theorem globAccepts_eq {glob : String} {m : Matcher} (h : readyGlob glob = .ok m) :
    globAccepts glob = m.accepts := by
  funext text
  simp [globAccepts, h, Except.toOption]

/-- The condition of a key holds exactly for those whom the key lets pass. -/
theorem Key.holdsWith_condition {k : Key} {c : Condition} (h : k.condition w = .ok c) :
    c.holdsWith w ask gated unlocker = k.meaning w ask gated unlocker := by
  cases k with
  | bare t =>
    cases h
    exact Target.holdsWith_condition t _
  | exact t =>
    cases h
    exact Target.holdsWith_condition t _
  | carry t =>
    cases h
    exact Target.holdsWith_condition t _
  | owner t =>
    cases h
    exact Target.holdsWith_condition t _
  | indirect t lock =>
    cases lock with
    | none =>
      cases h
      exact Target.holdsWith_condition t _
    | some l =>
      simp only [condition] at h
      split at h
      · rename_i kind hkind
        cases h
        rw [Target.holdsWith_condition, meaning, hkind]
        rfl
      · exact absurd h (by simp)
  | kind v =>
    simp only [condition] at h
    split at h
    · rename_i k hk
      cases h
      rw [meaning, hk]
      rfl
    · exact absurd h (by simp)
  -- These need a pattern that can be made ready.
  | name p | ip p | hostname p | unlockerAttr _ p | lockedAttr _ p =>
    obtain ⟨m, hm, h⟩ := bind_eq_ok.mp h
    cases h
    simp only [meaning, globAccepts_eq hm]
    rfl
  | always | never | flag | power | dbrefList | channel =>
    cases h
    rfl

/-- **The condition of a lock holds exactly for those whom the lock lets pass.** -/
theorem LockExpr.holdsWith_condition {e : LockExpr} {c : Condition} (h : e.condition w = .ok c) :
    c.holdsWith w ask gated unlocker = e.meaning w ask gated unlocker := by
  -- The expression is made ready from its operands.
  induction e generalizing c with
  | or a b iha ihb =>
    obtain ⟨ca, ha, h⟩ := bind_eq_ok.mp h
    obtain ⟨cb, hb, h⟩ := bind_eq_ok.mp h
    cases h
    rw [Condition.holdsWith_or, iha ha, ihb hb, meaning]
  | and a b iha ihb =>
    obtain ⟨ca, ha, h⟩ := bind_eq_ok.mp h
    obtain ⟨cb, hb, h⟩ := bind_eq_ok.mp h
    cases h
    rw [Condition.holdsWith_and, iha ha, ihb hb, meaning]
  | not a iha =>
    obtain ⟨ca, ha, h⟩ := bind_eq_ok.mp h
    cases h
    rw [Condition.holdsWith_not, iha ha, meaning]
  | group a iha => exact iha h
  | key k => exact Key.holdsWith_condition h

end

end Softcode
