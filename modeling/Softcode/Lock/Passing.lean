import Softcode.Lock.Cache
import Softcode.Lock.Normal

namespace Softcode

/-!
# Passing locks

Who passes a lock, and setting and clearing locks.  A lock may ask for another object's lock,
through at most `maxIndirections` objects; a chain that is longer lets nobody pass.
-/

/-- A lock may ask for other locks through at most this many objects. -/
def maxIndirections : Nat := 10

/-- The text of a lock that has not been set. -/
def defaultLock : String := "#TRUE"

/-! ### Conditions -/

/-- Does the unlocker carry the object that the reference names? -/
def World.carries (w : World) (unlocker : Object) (r : Reference) : Bool :=
  (w.contents unlocker.dbref).contains r.number && (w.referent? r).isSome

/-- Does a list of references name the object? -/
def listNames (list : List Char) (o : Object) : Bool :=
  (Text.words list).any fun word => match Reference.read word with
    | .ok r => r.matches o
    | .error _ => false

/-- Does the condition hold?  `ask` tells whether the unlocker passes another object's lock. -/
def Condition.holds {m : Type → Type} [Monad m] (w : World)
    (ask : Reference → LockKind → m Bool) (gated unlocker : Object) : Condition → m Bool
  | always => pure true
  | never => pure false
  | or a b => do
    if ← a.holds w ask gated unlocker then pure true else b.holds w ask gated unlocker
  | and a b => do
    if ← a.holds w ask gated unlocker then b.holds w ask gated unlocker else pure false
  | not a => return !(← a.holds w ask gated unlocker)
  -- A bare key is passed by the object itself and by whoever carries it.
  | bare r => pure (r.matches unlocker || w.carries unlocker r)
  | exact r => pure (r.matches unlocker)
  | carry r => pure (w.carries unlocker r)
  | owner r => pure ((w.referent? r).any (·.owner == unlocker.owner))
  | indirect r lock => ask r lock
  | kind k => pure (unlocker.kind == k)
  | name p => pure (p.accepts unlocker.name.toList)
  | flag v => pure (unlocker.hasFlag v)
  | power v => pure (unlocker.hasPower v)
  | dbrefList attr => pure ((w.attributeText? gated.dbref attr).any (listNames · unlocker))
  | ip p => pure ((w.connectionsOf unlocker.dbref).any fun c => p.accepts c.ip.toList)
  | hostname p => pure ((w.connectionsOf unlocker.dbref).any fun c => p.accepts c.hostname.toList)
  | channel v => pure (w.onChannel unlocker.dbref v)
  | unlockerAttr attr p => pure ((w.attributeText? unlocker.dbref attr).any p.accepts)
  | lockedAttr attr p => pure ((w.attributeText? gated.dbref attr).any p.accepts)

/-- Does the condition hold for a lock that stands alone, so that there are no other locks to
    ask? -/
def Condition.holdsAlone (w : World) (gated unlocker : Object) (c : Condition) : Bool :=
  Id.run (c.holds w (fun _ _ => pure false) gated unlocker)

namespace World

/-! ### Locks in force -/

/-- The lock in force, made ready now.  A text that is no lock lets nobody pass. -/
def freshLock (w : World) (d : Dbref) (kind : LockKind) : ReadyLock :=
  let text := (w.lockText? d kind).getD defaultLock
  match ReadyLock.ofText w text with
  | .ok lock => lock
  | .error _ => .never text

/-- The lock in force, from the cache if it is there. -/
def lockFor (w : World) (d : Dbref) (kind : LockKind) : StateM LockCache ReadyLock := do
  match (← get).get? d kind with
  | some lock => return lock
  | none =>
    let seen := (← get).generation
    modifyGet (·.fill d kind (w.freshLock d kind) seen)

/-- Does the unlocker pass the lock of the object that the reference names?  The number bounds how
    many more objects may be asked. -/
def passesIndirect (w : World) (unlocker : Object) :
    Nat → Reference → LockKind → StateM LockCache Bool
  | 0, _, _ => return false
  | more + 1, r, kind => do
    match w.referent? r with
    | none => return false
    | some target =>
      let lock ← w.lockFor target.dbref kind
      lock.condition.holds w (w.passesIndirect unlocker more) target unlocker

/-- Does the unlocker pass a lock on the object? -/
def passesLock (w : World) (lock : ReadyLock) (gated unlocker : Object) : StateM LockCache Bool :=
  lock.condition.holds w (w.passesIndirect unlocker maxIndirections) gated unlocker

/-- Does the unlocker pass the lock of a kind on the object? -/
def passes (w : World) (kind : LockKind) (gated unlocker : Object) : StateM LockCache Bool := do
  w.passesLock (← w.lockFor gated.dbref kind) gated unlocker

/-- Does the unlocker pass the lock, given the numbers of the objects?  One that does not exist
    neither passes nor is passed. -/
def passesAt (w : World) (kind : LockKind) (gated unlocker : Dbref) : StateM LockCache Bool :=
  match w.object? gated, w.object? unlocker with
  | some g, some u => w.passes kind g u
  | _, _ => return false

/-! ### Setting and clearing -/

/-- The first name among the targets of a lock. -/
def unknownName? (text : String) : Option String :=
  match LockExpr.read text.toList with
  | .ok e => e.targets.findSome? fun
    | .name n => some n
    | .ref _ => none
  | .error _ => none

/-- Remove a lock.  Gives whether there was one. -/
def clearLock (w : World) (cache : LockCache) (d : Dbref) (kind : LockKind) :
    Bool × World × LockCache :=
  ((w.lockText? d kind).isSome, w.removeLock d kind, cache.replace d kind none)

end World

/-- A world and the cache of its locks. -/
structure LockService where
  world : World := {}
  cache : LockCache := {}
deriving Repr, DecidableEq, Inhabited

/-- Set a lock.  Names are looked up from the point of view of the setter, and each has to name an
    object.  The text is stored before the cache gets the lock.  Gives the text that is stored. -/
def LockService.set (d : Dbref) (kind : LockKind) (text : String) (setter : Dbref) :
    ExceptT ScriptError (StateM LockService) String := do
  let w := (← get).world
  let pinned := pinText w (some setter) text
  match World.unknownName? pinned with
  | some n => throw (.invalidLock ("no such object '" ++ n ++ "'"))
  | none =>
    if !isLockFor d pinned.toList then throw (.invalidLock text)
    let lock ← ofExcept (ReadyLock.ofText w pinned)
    modify fun s => { s with world := s.world.storeLock d kind pinned }
    modify fun s => { s with cache := s.cache.replace d kind (some lock) }
    return pinned

end Softcode
