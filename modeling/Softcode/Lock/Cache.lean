import Softcode.Lock.Condition

namespace Softcode

/-!
# Caches of locks

Locks that have been made ready are kept, each under its object and kind.  The cache counts the
writes to locks: who makes a lock ready notes the count before reading the text of the lock, and the
lock is kept only if there has been no write since.
-/

/-- Locks that are ready to be tried. -/
structure LockCache where
  entries : Table (Dbref × LockKind) ReadyLock := {}
  /-- The number of writes so far.  It is never reset: a counter of 64 bits would come round to a
      number that somebody still holds only after 2 ^ 64 writes, and runs here are shorter. -/
  generation : Nat := 0
deriving Repr, DecidableEq, Inhabited

namespace LockCache

/-- The lock that is kept. -/
def get? (c : LockCache) (d : Dbref) (kind : LockKind) : Option ReadyLock :=
  c.entries.find? (d, kind)

/-- Keep a lock whose text was read after `seen` writes, unless there has been a write since.  Gives
    the lock in force: one that is kept already wins. -/
def fill (c : LockCache) (d : Dbref) (kind : LockKind) (lock : ReadyLock) (seen : Nat) :
    ReadyLock × LockCache :=
  match c.get? d kind with
  | some old => (old, c)
  | none =>
    if c.generation = seen then (lock, { c with entries := c.entries.insert (d, kind) lock })
    else (lock, c)

/-- Keep the lock of a write whose text is stored already, or nothing if the lock was removed. -/
def replace (c : LockCache) (d : Dbref) (kind : LockKind) (lock : Option ReadyLock) : LockCache :=
  { generation := c.generation + 1
    entries := match lock with
      | some lock => c.entries.insert (d, kind) lock
      | none => c.entries.erase (d, kind) }

/-- Forget all locks of an object. -/
def invalidate (c : LockCache) (d : Dbref) : LockCache :=
  { generation := c.generation + 1, entries := c.entries.filter fun k _ => k.1 ≠ d }

end LockCache

end Softcode
