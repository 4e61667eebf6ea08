import Softcode.Lock.Reader
import Softcode.World.Matching

namespace Softcode

/-!
# Pinning locks

A number is used again when its object is gone.  So that a lock keeps speaking of the same objects,
each of its references is pinned to the time of creation of the object that it names now.
-/

/-- The target pinned to an object, if it stands for one from the point of view of the looker.
    References that are pinned already stay. -/
def Target.pin (w : World) (looker : Option Dbref) (t : Target) : Target :=
  match t with
  | ref r =>
    if r.isBare then (w.object? r.number).elim t fun o => ref o.identity else t
  | name n => (w.locate? n.toList looker).elim t fun o => ref o.identity

/-- The lock with its targets pinned. -/
def LockExpr.pin (w : World) (looker : Option Dbref) (e : LockExpr) : LockExpr :=
  e.mapTargets (·.pin w looker)

/-- The text of the lock with its targets pinned.  What is no lock stays as it is. -/
def pinText (w : World) (looker : Option Dbref) (text : String) : String :=
  match LockExpr.read text.toList with
  | .ok e => String.ofList (e.pin w looker).text
  | .error _ => text

end Softcode
