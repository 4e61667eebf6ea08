import Softcode.Object.Reference

namespace Softcode

/-!
# Lock expressions

A lock is a boolean expression over keys.  A key says something about the object that wants to pass,
the unlocker, or about the object that is locked.  The tree keeps the parentheses of the text, so
that printing a tree gives back its shape.
-/

/-- The object that a key speaks of. -/
inductive Target where
  | ref (r : Reference)
  /-- A name, to be looked up when the lock is set. -/
  | name (name : String)
deriving Repr, DecidableEq

/-- What a lock asks for. -/
inductive Key where
  | always
  | never
  /-- The unlocker is the object or carries it. -/
  | bare (target : Target)
  /-- The unlocker is the object. -/
  | exact (target : Target)
  /-- The unlocker carries the object. -/
  | carry (target : Target)
  /-- The unlocker has the same owner as the object. -/
  | owner (target : Target)
  /-- The object's own lock lets the unlocker pass. -/
  | indirect (target : Target) (lock : Option String)
  | kind (value : String)
  | name (pattern : String)
  | flag (value : String)
  | power (value : String)
  /-- The unlocker is in a list that is an attribute of the locked object. -/
  | dbrefList (attr : String)
  | ip (pattern : String)
  | hostname (pattern : String)
  | channel (value : String)
  /-- An attribute of the unlocker matches. -/
  | unlockerAttr (attr pattern : String)
  /-- An attribute of the locked object matches. -/
  | lockedAttr (attr pattern : String)
deriving Repr, DecidableEq

/-- A lock. -/
inductive LockExpr where
  | or (a b : LockExpr)
  | and (a b : LockExpr)
  | not (a : LockExpr)
  /-- An expression in parentheses. -/
  | group (a : LockExpr)
  | key (k : Key)
deriving Repr, DecidableEq

/-! ### Printing -/

/-- The target as it is written. -/
def Target.text : Target → List Char
  | ref r => r.text
  | name n => n.toList

/-- A word and a text with a caret between them. -/
def Key.caretText (word value : String) : List Char := word.toList ++ '^' :: value.toList

/-- The key as it is written. -/
def Key.text : Key → List Char
  | always => "#TRUE".toList
  | never => "#FALSE".toList
  | bare t => t.text
  | exact t => '=' :: t.text
  | carry t => '+' :: t.text
  | owner t => '$' :: t.text
  | indirect t (some lock) => '@' :: t.text ++ '/' :: lock.toList
  | indirect t none => '@' :: t.text
  | kind v => caretText "type" v
  | name v => caretText "name" v
  | flag v => caretText "flag" v
  | power v => caretText "power" v
  | dbrefList v => caretText "dbreflist" v
  | ip v => caretText "ip" v
  | hostname v => caretText "hostname" v
  | channel v => caretText "channel" v
  | unlockerAttr n p => n.toList ++ ':' :: p.toList
  | lockedAttr n p => n.toList ++ '/' :: p.toList

/-- The lock as it is written. -/
def LockExpr.text : LockExpr → List Char
  | or a b => a.text ++ " | ".toList ++ b.text
  | and a b => a.text ++ " & ".toList ++ b.text
  | not a => '!' :: a.text
  | group a => '(' :: a.text ++ [')']
  | key k => k.text

/-! ### Targets -/

/-- The target of a key, if it speaks of an object. -/
def Key.target? : Key → Option Target
  | bare t | exact t | carry t | owner t | indirect t _ => some t
  | _ => none

/-- The key with its target, if it has one, replaced. -/
def Key.mapTarget (f : Target → Target) : Key → Key
  | bare t => bare (f t)
  | exact t => exact (f t)
  | carry t => carry (f t)
  | owner t => owner (f t)
  | indirect t lock => indirect (f t) lock
  | k => k

namespace LockExpr

/-- The keys, from left to right. -/
def keys : LockExpr → List Key
  | or a b | and a b => a.keys ++ b.keys
  | not a | group a => a.keys
  | key k => [k]

/-- The targets, from left to right. -/
def targets (e : LockExpr) : List Target := e.keys.filterMap Key.target?

/-- The lock with each target replaced. -/
def mapTargets (f : Target → Target) : LockExpr → LockExpr
  | or a b => or (a.mapTargets f) (b.mapTargets f)
  | and a b => and (a.mapTargets f) (b.mapTargets f)
  | not a => not (a.mapTargets f)
  | group a => group (a.mapTargets f)
  | key k => key (k.mapTarget f)

end LockExpr

end Softcode
