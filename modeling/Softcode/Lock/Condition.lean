import Softcode.Lock.Reader
import Softcode.Pattern.Basic
import Softcode.Text.Quoted
import Softcode.World.Matching

namespace Softcode

/-!
# Lock conditions

Before a lock is tried its keys are checked, its names are looked up and its patterns are made
ready.  What is left is a condition on two objects.
-/

/-- What a lock asks for, with names looked up and patterns made ready. -/
inductive Condition where
  | always
  | never
  | or (a b : Condition)
  | and (a b : Condition)
  | not (a : Condition)
  | bare (r : Reference)
  | exact (r : Reference)
  | carry (r : Reference)
  | owner (r : Reference)
  | indirect (r : Reference) (lock : LockKind)
  | kind (k : Kind)
  | name (m : Matcher)
  | flag (value : String)
  | power (value : String)
  | dbrefList (attr : String)
  | ip (m : Matcher)
  | hostname (m : Matcher)
  | channel (value : String)
  | unlockerAttr (attr : String) (m : Matcher)
  | lockedAttr (attr : String) (m : Matcher)
deriving Repr, DecidableEq

/-- A lock that is ready to be tried, with its text. -/
structure ReadyLock where
  text : String
  condition : Condition
deriving Repr, DecidableEq

/-- A lock that nobody passes. -/
def ReadyLock.never (text : String) : ReadyLock := ⟨text, .never⟩

/-- A description of the lock. -/
def ReadyLock.describe (l : ReadyLock) : String :=
  "CompiledLock \x7b text: " ++ String.ofList (Text.quoted l.text.toList) ++ " \x7d"

/-! ### Checking keys -/

/-- What is wrong with a key, in a lock that is meant for `candidate`. -/
def Key.problem? (candidate : Option Dbref) : Key → Option String
  | kind v => match Kind.read? v with
    | some _ => none
    | none => some ("invalid type '" ++ v ++ "'")
  | indirect t lock =>
    let self := match candidate, t with
      | some d, .ref r => d == r.number
      | _, _ => false
    if self then some "lock refers to itself"
    else lock.bind fun l => match LockKind.read l with
      | .ok _ => none
      | .error e => some e.message
  | _ => none

/-- What is wrong with a lock: the first of the problems of its keys. -/
def LockExpr.problem? (candidate : Option Dbref) (e : LockExpr) : Option String :=
  e.keys.findSome? (·.problem? candidate)

/-- Is the text a lock, and one that can be set on `candidate`? -/
def isLockFor (candidate : Dbref) (text : List Char) : Bool :=
  match LockExpr.read text with
  | .ok e => (e.problem? (some candidate)).isNone
  | .error _ => false

/-! ### Making locks ready -/

/-- A glob made ready. -/
def readyGlob (glob : String) : Except ScriptError Matcher :=
  match (Pattern.mk (.glob .plain) glob.toList false).compile? with
  | some m => .ok m
  | none => .error (.invalidLock "Compiled regex exceeds size limit of 10485760 bytes.")

/-- The object that a target stands for.  Names are looked up from nowhere in particular. -/
def Target.reference? (w : World) : Target → Option Reference
  | ref r => some r
  | name n => (w.locate? n.toList none).map (·.identity)

/-- A condition on the object that a target stands for, if there is one. -/
def Target.condition (w : World) (t : Target) (f : Reference → Condition) : Condition :=
  (t.reference? w).elim .never f

/-- The condition of a key. -/
def Key.condition (w : World) : Key → Except ScriptError Condition
  | always => .ok .always
  | never => .ok .never
  | bare t => .ok (t.condition w .bare)
  | exact t => .ok (t.condition w .exact)
  | carry t => .ok (t.condition w .carry)
  | owner t => .ok (t.condition w .owner)
  | indirect t none => .ok (t.condition w fun r => .indirect r .basic)
  | indirect t (some l) => match LockKind.read l with
    | .ok lock => .ok (t.condition w fun r => .indirect r lock)
    | .error e => .error (.invalidLock e.message)
  | kind v => match Kind.read? v with
    | some k => .ok (.kind k)
    | none => .error (.invalidLock ("invalid type '" ++ v ++ "'"))
  | name p => do return .name (← readyGlob p)
  | flag v => .ok (.flag v)
  | power v => .ok (.power v)
  | dbrefList a => .ok (.dbrefList a)
  | ip p => do return .ip (← readyGlob p)
  | hostname p => do return .hostname (← readyGlob p)
  | channel v => .ok (.channel v)
  | unlockerAttr a p => do return .unlockerAttr a (← readyGlob p)
  | lockedAttr a p => do return .lockedAttr a (← readyGlob p)

/-- The condition of a lock. -/
def LockExpr.condition (w : World) : LockExpr → Except ScriptError Condition
  | or a b => do return .or (← a.condition w) (← b.condition w)
  | and a b => do return .and (← a.condition w) (← b.condition w)
  | not a => do return .not (← a.condition w)
  | group a => a.condition w
  | key k => k.condition w

/-- Make the text of a lock ready, or say what is wrong with it. -/
def ReadyLock.ofText (w : World) (text : String) : Except ScriptError ReadyLock :=
  match LockExpr.read text.toList with
  | .error e => .error (.invalidLock e.message)
  | .ok e => match e.problem? none with
    | some problem => .error (.invalidLock problem)
    | none => do return ⟨text, ← e.condition w⟩

end Softcode
