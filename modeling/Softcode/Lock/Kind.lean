import Softcode.Error
import Softcode.Text.Case

namespace Softcode

/-!
# Kinds of locks

An object has one lock for each way of getting at it.
-/

/-- The way of getting at an object that a lock guards. -/
inductive LockKind where
  | basic | enter | use | command | listen | page | speech | zone | teleport
deriving Repr, DecidableEq, Inhabited

namespace LockKind

/-- The name of the kind. -/
def text : LockKind → String
  | basic => "Basic"
  | enter => "Enter"
  | use => "Use"
  | command => "Command"
  | listen => "Listen"
  | page => "Page"
  | speech => "Speech"
  | zone => "Zone"
  | teleport => "Teleport"

/-- The kind with a name, in any case; two of them have a second name. -/
def read? (s : String) : Option LockKind :=
  match lowerName s with
  | "basic" | "default" => some basic
  | "enter" => some enter
  | "use" => some use
  | "command" => some command
  | "listen" => some listen
  | "page" => some page
  | "speech" => some speech
  | "zone" => some zone
  | "teleport" | "tport" => some teleport
  | _ => none

/-- The kind with a name, or what is wrong. -/
def read (s : String) : Except DataError LockKind :=
  match read? s with
  | some k => .ok k
  | none => .error (.invalid ("unknown lock type: " ++ s))

end LockKind

end Softcode
