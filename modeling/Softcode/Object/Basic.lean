import Softcode.Object.Reference
import Softcode.Text.Case

namespace Softcode

/-!
# Objects

The things that make up a world: players, rooms, exits and all other things.
-/

/-- What an object is. -/
inductive Kind where
  | player | thing | exit | room
deriving Repr, DecidableEq, Inhabited

namespace Kind

/-- The name of the kind. -/
def text : Kind → String
  | player => "PLAYER"
  | thing => "THING"
  | exit => "EXIT"
  | room => "ROOM"

/-- The kind with a name, in any case. -/
def read? (s : String) : Option Kind :=
  [player, thing, exit, room].find? fun k => k.text == upperName s

/-- The kind with a name, or what is wrong. -/
def read (s : String) : Except DataError Kind :=
  match read? s with
  | some k => .ok k
  | none => .error (.invalid ("unknown object type: " ++ s))

end Kind

/-- A set of names, kept in order and without repetition. -/
def nameSet (names : List String) : List String :=
  (names.mergeSort (fun a b => !(b < a))).foldr
    (fun n ns => if ns.head? = some n then ns else n :: ns) []

/-- An object of the world. -/
structure Object where
  dbref : Dbref
  /-- The time of creation, on a clock that never stands still. -/
  created : Int
  kind : Kind
  name : String
  owner : Dbref
  location : Option Dbref := none
  parent : Option Dbref := none
  zone : Option Dbref := none
  /-- The names of its flags, in order. -/
  flags : List String := []
  /-- The names of its powers, in order. -/
  powers : List String := []
deriving Repr, DecidableEq

namespace Object

/-- A new object, which owns itself. -/
def new (dbref : Dbref) (created : Int) (kind : Kind) (name : String) : Object :=
  { dbref, created, kind, name, owner := dbref }

/-- The reference that names this object and no other. -/
def identity (o : Object) : Reference := { number := o.dbref, created := some o.created }

/-- Does the object have the flag?  Flags are stored in upper case. -/
def hasFlag (o : Object) (flag : String) : Bool := o.flags.contains (upperName flag)

/-- Does the object have the power?  Powers are stored in upper case. -/
def hasPower (o : Object) (power : String) : Bool := o.powers.contains (upperName power)

/-- May the object do anything? -/
def isWizard (o : Object) : Bool := o.hasFlag "WIZARD"

/-- Is this the name of the object, up to case? -/
def isNamed (o : Object) (name : List Char) : Bool := Text.sameName o.name.toList name

end Object

/-- Does the reference name the object? -/
def Reference.matches (r : Reference) (o : Object) : Bool := r.names o.dbref o.created

end Softcode
