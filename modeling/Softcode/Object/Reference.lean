import Softcode.Error
import Softcode.Number.Integer
import Softcode.Text.Blank

namespace Softcode

/-!
# Object references

Every object has a number.  Numbers are used again after an object is gone, so a reference may also
give the time of creation, which pins it to one object for ever.
-/

/-- The number of an object. -/
abbrev Dbref := Int

namespace Dbref

/-- The number that no object has. -/
def nothing : Dbref := -1

/-- Does the number stand for no object at all? -/
def isNothing (d : Dbref) : Bool := d < 0

/-- The number as it is written, after a number sign. -/
def text (d : Dbref) : List Char := '#' :: Number.intText d

/-- Read a number sign and an integer, with blanks around them. -/
def read? (cs : List Char) : Option Dbref :=
  match Text.trim cs with
  | '#' :: digits => Number.readInteger? digits
  | _ => none

/-- Read a number, or say what is wrong. -/
def read (cs : List Char) : Except DataError Dbref :=
  match read? cs with
  | some d => .ok d
  | none => .error (.invalid ("not a dbref: " ++ String.ofList cs))

end Dbref

/-- A reference to an object: whichever object has the number, or the one that was also created at
    the given time. -/
structure Reference where
  number : Dbref
  created : Option Int := none
deriving Repr, DecidableEq

namespace Reference

/-- Does the reference give a number only? -/
def isBare (r : Reference) : Bool := r.created.isNone

/-- The reference as it is written. -/
def text (r : Reference) : List Char :=
  match r.created with
  | some t => Dbref.text r.number ++ ':' :: Number.intText t
  | none => Dbref.text r.number

/-- Read a reference, or say what is wrong.  The time is looked at before the number. -/
def read (cs : List Char) : Except DataError Reference :=
  let cs := Text.trim cs
  match Text.cutAt (· == ':') cs with
  | some (number, created) =>
    match Number.readInteger? created with
    | some t => do return { number := ← Dbref.read number, created := some t }
    | none => .error (.invalid ("bad objid timestamp: " ++ String.ofList cs))
  | none => do return { number := ← Dbref.read cs }

/-- Does the reference name the object with this number and time of creation? -/
def names (r : Reference) (number : Dbref) (created : Int) : Bool :=
  r.number == number && (r.created.isNone || r.created == some created)

end Reference

end Softcode
