import Softcode.World.Basic

namespace Softcode.World

/-!
# Finding objects by name

There are two points of view: that of softcode, which speaks of what is near the object that runs
it, and that of a lock, which speaks of any object of the world.
-/

/-- The things near an object: what it holds, and what is where it is. -/
def nearby (w : World) (d : Dbref) (location : Option Dbref) : List Dbref :=
  w.contents d ++ location.elim [] w.contents

/-- The first of the objects with a name. -/
def firstNamed? (w : World) (name : List Char) (candidates : List Dbref) : Option Object :=
  (candidates.filterMap w.object?).find? (·.isNamed name)

/-- The object with the lowest number among those that pass a test. -/
def lowest? (w : World) (p : Object → Bool) : Option Object :=
  ((w.objects.values.filter p).mergeSort fun a b => a.dbref ≤ b.dbref).head?

/-- The object that the reference names, if it exists. -/
def referent? (w : World) (r : Reference) : Option Object :=
  (w.object? r.number).filter r.matches

/-- The object that a lock means by a name.  Players come first, then what is near the looker, then
    all others.  Without a looker, `me` and `here` mean nothing. -/
def locate? (w : World) (name : List Char) (looker : Option Dbref) : Option Object :=
  let name := Text.trim name
  let looker := looker.bind w.object?
  if Text.sameName name "me".toList then looker
  else if Text.sameName name "here".toList then (looker.bind (·.location)).bind w.object?
  else
    w.lowest? (fun o => o.kind = .player && o.isNamed name)
    <|> looker.bind (fun o => w.firstNamed? name (w.nearby o.dbref o.location))
    <|> w.lowest? (·.isNamed name)

end Softcode.World
