import Softcode.Regex.Program

namespace Softcode

/-!
# Searching with regular expressions

The search follows the preferred way through a program and backs up when it fails.  Each instruction
is tried at most once at each place of the text: an instruction that has failed at a place fails
there again, and a path that comes back to an instruction without having taken a character can gain
nothing.
-/

/-- A place in a text. -/
structure Place where
  offset : Nat
  before : Option Char
  rest : List Char
deriving Repr, DecidableEq

namespace Regex

/-- The places that have been noted, the last one first. -/
abbrev Saves := List (Nat × Nat)

/-- The instructions that have not been tried yet at one place. -/
abbrev Untried := List Nat

/-- Follow the program from the instruction `pc` at a place.  `here` are the instructions that have
    not been tried at this place, and `ahead` those at each of the later places.  Gives what has
    been noted on the way to the end, or what is still untried.  The first argument bounds the
    number of steps on one path, which is at most the number of untried instructions. -/
def follow (program : Array Instruction) :
    Nat → Nat → Place → Saves → Untried → List Untried → Except (Untried × List Untried) Saves
  | 0, _, _, _, here, ahead => .error (here, ahead)
  | fuel + 1, pc, place, saves, here, ahead =>
    if here.contains pc then
      -- Whatever comes of it, the instruction need not be tried here again.
      let here := here.erase pc
      match program[pc]? with
      | none => .error (here, ahead)
      | some .accept => .ok saves
      | some (.jump next) => follow program fuel next place saves here ahead
      | some (.save slot next) =>
        follow program fuel next place ((slot, place.offset) :: saves) here ahead
      | some (.check l next) =>
        if l.holds place.before place.rest.head? then
          follow program fuel next place saves here ahead
        else .error (here, ahead)
      | some (.choose first second) =>
        match follow program fuel first place saves here ahead with
        | .ok saves => .ok saves
        -- The second way goes on with what the first has left untried.
        | .error (here, ahead) => follow program fuel second place saves here ahead
      | some (.take c next) =>
        match place.rest, ahead with
        | x :: rest, there :: ahead =>
          if c.has x then
            match follow program fuel next ⟨place.offset + 1, some x, rest⟩ saves there ahead with
            | .ok saves => .ok saves
            | .error (there, ahead) => .error (here, there :: ahead)
          else .error (here, there :: ahead)
        | _, _ => .error (here, ahead)
    else .error (here, ahead)

/-- Search from a place on, the earliest place first. -/
def searchFrom (program : Array Instruction) (fuel : Nat) (offset : Nat) (before : Option Char)
    (here : Untried) (ahead : List Untried) (rest : List Char) : Option Saves :=
  match follow program fuel 0 ⟨offset, before, rest⟩ [] here ahead with
  | .ok saves => some saves
  | .error (_, ahead) =>
    match rest, ahead with
    | x :: rest, here :: ahead =>
      searchFrom program fuel (offset + 1) (some x) here ahead rest
    | _, _ => none

/-- The place noted in a slot. -/
def Saves.find (saves : Saves) (slot : Nat) : Option Nat :=
  saves.lookup slot

/-- The text between the places noted for a group. -/
def Saves.text? (saves : Saves) (text : List Char) (i : Nat) : Option (List Char) := do
  let start ← saves.lookup (2 * i)
  let stop ← saves.lookup (2 * i + 1)
  return (text.drop start).take (stop - start)

end Regex

/-- A regular expression that is ready to be used.  Group 0 is the whole match. -/
structure Matcher where
  program : Array Instruction
  /-- The number of groups. -/
  groups : Nat
  /-- The names of groups. -/
  names : List (String × Nat)
deriving Repr, DecidableEq

namespace Matcher

/-- Make an expression ready to be used. -/
def ofRegex (r : Regex) (names : List (String × Nat)) : Matcher :=
  { program := (Regex.group 0 r).program, groups := r.lastGroup + 1, names }

/-- The texts of the groups of the leftmost match. -/
def captures (m : Matcher) (text : List Char) : Option (List (Option (List Char))) :=
  let all := List.range m.program.size
  let fuel := m.program.size * (text.length + 1)
  (Regex.searchFrom m.program fuel 0 none all (List.replicate text.length all) text).map
    fun saves => (List.range m.groups).map (saves.text? text)

/-- Does the text hold a match? -/
def accepts (m : Matcher) (text : List Char) : Bool :=
  (m.captures text).isSome

end Matcher

end Softcode
