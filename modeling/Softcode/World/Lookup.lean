import Softcode.Pattern.Cache
import Softcode.World.Basic

namespace Softcode

/-!
# Looking up attributes

An attribute is looked for on the object itself, then on its ancestors, then on its zone.
-/

/-- Where an attribute was found. -/
inductive AttributeSource where
  | own | parent | zone
deriving Repr, DecidableEq

/-- An attribute that was found along a path. -/
structure FoundAttribute where
  source : AttributeSource
  holder : Dbref
  /-- The attributes along the path, one for each segment. -/
  chain : List Attribute
deriving Repr, DecidableEq

/-- The value of the attribute at the end of the path. -/
def FoundAttribute.value (f : FoundAttribute) : Styled :=
  (f.chain.getLast?.map (·.value)).getD {}

/-- The outcome of a look-up. -/
inductive Resolution where
  | found (f : FoundAttribute)
  /-- With the attributes along the path that the object has itself, up to the first that is
      missing. -/
  | notFound (partialChain : List Attribute)
deriving Repr, DecidableEq

/-- What was found, if anything. -/
def Resolution.found? : Resolution → Option FoundAttribute
  | found f => some f
  | notFound _ => none

/-- One element more, unless one with its key is there. -/
def addFirst {α κ : Type} [BEq κ] (key : α → κ) (seen : List α) (x : α) : List α :=
  if seen.any (key · == key x) then seen else seen ++ [x]

namespace World

/-- The objects on which the attributes of an object are looked for, in order. -/
def lineage (w : World) (hops : Nat) (d : Dbref) (inherits : Bool) :
    List (AttributeSource × Dbref) :=
  match if inherits then w.object? d else none with
  | none => [(.own, d)]
  | some o =>
    let parents := w.ancestors [d] hops o.parent
    -- A zone that is on the lineage already is not looked at twice.
    let zone := o.zone.filter fun z => z ≠ d && !parents.contains z
    (.own, d) :: parents.map (.parent, ·) ++ zone.toList.map (.zone, ·)

/-- Does the attribute count when it is found there? -/
def isVisible (source : AttributeSource) (a : Attribute) : Bool :=
  source = .own || !a.flags.noInherit

/-- The attribute at a path on one holder, if it is there and counts. -/
def foundOn? (w : World) (path : AttributePath) (source : AttributeSource) (holder : Dbref) :
    Option FoundAttribute :=
  let chain := (w.tree holder).chain path
  if chain.length = path.length ∧ chain.getLast?.any (isVisible source) then
    some { source, holder, chain }
  else none

/-- Look up the attribute at a path.  The nearest holder wins. -/
def resolve (w : World) (hops : Nat) (d : Dbref) (path : AttributePath) (inherits : Bool) :
    Resolution :=
  match (w.lineage hops d inherits).findSome? fun (source, holder) =>
    w.foundOn? path source holder with
  | some f => .found f
  | none => .notFound ((w.tree d).chain path)

/-- All attributes on the lineage of an object that count there, the nearest first. -/
def allAttributes (w : World) (hops : Nat) (d : Dbref) (inherits : Bool) :
    List (AttributeSource × Dbref × Attribute) :=
  (w.lineage hops d inherits).flatMap fun (source, holder) =>
    ((w.tree holder).inOrder.filter (isVisible source)).map fun a => (source, holder, a)

/-- All attributes that an object has or inherits, with where they are.  One that is nearer hides
    those of the same name further away. -/
def visibleAttributes (w : World) (hops : Nat) (d : Dbref) (inherits : Bool) :
    List (AttributeSource × Dbref × Attribute) :=
  (w.allAttributes hops d inherits).foldl (addFirst (·.2.2.name)) []

/-! ### Patterns of names -/

/-- All attributes that an object has or inherits whose names match.  Only names that match are
    taken note of. -/
def resolvePattern (w : World) (hops capacity : Nat) (d : Dbref) (pattern : Pattern)
    (inherits : Bool) : StateM PatternCache (List (AttributeSource × Dbref × Attribute)) := do
  match ← modifyGet (·.ready pattern capacity) with
  | none => return []
  | some m =>
    return (w.allAttributes hops d inherits).foldl
      (fun hits e => if m.accepts e.2.2.name.toList then addFirst (·.2.2.name) hits e else hits) []

end World

/-! ### Attributes that react -/

/-- What the attribute reacts to. -/
inductive PatternMarker where
  /-- Commands that somebody types. -/
  | command
  /-- What is said. -/
  | listen
deriving Repr, DecidableEq

/-- The character that the value of such an attribute starts with. -/
def PatternMarker.char : PatternMarker → Char
  | command => '$'
  | listen => '^'

/-- The pattern and the action of an attribute that reacts to something: the value is the marker,
    the pattern, a colon and the action.  A backslash in the pattern takes the meaning from a
    colon. -/
def reaction? (value : Styled) (marker : PatternMarker) : Option (List Char × Styled) :=
  match value.chars with
  | [] => none
  | c :: cs =>
    if c = marker.char then
      -- The marker and the colon are two characters more than the pattern.
      (colonAt? false 0 cs).map fun i => (cs.take i, value.slice (i + 2) value.length)
    else none
where
  /-- The index of the first colon that has its meaning. -/
  colonAt? (escaped : Bool) (i : Nat) : List Char → Option Nat
    | [] => none
    | c :: cs =>
      if c = '\\' ∧ ¬escaped then colonAt? true (i + 1) cs
      else if c = ':' ∧ ¬escaped then some i
      else colonAt? false (i + 1) cs

/-- An attribute whose pattern accepts a text. -/
structure Reaction where
  object : Dbref
  name : String
  source : AttributeSource
  action : Styled
  /-- What the first ten groups took. -/
  captures : List Styled
  /-- What the groups with names took, by the names in upper case. -/
  named : Table String Styled
deriving Repr, DecidableEq

namespace World

/-- The reaction of one attribute to a text. -/
def reactionOf? (capacity : Nat) (d : Dbref) (marker : PatternMarker) (text : List Char)
    (source : AttributeSource) (a : Attribute) : StateM PatternCache (Option Reaction) := do
  if marker = .command ∧ a.flags.noCommand then return none
  match reaction? a.value marker with
  | none => return none
  | some (pattern, action) =>
    let form := if a.flags.regexp then PatternForm.regex else .glob .capturing
    match ← modifyGet (·.ready ⟨form, pattern, a.flags.caseSensitive⟩ capacity) with
    | none => return none
    | some m =>
      return (m.captures text).map fun groups =>
        { object := d, name := a.name, source, action
          -- Group 0 is the whole text.
          captures := ((groups.drop 1).take 10).map fun g => Styled.ofChars (g.getD [])
          named := m.names.foldl (fun t (name, i) =>
            match (groups[i]?).bind id with
            | some g => t.insert (upperName name) (Styled.ofChars g)
            | none => t) {} }

/-- The reactions of an object to a text, in the order of its visible attributes. -/
def reactions (w : World) (hops capacity : Nat) (d : Dbref) (marker : PatternMarker)
    (text : List Char) (inherits : Bool) : StateM PatternCache (List Reaction) := do
  let found ← (w.visibleAttributes hops d inherits).mapM fun (source, _, a) =>
    reactionOf? capacity d marker text source a
  return found.filterMap id

end World

end Softcode
