import Softcode.Attribute.Path
import Softcode.Object.Reference
import Softcode.Pattern.Basic
import Softcode.Styled.Basic
import Softcode.Table

namespace Softcode

/-!
# Attributes

An object carries a tree of named texts.  The tree is kept as a table of its attributes by their
full names, and it is closed: the parent of an attribute in the tree is in the tree too.
-/

/-- What is special about an attribute. -/
structure AttributeFlags where
  /-- Children and members of a zone do not inherit it. -/
  noInherit : Bool := false
  /-- Its pattern is a regular expression. -/
  regexp : Bool := false
  /-- Its pattern minds the case of letters. -/
  caseSensitive : Bool := false
  /-- Anybody may read it. -/
  visual : Bool := false
  /-- It is never a command. -/
  noCommand : Bool := false
deriving Repr, DecidableEq

/-- A named text. -/
structure Attribute where
  /-- The full path as it is written. -/
  name : String
  value : Styled
  owner : Dbref
  flags : AttributeFlags := {}
deriving Repr, DecidableEq

/-- The attributes of one object by their names. -/
abbrev AttributeTree := Table String Attribute

namespace AttributeTree

/-- The attributes in the order of their names. -/
def inOrder (t : AttributeTree) : List Attribute :=
  (t.entries.mergeSort fun a b => !(b.1 < a.1)).map (·.2)

/-- Give an attribute a value.  A new attribute belongs to `owner`; an old one keeps its owner and
    flags. -/
def write (t : AttributeTree) (name : String) (value : Styled) (owner : Dbref) : AttributeTree :=
  match t.find? name with
  | some a => t.insert name { a with value }
  | none => t.insert name { name, value, owner }

/-- Make sure that there is an attribute. -/
def ensure (t : AttributeTree) (name : String) (owner : Dbref) : AttributeTree :=
  if t.has name then t else t.insert name { name, value := {}, owner }

/-- Set the attribute at a path.  Missing attributes on the way are made, with an empty value. -/
def set (t : AttributeTree) (path : AttributePath) (value : Styled) (owner : Dbref) :
    AttributeTree :=
  let way := (List.range' 1 (path.length - 1)).map fun n => (path.take n).name
  (way.foldl (fun t name => t.ensure name owner) t).write path.name value owner

/-- Does the first name lie below the second in a tree? -/
def isBelow (name root : String) : Bool :=
  (root.toList ++ [AttributePath.separator]).isPrefixOf name.toList

/-- Remove all attributes whose names match, with all that lie below them. -/
def wipe (t : AttributeTree) (m : Matcher) : AttributeTree :=
  let roots := t.keys.filter fun k => m.accepts k.toList
  t.filter fun k _ => !roots.any fun root => k == root || isBelow k root

/-- The attributes on the way along a path, up to the first that is missing. -/
def chain (t : AttributeTree) (path : AttributePath) : List Attribute :=
  go ((List.range' 1 path.length).map fun n => (path.take n).name)
where
  /-- The attributes with the names, up to the first that is missing. -/
  go : List String → List Attribute
    | [] => []
    | name :: names => match t.find? name with
      | some a => a :: go names
      | none => []

end AttributeTree

end Softcode
