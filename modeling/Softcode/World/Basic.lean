import Softcode.Attribute.Basic
import Softcode.Lock.Kind
import Softcode.Object.Allocator
import Softcode.Object.Basic

namespace Softcode

/-!
# Worlds

All that softcode acts on: objects with their attributes, the texts of their locks, channels,
connections, and the messages that wait to be delivered.
-/

/-- A message for one object. -/
structure Notification where
  target : Dbref
  sender : Dbref
  message : Styled
deriving Repr, DecidableEq

/-- A connection of a player. -/
structure Connection where
  player : Dbref
  ip : String
  hostname : String
deriving Repr, DecidableEq

/-- The number of a connection. -/
abbrev Handle := Nat

/-- A world. -/
structure World where
  allocator : Allocator := {}
  objects : Table Dbref Object := {}
  attributes : Table Dbref AttributeTree := {}
  locks : Table (Dbref × LockKind) String := {}
  /-- The channels that an object is on. -/
  channels : Table Dbref (List String) := {}
  connections : Table Handle Connection := {}
  /-- The messages that have not been delivered, in order. -/
  outbox : List Notification := []
deriving Repr, DecidableEq, Inhabited

namespace World

/-! ### Objects -/

/-- The object with a number. -/
def object? (w : World) (d : Dbref) : Option Object := w.objects.find? d

/-- Make an object. -/
def create (w : World) (kind : Kind) (name : String) (location : Option Dbref) : Object × World :=
  let (dbref, created, allocator) := w.allocator.allocate
  let object := { Object.new dbref created kind name with location }
  (object, { w with allocator, objects := w.objects.insert dbref object })

/-- Put in an object whose number was chosen elsewhere. -/
def insert (w : World) (o : Object) : World :=
  { w with allocator := w.allocator.reserve o.dbref, objects := w.objects.insert o.dbref o }

/-- Change an object, if it exists. -/
def update (w : World) (d : Dbref) (f : Object → Object) : World :=
  { w with objects := w.objects.modify d f }

/-- Destroy an object and all that belongs to it, and free its number. -/
def recycle (w : World) (d : Dbref) : World :=
  if w.objects.has d then
    { w with
      allocator := w.allocator.recycle d
      objects := w.objects.erase d
      attributes := w.attributes.erase d
      channels := w.channels.erase d
      locks := w.locks.filter fun k _ => k.1 ≠ d
      connections := w.connections.filter fun _ c => c.player ≠ d }
  else w

/-- A world with a room and a wizard in it. -/
def start : World :=
  let (room, w) := ({} : World).create .room "Room Zero" none
  let (wizard, w) := w.create .player "Wizard" (some room.dbref)
  let w := w.update wizard.dbref fun o => { o with flags := nameSet ("WIZARD" :: o.flags) }
  w.update room.dbref fun o => { o with owner := wizard.dbref }

/-- The objects in an object, in the order of their numbers. -/
def contents (w : World) (d : Dbref) : List Dbref :=
  ((w.objects.values.filter fun o => o.location = some d).map (·.dbref)).mergeSort (· ≤ ·)

/-- The ancestors of an object along its parents, from `next` on: at most `hops` of them, and none
    that has been `visited`. -/
def ancestors (w : World) (visited : List Dbref) : Nat → Option Dbref → List Dbref
  | 0, _ => []
  | _, none => []
  | hops + 1, some d =>
    if d ∈ visited then []
    else d :: w.ancestors (d :: visited) hops ((w.object? d).bind (·.parent))

/-- An object and all its ancestors.  All but the last of them exist, which bounds their number. -/
def ancestry (w : World) (d : Dbref) : List Dbref :=
  w.ancestors [] (w.objects.size + 1) (some d)

/-- There is no such object. -/
def noSuchObject (d : Dbref) : ScriptError :=
  .collaborator ("no such object " ++ String.ofList (Dbref.text d))

/-- The object is already an ancestor of its new parent. -/
def parentLoop (child parent : Dbref) : ScriptError :=
  .collaborator (String.ofList (Dbref.text child) ++ " is already an ancestor of "
    ++ String.ofList (Dbref.text parent))

/-- Give an object a parent or take it away.  Nothing can become its own ancestor. -/
def setParent (child : Dbref) (parent : Option Dbref) :
    ExceptT ScriptError (StateM World) Unit := do
  let w ← get
  match parent.filter fun p => child ∈ w.ancestry p with
  | some p => throw (parentLoop child p)
  | none =>
    let existed ← modifyGet fun w =>
      (w.objects.has child, w.update child fun o => { o with parent })
    unless existed do throw (noSuchObject child)

/-- The player with a name. -/
def player? (w : World) (name : List Char) : Option Dbref :=
  (w.objects.values.find? fun o => o.kind = .player && o.isNamed name).map (·.dbref)

/-! ### Attributes -/

/-- The attributes of an object. -/
def tree (w : World) (d : Dbref) : AttributeTree := (w.attributes.find? d).getD {}

/-- Replace the attributes of an object. -/
def setTree (w : World) (d : Dbref) (t : AttributeTree) : World :=
  { w with attributes := w.attributes.insert d t }

/-- The text of an attribute that the object has itself. -/
def attributeText? (w : World) (d : Dbref) (name : String) : Option (List Char) :=
  ((w.tree d).find? (upperName name)).map (·.value.chars)

/-- Set an attribute. -/
def putAttribute (w : World) (d : Dbref) (path : AttributePath) (value : Styled) (owner : Dbref) :
    World :=
  w.setTree d ((w.tree d).set path value owner)

/-- Set an attribute that belongs to the object itself, by its name.  A text that is no name changes
    nothing. -/
def setOwn (w : World) (d : Dbref) (name : List Char) (value : String) : World :=
  match AttributePath.read name with
  | .ok path => w.putAttribute d path (.ofString value) d
  | .error _ => w

/-- Set an attribute of an object that exists. -/
def setAttribute (d : Dbref) (path : AttributePath) (value : Styled) (owner : Dbref) :
    ExceptT ScriptError (StateM World) Unit := do
  unless (← get).objects.has d do throw (noSuchObject d)
  modify (·.putAttribute d path value owner)

/-- Change the flags of an attribute, if it exists. -/
def modifyFlags (w : World) (d : Dbref) (name : String) (f : AttributeFlags → AttributeFlags) :
    World :=
  { w with attributes := w.attributes.modify d fun t =>
      t.modify (upperName name) fun a => { a with flags := f a.flags } }

/-- Remove an attribute that has no others below it.  Gives whether there was one. -/
def removeAttribute (d : Dbref) (path : AttributePath) :
    ExceptT ScriptError (StateM World) Bool := do
  match (← get).attributes.find? d with
  | none => return false
  | some t =>
    if t.keys.any (AttributeTree.isBelow · path.name) then
      throw (.collaborator (path.name ++ " still has child attributes"))
    modify (·.setTree d (t.erase path.name))
    return t.has path.name

/-- Remove all attributes whose names match a glob, with all that lie below them.  Gives how many
    those are. -/
def removeMatching (d : Dbref) (glob : List Char) : ExceptT ScriptError (StateM World) Nat := do
  match (Pattern.mk (.glob .attributeName) glob false).compile? with
  | none => throw (.collaborator "Compiled regex exceeds size limit of 10485760 bytes.")
  | some m => match (← get).attributes.find? d with
    | none => return 0
    | some t =>
      modify (·.setTree d (t.wipe m))
      return t.size - (t.wipe m).size

/-! ### Locks, channels and connections -/

/-- The text of a lock. -/
def lockText? (w : World) (d : Dbref) (lock : LockKind) : Option String := w.locks.find? (d, lock)

/-- Store the text of a lock. -/
def storeLock (w : World) (d : Dbref) (lock : LockKind) (text : String) : World :=
  { w with locks := w.locks.insert (d, lock) text }

/-- Remove the text of a lock. -/
def removeLock (w : World) (d : Dbref) (lock : LockKind) : World :=
  { w with locks := w.locks.erase (d, lock) }

/-- Put an object on a channel. -/
def join (w : World) (d : Dbref) (channel : String) : World :=
  let on := (w.channels.find? d).getD []
  { w with channels := w.channels.insert d (lowerName channel :: on) }

/-- Is the object on the channel? -/
def onChannel (w : World) (d : Dbref) (channel : String) : Bool :=
  ((w.channels.find? d).getD []).contains (lowerName channel)

/-- Bind a connection to a player. -/
def connect (w : World) (h : Handle) (c : Connection) : World :=
  { w with connections := w.connections.insert h c }

/-- End a connection. -/
def disconnect (w : World) (h : Handle) : World :=
  { w with connections := w.connections.erase h }

/-- The player of a connection. -/
def boundPlayer? (w : World) (h : Handle) : Option Dbref := (w.connections.find? h).map (·.player)

/-- The connections of a player. -/
def connectionsOf (w : World) (player : Dbref) : List Connection :=
  w.connections.values.filter fun c => c.player = player

/-! ### Messages -/

/-- Queue a message. -/
def notify (w : World) (target sender : Dbref) (message : Styled) : World :=
  { w with outbox := w.outbox ++ [⟨target, sender, message⟩] }

/-- Take all messages. -/
def takeMessages (w : World) : List Notification × World :=
  (w.outbox, { w with outbox := [] })

end World

end Softcode
