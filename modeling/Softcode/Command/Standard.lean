import Softcode.Command.Basic

namespace Softcode

/-!
# The standard commands
-/

namespace CommandCall

/-! ### Objects -/

/-- The object that is meant by a name; if there is none, that is said. -/
def target? (c : CommandCall) (name : List Char) : EvalM (Option Dbref) := do
  let found ← c.locate? name
  if found.isNone then c.say "I can't see that here."
  return found

/-- The object that is meant by a name, if the executor controls it. -/
def controlled? (c : CommandCall) (name : List Char) : EvalM (Option Dbref) := do
  match ← c.target? name with
  | none => return none
  | some object =>
    if (← EvalM.ask).controls c.executor object then return some object
    c.say "Permission denied."
    return none

/-! ### Messages -/

/-- Tell oneself something. -/
def think (c : CommandCall) : EvalM Unit := c.reply c.args.left

/-- Tell an object something. -/
def pemit (c : CommandCall) : EvalM Unit := do
  if let some recipient ← c.target? c.args.left.chars then
    EvalM.notify recipient c.executor c.args.right

/-- Tell everything around something. -/
def emit (c : CommandCall) : EvalM Unit := do
  let world ← EvalM.ask
  match (world.object? c.executor).bind (·.location) with
  | none => c.reply c.args.left
  | some location =>
    EvalM.act fun w =>
      (world.contents location).foldl (fun w d => w.notify d c.executor c.args.left) w

/-! ### Attributes -/

/-- Change the world if that can be done, and say what became of it. -/
def change {α : Type} (c : CommandCall) (x : ExceptT ScriptError (StateM World) α)
    (done : α → String) : EvalM Unit := do
  match ← EvalM.inWorld x with
  | .ok a => c.say (done a)
  | .error e => c.say ("#-1 " ++ e.message)

/-- Set an attribute, or clear it if no value is given. -/
def setAttribute (c : CommandCall) : EvalM Unit := do
  let left := Text.trim c.args.left.chars
  let (name, object) := match Text.cutAt Text.isBlank left with
    | some (name, object) => (name, Text.trim object)
    | none => (left, "me".toList)
  match AttributePath.read name with
  | .error _ => c.say "That's not a good name for an attribute."
  | .ok path =>
    if let some object ← c.controlled? object then
      let value := c.args.right
      if value.isEmpty then
        c.change (World.removeAttribute object path) fun _ => path.name ++ " - Cleared."
      else
        c.change (World.setAttribute object path value c.executor) fun _ => path.name ++ " - Set."

/-- Remove the attributes whose names match a glob. -/
def wipe (c : CommandCall) : EvalM Unit := do
  let (object, glob) := match splitObject (Text.trim c.args.left.chars) with
    | (some object, glob) => (object, glob)
    | (none, object) => (object, ['*'])
  if let some object ← c.controlled? object then
    c.change (World.removeMatching object glob) fun
      | 0 => "No matching attributes."
      | n => toString n ++ " attributes wiped."

/-! ### Locks -/

/-- The kind of lock that the first switch names. -/
def lockKind (c : CommandCall) : LockKind :=
  (c.switches.head?.bind LockKind.read?).getD .basic

/-- Remove a lock. -/
def removeLock (c : CommandCall) (object : Dbref) : EvalM Unit := do
  modify fun s =>
    let (_, world, locks) := s.world.clearLock s.locks object c.lockKind
    { s with world, locks }
  c.say "Unlocked."

/-- Remove a lock of an object that the executor controls. -/
def clearLock (c : CommandCall) : EvalM Unit := do
  if let some object ← c.controlled? c.args.left.chars then c.removeLock object

/-- Set a lock, or remove it if no key is given. -/
def setLock (c : CommandCall) : EvalM Unit := do
  if let some object ← c.controlled? c.args.left.chars then
    let key := c.args.right
    if !c.args.hasEquals || Text.allBlank key.chars then c.removeLock object
    else
      match ← EvalM.inLocks (LockService.set object c.lockKind key.plain c.executor) with
      | .error _ => c.say "I don't understand that key."
      | .ok _ => c.say "Locked."

/-! ### Functions -/

/-- Define a function. -/
def defineFunction (c : CommandCall) (name : String) : EvalM Unit := do
  match splitObject (Text.trim c.args.right.chars) with
  | (none, _) => c.say "Usage: @function name=object/attribute"
  | (some object, attr) => match AttributePath.read attr with
    | .error _ => c.say "That's not a good name for an attribute."
    | .ok _ =>
      if let some object ← c.target? object then
        modify fun s => { s with
          functions := s.functions.register (.user name object (String.ofList attr)) }
        c.say ("Function " ++ upperName name ++ " defined.")

/-- List, define or delete functions.  Those that are not softcode stay. -/
def function (c : CommandCall) : EvalM Unit := do
  let functions := (← get).functions
  let name := String.ofList (Text.lower (Text.trim c.args.left.chars))
  if name.isEmpty then c.say (" ".intercalate functions.names)
  else
    let existing := functions.get? name
    let builtIn := existing.any (!·.isUser)
    if c.hasSwitch "delete" then
      if builtIn || existing.isNone then c.say "No such user function."
      else
        modify fun s => { s with functions := s.functions.remove name }
        c.say ("Function " ++ upperName name ++ " deleted.")
    else if builtIn then c.say ("Function " ++ upperName name ++ " is built in.")
    else c.defineFunction name

end CommandCall

/-! ### All commands -/

/-- The switches of commands on locks. -/
def lockSwitches : List String :=
  ["basic", "enter", "use", "command", "listen", "page", "speech", "zone", "teleport"]

/-- The commands that every engine has, in the order in which they are registered. -/
def commandList : List Command :=
  [ .new "think" .single CommandCall.think,
    .new "@pemit" .eqSplit CommandCall.pemit,
    .new "@emit" .single CommandCall.emit,
    { Command.new "&" .eqSplit CommandCall.setAttribute with right := .literal, token := some '&' },
    { (Command.new "@lock" .eqSplit CommandCall.setLock).withSwitches lockSwitches with
      right := .literal },
    (Command.new "@unlock" .single CommandCall.clearLock).withSwitches lockSwitches,
    .new "@wipe" .single CommandCall.wipe,
    { (Command.new "@function" .eqSplit CommandCall.function).withSwitches ["delete"] with
      requires := some .wizard }]

/-- The commands that every engine has. -/
def standardCommands : Commands := commandList.foldl Commands.register {}

end Softcode
