import Softcode.Proofs.Command.Keeping
import Softcode.Proofs.Lock.Session
import Softcode.Proofs.World.Allocation
import Softcode.Proofs.World.AttributeTrees

namespace Softcode

/-!
# Commands act with authority

Softcode runs as many objects: an attribute that is a command runs as the object that has it, and
its commands can start others.  Still, all that can run because of an object is near it, or near
something that is near it, and so on (`World.Reaches`).  Whatever commands do, what has changed is
what one of these objects controls, and functions have changed only if one of them is a wizard
(`Authorized`).

Each command that changes something is looked at once; that all others run through the same checks
is `Commands.Keep.evaluate`.  The statement about engines is `Engine.evaluate_authorized`.
-/

variable {α β : Type} {w : World} {fs : Functions} {executor : Dbref}

/-! ### Who can act -/

namespace World

/-- Where an object is. -/
def locationOf? (w : World) (d : Dbref) : Option Dbref := (w.object? d).bind (·.location)

/-- The objects that softcode of one object can make act: itself, and with each of them where it is,
    what is there, and what it holds. -/
inductive Reaches (w : World) (executor : Dbref) : Dbref → Prop
  | self : Reaches w executor executor
  | location {m d : Dbref} (h : Reaches w executor m) (hd : w.locationOf? m = some d) :
      Reaches w executor d
  | beside {m l d : Dbref} (h : Reaches w executor m) (hl : w.locationOf? m = some l)
      (hd : d ∈ w.contents l) : Reaches w executor d
  | inside {m d : Dbref} (h : Reaches w executor m) (hd : d ∈ w.contents m) : Reaches w executor d

/-- Objects whose attributes can be commands for one that is reached are reached. -/
theorem Reaches.commandHolders {m d : Dbref} (h : w.Reaches executor m)
    (hd : d ∈ w.commandHolders m) : w.Reaches executor d := by
  rw [World.commandHolders, List.mem_eraseDups, List.cons_append, List.mem_cons,
    List.mem_append] at hd
  rcases hd with rfl | hd | hd
  · exact h
  · split at hd
    · rename_i l hl
      rcases List.mem_cons.mp hd with rfl | hd
      · exact h.location hl
      · exact h.beside hl hd
    · exact absurd hd List.not_mem_nil
  · exact h.inside hd

/-! ### What depends on objects only -/

/-- Who controls what depends on the objects only. -/
private theorem controls_congr {w' : World} (h : w'.objects = w.objects) :
    w'.controls = w.controls := by
  funext who what
  rw [controls, controls, object?_congr h]

/-- Whose attributes can be commands depends on the objects only. -/
private theorem commandHolders_congr {w' : World} (h : w'.objects = w.objects) :
    w'.commandHolders = w.commandHolders := by
  funext d
  simp only [commandHolders, contents, object?_congr h, h]

/-- Who may give a command depends on the objects only. -/
private theorem canExecute_congr {w' : World} (h : w'.objects = w.objects) :
    w'.canExecute = w.canExecute := by
  funext who requires
  simp only [canExecute, object?_congr h]

end World

/-! ### What may have changed -/

/-- Has no more changed from the world `w` and the functions `fs` to `w'` and `fs'` than objects
    that the executor reaches may change? -/
structure Authorized (w : World) (fs : Functions) (executor : Dbref) (w' : World)
    (fs' : Functions) :
    Prop where
  objects : w'.objects = w.objects
  allocator : w'.allocator = w.allocator
  channels : w'.channels = w.channels
  connections : w'.connections = w.connections
  attributes : ∀ d, w'.attributes.find? d ≠ w.attributes.find? d →
    ∃ m, w.Reaches executor m ∧ w.controls m d
  locks : ∀ d kind, w'.lockText? d kind ≠ w.lockText? d kind →
    ∃ m, w.Reaches executor m ∧ w.controls m d
  functions : fs' ≠ fs → ∃ m o, w.Reaches executor m ∧ w.object? m = some o ∧ o.isWizard
  /-- Functions that are not softcode stay what they are. -/
  builtIn : ∀ name f, fs.find? name = some f → ¬ f.isUser → fs'.find? name = some f

namespace Authorized

theorem refl (w : World) (fs : Functions) (executor : Dbref) : Authorized w fs executor w fs :=
  ⟨rfl, rfl, rfl, rfl, fun _ h => absurd rfl h, fun _ _ h => absurd rfl h, fun h => absurd rfl h,
    fun _ _ h _ => h⟩

variable {w' : World} {fs' : Functions} {m d : Dbref}

/-- Messages may be sent to everyone. -/
theorem notify (h : Authorized w fs executor w' fs') (target sender : Dbref) (message : Styled) :
    Authorized w fs executor (w'.notify target sender message) fs' :=
  ⟨h.objects, h.allocator, h.channels, h.connections, h.attributes, h.locks, h.functions, h.builtIn⟩

/-- The attributes of an object that is controlled may change. -/
theorem setTree (h : Authorized w fs executor w' fs') (hm : w.Reaches executor m)
    (hcontrols : w.controls m d) (t : AttributeTree) :
    Authorized w fs executor (w'.setTree d t) fs' := by
  refine ⟨h.objects, h.allocator, h.channels, h.connections, fun d' hne => ?_, h.locks, h.functions,
    h.builtIn⟩
  rw [World.setTree, Table.find?_insert] at hne
  split at hne
  · rename_i heq
    exact ⟨m, hm, heq ▸ hcontrols⟩
  · exact h.attributes d' hne

/-- The locks of an object that is controlled may change. -/
private theorem changeLock (h : Authorized w fs executor w' fs') (hm : w.Reaches executor m)
    (hcontrols : w.controls m d) {locks : Table (Dbref × LockKind) String} {kind : LockKind}
    (hlocks : ∀ k, k ≠ (d, kind) → locks.find? k = w'.locks.find? k) :
    Authorized w fs executor { w' with locks } fs' := by
  refine ⟨h.objects, h.allocator, h.channels, h.connections, h.attributes, fun d' kind' hne => ?_,
    h.functions, h.builtIn⟩
  by_cases hkey : (d', kind') = (d, kind)
  · exact ⟨m, hm, (Prod.mk.inj hkey).1 ▸ hcontrols⟩
  · exact h.locks d' kind' fun heq => hne ((hlocks _ hkey).trans heq)

/-- A lock may be stored on an object that is controlled. -/
theorem storeLock (h : Authorized w fs executor w' fs') (hm : w.Reaches executor m)
    (hcontrols : w.controls m d) (kind : LockKind) (text : String) :
    Authorized w fs executor (w'.storeLock d kind text) fs' := by
  refine h.changeLock hm hcontrols fun k (hk : k ≠ (d, kind)) => ?_
  rw [Table.find?_insert, if_neg hk]

/-- A lock may be removed from an object that is controlled. -/
theorem removeLock (h : Authorized w fs executor w' fs') (hm : w.Reaches executor m)
    (hcontrols : w.controls m d) (kind : LockKind) :
    Authorized w fs executor (w'.removeLock d kind) fs' := by
  refine h.changeLock hm hcontrols fun k (hk : k ≠ (d, kind)) => ?_
  rw [Table.find?_erase, if_neg hk]

/-- A wizard may change a function, unless it is one that is not softcode. -/
private theorem changeFunction (h : Authorized w fs executor w' fs')
    (hwizard : ∃ m o, w.Reaches executor m ∧ w.object? m = some o ∧ o.isWizard) {key : String}
    (hkey : ∀ f, fs.find? key = some f → f.isUser) {functions : Functions}
    (hfunctions : ∀ name, name ≠ key → functions.find? name = fs'.find? name) :
    Authorized w fs executor w' functions := by
  refine ⟨h.objects, h.allocator, h.channels, h.connections, h.attributes, h.locks,
    fun _ => hwizard, fun name f hf huser => ?_⟩
  have hne : name ≠ key := by
    rintro rfl
    exact huser (hkey f hf)
  rw [hfunctions name hne]
  exact h.builtIn name f hf huser

end Authorized

/-! ### Commands -/

/-- The invariant of all that the executor starts. -/
def AuthorizedState (w : World) (fs : Functions) (executor : Dbref) (s : EvalState) : Prop :=
  Authorized w fs executor s.world s.functions

/-- What may have changed is a matter of the world and the functions only. -/
private theorem aboutWorld_authorizedState : AboutWorld (AuthorizedState w fs executor) := by
  intro s t hs hworld hfunctions
  rw [AuthorizedState, hworld, hfunctions]
  exact hs

/-- Expressions change nothing, and messages may be sent to everyone. -/
private theorem kept_authorizedState :
    KeptByMessages (AuthorizedState w fs executor) fun _ => True where
  toKeptByExpressions := aboutWorld_authorizedState.kept
  message hs target sender message := Authorized.notify hs target sender message

namespace CommandCall

variable {c : CommandCall}

/-- What passes the check is controlled.  That nothing can change who controls what is part of the
    invariant, so it does not matter when the check was made. -/
private theorem controlled?_authorized (name : List Char) :
    Keeps (AuthorizedState w fs executor) (c.controlled? name)
      fun found => ∀ d ∈ found, w.controls c.executor d := by
  refine (kept_authorizedState.controlled? name).imp fun found hfound d hd => ?_
  obtain ⟨s, hs, hcontrols⟩ := hfound d hd
  rwa [World.controls_congr hs.objects] at hcontrols

/-- A change of the attributes of an object that is controlled. -/
private theorem change_authorized {d : Dbref} (hc : w.Reaches executor c.executor)
    (hcontrols : w.controls c.executor d) {x : ExceptT ScriptError (StateM World) α}
    (hx : World.ChangesAttributes d x) (done : α → String) :
    Keeps (AuthorizedState w fs executor) (c.change x done) := by
  have hchange : Keeps (AuthorizedState w fs executor) (EvalM.inWorld x) := by
    refine kept_authorizedState.checkCancelled.bind fun _ _ => .modifyGet fun s hs => ⟨?_, trivial⟩
    -- A computation that fails has changed nothing.
    show Authorized w fs executor (x.run.run s.world).2 s.functions
    rcases hx s.world with hsame | ⟨t, ht⟩
    · rw [hsame]
      exact hs
    · rw [ht]
      exact Authorized.setTree hs hc hcontrols t
  refine hchange.bind fun result _ => ?_
  split
  · exact kept_authorizedState.say _
  · exact kept_authorizedState.say _

/-- An attribute is set or cleared only on what the executor of the command controls. -/
private theorem setAttribute_authorized (hc : w.Reaches executor c.executor) :
    Keeps (AuthorizedState w fs executor) c.setAttribute := by
  unfold setAttribute
  dsimp only
  split
  · exact kept_authorizedState.say _
  rename_i path _
  refine (controlled?_authorized _).bind fun found hfound => ?_
  split
  · rename_i d
    -- The target was found as one that the executor controls.
    have hcontrols : w.controls c.executor d := hfound d rfl
    split
    · exact change_authorized hc hcontrols (World.changesAttributes_removeAttribute _ _) _
    · exact change_authorized hc hcontrols (World.changesAttributes_setAttribute _ _ _ _) _
  · exact .pure trivial

/-- Attributes are wiped only from what the executor of the command controls. -/
private theorem wipe_authorized (hc : w.Reaches executor c.executor) :
    Keeps (AuthorizedState w fs executor) c.wipe := by
  unfold wipe
  refine (controlled?_authorized _).bind fun found hfound => ?_
  split
  · rename_i d
    exact change_authorized hc (hfound d rfl) (World.changesAttributes_removeMatching _ _) _
  · exact .pure trivial

/-- A lock is removed where control has been checked. -/
private theorem removeLock_authorized {d : Dbref} (hc : w.Reaches executor c.executor)
    (hcontrols : w.controls c.executor d) :
    Keeps (AuthorizedState w fs executor) (c.removeLock d) := by
  refine Keeps.bind (Keeps.modify fun s hs => ?_) fun _ _ => kept_authorizedState.say _
  exact Authorized.removeLock hs hc hcontrols c.lockKind

/-- The same, where the check is part of the command. -/
private theorem clearLock_authorized (hc : w.Reaches executor c.executor) :
    Keeps (AuthorizedState w fs executor) c.clearLock := by
  refine (controlled?_authorized _).bind fun found hfound => ?_
  split
  · exact removeLock_authorized hc (hfound _ rfl)
  · exact .pure trivial

/-- A lock is set, or removed for want of a text, only on what the executor of the command controls.
    -/
private theorem setLock_authorized (hc : w.Reaches executor c.executor) :
    Keeps (AuthorizedState w fs executor) c.setLock := by
  refine (controlled?_authorized _).bind fun found hfound => ?_
  split
  · rename_i d
    have hcontrols : w.controls c.executor d := hfound d rfl
    dsimp only
    split
    · exact removeLock_authorized hc hcontrols
    -- Nothing is stored unless the lock can be made ready.
    have hset : Keeps (AuthorizedState w fs executor) (EvalM.inLocks
        (LockService.set d c.lockKind c.args.right.plain c.executor)) := by
      refine .modifyGet fun s hs => ⟨?_, trivial⟩
      have hcases :=
        LockService.set_cases ⟨s.world, s.locks⟩ d c.lockKind c.args.right.plain c.executor
      rcases hcases with ⟨⟨e, hrun⟩, -⟩ | ⟨condition, -, hrun⟩
      · rw [hrun]
        exact hs
      · rw [hrun]
        exact Authorized.storeLock hs hc hcontrols _ _
    refine hset.bind fun result _ => ?_
    split
    · exact kept_authorizedState.say _
    · exact kept_authorizedState.say _
  · exact .pure trivial

/-- A wizard defines a function under a name that softcode may take. -/
private theorem defineFunction_authorized {name : String}
    (hwizard : ∃ m o, w.Reaches executor m ∧ w.object? m = some o ∧ o.isWizard)
    (hkey : ∀ f, fs.find? (lowerName name) = some f → f.isUser) :
    Keeps (AuthorizedState w fs executor) (c.defineFunction name) := by
  unfold defineFunction
  split
  · exact kept_authorizedState.say _
  split
  · exact kept_authorizedState.say _
  refine (kept_authorizedState.target? _).bind fun found _ => ?_
  split
  · refine Keeps.bind (Keeps.modify fun s hs => ?_) fun _ _ => kept_authorizedState.say _
    refine Authorized.changeFunction hs hwizard hkey fun name' hne => ?_
    -- Functions are registered under lower-case names, which the name is already.
    have hlower : lowerName (lowerName name) = lowerName name := by
      simp only [lowerName, String.toList_ofList, Text.lower_lower]
    rw [Functions.register, Function.user, hlower, Table.find?_insert, if_neg hne]
  · exact .pure trivial

/-- Functions are looked at before they are changed, and those that are not softcode were there from
    the start. -/
private theorem function_authorized
    (hwizard : ∃ m o, w.Reaches executor m ∧ w.object? m = some o ∧ o.isWizard) :
    Keeps (AuthorizedState w fs executor) c.function := by
  refine .get_bind fun s hs => ?_
  dsimp only
  -- Which name it is does not matter, only that it is the one that is looked up.
  generalize String.ofList (Text.lower (Text.trim c.args.left.chars)) = name
  have hkey : (s.functions.get? name).any (!·.isUser) = false →
      ∀ f, fs.find? (lowerName name) = some f → f.isUser := by
    intro hnot f hf
    by_contra huser
    rw [Functions.get?, hs.builtIn _ f hf huser] at hnot
    simp [huser] at hnot
  split
  · exact kept_authorizedState.say _
  split
  · split
    · exact kept_authorizedState.say _
    · rename_i hbuiltIn
      rw [Bool.or_eq_true, not_or, Bool.not_eq_true] at hbuiltIn
      refine Keeps.bind (Keeps.modify fun s' hs' => ?_) fun _ _ => kept_authorizedState.say _
      refine Authorized.changeFunction hs' hwizard (hkey hbuiltIn.1) fun name' hne => ?_
      rw [Functions.remove, Table.find?_erase, if_neg hne]
  split
  · exact kept_authorizedState.say _
  · rename_i hbuiltIn
    exact defineFunction_authorized hwizard (hkey (Bool.not_eq_true _ ▸ hbuiltIn))

end CommandCall

/-- The bodies of the standard commands keep the invariant.  The one that changes functions is run
    by wizards only. -/
private theorem commandList_authorized {call : CommandCall}
    (hcall : w.Reaches executor call.executor) :
    ∀ c ∈ commandList,
      (c.requires.isSome → ∃ s, AuthorizedState w fs executor s ∧
        s.world.canExecute call.executor c.requires) →
      Keeps (AuthorizedState w fs executor) (c.body call) := by
  have hfunction : (∃ s, AuthorizedState w fs executor s ∧
      s.world.canExecute call.executor (some .wizard)) →
      Keeps (AuthorizedState w fs executor) call.function := by
    rintro ⟨s, hs, hexecute⟩
    -- The check was made in some world of the run; there the objects are those of the first.
    rw [World.canExecute_congr hs.objects] at hexecute
    unfold World.canExecute at hexecute
    cases ho : w.object? call.executor with
    | none => simp [ho] at hexecute
    | some o =>
      rw [ho] at hexecute
      exact CommandCall.function_authorized ⟨call.executor, o, hcall, ho, hexecute⟩
  simp only [commandList, List.forall_mem_cons]
  exact ⟨fun _ => kept_authorizedState.notify _ _ _, fun _ => kept_authorizedState.pemit,
    fun _ => kept_authorizedState.emit, fun _ => CommandCall.setAttribute_authorized hcall,
    fun _ => CommandCall.setLock_authorized hcall, fun _ => CommandCall.clearLock_authorized hcall,
    fun _ => CommandCall.wipe_authorized hcall, fun hallowed => hfunction (hallowed rfl), by simp⟩

/-- **The standard commands act with authority,** whoever the executor makes act. -/
private theorem keep_authorizedState :
    standardCommands.Keep (AuthorizedState w fs executor) (w.Reaches executor) where
  about := aboutWorld_authorizedState
  message := kept_authorizedState.message
  holders s hs m hm d hd := by
    rw [World.commandHolders_congr hs.objects] at hd
    exact hm.commandHolders hd
  body c hc call hcall := commandList_authorized hcall c (mem_commandList hc)

/-! ### Engines -/

namespace Engine

/-- **Commands act with authority.** Whatever is evaluated, and however that ends, objects, channels
    and connections stay as they are, and so does who controls what.  An object whose attributes or
    locks have changed is controlled by an object that the executor reaches.  If the functions have
    changed, the executor reaches a wizard, and those that are not softcode are still there. -/
theorem evaluate_authorized {e : Engine} (h : e.commands = standardCommands) (text : Styled)
    (rule : Rule) (frame : Frame) (registers : Table String Styled) (cancelAfter : Option Nat) :
    Authorized e.world e.functions frame.executor
        (e.evaluate text rule frame registers cancelAfter).2.world
        (e.evaluate text rule frame registers cancelAfter).2.functions ∧
      (e.evaluate text rule frame registers cancelAfter).2.world.controls = e.world.controls := by
  have hkeep : e.commands.Keep (AuthorizedState e.world e.functions frame.executor)
      (e.world.Reaches frame.executor) := h ▸ keep_authorizedState
  have hstart :
      AuthorizedState e.world e.functions frame.executor (e.start registers cancelAfter) :=
    Authorized.refl e.world e.functions frame.executor
  have hauthorized : Authorized e.world e.functions frame.executor
      (e.evaluate text rule frame registers cancelAfter).2.world
      (e.evaluate text rule frame registers cancelAfter).2.functions :=
    hkeep.evaluate .self hstart text rule
  exact ⟨hauthorized, World.controls_congr hauthorized.objects⟩

/-- A puppet in the hands of a wizard may not set an attribute of the wizard, but it can give a
    command that is an attribute of the wizard, who then sets it.  The puppet does not control the
    wizard, but it reaches someone who does. -/
theorem puppet_evaluate_authorized :
    let greet : Styled := .ofString "$greet:&greeting me=hello"
    let w := (World.start.create .thing "Puppet" (some 1)).2
    let e : Engine := { world := w.putAttribute 1 ⟨["GREET".toList]⟩ greet 1 }
    let frame : Frame := { executor := 2, enactor := 2, caller := 2 }
    let after (text : String) : Engine := (e.evaluate (.ofString text) .commandList frame).2
    (after "&greeting #1=hi").world.attributes = e.world.attributes ∧
      (after "greet").world.attributeText? 1 "greeting" = some "hello".toList ∧
      e.world.controls 2 1 = false ∧ ∃ m, e.world.Reaches 2 m ∧ e.world.controls m 1 := by
  intro greet w e frame after
  -- The command of the wizard runs as the wizard, whoever types it.
  have hdiffers : (after "greet").world.attributes.find? 1 ≠ e.world.attributes.find? 1 := by
    decide +kernel
  refine ⟨by decide +kernel, by decide +kernel, by decide +kernel, ?_⟩
  exact (evaluate_authorized rfl (.ofString "greet") .commandList frame {} none).1.attributes 1
    hdiffers

end Engine

end Softcode
