import Softcode.Proofs.Evaluation.Ceilings
import Softcode.Proofs.Evaluation.Erasure

namespace Softcode

/-!
# Commands and markup

Markup is inert: an engine does the same without it.  Commands look at the characters of their
arguments only, and the texts that they store and send are stored and sent with their markup or
without.  Lists of commands are compared like texts (`runCommandList_mirrors`), and evaluations of
an engine are compared as a whole (`Engine.Standard.evaluate_erase`).
-/

variable {α : Type}

/-! ### What the standard commands do -/

/-- The arguments without markup. -/
def CommandArgs.erase (a : CommandArgs) : CommandArgs :=
  { a with left := a.left.erase, args := a.args.map Styled.erase }

/-- The right side of the arguments without markup. -/
private theorem CommandArgs.right_erase (a : CommandArgs) : a.erase.right = a.right.erase := by
  unfold right erase
  cases a.args <;> rfl

namespace CommandCall

/-- The call without markup. -/
def erase (c : CommandCall) : CommandCall := { c with args := c.args.erase, stack := c.stack.erase }

variable (c : CommandCall)

/-- Commands speak to their executor in plain texts. -/
private theorem say_mirrors (message : String) :
    Mirrors EvalState.mirror id (c.say message) (c.erase.say message) :=
  Mirrors.notify c.executor c.executor (.ofString message)

/-- Objects are found by the characters of their names. -/
private theorem target?_mirrors (name : List Char) :
    Mirrors EvalState.mirror id (c.target? name) (c.erase.target? name) := by
  have hlocate : Mirrors EvalState.mirror id (c.locate? name) (c.erase.locate? name) :=
    .locate? _ _
  refine hlocate.bind fun found => ?_
  dsimp only [id]
  split
  · exact (c.say_mirrors _).bind fun _ => .pure rfl
  · exact .pure rfl

/-- Who controls what does not depend on markup. -/
private theorem controlled?_mirrors (name : List Char) :
    Mirrors EvalState.mirror id (c.controlled? name) (c.erase.controlled? name) := by
  refine (c.target?_mirrors name).bind fun found => ?_
  dsimp only [id]
  split
  · exact .pure rfl
  refine Mirrors.ask.bind fun world => .ite Iff.rfl (fun _ => .pure rfl) fun _ => ?_
  exact (c.say_mirrors _).bind fun _ => .pure rfl

/-- A message is sent as it is written. -/
private theorem pemit_mirrors : Mirrors EvalState.mirror id c.pemit c.erase.pemit := by
  refine (c.target?_mirrors _).bind fun found => ?_
  dsimp only [id]
  split
  · rw [erase, CommandArgs.right_erase]
    exact .notify _ _ _
  · exact .pure rfl

/-- All in a place are sent the same message. -/
private theorem emit_mirrors : Mirrors EvalState.mirror id c.emit c.erase.emit := by
  -- Everyone in the room is told, one after the other.
  have hall : ∀ (ds : List Dbref) (w : World),
      ds.foldl (fun w d => w.notify d c.executor c.args.left.erase) w.erase
        = (ds.foldl (fun w d => w.notify d c.executor c.args.left) w).erase := by
    intro ds
    induction ds with
    | nil => exact fun _ => rfl
    | cons d ds ih =>
      intro w
      rw [List.foldl_cons, List.foldl_cons, ← World.erase_notify, ih]
  refine Mirrors.ask.bind fun world => ?_
  have hlocation : (world.erase.object? c.erase.executor).bind (·.location)
      = (world.object? c.executor).bind (·.location) := rfl
  rw [hlocation]
  split
  · exact .notify _ _ _
  · exact .act (hall _)

/-- A change to the world is reported in a plain text. -/
private theorem change_mirrors {x y : ExceptT ScriptError (StateM World) α}
    (h : World.ChangeErases x y) (done : α → String) :
    Mirrors EvalState.mirror id (c.change x done) (c.erase.change y done) := by
  refine (Mirrors.inWorld h).bind fun result => ?_
  cases result with
  | error e => exact c.say_mirrors _
  | ok a => exact c.say_mirrors _

/-- The value is stored with its markup or without; whether it is empty shows in both. -/
private theorem setAttribute_mirrors :
    Mirrors EvalState.mirror id c.setAttribute c.erase.setAttribute := by
  unfold setAttribute
  have hleft : c.erase.args.left.chars = c.args.left.chars := rfl
  have hright : c.erase.args.right = c.args.right.erase := c.args.right_erase
  rw [hleft, hright]
  dsimp only
  split
  · exact c.say_mirrors _
  refine (c.controlled?_mirrors _).bind fun found => ?_
  dsimp only [id]
  split
  · -- The two values have the same characters, so both are empty or neither.
    refine .ite Iff.rfl (fun _ => ?_) fun _ => ?_
    · exact c.change_mirrors (World.changeErases_removeAttribute _ _) _
    · exact c.change_mirrors (World.changeErases_setAttribute _ _ c.args.right c.executor) _
  · exact .pure rfl

/-- Attributes are wiped by the characters of a pattern. -/
private theorem wipe_mirrors : Mirrors EvalState.mirror id c.wipe c.erase.wipe := by
  unfold wipe
  have hleft : c.erase.args.left.chars = c.args.left.chars := rfl
  rw [hleft]
  refine (c.controlled?_mirrors _).bind fun found => ?_
  dsimp only [id]
  split
  · exact c.change_mirrors (World.changeErases_removeMatching _ _) _
  · exact .pure rfl

private theorem removeLock_mirrors (object : Dbref) :
    Mirrors EvalState.mirror id (c.removeLock object) (c.erase.removeLock object) :=
  Mirrors.bind (.modify (fun _ hs => hs) fun _ => rfl) fun _ => c.say_mirrors _

/-- The command that removes a lock reads the characters of a name. -/
private theorem clearLock_mirrors : Mirrors EvalState.mirror id c.clearLock c.erase.clearLock := by
  refine (c.controlled?_mirrors _).bind fun found => ?_
  dsimp only [id]
  split
  · exact c.removeLock_mirrors _
  · exact .pure rfl

/-- The key of a lock is a plain text. -/
private theorem setLock_mirrors : Mirrors EvalState.mirror id c.setLock c.erase.setLock := by
  unfold setLock
  have hleft : c.erase.args.left.chars = c.args.left.chars := rfl
  have hright : c.erase.args.right = c.args.right.erase := c.args.right_erase
  rw [hleft, hright]
  refine (c.controlled?_mirrors _).bind fun found => ?_
  dsimp only [id]
  split
  · -- An empty text removes the lock.
    rename_i object
    refine .ite Iff.rfl (fun _ => c.removeLock_mirrors object) fun _ => ?_
    refine (Mirrors.setLock object c.lockKind c.args.right.plain c.executor).bind fun result => ?_
    cases result with
    | error e => exact c.say_mirrors _
    | ok stored => exact c.say_mirrors _
  · exact .pure rfl

/-- A function that softcode defines is as inert as the attribute that it calls. -/
private theorem defineFunction_mirrors (name : String) :
    Mirrors EvalState.mirror id (c.defineFunction name) (c.erase.defineFunction name) := by
  unfold defineFunction
  have hright : c.erase.args.right = c.args.right.erase := c.args.right_erase
  rw [hright, Styled.chars_erase]
  split
  · exact c.say_mirrors _
  split
  · exact c.say_mirrors _
  refine (c.target?_mirrors _).bind fun found => ?_
  dsimp only [id]
  split
  · -- A function that calls an attribute may be in a standard table.
    refine Mirrors.bind (.modify (fun s hs => ?_) fun _ => rfl) fun _ => c.say_mirrors _
    exact Functions.Standard.register hs (.inl rfl)
  · exact .pure rfl

/-- Functions are defined and removed under the characters of their names. -/
private theorem function_mirrors : Mirrors EvalState.mirror id c.function c.erase.function := by
  refine .get_bind fun s _ => ?_
  have hleft : c.erase.args.left.chars = c.args.left.chars := rfl
  -- The table of functions holds no marked text.
  have hfunctions : (EvalState.mirror.erase s).functions = s.functions := rfl
  rw [hleft, hfunctions]
  dsimp only
  split
  · exact c.say_mirrors _
  refine .ite Iff.rfl (fun _ => ?_) fun _ => ?_
  · split
    · exact c.say_mirrors _
    · refine Mirrors.bind (.modify (fun s' hs' => ?_) fun _ => rfl) fun _ => c.say_mirrors _
      exact Functions.Standard.remove hs' _
  split
  · exact c.say_mirrors _
  · exact c.defineFunction_mirrors _

end CommandCall

/-- Does the command do the same with and without markup? -/
def Command.Inert (c : Command) : Prop :=
  ∀ call : CommandCall, Mirrors EvalState.mirror id (c.body call) (c.body call.erase)

/-- **No standard command sees markup.** -/
theorem inert_commandList : ∀ c ∈ commandList, c.Inert := by
  simp only [commandList, List.forall_mem_cons]
  exact ⟨fun call => .notify _ _ _, fun call => call.pemit_mirrors, fun call => call.emit_mirrors,
    fun call => call.setAttribute_mirrors, fun call => call.setLock_mirrors,
    fun call => call.clearLock_mirrors, fun call => call.wipe_mirrors,
    fun call => call.function_mirrors, by simp⟩

/-! ### Arguments of commands -/

/-- An argument that is taken as it is written, without its markup. -/
theorem literalText_erase (source : Styled) (nodes : List Node) :
    literalText source.erase nodes = (literalText source nodes).erase := by
  unfold literalText
  rw [Styled.erase_concat, List.map_map]
  congr 1
  refine List.map_congr_left fun node _ => ?_
  rw [Function.comp_apply]
  split <;> exact (source.erase_slice _ _).symm

variable {settings : Settings} {levels : Nat}

/-- Arguments mirror each other, evaluated or not. -/
theorem commandValue_mirrors (source : Styled) (stack : FrameStack) (use : ArgumentUse)
    (arg : Argument) : Mirrors EvalState.mirror Styled.erase
      (commandValue settings levels source stack use arg)
      (commandValue settings levels source.erase stack.erase use arg) := by
  cases use with
  | evaluate => exact Settings.evalArgument_mirrors levels source arg stack
  | literal => exact Mirrors.pure (literalText_erase source arg.nodes)

namespace Command

/-- All arguments of a command mirror each other. -/
theorem valuesOf_mirrors (c : Command) (source : Styled) (stack : FrameStack) (tree : Tree) :
    Mirrors EvalState.mirror CommandArgs.erase (c.valuesOf settings levels source stack tree)
      (c.valuesOf settings levels source.erase stack.erase tree) := by
  -- Each side is used in its own way, as the command says.
  have hvalue : ∀ use arg, Mirrors EvalState.mirror Styled.erase
      (commandValue settings levels source stack use arg)
      (commandValue settings levels source.erase stack.erase use arg) :=
    commandValue_mirrors source stack
  cases tree with
  | expression arg => exact (hvalue c.left arg).bind fun _ => .pure rfl
  | commaArgs list => exact (Mirrors.mapM_same (hvalue c.left) list).bind fun _ => .pure rfl
  | eqSplitCommand left right =>
    refine (hvalue c.left left).bind fun _ => ?_
    exact (Mirrors.mapM_same (hvalue c.right) _).bind fun _ => .pure rfl
  | eqSplitArgs left right =>
    refine (hvalue c.left left).bind fun _ => ?_
    exact (Mirrors.mapM_same (hvalue c.right) _).bind fun _ => .pure rfl
  | command _ => exact .pure rfl
  | commandList _ => exact .pure rfl

/-- Arguments, or a message, without markup. -/
def eraseArgs : Except Styled CommandArgs → Except Styled CommandArgs
  | .error message => .error message.erase
  | .ok args => .ok args.erase

/-- The text behind the name of a command is read the same way. -/
theorem argsOf_mirrors (c : Command) (rest : Styled) (stack : FrameStack) :
    Mirrors EvalState.mirror eraseArgs (c.argsOf settings levels rest stack)
      (c.argsOf settings levels rest.erase stack.erase) := by
  unfold argsOf
  rw [Styled.chars_erase]
  split
  · exact .pure rfl
  split
  · exact .pure rfl
  dsimp only
  split
  · exact .pure rfl
  · exact (c.valuesOf_mirrors rest stack _).bind fun _ => .pure rfl

/-- An inert command does the same to both texts. -/
theorem invoke_mirrors {c : Command} (hc : c.Inert) (switches : List String) (rest : Styled)
    (stack : FrameStack) : Mirrors EvalState.mirror id
      (c.invoke settings levels switches rest stack)
      (c.invoke settings levels switches rest.erase stack.erase) := by
  refine (c.argsOf_mirrors rest _).bind fun result => ?_
  cases result with
  | error message => exact .notify _ _ message
  | ok args => exact hc _

/-- Switches are compared by their characters. -/
theorem apply_mirrors {c : Command} (hc : c.Inert) (switches : List String) (rest : Styled)
    (stack : FrameStack) : Mirrors EvalState.mirror id
      (c.apply settings levels switches rest stack)
      (c.apply settings levels switches rest.erase stack.erase) := by
  unfold apply
  split
  · exact Mirrors.notify _ _ (.ofString _)
  · exact invoke_mirrors hc switches rest stack

/-- Privileges do not depend on markup. -/
theorem run_mirrors {c : Command} (hc : c.Inert) (switches : List String) (rest : Styled)
    (stack : FrameStack) : Mirrors EvalState.mirror id
      (c.run settings levels switches rest stack)
      (c.run settings levels switches rest.erase stack.erase) := by
  refine (Mirrors.countInvocation _).bind fun _ => ?_
  dsimp only
  split
  · refine Mirrors.ask.bind fun world =>
      .ite Iff.rfl (fun _ => apply_mirrors hc switches rest stack) fun _ => ?_
    exact Mirrors.notify _ _ (.ofString _)
  · exact apply_mirrors hc switches rest stack

end Command

/-! ### Commands of objects -/

/-- A table that is filled with texts and their places. -/
private theorem map_erase_foldl_zipIdx
    {f : Table String Styled → Styled × Nat → Table String Styled}
    (hf : ∀ t value i, (f t (value, i)).map Styled.erase = f (t.map Styled.erase) (value.erase, i))
    (values : List Styled) (k : Nat) (t : Table String Styled) :
    ((values.zipIdx k).foldl f t).map Styled.erase
      = ((values.map Styled.erase).zipIdx k).foldl f (t.map Styled.erase) := by
  induction values generalizing k t with
  | nil => rfl
  | cons value values ih =>
    rw [List.map_cons, List.zipIdx_cons, List.zipIdx_cons, List.foldl_cons, List.foldl_cons, ih, hf]

/-- Do actions of attributes mirror each other? -/
def ActionsMirror (act act' : Styled → FrameStack → EvalM Unit) : Prop :=
  ∀ text stack, Mirrors EvalState.mirror id (act text stack) (act' text.erase stack.erase)

variable {act act' : Styled → FrameStack → EvalM Unit} (stack : FrameStack)

/-- An attribute that reacts to a command runs in frames that mirror each other. -/
theorem runReaction_mirrors (hact : ActionsMirror act act') (r : Reaction) :
    Mirrors EvalState.mirror id (runReaction settings act stack r)
      (runReaction settings act' stack.erase r.erase) := by
  refine (Mirrors.countInvocation _).bind fun _ =>
    (Mirrors.enter _ stack.top _).bind fun frame => ?_
  refine Mirrors.bind (Mirrors.localize_of_eq ?_) fun inner =>
    hact r.action (stack.push inner)
  -- The frames differ in what the groups took.
  have hnumbered := map_erase_foldl_zipIdx
    (f := fun t e => t.insert (String.ofList (Number.natText e.2)) e.1)
    (fun _ _ _ => Table.map_insert ..) r.captures 0 r.named
  exact congrArg (fun numbered => ({ (frame.erase.runAs r.object).capture numbered with
    enactor := stack.top.executor
    arguments := r.captures.map Styled.erase
    attr := some (r.object, r.name) } : Frame)) hnumbered.symm

/-- The same attributes of an object react. -/
theorem runCommandsOn_mirrors (hact : ActionsMirror act act') (text : List Char) (holder : Dbref) :
    Mirrors EvalState.mirror id (runCommandsOn settings act text stack holder)
      (runCommandsOn settings act' text stack.erase holder) := by
  refine Mirrors.ask.bind fun world => ?_
  refine (Mirrors.withPatterns (world.reactions_erase _ _ _ _ _ _)).bind fun found => ?_
  -- As many attributes react with markup as without.
  rw [List.isEmpty_map, List.length_map]
  refine .ite Iff.rfl (fun _ => .pure rfl) fun _ => ?_
  refine (Mirrors.passesLock _ _ _).bind fun passes =>
    .ite Iff.rfl (fun _ => .pure rfl) fun _ => ?_
  exact (Mirrors.forM (runReaction_mirrors stack hact) found).bind fun _ => .pure rfl

/-- All objects around react to the same commands. -/
theorem runUserCommands_mirrors (hact : ActionsMirror act act') (text : List Char) :
    Mirrors EvalState.mirror id (runUserCommands settings act text stack)
      (runUserCommands settings act' text stack.erase) := by
  refine Mirrors.ask.bind fun world => ?_
  refine Mirrors.foldlM (fun ran holder => ?_) _ 0
  exact (runCommandsOn_mirrors stack hact text holder).bind fun _ => .pure rfl

/-! ### Texts of commands -/

/-- One command, built in or an attribute. -/
theorem runCommand_mirrors (hact : ActionsMirror act act') (text : Styled) :
    Mirrors EvalState.mirror id (runCommand standardCommands settings levels act text stack)
      (runCommand standardCommands settings levels act' text.erase stack.erase) := by
  have hinert : ∀ {c}, standardCommands.Has c → c.Inert :=
    fun hc => inert_commandList _ (mem_commandList hc)
  refine Mirrors.checkCancelled.bind fun _ => ?_
  -- The name is cut off at the same place, so the same command is found in either table.
  rw [Styled.chars_erase, Styled.length_erase, ← Styled.erase_slice]
  split
  · exact .pure rfl
  split
  · rename_i c hc
    exact Command.run_mirrors (hinert (.inr ⟨_, hc⟩)) _ _ stack
  dsimp only
  rw [← Styled.erase_slice, ← Styled.erase_trim]
  split
  · rename_i c hc
    exact Command.run_mirrors (hinert (.inl ⟨_, hc⟩)) _ _ stack
  refine (runUserCommands_mirrors stack hact _).bind fun ran => ?_
  dsimp only [id]
  split
  · exact Mirrors.notify _ _ (.ofString _)
  · exact .pure rfl

/-- Commands one after the other. -/
theorem runSpans_mirrors (hact : ActionsMirror act act') (source : Styled) (spans : List Span) :
    Mirrors EvalState.mirror id (runSpans standardCommands settings levels act source spans stack)
      (runSpans standardCommands settings levels act' source.erase spans stack.erase) := by
  have hspan : ∀ span : Span, Mirrors EvalState.mirror id
      (runCommand standardCommands settings levels act (source.slice span.start span.stop) stack)
      (runCommand standardCommands settings levels act'
        (source.erase.slice span.start span.stop) stack.erase) := by
    intro span
    rw [← Styled.erase_slice]
    exact runCommand_mirrors stack hact _
  have hspans := Mirrors.forM (φ := id)
    (g := fun span => runCommand standardCommands settings levels act'
      (source.erase.slice span.start span.stop) stack.erase) hspan spans
  rwa [List.map_id] at hspans

/-- **Lists of commands mirror each other.** -/
theorem runCommandList_mirrors (more : Nat) :
    ActionsMirror (runCommandList standardCommands settings levels more)
      (runCommandList standardCommands settings levels more) := by
  induction more with
  | zero => exact fun _ _ => .throw _
  | succ more ih =>
    intro text stack
    rw [runCommandList, runCommandList, Styled.chars_erase]
    split
    · exact Mirrors.notify _ _ _
    · exact runSpans_mirrors stack ih text _
    · exact .pure rfl

/-! ### What a text was read as -/

/-- The value without markup. -/
def CallValue.erase (v : CallValue) : CallValue := { v with value := v.value.erase }

/-- The arguments of a text that is not a command. -/
theorem evalAll_mirrors (source : Styled) (args : List Argument) (stack : FrameStack) :
    Mirrors EvalState.mirror (List.map CallValue.erase) (evalAll settings levels source args stack)
      (evalAll settings levels source.erase args stack.erase) := by
  refine Mirrors.mapM_same (fun arg => ?_) args
  exact (commandValue_mirrors source stack .evaluate arg).bind fun _ => .pure rfl

/-- Whatever a text is read as, it is evaluated alike. -/
theorem evalTree_mirrors (source : Styled) (tree : Tree) (stack : FrameStack) :
    Mirrors EvalState.mirror (List.map CallValue.erase)
      (evalTree standardCommands settings levels source tree stack)
      (evalTree standardCommands settings levels source.erase tree stack.erase) := by
  have hspans : ∀ spans, Mirrors EvalState.mirror id
      (runSpans standardCommands settings levels (runAction standardCommands settings levels) source
        spans stack)
      (runSpans standardCommands settings levels (runAction standardCommands settings levels)
        source.erase spans stack.erase) :=
    runSpans_mirrors stack (runCommandList_mirrors levels) source
  cases tree with
  | expression arg => exact evalAll_mirrors source _ stack
  | command span => exact (hspans [span]).bind fun _ => .pure rfl
  | commandList spans => exact (hspans spans).bind fun _ => .pure rfl
  | commaArgs args => exact evalAll_mirrors source _ stack
  | eqSplitArgs left right => exact evalAll_mirrors source _ stack
  | eqSplitCommand left right => exact evalAll_mirrors source _ stack

/-! ### Engines -/

namespace Evaluation

/-- The result without markup. -/
def erase (e : Evaluation) : Evaluation := { e with values := e.values.map CallValue.erase }

/-- What an evaluation says without markup. -/
private theorem message_erase (e : Evaluation) : e.erase.message = e.message.erase := by
  unfold message erase
  rw [Styled.erase_join, List.map_map, List.map_map]
  rfl

end Evaluation

namespace Engine

/-- The engine without the markup in its world. -/
def erase (e : Engine) : Engine := { e with world := e.world.erase }

/-- What an evaluation gives, and the engine after it, without markup. -/
def eraseResult (r : Except ScriptError Evaluation × Engine) :
    Except ScriptError Evaluation × Engine :=
  (r.1.map Evaluation.erase, r.2.erase)

/-- What an evaluation has counted and kept at its end. -/
def stateAfter (e : Engine) (text : Styled) (rule : Rule) (frame : Frame)
    (registers : Table String Styled) (cancelAfter : Option Nat) : EvalState :=
  (e.run e.settings.limits.levels text (parse rule text.chars).tree frame registers cancelAfter).2

variable {e : Engine}

/-- **Runs mirror each other,** in their results and in their states. -/
theorem Standard.run_erase (h : e.Standard) (levels : Nat) (source : Styled) (tree : Tree)
    (frame : Frame) (registers : Table String Styled) (cancelAfter : Option Nat) :
    e.erase.run levels source.erase tree frame.erase (registers.map Styled.erase) cancelAfter
      = ((e.run levels source tree frame registers cancelAfter).1.map (List.map CallValue.erase),
        (e.run levels source tree frame registers cancelAfter).2.erase) := by
  have hcommands : e.erase.commands = standardCommands := h.commands
  have htree : Mirrors EvalState.mirror (List.map CallValue.erase)
      (evalTree standardCommands e.settings levels source tree ⟨frame, {}⟩)
      (evalTree standardCommands e.settings levels source.erase tree ⟨frame.erase, {}⟩) :=
    evalTree_mirrors source tree ⟨frame, {}⟩
  unfold run
  rw [hcommands, h.commands]
  exact (htree (e.start registers cancelAfter) h.functions).2

/-- An engine tells the same. -/
private theorem tell_erase (e : Engine) (rule : Rule) (frame : Frame) (evaluation : Evaluation) :
    e.erase.tell rule frame.erase evaluation.erase
      = eraseResult (e.tell rule frame evaluation) := by
  unfold tell
  rw [Evaluation.message_erase]
  split
  · have hnotify := e.world.erase_notify frame.executor frame.executor evaluation.message
    exact congrArg (fun world : World => (Except.ok evaluation.erase, ({ e with world } : Engine)))
      hnotify.symm
  · rfl

/-- However an evaluation ends, what is kept of it is the same. -/
private theorem finish_erase (e : Engine) (rule : Rule) (frame : Frame)
    (r : Except Abort (List CallValue) × EvalState) :
    e.erase.finish rule frame.erase (r.1.map (List.map CallValue.erase), r.2.erase)
      = (e.finish rule frame r).map eraseResult := by
  obtain ⟨abort | values, s⟩ := r
  · cases abort with
    | limit kind => exact congrArg some ((e.keep s).tell_erase rule frame (.limitExceeded kind))
    | cancelled => rfl
    | exhausted => rfl
  · rfl

/-- The same under any bound on nested texts. -/
private theorem Standard.evaluateWithin_erase (h : e.Standard) (levels : Nat) (text : Styled)
    (rule : Rule) (frame : Frame) (registers : Table String Styled) (cancelAfter : Option Nat) :
    e.erase.evaluateWithin levels text.erase rule frame.erase
      (registers.map Styled.erase) cancelAfter
      = (e.evaluateWithin levels text rule frame registers cancelAfter).map eraseResult := by
  unfold evaluateWithin
  dsimp only
  rw [Styled.chars_erase, h.run_erase]
  split
  · rename_i first rest _
    exact congrArg some (e.tell_erase rule frame (.malformed first rest))
  · exact e.finish_erase rule frame _

/-- **Markup is inert.** Evaluate a text, and evaluate it again without any markup, neither in the
    text nor in the attributes, registers, arguments, captures and loops that it sees.  Both end in
    the same way, with the same characters in every value and every message, for the same
    recipients and in the same order.  The worlds afterwards are the same up to markup, and so are
    the registers; all that was counted is the same. -/
theorem Standard.evaluate_erase (h : e.Standard) (text : Styled) (rule : Rule) (frame : Frame)
    (registers : Table String Styled) (cancelAfter : Option Nat) :
    e.erase.evaluate text.erase rule frame.erase (registers.map Styled.erase) cancelAfter
        = ((e.evaluate text rule frame registers cancelAfter).1.map Evaluation.erase,
          (e.evaluate text rule frame registers cancelAfter).2.erase) ∧
      e.erase.stateAfter text.erase rule frame.erase (registers.map Styled.erase) cancelAfter
        = (e.stateAfter text rule frame registers cancelAfter).erase := by
  constructor
  · have hlevels : e.erase.settings = e.settings := rfl
    unfold evaluate
    rw [hlevels, h.evaluateWithin_erase]
    cases e.evaluateWithin e.settings.limits.levels text rule frame registers cancelAfter <;> rfl
  · exact congrArg (fun r => r.2) (h.run_erase _ text _ frame registers cancelAfter)

/-- A name in red is sent in red capitals, and without the colour as the same capitals. -/
theorem redName_evaluate_erase :
    let red : Markup := .style { foreground := some .red }
    let name : Styled := .marked "bob".toList red
    let e : Engine := { world := World.start.putAttribute 1 ⟨["NAME".toList]⟩ name 1 }
    let frame : Frame := { executor := 1, enactor := 1, caller := 1 }
    let text := Styled.ofString "think ucstr(u(name))"
    (e.evaluate text .singleCommand frame).2.world.outbox = [⟨1, 1, .marked "BOB".toList red⟩] ∧
      (e.erase.evaluate text.erase .singleCommand frame.erase).2.world.outbox
        = [⟨1, 1, .ofString "BOB"⟩] := by
  intro red name e frame text
  have hmarked : (e.evaluate text .singleCommand frame).2.world.outbox
      = [⟨1, 1, .marked "BOB".toList red⟩] := by decide +kernel
  have hstandard : e.Standard := ⟨Functions.standard_standardFunctions, rfl⟩
  have herase := (hstandard.evaluate_erase text .singleCommand frame {} none).1
  refine ⟨hmarked, ?_⟩
  -- Colours erased from the answer are those erased from the world before.
  calc (e.erase.evaluate text.erase .singleCommand frame.erase).2.world.outbox
      = (e.evaluate text .singleCommand frame).2.world.outbox.map Notification.erase :=
        congrArg (fun r => r.2.world.outbox) herase
    _ = [⟨1, 1, .ofString "BOB"⟩] := by
        rw [hmarked]
        rfl

end Engine

end Softcode
