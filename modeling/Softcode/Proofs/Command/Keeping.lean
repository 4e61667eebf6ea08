import Softcode.Engine
import Softcode.Proofs.Evaluation.Commands
import Softcode.Proofs.Evaluation.Footprint

namespace Softcode

/-!
# What commands keep

Commands evaluate their arguments, send messages and do what their bodies do.  An invariant that
expressions and messages keep (`KeptByMessages`) is kept by every command whose body keeps it,
through all the actions of attributes that commands start (`Commands.KeepIn.runCommandList`).  The
frames in which actions run are other ones, so what may run is followed too.  If the invariant is
about the world and the functions only, an engine keeps it however an evaluation ends
(`Commands.Keep.evaluate`).
-/

variable {α β : Type} {inv : EvalState → Prop} {scope : ScopeId → Prop}

/-! ### Reactions -/

/-- What a list is turned into comes from its elements. -/
private theorem mem_mapM_run {ρ : Type} {f : α → StateM ρ β} {as : List α} {s : ρ} {b : β}
    (h : b ∈ ((as.mapM f).run s).1) : ∃ a ∈ as, ∃ s', b = ((f a).run s').1 := by
  induction as generalizing s with
  | nil => exact absurd h List.not_mem_nil
  | cons a as ih =>
    rw [List.mapM_cons] at h
    have hb : b ∈ ((f a).run s).1 :: ((as.mapM f).run ((f a).run s).2).1 := h
    rcases List.mem_cons.mp hb with rfl | hb
    · exact ⟨a, List.mem_cons_self, s, rfl⟩
    · obtain ⟨a', ha', hs'⟩ := ih hb
      exact ⟨a', List.mem_cons_of_mem _ ha', hs'⟩

/-- An attribute reacts in the name of the object that was asked, also if it is inherited. -/
private theorem World.object_of_reactionOf? {capacity : Nat} {d : Dbref} {marker : PatternMarker}
    {text : List Char} {source : AttributeSource} {a : Attribute} {cache : PatternCache}
    {r : Reaction} (h : ((reactionOf? capacity d marker text source a).run cache).1 = some r) :
    r.object = d := by
  unfold reactionOf? at h
  -- Neither an attribute that forbids commands nor one without a pattern reacts.
  split at h
  · cases h
  split at h
  · cases h
  rw [StateT.run_bind] at h
  generalize (modifyGet fun c : PatternCache => c.ready _ capacity :
    StateM PatternCache (Option Matcher)).run cache = ready at h
  obtain ⟨m, cache'⟩ := ready
  cases m with
  | none => cases h
  | some m =>
    obtain ⟨groups, -, rfl⟩ := Option.map_eq_some_iff.mp h
    rfl

/-- All reactions of an object are in its name. -/
theorem World.object_of_mem_reactions {w : World} {hops capacity : Nat} {d : Dbref}
    {marker : PatternMarker} {text : List Char} {inherits : Bool} {cache : PatternCache}
    {r : Reaction} (h : r ∈ ((w.reactions hops capacity d marker text inherits).run cache).1) :
    r.object = d := by
  obtain ⟨found, hfound, rfl⟩ := List.mem_filterMap.mp h
  obtain ⟨a, -, s, hs⟩ := mem_mapM_run hfound
  exact object_of_reactionOf? hs.symm

/-! ### Messages -/

/-- Is the invariant kept by everything that expressions do, and by messages? -/
structure KeptByMessages (inv : EvalState → Prop) (scope : ScopeId → Prop) : Prop
    extends KeptByExpressions inv scope where
  message : ∀ {s : EvalState}, inv s → ∀ target sender message,
    inv { s with world := s.world.notify target sender message }

namespace KeptByMessages

/-- A message is sent, unless the evaluation has been cancelled. -/
theorem notify (h : KeptByMessages inv scope) (target sender : Dbref) (message : Styled) :
    Keeps inv (EvalM.notify target sender message) :=
  h.checkCancelled.bind fun _ _ => .modify fun _ hs => h.message hs target sender message

variable {c : CommandCall}

/-- The executor of a command is told something. -/
theorem say (h : KeptByMessages inv scope) (message : String) : Keeps inv (c.say message) :=
  h.notify _ _ _

/-- An object is looked up, and if there is none, the executor is told. -/
theorem target? (h : KeptByMessages inv scope) (name : List Char) : Keeps inv (c.target? name) := by
  have hlocate : Keeps inv (c.locate? name) := h.locate? _ name
  refine hlocate.bind fun found _ => ?_
  dsimp only
  split
  · exact (h.say _).bind fun _ _ => .pure trivial
  · exact .pure trivial

/-- What passes the check is controlled in a world of the invariant. -/
theorem controlled? (h : KeptByMessages inv scope) (name : List Char) :
    Keeps inv (c.controlled? name) fun found =>
      ∀ d ∈ found, ∃ s, inv s ∧ s.world.controls c.executor d := by
  refine (h.target? name).bind fun found _ => ?_
  split
  · exact .pure (by simp)
  refine h.ask.bind ?_
  rintro _ ⟨s, hs, rfl⟩
  split
  · rename_i hcontrols
    refine .pure ?_
    rintro _ ⟨⟩
    exact ⟨s, hs, hcontrols⟩
  · exact (h.say _).bind fun _ _ => .pure (by simp)

theorem pemit (h : KeptByMessages inv scope) : Keeps inv c.pemit := by
  refine (h.target? _).bind fun found _ => ?_
  split
  · exact h.notify _ _ _
  · exact .pure trivial

/-- A message to all that is in a place. -/
theorem emit (h : KeptByMessages inv scope) : Keeps inv c.emit := by
  refine h.ask.bind fun world _ => ?_
  split
  · exact h.notify _ _ _
  rename_i location _
  refine h.checkCancelled.bind fun _ _ => .modify fun s hs => ?_
  -- The messages are sent one after the other.
  have hall : ∀ (ds : List Dbref) (w : World), inv { s with world := w } →
      inv { s with world := ds.foldl (fun w d => w.notify d c.executor c.args.left) w } := by
    intro ds
    induction ds with
    | nil => exact fun _ hw => hw
    | cons d ds ih => exact fun w hw => ih _ (h.message hw d _ _)
  exact hall _ s.world hs

end KeptByMessages

/-! ### Commands -/

/-- Do the commands keep the invariant, if they are given in frames that `may` give them? -/
structure Commands.KeepIn (cs : Commands) (inv : EvalState → Prop) (scope : ScopeId → Prop)
    (may : Frame → Prop) : Prop extends KeptByMessages inv scope where
  scope_of_may : ∀ frame, may frame → scope frame.registers
  named : ∀ frame command switches, may frame → may { frame with command, switches }
  /-- The frames in which objects run actions for one that may, may too. -/
  localized : ∀ s, inv s → ∀ frame, may frame → ∀ d ∈ s.world.commandHolders frame.executor,
    ∀ inner : Frame, inner.executor = d → Keeps inv (EvalM.localize inner) may
  /-- A command that asks for a privilege is given only by those who have it. -/
  body : ∀ c, cs.Has c → ∀ call : CommandCall, may call.stack.top →
    (c.requires.isSome → ∃ s, inv s ∧ s.world.canExecute call.executor c.requires) →
    Keeps inv (c.body call)

namespace Commands.KeepIn

variable {cs : Commands} {may : Frame → Prop} {settings : Settings} {levels : Nat}
  {stack : FrameStack}

/-- An argument of a command is an expression. -/
theorem argument (h : cs.KeepIn inv scope may) (hstack : may stack.top) (source : Styled)
    (arg : Argument) : Keeps inv (settings.evalArgument levels source arg stack) :=
  h.evalArgument settings levels source arg stack (h.scope_of_may _ hstack)

/-- An argument is evaluated or taken as it stands. -/
theorem commandValue (h : cs.KeepIn inv scope may) (hstack : may stack.top) (source : Styled)
    (use : ArgumentUse) (arg : Argument) :
    Keeps inv (commandValue settings levels source stack use arg) := by
  cases use with
  | evaluate => exact h.argument hstack source arg
  | literal => exact Keeps.pure trivial

/-- The values of all arguments. -/
theorem valuesOf (h : cs.KeepIn inv scope may) (hstack : may stack.top) (c : Command)
    (source : Styled) (tree : Tree) : Keeps inv (c.valuesOf settings levels source stack tree) := by
  -- Each argument is evaluated or taken as it is, as the command says.
  have hvalue : ∀ use arg, Keeps inv (Softcode.commandValue settings levels source stack use arg) :=
    h.commandValue hstack source
  cases tree with
  | expression arg => exact (hvalue c.left arg).bind fun _ _ => .pure trivial
  | commaArgs list => exact (Keeps.mapM (hvalue c.left) list).bind fun _ _ => .pure trivial
  | eqSplitCommand left right =>
    refine (hvalue c.left left).bind fun _ _ => ?_
    exact (Keeps.mapM (hvalue c.right) _).bind fun _ _ => .pure trivial
  | eqSplitArgs left right =>
    refine (hvalue c.left left).bind fun _ _ => ?_
    exact (Keeps.mapM (hvalue c.right) _).bind fun _ _ => .pure trivial
  | command _ => exact .pure trivial
  | commandList _ => exact .pure trivial

/-- The arguments of a command, read from the text behind its name. -/
theorem argsOf (h : cs.KeepIn inv scope may) (hstack : may stack.top) (c : Command)
    (rest : Styled) :
    Keeps inv (c.argsOf settings levels rest stack) := by
  unfold Command.argsOf
  split
  · exact .pure trivial
  split
  · exact .pure trivial
  dsimp only
  split
  · exact .pure trivial
  · exact (h.valuesOf hstack c rest _).bind fun _ _ => .pure trivial

/-- The body of a command runs under its name and switches. -/
theorem invoke (h : cs.KeepIn inv scope may) {c : Command} (hc : cs.Has c) (hstack : may stack.top)
    (hallowed : c.requires.isSome → ∃ s, inv s ∧ s.world.canExecute stack.top.executor c.requires)
    (switches : List String) (rest : Styled) :
    Keeps inv (c.invoke settings levels switches rest stack) := by
  have hinner := h.named stack.top (some c.name) switches hstack
  refine (h.argsOf hinner c rest).bind fun result _ => ?_
  cases result with
  | error message => exact h.notify _ _ message
  | ok args => exact h.body c hc _ hinner hallowed

/-- A command runs, unless it has a switch that it does not know. -/
theorem apply (h : cs.KeepIn inv scope may) {c : Command} (hc : cs.Has c) (hstack : may stack.top)
    (hallowed : c.requires.isSome → ∃ s, inv s ∧ s.world.canExecute stack.top.executor c.requires)
    (switches : List String) (rest : Styled) :
    Keeps inv (c.apply settings levels switches rest stack) := by
  unfold Command.apply
  split
  · exact h.notify _ _ _
  · exact h.invoke hc hstack hallowed switches rest

/-- A command runs if its privilege is there, and what the check has seen is passed on. -/
theorem run (h : cs.KeepIn inv scope may) {c : Command} (hc : cs.Has c) (hstack : may stack.top)
    (switches : List String) (rest : Styled) :
    Keeps inv (c.run settings levels switches rest stack) := by
  refine (h.countInvocation _).bind fun _ _ => ?_
  dsimp only
  split
  · refine h.ask.bind ?_
    rintro _ ⟨s, hs, rfl⟩
    split
    · rename_i hexecute
      exact h.apply hc hstack (fun _ => ⟨s, hs, hexecute⟩) switches rest
    · exact h.notify _ _ _
  · rename_i hnone
    exact h.apply hc hstack (fun hsome => absurd hsome hnone) switches rest

variable {act : Styled → FrameStack → EvalM Unit}

/-- The action of an attribute runs in a frame of its own. -/
theorem runReaction (h : cs.KeepIn inv scope may)
    (hact : ∀ text inner, may inner.top → Keeps inv (act text inner)) {r : Reaction}
    (hlocal : ∀ inner : Frame, inner.executor = r.object →
      Keeps inv (EvalM.localize inner) may) (stack : FrameStack) :
    Keeps inv (runReaction settings act stack r) := by
  refine (h.countInvocation _).bind fun _ _ =>
    (KeptByExpressions.enter _ _ _).bind fun frame _ => ?_
  exact (hlocal _ rfl).bind fun inner hinner => hact _ _ hinner

/-- The commands that are attributes of one object. -/
theorem runCommandsOn (h : cs.KeepIn inv scope may)
    (hact : ∀ text inner, may inner.top → Keeps inv (act text inner)) {holder : Dbref}
    (hlocal : ∀ inner : Frame, inner.executor = holder →
      Keeps inv (EvalM.localize inner) may) (text : List Char) :
    Keeps inv (runCommandsOn settings act text stack holder) := by
  refine h.ask.bind fun world _ => ?_
  have hfound : EarlyM.Gives (EvalM.withPatterns (world.reactions settings.parentHops
      settings.patternCapacity holder .command text true)) fun found =>
      ∀ r ∈ found, r.object = holder := by
    rintro t found _ ⟨⟩ r hr
    exact World.object_of_mem_reactions hr
  -- Only the objects whose reactions are found run actions, and these may.
  refine ((h.withPatterns _).and_gives hfound).bind
    fun found hobject => ?_
  split
  · exact .pure trivial
  refine (h.passesLock _ _ _).bind fun passes _ => ?_
  split
  · exact .pure trivial
  · refine (Keeps.forM fun r hr => ?_).bind fun _ _ => .pure trivial
    exact h.runReaction hact (fun inner hinner => hlocal inner (hinner.trans (hobject r hr))) stack

/-- The commands that are attributes of the objects around the executor. -/
theorem runUserCommands (h : cs.KeepIn inv scope may)
    (hact : ∀ text inner, may inner.top → Keeps inv (act text inner)) (hstack : may stack.top)
    (text : List Char) : Keeps inv (runUserCommands settings act text stack) := by
  refine h.ask.bind ?_
  rintro _ ⟨s, hs, rfl⟩
  refine Keeps.foldlM (fun ran holder hholder => ?_) 0
  have hlocal := h.localized s hs _ hstack holder hholder
  exact (h.runCommandsOn hact hlocal text).bind fun _ _ => .pure trivial

/-- One command, built in or an attribute. -/
theorem runCommand (h : cs.KeepIn inv scope may)
    (hact : ∀ text inner, may inner.top → Keeps inv (act text inner)) (hstack : may stack.top)
    (text : Styled) : Keeps inv (runCommand cs settings levels act text stack) := by
  refine h.checkCancelled.bind fun _ _ => ?_
  split
  · exact .pure trivial
  -- Commands with a sign in front come first, then those with a name, then those of softcode.
  split
  · rename_i c hc
    exact h.run (.inr ⟨_, hc⟩) hstack _ _
  dsimp only
  split
  · rename_i c hc
    exact h.run (.inl ⟨_, hc⟩) hstack _ _
  refine (h.runUserCommands hact hstack _).bind fun ran _ => ?_
  split
  · exact h.notify _ _ _
  · exact .pure trivial

theorem runSpans (h : cs.KeepIn inv scope may)
    (hact : ∀ text inner, may inner.top → Keeps inv (act text inner)) (hstack : may stack.top)
    (source : Styled) (spans : List Span) :
    Keeps inv (runSpans cs settings levels act source spans stack) :=
  .forM fun _ _ => h.runCommand hact hstack _

/-- **Lists of commands keep the invariant,** however deep actions nest in them. -/
theorem runCommandList (h : cs.KeepIn inv scope may) (more : Nat) (text : Styled)
    (stack : FrameStack) (hstack : may stack.top) :
    Keeps inv (runCommandList cs settings levels more text stack) := by
  induction more generalizing text stack with
  | zero => exact .throw _
  | succ more ih =>
    rw [Softcode.runCommandList]
    split
    · exact h.notify _ _ _
    · exact h.runSpans ih hstack text _
    · exact .pure trivial

/-- Whatever has been read, commands or arguments. -/
theorem evalTree (h : cs.KeepIn inv scope may) (hstack : may stack.top) (source : Styled)
    (tree : Tree) :
    Keeps inv (evalTree cs settings levels source tree stack) := by
  have hspans : ∀ spans, Keeps inv
      (Softcode.runSpans cs settings levels (runAction cs settings levels) source spans stack) :=
    h.runSpans (h.runCommandList levels) hstack source
  have hvalues : ∀ args, Keeps inv (evalAll settings levels source args stack) := by
    refine Keeps.mapM fun arg => ?_
    exact (h.argument hstack source arg).bind fun _ _ => .pure trivial
  -- Commands are run from their spans, and all else is arguments.
  cases tree with
  | expression arg => exact hvalues _
  | command span => exact (hspans [span]).bind fun _ _ => .pure trivial
  | commandList spans => exact (hspans spans).bind fun _ _ => .pure trivial
  | commaArgs args => exact hvalues _
  | eqSplitArgs left right => exact hvalues _
  | eqSplitCommand left right => exact hvalues _

end Commands.KeepIn

/-! ### Invariants of the world and the functions -/

/-- Is the invariant about nothing but the world and the functions? -/
def AboutWorld (inv : EvalState → Prop) : Prop :=
  ∀ s t : EvalState, inv s → t.world = s.world → t.functions = s.functions → inv t

/-- **Expressions leave the world and the functions alone,** in whatever frames. -/
theorem AboutWorld.kept (h : AboutWorld inv) : KeptByExpressions inv fun _ => True where
  counters hs hworld hfunctions _ _ := h _ _ hs hworld hfunctions
  locks hs _ _ _ := h _ _ hs rfl rfl
  set hs _ _ _ _ := h _ _ hs rfl rfl
  fork hs _ := ⟨h _ _ hs rfl rfl, trivial⟩

/-- Do the commands keep the invariant, if only those give them who `may`? -/
structure Commands.Keep (cs : Commands) (inv : EvalState → Prop) (may : Dbref → Prop) : Prop where
  about : AboutWorld inv
  message : ∀ {s : EvalState}, inv s → ∀ target sender message,
    inv { s with world := s.world.notify target sender message }
  /-- Objects whose attributes can be commands for one who may, may too. -/
  holders : ∀ s, inv s → ∀ m, may m → ∀ d ∈ s.world.commandHolders m, may d
  /-- A command that asks for a privilege is given only by those who have it. -/
  body : ∀ c, cs.Has c → ∀ call : CommandCall, may call.executor →
    (c.requires.isSome → ∃ s, inv s ∧ s.world.canExecute call.executor c.requires) →
    Keeps inv (c.body call)

namespace Commands.Keep

variable {cs : Commands} {may : Dbref → Prop}

/-- Who runs a frame decides whether it may. -/
private theorem keepIn (h : cs.Keep inv may) :
    cs.KeepIn inv (fun _ => True) fun frame => may frame.executor where
  toKeptByExpressions := h.about.kept
  message := h.message
  scope_of_may _ _ := trivial
  named _ _ _ hframe := hframe
  localized s hs frame hframe d hd inner hinner := by
    have hkeeps : Keeps inv (EvalM.localize inner) := h.about.kept.localize inner
    refine hkeeps.and_gives fun t a t' hrun => ?_
    rw [EvalM.gives_localize inner t a t' hrun]
    exact hinner ▸ h.holders s hs _ hframe d hd
  body := h.body

/-! ### Engines -/

variable {e : Engine} {registers : Table String Styled} {cancelAfter : Option Nat} {rule : Rule}
  {frame : Frame}

/-- What an engine tells somebody is a message. -/
theorem tell (h : e.commands.Keep inv may) (hinv : inv (e.start registers cancelAfter))
    (evaluation : Evaluation) :
    inv ((e.tell rule frame evaluation).2.start registers cancelAfter) := by
  unfold Engine.tell
  split
  · exact h.message hinv _ _ _
  · exact hinv

/-- However an evaluation ends, what an engine keeps of it is in the invariant. -/
theorem finish (h : e.commands.Keep inv may) {r : Except Abort (List CallValue) × EvalState}
    (hinv : inv r.2) {result : Except ScriptError Evaluation × Engine}
    (hresult : e.finish rule frame r = some result) :
    inv (result.2.start registers cancelAfter) := by
  have hkeep : inv ((e.keep r.2).start registers cancelAfter) := h.about _ _ hinv rfl rfl
  -- The world of the last state is kept, whether the evaluation was completed or not.
  obtain ⟨abort | values, s⟩ := r
  · cases abort with
    | limit kind =>
      obtain rfl := Option.some.inj hresult
      exact tell (e := e.keep s) h hkeep _
    | cancelled =>
      obtain rfl := Option.some.inj hresult
      exact hkeep
    | exhausted => cases hresult
  · obtain rfl := Option.some.inj hresult
    exact hkeep

/-- **An engine keeps what its commands keep.** However an evaluation ends, the world and the
    functions are in the invariant afterwards if they were before. -/
theorem evaluate (h : e.commands.Keep inv may) (hframe : may frame.executor)
    (hinv : inv (e.start registers cancelAfter)) (text : Styled) (rule : Rule) :
    inv ((e.evaluate text rule frame registers cancelAfter).2.start registers cancelAfter) := by
  unfold Engine.evaluate Engine.evaluateWithin
  dsimp only
  split
  · exact h.tell hinv _
  · have htree : Keeps inv (Softcode.evalTree e.commands e.settings e.settings.limits.levels text
        (parse rule text.chars).tree ⟨frame, {}⟩) := h.keepIn.evalTree hframe text _
    -- An evaluation that runs out of levels has no result, and the engine stays as it was.
    cases hfinish : e.finish rule frame (e.run e.settings.limits.levels text
        (parse rule text.chars).tree frame registers cancelAfter) with
    | none => exact hinv
    | some result => exact h.finish (htree _ hinv).1 hfinish

end Commands.Keep

end Softcode
