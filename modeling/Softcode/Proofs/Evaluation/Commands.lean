import Softcode.Command.Dispatch
import Softcode.Command.Standard
import Softcode.Proofs.Evaluation.Expression

namespace Softcode

/-!
# Commands and ceilings

Commands act on the world, but look at no ceiling themselves.  They evaluate their arguments, and
they can be actions of attributes, which are lists of commands again.  Such an action is one call
deeper, so lists of commands are compared like texts (`runCommandList_follows`).
-/

variable {α β : Type} {cancellable : Prop} {forgives : Abort → Prop}

namespace Follows

/-! ### What the standard commands do -/

variable (c : CommandCall)

theorem say (message : String) :
    Follows (EvalState.terms cancellable forgives) (c.say message) (c.say message) :=
  notify _ _ _

/-- Both look for an object under the same name. -/
theorem target? (name : List Char) :
    Follows (EvalState.terms cancellable forgives) (c.target? name) (c.target? name) := by
  refine (locate? _ name).bind fun found => ?_
  dsimp only
  split
  · exact (say c _).bind fun _ => .pure _
  · exact .pure _

/-- Both check whether it is controlled. -/
theorem controlled? (name : List Char) :
    Follows (EvalState.terms cancellable forgives) (c.controlled? name) (c.controlled? name) := by
  refine (target? c name).bind fun found => ?_
  split
  · exact .pure _
  refine ask.bind fun world => ?_
  split
  · exact .pure _
  · exact (say c _).bind fun _ => .pure _

theorem pemit : Follows (EvalState.terms cancellable forgives) c.pemit c.pemit := by
  refine (target? c _).bind fun found => ?_
  split
  · exact notify _ _ _
  · exact .pure _

theorem emit : Follows (EvalState.terms cancellable forgives) c.emit c.emit := by
  refine ask.bind fun world => ?_
  split
  · exact notify _ _ _
  · exact act _

/-- Both change the world and report it. -/
theorem change (x : ExceptT ScriptError (StateM World) α) (done : α → String) :
    Follows (EvalState.terms cancellable forgives) (c.change x done) (c.change x done) := by
  refine (inWorld x).bind fun result => ?_
  split
  · exact say c _
  · exact say c _

/-- Both set or clear the same attribute. -/
theorem setAttribute :
    Follows (EvalState.terms cancellable forgives) c.setAttribute c.setAttribute := by
  unfold CommandCall.setAttribute
  dsimp only
  split
  · exact say c _
  refine (controlled? c _).bind fun found => ?_
  split
  · split <;> exact change c _ _
  · exact .pure _

/-- Both wipe the same attributes. -/
theorem wipe : Follows (EvalState.terms cancellable forgives) c.wipe c.wipe := by
  unfold CommandCall.wipe
  refine (controlled? c _).bind fun found => ?_
  split
  · exact change c _ _
  · exact .pure _

theorem removeLock (object : Dbref) :
    Follows (EvalState.terms cancellable forgives) (c.removeLock object) (c.removeLock object) := by
  refine Follows.bind (modify ?_) fun _ => say c _
  exact fun _ hs => hs

theorem clearLock : Follows (EvalState.terms cancellable forgives) c.clearLock c.clearLock := by
  refine (controlled? c _).bind fun found => ?_
  split
  · exact removeLock c _
  · exact .pure _

/-- Both set the same lock, or are told the same error. -/
theorem setLock : Follows (EvalState.terms cancellable forgives) c.setLock c.setLock := by
  refine (controlled? c _).bind fun found => ?_
  split
  · dsimp only
    split
    · exact removeLock c _
    refine (inLocks _).bind fun result => ?_
    split
    · exact say c _
    · exact say c _
  · exact .pure _

/-- A function that is defined is softcode. -/
theorem defineFunction (name : String) :
    Follows (EvalState.terms cancellable forgives) (c.defineFunction name)
      (c.defineFunction name) := by
  unfold CommandCall.defineFunction
  split
  · exact say c _
  split
  · exact say c _
  refine (target? c _).bind fun found => ?_
  split
  · refine Follows.bind (modify ?_) fun _ => say c _
    exact fun _ hs => ⟨hs.1, hs.2.register (.inl rfl)⟩
  · exact .pure _

/-- Both define or remove the same function. -/
theorem function : Follows (EvalState.terms cancellable forgives) c.function c.function := by
  refine get_bind fun s _ => ?_
  dsimp only
  split
  · exact say c _
  split
  · split
    · exact say c _
    · refine Follows.bind (modify ?_) fun _ => say c _
      exact fun _ hs => ⟨hs.1, hs.2.remove _⟩
  split
  · exact say c _
  · exact defineFunction c _

end Follows

/-! ### The standard commands -/

namespace CommandCall

/-- The call with other ceilings. -/
def withLimits (c : CommandCall) (l : Limits) : CommandCall :=
  { c with settings := c.settings.withLimits l }

variable (c : CommandCall) (l : Limits)

/-- Control is checked without a look at the ceilings. -/
private theorem controlled?_withLimits : (c.withLimits l).controlled? = c.controlled? := rfl

private theorem setAttribute_withLimits : (c.withLimits l).setAttribute = c.setAttribute := by
  rw [setAttribute, controlled?_withLimits]
  rfl

private theorem wipe_withLimits : (c.withLimits l).wipe = c.wipe := by
  rw [wipe, controlled?_withLimits]
  rfl

private theorem setLock_withLimits : (c.withLimits l).setLock = c.setLock := by
  rw [setLock, controlled?_withLimits]
  rfl

end CommandCall

/-- Does the command do the same under all ceilings? -/
def Command.Uniform (c : Command) : Prop :=
  ∀ (cancellable : Prop) (forgives : Abort → Prop) (call : CommandCall) (l : Limits),
    Follows (EvalState.terms cancellable forgives) (c.body call) (c.body (call.withLimits l))

/-- Is this one of the commands? -/
def Commands.Has (cs : Commands) (c : Command) : Prop :=
  (∃ name, cs.get? name = some c) ∨ ∃ token, cs.ofToken? token = some c

/-- Are all commands uniform? -/
def Commands.Uniform (cs : Commands) : Prop := ∀ c, cs.Has c → c.Uniform

/-- A command that does not look at the ceilings is uniform if it keeps the terms. -/
private theorem Command.uniform_of_self {c : Command}
    (hsame : ∀ call l, c.body (CommandCall.withLimits call l) = c.body call)
    (hself : ∀ (cancellable : Prop) (forgives : Abort → Prop) call,
      Follows (EvalState.terms cancellable forgives) (c.body call) (c.body call)) : c.Uniform := by
  intro cancellable forgives call l
  rw [hsame]
  exact hself cancellable forgives call

/-- Each standard command does the same under all ceilings. -/
private theorem uniform_commandList : ∀ c ∈ commandList, c.Uniform := by
  simp only [commandList, List.forall_mem_cons]
  exact ⟨Command.uniform_of_self (fun _ _ => rfl) fun _ _ call => .notify _ _ _,
    Command.uniform_of_self (fun _ _ => rfl) fun _ _ call => .pemit call,
    Command.uniform_of_self (fun _ _ => rfl) fun _ _ call => .emit call,
    Command.uniform_of_self CommandCall.setAttribute_withLimits fun _ _ call => .setAttribute call,
    Command.uniform_of_self CommandCall.setLock_withLimits fun _ _ call => .setLock call,
    Command.uniform_of_self (fun _ _ => rfl) fun _ _ call => .clearLock call,
    Command.uniform_of_self CommandCall.wipe_withLimits fun _ _ call => .wipe call,
    Command.uniform_of_self (fun _ _ => rfl) fun _ _ call => .function call, by simp⟩

/-- A command that is found after one more was registered is that one, or it was there. -/
private theorem Commands.Has.of_register {cs : Commands} {c c' : Command}
    (h : (cs.register c).Has c') :
    c' = c ∨ cs.Has c' := by
  rcases h with ⟨name, hfound⟩ | ⟨token, hfound⟩
  · rw [Commands.get?, Commands.register, Table.find?_insert] at hfound
    split at hfound
    · exact .inl (Option.some.inj hfound).symm
    · exact .inr (.inl ⟨name, hfound⟩)
  · -- A command need not have a token, and then it is found under its name only.
    rw [Commands.ofToken?, Commands.register] at hfound
    dsimp only at hfound
    split at hfound
    · rw [Table.find?_insert] at hfound
      split at hfound
      · exact .inl (Option.some.inj hfound).symm
      · exact .inr (.inr ⟨token, hfound⟩)
    · exact .inr (.inr ⟨token, hfound⟩)

/-- The standard commands are those of the list. -/
theorem mem_commandList {c : Command} (h : standardCommands.Has c) : c ∈ commandList := by
  have hfold : ∀ (list : List Command) (cs : Commands),
      (list.foldl Commands.register cs).Has c → c ∈ list ∨ cs.Has c := by
    intro list
    induction list with
    | nil => exact fun _ hc => .inr hc
    | cons c' list ih =>
      intro cs hc
      -- It is one of those that were registered later, this one, or there before.
      rcases ih _ hc with hc | hc
      · exact .inl (List.mem_cons_of_mem _ hc)
      rcases hc.of_register with rfl | hc
      · exact .inl List.mem_cons_self
      · exact .inr hc
  rcases hfold commandList {} h with hc | ⟨_, hc⟩ | ⟨_, hc⟩
  · exact hc
  · exact absurd hc (Option.some_ne_none _).symm
  · exact absurd hc (Option.some_ne_none _).symm

/-- **The standard commands do the same under all ceilings.** -/
theorem uniform_standardCommands : standardCommands.Uniform :=
  fun c hc => uniform_commandList c (mem_commandList hc)

/-! ### Arguments of commands -/

/-- Can commands be compared?  The second run has wider ceilings, and both have enough levels. -/
structure Settings.Compares (forgives : Abort → Prop) (settings : Settings) (l : Limits)
    (n m : Nat) :
    Prop where
  limits : settings.limits.Widen forgives l
  first : settings.limits.depth ≤ n
  second : l.depth ≤ m

variable {settings : Settings} {l : Limits} {n m : Nat}

/-- Arguments of commands follow each other, evaluated or not. -/
theorem commandValue_follows (h : settings.Compares forgives l n m) (source : Styled)
    (stack : FrameStack) (use : ArgumentUse) (arg : Argument) :
    Follows (EvalState.terms cancellable forgives) (commandValue settings n source stack use arg)
      (commandValue (settings.withLimits l) m source stack use arg) := by
  simp only [commandValue]
  cases use with
  | evaluate =>
    exact Settings.evalArgument_follows h.limits h.first h.second source arg stack
  | literal => exact .pure _

namespace Command

/-- All arguments of one command follow each other. -/
private theorem valuesOf_follows (h : settings.Compares forgives l n m) (c : Command)
    (source : Styled) (stack : FrameStack) (tree : Tree) :
    Follows (EvalState.terms cancellable forgives) (c.valuesOf settings n source stack tree)
      (c.valuesOf (settings.withLimits l) m source stack tree) := by
  have hvalue : ∀ use arg, Follows (EvalState.terms cancellable forgives)
      (commandValue settings n source stack use arg)
      (commandValue (settings.withLimits l) m source stack use arg) :=
    commandValue_follows h source stack
  cases tree with
  | expression arg => exact (hvalue c.left arg).bind fun _ => .pure _
  | commaArgs list => exact (Follows.mapM_same (hvalue c.left) list).bind fun _ => .pure _
  | eqSplitCommand left right =>
    refine (hvalue c.left left).bind fun _ => ?_
    exact (Follows.mapM_same (hvalue c.right) _).bind fun _ => .pure _
  | eqSplitArgs left right =>
    refine (hvalue c.left left).bind fun _ => ?_
    exact (Follows.mapM_same (hvalue c.right) _).bind fun _ => .pure _
  | command _ => exact .pure _
  | commandList _ => exact .pure _

/-- What is read from the text behind the name of a command follows too. -/
private theorem argsOf_follows (h : settings.Compares forgives l n m) (c : Command) (rest : Styled)
    (stack : FrameStack) :
    Follows (EvalState.terms cancellable forgives) (c.argsOf settings n rest stack)
      (c.argsOf (settings.withLimits l) m rest stack) := by
  unfold argsOf
  split
  · exact .pure _
  split
  · exact .pure _
  dsimp only
  split
  · exact .pure _
  · exact (valuesOf_follows h c rest stack _).bind fun _ => .pure _

/-- A uniform command gets the same arguments and does the same with them. -/
theorem invoke_follows (h : settings.Compares forgives l n m) {c : Command} (hc : c.Uniform)
    (switches : List String) (rest : Styled) (stack : FrameStack) :
    Follows (EvalState.terms cancellable forgives) (c.invoke settings n switches rest stack)
      (c.invoke (settings.withLimits l) m switches rest stack) := by
  refine (argsOf_follows h c rest _).bind fun result => ?_
  cases result with
  | error message => exact .notify _ _ _
  | ok args => exact hc cancellable forgives _ l

/-- Unknown switches are refused by both. -/
theorem apply_follows (h : settings.Compares forgives l n m) {c : Command} (hc : c.Uniform)
    (switches : List String) (rest : Styled) (stack : FrameStack) :
    Follows (EvalState.terms cancellable forgives) (c.apply settings n switches rest stack)
      (c.apply (settings.withLimits l) m switches rest stack) := by
  unfold apply
  split
  · exact .notify _ _ _
  · exact invoke_follows h hc switches rest stack

/-- A command counts as a call, and its privilege is checked in the same world. -/
theorem run_follows (h : settings.Compares forgives l n m) {c : Command} (hc : c.Uniform)
    (switches : List String) (rest : Styled) (stack : FrameStack) :
    Follows (EvalState.terms cancellable forgives) (c.run settings n switches rest stack)
      (c.run (settings.withLimits l) m switches rest stack) := by
  refine (Follows.countInvocation h.limits).bind fun _ => ?_
  dsimp only
  split
  · refine Follows.ask.bind fun world => ?_
    split
    · exact apply_follows h hc switches rest stack
    · exact .notify _ _ _
  · exact apply_follows h hc switches rest stack

end Command

/-! ### Commands of objects -/

/-- Can actions be compared that stand inside deeper calls than the given one? -/
def ActionsFollow (cancellable : Prop) (forgives : Abort → Prop) (ceiling depth : Nat)
    (act act' : Styled → FrameStack → EvalM Unit) : Prop :=
  ∀ (text : Styled) (inner : FrameStack), depth < inner.top.depth → inner.top.depth ≤ ceiling →
    Follows (EvalState.terms cancellable forgives) (act text inner) (act' text inner)

variable {act act' : Styled → FrameStack → EvalM Unit} {stack : FrameStack}

/-- The action of an attribute is one call deeper than the command that it reacts to. -/
private theorem runReaction_follows (h : settings.Compares forgives l n m)
    (hact : ActionsFollow cancellable forgives settings.limits.depth stack.top.depth act act')
    (r : Reaction) :
    Follows (EvalState.terms cancellable forgives) (runReaction settings act stack r)
      (runReaction (settings.withLimits l) act' stack r) := by
  refine (Follows.countInvocation h.limits).bind fun _ => ?_
  refine (Follows.enter h.limits _ _).bind_of (EvalM.gives_enter _ _ _) ?_
  rintro inner ⟨rfl, hdepth⟩
  refine (Follows.localize _).bind_of (EvalM.gives_localize _) fun inner hinner => ?_
  -- Who runs the action and what the pattern took do not change the depth.
  have hinner : inner.depth = stack.top.depth + 1 := by
    rw [hinner]
    rfl
  have htop : (stack.push inner).top.depth = inner.depth := rfl
  exact hact r.action (stack.push inner) (by omega) (by omega)

/-- The same attributes of an object react, since patterns know no ceilings. -/
private theorem runCommandsOn_follows (h : settings.Compares forgives l n m)
    (hact : ActionsFollow cancellable forgives settings.limits.depth stack.top.depth act act')
    (text : List Char) (holder : Dbref) :
    Follows (EvalState.terms cancellable forgives) (runCommandsOn settings act text stack holder)
      (runCommandsOn (settings.withLimits l) act' text stack holder) := by
  refine Follows.ask.bind fun world => ?_
  refine (Follows.withPatterns _).bind fun found => ?_
  split
  · exact .pure 0
  refine (Follows.passesLock _ _ _).bind fun passes => ?_
  split
  · exact .pure 0
  · exact (Follows.forM (runReaction_follows h hact) found).bind fun _ => .pure _

/-- Commands of users follow each other on all objects around the executor. -/
private theorem runUserCommands_follows (h : settings.Compares forgives l n m)
    (hact : ActionsFollow cancellable forgives settings.limits.depth stack.top.depth act act')
    (text : List Char) :
    Follows (EvalState.terms cancellable forgives) (runUserCommands settings act text stack)
      (runUserCommands (settings.withLimits l) act' text stack) := by
  refine Follows.ask.bind fun world => ?_
  refine Follows.foldlM (fun ran holder => ?_) _ 0
  exact (runCommandsOn_follows h hact text holder).bind fun _ => .pure _

/-! ### Texts of commands -/

/-- One command, built in or an attribute. -/
private theorem runCommand_follows {commands : Commands} (hcommands : commands.Uniform)
    (h : settings.Compares forgives l n m)
    (hact : ActionsFollow cancellable forgives settings.limits.depth stack.top.depth act act')
    (text : Styled) :
    Follows (EvalState.terms cancellable forgives) (runCommand commands settings n act text stack)
      (runCommand commands (settings.withLimits l) m act' text stack) := by
  refine Follows.checkCancelled.bind fun _ => ?_
  split
  · exact .pure ()
  -- First the tokens are tried, then the names, and last the attributes around.
  split
  · rename_i c hc
    exact Command.run_follows h (hcommands c (.inr ⟨_, hc⟩)) _ _ stack
  dsimp only
  split
  · rename_i c hc
    exact Command.run_follows h (hcommands c (.inl ⟨_, hc⟩)) _ _ stack
  refine (runUserCommands_follows h hact _).bind fun ran => ?_
  split
  · exact .notify _ _ _
  · exact .pure ()

/-- Commands one after the other. -/
theorem runSpans_follows {commands : Commands} (hcommands : commands.Uniform)
    (h : settings.Compares forgives l n m)
    (hact : ActionsFollow cancellable forgives settings.limits.depth stack.top.depth act act')
    (source : Styled) (spans : List Span) :
    Follows (EvalState.terms cancellable forgives)
      (runSpans commands settings n act source spans stack)
      (runSpans commands (settings.withLimits l) m act' source spans stack) :=
  Follows.forM (fun _ => runCommand_follows hcommands h hact _) spans

/-- **Lists of commands follow each other,** with all numbers of nested lists that, together with
    the depth, pass the ceiling. -/
theorem runCommandList_follows {commands : Commands} (hcommands : commands.Uniform)
    (h : settings.Compares forgives l n m) {k j : Nat} (text : Styled)
    (hdepth : stack.top.depth ≤ settings.limits.depth)
    (hk : settings.limits.depth < k + stack.top.depth) (hj : l.depth < j + stack.top.depth) :
    Follows (EvalState.terms cancellable forgives) (runCommandList commands settings n k text stack)
      (runCommandList commands (settings.withLimits l) m j text stack) := by
  have hwider := h.limits.depth
  -- As for texts: an action is deeper than the list that it reacts to, so neither number runs out.
  induction k generalizing j text stack with
  | zero => omega
  | succ k ih =>
    obtain _ | j := j
    · omega
    rw [runCommandList, runCommandList]
    split
    · exact .notify _ _ _
    · refine runSpans_follows hcommands h (fun text inner hinner hle => ?_) text _
      exact ih text hle (by omega) (by omega)
    · exact .pure ()

/-- **Actions follow each other,** whatever the depth that they start at. -/
theorem actionsFollow_runAction {commands : Commands} (hcommands : commands.Uniform)
    (h : settings.Compares forgives l n m) (depth : Nat) :
    ActionsFollow cancellable forgives settings.limits.depth depth (runAction commands settings n)
      (runAction commands (settings.withLimits l) m) := by
  intro text inner hinner hle
  have hn := h.first
  have hm := h.second
  exact runCommandList_follows hcommands h text hle (by omega) (by omega)

end Softcode
