import Softcode.Proofs.Evaluation.Functions
import Softcode.Proofs.Evaluation.Keeps

namespace Softcode

/-!
# What expressions do to the state

Expressions and commands act on the same state.  Of all that is in it, an expression only moves its
counters, fills the caches, sets registers in the scope of its frame and takes new scopes.  This
file says so once, for every invariant: if what expressions do keeps the invariant
(`KeptByExpressions`), then each function keeps it (`KeptByExpressions.run`), and so do nodes and
texts, whatever softcode they reach (`KeptByExpressions.evalText`).
-/

variable {α : Type} {inv : EvalState → Prop} {scope : ScopeId → Prop}

/-- Is the invariant kept by everything that expressions do whose frames have such register
    scopes? -/
structure KeptByExpressions (inv : EvalState → Prop) (scope : ScopeId → Prop) : Prop where
  /-- Counters and patterns may be anything. -/
  counters : ∀ {s t : EvalState}, inv s → t.world = s.world → t.functions = s.functions →
    t.registers = s.registers → t.locks = s.locks → inv t
  /-- Locks may be tried. -/
  locks : ∀ {s : EvalState}, inv s → ∀ kind gated unlocker,
    inv { s with locks := ((s.world.passesAt kind gated unlocker).run s.locks).2 }
  /-- Registers may be set in such scopes. -/
  set : ∀ {s : EvalState}, inv s → ∀ {id}, scope id → ∀ name value,
    inv { s with registers := s.registers.set id name value }
  /-- New scopes may be taken. -/
  fork : ∀ {s : EvalState}, inv s → ∀ id,
    inv { s with registers := (s.registers.fork id).2 } ∧ scope (s.registers.fork id).1

/-- Does an evaluation keep the invariant in every frame with such a scope? -/
def KeepsWithin (inv : EvalState → Prop) (scope : ScopeId → Prop)
    (eval : FrameStack → EvalM Styled) : Prop :=
  ∀ stack : FrameStack, scope stack.top.registers → Keeps inv (eval stack)

/-- Has the call such a scope, and do its arguments and the texts that it may evaluate keep the
    invariant? -/
structure Call.Kept (inv : EvalState → Prop) (scope : ScopeId → Prop) (c : Call) : Prop where
  stack : scope c.stack.top.registers
  args : ∀ a ∈ c.args, KeepsWithin inv scope a.eval
  evalText : ∀ text, KeepsWithin inv scope (c.evalText text)

/-- Only arguments are given. -/
private theorem LazyArgument.mem_of_mem_given {a : LazyArgument} {args : List LazyArgument}
    (h : a ∈ LazyArgument.given args) : a ∈ args := by
  unfold LazyArgument.given at h
  split at h
  · split at h
    · cases h
    · exact h
  · exact h

namespace KeptByExpressions

/-! ### Single steps -/

/-- One look fewer is left. -/
theorem checkCancelled (h : KeptByExpressions inv scope) : Keeps inv EvalM.checkCancelled := by
  refine .get_bind fun s _ => ?_
  split
  · exact .pure trivial
  · exact .throw _
  · exact .modify fun t ht => h.counters ht rfl rfl rfl rfl

/-- The world that is asked is one of the invariant. -/
theorem ask (h : KeptByExpressions inv scope) :
    Keeps inv EvalM.ask fun world => ∃ s, inv s ∧ s.world = world :=
  h.checkCancelled.bind fun _ _ => .get_bind fun s hs => .pure ⟨s, hs, rfl⟩

/-- A count goes up before it is compared with its ceiling. -/
theorem count {bump : EvalState → EvalState} (hbump : ∀ s, inv s → inv (bump s))
    {counted : EvalState → Nat} {ceiling : Nat} {kind : LimitKind} :
    Keeps inv (EvalM.count bump counted ceiling kind) := by
  refine (Keeps.modify hbump).bind fun _ _ => .get_bind fun s _ => ?_
  split
  · exact .throw _
  · exact .pure trivial

theorem countInvocation (h : KeptByExpressions inv scope) (limits : Limits) :
    Keeps inv (EvalM.countInvocation limits) := by
  refine count fun s hs => ?_
  exact h.counters hs rfl rfl rfl rfl

theorem countNode (h : KeptByExpressions inv scope) (limits : Limits) :
    Keeps inv (EvalM.countNode limits) := by
  refine count fun s hs => ?_
  exact h.counters hs rfl rfl rfl rfl

/-- A call is entered in the scope of the frame around it. -/
theorem enter (limits : Limits) (frame : Frame) (name : String) :
    Keeps inv (EvalM.enter limits frame name) fun inner => inner.registers = frame.registers := by
  unfold EvalM.enter
  dsimp only
  split
  · exact .throw _
  split
  · exact .throw _
  · exact .pure rfl

/-- Patterns are put into their cache. -/
theorem withPatterns (h : KeptByExpressions inv scope) (x : StateM PatternCache α) :
    Keeps inv (EvalM.withPatterns x) :=
  .modifyGet fun _ hs => ⟨h.counters hs rfl rfl rfl rfl, trivial⟩

/-- A lock is tried, and put into the cache. -/
theorem passesLock (h : KeptByExpressions inv scope) (kind : LockKind) (gated unlocker : Dbref) :
    Keeps inv (EvalM.passesLock kind gated unlocker) :=
  .modifyGet fun _ hs => ⟨h.locks hs kind gated unlocker, trivial⟩

theorem newLoop (h : KeptByExpressions inv scope) : Keeps inv EvalM.newLoop :=
  .modifyGet fun _ hs => ⟨h.counters hs rfl rfl rfl rfl, trivial⟩

/-- A frame is given a scope of its own. -/
theorem localize (h : KeptByExpressions inv scope) (frame : Frame) :
    Keeps inv (EvalM.localize frame) fun inner => scope inner.registers :=
  .modifyGet fun _ hs => h.fork hs frame.registers

/-! ### Looking at the world -/

/-- An object is looked for. -/
theorem locate? (h : KeptByExpressions inv scope) (executor : Dbref) (name : List Char) :
    Keeps inv (EvalM.locate? executor name) := by
  unfold EvalM.locate?
  dsimp only
  split
  · exact .pure trivial
  refine h.ask.bind fun world _ => ?_
  split
  · exact .pure trivial
  split
  · split <;> exact .pure trivial
  · exact .pure trivial
  · exact .pure trivial

/-- Privileges are looked up. -/
theorem mayRead (h : KeptByExpressions inv scope) (executor object : Dbref)
    (found : FoundAttribute) : Keeps inv (EvalM.mayRead executor object found) := by
  unfold EvalM.mayRead
  split
  · exact .pure trivial
  · exact h.ask.bind fun _ _ => .pure trivial

theorem resolve? (h : KeptByExpressions inv scope) (settings : Settings) (d : Dbref)
    (path : AttributePath) : Keeps inv (settings.resolve? d path) :=
  h.ask.bind fun _ _ => .pure trivial

/-- A substitution looks at the frame, the registers and the world. -/
theorem substitute (h : KeptByExpressions inv scope) (settings : Settings) (frame : Frame)
    (sub : Substitution) : Keeps inv (settings.substitute frame sub) := by
  -- Names and attributes are looked up, which changes nothing but the number of checks.
  have hname : ∀ d, Keeps inv (EvalM.nameOf d) := fun d => h.ask.bind fun _ _ => .pure trivial
  have hvalue : ∀ d name, Keeps inv (settings.valueOf d name) :=
    fun d name => (h.resolve? settings d _).bind fun _ _ => .pure trivial
  cases sub with
  | register name => exact .get_bind fun _ _ => .pure trivial
  | namedAttr name => exact hvalue frame.executor name
  | enactorName capitalized => exact (hname _).bind fun _ _ => .pure trivial
  | moniker => exact (hname _).bind fun _ _ => .pure trivial
  | accentedName => exact (hname _).bind fun _ _ => .pure trivial
  | pronoun kind capitalized => exact (hvalue _ _).bind fun _ _ => .pure trivial
  | location => exact h.ask.bind fun _ _ => .pure trivial
  | invocationDepth => exact .get_bind fun _ _ => .pure trivial
  | _ => exact .pure trivial

/-- **The softcode in an attribute** runs in the scope of its caller or in one of its own. -/
theorem callAttribute (h : KeptByExpressions inv scope) (settings : Settings)
    {evalText : Styled → FrameStack → EvalM Styled}
    (htext : ∀ text, KeepsWithin inv scope (evalText text)) {stack : FrameStack} {isolated : Bool}
    (hstack : isolated ∨ scope stack.top.registers) (object : Dbref) (path : AttributePath)
    (args : List Styled) :
    Keeps inv (settings.callAttribute evalText object path args stack isolated) := by
  refine (h.resolve? settings object path).bind fun found _ => ?_
  split
  · exact .pure trivial
  refine (h.mayRead _ _ _).bind fun may _ => ?_
  split
  · exact .pure trivial
  -- Only a call with registers of its own may come from a frame whose scope is not such a one.
  cases isolated with
  | true => exact (h.localize _).bind fun inner hinner => htext _ _ hinner
  | false =>
    rw [if_neg (by simp), pure_bind]
    exact htext _ _ (hstack.resolve_left (by simp))

/-! ### Functions -/

section Functions

variable {c : Call}

/-- An argument is evaluated in a frame that has such a scope. -/
theorem evalIn (hc : c.Kept inv scope) (i : Nat) {stack : FrameStack}
    (hstack : scope stack.top.registers) : Keeps inv (c.evalIn i stack) := by
  unfold Call.evalIn
  cases hi : c.args[i]? with
  | none => exact .pure trivial
  | some a => exact hc.args a (List.mem_of_getElem? hi) stack hstack

/-- An argument is evaluated in the frame of the call. -/
theorem eval (hc : c.Kept inv scope) (i : Nat) : Keeps inv (c.eval i) := evalIn hc i hc.stack

/-- One of the arguments is evaluated, after the first. -/
theorem choose (hc : c.Kept inv scope) : Keeps inv c.choose :=
  (eval hc 0).bind fun _ _ => eval hc _

/-- Patterns are evaluated until one matches, and then its result. -/
theorem switchOn (h : KeptByExpressions inv scope) (hc : c.Kept inv scope) (text : List Char)
    {args : List LazyArgument} (hargs : ∀ a ∈ args, KeepsWithin inv scope a.eval) :
    Keeps inv (c.switchOn text args) := by
  fun_induction Call.switchOn c text args with
  | case1 pattern result rest ih =>
    simp only [List.forall_mem_cons] at hargs
    obtain ⟨hpattern, hresult, hrest⟩ := hargs
    refine (hpattern c.stack hc.stack).bind fun _ _ => (h.withPatterns _).bind fun m _ => ?_
    split
    · exact hresult c.stack hc.stack
    · exact ih hrest
  | case2 otherwise => exact hargs otherwise List.mem_cons_self c.stack hc.stack
  | case3 => exact .pure trivial

/-- The text that is compared is evaluated first. -/
theorem switch (h : KeptByExpressions inv scope) (hc : c.Kept inv scope) : Keeps inv c.switch :=
  (eval hc 0).bind fun _ _ => h.switchOn hc _ fun a ha => hc.args a (List.mem_of_mem_drop ha)

/-- The frame of one turn of a loop has the scope of the call. -/
theorem evalElements (hc : c.Kept inv scope) (loop : LoopId) (index : Nat) (xs : List Styled) :
    Keeps inv (c.evalElements loop index xs) := by
  induction xs generalizing index with
  | nil => exact .pure trivial
  | cons x xs ih =>
    rw [Call.evalElements]
    have hinner : scope (c.stack.push (c.frame.iterate ⟨x, index, loop⟩)).top.registers := hc.stack
    refine (evalIn hc 1 hinner).bind fun value _ => .get_bind fun s _ => ?_
    split
    · exact .pure trivial
    · exact (ih (index + 1)).bind fun _ _ => .pure trivial

/-- A loop goes through the elements of a list. -/
theorem iterateOver (h : KeptByExpressions inv scope) (hc : c.Kept inv scope) :
    Keeps inv c.iterateOver := by
  unfold Call.iterateOver
  -- What stands between the results is given or taken from the list, but then both go on alike.
  have hrest : ∀ list delimiter between, Keeps inv (do
      let loop ← EvalM.newLoop
      return Styled.join between (← c.evalElements loop 1 (elements list delimiter))) := by
    intro list delimiter between
    exact h.newLoop.bind fun loop _ => (evalElements hc loop 1 _).bind fun _ _ => .pure trivial
  refine (eval hc 0).bind fun list _ => (eval hc 2).bind fun delimiter _ => ?_
  split
  · exact (eval hc 3).bind fun between _ => hrest _ _ between
  · rw [pure_bind]
    exact hrest _ _ _

/-- Something is done with a loop around the call. -/
theorem onIteration {f : Iteration → EvalM Styled} (hf : ∀ i, Keeps inv (f i)) :
    Keeps inv (c.onIteration f) := by
  unfold Call.onIteration
  dsimp only
  split
  · exact hf _
  · exact .pure trivial

/-- A loop is asked to stop. -/
theorem halt (h : KeptByExpressions inv scope) (i : Iteration) : Keeps inv (Call.halt i) := by
  refine Keeps.bind (P := fun _ => True) (.modify fun s hs => ?_) fun _ _ => .pure trivial
  exact h.counters hs rfl rfl rfl rfl

/-- A register is set in the scope of the call. -/
theorem setRegister (h : KeptByExpressions inv scope) (hc : c.Kept inv scope)
    (name value : Styled) : Keeps inv (Call.setRegister c.frame name value) :=
  .modify fun _ hs => h.set hs hc.stack _ value

/-- Registers are set one after the other. -/
theorem setRegisters (h : KeptByExpressions inv scope) (hc : c.Kept inv scope)
    (values : List Styled) : Keeps inv (Call.setRegisters c.frame values) := by
  fun_induction Call.setRegisters c.frame values with
  | case1 name value rest ih => exact (h.setRegister hc name value).bind fun _ _ => ih
  | case2 => exact .pure trivial

/-- Registers are set and nothing is given. -/
theorem setq (h : KeptByExpressions inv scope) (hc : c.Kept inv scope) : Keeps inv c.setq := by
  unfold Call.setq
  split
  · exact .pure trivial
  · exact (h.setRegisters hc c.values).bind fun _ _ => .pure trivial

/-- An attribute is called by name. -/
theorem callNamed (h : KeptByExpressions inv scope) (hc : c.Kept inv scope) (isolated : Bool) :
    Keeps inv (c.callNamed isolated) := by
  -- Without a name of an object, the attribute is on the executor.
  have hlocate : ∀ object : Option (List Char), Keeps inv
      (object.elim (pure (some c.frame.executor)) c.locate?) := by
    intro object
    cases object with
    | none => exact .pure trivial
    | some name => exact h.locate? _ name
  refine (hlocate _).bind fun found _ => ?_
  split
  · exact .pure trivial
  split
  · exact .pure trivial
  · exact h.callAttribute c.settings hc.evalText (.inr hc.stack) _ _ _

/-- An attribute of the executor is read. -/
theorem ownAttribute (h : KeptByExpressions inv scope) : Keeps inv c.ownAttribute := by
  unfold Call.ownAttribute
  split
  · exact .pure trivial
  · exact (h.resolve? c.settings _ _).bind fun _ _ => .pure trivial

/-- An attribute of any object is read. -/
theorem anyAttribute (h : KeptByExpressions inv scope) : Keeps inv c.anyAttribute := by
  unfold Call.anyAttribute
  refine (h.locate? _ _).bind fun object _ => ?_
  split
  · exact .pure trivial
  split
  · exact .pure trivial
  refine (h.resolve? c.settings _ _).bind fun found _ => ?_
  split
  · exact .pure trivial
  refine (h.mayRead _ _ _).bind fun may _ => ?_
  split <;> exact .pure trivial

/-- Something about an object is read. -/
theorem aboutObject (h : KeptByExpressions inv scope) (f : Option Object → List Char) :
    Keeps inv (c.aboutObject f) := by
  unfold Call.aboutObject
  refine (h.locate? _ _).bind fun found _ => ?_
  split
  · exact .pure trivial
  · exact h.ask.bind fun _ _ => .pure trivial

/-- The number of an object is read. -/
theorem numberOf (h : KeptByExpressions inv scope) : Keeps inv c.numberOf :=
  (h.locate? _ _).bind fun _ _ => .pure trivial

/-- A lock is tried. -/
theorem passesLockOf (h : KeptByExpressions inv scope) : Keeps inv c.passesLockOf := by
  unfold Call.passesLockOf
  dsimp only
  split
  · exact .pure trivial
  refine (h.locate? _ _).bind fun gated _ => (h.locate? _ _).bind fun unlocker _ => ?_
  split
  · exact (h.passesLock _ _ _).bind fun _ _ => .pure trivial
  · exact .pure trivial

/-- **Each function keeps the invariant,** if its arguments and the texts that it may evaluate
    do. -/
theorem run (h : KeptByExpressions inv scope) (hc : c.Kept inv scope) (f : Builtin) :
    Keeps inv (f.run c) := by
  unfold Builtin.run
  cases f with
  | lit => exact Keeps.pure trivial
  | choose => exact choose hc
  | switch => exact h.switch hc
  | iter => exact h.iterateOver hc
  | itext => exact onIteration fun _ => Keeps.pure trivial
  | inum => exact onIteration fun _ => Keeps.pure trivial
  | ibreak => exact onIteration h.halt
  | setq => exact h.setq hc
  | setr => exact (h.setRegister hc _ _).bind fun _ _ => .pure trivial
  | r => exact .get_bind fun _ _ => .pure trivial
  | u => exact h.callNamed hc false
  | ulocal => exact h.callNamed hc true
  | v => exact h.ownAttribute
  | get => exact h.anyAttribute
  | name => exact h.aboutObject _
  | num => exact h.numberOf
  | loc => exact h.aboutObject _
  | owner => exact h.aboutObject _
  | elock => exact h.passesLockOf

end Functions

/-! ### Calls -/

section Calls

variable {settings : Settings} {evalText : Styled → FrameStack → EvalM Styled} {stack : FrameStack}
  {args : List LazyArgument}

/-- What comes from outside sees the counters, and may only want the evaluation to end. -/
theorem runOutside (h : KeptByExpressions inv scope) (name : String)
    (f : OutsideCall → OutsideResult) (values : List Styled) :
    Keeps inv (settings.runOutside name f stack args values) := by
  refine .get_bind fun s _ => ?_
  dsimp only
  split
  · refine Keeps.bind (P := fun _ => True) (.modify fun s hs => ?_) fun _ _ => .pure trivial
    exact h.counters hs rfl rfl rfl rfl
  · exact .pure trivial

/-- What a function does once its arguments are there. -/
theorem perform (h : KeptByExpressions inv scope) (hargs : ∀ a ∈ args, KeepsWithin inv scope a.eval)
    (htext : ∀ text, KeepsWithin inv scope (evalText text)) (hstack : scope stack.top.registers)
    (name : String) (body : FunctionBody) (values : List Styled) :
    Keeps inv (settings.perform evalText name body stack args values) := by
  unfold Settings.perform
  cases body with
  | native f => exact .pure trivial
  | engine f => exact h.run ⟨hstack, hargs, htext⟩ f
  | user object attr =>
    dsimp only
    split
    · exact h.callAttribute settings htext (.inr hstack) _ _ _
    · exact .pure trivial
  | outside f => exact h.runOutside name f values

/-- Its arguments are evaluated first, unless it does so itself. -/
theorem invoke (h : KeptByExpressions inv scope) (hargs : ∀ a ∈ args, KeepsWithin inv scope a.eval)
    (htext : ∀ text, KeepsWithin inv scope (evalText text)) (hstack : scope stack.top.registers)
    (name : String) (f : Function) :
    Keeps inv (settings.invoke evalText name f stack args) := by
  unfold Settings.invoke
  split
  · rw [pure_bind]
    exact h.perform hargs htext hstack name f.body []
  · refine (Keeps.mapM_of_mem fun a ha => hargs a ha stack hstack).bind fun values _ => ?_
    exact h.perform hargs htext hstack name f.body values

/-- The number of arguments and the privilege are checked before. -/
theorem apply (h : KeptByExpressions inv scope) (hargs : ∀ a ∈ args, KeepsWithin inv scope a.eval)
    (htext : ∀ text, KeepsWithin inv scope (evalText text)) (hstack : scope stack.top.registers)
    (name : String) (f : Function) :
    Keeps inv (settings.apply evalText name f stack args) := by
  have hinvoke : Keeps inv (settings.invoke evalText name f stack args) :=
    h.invoke hargs htext hstack name f
  unfold Settings.apply
  split
  · exact .pure trivial
  split
  · refine h.ask.bind fun world _ => ?_
    split
    · exact .pure trivial
    · exact hinvoke
  · exact hinvoke

/-- The frame of a call has the scope of the frame around it. -/
theorem call (h : KeptByExpressions inv scope) (hargs : ∀ a ∈ args, KeepsWithin inv scope a.eval)
    (htext : ∀ text, KeepsWithin inv scope (evalText text)) (hstack : scope stack.top.registers)
    (name : String) : Keeps inv (settings.call evalText name args stack) := by
  refine h.checkCancelled.bind fun _ _ => .get_bind fun s _ => ?_
  split
  · exact .pure trivial
  refine (h.countInvocation _).bind fun _ _ => (enter _ _ _).bind fun inner hinner => ?_
  have hscope : scope (stack.push inner).top.registers := hinner ▸ hstack
  exact h.apply (fun a ha => hargs a (LazyArgument.mem_of_mem_given ha)) htext hscope _ _

end Calls

/-! ### Nodes and texts -/

section Nodes

variable {settings : Settings} {evalText : Styled → FrameStack → EvalM Styled}

-- The recursion is that of the evaluator: nodes, sequences of nodes and arguments of calls.
mutual

/-- One node. -/
theorem evalNode (h : KeptByExpressions inv scope)
    (htext : ∀ text, KeepsWithin inv scope (evalText text)) (source : Styled) {stack : FrameStack}
    (hstack : scope stack.top.registers) : ∀ node : Node,
    Keeps inv (settings.evalNode evalText source node stack)
  | .text _ | .escape _ => Keeps.pure trivial
  | .substitution sub _ => h.substitute settings stack.top sub
  | .call name _ args _ => by
    rw [Settings.evalNode]
    exact h.call (h.lazyArguments htext source args) htext hstack name
  | .bracket body _ => by
    rw [Settings.evalNode]
    exact h.evalNodes htext source hstack body {}
  | .brace .strip body _ _ => by
    rw [Settings.evalNode]
    exact h.evalNodes htext source hstack body {}
  | .brace .keep body _ _ => by
    rw [Settings.evalNode]
    exact (h.evalNodes htext source hstack body {}).bind fun _ _ => .pure trivial
  | .brace .literal _ _ _ => Keeps.pure trivial
termination_by structural node => node

/-- A sequence of nodes, each of which is counted. -/
theorem evalNodes (h : KeptByExpressions inv scope)
    (htext : ∀ text, KeepsWithin inv scope (evalText text)) (source : Styled) {stack : FrameStack}
    (hstack : scope stack.top.registers) : ∀ (nodes : List Node) (done : Styled),
    Keeps inv (settings.evalNodes evalText source nodes done stack)
  | [], _ => Keeps.pure trivial
  | node :: nodes, done => by
    rw [Settings.evalNodes]
    exact (h.countNode _).bind fun _ _ => (h.evalNode htext source hstack node).bind fun value _ =>
      h.evalNodes htext source hstack nodes (done ++ value)
termination_by structural nodes => nodes

/-- An argument that has not been evaluated. -/
theorem lazyArgument (h : KeptByExpressions inv scope)
    (htext : ∀ text, KeepsWithin inv scope (evalText text)) (source : Styled) :
    ∀ arg : NodeList Node,
    KeepsWithin inv scope (settings.lazyArgument evalText source arg).eval
  | ⟨nodes, _⟩ => by
    rw [Settings.lazyArgument]
    exact fun stack hstack => h.evalNodes htext source hstack nodes {}
termination_by structural arg => arg

/-- All arguments of a call. -/
theorem lazyArguments (h : KeptByExpressions inv scope)
    (htext : ∀ text, KeepsWithin inv scope (evalText text)) (source : Styled) :
    ∀ args : List (NodeList Node),
    ∀ a ∈ settings.lazyArguments evalText source args, KeepsWithin inv scope a.eval
  | [] => fun _ ha => by cases ha
  | arg :: args => by
    rw [Settings.lazyArguments, List.forall_mem_cons]
    exact ⟨h.lazyArgument htext source arg, h.lazyArguments htext source args⟩
termination_by structural args => args

end

end Nodes

/-- **Texts keep the invariant,** whatever softcode they reach. -/
theorem evalText (h : KeptByExpressions inv scope) (settings : Settings) (levels : Nat)
    (text : Styled) : KeepsWithin inv scope (settings.evalText levels text) := by
  -- The induction is on how many texts may still nest.
  induction levels generalizing text with
  | zero => exact fun _ _ => .throw _
  | succ levels ih =>
    intro stack hstack
    rw [Settings.evalText]
    split
    · exact .pure trivial
    · exact h.evalNodes ih text hstack _ {}
    · exact .pure trivial

/-- **Arguments keep the invariant.** -/
theorem evalArgument (h : KeptByExpressions inv scope) (settings : Settings) (levels : Nat)
    (source : Styled) (arg : Argument) :
    KeepsWithin inv scope (settings.evalArgument levels source arg) :=
  fun _ hstack => h.evalNodes (h.evalText settings levels) source hstack arg.nodes {}

end KeptByExpressions

end Softcode
