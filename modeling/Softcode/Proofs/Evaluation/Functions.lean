import Softcode.Evaluation.Expression
import Softcode.Proofs.Evaluation.Follows

namespace Softcode

/-!
# Functions and ceilings

What a function does depends on the ceilings only through its arguments and through the texts that
it evaluates.  So each function turns two calls whose arguments and texts follow each other into
evaluations that do (`Builtin.run_follows`).
-/

variable {cancellable : Prop} {forgives : Abort → Prop}

/-! ### Looking at the world -/

/-- The settings with other ceilings. -/
def Settings.withLimits (s : Settings) (l : Limits) : Settings := { s with limits := l }

namespace Follows

theorem resolve? (settings : Settings) (d : Dbref) (path : AttributePath) :
    Follows (EvalState.terms cancellable forgives) (settings.resolve? d path)
      (settings.resolve? d path) :=
  ask.bind fun _ => .pure _

/-- Both look up the same privileges. -/
theorem mayRead (executor object : Dbref) (found : FoundAttribute) :
    Follows (EvalState.terms cancellable forgives) (EvalM.mayRead executor object found)
      (EvalM.mayRead executor object found) := by
  unfold EvalM.mayRead
  split
  · exact .pure _
  · exact ask.bind fun _ => .pure _

/-- Both find the same object. -/
theorem locate? (executor : Dbref) (name : List Char) :
    Follows (EvalState.terms cancellable forgives) (EvalM.locate? executor name)
      (EvalM.locate? executor name) := by
  simp only [EvalM.locate?]
  split
  · exact .pure _
  refine ask.bind fun world => ?_
  split
  · exact .pure _
  split
  · split <;> exact .pure _
  · exact .pure _
  · exact .pure _

theorem nameOf (d : Dbref) :
    Follows (EvalState.terms cancellable forgives) (EvalM.nameOf d) (EvalM.nameOf d) :=
  ask.bind fun _ => .pure _

theorem valueOf (settings : Settings) (d : Dbref) (name : String) :
    Follows (EvalState.terms cancellable forgives) (settings.valueOf d name)
      (settings.valueOf d name) :=
  (resolve? settings d _).bind fun _ => .pure _

/-- **Substitutions know no ceilings.** -/
theorem substitute (settings : Settings) (frame : Frame) (sub : Substitution) :
    Follows (EvalState.terms cancellable forgives) (settings.substitute frame sub)
      (settings.substitute frame sub) := by
  cases sub with
  | register name => exact get_bind fun _ _ => .pure _
  | namedAttr name => exact valueOf settings frame.executor name
  | enactorName capitalized => exact (nameOf _).bind fun _ => .pure _
  | moniker => exact (nameOf _).bind fun _ => .pure _
  | accentedName => exact (nameOf _).bind fun _ => .pure _
  | pronoun kind capitalized => exact (valueOf settings _ _).bind fun _ => .pure _
  | location => exact ask.bind fun _ => .pure _
  | invocationDepth => exact get_bind fun _ _ => .pure _
  | _ => exact .pure _

end Follows

/-! ### Calls that correspond -/

/-- Are these the same argument, of which one evaluation follows the other at a depth? -/
structure LazyArgument.Related (T : Terms EvalState) (depth : Nat) (a a' : LazyArgument) :
    Prop where
  raw : a'.raw = a.raw
  isEmpty : a'.isEmpty = a.isEmpty
  eval : ∀ stack : FrameStack, stack.top.depth = depth → Follows T (a.eval stack) (a'.eval stack)

/-- Calls whose arguments correspond are given the same arguments: a single one with nothing in it
    is left out of both or of neither. -/
theorem LazyArgument.forall₂_given {R : LazyArgument → LazyArgument → Prop}
    (hR : ∀ a a', R a a' → a'.isEmpty = a.isEmpty) {args args' : List LazyArgument}
    (h : List.Forall₂ R args args') : List.Forall₂ R (given args) (given args') := by
  cases h with
  | nil => exact .nil
  | cons hab hrest =>
    cases hrest with
    | nil =>
      rw [given, given, hR _ _ hab]
      split
      · exact .nil
      · exact .cons hab .nil
    | cons hab' hrest => exact .cons hab (.cons hab' hrest)

/-- Are these the same call under different ceilings, of which one evaluation follows the other? -/
structure Call.Related (T : Terms EvalState) (c c' : Call) : Prop where
  name : c'.name = c.name
  settings : ∃ l, c'.settings = c.settings.withLimits l
  stack : c'.stack = c.stack
  values : c'.values = c.values
  args : List.Forall₂ (LazyArgument.Related T c.stack.top.depth) c.args c'.args
  evalText : ∀ (text : Styled) (stack : FrameStack), stack.top.depth = c.stack.top.depth →
    Follows T (c.evalText text stack) (c'.evalText text stack)

namespace Call.Related

variable {T : Terms EvalState} {c c' : Call}

/-- The argument at some place, or nothing. -/
theorem elim_args {depth : Nat} {as bs : List LazyArgument}
    (h : List.Forall₂ (LazyArgument.Related T depth) as bs) {stack : FrameStack}
    (hstack : stack.top.depth = depth) (i : Nat) :
    Follows T ((as[i]?).elim (pure {}) (·.eval stack))
      ((bs[i]?).elim (pure {}) (·.eval stack)) := by
  induction h generalizing i with
  | nil => exact Follows.pure _
  | cons hab _ ih =>
    cases i with
    | zero => exact hab.eval stack hstack
    | succ i => exact ih i

/-- Arguments follow each other, also inside a loop of the call. -/
theorem evalIn (h : c.Related T c') (i : Nat) {stack : FrameStack}
    (hstack : stack.top.depth = c.stack.top.depth) :
    Follows T (c.evalIn i stack) (c'.evalIn i stack) :=
  elim_args h.args hstack i

/-- Arguments follow each other in the frame of the call. -/
theorem eval (h : c.Related T c') (i : Nat) : Follows T (c.eval i) (c'.eval i) := by
  unfold Call.eval
  rw [h.stack]
  exact h.evalIn i rfl

private theorem length_args (h : c.Related T c') : c'.args.length = c.args.length :=
  h.args.length_eq.symm

end Call.Related

/-! ### Functions that neither evaluate arguments nor texts -/

/-- What looks neither at its arguments nor at the ceilings does the same in both calls if it keeps
    the terms. -/
private theorem Call.Related.of_self {T : Terms EvalState} {c c' : Call} (h : c.Related T c')
    {f : Call → EvalM Styled}
    (hsame : ∀ l args evalText,
      f { c with settings := c.settings.withLimits l, args, evalText } = f c)
    (hself : Follows T (f c) (f c)) : Follows T (f c) (f c') := by
  obtain ⟨l, hsettings⟩ := h.settings
  -- The two calls differ in nothing else, so the second is the first with other ceilings.
  have hcall : c' = { c with
      settings := c.settings.withLimits l, args := c'.args, evalText := c'.evalText } := by
    rw [← hsettings, ← h.name, ← h.stack, ← h.values]
  rw [hcall, hsame]
  exact hself

namespace Follows

variable (c : Call)

theorem setRegister (frame : Frame) (name value : Styled) :
    Follows (EvalState.terms cancellable forgives) (Call.setRegister frame name value)
      (Call.setRegister frame name value) :=
  modify fun _ hs => hs

/-- Both set the same registers. -/
theorem setRegisters (frame : Frame) (values : List Styled) :
    Follows (EvalState.terms cancellable forgives) (Call.setRegisters frame values)
      (Call.setRegisters frame values) := by
  fun_induction Call.setRegisters frame values with
  | case1 name value rest ih => exact (setRegister frame name value).bind fun _ => ih
  | case2 => exact .pure ()

/-- Registers are set and nothing is given. -/
theorem setq : Follows (EvalState.terms cancellable forgives) c.setq c.setq := by
  unfold Call.setq
  split
  · exact .pure _
  · exact (setRegisters c.frame c.values).bind fun _ => .pure _

/-- A register is set, and its value given. -/
theorem setr : Follows (EvalState.terms cancellable forgives) c.setr c.setr :=
  (setRegister _ _ _).bind fun _ => .pure _

theorem readRegister :
    Follows (EvalState.terms cancellable forgives) c.readRegister c.readRegister :=
  get_bind fun _ _ => .pure _

/-- An attribute of the executor is read. -/
theorem ownAttribute :
    Follows (EvalState.terms cancellable forgives) c.ownAttribute c.ownAttribute := by
  unfold Call.ownAttribute
  split
  · exact .pure _
  · exact (resolve? c.settings _ _).bind fun _ => .pure _

/-- An attribute of any object is read. -/
theorem anyAttribute :
    Follows (EvalState.terms cancellable forgives) c.anyAttribute c.anyAttribute := by
  unfold Call.anyAttribute
  refine (locate? _ _).bind fun found => ?_
  split
  · exact .pure _
  split
  · exact .pure _
  refine (resolve? c.settings _ _).bind fun result => ?_
  split
  · exact .pure _
  refine (mayRead _ _ _).bind fun may => ?_
  split <;> exact .pure _

/-- Something about an object is read. -/
theorem aboutObject (f : Option Object → List Char) :
    Follows (EvalState.terms cancellable forgives) (Call.aboutObject f c)
      (Call.aboutObject f c) := by
  unfold Call.aboutObject
  refine (locate? _ _).bind fun found => ?_
  split
  · exact .pure _
  · exact ask.bind fun _ => .pure _

/-- The number of an object is read. -/
theorem numberOf : Follows (EvalState.terms cancellable forgives) c.numberOf c.numberOf :=
  (locate? _ _).bind fun _ => .pure _

/-- A lock is tried. -/
theorem passesLockOf :
    Follows (EvalState.terms cancellable forgives) c.passesLockOf c.passesLockOf := by
  unfold Call.passesLockOf
  dsimp only
  split
  · exact .pure _
  refine (locate? _ _).bind fun gated => (locate? _ _).bind fun unlocker => ?_
  split
  · exact (passesLock _ _ _).bind fun _ => .pure _
  · exact .pure _

/-- A loop is asked to stop. -/
theorem halt (i : Iteration) :
    Follows (EvalState.terms cancellable forgives) (Call.halt i) (Call.halt i) := by
  refine Follows.bind (modify ?_) fun _ => .pure _
  exact fun _ hs => hs

/-- Something is done with a loop around the call. -/
theorem onIteration {f : Iteration → EvalM Styled}
    (hf : ∀ i, Follows (EvalState.terms cancellable forgives) (f i) (f i)) :
    Follows (EvalState.terms cancellable forgives) (Call.onIteration f c)
      (Call.onIteration f c) := by
  unfold Call.onIteration
  dsimp only
  split
  · exact hf _
  · exact .pure _

end Follows

/-! ### Functions that evaluate their arguments -/

namespace Call.Related

variable {c c' : Call}

/-- The first argument has the same value in both, so both evaluate the same other one. -/
theorem choose (h : c.Related (EvalState.terms cancellable forgives) c') :
    Follows (EvalState.terms cancellable forgives) c.choose c'.choose :=
  (h.eval 0).bind fun _ => h.eval _

/-- Both try the same patterns, and stop at the same one. -/
theorem switchOn (h : c.Related (EvalState.terms cancellable forgives) c') (text : List Char) :
    ∀ {as bs : List LazyArgument},
      List.Forall₂
        (LazyArgument.Related (EvalState.terms cancellable forgives) c.stack.top.depth) as bs →
      Follows (EvalState.terms cancellable forgives) (c.switchOn text as) (c'.switchOn text bs)
  | _, _, .nil => Follows.pure _
  | _, _, .cons hlast .nil => by
    rw [Call.switchOn, Call.switchOn, h.stack]
    exact hlast.eval c.stack rfl
  | _, _, .cons hpattern (.cons hresult hrest) => by
    obtain ⟨l, hsettings⟩ := h.settings
    -- Patterns are compared under the same settings but for the ceilings.
    rw [Call.switchOn, Call.switchOn, h.stack, hsettings]
    refine (hpattern.eval c.stack rfl).bind fun pattern => (Follows.withPatterns _).bind fun m => ?_
    split
    · exact hresult.eval c.stack rfl
    · exact h.switchOn text hrest

/-- One turn of a loop is at the depth of the call. -/
theorem evalElements (h : c.Related (EvalState.terms cancellable forgives) c') (loop : LoopId)
    (index : Nat) (xs : List Styled) :
    Follows (EvalState.terms cancellable forgives) (c.evalElements loop index xs)
      (c'.evalElements loop index xs) := by
  induction xs generalizing index with
  | nil => exact .pure []
  | cons x xs ih =>
    rw [Call.evalElements, Call.evalElements, Call.frame, Call.frame, h.stack]
    let inner := c.stack.push (c.stack.top.iterate ⟨x, index, loop⟩)
    have hdepth : inner.top.depth = c.stack.top.depth := rfl
    refine (h.evalIn 1 hdepth).bind fun value => Follows.get_bind fun s _ => ?_
    split
    · exact .pure _
    · exact (ih (index + 1)).bind fun _ => .pure _

/-- Both go through the same list. -/
theorem iterateOver (h : c.Related (EvalState.terms cancellable forgives) c') :
    Follows (EvalState.terms cancellable forgives) c.iterateOver c'.iterateOver := by
  unfold Call.iterateOver
  refine (h.eval 0).bind fun list => (h.eval 2).bind fun delimiter => ?_
  rw [h.length_args]
  split
  · refine (h.eval 3).bind fun between => Follows.newLoop.bind fun loop => ?_
    exact (h.evalElements loop 1 _).bind fun _ => .pure _
  · refine (Follows.pure _).bind fun between => Follows.newLoop.bind fun loop => ?_
    exact (h.evalElements loop 1 _).bind fun _ => .pure _

theorem switch (h : c.Related (EvalState.terms cancellable forgives) c') :
    Follows (EvalState.terms cancellable forgives) c.switch c'.switch :=
  (h.eval 0).bind fun text => h.switchOn text.chars (List.forall₂_drop 1 h.args)

/-- The texts of the arguments are the same. -/
theorem map_raw (h : c.Related (EvalState.terms cancellable forgives) c') :
    c'.args.map (·.raw) = c.args.map (·.raw) := by
  have hargs := h.args
  generalize c.args = as at hargs
  generalize c'.args = bs at hargs
  induction hargs with
  | nil => rfl
  | cons hab _ ih => rw [List.map_cons, List.map_cons, hab.raw, ih]

end Call.Related

/-! ### Functions that evaluate texts -/

/-- The softcode in an attribute is evaluated at the depth of the call. -/
theorem Follows.callAttribute {settings settings' : Settings}
    {evalText evalText' : Styled → FrameStack → EvalM Styled} {object : Dbref}
    {path : AttributePath} {args : List Styled} {stack : FrameStack} {isolated : Bool}
    (hsettings : ∃ l, settings' = settings.withLimits l)
    (htext : ∀ (text : Styled) (inner : FrameStack), inner.top.depth = stack.top.depth →
      Follows (EvalState.terms cancellable forgives) (evalText text inner) (evalText' text inner)) :
    Follows (EvalState.terms cancellable forgives)
      (settings.callAttribute evalText object path args stack isolated)
      (settings'.callAttribute evalText' object path args stack isolated) := by
  obtain ⟨l, rfl⟩ := hsettings
  refine (resolve? settings object path).bind fun found => ?_
  dsimp only
  split
  · exact .pure _
  refine (mayRead _ _ _).bind fun may => ?_
  split
  · exact .pure _
  split
  · refine (localize _).bind_of (EvalM.gives_localize _) fun inner hinner => ?_
    -- Registers of its own do not make the call deeper.
    have hdepth : inner.depth = stack.top.depth := by
      rw [hinner]
      rfl
    exact htext _ _ hdepth
  · rw [pure_bind, pure_bind]
    exact htext _ _ rfl

/-- Both calls look for an object in the name of the same executor. -/
theorem Call.Related.locate? {c c' : Call} (h : c.Related (EvalState.terms cancellable forgives) c')
    (name : List Char) :
    Follows (EvalState.terms cancellable forgives) (c.locate? name) (c'.locate? name) := by
  unfold Call.locate? Call.frame
  rw [h.stack]
  exact Follows.locate? _ name

/-- Both call the same attribute with the same values. -/
theorem Call.Related.callNamed {c c' : Call}
    (h : c.Related (EvalState.terms cancellable forgives) c') (isolated : Bool) :
    Follows (EvalState.terms cancellable forgives) (c.callNamed isolated)
      (c'.callNamed isolated) := by
  unfold Call.callNamed
  simp only [Call.value, Call.frame, h.values, h.stack]
  refine Follows.bind ?_ fun found => ?_
  · generalize (splitObject _).1 = object
    cases object with
    | none => exact .pure _
    | some name => exact h.locate? name
  · split
    · exact .pure _
    split
    · exact .pure _
    · exact Follows.callAttribute h.settings h.evalText

/-! ### The standard functions -/

/-- **Each function does the same in calls that correspond.** -/
theorem Builtin.run_follows {c c' : Call} (h : c.Related (EvalState.terms cancellable forgives) c')
    (f : Builtin) : Follows (EvalState.terms cancellable forgives) (f.run c) (f.run c') := by
  have hloop {f : Iteration → EvalM Styled}
      (hf : ∀ i, Follows (EvalState.terms cancellable forgives) (f i) (f i)) :
      Follows (EvalState.terms cancellable forgives) (c.onIteration f) (c'.onIteration f) :=
    h.of_self (fun _ _ _ => rfl) (.onIteration c hf)
  have habout (f : Option Object → List Char) :
      Follows (EvalState.terms cancellable forgives) (c.aboutObject f) (c'.aboutObject f) :=
    h.of_self (fun _ _ _ => rfl) (.aboutObject c f)
  unfold run
  cases f with
  | lit =>
    -- Only this one looks at its arguments without evaluating any.
    dsimp only [Call.literal]
    rw [h.map_raw]
    exact .pure _
  | choose => exact h.choose
  | switch => exact h.switch
  | iter => exact h.iterateOver
  | itext => exact hloop fun _ => .pure _
  | inum => exact hloop fun _ => .pure _
  | ibreak => exact hloop .halt
  | setq => exact h.of_self (fun _ _ _ => rfl) (.setq c)
  | setr => exact h.of_self (fun _ _ _ => rfl) (.setr c)
  | r => exact h.of_self (fun _ _ _ => rfl) (.readRegister c)
  | u => exact h.callNamed false
  | ulocal => exact h.callNamed true
  | v => exact h.of_self (fun _ _ _ => rfl) (.ownAttribute c)
  | get => exact h.of_self (fun _ _ _ => rfl) (.anyAttribute c)
  | name => exact habout _
  | num => exact h.of_self (fun _ _ _ => rfl) (.numberOf c)
  | loc => exact habout _
  | owner => exact habout _
  | elock => exact h.of_self (fun _ _ _ => rfl) (.passesLockOf c)

/-- Does the function come from outside? -/
def FunctionBody.isOutside : FunctionBody → Bool
  | .outside _ => true
  | _ => false

/-- No function of a standard engine comes from outside. -/
theorem Functions.Standard.isOutside_eq_false {fs : Functions} (h : fs.Standard) {name : String}
    {f : Function} (hf : fs.find? name = some f) : f.body.isOutside = false := by
  refine h.body (P := fun body => body.isOutside = false) (fun _ _ => rfl) ?_ hf
  have hlist : functionList.all (fun f => !f.body.isOutside) = true := by rfl
  simpa [List.all_eq_true] using hlist

end Softcode
