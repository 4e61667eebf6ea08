import Softcode.Proofs.Evaluation.Functions
import Softcode.Proofs.Evaluation.Mirrors

namespace Softcode

/-!
# Expressions and markup

What an expression comes to does not depend on markup, up to the markup of the result.  Each
function turns two calls that mirror each other into evaluations that do (`Builtin.run_mirrors`,
`inert_functionList`).  From there nodes are compared by induction on the tree, and texts by
induction on how many of them may nest (`Settings.evalText_mirrors`).
-/

/-! ### Looking at the world -/

namespace Mirrors

/-- An attribute is found by its path, and its value goes without markup. -/
theorem resolve? (settings : Settings) (d : Dbref) (path : AttributePath) :
    Mirrors EvalState.mirror (Option.map FoundAttribute.erase) (settings.resolve? d path)
      (settings.resolve? d path) :=
  ask.bind fun world => .pure (world.found?_resolve_erase _ d path true)

/-- What is meant by a name depends on objects only. -/
theorem locate? (executor : Dbref) (name : List Char) :
    Mirrors EvalState.mirror id (EvalM.locate? executor name) (EvalM.locate? executor name) := by
  simp only [EvalM.locate?]
  split
  · exact .pure rfl
  refine ask.bind fun world => .ite Iff.rfl (fun _ => .pure rfl) fun _ => ?_
  split
  · split <;> exact .pure rfl
  · exact .pure rfl
  · exact .pure rfl

/-- Flags say who may read, and they are no markup. -/
theorem mayRead (executor object : Dbref) (found : FoundAttribute) :
    Mirrors EvalState.mirror id (EvalM.mayRead executor object found)
      (EvalM.mayRead executor object found.erase) := by
  refine .ite ?_ (fun _ => .pure rfl) fun _ => ask.bind fun _ => .pure rfl
  unfold FoundAttribute.erase
  rw [List.getLast?_map, Option.any_map]
  rfl

theorem nameOf (d : Dbref) : Mirrors EvalState.mirror id (EvalM.nameOf d) (EvalM.nameOf d) :=
  ask.bind fun _ => .pure rfl

/-- The value of an attribute by name. -/
theorem valueOf (settings : Settings) (d : Dbref) (name : String) :
    Mirrors EvalState.mirror Styled.erase (settings.valueOf d name) (settings.valueOf d name) := by
  refine (resolve? settings d _).bind fun found => .pure ?_
  cases found with
  | none => rfl
  | some found => exact found.value_erase

/-- **A substitution looks at the frame and the world only.** -/
theorem substitute (settings : Settings) (frame : Frame) (sub : Substitution) :
    Mirrors EvalState.mirror Styled.erase (settings.substitute frame sub)
      (settings.substitute frame.erase sub) := by
  -- Only what holds a marked text differs: arguments, registers, elements, captures and attributes.
  cases sub with
  | argument i => exact .pure (frame.argument_erase i)
  | register name =>
    refine .get_bind fun t _ => .pure ?_
    have hfind := t.registers.find?_erase frame.registers name
    show (t.registers.erase.find? frame.registers name).getD {} = _
    rw [hfind]
    cases t.registers.find? frame.registers name <;> rfl
  | iteration level =>
    refine .pure ?_
    rw [Frame.iteration?_erase]
    cases frame.iteration? level <;> rfl
  | capture name =>
    refine .pure ?_
    rw [Frame.capture?_erase]
    cases frame.capture? name <;> rfl
  | namedAttr name => exact valueOf settings frame.executor name
  | enactorName capitalized => exact (nameOf _).bind fun _ => .pure rfl
  | moniker => exact (nameOf _).bind fun _ => .pure rfl
  | accentedName => exact (nameOf _).bind fun _ => .pure rfl
  | pronoun kind capitalized => exact (valueOf settings _ _).bind fun _ => .pure rfl
  | location => exact ask.bind fun _ => .pure rfl
  | argumentCount => exact .pure (by rw [Frame.erase, List.length_map]; rfl)
  | invocationDepth => exact .get_bind fun _ _ => .pure rfl
  | _ => exact .pure rfl

end Mirrors

/-! ### Calls that correspond -/

/-- Are these the same argument, with and without markup? -/
structure LazyArgument.Mirrors (a a' : LazyArgument) : Prop where
  raw : a'.raw = a.raw.erase
  isEmpty : a'.isEmpty = a.isEmpty
  eval : ∀ stack : FrameStack,
    Softcode.Mirrors EvalState.mirror Styled.erase (a.eval stack) (a'.eval stack.erase)

/-- Are these the same call, with and without markup? -/
structure Call.Mirrors (c c' : Call) : Prop where
  name : c'.name = c.name
  settings : c'.settings = c.settings
  stack : c'.stack = c.stack.erase
  values : c'.values = c.values.map Styled.erase
  args : List.Forall₂ LazyArgument.Mirrors c.args c'.args
  evalText : ∀ text stack, Softcode.Mirrors EvalState.mirror Styled.erase
    (c.evalText text stack) (c'.evalText text.erase stack.erase)

/-- Does the body do the same with and without markup?  For the functions that take part in the
    evaluation this is shown below, and what comes from outside may see markup. -/
def FunctionBody.Inert : FunctionBody → Prop
  | .native f => Softcode.Inert f
  | .engine _ | .user _ _ => True
  | .outside _ => False

namespace Call.Mirrors

variable {c c' : Call}

theorem value (h : c.Mirrors c') (i : Nat) : c'.value i = (c.value i).erase := by
  unfold Call.value
  rw [h.values, List.getElem?_map]
  cases c.values[i]? <;> rfl

private theorem chars_value (h : c.Mirrors c') (i : Nat) :
    (c'.value i).chars = (c.value i).chars := by
  rw [h.value, Styled.chars_erase]

theorem frame (h : c.Mirrors c') : c'.frame = c.frame.erase := by
  rw [Call.frame, h.stack]
  rfl

/-- The argument at some place, or nothing. -/
theorem elim_args {as bs : List LazyArgument} (h : List.Forall₂ LazyArgument.Mirrors as bs)
    (i : Nat) (stack : FrameStack) : Softcode.Mirrors EvalState.mirror Styled.erase
      ((as[i]?).elim (pure {}) (·.eval stack)) ((bs[i]?).elim (pure {}) (·.eval stack.erase)) := by
  induction h generalizing i with
  | nil => exact Mirrors.pure rfl
  | cons hab _ ih =>
    cases i with
    | zero => exact hab.eval stack
    | succ i => exact ih i

/-- An argument is evaluated in another frame. -/
theorem evalIn (h : c.Mirrors c') (i : Nat) (stack : FrameStack) :
    Softcode.Mirrors EvalState.mirror Styled.erase (c.evalIn i stack)
      (c'.evalIn i stack.erase) :=
  elim_args h.args i stack

/-- An argument is evaluated in the frame of the call. -/
theorem eval (h : c.Mirrors c') (i : Nat) :
    Softcode.Mirrors EvalState.mirror Styled.erase (c.eval i) (c'.eval i) := by
  unfold Call.eval
  rw [h.stack]
  exact h.evalIn i c.stack

/-- An object is looked for by the executor of the call. -/
theorem locate? (h : c.Mirrors c') (name : List Char) :
    Softcode.Mirrors EvalState.mirror id (c.locate? name) (c'.locate? name) := by
  unfold Call.locate?
  rw [h.frame]
  exact .locate? c.frame.executor name

/-! ### Registers and attributes -/

/-- A register is set under the characters of its name. -/
theorem setRegister (frame : Frame) (name value : Styled) :
    Softcode.Mirrors EvalState.mirror id (Call.setRegister frame name value)
      (Call.setRegister frame.erase name.erase value.erase) := by
  refine .modify (fun _ hs => hs) fun s => ?_
  -- The states differ in this one scope.
  have hset := s.registers.erase_set frame.registers (String.ofList (Text.trim name.chars)) value
  exact congrArg (fun registers : Registers => ({ s.erase with registers } : EvalState)) hset.symm

/-- Names and values in turn; a last name without a value is left over. -/
theorem setRegisters (frame : Frame) (values : List Styled) :
    Softcode.Mirrors EvalState.mirror id (Call.setRegisters frame values)
      (Call.setRegisters frame.erase (values.map Styled.erase)) := by
  -- The recursion is by two, as registers are set.
  match values with
  | [] => exact .pure rfl
  | [_] => exact .pure rfl
  | name :: value :: rest =>
    rw [List.map_cons, List.map_cons, Call.setRegisters, Call.setRegisters]
    exact (setRegister frame name value).bind fun _ => setRegisters frame rest

/-- Registers are set and nothing is given. -/
theorem setq (h : c.Mirrors c') :
    Softcode.Mirrors EvalState.mirror Styled.erase c.setq c'.setq := by
  unfold Call.setq
  rw [h.values, h.frame, List.length_map]
  split
  · exact .pure rfl
  · exact (setRegisters c.frame c.values).bind fun _ => .pure rfl

/-- A register is set, and its value given. -/
theorem setr (h : c.Mirrors c') :
    Softcode.Mirrors EvalState.mirror Styled.erase c.setr c'.setr := by
  unfold Call.setr
  rw [h.value, h.value, h.frame]
  exact (setRegister _ _ _).bind fun _ => .pure rfl

theorem readRegister (h : c.Mirrors c') :
    Softcode.Mirrors EvalState.mirror Styled.erase c.readRegister c'.readRegister := by
  unfold Call.readRegister
  rw [h.frame, h.chars_value]
  exact .substitute c.settings c.frame (.register _)

/-- An attribute of the executor is read. -/
theorem ownAttribute (h : c.Mirrors c') :
    Softcode.Mirrors EvalState.mirror Styled.erase c.ownAttribute c'.ownAttribute := by
  unfold Call.ownAttribute
  rw [h.frame, h.settings, h.chars_value]
  split
  · exact .pure rfl
  · refine (Mirrors.resolve? c.settings _ _).bind fun found => .pure ?_
    cases found with
    | none => rfl
    | some found => exact found.value_erase

/-- An attribute of any object is read, where that is allowed. -/
theorem anyAttribute (h : c.Mirrors c') :
    Softcode.Mirrors EvalState.mirror Styled.erase c.anyAttribute c'.anyAttribute := by
  unfold Call.anyAttribute
  rw [h.frame, h.settings, h.chars_value]
  refine (h.locate? _).bind fun object => ?_
  dsimp only [id]
  split
  · exact .pure rfl
  split
  · exact .pure rfl
  refine (Mirrors.resolve? c.settings _ _).bind fun found => ?_
  cases found with
  | none => exact .pure rfl
  | some found =>
    refine (Mirrors.mayRead _ _ found).bind fun may => ?_
    exact .ite Iff.rfl (fun _ => .pure found.value_erase) fun _ => .pure rfl

/-- Something about an object that is no markup. -/
theorem aboutObject (h : c.Mirrors c') (f : Option Object → List Char) :
    Softcode.Mirrors EvalState.mirror Styled.erase (Call.aboutObject f c)
      (Call.aboutObject f c') := by
  unfold Call.aboutObject
  rw [h.chars_value]
  refine (h.locate? _).bind fun object => ?_
  dsimp only [id]
  split
  · exact .pure rfl
  · exact Mirrors.ask.bind fun _ => .pure rfl

theorem numberOf (h : c.Mirrors c') :
    Softcode.Mirrors EvalState.mirror Styled.erase c.numberOf c'.numberOf := by
  unfold Call.numberOf
  rw [h.chars_value]
  exact (h.locate? _).bind fun _ => .pure rfl

/-- A lock is tried. -/
theorem passesLockOf (h : c.Mirrors c') :
    Softcode.Mirrors EvalState.mirror Styled.erase c.passesLockOf c'.passesLockOf := by
  unfold Call.passesLockOf
  rw [h.chars_value, h.chars_value]
  dsimp only
  split
  · exact .pure rfl
  refine (h.locate? _).bind fun gated => (h.locate? _).bind fun unlocker => ?_
  dsimp only [id]
  split
  · exact (Mirrors.passesLock _ _ _).bind fun _ => .pure rfl
  · exact .pure rfl

/-! ### Choices and loops -/

/-- The first argument decides by its characters which of the others is evaluated. -/
theorem choose (h : c.Mirrors c') :
    Softcode.Mirrors EvalState.mirror Styled.erase c.choose c'.choose :=
  (h.eval 0).bind fun _ => h.eval _

/-- Patterns are compared with characters, one after the other. -/
theorem switchOn (h : c.Mirrors c') (text : List Char) {as bs : List LazyArgument}
    (hargs : List.Forall₂ LazyArgument.Mirrors as bs) :
    Softcode.Mirrors EvalState.mirror Styled.erase (c.switchOn text as)
      (c'.switchOn text bs) := by
  cases hargs with
  | nil => exact Mirrors.pure rfl
  | cons hfirst hrest =>
    cases hrest with
    -- One that is left over is the default.
    | nil =>
      rw [Call.switchOn, Call.switchOn, h.stack]
      exact hfirst.eval c.stack
    | cons hresult hrest =>
      rw [Call.switchOn, Call.switchOn, h.stack, h.settings]
      refine (hfirst.eval c.stack).bind fun pattern =>
        (Mirrors.withPatterns (id_map _).symm).bind fun m => .ite Iff.rfl (fun _ => ?_) fun _ => ?_
      · exact hresult.eval c.stack
      · exact h.switchOn text hrest
termination_by as.length

/-- The text that is compared comes first. -/
theorem switch (h : c.Mirrors c') :
    Softcode.Mirrors EvalState.mirror Styled.erase c.switch c'.switch :=
  (h.eval 0).bind fun text => h.switchOn text.chars (List.forall₂_drop 1 h.args)

/-- The loops that have been asked to stop are the same. -/
theorem evalElements (h : c.Mirrors c') (loop : LoopId) (index : Nat) (xs : List Styled) :
    Softcode.Mirrors EvalState.mirror (List.map Styled.erase) (c.evalElements loop index xs)
      (c'.evalElements loop index (xs.map Styled.erase)) := by
  induction xs generalizing index with
  | nil => exact .pure rfl
  | cons x xs ih =>
    -- The next element is only gone on to if the loop has not been asked to stop.
    rw [List.map_cons, Call.evalElements, Call.evalElements, h.frame, h.stack]
    refine (h.evalIn 1 (c.stack.push (c.frame.iterate ⟨x, index, loop⟩))).bind fun value => ?_
    refine .get_bind fun s _ => .ite Iff.rfl (fun _ => .pure rfl) fun _ => ?_
    exact (ih (index + 1)).bind fun _ => .pure rfl

/-- A list is split into elements at the same places. -/
theorem iterateOver (h : c.Mirrors c') :
    Softcode.Mirrors EvalState.mirror Styled.erase c.iterateOver c'.iterateOver := by
  have hloop : ∀ (list between : Styled) (delimiter : Option Char),
      Softcode.Mirrors EvalState.mirror Styled.erase
        (do
          let loop ← EvalM.newLoop
          return .join between (← c.evalElements loop 1 (elements list delimiter)))
        (do
          let loop ← EvalM.newLoop
          return .join between.erase
            (← c'.evalElements loop 1 (elements list.erase delimiter))) := by
    intro list between delimiter
    refine Mirrors.newLoop.bind fun loop => ?_
    rw [← map_erase_elements]
    exact (h.evalElements loop 1 _).bind fun items => .pure (Styled.erase_join between items).symm
  -- Without a fourth argument the separator of the list stands between the results.
  unfold Call.iterateOver
  rw [h.args.length_eq]
  refine (h.eval 0).bind fun list => (h.eval 2).bind fun delimiter => ?_
  split
  · exact (h.eval 3).bind fun between => hloop list between _
  · exact Mirrors.bind (φ := Styled.erase) (.pure rfl) fun between => hloop list between _

/-- The loop that is meant is the same. -/
theorem onIteration (h : c.Mirrors c') {f : Iteration → EvalM Styled}
    (hf : ∀ i, Softcode.Mirrors EvalState.mirror Styled.erase (f i) (f i.erase)) :
    Softcode.Mirrors EvalState.mirror Styled.erase (Call.onIteration f c)
      (Call.onIteration f c') := by
  unfold Call.onIteration
  dsimp only
  rw [h.chars_value, h.frame, Frame.iteration?_erase]
  cases c.frame.iteration? _ with
  | none => exact .pure rfl
  | some i => exact hf i

/-- A loop is asked to stop. -/
theorem halt (i : Iteration) :
    Softcode.Mirrors EvalState.mirror Styled.erase (Call.halt i) (Call.halt i.erase) :=
  Mirrors.bind (.modify (fun _ hs => hs) fun _ => rfl) fun _ => .pure rfl

/-- The arguments as they are written. -/
theorem map_raw {as bs : List LazyArgument} (h : List.Forall₂ LazyArgument.Mirrors as bs) :
    bs.map (·.raw) = (as.map (·.raw)).map Styled.erase := by
  induction h with
  | nil => rfl
  | cons hab _ ih => rw [List.map_cons, List.map_cons, List.map_cons, hab.raw, ih]

/-- Literal arguments are given as they are written, with the commas between them. -/
theorem literal (h : c.Mirrors c') :
    Softcode.Mirrors EvalState.mirror Styled.erase c.literal c'.literal := by
  refine .pure ?_
  rw [map_raw h.args]
  exact (Styled.erase_join (.ofString ",") _).symm

end Call.Mirrors

/-! ### Softcode in attributes -/

/-- **Softcode in an attribute is evaluated alike,** in a scope of its own or not. -/
private theorem callAttribute_mirrors (settings : Settings)
    {evalText evalText' : Styled → FrameStack → EvalM Styled}
    (htext : ∀ text stack, Mirrors EvalState.mirror Styled.erase (evalText text stack)
      (evalText' text.erase stack.erase)) (object : Dbref) (path : AttributePath)
    (args : List Styled) (stack : FrameStack) (isolated : Bool) :
    Mirrors EvalState.mirror Styled.erase
      (settings.callAttribute evalText object path args stack isolated)
      (settings.callAttribute evalText' object path (args.map Styled.erase) stack.erase
        isolated) := by
  refine (Mirrors.resolve? settings object path).bind fun found => ?_
  cases found with
  | none => exact .pure rfl
  | some found =>
    dsimp only [Option.map_some]
    refine (Mirrors.mayRead _ _ found).bind fun may => .ite Iff.rfl (fun _ => .pure rfl) fun _ => ?_
    rw [FoundAttribute.value_erase]
    split
    · exact (Mirrors.localize _).bind fun inner => htext found.value (stack.push inner)
    · exact Mirrors.bind (φ := Frame.erase) (.pure rfl) fun inner =>
        htext found.value (stack.push inner)

/-- An attribute is called by name. -/
theorem Call.Mirrors.callNamed {c c' : Call} (h : c.Mirrors c') (isolated : Bool) :
    Softcode.Mirrors EvalState.mirror Styled.erase (c.callNamed isolated)
      (c'.callNamed isolated) := by
  unfold Call.callNamed
  rw [h.chars_value, h.values, h.frame, h.settings, h.stack]
  dsimp only
  -- The object may be left out, and then the attribute is on the executor.
  have hobject : ∀ name : Option (List Char), Softcode.Mirrors EvalState.mirror id
      (name.elim (pure (some c.frame.executor)) c.locate?)
      (name.elim (pure (some c.frame.erase.executor)) c'.locate?) := by
    intro name
    cases name with
    | none => exact .pure rfl
    | some name => exact h.locate? name
  refine (hobject _).bind fun object => ?_
  dsimp only [id]
  split
  · exact .pure rfl
  split
  · exact .pure rfl
  · rw [← List.map_drop]
    exact callAttribute_mirrors c.settings h.evalText _ _ _ c.stack isolated

/-! ### The standard functions -/

/-- **No function that takes part in the evaluation sees markup.** -/
theorem Builtin.run_mirrors {c c' : Call} (h : c.Mirrors c') (f : Builtin) :
    Mirrors EvalState.mirror Styled.erase (f.run c) (f.run c') := by
  unfold run
  cases f with
  | lit => exact h.literal
  | choose => exact h.choose
  | switch => exact h.switch
  | iter => exact h.iterateOver
  | itext => exact h.onIteration fun _ => .pure rfl
  | inum => exact h.onIteration fun _ => .pure rfl
  | ibreak => exact h.onIteration Call.Mirrors.halt
  | setq => exact h.setq
  | setr => exact h.setr
  | r => exact h.readRegister
  | u => exact h.callNamed false
  | ulocal => exact h.callNamed true
  | v => exact h.ownAttribute
  | get => exact h.anyAttribute
  | name => exact h.aboutObject _
  | num => exact h.numberOf
  | loc => exact h.aboutObject _
  | owner => exact h.aboutObject _
  | elock => exact h.passesLockOf

/-- Numbers are read from characters. -/
private theorem inert_numberFunctions : ∀ f ∈ numberFunctions, f.body.Inert := by
  have hcomparison : ∀ f, Inert (comparison f) := fun f => inert_ofTwoNumbers fun _ _ => rfl
  simp only [numberFunctions, List.forall_mem_cons]
  refine ⟨inert_ofNumbers fun _ => rfl, inert_ofTwoNumbers fun _ _ => rfl,
    inert_ofNumbers fun _ => rfl, inert_ofIntegers _, inert_ofIntegers _,
    inert_ofNumbers fun xs => ?_, hcomparison _, hcomparison _, hcomparison _, hcomparison _,
    hcomparison _, hcomparison _, by simp⟩
  -- Only `abs` looks at how many numbers there are.
  split <;> rfl

/-- Texts are put together, measured and cut by their characters. -/
private theorem inert_textFunctions : ∀ f ∈ textFunctions, f.body.Inert := by
  have hlength : Inert fun values =>
      .ofChars (Number.natText ((values[0]?).elim 0 Styled.length)) := by
    intro values
    cases values <;> rfl
  simp only [textFunctions, List.forall_mem_cons]
  exact ⟨inert_concat, inert_join " ", hlength, trivial, inert_head fun s => s.erase_upper.symm,
    inert_head fun s => s.erase_lower.symm, inert_countElements, inert_firstElement,
    inert_otherElements, by simp⟩

/-- Whether a text is true depends on its characters. -/
private theorem inert_controlFunctions : ∀ f ∈ controlFunctions, f.body.Inert := by
  -- Truth depends on the characters alone.
  have hnot : Inert fun values => truthText !((values[0]?).any isTrue) := by
    intro values
    dsimp only
    rw [any_isTrue_head_erase]
    rfl
  have htrue : Inert fun values => truthText ((values[0]?).any isTrue) := by
    intro values
    dsimp only
    rw [any_isTrue_head_erase]
    rfl
  have hand : Inert fun values => truthText (values.all isTrue) := by
    intro values
    dsimp only
    rw [List.all_map]
    rfl
  have hor : Inert fun values => truthText (values.any isTrue) := by
    intro values
    dsimp only
    rw [List.any_map]
    rfl
  simp only [controlFunctions, List.forall_mem_cons]
  exact ⟨hnot, htrue, hand, hor, by simp [Function.control, Function.engine, FunctionBody.Inert]⟩

private theorem inert_objectFunctions : ∀ f ∈ objectFunctions, f.body.Inert := by
  simp [objectFunctions, Function.engine, FunctionBody.Inert]

/-- **No standard function sees markup.** -/
theorem inert_functionList : ∀ f ∈ functionList, f.body.Inert := by
  simp only [functionList, List.forall_mem_append]
  exact ⟨⟨⟨inert_numberFunctions, inert_textFunctions⟩, inert_controlFunctions⟩,
    inert_objectFunctions⟩

private theorem Functions.Standard.inert {fs : Functions} (h : fs.Standard) {name : String}
    {f : Function} (hf : fs.find? name = some f) : f.body.Inert :=
  h.body (fun _ _ => trivial) inert_functionList hf

/-! ### Calls -/

namespace Settings

/-- Do texts that calls evaluate mirror each other? -/
def TextsMirror (evalText evalText' : Styled → FrameStack → EvalM Styled) : Prop :=
  ∀ text stack, Mirrors EvalState.mirror Styled.erase (evalText text stack)
    (evalText' text.erase stack.erase)

variable {settings : Settings} {evalText evalText' : Styled → FrameStack → EvalM Styled}

/-- The body of a function, once its arguments are there. -/
private theorem perform_mirrors (h : TextsMirror evalText evalText') {name : String}
    {body : FunctionBody} (hbody : body.Inert) (stack : FrameStack) {args args' : List LazyArgument}
    (hargs : List.Forall₂ LazyArgument.Mirrors args args') (values : List Styled) :
    Mirrors EvalState.mirror Styled.erase
      (settings.perform evalText name body stack args values)
      (settings.perform evalText' name body stack.erase args' (values.map Styled.erase)) := by
  cases body with
  | native f => exact .pure (hbody values)
  | engine f =>
    refine Builtin.run_mirrors ?_ f
    exact ⟨rfl, rfl, rfl, rfl, hargs, h⟩
  | user object attr =>
    unfold perform
    dsimp only
    split
    · exact callAttribute_mirrors settings h object _ values stack false
    · exact .pure rfl
  | outside f => cases hbody

/-- Its arguments are evaluated first, unless it does so itself. -/
theorem invoke_mirrors (h : TextsMirror evalText evalText') {name : String} {f : Function}
    (hf : f.body.Inert) (stack : FrameStack) {args args' : List LazyArgument}
    (hargs : List.Forall₂ LazyArgument.Mirrors args args') :
    Mirrors EvalState.mirror Styled.erase (settings.invoke evalText name f stack args)
      (settings.invoke evalText' name f stack.erase args') := by
  unfold invoke
  split
  · exact Mirrors.bind (φ := List.map Styled.erase) (.pure rfl) fun values =>
      perform_mirrors h hf stack hargs values
  · have hvalues : Mirrors EvalState.mirror (List.map Styled.erase)
        (args.mapM fun a => a.eval stack) (args'.mapM fun a => a.eval stack.erase) :=
      .mapM (hargs.imp fun _ _ hab => hab.eval stack)
    exact hvalues.bind fun values => perform_mirrors h hf stack hargs values

/-- The number of arguments and the privilege are checked alike. -/
theorem apply_mirrors (h : TextsMirror evalText evalText') {name : String} {f : Function}
    (hf : f.body.Inert) (stack : FrameStack) {args args' : List LazyArgument}
    (hargs : List.Forall₂ LazyArgument.Mirrors args args') :
    Mirrors EvalState.mirror Styled.erase (settings.apply evalText name f stack args)
      (settings.apply evalText' name f stack.erase args') := by
  have hinvoke : Mirrors EvalState.mirror Styled.erase
      (settings.invoke evalText name f stack args)
      (settings.invoke evalText' name f stack.erase args') := invoke_mirrors h hf stack hargs
  simp only [apply, hargs.length_eq]
  split
  · exact .pure rfl
  split
  · exact Mirrors.ask.bind fun world => .ite Iff.rfl (fun _ => .pure rfl) fun _ => hinvoke
  · exact hinvoke

/-- A call is looked up, counted and entered. -/
private theorem call_mirrors (h : TextsMirror evalText evalText') (name : String)
    {args args' : List LazyArgument} (hargs : List.Forall₂ LazyArgument.Mirrors args args')
    (stack : FrameStack) :
    Mirrors EvalState.mirror Styled.erase (settings.call evalText name args stack)
      (settings.call evalText' name args' stack.erase) := by
  refine Mirrors.checkCancelled.bind fun _ => .get_bind fun s hs => ?_
  have hget : (EvalState.mirror.erase s).functions = s.functions := rfl
  rw [hget]
  cases hf : s.functions.get? (lowerName name) with
  | none => exact .pure (Styled.erase_ofString _).symm
  | some f =>
    refine (Mirrors.countInvocation _).bind fun _ => (Mirrors.enter _ _ _).bind fun inner => ?_
    exact apply_mirrors h (Functions.Standard.inert hs hf) (stack.push inner)
      (LazyArgument.forall₂_given (fun _ _ hab => hab.isEmpty) hargs)

/-! ### Nodes -/

-- The recursion is that of the evaluator: nodes, sequences of nodes and arguments of calls.
mutual

/-- One node. -/
private theorem evalNode_mirrors (h : TextsMirror evalText evalText') (source : Styled)
    (stack : FrameStack) : ∀ node : Node, Mirrors EvalState.mirror Styled.erase
      (settings.evalNode evalText source node stack)
      (settings.evalNode evalText' source.erase node stack.erase)
  | .text _ | .escape _ => Mirrors.pure (source.erase_slice _ _).symm
  | .substitution sub _ => Mirrors.substitute settings stack.top sub
  | .call name _ args _ => by
    rw [evalNode, evalNode]
    exact call_mirrors h name (lazyArguments_mirrors h source args) stack
  | .bracket body _ => by
    rw [evalNode, evalNode]
    exact evalNodes_mirrors h source stack body {}
  | .brace .strip body _ _ => by
    rw [evalNode, evalNode]
    exact evalNodes_mirrors h source stack body {}
  | .brace .keep body _ _ => by
    rw [evalNode, evalNode]
    exact (evalNodes_mirrors h source stack body {}).bind fun _ => .pure rfl
  | .brace .literal _ _ _ => Mirrors.pure (source.erase_slice _ _).symm
termination_by structural node => node

/-- A sequence of nodes, behind what is done. -/
private theorem evalNodes_mirrors (h : TextsMirror evalText evalText') (source : Styled)
    (stack : FrameStack) : ∀ (nodes : List Node) (done : Styled),
      Mirrors EvalState.mirror Styled.erase
        (settings.evalNodes evalText source nodes done stack)
        (settings.evalNodes evalText' source.erase nodes done.erase stack.erase)
  | [], _ => Mirrors.pure rfl
  | node :: nodes, done => by
    rw [evalNodes, evalNodes]
    exact (Mirrors.countNode _).bind fun _ =>
      (evalNode_mirrors h source stack node).bind fun value =>
      evalNodes_mirrors h source stack nodes (done ++ value)
termination_by structural nodes => nodes

/-- An argument that has not been evaluated. -/
private theorem lazyArgument_mirrors (h : TextsMirror evalText evalText') (source : Styled) :
    ∀ arg : NodeList Node, LazyArgument.Mirrors (settings.lazyArgument evalText source arg)
      (settings.lazyArgument evalText' source.erase arg)
  | ⟨nodes, _⟩ => by
    rw [lazyArgument, lazyArgument]
    exact ⟨(source.erase_slice _ _).symm, rfl, fun stack =>
      evalNodes_mirrors h source stack nodes {}⟩
termination_by structural arg => arg

/-- All arguments of a call. -/
private theorem lazyArguments_mirrors (h : TextsMirror evalText evalText') (source : Styled) :
    ∀ args : List (NodeList Node), List.Forall₂ LazyArgument.Mirrors
      (settings.lazyArguments evalText source args)
      (settings.lazyArguments evalText' source.erase args)
  | [] => List.Forall₂.nil
  | arg :: args =>
    List.Forall₂.cons (lazyArgument_mirrors h source arg) (lazyArguments_mirrors h source args)
termination_by structural args => args

end

/-! ### Texts -/

/-- **Texts mirror each other.** What a text is read as depends on its characters only. -/
theorem evalText_mirrors (levels : Nat) (text : Styled) (stack : FrameStack) :
    Mirrors EvalState.mirror Styled.erase (settings.evalText levels text stack)
      (settings.evalText levels text.erase stack.erase) := by
  induction levels generalizing text stack with
  | zero => exact .throw _
  | succ levels ih =>
    rw [Settings.evalText, Settings.evalText, Styled.chars_erase]
    split
    · exact .pure rfl
    · exact evalNodes_mirrors ih text stack _ {}
    · exact .pure rfl

/-- **Arguments mirror each other.** -/
theorem evalArgument_mirrors (levels : Nat) (source : Styled) (arg : Argument)
    (stack : FrameStack) :
    Mirrors EvalState.mirror Styled.erase (settings.evalArgument levels source arg stack)
      (settings.evalArgument levels source.erase arg stack.erase) :=
  evalNodes_mirrors (evalText_mirrors levels) source stack arg.nodes {}

end Settings

end Softcode
