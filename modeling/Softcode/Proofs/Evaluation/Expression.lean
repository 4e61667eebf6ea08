import Softcode.Proofs.Evaluation.Functions

namespace Softcode

/-!
# Expressions and ceilings

Evaluations of one expression under different ceilings follow each other.  Nodes are compared by
induction on the tree.  A text that a call evaluates is compared by induction on how many texts may
still nest: a call is one deeper than what stands around it, and no call is deeper than the ceiling,
so the bound on nesting is never reached (`Settings.evalText_follows`).
-/

variable {cancellable : Prop} {forgives : Abort → Prop}

namespace Settings

variable {settings : Settings} {l : Limits}
  {evalText evalText' : Styled → FrameStack → EvalM Styled}

/-! ### Calls -/

/-- What a function does once its arguments are there.  Functions from outside are left out, since
    they see the ceilings. -/
private theorem perform_follows {name : String} {body : FunctionBody}
    (hbody : body.isOutside = false) {stack : FrameStack} {args args' : List LazyArgument}
    {values : List Styled}
    (hargs : List.Forall₂
      (LazyArgument.Related (EvalState.terms cancellable forgives) stack.top.depth) args args')
    (htext : ∀ (text : Styled) (inner : FrameStack), inner.top.depth = stack.top.depth →
      Follows (EvalState.terms cancellable forgives) (evalText text inner) (evalText' text inner)) :
    Follows (EvalState.terms cancellable forgives)
      (settings.perform evalText name body stack args values)
      ((settings.withLimits l).perform evalText' name body stack args' values) := by
  cases body with
  | native f => exact .pure _
  | engine f =>
    refine Builtin.run_follows ?_ f
    exact ⟨rfl, ⟨l, rfl⟩, rfl, rfl, hargs, htext⟩
  | user object attr =>
    unfold perform
    dsimp only
    split
    · exact .callAttribute ⟨l, rfl⟩ htext
    · exact .pure _
  | outside f => cases hbody

/-- The arguments are evaluated first, unless the function does so itself. -/
theorem invoke_follows {name : String} {f : Function} (hf : f.body.isOutside = false)
    {stack : FrameStack} {args args' : List LazyArgument}
    (hargs : List.Forall₂
      (LazyArgument.Related (EvalState.terms cancellable forgives) stack.top.depth) args args')
    (htext : ∀ (text : Styled) (inner : FrameStack), inner.top.depth = stack.top.depth →
      Follows (EvalState.terms cancellable forgives) (evalText text inner) (evalText' text inner)) :
    Follows (EvalState.terms cancellable forgives) (settings.invoke evalText name f stack args)
      ((settings.withLimits l).invoke evalText' name f stack args') := by
  unfold invoke
  split
  · exact (Follows.pure []).bind fun values => perform_follows hf hargs htext
  · have hvalues : Follows (EvalState.terms cancellable forgives) (args.mapM fun a => a.eval stack)
        (args'.mapM fun a => a.eval stack) :=
      .mapM (hargs.imp fun a a' h => h.eval stack rfl)
    exact hvalues.bind fun values => perform_follows hf hargs htext

/-- The number of arguments and the privilege are checked by both. -/
theorem apply_follows {name : String} {f : Function} (hf : f.body.isOutside = false)
    {stack : FrameStack} {args args' : List LazyArgument}
    (hargs : List.Forall₂
      (LazyArgument.Related (EvalState.terms cancellable forgives) stack.top.depth) args args')
    (htext : ∀ (text : Styled) (inner : FrameStack), inner.top.depth = stack.top.depth →
      Follows (EvalState.terms cancellable forgives) (evalText text inner) (evalText' text inner)) :
    Follows (EvalState.terms cancellable forgives) (settings.apply evalText name f stack args)
      ((settings.withLimits l).apply evalText' name f stack args') := by
  have hinvoke :
      Follows (EvalState.terms cancellable forgives) (settings.invoke evalText name f stack args)
        ((settings.withLimits l).invoke evalText' name f stack args') :=
    invoke_follows hf hargs htext
  simp only [apply, hargs.length_eq]
  -- A wrong number of arguments and a missing privilege end both calls alike.
  split
  · exact .pure _
  split
  · refine Follows.ask.bind fun world => ?_
    split
    · exact .pure _
    · exact hinvoke
  · exact hinvoke

/-- A call is one deeper than what stands around it, and so are its arguments. -/
private theorem call_follows (hl : settings.limits.Widen forgives l) {name : String}
    {args args' : List LazyArgument} {stack : FrameStack}
    (hargs : List.Forall₂ (LazyArgument.Related (EvalState.terms cancellable forgives)
      (stack.top.depth + 1)) args args')
    (htext : stack.top.depth + 1 ≤ settings.limits.depth →
      ∀ (text : Styled) (inner : FrameStack), inner.top.depth = stack.top.depth + 1 →
        Follows (EvalState.terms cancellable forgives) (evalText text inner)
    (evalText' text inner)) :
    Follows (EvalState.terms cancellable forgives) (settings.call evalText name args stack)
      ((settings.withLimits l).call evalText' name args' stack) := by
  refine Follows.checkCancelled.bind fun _ => Follows.get_bind fun s hs => ?_
  cases hf : s.functions.get? (lowerName name) with
  | none => exact .pure _
  | some f =>
    refine (Follows.countInvocation hl).bind fun _ =>
      (Follows.enter hl _ _).bind_of (EvalM.gives_enter _ _ _) ?_
    -- The call has been entered, so it is no deeper than the ceiling, and texts in it can be
    -- compared.
    rintro inner ⟨rfl, hdepth⟩
    exact apply_follows (hs.2.isOutside_eq_false hf)
      (LazyArgument.forall₂_given (fun _ _ hab => hab.isEmpty) hargs) (htext hdepth)

/-! ### Nodes -/

/-- Can evaluations that start at a depth be compared?  The second has wider ceilings, and texts
    that stand inside deeper calls follow each other. -/
structure ComparesAt (cancellable : Prop) (forgives : Abort → Prop) (settings : Settings)
    (l : Limits) (depth : Nat) (evalText evalText' : Styled → FrameStack → EvalM Styled) :
    Prop where
  limits : settings.limits.Widen forgives l
  text : ∀ (text : Styled) (inner : FrameStack), depth < inner.top.depth →
    inner.top.depth ≤ settings.limits.depth →
    Follows (EvalState.terms cancellable forgives) (evalText text inner) (evalText' text inner)

variable {depth : Nat}

-- The recursion is that of the evaluator: nodes, sequences of nodes and arguments of calls.
mutual

/-- One node. -/
private theorem evalNode_follows
    (h : ComparesAt cancellable forgives settings l depth evalText evalText') (source : Styled)
    {stack : FrameStack} (hstack : depth ≤ stack.top.depth) : ∀ node : Node,
    Follows (EvalState.terms cancellable forgives) (settings.evalNode evalText source node stack)
      ((settings.withLimits l).evalNode evalText' source node stack)
  | .text _ | .escape _ => Follows.pure _
  | .substitution sub _ => Follows.substitute settings stack.top sub
  | .call name _ args _ => by
    rw [evalNode, evalNode]
    refine call_follows h.limits (lazyArguments_related h source (by omega) args) ?_
    intro hdepth text inner hinner
    exact h.text text inner (by omega) (by omega)
  | .bracket body _ => by
    rw [evalNode, evalNode]
    exact evalNodes_follows h source hstack body {}
  | .brace .strip body _ _ => by
    rw [evalNode, evalNode]
    exact evalNodes_follows h source hstack body {}
  | .brace .keep body _ _ => by
    rw [evalNode, evalNode]
    exact (evalNodes_follows h source hstack body {}).bind fun _ => .pure _
  | .brace .literal _ _ _ => Follows.pure _
termination_by structural node => node

/-- A sequence of nodes, each of which is counted. -/
private theorem evalNodes_follows
    (h : ComparesAt cancellable forgives settings l depth evalText evalText') (source : Styled)
    {stack : FrameStack} (hstack : depth ≤ stack.top.depth) :
    ∀ (nodes : List Node) (done : Styled),
    Follows (EvalState.terms cancellable forgives)
      (settings.evalNodes evalText source nodes done stack)
      ((settings.withLimits l).evalNodes evalText' source nodes done stack)
  | [], _ => Follows.pure _
  | node :: nodes, done => by
    rw [evalNodes, evalNodes]
    exact (Follows.countNode h.limits).bind fun _ =>
      (evalNode_follows h source hstack node).bind fun value =>
        evalNodes_follows h source hstack nodes (done ++ value)
termination_by structural nodes => nodes

/-- An argument that has not been evaluated. -/
private theorem lazyArgument_related
    (h : ComparesAt cancellable forgives settings l depth evalText evalText') (source : Styled)
    {inner : Nat} (hinner : depth ≤ inner) : ∀ arg : NodeList Node,
    LazyArgument.Related (EvalState.terms cancellable forgives) inner
      (settings.lazyArgument evalText source arg)
      ((settings.withLimits l).lazyArgument evalText' source arg)
  | ⟨nodes, _⟩ => by
    rw [lazyArgument, lazyArgument]
    refine ⟨rfl, rfl, fun stack hstack => ?_⟩
    exact evalNodes_follows h source (by omega) nodes {}
termination_by structural arg => arg

/-- All arguments of a call. -/
private theorem lazyArguments_related
    (h : ComparesAt cancellable forgives settings l depth evalText evalText') (source : Styled)
    {inner : Nat} (hinner : depth ≤ inner) : ∀ args : List (NodeList Node),
    List.Forall₂ (LazyArgument.Related (EvalState.terms cancellable forgives) inner)
      (settings.lazyArguments evalText source args)
      ((settings.withLimits l).lazyArguments evalText' source args)
  | [] => List.Forall₂.nil
  | arg :: args => List.Forall₂.cons (lazyArgument_related h source hinner arg)
      (lazyArguments_related h source hinner args)
termination_by structural args => args

end

/-! ### Texts -/

/-- **Texts follow each other.** A text that stands inside as many calls as the stack says is
    evaluated alike with all numbers of levels that, together with the depth, pass the ceiling. -/
theorem evalText_follows (hl : settings.limits.Widen forgives l)
    {n m : Nat} (text : Styled) {stack : FrameStack}
    (hdepth : stack.top.depth ≤ settings.limits.depth)
    (hn : settings.limits.depth < n + stack.top.depth)
    (hm : l.depth < m + stack.top.depth) :
    Follows (EvalState.terms cancellable forgives) (settings.evalText n text stack)
      ((settings.withLimits l).evalText m text stack) := by
  have hwider := hl.depth
  -- Both numbers go down by one where the depth goes up by one or more, so neither runs out.
  induction n generalizing m text stack with
  | zero => omega
  | succ n ih =>
    obtain _ | m := m
    · omega
    rw [Settings.evalText, Settings.evalText]
    split
    · exact .pure _
    · refine evalNodes_follows ⟨hl, fun text inner hinner hle => ?_⟩ text
        (Nat.le_refl stack.top.depth) _ {}
      exact ih text hle (by omega) (by omega)
    · exact .pure _

/-- **Arguments follow each other,** whatever the depth that they start at. -/
theorem evalArgument_follows (hl : settings.limits.Widen forgives l)
    {n m : Nat} (hn : settings.limits.depth ≤ n)
    (hm : l.depth ≤ m) (source : Styled) (arg : Argument) (stack : FrameStack) :
    Follows (EvalState.terms cancellable forgives) (settings.evalArgument n source arg stack)
      ((settings.withLimits l).evalArgument m source arg stack) := by
  refine evalNodes_follows ⟨hl, fun text inner hinner hle => ?_⟩ source
    (Nat.le_refl stack.top.depth) arg.nodes {}
  exact evalText_follows hl text hle (by omega) (by omega)

end Settings

end Softcode
