import Softcode.Proofs.Evaluation.Ceilings

namespace Softcode

/-!
# The steps of an evaluation

What one step of an evaluation comes to, from any state in which nobody wants it to end.  Each
ceiling is checked at one place: that on the number of nodes where a node begins, and the other
three, one after the other, where a call begins.

* `Settings.run_evalNodes_cons` — a node and those behind it;
* `Settings.run_call` — a call is counted and checked, and then the function is applied;
* `Settings.apply_eq_invoke`, `Settings.invoke_one` — what the function does then;
* `Engine.run_expression_of_error`, `Engine.evaluate_of_limit` — what passes a ceiling ends a whole
  text.
-/

namespace EvalM

variable {s : EvalState}

/-- A look at whether the evaluation is to end. -/
private theorem run_checkCancelled (h : s.cancelAfter = none) :
    checkCancelled.run.run s = (.ok (), s) := by
  unfold checkCancelled
  rw [run_get_bind, h]
  rfl

theorem run_ask (h : s.cancelAfter = none) : ask.run.run s = (.ok s.world, s) := by
  unfold ask
  rw [EarlyM.run_bind, run_checkCancelled h]
  rfl

/-- What is counted below the ceiling ends nothing, and else nothing comes after it. -/
private theorem run_count_bind {α : Type} (bump : EvalState → EvalState) (counted : EvalState → Nat)
    (ceiling : Nat) (kind : LimitKind) (f : Unit → EvalM α) (s : EvalState) :
    (count bump counted ceiling kind >>= f).run.run s
      = if ceiling < counted (bump s) then (.error (.limit kind), bump s)
        else (f ()).run.run (bump s) := by
  rw [EarlyM.run_bind, run_count]
  by_cases hpassed : ceiling < counted (bump s)
  · rw [if_pos hpassed, if_pos hpassed]
  · rw [if_neg hpassed, if_neg hpassed]

end EvalM

/-- A call counts among the calls inside it. -/
theorem Frame.recursionOf_enter (f : Frame) (name name' : String) :
    (f.enter name).recursionOf name' =
      f.recursionOf name' + if lowerName name' = lowerName name then 1 else 0 := by
  unfold Frame.enter Frame.recursionOf
  dsimp only
  rw [Table.find?_insert]
  split
  · rename_i hname
    rw [hname, Option.getD_some]
  · rfl

namespace Settings

variable {settings : Settings} {evalText : Styled → FrameStack → EvalM Styled} {s : EvalState}

/-- **A node and those behind it.**  What ends the evaluation of the node ends all. -/
theorem run_evalNodes_cons (settings : Settings) (evalText : Styled → FrameStack → EvalM Styled)
    (source : Styled) (node : Node) (nodes : List Node) (done : Styled) (stack : FrameStack)
    (s : EvalState) :
    (settings.evalNodes evalText source (node :: nodes) done stack).run.run s
      = if settings.limits.nodes < s.nodes + 1 then
          (.error (.limit .nodes), { s with nodes := s.nodes + 1 })
        else match (settings.evalNode evalText source node stack).run.run
            { s with nodes := s.nodes + 1 } with
          | (.ok value, t) =>
            (settings.evalNodes evalText source nodes (done ++ value) stack).run.run t
          | (.error e, t) => (.error e, t) := by
  rw [evalNodes, EvalM.countNode, EvalM.run_count_bind, EarlyM.run_bind]
  -- A node that ends the evaluation ends the whole sequence.
  rcases (settings.evalNode evalText source node stack).run.run { s with nodes := s.nodes + 1 }
    with ⟨_ | _, _⟩ <;> rfl

/-- **A call is counted and checked** against the ceilings on the number of calls, on their depth
    and on how often one function occurs among them.  Then the function is applied. -/
theorem run_call (hcancelled : s.cancelAfter = none) {name : String} {f : Function}
    (hget : s.functions.get? (lowerName name) = some f) (args : List LazyArgument)
    (stack : FrameStack) :
    (settings.call evalText name args stack).run.run s
      = if settings.limits.invocations < s.invocations + 1 then
          (.error (.limit .invocations), { s with invocations := s.invocations + 1 })
        else if settings.limits.depth < stack.top.depth + 1 then
          (.error (.limit .depth), { s with invocations := s.invocations + 1 })
        else if settings.limits.recursion
            < stack.top.recursionOf (lowerName name) + 1 then
          (.error (.limit .recursion), { s with invocations := s.invocations + 1 })
        else (settings.apply evalText (lowerName name) f
            (stack.push (stack.top.enter (lowerName name))) (LazyArgument.given args)).run.run
          { s with invocations := s.invocations + 1 } := by
  have hrecursion : (stack.top.enter (lowerName name)).recursionOf (lowerName name)
      = stack.top.recursionOf (lowerName name) + 1 := by
    rw [Frame.recursionOf_enter, if_pos rfl]
  have hdepth : (stack.top.enter (lowerName name)).depth = stack.top.depth + 1 := rfl
  unfold call
  rw [EarlyM.run_bind, EvalM.run_checkCancelled hcancelled]
  dsimp only
  rw [run_get_bind, hget]
  dsimp only
  rw [EvalM.countInvocation, EvalM.run_count_bind, EarlyM.run_bind, EvalM.run_enter, hdepth,
    hrecursion]
  congr 1
  -- Both sides ask the same questions in this order, but on one of them the state comes along.
  by_cases hdeep : settings.limits.depth < stack.top.depth + 1
  · rw [if_pos hdeep, if_pos hdeep]
  rw [if_neg hdeep, if_neg hdeep]
  by_cases hoften : settings.limits.recursion < stack.top.recursionOf (lowerName name) + 1
  · rw [if_pos hoften, if_pos hoften]
  · rw [if_neg hoften, if_neg hoften]

/-- A function that accepts as many arguments and asks for no privilege does what it does. -/
theorem apply_eq_invoke {f : Function} {args : List LazyArgument} (haccepts : f.accepts args.length)
    (hrequires : f.requires = none) (name : String) (stack : FrameStack) :
    settings.apply evalText name f stack args = settings.invoke evalText name f stack args := by
  have harity : f.arityError? args.length = none := if_pos haccepts
  unfold apply
  rw [harity, hrequires]
  rfl

/-- The value of one argument comes before what the function does with it. -/
theorem invoke_one {f : Function} (hnoParse : f.noParse = false) (name : String)
    (stack : FrameStack) (arg : LazyArgument) :
    settings.invoke evalText name f stack [arg]
      = arg.eval stack >>= fun value =>
        settings.perform evalText name f.body stack [arg] [value] := by
  unfold invoke
  rw [hnoParse]
  simp

/-- An argument with something in it is given. -/
theorem given_lazyArguments_one (source : Styled) {nodes : List Node}
    (hnodes : nodes.isEmpty = false) (span : Span) :
    LazyArgument.given (lazyArguments settings evalText source [⟨nodes, span⟩])
      = [lazyArgument settings evalText source ⟨nodes, span⟩] := by
  rw [lazyArguments, lazyArguments, lazyArgument, LazyArgument.given]
  exact if_neg (by simp [hnodes])

end Settings

namespace Engine

variable {e : Engine} {source : Styled} {frame : Frame} {registers : Table String Styled}
  {cancelAfter : Option Nat}

/-- What ends the evaluation of a whole expression ends the run. -/
theorem run_expression_of_error {levels : Nat} (arg : Argument) {abort : Abort} {t : EvalState}
    (h : (e.settings.evalArgument levels source arg ⟨frame, {}⟩).run.run
      (e.start registers cancelAfter) = (.error abort, t)) :
    e.run levels source (.expression arg) frame registers cancelAfter = (.error abort, t) := by
  unfold run evalTree evalAll
  dsimp only
  rw [List.mapM_cons, EarlyM.run_bind, EarlyM.run_bind, h]

/-- A run that passes a ceiling gives one value, which says so. -/
theorem evaluate_of_limit {rule : Rule} {kind : LimitKind} {s : EvalState}
    (herrors : (parse rule source.chars).errors = [])
    (hrun : e.run e.settings.limits.levels source (parse rule source.chars).tree frame registers
      cancelAfter = (.error (.limit kind), s)) :
    (e.evaluate source rule frame registers cancelAfter).1 = .ok (.limitExceeded kind) := by
  unfold evaluate evaluateWithin
  dsimp only
  rw [herrors, hrun]
  dsimp only
  rw [finish, Option.getD_some, tell_fst]

end Engine

end Softcode
