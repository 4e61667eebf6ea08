import Softcode.Proofs.Evaluation.Quoting
import Softcode.Proofs.Evaluation.Steps
import Softcode.Proofs.Tree.Calls

namespace Softcode

/-!
# The ceiling on the depth of calls is exact

Calls that nest as deep as the ceiling says are evaluated, and with one call more they are not.  The
calls here are of functions of one value around `1`, in any order and number.

* `reads_nestedText` — calls inside calls are read as such;
* `Settings.run_nestedNodes` — how their evaluation ends, by the number of calls that are still to
  come;
* `Engine.evaluate_nested` — hence for a whole text.
-/

/-! ### Calls inside calls -/

/-- The text of calls inside calls, with `1` inside of them all. -/
def nestedText : List String → List Char
  | [] => ['1']
  | f :: fs => callText f.toList (nestedText fs)

/-- The nodes of such a text that stands at the offset `n`. -/
def nestedNodes (n : Nat) : List String → List Node
  | [] => [.text ⟨n, n + 1⟩]
  | f :: fs =>
    [callNode f.toList n (nestedText fs).length (nestedNodes (n + f.toList.length + 1) fs)]

/-- **Calls inside calls are read as such.** -/
theorem reads_nestedText {fs : List String} (hfs : ∀ f ∈ fs, IsCallName f.toList) (n : Nat) :
    Scope.callArgument.Reads n (nestedText fs) (nestedNodes n fs) := by
  induction fs generalizing n with
  | nil =>
    have hplain : PlainInArgument ['1'] := by simp [PlainInArgument]
    exact Scope.reads_text hplain (by decide) n
  | cons f fs ih =>
    obtain ⟨hf, hfs⟩ := List.forall_mem_cons.mp hfs
    exact (ih hfs _).call hf ⟨rfl, by decide⟩

private theorem isEmpty_nestedNodes (n : Nat) (fs : List String) :
    (nestedNodes n fs).isEmpty = false := by
  cases fs <;> rfl

/-! ### Functions of one value -/

/-- Is this a function of one value, which anybody may call? -/
structure Function.IsUnary (f : Function) : Prop where
  accepts : f.accepts 1 = true
  requires : f.requires = none
  noParse : f.noParse = false
  native : ∃ g, f.body = .native g

/-- Names of standard functions of one value. -/
def unaryNames : List String := ["abs", "ucstr", "lcstr", "strlen", "not", "t"]

/-- The names are those of functions of one value. -/
private theorem isUnary_standard : ∀ name ∈ unaryNames,
    ∃ f, standardFunctions.get? name = some f ∧ f.IsUnary := by
  simp only [unaryNames, List.forall_mem_cons]
  exact ⟨⟨_, rfl, rfl, rfl, rfl, _, rfl⟩, ⟨_, rfl, rfl, rfl, rfl, _, rfl⟩,
    ⟨_, rfl, rfl, rfl, rfl, _, rfl⟩, ⟨_, rfl, rfl, rfl, rfl, _, rfl⟩,
    ⟨_, rfl, rfl, rfl, rfl, _, rfl⟩, ⟨_, rfl, rfl, rfl, rfl, _, rfl⟩, by simp⟩

/-- The functions are registered under the names that they are called by. -/
private theorem lowerName_unaryNames : ∀ name ∈ unaryNames, lowerName name = name := by decide

/-- Calls of them are read as calls. -/
private theorem isCallName_unaryNames : ∀ name ∈ unaryNames, IsCallName name.toList := by
  have hchars : unaryNames.all fun name =>
      name.toList.all fun c => isNameChar c && !Text.isBlank c := by decide +kernel
  intro name hname
  have hne : name.toList ≠ [] := by
    revert name
    decide
  exact .of_all hne (List.all_eq_true.mp hchars name hname)

namespace Settings

variable (settings : Settings) (evalText : Styled → FrameStack → EvalM Styled) (source : Styled)
  (stack : FrameStack) (s : EvalState)

/-- **One call around others,** if there is room for a node and a call and the function does not
    occur too often.  Either it is too deep, or it is evaluated as what it is around is. -/
theorem run_callNode (name : List Char) {nodes : List Node} {f : Function} (hf : f.IsUnary)
    (hlower : lowerName (String.ofList name) = String.ofList name)
    (hget : s.functions.get? (String.ofList name) = some f) (hnodes : nodes.isEmpty = false)
    (hcancelled : s.cancelAfter = none)
    (hnode : s.nodes + 1 ≤ settings.limits.nodes)
    (hcall : s.invocations + 1 ≤ settings.limits.invocations)
    (hoften : stack.top.recursionOf (String.ofList name) + 1 ≤ settings.limits.recursion)
    (n length : Nat) :
    ∃ g : Styled → Styled,
      (settings.evalNodes evalText source [callNode name n length nodes] {} stack).run.run s
        = if settings.limits.depth < stack.top.depth + 1 then
            (.error (.limit .depth),
              { s with nodes := s.nodes + 1, invocations := s.invocations + 1 })
          else (settings.evalNodes evalText source nodes {}
              (stack.push (stack.top.enter (String.ofList name))) >>= fun value =>
                pure (g value)).run.run
            { s with nodes := s.nodes + 1, invocations := s.invocations + 1 } := by
  obtain ⟨g, hg⟩ := hf.native
  refine ⟨fun value => {} ++ g [value], ?_⟩
  have hget' : s.functions.get? (lowerName (String.ofList name)) = some f := by rwa [hlower]
  -- The node and the call are counted before the depth is looked at.
  rw [run_evalNodes_cons, if_neg (by omega), callNode, evalNode,
    run_call (s := { s with nodes := s.nodes + 1 }) hcancelled hget', if_neg (by dsimp only; omega),
    hlower, given_lazyArguments_one source hnodes, apply_eq_invoke hf.accepts hf.requires,
    invoke_one hf.noParse, hg]
  by_cases hdeep : settings.limits.depth < stack.top.depth + 1
  · rw [if_pos hdeep, if_pos hdeep]
  · rw [if_neg hdeep, if_neg hdeep, if_neg (by omega), lazyArgument, EarlyM.run_bind,
      EarlyM.run_bind]
    rcases (settings.evalNodes evalText source nodes {}
      (stack.push (stack.top.enter (String.ofList name)))).run.run
        { s with nodes := s.nodes + 1, invocations := s.invocations + 1 } with ⟨_ | _, _⟩ <;> rfl

/-- **How calls inside calls end,** if only the depth can end them: it does so exactly if there are
    more of them than the ceiling leaves room for. -/
theorem run_nestedNodes {fs : List String}
    (hfs : ∀ f ∈ fs, lowerName f = f ∧ ∃ g, s.functions.get? f = some g ∧ g.IsUnary)
    (hdepth : stack.top.depth ≤ settings.limits.depth)
    (hrecursion : ∀ f, stack.top.recursionOf f + fs.length ≤ settings.limits.recursion)
    (hcancelled : s.cancelAfter = none)
    (hcalls : s.invocations + fs.length ≤ settings.limits.invocations)
    (hroom : s.nodes + fs.length + 1 ≤ settings.limits.nodes) (n : Nat) :
    (stack.top.depth + fs.length ≤ settings.limits.depth →
      ∃ value t, (settings.evalNodes evalText source (nestedNodes n fs) {} stack).run.run s
        = (.ok value, t)) ∧
    (settings.limits.depth < stack.top.depth + fs.length →
      ∃ t, (settings.evalNodes evalText source (nestedNodes n fs) {} stack).run.run s
        = (.error (.limit .depth), t)) := by
  -- Each call takes a node, a call and one more of the depth, and what is left does for the rest.
  induction fs generalizing n stack s with
  | nil =>
    rw [List.length_nil] at hroom
    refine ⟨fun _ => ?_, fun hdeep => absurd hdeep (by rw [List.length_nil]; omega)⟩
    rw [nestedNodes, run_evalNodes_cons, if_neg (by omega), evalNode]
    exact ⟨_, _, rfl⟩
  | cons f fs ih =>
    obtain ⟨⟨hlower, g, hget, hg⟩, hfs⟩ := List.forall_mem_cons.mp hfs
    rw [List.length_cons] at hrecursion hcalls hroom ⊢
    have hname : String.ofList f.toList = f := String.ofList_toList
    have hoften := hrecursion f
    obtain ⟨h, hrun⟩ := run_callNode settings evalText source stack s f.toList hg
      (by rw [hname, hlower]) (by rw [hname, hget])
      (isEmpty_nestedNodes (n + f.toList.length + 1) fs)
      hcancelled (by omega) (by omega) (by rw [hname]; omega) n (nestedText fs).length
    rw [nestedNodes, hrun]
    by_cases hdeep : settings.limits.depth < stack.top.depth + 1
    · rw [if_pos hdeep]
      exact ⟨fun hle => absurd hle (by omega), fun _ => ⟨_, rfl⟩⟩
    · rw [if_neg hdeep, hname]
      have hinner : (stack.push (stack.top.enter f)).top.depth = stack.top.depth + 1 := rfl
      -- No function occurs more than once more, whichever it is.
      have hrecursion' : ∀ f', (stack.push (stack.top.enter f)).top.recursionOf f' + fs.length
          ≤ settings.limits.recursion := by
        intro f'
        have hmore := hrecursion f'
        have henter : (stack.push (stack.top.enter f)).top.recursionOf f'
            ≤ stack.top.recursionOf f' + 1 := by
          show (stack.top.enter f).recursionOf f' ≤ _
          rw [Frame.recursionOf_enter]
          split <;> omega
        omega
      obtain ⟨hok, herror⟩ := ih (stack.push (stack.top.enter f))
        { s with nodes := s.nodes + 1, invocations := s.invocations + 1 } hfs (by omega)
        hrecursion' hcancelled (by dsimp only; omega) (by dsimp only; omega)
          (n + f.toList.length + 1)
      refine ⟨fun hle => ?_, fun hlt => ?_⟩
      · obtain ⟨value, t, hvalue⟩ := hok (by omega)
        rw [EarlyM.run_bind, hvalue]
        exact ⟨_, _, rfl⟩
      · obtain ⟨t, hlimit⟩ := herror (by omega)
        rw [EarlyM.run_bind, hlimit]
        exact ⟨_, rfl⟩

end Settings

/-! ### Whole texts -/

namespace Engine

variable {e : Engine} {fs : List String} {source : Styled} {frame : Frame}

/-- **The ceiling on the depth of calls is exact.**  Let functions of one value be called inside
    each other, in any order, around `1`.  Let the other ceilings leave room for as many calls and
    for one node more.  Then the evaluation is completed exactly if there are no more calls than the
    depth may be.  Else it ends there, and its only value says so. -/
theorem evaluate_nested (hne : fs ≠ []) (hfs : ∀ f ∈ fs, f ∈ unaryNames)
    (hstandard : ∀ f ∈ unaryNames, e.functions.get? f = standardFunctions.get? f)
    (hsource : source.chars = nestedText fs) (hdepth : frame.depth = 0)
    (hframe : frame.recursion = {}) (registers : Table String Styled)
    (hrecursion : fs.length ≤ e.settings.limits.recursion)
    (hcalls : fs.length ≤ e.settings.limits.invocations)
    (hnodes : fs.length + 1 ≤ e.settings.limits.nodes) :
    ∃ evaluation, (e.evaluate source .function frame registers).1 = .ok evaluation ∧
      (evaluation.outcome = .completed ↔ fs.length ≤ e.settings.limits.depth) ∧
      (e.settings.limits.depth < fs.length → evaluation.outcome = .limitExceeded .depth ∧
        evaluation.values = [{ value := .ofString "#-1 MAXIMUM STACK DEPTH EXCEEDED" }]) := by
  obtain ⟨f, fs, rfl⟩ := List.exists_cons_of_ne_nil hne
  have hunary : ∀ g ∈ f :: fs, lowerName g = g ∧ ∃ h, e.functions.get? g = some h ∧ h.IsUnary := by
    intro g hg
    rw [hstandard g (hfs g hg)]
    exact ⟨lowerName_unaryNames g (hfs g hg), isUnary_standard g (hfs g hg)⟩
  have hnames : ∀ g ∈ f :: fs, IsCallName g.toList := fun g hg => isCallName_unaryNames g (hfs g hg)
  obtain ⟨hf, hrest⟩ := List.forall_mem_cons.mp hnames
  have hread := parse_call_of_reads hf (reads_nestedText hrest (f.toList.length + 1))
  rw [show callText f.toList (nestedText fs) = source.chars from hsource.symm] at hread
  obtain ⟨herrors, htree⟩ := hread
  -- No function has been called before, so none occurs too often.
  have hfresh : ∀ g, frame.recursionOf g + (f :: fs).length ≤ e.settings.limits.recursion := by
    intro g
    have hzero : frame.recursionOf g = 0 := by
      rw [Frame.recursionOf, hframe]
      rfl
    omega
  -- The induction over the calls starts at the outermost one.
  obtain ⟨hfits, hdeep⟩ := Settings.run_nestedNodes e.settings
    (Settings.evalText e.settings e.settings.limits.levels) source
    ⟨frame, {}⟩ (e.start registers none) hunary
    (show frame.depth ≤ e.settings.limits.depth by omega) hfresh rfl
    (show 0 + (f :: fs).length ≤ e.settings.limits.invocations by omega)
    (show 0 + (f :: fs).length + 1 ≤ e.settings.limits.nodes by omega) 0
  dsimp only at hfits hdeep
  rw [hdepth, Nat.zero_add, nestedNodes, Nat.zero_add] at hfits hdeep
  by_cases hle : (f :: fs).length ≤ e.settings.limits.depth
  · obtain ⟨value, t, hvalue⟩ := hfits hle
    have hrun := run_expression (show (Settings.evalArgument _ _ source
      ⟨_, ⟨0, source.chars.length⟩⟩ ⟨frame, {}⟩).run.run _ = _ from hvalue)
    rw [← htree] at hrun
    refine ⟨_, congrArg Prod.fst (evaluate_of_run herrors hrun), ?_, ?_⟩
    · exact iff_of_true rfl hle
    · exact fun hlt => absurd hle (by omega)
  · obtain ⟨t, hlimit⟩ := hdeep (by omega)
    have hrun := run_expression_of_error ⟨_, ⟨0, source.chars.length⟩⟩ hlimit
    rw [← htree] at hrun
    refine ⟨_, evaluate_of_limit herrors hrun, ?_, ?_⟩
    · exact iff_of_false (by simp [Evaluation.limitExceeded]) hle
    · exact fun _ => ⟨rfl, rfl⟩

/-- Seven calls, one function twice among them, with no room for one call or node more: they are
    evaluated if the depth may be seven, and not if it may be six. -/
theorem seven_evaluate_nested :
    let limits (depth : Nat) : Limits := { depth, recursion := 7, invocations := 7, nodes := 8 }
    let e (depth : Nat) : Engine := { settings := { limits := limits depth } }
    let frame : Frame := { executor := 1, enactor := 1, caller := 1 }
    let text : Styled := .ofString "abs(t(not(strlen(ucstr(lcstr(abs(1)))))))"
    (∃ evaluation, ((e 7).evaluate text .function frame).1 = .ok evaluation ∧
      evaluation.outcome = .completed) ∧
    ∃ evaluation, ((e 6).evaluate text .function frame).1 = .ok evaluation ∧
      evaluation.outcome = .limitExceeded .depth ∧
      evaluation.values = [{ value := .ofString "#-1 MAXIMUM STACK DEPTH EXCEEDED" }] := by
  intro limits e frame text
  have hnested (depth : Nat) := @evaluate_nested (e depth)
    ["abs", "t", "not", "strlen", "ucstr", "lcstr", "abs"] text frame (by simp) (by decide)
    (fun _ _ => rfl) rfl rfl rfl {} (show 7 ≤ 7 by decide) (show 7 ≤ 7 by decide)
    (show 8 ≤ 8 by decide)
  constructor
  · obtain ⟨evaluation, hok, hcompleted, -⟩ := hnested 7
    exact ⟨evaluation, hok, hcompleted.mpr (show 7 ≤ 7 by decide)⟩
  · obtain ⟨evaluation, hok, -, hdeep⟩ := hnested 6
    exact ⟨evaluation, hok, hdeep (show 6 < 7 by decide)⟩

end Engine

end Softcode
