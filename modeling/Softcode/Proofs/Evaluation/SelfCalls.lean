import Mathlib.Data.Set.Defs
import Softcode.Proofs.Attribute.PathText
import Softcode.Proofs.Evaluation.Quoting
import Softcode.Proofs.Evaluation.Steps
import Softcode.Proofs.Text.Runs
import Softcode.Proofs.Tree.Calls
import Softcode.Proofs.World.Inheritance

namespace Softcode

/-!
# Softcode that always calls itself

An object may have attributes whose texts all begin with a call of one of them.  No evaluation of
such a text comes to an end of its own, so one of the ceilings ends it.  Which one it is, and after
how many calls, depends on all four of them; it is never after more calls than one function may
occur in a chain.

* `ownCall?` — the attribute of the object that runs a text which the text calls first;
* `World.CallsItself` — the texts of certain attributes all begin with calls of such attributes;
* `Settings.run_evalNode_ownCall` — one such call, from the checks to the text that it evaluates;
* `Settings.endsAfterOwnCalls` — hence how the evaluation ends, and after how many calls;
* `Engine.evaluate_selfCall` — for the text `u(me/…)`.
-/

/-! ### Texts of paths -/

/-- What can be read as a path means nothing else in an argument of a call. -/
private theorem AttributePath.plainInArgument_of_read {cs : List Char} {p : AttributePath}
    (h : read cs = .ok p) : PlainInArgument cs := by
  intro c hc hspecial
  -- None of these characters is legal in a name, is cut off at its ends or comes from a capital.
  have hspecials : ['(', ')', '[', ']', '\x7b', '\x7d', ',', '\\', '%'].all fun c =>
      c != separator && !Text.isBlank c && c.toUpper == c && !isSegmentChar c := by decide +kernel
  have hc' := List.all_eq_true.mp hspecials c hspecial
  simp only [Bool.and_eq_true, bne_iff_ne, Bool.not_eq_true', beq_iff_eq] at hc'
  obtain ⟨⟨⟨hseparator, hblank⟩, hupper⟩, hsegmentChar⟩ := hc'
  obtain ⟨hsegments, hsegment⟩ := read_eq_ok.mp h
  obtain ⟨piece, hpiece, hc⟩ := Text.exists_mem_splitOn hseparator hc
  have hmem : c ∈ Text.upper (Text.trim piece) := by
    rw [← hupper]
    exact List.mem_map_of_mem (Text.mem_trim hc hblank)
  have hlegal := (isSegment_iff.mp (hsegment _ (hsegments ▸ List.mem_map_of_mem hpiece))).2 c hmem
  rw [hsegmentChar] at hlegal
  cases hlegal

/-! ### Texts that begin with a call -/

/-- The attribute whose softcode a node calls, if it is one of the object that runs the node. -/
def Node.ownCall? (source : List Char) : Node → Option AttributePath
  | .call name _ [⟨[.text inner], _⟩] _ =>
    if lowerName name = "u" then
      match inner.of source with
      | 'm' :: 'e' :: '/' :: attr => (AttributePath.read attr).toOption
      | _ => none
    else none
  | _ => none

/-- What a node looks like that calls an attribute of the object that runs it. -/
private theorem Node.ownCall?_eq_some {source : List Char} {node : Node} {path : AttributePath}
    (h : node.ownCall? source = some path) :
    ∃ name head inner arg whole attr, node = .call name head [⟨[.text inner], arg⟩] whole ∧
      lowerName name = "u" ∧ inner.of source = "me/".toList ++ attr ∧
      AttributePath.read attr = .ok path := by
  revert h
  -- All other nodes are no such calls.
  fun_cases node.ownCall? source with
  | case1 name head inner arg whole hname attr hattr =>
    intro h
    cases hread : AttributePath.read attr with
    | error e =>
      rw [hread] at h
      cases h
    | ok path' =>
      rw [hread] at h
      cases h
      exact ⟨name, head, inner, arg, whole, attr, rfl, hname, hattr, hread⟩
  | case2 | case3 | case4 => exact nofun

/-- The attribute that a text without syntax errors calls in this way before it does anything
    else. -/
def ownCall? (text : List Char) : Option AttributePath :=
  match (parse .function text).errors, (parse .function text).tree with
  | [], .expression ⟨node :: _, _⟩ => node.ownCall? text
  | _, _ => none

/-- What a text is read as that begins with such a call. -/
private theorem ownCall?_eq_some {text : List Char} {path : AttributePath}
    (h : ownCall? text = some path) :
    (parse .function text).errors = [] ∧ ∃ node nodes span,
      (parse .function text).tree = .expression ⟨node :: nodes, span⟩ ∧
      node.ownCall? text = some path := by
  unfold ownCall? at h
  split at h
  · rename_i node nodes span herrors htree
    exact ⟨herrors, node, nodes, span, htree, h⟩
  · cases h

/-- Are the attributes set on the object, and does the text of each of them begin with a call of one
    of them? -/
structure World.CallsItself (w : World) (o : Dbref) (A : Set AttributePath) : Prop where
  carries : ∀ path ∈ A, w.Carries path .own o
  ownCall? : ∀ path ∈ A, ∀ a, (w.tree o).find? path.name = some a →
    ∃ next ∈ A, ownCall? a.value.chars = some next

/-- The text that calls an attribute. -/
private theorem ownCall?_callText {attr : List Char} {path : AttributePath}
    (hpath : AttributePath.read attr = .ok path) :
    ownCall? (callText "u".toList ("me/".toList ++ attr)) = some path := by
  have hname : IsCallName ['u'] := .of_all (by simp) (by decide +kernel)
  -- A text that can be read as a path has nothing in it that ends an argument.
  have hplain : PlainInArgument ('m' :: 'e' :: '/' :: attr) := by
    have hattr := AttributePath.plainInArgument_of_read hpath
    simp only [PlainInArgument, List.forall_mem_cons]
    exact ⟨by decide, by decide, by decide, hattr⟩
  obtain ⟨herrors, htree⟩ := parse_call_of_reads hname (Scope.reads_text hplain (by decide) 2)
  have hinner : Span.of ⟨2, 2 + ('m' :: 'e' :: '/' :: attr).length⟩
      (callText ['u'] ('m' :: 'e' :: '/' :: attr)) = 'm' :: 'e' :: '/' :: attr :=
    Span.of_drop (show _ = ('m' :: 'e' :: '/' :: attr) ++ [')'] from rfl)
  show ownCall? (callText ['u'] ('m' :: 'e' :: '/' :: attr)) = some path
  unfold ownCall?
  rw [herrors, htree]
  show (callNode _ _ _ _).ownCall? _ = _
  rw [callNode, Node.ownCall?, if_pos (by decide), hinner]
  show (AttributePath.read attr).toOption = some path
  rw [hpath]
  rfl

/-! ### One call -/

variable {A : Set AttributePath}

/-- An object that carries an attribute itself finds it there. -/
private theorem World.Carries.exists_resolve {w : World} {path : AttributePath} {o : Dbref}
    (h : w.Carries path .own o) (hpath : 0 < path.length) (hops : Nat) :
    ∃ found, (w.resolve hops o path true).found? = some found ∧
      ∃ a, (w.tree o).find? path.name = some a ∧ found.value = a.value := by
  obtain ⟨hlength, hany⟩ := (carries_iff hpath).mp h
  have hlast := AttributeTree.getLast?_chain hpath hlength
  have hfound : w.foundOn? path .own o = some ⟨.own, o, (w.tree o).chain path⟩ :=
    if_pos ⟨hlength, hany⟩
  -- An object looks at its own attributes first.
  have hfirst : ∃ rest, w.lineage hops o true = (.own, o) :: rest := by
    unfold lineage
    split <;> exact ⟨_, rfl⟩
  obtain ⟨rest, hlineage⟩ := hfirst
  have hresolve : w.resolve hops o path true = .found ⟨.own, o, (w.tree o).chain path⟩ := by
    rw [resolve_eq_found_iff, hlineage, List.findSome?_cons, hfound]
  refine ⟨⟨.own, o, (w.tree o).chain path⟩, ?_, ?_⟩
  · rw [hresolve]
    rfl
  · cases hfind : (w.tree o).find? path.name with
    | none =>
      rw [hlast, hfind] at hany
      cases hany
    | some a =>
      refine ⟨a, rfl, ?_⟩
      rw [FoundAttribute.value, hlast, hfind]
      rfl

/-- `me` is the object that runs the softcode. -/
private theorem Call.callNamed_me {c : Call} {attr : List Char} {path : AttributePath}
    (hvalue : (c.value 0).chars = "me/".toList ++ attr) (hpath : AttributePath.read attr = .ok path)
    (isolated : Bool) :
    c.callNamed isolated
      = c.settings.callAttribute c.evalText c.frame.executor path
        (c.values.drop 1) c.stack isolated := by
  have hsplit : splitObject (c.value 0).chars = (some "me".toList, attr) := by
    rw [hvalue]
    rfl
  have hme : c.locate? "me".toList = pure (some c.frame.executor) := rfl
  unfold callNamed
  rw [hsplit]
  dsimp only
  rw [Option.elim_some, hme, pure_bind]
  dsimp only
  rw [hpath]

/-- An object may call the softcode that it has itself. -/
private theorem run_callAttribute_own (settings : Settings)
    (evalText : Styled → FrameStack → EvalM Styled) {o : Dbref} {path : AttributePath}
    (stack : FrameStack) (s : EvalState) (hcarries : s.world.Carries path .own o)
    (hpath : 0 < path.length) (hexecutor : stack.top.executor = o)
    (hcancelled : s.cancelAfter = none) (args : List Styled) :
    ∃ a, (s.world.tree o).find? path.name = some a ∧
      (settings.callAttribute evalText o path args stack false).run.run s
        = (evalText a.value (stack.push { stack.top.runAs o with
            arguments := args, attr := some (o, path.name) })).run.run s := by
  obtain ⟨found, hfound, a, hfind, hvalue⟩ := hcarries.exists_resolve hpath settings.parentHops
  have hresolve : (settings.resolve? o path).run.run s = (.ok (some found), s) := by
    unfold Settings.resolve?
    rw [EarlyM.run_bind, EvalM.run_ask hcancelled]
    show (Except.ok (s.world.resolve settings.parentHops o path true).found?, s) = _
    rw [hfound]
  -- Whoever runs the softcode may read its own attributes.
  have hread : (EvalM.mayRead stack.top.executor o found).run.run s = (.ok true, s) := by
    unfold EvalM.mayRead
    split
    · rfl
    · have hmay : s.world.canExamine stack.top.executor o = true := by
        simp [World.canExamine, World.controls, hexecutor]
      rw [EarlyM.run_bind, EvalM.run_ask hcancelled, ← hmay]
      rfl
  refine ⟨a, hfind, ?_⟩
  unfold Settings.callAttribute
  rw [EarlyM.run_bind, hresolve, ← hvalue]
  dsimp only
  rw [EarlyM.run_bind, hread]
  rfl

namespace Settings

variable {settings : Settings} {source : Styled} {o : Dbref} (stack : FrameStack) (s : EvalState)

/-- **One such call.**  It is counted and checked, its argument is evaluated, and what is left is to
    evaluate a text that begins with another such call, one call deeper. -/
theorem run_evalNode_ownCall (evalText : Styled → FrameStack → EvalM Styled) {node : Node}
    {path : AttributePath} (hu : s.functions.get? "u" = standardFunctions.get? "u")
    (hworld : s.world.CallsItself o A) (hmem : path ∈ A)
    (hnode : node.ownCall? source.chars = some path) (hexecutor : stack.top.executor = o)
    (hcancelled : s.cancelAfter = none) :
    ∃ text frame, (∃ next ∈ A, ownCall? text.chars = some next) ∧ frame.executor = o ∧
      frame.depth = stack.top.depth + 1 ∧
      frame.recursionOf "u" = stack.top.recursionOf "u" + 1 ∧
      (settings.evalNode evalText source node stack).run.run s
        = if settings.limits.invocations < s.invocations + 1 then
            (.error (.limit .invocations), { s with invocations := s.invocations + 1 })
          else if settings.limits.depth < stack.top.depth + 1 then
            (.error (.limit .depth), { s with invocations := s.invocations + 1 })
          else if settings.limits.recursion < stack.top.recursionOf "u" + 1 then
            (.error (.limit .recursion), { s with invocations := s.invocations + 1 })
          else if settings.limits.nodes < s.nodes + 1 then
            (.error (.limit .nodes),
              { s with invocations := s.invocations + 1, nodes := s.nodes + 1 })
          else (evalText text ((stack.push (stack.top.enter "u")).push frame)).run.run
            { s with invocations := s.invocations + 1, nodes := s.nodes + 1 } := by
  obtain ⟨name, head, inner, arg, whole, attr, rfl, hname, hattr, hpath⟩ :=
    Node.ownCall?_eq_some hnode
  have hfunction : s.functions.get? (lowerName name)
      = some (.engine "u" 1 (some 11) .u) := by
    rw [hname, hu]
    rfl
  have hne : 0 < path.length := List.length_pos_iff.mpr (AttributePath.segments_of_read hpath).1
  have hvalue : (source.slice inner.start inner.stop).chars = "me/".toList ++ attr :=
    (Styled.chars_slice ..).trans hattr
  obtain ⟨a, hfind, hcall⟩ := run_callAttribute_own settings evalText
    (stack.push (stack.top.enter "u"))
    { s with invocations := s.invocations + 1, nodes := s.nodes + 1 }
    (hworld.carries path hmem) hne hexecutor hcancelled []
  refine ⟨a.value,
    { (stack.top.enter "u").runAs o with attr := some (o, path.name), arguments := [] },
    hworld.ownCall? path hmem a hfind, rfl, rfl, ?_, ?_⟩
  · show (stack.top.enter "u").recursionOf "u" = _
    rw [Frame.recursionOf_enter, if_pos rfl]
  -- Behind the checks, the argument is one more node.
  have happly : (settings.apply evalText "u" (.engine "u" 1 (some 11) .u)
        (stack.push (stack.top.enter "u"))
        (LazyArgument.given (lazyArguments settings evalText source
          [⟨[.text inner], arg⟩]))).run.run
          { s with invocations := s.invocations + 1 }
      = if settings.limits.nodes < s.nodes + 1 then
          (.error (.limit .nodes),
            { s with invocations := s.invocations + 1, nodes := s.nodes + 1 })
        else (settings.callAttribute evalText o path [] (stack.push (stack.top.enter "u"))
            false).run.run { s with invocations := s.invocations + 1, nodes := s.nodes + 1 } := by
    rw [given_lazyArguments_one source rfl, apply_eq_invoke rfl rfl, invoke_one rfl, lazyArgument,
      EarlyM.run_bind, run_evalNodes_cons]
    by_cases hnodes : settings.limits.nodes < s.nodes + 1
    · rw [if_pos hnodes, if_pos hnodes]
    · rw [if_neg hnodes, if_neg hnodes, evalNode]
      have hme := Call.callNamed_me (c := ⟨"u", settings, stack.push (stack.top.enter "u"),
        [lazyArgument settings evalText source ⟨[.text inner], arg⟩],
        [({} : Styled) ++ source.slice inner.start inner.stop], evalText⟩) hvalue hpath false
      rw [← hexecutor]
      exact congrArg (fun x : EvalM Styled => x.run.run
        { s with invocations := s.invocations + 1, nodes := s.nodes + 1 }) hme
  rw [evalNode, run_call hcancelled hfunction, hname, happly, hcall]
  rfl

/-- How many calls of one chain the ceilings leave room for.  Each of them counts for two nodes, of
    which the second one comes after the checks. -/
def ownCalls (limits : Limits) (s : EvalState) (frame : Frame) : Nat :=
  min (min ((limits.nodes - s.nodes + 1) / 2) (limits.invocations - s.invocations))
    (min (limits.depth - frame.depth) (limits.recursion - frame.recursionOf "u"))

/-- Each ceiling leaves room for one call less after one call. -/
private theorem ownCalls_eq_add_one {limits : Limits} {frame : Frame} (frame' : Frame)
    (hnodes : s.nodes + 1 + 1 ≤ limits.nodes) (hcalls : s.invocations + 1 ≤ limits.invocations)
    (hdepth : frame'.depth = frame.depth + 1) (hdeep : frame'.depth ≤ limits.depth)
    (hrecursion : frame'.recursionOf "u" = frame.recursionOf "u" + 1)
    (hoften : frame'.recursionOf "u" ≤ limits.recursion) :
    ownCalls limits s frame
      = ownCalls limits { s with invocations := s.invocations + 1, nodes := s.nodes + 1 + 1 } frame'
        + 1 := by
  have hnodes' : (limits.nodes - s.nodes + 1) / 2
      = (limits.nodes - (s.nodes + 1 + 1) + 1) / 2 + 1 := by omega
  have hcalls' : limits.invocations - s.invocations
      = limits.invocations - (s.invocations + 1) + 1 := by omega
  have hdeep' : limits.depth - frame.depth = limits.depth - frame'.depth + 1 := by omega
  have hoften' : limits.recursion - frame.recursionOf "u"
      = limits.recursion - frame'.recursionOf "u" + 1 := by omega
  unfold ownCalls
  rw [hnodes', hcalls', hdeep', hoften', Nat.add_min_add_right, Nat.add_min_add_right,
    Nat.add_min_add_right]

/-- Does the computation pass a ceiling, after all calls that there is room for?  Each of them is
    counted, and so is one more if it is a call that passes the ceiling. -/
def EndsAfterOwnCalls (limits : Limits) (frame : Frame) (s : EvalState) (x : EvalM Styled) : Prop :=
  ∃ kind t, x.run.run s = (.error (.limit kind), t) ∧
    t.invocations = s.invocations + ownCalls limits s frame + if kind = .nodes then 0 else 1

/-- The nodes behind the call are not reached, if the text that is called next never comes to an
    end. -/
private theorem endsAfterOwnCalls_of_next {evalText : Styled → FrameStack → EvalM Styled}
    (hu : s.functions.get? "u" = standardFunctions.get? "u")
    (hworld : s.world.CallsItself o A) {node : Node} {path : AttributePath} (hmem : path ∈ A)
    (hnode : node.ownCall? source.chars = some path)
    (hexecutor : stack.top.executor = o) (hcancelled : s.cancelAfter = none)
    (hnext : ∀ text frame, (∃ next ∈ A, ownCall? text.chars = some next) → frame.executor = o →
      frame.depth = stack.top.depth + 1 → frame.depth ≤ settings.limits.depth →
      EndsAfterOwnCalls settings.limits frame
        { s with invocations := s.invocations + 1, nodes := s.nodes + 1 + 1 }
        (evalText text ((stack.push (stack.top.enter "u")).push frame)))
    (nodes : List Node) (done : Styled) :
    EndsAfterOwnCalls settings.limits stack.top s
      (settings.evalNodes evalText source (node :: nodes) done stack) := by
  obtain ⟨text, frame, htext, hframe, hdepth, hrecursion, hrun⟩ :=
    run_evalNode_ownCall stack { s with nodes := s.nodes + 1 } evalText hu hworld hmem hnode
      hexecutor
      hcancelled
  -- The five checks in the order in which they are made.  Each says which term of the minimum is
  -- zero.
  unfold EndsAfterOwnCalls ownCalls
  rw [run_evalNodes_cons, hrun]
  by_cases hnodes : settings.limits.nodes < s.nodes + 1
  · rw [if_pos hnodes]
    exact ⟨_, _, rfl, by dsimp only; rw [if_pos rfl]; omega⟩
  rw [if_neg hnodes]
  by_cases hcalls : settings.limits.invocations < s.invocations + 1
  · rw [if_pos hcalls]
    exact ⟨_, _, rfl, by dsimp only; rw [if_neg (by simp)]; omega⟩
  rw [if_neg hcalls]
  by_cases hdeep : settings.limits.depth < stack.top.depth + 1
  · rw [if_pos hdeep]
    exact ⟨_, _, rfl, by dsimp only; rw [if_neg (by simp)]; omega⟩
  rw [if_neg hdeep]
  by_cases hoften : settings.limits.recursion < stack.top.recursionOf "u" + 1
  · rw [if_pos hoften]
    exact ⟨_, _, rfl, by dsimp only; rw [if_neg (by simp)]; omega⟩
  rw [if_neg hoften]
  by_cases hargument : settings.limits.nodes < s.nodes + 1 + 1
  · rw [if_pos hargument]
    exact ⟨_, _, rfl, by dsimp only; rw [if_pos rfl]; omega⟩
  rw [if_neg hargument]
  obtain ⟨kind, t, hlimit, hcount⟩ := hnext text frame htext hframe hdepth (by omega)
  rw [hlimit]
  refine ⟨kind, t, rfl, ?_⟩
  rw [hcount, ← ownCalls, ownCalls_eq_add_one s frame (by omega) (by omega) hdepth (by omega)
    hrecursion (by omega)]
  dsimp only
  omega

/-- **How an evaluation ends that begins with such a call,** whatever comes after the call. -/
theorem endsAfterOwnCalls (settings : Settings) (stack : FrameStack) (s : EvalState) (levels : Nat)
    (hu : s.functions.get? "u" = standardFunctions.get? "u")
    (hworld : s.world.CallsItself o A) {node : Node} {path : AttributePath} (hmem : path ∈ A)
    (hnode : node.ownCall? source.chars = some path) (hexecutor : stack.top.executor = o)
    (hcancelled : s.cancelAfter = none)
    (hlevels : settings.limits.depth ≤ levels + stack.top.depth)
    (nodes : List Node) (done : Styled) :
    EndsAfterOwnCalls settings.limits stack.top s
      (settings.evalNodes (settings.evalText levels) source (node :: nodes) done stack) := by
  -- The levels go down by one where the depth goes up by one, so a call passes a ceiling first.
  induction levels generalizing source node path nodes done stack s with
  | zero =>
    refine endsAfterOwnCalls_of_next stack s hu hworld hmem hnode hexecutor hcancelled ?_ nodes done
    -- No call gets past the checks here.
    intro text frame _ _ hdepth hle
    omega
  | succ levels ih =>
    refine endsAfterOwnCalls_of_next stack s hu hworld hmem hnode hexecutor hcancelled ?_ nodes done
    rintro text frame ⟨next, hnext, hcall⟩ hframe hdepth _
    obtain ⟨herrors, node', nodes', span, htree, hnode'⟩ := ownCall?_eq_some hcall
    rw [evalText, herrors, htree]
    exact ih ((stack.push (stack.top.enter "u")).push frame)
      { s with invocations := s.invocations + 1, nodes := s.nodes + 1 + 1 }
      hu hworld hnext hnode' hframe hcancelled
      (show settings.limits.depth ≤ levels + frame.depth by omega) nodes' {}

end Settings

/-! ### Whole texts -/

namespace Engine

variable {e : Engine} {source : Styled} {frame : Frame}

/-- How many calls get past the checks while a text is evaluated.  Each call is counted before it is
    checked, and one that does not get past ends the evaluation. -/
def callsPassed (e : Engine) (source : Styled) (frame : Frame)
    (registers : Table String Styled) : Nat :=
  match e.run e.settings.limits.levels source (parse .function source.chars).tree frame registers
    none with
  | (.error (.limit .nodes), s) => s.invocations
  | (.error (.limit _), s) => s.invocations - 1
  | (_, s) => s.invocations

/-- **Softcode that always calls itself passes a ceiling.**  Let some attributes be set on an object
    whose texts have no syntax errors and all begin with a call of one of them.  When the object
    calls one of them, the evaluation passes a ceiling, so its only value says so.  As many calls
    get past the checks as there is room for under each of the ceilings, and so no more than one
    function may occur in a chain. -/
theorem evaluate_selfCall (hu : e.functions.get? "u" = standardFunctions.get? "u") {o : Dbref}
    (hworld : e.world.CallsItself o A) {attr : List Char} {path : AttributePath}
    (hpath : AttributePath.read attr = .ok path) (hmem : path ∈ A)
    (hsource : source.chars = callText "u".toList ("me/".toList ++ attr))
    (hexecutor : frame.executor = o) (registers : Table String Styled) :
    (∃ evaluation kind, (e.evaluate source .function frame registers).1 = .ok evaluation ∧
      evaluation.outcome = .limitExceeded kind ∧
      evaluation.values = [{ value := .ofString kind.message }]) ∧
    e.callsPassed source frame registers
      = min (min ((e.settings.limits.nodes + 1) / 2) e.settings.limits.invocations)
          (min (e.settings.limits.depth - frame.depth)
            (e.settings.limits.recursion - frame.recursionOf "u")) ∧
    e.callsPassed source frame registers ≤ e.settings.limits.recursion := by
  have hcall := ownCall?_callText hpath
  rw [← hsource] at hcall
  obtain ⟨herrors, node, nodes, span, htree, hnode⟩ := ownCall?_eq_some hcall
  obtain ⟨kind, t, hlimit, hcount⟩ := Settings.endsAfterOwnCalls e.settings
    ⟨frame, {}⟩ (e.start registers none) e.settings.limits.levels hu hworld hmem hnode hexecutor rfl
    (by unfold Limits.levels; dsimp only; omega) nodes {}
  have hrun := run_expression_of_error ⟨node :: nodes, span⟩ hlimit
  rw [← htree] at hrun
  -- The call that passes a ceiling is counted, unless the nodes were too many before it.
  have hpassed : e.callsPassed source frame registers
      = t.invocations - if kind = .nodes then 0 else 1 := by
    unfold callsPassed
    rw [hrun]
    cases kind <;> rfl
  have hroom : e.callsPassed source frame registers
      = Settings.ownCalls e.settings.limits (e.start registers none) frame := by
    rw [hpassed, hcount, Nat.add_sub_cancel]
    exact Nat.zero_add _
  refine ⟨⟨_, kind, evaluate_of_limit herrors hrun, rfl, rfl⟩, hroom, ?_⟩
  rw [hroom, Settings.ownCalls]
  omega

/-- Two attributes call each other, and each would go on with something else.  The fourth call is
    one too many in a chain, under ceilings that leave room for more calls and just enough nodes. -/
theorem pingPong_evaluate_selfCall :
    let ping : AttributePath := ⟨["PING".toList]⟩
    let pong : AttributePath := ⟨["PONG".toList]⟩
    let world :=
      (World.start.putAttribute 1 ping (.ofString "u(me/pong) says [setq(0,x)]") 1).putAttribute
      1 pong (.ofString "U(me/ ping )%r") 1
    let limits : Limits := { depth := 5, recursion := 3, invocations := 9, nodes := 7 }
    let e : Engine := { world, settings := { limits } }
    let frame : Frame := { executor := 1, enactor := 1, caller := 1 }
    let text : Styled := .ofString "u(me/ping)"
    (∃ evaluation kind, (e.evaluate text .function frame).1 = .ok evaluation ∧
      evaluation.outcome = .limitExceeded kind ∧
      evaluation.values = [{ value := .ofString kind.message }]) ∧
    e.callsPassed text frame {} = 3 := by
  intro ping pong world limits e frame text
  have hcarries : ∀ path ∈ ({ping, pong} : Set AttributePath), world.Carries path .own 1 := by
    rintro path (rfl | rfl)
    all_goals
      refine ⟨fun n hpos hle => ?_, .inl rfl⟩
      obtain rfl : n = 1 := Nat.le_antisymm hle hpos
      decide +kernel
  have hcalls : ∀ path ∈ ({ping, pong} : Set AttributePath), ∀ a,
      (world.tree 1).find? path.name = some a →
      ∃ next ∈ ({ping, pong} : Set AttributePath), ownCall? a.value.chars = some next := by
    -- Both texts are read here, and no more of the world than that.
    rintro path (rfl | rfl) a ha
    · refine ⟨pong, by simp, ?_⟩
      have hfirst : ((world.tree 1).find? ping.name).bind (fun a => ownCall? a.value.chars)
          = some pong := by decide +kernel
      rwa [ha] at hfirst
    · refine ⟨ping, by simp, ?_⟩
      have hfirst : ((world.tree 1).find? pong.name).bind (fun a => ownCall? a.value.chars)
          = some ping := by decide +kernel
      rwa [ha] at hfirst
  obtain ⟨hlimit, hpassed, -⟩ :=
    @evaluate_selfCall {ping, pong} e text frame rfl 1 ⟨hcarries, hcalls⟩
    "ping".toList ping rfl (by simp) (show text.chars = _ from rfl) rfl {}
  exact ⟨hlimit, hpassed.trans (by decide)⟩

end Engine

end Softcode
