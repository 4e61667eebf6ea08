import Softcode.Proofs.Evaluation.Steps
import Softcode.Proofs.Styled.Cutting
import Softcode.Proofs.Tree.Quoting

namespace Softcode

/-!
# Quoted text is evaluated to itself

Backslashes and braces are how softcode takes text from somewhere else without running it.  What the
reader makes of quoted arguments is known (`Quoting.parse_call`), so here the nodes are evaluated.
An evaluation that stays below its ceilings is described by `EvalM.Yields`: which characters it
gives, and how many nodes it counts.

* `EvalM.Yields` — the computation gives certain characters and counts so many nodes;
* `Settings.NodesYield.cons` — nodes one after the other;
* `Quoting.nodesYield_nodesAt` — a quoted text gives the text;
* `Settings.run_call_native` — a call of a function of the values of its arguments;
* `Engine.evaluate_strcat` — hence `strcat` with quoted arguments gives all texts one after the
  other.
-/

/-! ### Parts of a text -/

/-- What stands behind a part of a text. -/
private theorem drop_of_drop {text cs rest : List Char} {n : Nat} (h : text.drop n = cs ++ rest) :
    text.drop (n + cs.length) = rest := by
  rw [← List.drop_drop, h, List.drop_left]

private theorem Styled.chars_append (s t : Styled) : (s ++ t).chars = s.chars ++ t.chars := rfl

/-- Texts that are put behind a first one. -/
private theorem Styled.chars_foldl_append (items : List Styled) (s : Styled) :
    (items.foldl Styled.append s).chars = s.chars ++ (items.map (·.chars)).flatten := by
  induction items generalizing s with
  | nil => simp
  | cons item items ih =>
    rw [List.foldl_cons, ih, List.map_cons, List.flatten_cons, ← List.append_assoc]
    rfl

/-- The characters of several texts one after the other. -/
private theorem Styled.chars_concat (items : List Styled) :
    (Styled.concat items).chars = (items.map (·.chars)).flatten :=
  Styled.chars_foldl_append items .empty

/-! ### Evaluations below the ceilings -/

namespace EvalM

/-- From every state that leaves room for `k` more nodes, the computation gives a text with the
    characters `cs`.  Nothing changes but that these nodes are counted. -/
def Yields (limits : Limits) (k : Nat) (cs : List Char) (x : EvalM Styled) : Prop :=
  ∀ s : EvalState, s.nodes + k ≤ limits.nodes →
    ∃ v, x.run.run s = (.ok v, { s with nodes := s.nodes + k }) ∧ v.chars = cs

variable {limits : Limits} {k : Nat} {cs ds : List Char}

private theorem yields_pure {v : Styled} (h : v.chars = cs) : Yields limits 0 cs (pure v) :=
  fun _ _ => ⟨v, rfl, h⟩

/-- What is done with the text afterwards. -/
theorem Yields.map {x : EvalM Styled} (h : Yields limits k cs x) {f : Styled → Styled}
    (hf : ∀ v, v.chars = cs → (f v).chars = ds) :
    Yields limits k ds (x >>= fun v => pure (f v)) := by
  intro s hs
  obtain ⟨v, hrun, hv⟩ := h s hs
  refine ⟨f v, ?_, hf v hv⟩
  rw [EarlyM.run_bind, hrun]
  rfl

end EvalM

namespace Settings

open EvalM

variable {settings : Settings} {evalText : Styled → FrameStack → EvalM Styled} {source : Styled}
  {k m : Nat} {cs ds : List Char}

/-- The nodes give certain characters, after what has been given before them. -/
def NodesYield (settings : Settings) (evalText : Styled → FrameStack → EvalM Styled)
    (source : Styled) (k : Nat) (cs : List Char) (nodes : List Node) : Prop :=
  ∀ done stack, Yields settings.limits k (done.chars ++ cs)
    (settings.evalNodes evalText source nodes done stack)

private theorem nodesYield_nil (settings : Settings) (evalText : Styled → FrameStack → EvalM Styled)
    (source : Styled) : settings.NodesYield evalText source 0 [] [] :=
  fun done _ => yields_pure (List.append_nil done.chars).symm

/-- **Nodes are evaluated one after the other,** and each counts for one more than what is in it. -/
theorem NodesYield.cons {node : Node} {nodes : List Node}
    (hnode : ∀ stack, Yields settings.limits k cs (settings.evalNode evalText source node stack))
    (hnodes : settings.NodesYield evalText source m ds nodes) :
    settings.NodesYield evalText source (1 + k + m) (cs ++ ds) (node :: nodes) := by
  intro done stack s hs
  obtain ⟨v, hv, hchars⟩ := hnode stack { s with nodes := s.nodes + 1 } (by dsimp only; omega)
  obtain ⟨w, hw, hwchars⟩ := hnodes (done ++ v) stack { s with nodes := s.nodes + 1 + k }
    (by dsimp only; omega)
  refine ⟨w, ?_, ?_⟩
  · have htotal : s.nodes + (1 + k + m) = s.nodes + 1 + k + m := by omega
    rw [run_evalNodes_cons, if_neg (by omega), hv]
    dsimp only
    rw [hw, htotal]
  · rw [hwchars, Styled.chars_append, hchars, List.append_assoc]

theorem NodesYield.single {node : Node}
    (hnode : ∀ stack, Yields settings.limits k cs (settings.evalNode evalText source node stack)) :
    settings.NodesYield evalText source (1 + k) cs [node] := by
  have hcons := NodesYield.cons hnode (nodesYield_nil settings evalText source)
  rwa [List.append_nil] at hcons

/-! ### The nodes of quoted text -/

/-- Plain text gives itself. -/
private theorem nodesYield_textNodes {n : Nat} {rest : List Char}
    (h : source.chars.drop n = cs ++ rest) :
    settings.NodesYield evalText source (if cs = [] then 0 else 1) cs
      (textNodes n (n + cs.length)) := by
  -- An empty text has no node at all, and so it costs nothing.
  cases cs with
  | nil =>
    have hnone : textNodes n (n + ([] : List Char).length) = [] := if_pos rfl
    rw [hnone]
    exact nodesYield_nil settings evalText source
  | cons c cs =>
    have hone : textNodes n (n + (c :: cs).length) = [.text ⟨n, n + (c :: cs).length⟩] :=
      if_neg (by simp)
    have hcount : (if c :: cs = [] then 0 else 1) = 1 + 0 := if_neg (by simp)
    rw [hone, hcount]
    refine NodesYield.single fun stack => ?_
    rw [evalNode]
    exact yields_pure ((Styled.chars_slice ..).trans (Span.of_drop h))

/-- An escaped text gives the text without its backslashes. -/
private theorem nodesYield_escapeNodes {n : Nat} {rest : List Char}
    (h : source.chars.drop n = escaped cs ++ rest) :
    settings.NodesYield evalText source cs.length cs (escapeNodes n cs) := by
  induction cs generalizing n with
  | nil => exact nodesYield_nil settings evalText source
  | cons c cs ih =>
    -- The character stands behind its backslash.
    have hchar : source.chars.drop (n + 1) = [c] ++ (escaped cs ++ rest) :=
      drop_of_drop (show source.chars.drop n = ['\\'] ++ ([c] ++ (escaped cs ++ rest)) from h)
    have hnode : ∀ stack, Yields settings.limits 0 [c]
        (settings.evalNode evalText source (.escape ⟨n + 1, n + 2⟩) stack) := by
      intro stack
      rw [evalNode]
      exact yields_pure ((Styled.chars_slice ..).trans (Span.of_drop hchar))
    have hcons := NodesYield.cons hnode (ih (drop_of_drop hchar))
    have hcount : 1 + 0 + cs.length = (c :: cs).length := by
      rw [List.length_cons]
      omega
    rw [hcount] at hcons
    exact hcons

/-- Braces that vanish. -/
theorem NodesYield.strip {body : List Node} (h : settings.NodesYield evalText source k cs body)
    (n length : Nat) :
    settings.NodesYield evalText source (1 + k) cs [braceNode .strip n length body] := by
  refine NodesYield.single fun stack => ?_
  rw [braceNode, evalNode]
  exact h {} stack

/-- Braces that stay. -/
theorem NodesYield.keep {body : List Node} (h : settings.NodesYield evalText source k cs body)
    (n length : Nat) :
    settings.NodesYield evalText source (1 + k) (braced cs) [braceNode .keep n length body] := by
  refine NodesYield.single fun stack => ?_
  rw [braceNode, evalNode]
  refine (h {} stack).map fun v hv => ?_
  show ['\x7b'] ++ v.chars ++ ['\x7d'] = braced cs
  rw [hv]
  rfl

end Settings

/-- How many nodes a quoted text has, at any depth. -/
def Quoting.nodeCount : Quoting → List Char → Nat
  | escapes, cs => cs.length
  | braces, cs => 1 + if cs = [] then 0 else 1
  | doubleBraces, cs => 1 + (1 + if cs = [] then 0 else 1)

/-- **A quoted text gives the text.** -/
theorem Quoting.nodesYield_nodesAt (settings : Settings)
    (evalText : Styled → FrameStack → EvalM Styled) {source : Styled} (q : Quoting) {n : Nat}
    {cs rest : List Char} (h : source.chars.drop n = q.write cs ++ rest) :
    settings.NodesYield evalText source (q.nodeCount cs) (q.shows cs) (q.nodesAt n cs) := by
  -- Behind an opening brace stands what is in the braces.
  have hinside {m : Nat} {ds behind : List Char} (hm : source.chars.drop m = braced ds ++ behind) :
      source.chars.drop (m + 1) = ds ++ ('\x7d' :: behind) := by
    have hopen : source.chars.drop m = ['\x7b'] ++ (ds ++ ('\x7d' :: behind)) := by
      rw [hm]
      simp [braced]
    exact drop_of_drop hopen
  cases q with
  | escapes => exact Settings.nodesYield_escapeNodes h
  | braces => exact (Settings.nodesYield_textNodes (hinside h)).strip n cs.length
  | doubleBraces =>
    exact ((Settings.nodesYield_textNodes (hinside (hinside h))).keep (n + 1) cs.length).strip n _

/-! ### The call -/

/-- The values of arguments, one after the other. -/
def LazyArgument.values (args : List LazyArgument) (stack : FrameStack) : EvalM (List Styled) :=
  args.mapM fun a => a.eval stack

namespace Quoting

variable (settings : Settings) (evalText : Styled → FrameStack → EvalM Styled) {source : Styled}

/-- Do the quoted arguments stand in the text from `n` on, with one character between neighbours? -/
def StandAt (q : Quoting) (text : List Char) (n : Nat) : List (List Char) → Prop
  | [] => True
  | cs :: args => (∃ rest, text.drop n = q.write cs ++ rest) ∧
      q.StandAt text (n + (q.write cs).length + 1) args

/-- Arguments that are written with commas between them stand so. -/
private theorem standAt_of_drop {q : Quoting} {text rest : List Char} {args : List (List Char)}
    {n : Nat} (h : text.drop n = [','].intercalate (args.map q.write) ++ rest) :
    q.StandAt text n args := by
  induction args generalizing n with
  | nil => trivial
  | cons cs args ih =>
    cases args with
    | nil =>
      rw [List.map_singleton, List.intercalate_singleton] at h
      exact ⟨⟨rest, h⟩, trivial⟩
    | cons cs' args =>
      -- The first argument ends at the comma, and the others stand behind it.
      have hfirst : text.drop n = q.write cs
          ++ ([','] ++ ([','].intercalate ((cs' :: args).map q.write) ++ rest)) := by
        rw [h]
        simp [List.intercalate]
      exact ⟨⟨_, hfirst⟩, ih (drop_of_drop (drop_of_drop hfirst))⟩

/-- **Quoted arguments give their texts,** one by one. -/
theorem run_values_arguments {q : Quoting} {args : List (List Char)} {n : Nat}
    (h : q.StandAt source.chars n args) (stack : FrameStack) {s : EvalState}
    (hs : s.nodes + (args.map q.nodeCount).sum ≤ settings.limits.nodes) :
    ∃ values, (LazyArgument.values
          (Settings.lazyArguments settings evalText source (q.argumentsAt n args)) stack).run.run s
        = (.ok values, { s with nodes := s.nodes + (args.map q.nodeCount).sum }) ∧
      values.map (·.chars) = args.map q.shows := by
  -- Each argument begins where the one before it has ended, and with the nodes counted so far.
  induction args generalizing n s with
  | nil => exact ⟨[], rfl, rfl⟩
  | cons cs args ih =>
    obtain ⟨⟨rest, hfirst⟩, hmore⟩ := h
    rw [List.map_cons, List.sum_cons] at hs
    obtain ⟨v, hv, hchars⟩ := q.nodesYield_nodesAt settings evalText hfirst {} stack s (by omega)
    obtain ⟨values, hvalues, hshows⟩ := ih hmore (s := { s with nodes := s.nodes + q.nodeCount cs })
      (by dsimp only; omega)
    refine ⟨v :: values, ?_, ?_⟩
    · rw [argumentsAt, Settings.lazyArguments, Settings.lazyArgument, LazyArgument.values,
        List.mapM_cons, EarlyM.run_bind, hv]
      dsimp only
      rw [EarlyM.run_bind, ← LazyArgument.values, hvalues, List.map_cons, List.sum_cons,
        ← Nat.add_assoc]
      rfl
    · rw [List.map_cons, List.map_cons, hshows, hchars]
      rfl

/-- Only an empty text with a backslash before each character has no nodes. -/
private theorem eq_nil_of_nodesAt {q : Quoting} {n : Nat} {cs : List Char}
    (h : q.nodesAt n cs = []) :
    q.nodeCount cs = 0 ∧ q.shows cs = [] := by
  cases q with
  | escapes =>
    cases cs with
    | nil => exact ⟨rfl, rfl⟩
    | cons c cs => cases h
  | braces | doubleBraces => cases h

/-- A call gives all its arguments, unless there is only one and nothing in it; then nothing is
    lost. -/
private theorem run_values_given {q : Quoting} {args : List (List Char)} {n : Nat}
    (h : q.StandAt source.chars n args) (stack : FrameStack) {s : EvalState}
    (hs : s.nodes + (args.map q.nodeCount).sum ≤ settings.limits.nodes) :
    ∃ values, (LazyArgument.values (LazyArgument.given
          (Settings.lazyArguments settings evalText source (q.argumentsAt n args))) stack).run.run s
        = (.ok values, { s with nodes := s.nodes + (args.map q.nodeCount).sum }) ∧
      (values.map (·.chars)).flatten = (args.map q.shows).flatten := by
  obtain ⟨values, hvalues, hshows⟩ := run_values_arguments settings evalText h stack hs
  have hall : (values.map (·.chars)).flatten = (args.map q.shows).flatten := congrArg _ hshows
  cases args with
  | nil => exact ⟨values, hvalues, hall⟩
  | cons cs args =>
    cases args with
    | cons cs' args => exact ⟨values, hvalues, hall⟩
    | nil =>
      -- A call with one argument that has no nodes is a call without arguments.
      by_cases hempty : (q.nodesAt n cs).isEmpty
      · have hgiven : LazyArgument.given
            (Settings.lazyArguments settings evalText source (q.argumentsAt n [cs])) = [] :=
          if_pos hempty
        obtain ⟨hcount, hnone⟩ := eq_nil_of_nodesAt (List.isEmpty_iff.mp hempty)
        refine ⟨[], ?_, by simp [hnone]⟩
        rw [hgiven, List.map_singleton, List.sum_singleton, hcount]
        rfl
      · have hgiven : LazyArgument.given
            (Settings.lazyArguments settings evalText source (q.argumentsAt n [cs]))
              = Settings.lazyArguments settings evalText source (q.argumentsAt n [cs]) :=
          if_neg hempty
        rw [hgiven]
        exact ⟨values, hvalues, hall⟩

end Quoting

namespace Settings

/-- **A call of a function of the values of its arguments,** if it is allowed and no ceiling is
    passed. -/
theorem run_call_native {settings : Settings} (evalText : Styled → FrameStack → EvalM Styled)
    {name : String} {f : List Styled → Styled} (hname : lowerName name = name) {stack : FrameStack}
    {args : List LazyArgument} {s s' : EvalState} {values : List Styled}
    (hget : s.functions.get? name = some (.native name 0 none f))
    (hcancelled : s.cancelAfter = none)
    (hcalls : s.invocations + 1 ≤ settings.limits.invocations)
    (hdepth : stack.top.depth < settings.limits.depth)
    (hrecursion : stack.top.recursionOf name < settings.limits.recursion)
    (hargs : (LazyArgument.values (LazyArgument.given args)
        (stack.push (stack.top.enter name))).run.run
      { s with invocations := s.invocations + 1 } = (.ok values, s')) :
    (settings.call evalText name args stack).run.run s = (.ok (f values), s') := by
  have hget' : s.functions.get? (lowerName name) = some (.native name 0 none f) := by rwa [hname]
  rw [run_call hcancelled hget', hname, if_neg (by omega), if_neg (by omega), if_neg (by omega)]
  -- Any number of arguments is accepted, and no capability is required.
  show (LazyArgument.values (LazyArgument.given args) (stack.push (stack.top.enter name))
    >>= fun values => pure (f values) : EvalM Styled).run.run _ = _
  rw [EarlyM.run_bind, hargs]
  rfl

end Settings

/-- A call with quoted arguments of a function that puts texts one after the other. -/
private theorem Settings.run_evalNodes_concat (settings : Settings)
    (evalText : Styled → FrameStack → EvalM Styled) (stack : FrameStack) {name : String}
    (hname : lowerName name = name) {s : EvalState}
    (hget : s.functions.get? name = some (.native name 0 none Styled.concat))
    (hcancelled : s.cancelAfter = none)
    (hcalls : s.invocations + 1 ≤ settings.limits.invocations)
    (hdepth : stack.top.depth < settings.limits.depth)
    (hrecursion : stack.top.recursionOf name < settings.limits.recursion)
    {q : Quoting} {args : List (List Char)} {source : Styled} {n : Nat}
    (hstand : q.StandAt source.chars n args)
    (hnodes : s.nodes + 1 + (args.map q.nodeCount).sum ≤ settings.limits.nodes)
    (nameSpan span : Span) :
    ∃ value, (settings.evalNodes evalText source
          [.call name nameSpan (q.argumentsAt n args) span] {} stack).run.run s
        = (.ok value, { s with
            nodes := s.nodes + 1 + (args.map q.nodeCount).sum, invocations := s.invocations + 1 }) ∧
      value.chars = (args.map q.shows).flatten := by
  -- The arguments are evaluated inside the call, which has been counted by then.
  obtain ⟨values, hvalues, hshows⟩ := Quoting.run_values_given settings evalText hstand
    (stack.push (stack.top.enter name))
    (s := { s with nodes := s.nodes + 1, invocations := s.invocations + 1 }) hnodes
  have hcall := run_call_native evalText hname (s := { s with nodes := s.nodes + 1 }) hget
    hcancelled hcalls hdepth hrecursion hvalues
  refine ⟨{} ++ Styled.concat values, ?_, ?_⟩
  · rw [run_evalNodes_cons, if_neg (by omega), evalNode, hcall]
    rfl
  · rw [Styled.chars_append, Styled.chars_concat, hshows]
    rfl

/-! ### The whole text -/

namespace Engine

variable {e : Engine} {q : Quoting} {args : List (List Char)} {source : Styled} {frame : Frame}

/-- A whole expression gives one value. -/
theorem run_expression {levels : Nat} {arg : Argument} {registers : Table String Styled}
    {cancelAfter : Option Nat} {value : Styled} {t : EvalState}
    (h : (e.settings.evalArgument levels source arg ⟨frame, {}⟩).run.run
      (e.start registers cancelAfter) = (.ok value, t)) :
    e.run levels source (.expression arg) frame registers cancelAfter
      = (.ok [{ value, depth := frame.depth }], t) := by
  unfold run evalTree evalAll
  dsimp only
  rw [List.mapM_cons, EarlyM.run_bind, EarlyM.run_bind, h]
  rfl

/-- **Quoting protects any text.**  Let `strcat` be the standard function, and let the ceilings
    leave room for one call and for the nodes of its arguments.  Then `strcat` with quoted arguments
    is completed and gives the texts one after the other.  A backslash before each character quotes
    any text at all; one pair of braces, or two of which one stays, quotes texts without braces,
    square brackets, backslashes and percent signs. -/
theorem evaluate_strcat (hstrcat : e.functions.get? "strcat" = standardFunctions.get? "strcat")
    (hne : args ≠ []) (hargs : ∀ cs ∈ args, q.Protects cs)
    (hsource : source.chars = q.call "strcat".toList args) (registers : Table String Styled)
    (hdepth : frame.depth < e.settings.limits.depth)
    (hrecursion : frame.recursionOf "strcat" < e.settings.limits.recursion)
    (hcalls : 0 < e.settings.limits.invocations)
    (hnodes : 1 + (args.map q.nodeCount).sum ≤ e.settings.limits.nodes) :
    ∃ value, e.evaluate source .function frame registers
        = (.ok { outcome := .completed, values := [{ value, depth := frame.depth }] }, e) ∧
      value.chars = (args.map q.shows).flatten := by
  have hfunction : e.functions.get? "strcat" = some (.native "strcat" 0 none Styled.concat) :=
    hstrcat.trans rfl
  have hletters : ∀ d ∈ ['s', 't', 'r', 'c', 'a', 't'], isNameChar d :=
    List.all_eq_true.mp (by decide +kernel)
  have hread := Quoting.parse_call (q := q) hletters (by decide) hne hargs
  rw [show q.call ['s', 't', 'r', 'c', 'a', 't'] args = source.chars from hsource.symm] at hread
  obtain ⟨herrors, htree⟩ := hread
  -- Behind the head of the call stand the arguments.
  have hstand : q.StandAt source.chars 7 args := by
    have hdrop : source.chars.drop 7 = [','].intercalate (args.map q.write) ++ [')'] := by
      rw [hsource]
      rfl
    exact Quoting.standAt_of_drop hdrop
  obtain ⟨value, hvalue, hchars⟩ := Settings.run_evalNodes_concat
    e.settings
    (Settings.evalText e.settings e.settings.limits.levels) ⟨frame, {}⟩
    (s := (e.start registers none)) rfl hfunction rfl hcalls hdepth hrecursion hstand
    (show 0 + 1 + (args.map q.nodeCount).sum ≤ e.settings.limits.nodes by omega)
    ⟨0, 6⟩ ⟨0, source.chars.length⟩
  have hname : String.ofList ['s', 't', 'r', 'c', 'a', 't'] = "strcat" := rfl
  have hrun : ∃ t : EvalState, e.run e.settings.limits.levels source
        (parse .function source.chars).tree frame registers none
      = (.ok [{ value, depth := frame.depth }], t) ∧ e.keep t = e := by
    rw [htree, hname]
    exact ⟨_, run_expression hvalue, rfl⟩
  obtain ⟨t, hrun, hkeep⟩ := hrun
  refine ⟨value, ?_, hchars⟩
  rw [evaluate_of_run herrors hrun, hkeep]

/-- Softcode that is to be text is text, and all ceilings are reached exactly.  In braces the comma
    and the parenthesis, which would end an argument and the call, do not. -/
theorem hostile_evaluate_strcat :
    let limits : Limits := { depth := 1, recursion := 1, invocations := 1, nodes := 7 }
    let e : Engine := { settings := { limits } }
    let frame : Frame := { executor := 1, enactor := 1, caller := 1 }
    let bare : Styled := .ofString "strcat(\\[\\%\\0\\],,\\ \\\\)"
    let inBraces : Styled := .ofString "strcat(\x7b\x7b add(1,\x7d\x7d,\x7b\x7b)\x7d\x7d)"
    (∃ value, e.evaluate bare .function frame
        = (.ok { outcome := .completed, values := [{ value }] }, e) ∧
      value.chars = "[%0] \\".toList) ∧
    ∃ value, e.evaluate inBraces .function frame
        = (.ok { outcome := .completed, values := [{ value }] }, e) ∧
      value.chars = "\x7b add(1,\x7d\x7b)\x7d".toList := by
  intro limits e frame bare inBraces
  have hbare : bare.chars
      = Quoting.escapes.call "strcat".toList ["[%0]".toList, [], " \\".toList] := rfl
  have hbraces : inBraces.chars
      = Quoting.doubleBraces.call "strcat".toList [" add(1,".toList, ")".toList] := rfl
  have hplain : ∀ cs ∈ [" add(1,".toList, ")".toList], Quoting.doubleBraces.Protects cs := by
    simp [Quoting.Protects, PlainInBraces]
  constructor
  · exact evaluate_strcat (q := .escapes) rfl (by simp) (fun _ _ => trivial) hbare {} (by decide)
      (by decide) (by decide) (by decide)
  · exact evaluate_strcat rfl (by simp) hplain hbraces {} (by decide) (by decide) (by decide)
      (by decide)

end Engine

end Softcode
