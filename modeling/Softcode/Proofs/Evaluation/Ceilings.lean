import Softcode.Engine
import Softcode.Proofs.Evaluation.Commands
import Softcode.Proofs.Results

namespace Softcode

/-!
# The ceilings of an engine

Whatever softcode calls, an evaluation ends: every call is one deeper than the call around it, so
the ceiling on the depth bounds how many texts can nest, and more room for nesting changes nothing
(`Engine.Standard.evaluation_ends`).  And the ceilings only cut evaluations off: what is completed
under some ceilings is completed under wider ones too, with the same effects
(`Engine.Standard.completed_of_atMost`).
-/

variable {cancellable : Prop} {forgives : Abort → Prop} {settings : Settings} {l : Limits}
  {n m : Nat}

/-- An engine lets more texts nest than calls can. -/
private theorem Limits.depth_le_levels (l : Limits) : l.depth ≤ l.levels := Nat.le_succ l.depth

/-! ### What a text was read as -/

/-- The arguments of a text that is not a command. -/
private theorem evalAll_follows (h : settings.Compares forgives l n m) (source : Styled)
    (args : List Argument) (stack : FrameStack) :
    Follows (EvalState.terms cancellable forgives) (evalAll settings n source args stack)
      (evalAll (settings.withLimits l) m source args stack) := by
  refine Follows.mapM_same (fun arg => ?_) args
  exact (commandValue_follows h source stack .evaluate arg).bind fun _ => .pure _

/-- Whatever a text is read as, its evaluations follow each other. -/
private theorem evalTree_follows {commands : Commands} (hcommands : commands.Uniform)
    (h : settings.Compares forgives l n m) (source : Styled) (tree : Tree) (stack : FrameStack) :
    Follows (EvalState.terms cancellable forgives) (evalTree commands settings n source tree stack)
      (evalTree commands (settings.withLimits l) m source tree stack) := by
  have hspans : ∀ spans, Follows (EvalState.terms cancellable forgives)
      (runSpans commands settings n (runAction commands settings n) source spans stack)
      (runSpans commands (settings.withLimits l) m (runAction commands (settings.withLimits l) m)
        source spans stack) :=
    runSpans_follows hcommands h (actionsFollow_runAction hcommands h _) source
  -- Commands are run from their spans, and all else is arguments.
  cases tree with
  | expression arg => exact evalAll_follows h source _ stack
  | command span => exact (hspans [span]).bind fun _ => .pure _
  | commandList spans => exact (hspans spans).bind fun _ => .pure _
  | commaArgs args => exact evalAll_follows h source _ stack
  | eqSplitArgs left right => exact evalAll_follows h source _ stack
  | eqSplitCommand left right => exact evalAll_follows h source _ stack

namespace Engine

/-- Does the engine have the standard commands and, besides softcode, only standard functions? -/
structure Standard (e : Engine) : Prop where
  functions : e.functions.Standard
  commands : e.commands = standardCommands

/-- The engine with other ceilings. -/
def withLimits (e : Engine) (l : Limits) : Engine := { e with settings := e.settings.withLimits l }

variable {e : Engine}

/-- Runs of a standard engine follow each other. -/
private theorem Standard.run_allows (h : e.Standard) (hl : e.settings.Compares forgives l n m)
    (source : Styled) (tree : Tree) (frame : Frame) (registers : Table String Styled)
    (cancelAfter : Option Nat) :
    (EvalState.terms cancelAfter.isSome forgives).Allows
      (e.run n source tree frame registers cancelAfter)
      ((e.withLimits l).run m source tree frame registers cancelAfter) := by
  have hcommands : e.commands.Uniform := h.commands ▸ uniform_standardCommands
  have hstart : (EvalState.terms cancelAfter.isSome forgives).inv (e.start registers cancelAfter) :=
    ⟨id, h.functions⟩
  exact evalTree_follows hcommands hl source tree ⟨frame, {}⟩ _ hstart

/-- An engine stays standard if the functions do. -/
theorem Standard.keep (h : e.Standard) {s : EvalState} (hs : s.functions.Standard) :
    (e.keep s).Standard := ⟨hs, h.commands⟩

/-- To tell somebody something is nothing that functions or commands are changed by. -/
theorem Standard.tell (h : e.Standard) (rule : Rule) (frame : Frame) (evaluation : Evaluation) :
    (e.tell rule frame evaluation).2.Standard := by
  unfold Engine.tell
  split
  · exact ⟨h.functions, h.commands⟩
  · exact h

/-- Who is told does not change the result. -/
theorem tell_fst (e : Engine) (rule : Rule) (frame : Frame) (evaluation : Evaluation) :
    (e.tell rule frame evaluation).1 = .ok evaluation := by
  unfold Engine.tell
  split <;> rfl

/-! ### Evaluations end -/

variable (text : Styled) (rule : Rule) (frame : Frame) (registers : Table String Styled)
  (cancelAfter : Option Nat)

/-- How many texts may nest does not matter once it is no less than the ceiling on the depth of
    calls. -/
private theorem Standard.run_levels (h : e.Standard) (hn : e.settings.limits.depth ≤ n)
    (hm : e.settings.limits.depth ≤ m) (tree : Tree) :
    e.run m text tree frame registers cancelAfter
      = e.run n text tree frame registers cancelAfter := by
  have hsame := Limits.Widen.refl (fun _ => False) e.settings.limits
  have hruns := h.run_allows ⟨hsame, hn, hm⟩ text tree frame registers cancelAfter
  exact hruns.eq fun _ _ => id

/-- A run that has enough levels does not use them up, and is cancelled only from outside. -/
private theorem Standard.run_ends (h : e.Standard) (hn : e.settings.limits.depth ≤ n)
    (tree : Tree) :
    (e.run n text tree frame registers cancelAfter).2.functions.Standard ∧
      ∀ a, (e.run n text tree frame registers cancelAfter).1 = .error a →
        a.IsEnd cancelAfter.isSome := by
  have hsame := Limits.Widen.refl (fun _ => False) e.settings.limits
  have hruns := h.run_allows ⟨hsame, hn, hn⟩ text tree frame registers cancelAfter
  exact ⟨hruns.inv.2, fun _ => hruns.stops⟩

variable {rule} {frame} {cancelAfter} in
/-- Every end of a run but one comes to a result. -/
private theorem Standard.finish_eq_some (h : e.Standard)
    {r : Except Abort (List CallValue) × EvalState} (hfunctions : r.2.functions.Standard)
    (hends : ∀ a, r.1 = .error a → a.IsEnd cancelAfter.isSome) :
    ∃ result, e.finish rule frame r = some result ∧ result.2.Standard ∧
      (cancelAfter = none → ∃ evaluation, result.1 = .ok evaluation ∧
        (evaluation.outcome = .completed ∨ ∃ kind, evaluation.outcome = .limitExceeded kind)) := by
  have hkeep : (e.keep r.2).Standard := h.keep hfunctions
  obtain ⟨abort | values, s⟩ := r
  · obtain ⟨hlevels, hcancelled⟩ := hends abort rfl
    cases abort with
    | limit kind =>
      refine ⟨_, rfl, hkeep.tell rule frame _, fun _ => ?_⟩
      exact ⟨_, tell_fst _ rule frame _, .inr ⟨kind, rfl⟩⟩
    | cancelled =>
      refine ⟨_, rfl, hkeep, fun hno => ?_⟩
      have hsome := hcancelled rfl
      rw [hno] at hsome
      cases hsome
    -- This would be no result, but the levels are not used up.
    | exhausted => exact absurd rfl hlevels
  · exact ⟨_, rfl, hkeep, fun _ => ⟨_, rfl, .inl rfl⟩⟩

/-- Whole evaluations do not depend on the number of levels either. -/
private theorem Standard.evaluateWithin_levels (h : e.Standard) (hn : e.settings.limits.depth ≤ n)
    (hm : e.settings.limits.depth ≤ m) :
    e.evaluateWithin m text rule frame registers cancelAfter
      = e.evaluateWithin n text rule frame registers cancelAfter := by
  unfold evaluateWithin
  dsimp only
  rw [h.run_levels text frame registers cancelAfter hn hm]

/-- With enough levels an evaluation has a result, and which one the syntax errors decide first. -/
private theorem Standard.evaluateWithin_eq_some (h : e.Standard)
    (hn : e.settings.limits.depth ≤ n) :
    ∃ result, e.evaluateWithin n text rule frame registers cancelAfter = some result ∧
      result.2.Standard ∧
      (cancelAfter = none → ∃ evaluation, result.1 = .ok evaluation ∧
        if (parse rule text.chars).errors = [] then
          evaluation.outcome = .completed ∨ ∃ kind, evaluation.outcome = .limitExceeded kind
        else evaluation.outcome = .malformed) := by
  obtain ⟨hfunctions, hends⟩ :=
    h.run_ends text frame registers cancelAfter hn (parse rule text.chars).tree
  unfold evaluateWithin
  dsimp only
  -- The text is not run at all if there are syntax errors.
  cases herrors : (parse rule text.chars).errors with
  | cons first rest =>
    refine ⟨_, rfl, h.tell rule frame _, fun _ => ⟨_, tell_fst e rule frame _, ?_⟩⟩
    rw [if_neg (List.cons_ne_nil first rest)]
    rfl
  | nil =>
    obtain ⟨result, hfinish, hstandard, hresult⟩ := h.finish_eq_some hfunctions hends
    refine ⟨result, hfinish, hstandard, fun hcancelled => ?_⟩
    obtain ⟨evaluation, hok, houtcome⟩ := hresult hcancelled
    exact ⟨evaluation, hok, (if_pos rfl).mpr houtcome⟩

/-- **Every evaluation ends.** Whatever the world, the text and the ceilings are, it does not matter
    how many texts may nest, once it is no less than the ceiling on the depth of calls.  Unless it
    is cancelled, the evaluation gives a result.  Texts with syntax errors are malformed; all others
    are completed or pass a ceiling.  The engine stays standard, so this goes on for all that it
    evaluates later. -/
theorem Standard.evaluation_ends (h : e.Standard) {levels : Nat}
    (hlevels : e.settings.limits.depth ≤ levels) :
    e.evaluateWithin levels text rule frame registers cancelAfter
        = some (e.evaluate text rule frame registers cancelAfter) ∧
      (e.evaluate text rule frame registers cancelAfter).2.Standard ∧
      (cancelAfter = none → ∃ evaluation,
        (e.evaluate text rule frame registers cancelAfter).1 = .ok evaluation ∧
        if (parse rule text.chars).errors = [] then
          evaluation.outcome = .completed ∨ ∃ kind, evaluation.outcome = .limitExceeded kind
        else evaluation.outcome = .malformed) := by
  have hown := e.settings.limits.depth_le_levels
  obtain ⟨result, hsome, hresult⟩ :=
    h.evaluateWithin_eq_some text rule frame registers cancelAfter hown
  have hevaluate : e.evaluate text rule frame registers cancelAfter = result := by
    rw [evaluate, hsome]
    rfl
  rw [h.evaluateWithin_levels text rule frame registers cancelAfter hown hlevels, hsome, hevaluate]
  exact ⟨rfl, hresult⟩

/-- An engine whose wizard has one attribute. -/
def ofAttribute (l : Limits) (name text : String) : Engine :=
  { world := World.start.putAttribute 1 ⟨[name.toList]⟩ (.ofString text) 1
    settings := { limits := l } }

theorem standard_ofAttribute (l : Limits) (name text : String) :
    (ofAttribute l name text).Standard :=
  ⟨Functions.standard_standardFunctions, rfl⟩

/-- An attribute that calls itself uses up two levels, but passes a ceiling of three with a hundred.
    -/
theorem selfCall_evaluation_ends :
    let e := ofAttribute { depth := 3 } "LOOP" "u(me/loop)"
    let frame : Frame := { executor := 1, enactor := 1, caller := 1 }
    let text := Styled.ofString "u(loop)"
    e.evaluateWithin 2 text .function frame {} none = none ∧
      e.evaluateWithin 100 text .function frame {} none = some (e.evaluate text .function frame) ∧
      (e.evaluate text .function frame).1.toOption.map (·.outcome)
        = some (.limitExceeded .depth) := by
  intro e frame text
  have hends := (standard_ofAttribute { depth := 3 } "LOOP" "u(me/loop)").evaluation_ends text
    .function frame {} none (show 3 ≤ 100 by decide)
  refine ⟨?_, hends.1, by decide +kernel⟩
  -- Two levels are not enough for three calls and the text itself.
  rw [← Option.isNone_iff_eq_none]
  decide +kernel

/-! ### Ceilings only cut off -/

/-- All registers at the end of an evaluation. -/
def registersAfter (e : Engine) : Registers :=
  (e.run e.settings.limits.levels text (parse rule text.chars).tree frame registers
    cancelAfter).2.registers

variable {text rule frame registers cancelAfter}

/-- A run that gives values completes the evaluation. -/
theorem evaluate_of_run {values : List CallValue} {s : EvalState}
    (herrors : (parse rule text.chars).errors = [])
    (hrun : e.run e.settings.limits.levels text (parse rule text.chars).tree frame registers
      cancelAfter = (.ok values, s)) :
    e.evaluate text rule frame registers cancelAfter
      = (.ok { outcome := .completed, values }, e.keep s) := by
  unfold evaluate evaluateWithin
  dsimp only
  rw [herrors, hrun]
  rfl

/-- What is completed is the run of a text without syntax errors. -/
private theorem run_of_completed {evaluation : Evaluation}
    (hok : (e.evaluate text rule frame registers cancelAfter).1 = .ok evaluation)
    (hcompleted : evaluation.outcome = .completed) :
    (parse rule text.chars).errors = [] ∧ ∃ s,
      e.run e.settings.limits.levels text (parse rule text.chars).tree frame registers cancelAfter
        = (.ok evaluation.values, s) ∧
      evaluation = { outcome := .completed, values := evaluation.values } := by
  unfold evaluate evaluateWithin at hok
  dsimp only at hok
  cases herrors : (parse rule text.chars).errors with
  | cons first rest =>
    rw [herrors, Option.getD_some, tell_fst] at hok
    cases hok
    cases hcompleted
  | nil =>
    rw [herrors] at hok
    dsimp only at hok
    generalize e.run e.settings.limits.levels text (parse rule text.chars).tree frame registers
      cancelAfter = r at hok
    -- Of all ends only one is a completed evaluation.
    obtain ⟨abort | values, s⟩ := r
    · cases abort with
      | limit kind =>
        rw [finish, Option.getD_some, tell_fst] at hok
        cases hok
        cases hcompleted
      | cancelled => cases hok
      | exhausted => cases hok
    · cases hok
      exact ⟨rfl, s, rfl, rfl⟩

/-- **Ceilings only cut evaluations off.** What is completed under some ceilings is completed under
    all wider ones, with the same values.  The engine comes out the same but for its ceilings: the
    same world, with the same messages in the same order, and the same functions.  So do all
    registers. -/
theorem Standard.completed_of_atMost (h : e.Standard) {l : Limits}
    (hl : e.settings.limits.AtMost l) {evaluation : Evaluation}
    (hok : (e.evaluate text rule frame registers cancelAfter).1 = .ok evaluation)
    (hcompleted : evaluation.outcome = .completed) :
    (e.withLimits l).evaluate text rule frame registers cancelAfter
        = (.ok evaluation, (e.evaluate text rule frame registers cancelAfter).2.withLimits l) ∧
      (e.withLimits l).registersAfter text rule frame registers cancelAfter
        = e.registersAfter text rule frame registers cancelAfter := by
  obtain ⟨herrors, s, hrun, hevaluation⟩ := run_of_completed hok hcompleted
  -- To pass a ceiling is forgiven, but the first run passes none.
  have hwiden : e.settings.limits.Widen (fun a => ∃ kind, a = .limit kind) l :=
    ⟨hl, .inr fun kind => ⟨kind, rfl⟩⟩
  have hruns := h.run_allows ⟨hwiden, e.settings.limits.depth_le_levels, l.depth_le_levels⟩ text
    (parse rule text.chars).tree frame registers cancelAfter
  rw [hrun] at hruns
  have hsame : (e.withLimits l).run l.levels text (parse rule text.chars).tree frame registers
      cancelAfter = (.ok evaluation.values, s) := by
    refine hruns.eq fun a ha => ?_
    cases ha
  have hfirst : e.evaluate text rule frame registers cancelAfter = (.ok evaluation, e.keep s) := by
    rw [hevaluation]
    exact evaluate_of_run herrors hrun
  refine ⟨?_, ?_⟩
  · rw [hfirst, hevaluation]
    exact evaluate_of_run herrors hsame
  · unfold registersAfter
    rw [hrun]
    exact congrArg (fun r => r.2.registers) hsame

/-- The action of an attribute just fits under the ceilings, so it does the same under those that
    every engine starts with.  One call less, and it would have been cut off. -/
theorem greeting_completed_of_atMost :
    let tight : Limits := { depth := 2, recursion := 1, invocations := 3, nodes := 7 }
    let e := ofAttribute tight "GREET" "$hi *:think hello [setr(a,%0)]"
    let frame : Frame := { executor := 1, enactor := 1, caller := 1 }
    let text := Styled.ofString "hi there"
    let outcome (e : Engine) : Option Outcome :=
      (e.evaluate text .singleCommand frame).1.toOption.map (·.outcome)
    outcome (e.withLimits { tight with invocations := 2 }) = some (.limitExceeded .invocations) ∧
      outcome e = some .completed ∧ outcome (e.withLimits {}) = some .completed ∧
      ((e.withLimits {}).evaluate text .singleCommand frame).2
        = (e.evaluate text .singleCommand frame).2.withLimits {} := by
  intro tight e frame text outcome
  have hcompleted : outcome e = some .completed := by decide +kernel
  obtain ⟨evaluation, hsome, houtcome⟩ := Option.map_eq_some_iff.mp hcompleted
  have hok := toOption_eq_some.mp hsome
  have hatMost : tight.AtMost {} := ⟨by decide, by decide, by decide, by decide⟩
  obtain ⟨hsame, -⟩ := (standard_ofAttribute tight _ _).completed_of_atMost hatMost hok houtcome
  refine ⟨by decide +kernel, hcompleted, ?_, ?_⟩
  · rw [← hcompleted]
    unfold outcome
    rw [hsame, hok]
  · rw [hsame]

end Engine

end Softcode
