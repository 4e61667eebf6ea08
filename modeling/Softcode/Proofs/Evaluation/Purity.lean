import Softcode.Proofs.Evaluation.Ceilings
import Softcode.Proofs.Evaluation.Footprint
import Softcode.Proofs.Lock.CacheView
import Softcode.Proofs.Tree.Descent

namespace Softcode

/-!
# Expressions leave the world alone

To evaluate an expression, whatever softcode it reaches, changes nothing in the world and none of
the functions, though both are part of the state that functions act on.  A text that is not read as
commands is read as arguments (`evalTree_eq_evalAll`).  Of what an expression does, function by
function, nothing shows in the world, and the cache of locks goes on showing the same locks
(`Engine.kept_unchanged`).
-/

/-- A text that is not read as commands is read as arguments. -/
theorem evalTree_eq_evalAll {rule : Rule} (hsingle : rule ≠ .singleCommand)
    (hlist : rule ≠ .commandList) (text : List Char) : ∃ args : List Argument,
      ∀ (commands : Commands) (settings : Settings) (levels : Nat) (source : Styled)
        (stack : FrameStack),
        evalTree commands settings levels source (parse rule text).tree stack
          = evalAll settings levels source args stack := by
  -- Whatever pieces the text has, each rule makes arguments of them.
  have hpieces : ∀ pieces : List Argument, ∃ args : List Argument,
      ∀ (commands : Commands) (settings : Settings) (levels : Nat) (source : Styled)
        (stack : FrameStack),
        evalTree commands settings levels source (Tree.ofPieces text rule pieces) stack
          = evalAll settings levels source args stack := by
    intro pieces
    cases rule with
    | function => exact ⟨_, fun _ _ _ _ _ => rfl⟩
    | singleCommand => exact absurd rfl hsingle
    | commandList => exact absurd rfl hlist
    | commaArgs => exact ⟨_, fun _ _ _ _ _ => rfl⟩
    | eqSplitArgs =>
      match pieces with
      | [] => exact ⟨_, fun _ _ _ _ _ => rfl⟩
      | [_] => exact ⟨_, fun _ _ _ _ _ => rfl⟩
      | _ :: _ :: _ => exact ⟨_, fun _ _ _ _ _ => rfl⟩
    | eqSplitCommand =>
      match pieces with
      | [] => exact ⟨_, fun _ _ _ _ _ => rfl⟩
      | _ :: _ => exact ⟨_, fun _ _ _ _ _ => rfl⟩
  rw [parse_eq_read]
  exact hpieces _

/-- Trying locks does not change which locks a cache shows. -/
theorem World.view_passesAt (w : World) (kind : LockKind) (gated unlocker : Dbref) (c : LockCache) :
    ((w.passesAt kind gated unlocker).run c).2.view w = c.view w := by
  unfold passesAt
  split
  · exact (w.passes_answers (c.view w) kind _ _ c rfl).2
  · rfl

namespace Engine

/-- Are the world and the functions those of the engine, and does the cache show its locks? -/
structure Unchanged (e : Engine) (s : EvalState) : Prop where
  world : s.world = e.world
  functions : s.functions = e.functions
  locks : s.locks.view e.world = e.locks.view e.world

variable {e : Engine}

/-- **Nothing that an expression does changes the engine.** -/
theorem kept_unchanged : KeptByExpressions e.Unchanged fun _ => True where
  counters hs hworld hfunctions _ hlocks :=
    ⟨hworld.trans hs.world, hfunctions.trans hs.functions, hlocks ▸ hs.locks⟩
  locks hs kind gated unlocker := by
    refine ⟨hs.world, hs.functions, ?_⟩
    rw [← hs.locks, hs.world]
    exact e.world.view_passesAt kind gated unlocker _
  set hs _ _ _ _ := ⟨hs.world, hs.functions, hs.locks⟩
  fork hs _ := ⟨⟨hs.world, hs.functions, hs.locks⟩, trivial⟩

/-- **Arguments are evaluated without any effect on the world.** -/
theorem evalAll_unchanged (settings : Settings) (levels : Nat) (source : Styled)
    (args : List Argument) (stack : FrameStack) :
    Keeps e.Unchanged (evalAll settings levels source args stack) := by
  refine Keeps.mapM (fun arg => ?_) args
  have harg : Keeps e.Unchanged (settings.evalArgument levels source arg stack) :=
    kept_unchanged.evalArgument settings levels source arg stack trivial
  exact harg.bind fun _ _ => .pure trivial

/-- All that an engine keeps of such a state are the caches. -/
private theorem Unchanged.keep {s : EvalState} (h : e.Unchanged s) :
    e.keep s = { e with patterns := s.patterns, locks := s.locks } := by
  unfold Engine.keep
  rw [h.world, h.functions]

/-- Nobody is told why an expression was not completed. -/
private theorem tell_expression {rule : Rule} (hsingle : rule ≠ .singleCommand)
    (hlist : rule ≠ .commandList) (e : Engine) (frame : Frame) (evaluation : Evaluation) :
    (e.tell rule frame evaluation).2 = e := by
  unfold tell
  cases rule with
  | singleCommand => exact absurd rfl hsingle
  | commandList => exact absurd rfl hlist
  | _ => rfl

/-- However an evaluation ends that has changed nothing, only its caches are kept. -/
private theorem Unchanged.finish {rule : Rule} (hsingle : rule ≠ .singleCommand)
    (hlist : rule ≠ .commandList) (frame : Frame)
    {r : Except Abort (List CallValue) × EvalState} (h : e.Unchanged r.2) :
    ∃ patterns locks, ((e.finish rule frame r).getD (.error .cancelled, e)).2
        = { e with patterns, locks } ∧ locks.view e.world = e.locks.view e.world := by
  have hkeep : ∃ patterns locks, e.keep r.2 = { e with patterns, locks } ∧
      locks.view e.world = e.locks.view e.world := ⟨_, _, h.keep, h.locks⟩
  obtain ⟨abort | values, s⟩ := r
  · -- Only where the nesting of texts runs out is the old engine given back; all else keeps the
    -- caches.
    cases abort with
    | limit kind =>
      rw [Engine.finish, Option.getD_some, tell_expression hsingle hlist]
      exact hkeep
    | cancelled => exact hkeep
    | exhausted => exact ⟨e.patterns, e.locks, rfl, rfl⟩
  · exact hkeep

/-- **Evaluating an expression never changes the world.** Under every rule that does not read
    commands, and however the evaluation ends, the engine comes out the same but for its caches: the
    same world, down to the messages that wait in it, and the same functions.  Whatever locks were
    tried, those in force are shown as before. -/
theorem evaluate_expression {rule : Rule} (hsingle : rule ≠ .singleCommand)
    (hlist : rule ≠ .commandList) (e : Engine) (text : Styled) (frame : Frame)
    (registers : Table String Styled) (cancelAfter : Option Nat) :
    ∃ patterns locks, (e.evaluate text rule frame registers cancelAfter).2
        = { e with patterns, locks } ∧ locks.view e.world = e.locks.view e.world := by
  unfold evaluate evaluateWithin
  dsimp only
  -- A text with errors is not evaluated at all.
  split
  · rw [Option.getD_some, tell_expression hsingle hlist]
    exact ⟨e.patterns, e.locks, rfl, rfl⟩
  · obtain ⟨args, hargs⟩ := evalTree_eq_evalAll hsingle hlist text.chars
    have hstart : e.Unchanged (e.start registers cancelAfter) := ⟨rfl, rfl, rfl⟩
    refine Unchanged.finish hsingle hlist frame ?_
    unfold run
    rw [hargs]
    exact (evalAll_unchanged _ _ text args _ _ hstart).1

/-- A text that would be a command, and softcode in it that tries a lock, are only evaluated: the
    lock has been put into the cache, but nothing else has changed. -/
theorem probe_evaluate_expression :
    let e := ofAttribute {} "PROBE" "elock(me,me)"
    let frame : Frame := { executor := 1, enactor := 1, caller := 1 }
    let result := e.evaluate (.ofString "&passes me=u(probe)") .eqSplitCommand frame
    result.1.toOption.map (fun r => r.values.map (·.value.plain)) = some ["&passes me", "1"] ∧
      result.2.locks ≠ e.locks ∧ result.2.world = e.world ∧ result.2.functions = e.functions := by
  intro e frame result
  obtain ⟨patterns, locks, hengine, -⟩ :=
    evaluate_expression (show Rule.eqSplitCommand ≠ .singleCommand by decide)
      (show Rule.eqSplitCommand ≠ .commandList by decide) e
      (.ofString "&passes me=u(probe)") frame {} none
  have hresult : result.2 = { e with patterns, locks } := hengine
  refine ⟨by decide +kernel, by decide +kernel, ?_, ?_⟩
  · rw [hresult]
  · rw [hresult]

end Engine

end Softcode
