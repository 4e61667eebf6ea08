import Softcode.Proofs.Evaluation.Follows
import Softcode.Proofs.World.Erasure

namespace Softcode

/-!
# One evaluation that mirrors another

Two evaluations of the same thing, with and without markup, are compared step by step.  The second
`Mirrors` the first if from the state without markup it comes to what the first comes to, without
markup: the same value or the same reason to end early, in the same state.

The relation is closed under sequencing, choice and loops, so each part of the evaluator has one
lemma.  At the same time it carries an invariant of the first run.
-/

variable {σ α β γ δ : Type}

/-- How states lose their markup, and what holds in every state of the first run. -/
structure Mirror (σ : Type) where
  erase : σ → σ
  inv : σ → Prop

/-- From every state in the invariant, does the second computation do without markup what the first
    does?  The function takes the markup from the values. -/
def Mirrors (M : Mirror σ) (φ : α → β) (x : EarlyM σ α) (y : EarlyM σ β) : Prop :=
  ∀ s, M.inv s → M.inv (x.run.run s).2 ∧
    y.run.run (M.erase s) = ((x.run.run s).1.map φ, M.erase (x.run.run s).2)

namespace Mirrors

variable {M : Mirror σ} {φ : α → β} {ψ : γ → δ}

/-! ### Sequences, choices and loops -/

/-- Values that are the same up to markup. -/
protected theorem pure {a : α} {b : β} (h : b = φ a) : Mirrors M φ (pure a) (pure b) :=
  fun _ hs => ⟨hs, by rw [h]; rfl⟩

protected theorem throw (e : Abort) : Mirrors M φ (throw e) (throw e) := fun _ hs => ⟨hs, rfl⟩

/-- A sequence, whose second parts start from values that are the same up to markup. -/
protected theorem bind {x : EarlyM σ α} {y : EarlyM σ β} {f : α → EarlyM σ γ} {g : β → EarlyM σ δ}
    (hx : Mirrors M φ x y) (hf : ∀ a, Mirrors M ψ (f a) (g (φ a))) :
    Mirrors M ψ (x >>= f) (y >>= g) := by
  intro s hs
  obtain ⟨hinv, hrun⟩ := hx s hs
  rw [EarlyM.run_bind, EarlyM.run_bind, hrun]
  generalize x.run.run s = r at hinv
  -- An evaluation that has ended early is not continued, on either side.
  obtain ⟨e | a, s'⟩ := r
  · exact ⟨hinv, rfl⟩
  · exact hf a s' hinv

theorem get_bind {f : σ → EarlyM σ γ} {g : σ → EarlyM σ δ}
    (hf : ∀ s, M.inv s → Mirrors M ψ (f s) (g (M.erase s))) :
    Mirrors M ψ (get >>= f) (get >>= g) := fun s hs => hf s hs s hs

/-- Both change the state and give a value. -/
theorem modifyGet {f : σ → α × σ} {g : σ → β × σ} (hinv : ∀ s, M.inv s → M.inv (f s).2)
    (h : ∀ s, g (M.erase s) = (φ (f s).1, M.erase (f s).2)) :
    Mirrors M φ (modifyGet f) (modifyGet g) := by
  intro s hs
  refine ⟨hinv s hs, ?_⟩
  show (Except.ok (g (M.erase s)).1, (g (M.erase s)).2) = _
  rw [h]
  rfl

theorem modify {f g : σ → σ} (hinv : ∀ s, M.inv s → M.inv (f s))
    (h : ∀ s, g (M.erase s) = M.erase (f s)) :
    Mirrors M id (modify f : EarlyM σ PUnit) (modify g) :=
  modifyGet hinv fun s => by rw [h]

/-- A choice that does not depend on markup. -/
theorem ite {p q : Prop} [Decidable p] [Decidable q] {x x' : EarlyM σ α} {y y' : EarlyM σ β}
    (hpq : q ↔ p) (hx : p → Mirrors M φ x y) (hx' : ¬ p → Mirrors M φ x' y') :
    Mirrors M φ (if p then x else x') (if q then y else y') := by
  by_cases hp : p
  · rw [if_pos hp, if_pos (hpq.mpr hp)]
    exact hx hp
  · rw [if_neg hp, if_neg (mt hpq.mp hp)]
    exact hx' hp

/-- Lists of the same length are gone through alike if their elements are. -/
theorem mapM {f : α → EarlyM σ γ} {g : β → EarlyM σ δ} {as : List α} {bs : List β}
    (h : List.Forall₂ (fun a b => Mirrors M ψ (f a) (g b)) as bs) :
    Mirrors M (List.map ψ) (as.mapM f) (bs.mapM g) := by
  induction h with
  | nil => exact .pure rfl
  | cons hab _ ih =>
    rw [List.mapM_cons, List.mapM_cons]
    exact hab.bind fun _ => ih.bind fun _ => .pure rfl

/-- One list is gone through alike. -/
theorem mapM_same {f : α → EarlyM σ γ} {g : α → EarlyM σ δ} (h : ∀ a, Mirrors M ψ (f a) (g a))
    (as : List α) : Mirrors M (List.map ψ) (as.mapM f) (as.mapM g) :=
  mapM (List.forall₂_same.mpr fun a _ => h a)

/-- The same for the sake of the effects only, and without markup in the elements. -/
theorem forM {f : α → EarlyM σ PUnit} {g : β → EarlyM σ PUnit}
    (h : ∀ a, Mirrors M id (f a) (g (φ a))) (as : List α) :
    Mirrors M id (as.forM f) ((as.map φ).forM g) := by
  induction as with
  | nil => exact .pure rfl
  | cons a as ih => exact (h a).bind fun _ => ih

/-- The same with a value that is passed along and has no markup. -/
theorem foldlM {f g : γ → α → EarlyM σ γ} (h : ∀ c a, Mirrors M id (f c a) (g c a)) (as : List α)
    (c : γ) : Mirrors M id (as.foldlM f c) (as.foldlM g c) := by
  induction as generalizing c with
  | nil => exact .pure rfl
  | cons a as ih =>
    rw [List.foldlM_cons, List.foldlM_cons]
    exact (h c a).bind fun c => ih c

end Mirrors

/-! ### Frames -/

/-- The stack with all items changed. -/
def Stack.map (f : α → β) (s : Stack α) : Stack β := ⟨s.items.map f⟩

/-- The state of a loop without markup. -/
def Iteration.erase (i : Iteration) : Iteration := { i with value := i.value.erase }

namespace Frame

/-- The frame without markup. -/
def erase (f : Frame) : Frame :=
  { f with
    iterations := f.iterations.map Iteration.erase
    captures := f.captures.map (Table.map Styled.erase)
    arguments := f.arguments.map Styled.erase }

variable (f : Frame)

theorem argument_erase (i : Nat) : f.erase.argument i = (f.argument i).erase := by
  unfold argument erase
  rw [List.getElem?_map]
  cases f.arguments[i]? <;> rfl

theorem iteration?_erase (level : Nat) :
    f.erase.iteration? level = (f.iteration? level).map Iteration.erase :=
  List.getElem?_map ..

/-- What a group took, in the innermost captures that know it. -/
theorem capture?_erase (name : String) :
    f.erase.capture? name = (f.capture? name).map Styled.erase := by
  unfold capture? Stack.peek? erase Stack.map
  rw [List.head?_map]
  cases f.captures.items.head? with
  | none => rfl
  | some t => exact Table.find?_map ..

end Frame

/-- The frames without markup. -/
def FrameStack.erase (s : FrameStack) : FrameStack :=
  { top := s.top.erase, below := s.below.map Frame.erase }

/-! ### Registers -/

namespace Registers

/-- The registers without markup. -/
def erase (r : Registers) : Registers := ⟨r.scopes.map (Table.map Styled.erase)⟩

variable (r : Registers)

private theorem scope_erase (id : ScopeId) : r.erase.scope id = (r.scope id).map Styled.erase := by
  unfold scope erase
  rw [List.getElem?_map]
  cases r.scopes[id]? <;> rfl

theorem find?_erase (id : ScopeId) (name : String) :
    r.erase.find? id name = (r.find? id name).map Styled.erase := by
  unfold find?
  rw [scope_erase, Table.find?_map]

/-- A register is set in a scope without markup. -/
theorem erase_set (id : ScopeId) (name : String) (value : Styled) :
    (r.set id name value).erase = r.erase.set id name value.erase := by
  unfold set
  rw [scope_erase, ← Table.map_insert]
  unfold erase
  rw [List.map_set]

/-- A scope is copied without markup. -/
private theorem erase_fork (id : ScopeId) :
    r.erase.fork id = ((r.fork id).1, (r.fork id).2.erase) := by
  unfold fork
  rw [scope_erase]
  unfold erase
  simp only [List.length_map, List.map_append, List.map_cons, List.map_nil]

end Registers

/-! ### Evaluations -/

namespace EvalState

/-- The state without markup. -/
def erase (s : EvalState) : EvalState :=
  { s with world := s.world.erase, registers := s.registers.erase }

/-- The states of evaluations.  All functions stay standard or softcode. -/
def mirror : Mirror EvalState where
  erase := erase
  inv s := s.functions.Standard

end EvalState

namespace Mirrors

variable {φ : α → β}

/-- Both are cancelled at the same look. -/
theorem checkCancelled : Mirrors EvalState.mirror id EvalM.checkCancelled EvalM.checkCancelled := by
  refine get_bind fun s _ => ?_
  have hsame : (EvalState.mirror.erase s).cancelAfter = s.cancelAfter := rfl
  rw [hsame]
  split
  · exact .pure rfl
  · exact .throw _
  · exact .modify (fun _ hs => hs) fun _ => rfl

theorem ask : Mirrors EvalState.mirror World.erase EvalM.ask EvalM.ask :=
  checkCancelled.bind fun _ => get_bind fun _ _ => .pure rfl

theorem act {f g : World → World} (h : ∀ w : World, g w.erase = (f w).erase) :
    Mirrors EvalState.mirror id (EvalM.act f) (EvalM.act g) := by
  refine checkCancelled.bind fun _ => modify (fun _ hs => hs) fun s => ?_
  exact congrArg (fun world : World => ({ s.erase with world } : EvalState)) (h s.world)

/-- Both run an operation on the world that does not depend on markup. -/
theorem inWorld {x y : ExceptT ScriptError (StateM World) α} (h : World.ChangeErases x y) :
    Mirrors EvalState.mirror id (EvalM.inWorld x) (EvalM.inWorld y) := by
  refine checkCancelled.bind fun _ => modifyGet (fun _ hs => hs) fun s => ?_
  have hrun : y.run.run (EvalState.mirror.erase s).world
      = ((x.run.run s.world).1, (x.run.run s.world).2.erase) := h s.world
  rw [hrun]
  rfl

/-- Both set a lock, whose key is read from a plain text. -/
theorem setLock (d : Dbref) (kind : LockKind) (text : String) (setter : Dbref) :
    Mirrors EvalState.mirror id (EvalM.inLocks (LockService.set d kind text setter))
      (EvalM.inLocks (LockService.set d kind text setter)) := by
  refine modifyGet (fun _ hs => hs) fun s => ?_
  have hrun := LockService.run_set_erase s.world s.locks d kind text setter
  dsimp only [EvalState.mirror, EvalState.erase]
  rw [hrun]
  rfl

theorem notify (target sender : Dbref) (message : Styled) :
    Mirrors EvalState.mirror id (EvalM.notify target sender message)
      (EvalM.notify target sender message.erase) :=
  act fun w => (w.erase_notify target sender message).symm

/-- A count goes up in both, under the same ceiling. -/
theorem count {bump : EvalState → EvalState} {counted : EvalState → Nat} {ceiling : Nat}
    {kind : LimitKind} (hfunctions : ∀ s, (bump s).functions = s.functions)
    (hbump : ∀ s, bump s.erase = (bump s).erase) (hcounted : ∀ s, counted s.erase = counted s) :
    Mirrors EvalState.mirror id (EvalM.count bump counted ceiling kind)
      (EvalM.count bump counted ceiling kind) := by
  refine Mirrors.bind (modify (fun s hs => ?_) hbump) fun _ => get_bind fun s _ =>
    .ite ?_ (fun _ => .throw _) fun _ => .pure rfl
  · show (bump s).functions.Standard
    rw [hfunctions]
    exact hs
  · show ceiling < counted s.erase ↔ ceiling < counted s
    rw [hcounted]

theorem countInvocation (l : Limits) :
    Mirrors EvalState.mirror id (EvalM.countInvocation l) (EvalM.countInvocation l) :=
  count (fun _ => rfl) (fun _ => rfl) fun _ => rfl

theorem countNode (l : Limits) :
    Mirrors EvalState.mirror id (EvalM.countNode l) (EvalM.countNode l) :=
  count (fun _ => rfl) (fun _ => rfl) fun _ => rfl

/-- Both enter a call, as deep as its frame says. -/
theorem enter (l : Limits) (frame : Frame) (name : String) :
    Mirrors EvalState.mirror Frame.erase (EvalM.enter l frame name)
      (EvalM.enter l frame.erase name) := by
  intro s hs
  rw [EvalM.run_enter, EvalM.run_enter]
  -- How deep a call is, and how often a name occurs, has nothing to do with marked text.
  have hdepth : (frame.erase.enter name).depth = (frame.enter name).depth := rfl
  have hrecursion : (frame.erase.enter name).recursionOf name
      = (frame.enter name).recursionOf name := rfl
  rw [hdepth, hrecursion]
  split
  · exact ⟨hs, rfl⟩
  split <;> exact ⟨hs, rfl⟩

/-- Both make a new register scope. -/
theorem localize (frame : Frame) :
    Mirrors EvalState.mirror Frame.erase (EvalM.localize frame) (EvalM.localize frame.erase) := by
  refine modifyGet (fun _ hs => hs) fun s => ?_
  have hfork : s.registers.erase.fork frame.registers
      = ((s.registers.fork frame.registers).1, (s.registers.fork frame.registers).2.erase) :=
    s.registers.erase_fork frame.registers
  -- Scopes are numbered, so the new one has the same number in both.
  show (({ frame.erase with registers := (s.registers.erase.fork frame.registers).1 } : Frame),
    ({ s.erase with registers := (s.registers.erase.fork frame.registers).2 } : EvalState)) = _
  rw [hfork]
  rfl

/-- The same for a frame that is known to be the other without markup. -/
theorem localize_of_eq {frame frame' : Frame} (h : frame' = frame.erase) :
    Mirrors EvalState.mirror Frame.erase (EvalM.localize frame) (EvalM.localize frame') :=
  h ▸ localize frame

theorem newLoop : Mirrors EvalState.mirror id EvalM.newLoop EvalM.newLoop :=
  modifyGet (fun _ hs => hs) fun _ => rfl

/-- Both use the same cache of patterns, which has no markup. -/
theorem withPatterns {x : StateM PatternCache α} {y : StateM PatternCache β} (h : y = φ <$> x) :
    Mirrors EvalState.mirror φ (EvalM.withPatterns x) (EvalM.withPatterns y) := by
  subst h
  exact modifyGet (fun _ hs => hs) fun _ => rfl

/-- Locks are texts without markup. -/
theorem passesLock (kind : LockKind) (gated unlocker : Dbref) :
    Mirrors EvalState.mirror id (EvalM.passesLock kind gated unlocker)
      (EvalM.passesLock kind gated unlocker) := by
  refine modifyGet (fun _ hs => hs) fun s => ?_
  have hsame : (EvalState.mirror.erase s).world.passesAt = s.world.passesAt :=
    s.world.passesAt_erase
  rw [hsame]
  rfl

end Mirrors

end Softcode
