import Softcode.Function.Standard
import Softcode.Proofs.Text.Runs

namespace Softcode

/-!
# One evaluation that follows another

Two evaluations of the same thing, which differ in their ceilings or in how many texts can nest, are
compared step by step.  The second `Follows` the first if they do exactly the same, with one
exception: if the first ends early for a reason that is forgiven, nothing is said about the second.
At the same time the relation says of the first run which states it goes through and for which
reasons it may end early; these are the `Terms`.

The relation is closed under sequencing, choice and loops, so each part of the evaluator has one
lemma.
-/

/-- A computation that acts on a state and may end early. -/
abbrev EarlyM (σ : Type) := ExceptT Abort (StateM σ)

/-- What two runs are compared on. -/
structure Terms (σ : Type) where
  /-- What holds in every state of the first run. -/
  inv : σ → Prop
  /-- Why the first run may end early. -/
  stops : Abort → Prop
  /-- The reasons after which nothing is said about the second run. -/
  forgives : Abort → Prop

variable {σ α β γ : Type} {T : Terms σ}

/-- The ends of two runs that agree, or of which the first is forgiven. -/
inductive Terms.Allows (T : Terms σ) : Except Abort α × σ → Except Abort α × σ → Prop
  | done (a : α) (s : σ) (hinv : T.inv s) : Allows T (.ok a, s) (.ok a, s)
  | stopped (e : Abort) (s : σ) (hinv : T.inv s) (hstops : T.stops e) :
      Allows T (.error e, s) (.error e, s)
  | forgiven (e : Abort) (s : σ) (hinv : T.inv s) (hstops : T.stops e) (hforgives : T.forgives e)
      (other : Except Abort α × σ) : Allows T (.error e, s) other

namespace Terms.Allows

variable {r r' : Except Abort α × σ}

/-- The first run ends in the terms. -/
theorem inv (h : T.Allows r r') : T.inv r.2 := by
  cases h <;> assumption

/-- The first run ends early only for a reason that the terms allow. -/
theorem stops (h : T.Allows r r') {e : Abort} (he : r.1 = .error e) : T.stops e := by
  cases h <;> cases he <;> assumption

/-- Unless the first run is forgiven, the second ends in the same way. -/
theorem eq (h : T.Allows r r') (hforgives : ∀ e, r.1 = .error e → ¬ T.forgives e) : r' = r := by
  cases h with
  | done | stopped => rfl
  | forgiven e s _ _ he => exact absurd he (hforgives e rfl)

end Terms.Allows

/-- From every state in the terms, does the second computation do what the first does? -/
def Follows (T : Terms σ) (x y : EarlyM σ α) : Prop :=
  ∀ s, T.inv s → T.Allows (x.run.run s) (y.run.run s)

/-- Does the computation give only such values? -/
def EarlyM.Gives (x : EarlyM σ α) (P : α → Prop) : Prop :=
  ∀ s a s', x.run.run s = (.ok a, s') → P a

/-- How a sequence runs: its second part only if the first gave a value. -/
theorem EarlyM.run_bind (x : EarlyM σ α) (f : α → EarlyM σ β) (s : σ) :
    (x >>= f).run.run s = match x.run.run s with
      | (.ok a, s) => (f a).run.run s
      | (.error e, s) => (.error e, s) := by
  rw [ExceptT.run_bind, StateT.run_bind]
  rcases x.run.run s with ⟨_ | _, _⟩ <;> rfl

namespace Follows

/-! ### Sequences, choices and loops -/

/-- A value is given by both. -/
protected theorem pure (a : α) : Follows T (pure a) (pure a) := fun s hs => .done a s hs

protected theorem throw {e : Abort} (he : T.stops e) :
    Follows T (throw e : EarlyM σ α) (throw e) := fun s hs => .stopped e s hs he

/-- A sequence follows another if each part does.  The second part may depend on what the first
    gives. -/
theorem bind_of {P : α → Prop} {x y : EarlyM σ α} {f g : α → EarlyM σ β} (hx : Follows T x y)
    (hP : x.Gives P) (hf : ∀ a, P a → Follows T (f a) (g a)) : Follows T (x >>= f) (y >>= g) := by
  intro s hs
  have hrun := hx s hs
  have hgives := hP s
  rw [EarlyM.run_bind, EarlyM.run_bind]
  generalize x.run.run s = r at hrun hgives
  generalize y.run.run s = r' at hrun
  -- Only if both first parts gave a value does either second part run, and then from the same
  -- state.
  cases hrun with
  | done a s' hs' => exact hf a (hgives a s' rfl) s' hs'
  | stopped e s' hs' he => exact .stopped e s' hs' he
  | forgiven e s' hs' he hforgives => exact .forgiven e s' hs' he hforgives _

/-- The same, whatever the first part gives. -/
protected theorem bind {x y : EarlyM σ α} {f g : α → EarlyM σ β} (hx : Follows T x y)
    (hf : ∀ a, Follows T (f a) (g a)) : Follows T (x >>= f) (y >>= g) :=
  hx.bind_of (fun _ _ _ _ => trivial) fun a _ => hf a

/-- What follows a look at the state may depend on that the state is in the terms. -/
theorem get_bind {f g : σ → EarlyM σ β} (hf : ∀ s, T.inv s → Follows T (f s) (g s)) :
    Follows T (get >>= f) (get >>= g) := fun s hs => hf s hs s hs

theorem modify {f : σ → σ} (hf : ∀ s, T.inv s → T.inv (f s)) :
    Follows T (modify f : EarlyM σ PUnit) (modify f) := fun s hs => .done () (f s) (hf s hs)

theorem modifyGet {f : σ → α × σ} (hf : ∀ s, T.inv s → T.inv (f s).2) :
    Follows T (modifyGet f : EarlyM σ α) (modifyGet f) := fun s hs =>
      .done (f s).1 (f s).2 (hf s hs)

/-- Lists of the same length are gone through alike if their elements are. -/
theorem mapM {f : α → EarlyM σ γ} {g : β → EarlyM σ γ} {as : List α} {bs : List β}
    (h : List.Forall₂ (fun a b => Follows T (f a) (g b)) as bs) :
    Follows T (as.mapM f) (bs.mapM g) := by
  induction h with
  | nil => exact .pure []
  | cons hab _ ih =>
    rw [List.mapM_cons, List.mapM_cons]
    exact hab.bind fun c => ih.bind fun cs => .pure (c :: cs)

/-- One list is gone through alike. -/
theorem mapM_same {f g : α → EarlyM σ γ} (h : ∀ a, Follows T (f a) (g a)) (as : List α) :
    Follows T (as.mapM f) (as.mapM g) :=
  mapM (List.forall₂_same.mpr fun a _ => h a)

/-- The same for the sake of the effects only. -/
theorem forM {f g : α → EarlyM σ PUnit} (h : ∀ a, Follows T (f a) (g a)) (as : List α) :
    Follows T (as.forM f) (as.forM g) := by
  induction as with
  | nil => exact .pure ()
  | cons a as ih => exact (h a).bind fun _ => ih

/-- The same with a value that is passed along. -/
theorem foldlM {f g : β → α → EarlyM σ β} (h : ∀ b a, Follows T (f b a) (g b a)) (as : List α)
    (b : β) : Follows T (as.foldlM f b) (as.foldlM g b) := by
  induction as generalizing b with
  | nil => exact .pure b
  | cons a as ih =>
    rw [List.foldlM_cons, List.foldlM_cons]
    exact (h b a).bind fun b => ih b

end Follows

/-! ### Functions -/

namespace Functions

/-- Is each function a standard function or softcode? -/
def Standard (fs : Functions) : Prop :=
  ∀ name f, fs.find? name = some f → f.isUser ∨ f ∈ functionList

/-- What holds of softcode and of the bodies of the standard functions holds of each body. -/
theorem Standard.body {fs : Functions} (h : fs.Standard) {P : FunctionBody → Prop}
    (huser : ∀ object attr, P (.user object attr)) (hlist : ∀ f ∈ functionList, P f.body)
    {name : String} {f : Function} (hf : fs.find? name = some f) : P f.body := by
  rcases h name f hf with hf | hf
  · unfold Function.isUser at hf
    split at hf
    · rename_i hbody
      rw [hbody]
      exact huser _ _
    · exact absurd hf (by simp)
  · exact hlist f hf

/-- A standard function or softcode may be registered. -/
theorem Standard.register {fs : Functions} (h : fs.Standard) {f : Function}
    (hf : f.isUser ∨ f ∈ functionList) : (fs.register f).Standard := by
  intro name g hg
  rw [Functions.register, Table.find?_insert] at hg
  split at hg
  · obtain rfl := Option.some.inj hg
    exact hf
  · exact h name g hg

/-- Any function may be removed. -/
theorem Standard.remove {fs : Functions} (h : fs.Standard) (name : String) :
    (fs.remove name).Standard := by
  intro name' g hg
  rw [Functions.remove, Table.find?_erase] at hg
  split at hg
  · exact absurd hg (by simp)
  · exact h name' g hg

/-- The functions of a new engine are standard. -/
theorem standard_standardFunctions : standardFunctions.Standard := by
  have hempty : Standard {} := fun _ _ h => absurd h.symm (Option.some_ne_none _)
  have hfold : ∀ (list : List Function) (fs : Functions), (∀ f ∈ list, f ∈ functionList) →
      fs.Standard → (list.foldl Functions.register fs).Standard := by
    intro list
    induction list with
    | nil => exact fun _ _ h => h
    | cons f list ih =>
      intro fs hlist hfs
      obtain ⟨hf, hlist⟩ := List.forall_mem_cons.mp hlist
      -- Registering goes through the list from the left, so the table grows ahead of the induction.
      exact ih _ hlist (hfs.register (.inr hf))
  exact hfold functionList {} (fun _ hf => hf) hempty

end Functions

/-! ### Ceilings -/

/-- Is each ceiling at most the other? -/
structure Limits.AtMost (l l' : Limits) : Prop where
  depth : l.depth ≤ l'.depth
  recursion : l.recursion ≤ l'.recursion
  invocations : l.invocations ≤ l'.invocations
  nodes : l.nodes ≤ l'.nodes

/-- Why an evaluation may end early: it passed a ceiling, or somebody wanted it to end. -/
def Abort.IsEnd (cancellable : Prop) (e : Abort) : Prop :=
  e ≠ .exhausted ∧ (e = .cancelled → cancellable)

/-- To pass a ceiling is a reason to end. -/
private theorem Abort.isEnd_limit (cancellable : Prop) (kind : LimitKind) :
    IsEnd cancellable (.limit kind) :=
  ⟨by simp, by simp⟩

/-- The terms of evaluations: all functions stay standard or softcode. -/
def EvalState.terms (cancellable : Prop) (forgives : Abort → Prop) : Terms EvalState where
  inv s := (s.cancelAfter.isSome → cancellable) ∧ s.functions.Standard
  stops := Abort.IsEnd cancellable
  forgives := forgives

/-- May an evaluation with the ceilings `l'` follow one with the ceilings `l`?  They are the same,
    or they are wider and passing a ceiling is forgiven. -/
structure Limits.Widen (forgives : Abort → Prop) (l l' : Limits) : Prop extends l.AtMost l' where
  forgiven : l = l' ∨ ∀ kind, forgives (.limit kind)

/-- Each ceiling for itself is the same, or passing it is forgiven. -/
private theorem Limits.Widen.same_or_forgiven {forgives : Abort → Prop} {l l' : Limits}
    (h : l.Widen forgives l') (ceiling : Limits → Nat) (kind : LimitKind) :
    ceiling l = ceiling l' ∨ forgives (.limit kind) :=
  h.forgiven.imp (congrArg ceiling) fun hall => hall kind

theorem Limits.Widen.refl (forgives : Abort → Prop) (l : Limits) : l.Widen forgives l :=
  ⟨⟨Nat.le_refl _, Nat.le_refl _, Nat.le_refl _, Nat.le_refl _⟩, .inl rfl⟩

/-- A count is compared with a ceiling: the first run ends, which is forgiven or done by the second
    too, or both go on. -/
theorem Terms.Allows.ceiling {c c' n : Nat} {kind : LimitKind} {s : σ} {r r' : Except Abort α × σ}
    (hs : T.inv s) (hstops : T.stops (.limit kind)) (hc : c ≤ c')
    (hforgiven : c = c' ∨ T.forgives (.limit kind)) (hr : n ≤ c → T.Allows r r') :
    T.Allows (if c < n then (.error (.limit kind), s) else r)
      (if c' < n then (.error (.limit kind), s) else r') := by
  by_cases hn : c < n
  · rw [if_pos hn]
    -- Under the same ceiling the second run ends here too.
    rcases hforgiven with rfl | hforgives
    · rw [if_pos hn]
      exact .stopped _ s hs hstops
    · exact .forgiven _ s hs hstops hforgives _
  · rw [if_neg hn, if_neg (by omega)]
    exact hr (by omega)

namespace EvalM

/-- A call is entered unless that would be too deep, or too deep in itself. -/
theorem run_enter (l : Limits) (frame : Frame) (name : String) (s : EvalState) :
    (EvalM.enter l frame name).run.run s
      = if l.depth < (frame.enter name).depth then (.error (.limit .depth), s)
        else if l.recursion < (frame.enter name).recursionOf name then
          (.error (.limit .recursion), s)
        else (.ok (frame.enter name), s) := by
  simp only [EvalM.enter]
  split
  · rfl
  split <;> rfl

/-- A count goes up before it is compared with its ceiling. -/
theorem run_count (bump : EvalState → EvalState) (counted : EvalState → Nat) (ceiling : Nat)
    (kind : LimitKind) (s : EvalState) :
    (count bump counted ceiling kind).run.run s
      = if ceiling < counted (bump s) then (.error (.limit kind), bump s)
        else (.ok (), bump s) := by
  change (if ceiling < counted (bump s) then _ else pure () : EvalM Unit).run.run (bump s) = _
  split <;> rfl

/-- A call that has been entered is at most as deep as the ceiling says. -/
theorem gives_enter (l : Limits) (frame : Frame) (name : String) :
    EarlyM.Gives (EvalM.enter l frame name) fun inner =>
      inner = frame.enter name ∧ frame.depth + 1 ≤ l.depth := by
  intro s inner s' hrun
  have hdepth : (frame.enter name).depth = frame.depth + 1 := rfl
  rw [run_enter] at hrun
  split at hrun
  · cases hrun
  split at hrun
  · cases hrun
  · cases hrun
    exact ⟨rfl, by omega⟩

/-- A frame with a register scope of its own is the same otherwise. -/
theorem gives_localize (frame : Frame) : EarlyM.Gives (EvalM.localize frame) fun inner =>
    inner = { frame with registers := inner.registers } := by
  intro s inner s' hrun
  cases hrun
  rfl

end EvalM

namespace Follows

variable {cancellable : Prop} {forgives : Abort → Prop} {l l' : Limits}

/-- One look fewer is left, or none was and the run ends. -/
theorem checkCancelled :
    Follows (EvalState.terms cancellable forgives) EvalM.checkCancelled EvalM.checkCancelled := by
  refine get_bind fun s hs => ?_
  split
  · exact .pure ()
  · -- Cancelling ends both, and only if it can happen at all.
    rename_i hzero
    exact .throw ⟨by simp, fun _ => hs.1 (by rw [hzero]; rfl)⟩
  · rename_i more hmore
    refine modify fun t ht => ⟨fun _ => hs.1 (by rw [hmore]; rfl), ht.2⟩

theorem ask : Follows (EvalState.terms cancellable forgives) EvalM.ask EvalM.ask :=
  checkCancelled.bind fun _ => get_bind fun _ _ => .pure _

theorem act (f : World → World) :
    Follows (EvalState.terms cancellable forgives) (EvalM.act f) (EvalM.act f) := by
  refine checkCancelled.bind fun _ => modify ?_
  exact fun _ hs => hs

theorem inWorld (x : ExceptT ScriptError (StateM World) α) :
    Follows (EvalState.terms cancellable forgives) (EvalM.inWorld x) (EvalM.inWorld x) :=
  checkCancelled.bind fun _ => modifyGet fun _ hs => hs

theorem inLocks (x : ExceptT ScriptError (StateM LockService) α) :
    Follows (EvalState.terms cancellable forgives) (EvalM.inLocks x) (EvalM.inLocks x) :=
  modifyGet fun _ hs => hs

theorem notify (target sender : Dbref) (message : Styled) :
    Follows (EvalState.terms cancellable forgives) (EvalM.notify target sender message)
      (EvalM.notify target sender message) :=
  act _

/-- A count goes up in both, and its ceilings are compared. -/
theorem count {bump : EvalState → EvalState} {counted : EvalState → Nat} {c c' : Nat}
    {kind : LimitKind} (hcancel : ∀ s, (bump s).cancelAfter = s.cancelAfter)
    (hfunctions : ∀ s, (bump s).functions = s.functions) (hc : c ≤ c')
    (hforgiven : c = c' ∨ forgives (.limit kind)) :
    Follows (EvalState.terms cancellable forgives) (EvalM.count bump counted c kind)
      (EvalM.count bump counted c' kind) := by
  intro s hs
  -- Counting touches neither the functions nor the cancelling.
  have hs : (EvalState.terms cancellable forgives).inv (bump s) := by
    refine ⟨?_, ?_⟩
    · rw [hcancel]
      exact hs.1
    · rw [hfunctions]
      exact hs.2
  rw [EvalM.run_count, EvalM.run_count]
  exact Terms.Allows.ceiling hs (Abort.isEnd_limit _ _) hc hforgiven fun _ => .done () (bump s) hs

theorem countInvocation (h : l.Widen forgives l') :
    Follows (EvalState.terms cancellable forgives) (EvalM.countInvocation l)
      (EvalM.countInvocation l') :=
  count (fun _ => rfl) (fun _ => rfl) h.invocations
    (h.same_or_forgiven Limits.invocations .invocations)

theorem countNode (h : l.Widen forgives l') :
    Follows (EvalState.terms cancellable forgives) (EvalM.countNode l) (EvalM.countNode l') :=
  count (fun _ => rfl) (fun _ => rfl) h.nodes (h.same_or_forgiven Limits.nodes .nodes)

/-- Both enter a call, if its depth allows it. -/
theorem enter (h : l.Widen forgives l') (frame : Frame) (name : String) :
    Follows (EvalState.terms cancellable forgives) (EvalM.enter l frame name)
      (EvalM.enter l' frame name) := by
  intro s hs
  have hdepth := h.same_or_forgiven Limits.depth .depth
  have hrecursion := h.same_or_forgiven Limits.recursion .recursion
  rw [EvalM.run_enter, EvalM.run_enter]
  exact Terms.Allows.ceiling hs (Abort.isEnd_limit _ _) h.depth hdepth fun _ =>
    Terms.Allows.ceiling hs (Abort.isEnd_limit _ _) h.recursion hrecursion fun _ => .done _ s hs

theorem localize (frame : Frame) :
    Follows (EvalState.terms cancellable forgives) (EvalM.localize frame) (EvalM.localize frame) :=
  modifyGet fun _ hs => hs

theorem withPatterns (x : StateM PatternCache α) :
    Follows (EvalState.terms cancellable forgives) (EvalM.withPatterns x) (EvalM.withPatterns x) :=
  modifyGet fun _ hs => hs

theorem passesLock (kind : LockKind) (gated unlocker : Dbref) :
    Follows (EvalState.terms cancellable forgives) (EvalM.passesLock kind gated unlocker)
      (EvalM.passesLock kind gated unlocker) :=
  modifyGet fun _ hs => hs

theorem newLoop :
    Follows (EvalState.terms cancellable forgives) EvalM.newLoop EvalM.newLoop :=
  modifyGet fun _ hs => hs

end Follows

end Softcode
