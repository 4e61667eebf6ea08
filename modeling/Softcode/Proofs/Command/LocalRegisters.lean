import Softcode.Proofs.Command.Keeping
import Softcode.Proofs.Evaluation.Ceilings

namespace Softcode

/-!
# Local registers

Frames share register scopes, so softcode can set registers of whoever called it, unless it was
given a scope of its own.  A scope is never taken away, and only softcode whose frame has a scope
sets registers in it.  Every frame that a piece of softcode makes has the scope of its own frame or
a new one.  Hence softcode whose frame has none of the scopes that are there at some time leaves all
of these alone, whatever it reaches.

* `EvalState.Begins`, `kept_begins` — the scopes begin with certain ones, which expressions and
  messages leave alone in all frames that have none of them;
* `keepIn_begins` — commands do nothing more to registers;
* `isolated_registers` — the statement about local calls and actions.
-/

variable {α : Type} {base : List (Table String Styled)}

/-- Do the scopes begin with these ones? -/
def EvalState.Begins (base : List (Table String Styled)) (s : EvalState) : Prop :=
  base <+: s.registers.scopes

namespace EvalState.Begins

/-- Scopes that are there keep their numbers. -/
private theorem scope_eq {s t : EvalState} (h : t.Begins s.registers.scopes) {id : ScopeId}
    (hid : id < s.registers.scopes.length) : t.registers.scope id = s.registers.scope id := by
  obtain ⟨more, hmore⟩ := h
  unfold Registers.scope
  rw [← hmore, List.getElem?_append_left hid]

/-- A register is set in a scope that is not among these. -/
theorem set {s : EvalState} (h : s.Begins base) {id : ScopeId} (hid : base.length ≤ id)
    (name : String) (value : Styled) :
    Begins base { s with registers := s.registers.set id name value } := by
  obtain ⟨more, hmore⟩ := h
  show base <+: s.registers.scopes.set id _
  -- The scope that is set stands behind all of these.
  rw [← hmore, List.set_append_right id _ hid]
  exact List.prefix_append _ _

/-- A new scope comes after these. -/
theorem fork {s : EvalState} (h : s.Begins base) (id : ScopeId) :
    Begins base { s with registers := (s.registers.fork id).2 } :=
  h.trans (List.prefix_append _ _)

/-- The number of a new scope is none of theirs. -/
theorem length_le {s : EvalState} (h : s.Begins base) : base.length ≤ s.registers.scopes.length :=
  List.IsPrefix.length_le h

end EvalState.Begins

/-- **Expressions leave the scopes alone** that their frames do not have. -/
theorem kept_begins : KeptByMessages (EvalState.Begins base) fun id => base.length ≤ id where
  counters hs _ _ hregisters _ := by
    unfold EvalState.Begins
    rw [hregisters]
    exact hs
  locks hs _ _ _ := hs
  set hs _ hid name value := hs.set hid name value
  fork hs id := ⟨hs.fork id, hs.length_le⟩
  message hs _ _ _ := hs

/-! ### The standard commands -/

namespace CommandCall

variable {c : CommandCall}

/-- What changes the world changes no registers. -/
private theorem change_begins (x : ExceptT ScriptError (StateM World) α) (done : α → String) :
    Keeps (EvalState.Begins base) (c.change x done) := by
  have hchange : Keeps (EvalState.Begins base) (EvalM.inWorld x) :=
    kept_begins.checkCancelled.bind fun _ _ => .modifyGet fun _ hs => ⟨hs, trivial⟩
  refine hchange.bind fun result _ => ?_
  split
  · exact kept_begins.say _
  · exact kept_begins.say _

/-- Attributes are set without regard to registers. -/
private theorem setAttribute_begins : Keeps (EvalState.Begins base) c.setAttribute := by
  unfold setAttribute
  dsimp only
  split
  · exact kept_begins.say _
  refine (kept_begins.controlled? _).bind fun found _ => ?_
  split
  · split <;> exact change_begins _ _
  · exact .pure trivial

/-- Attributes are wiped without a look at the registers. -/
private theorem wipe_begins : Keeps (EvalState.Begins base) c.wipe := by
  unfold wipe
  refine (kept_begins.controlled? _).bind fun found _ => ?_
  split
  · exact change_begins _ _
  · exact .pure trivial

private theorem removeLock_begins (object : Dbref) :
    Keeps (EvalState.Begins base) (c.removeLock object) := by
  refine Keeps.bind (Keeps.modify fun s hs => ?_) fun _ _ => kept_begins.say _
  exact hs

/-- A lock is removed once its object is found. -/
private theorem clearLock_begins : Keeps (EvalState.Begins base) c.clearLock := by
  refine (kept_begins.controlled? _).bind fun found _ => ?_
  split
  · exact removeLock_begins _
  · exact .pure trivial

/-- Locks are stored without regard to registers. -/
private theorem setLock_begins : Keeps (EvalState.Begins base) c.setLock := by
  refine (kept_begins.controlled? _).bind fun found _ => ?_
  split
  · dsimp only
    split
    · exact removeLock_begins _
    rename_i d _ _
    -- The lock service has no part in the registers.
    have hset : Keeps (EvalState.Begins base) (EvalM.inLocks
        (LockService.set d c.lockKind c.args.right.plain c.executor)) :=
      .modifyGet fun _ hs => ⟨hs, trivial⟩
    refine hset.bind fun result _ => ?_
    split
    · exact kept_begins.say _
    · exact kept_begins.say _
  · exact .pure trivial

/-- Functions are no registers. -/
private theorem defineFunction_begins (name : String) :
    Keeps (EvalState.Begins base) (c.defineFunction name) := by
  unfold defineFunction
  split
  · exact kept_begins.say _
  split
  · exact kept_begins.say _
  refine (kept_begins.target? _).bind fun found _ => ?_
  split
  · refine Keeps.bind (Keeps.modify fun s hs => ?_) fun _ _ => kept_begins.say _
    exact hs
  · exact .pure trivial

/-- Functions are defined and removed without regard to registers. -/
private theorem function_begins : Keeps (EvalState.Begins base) c.function := by
  refine .get_bind fun s _ => ?_
  dsimp only
  split
  · exact kept_begins.say _
  split
  · split
    · exact kept_begins.say _
    · refine Keeps.bind (Keeps.modify fun s hs => ?_) fun _ _ => kept_begins.say _
      exact hs
  split
  · exact kept_begins.say _
  · exact defineFunction_begins _

end CommandCall

/-- No standard command sets a register by itself. -/
private theorem commandList_begins (call : CommandCall) :
    ∀ c ∈ commandList, Keeps (EvalState.Begins base) (c.body call) := by
  simp only [commandList, List.forall_mem_cons]
  exact ⟨kept_begins.notify _ _ _, kept_begins.pemit, kept_begins.emit,
    CommandCall.setAttribute_begins, CommandCall.setLock_begins, CommandCall.clearLock_begins,
    CommandCall.wipe_begins, CommandCall.function_begins, by simp⟩

/-- **Commands leave the scopes alone** that their frames do not have. -/
theorem keepIn_begins : standardCommands.KeepIn (EvalState.Begins base) (fun id => base.length ≤ id)
    fun frame => base.length ≤ frame.registers where
  toKeptByMessages := kept_begins
  scope_of_may _ hframe := hframe
  named _ _ _ hframe := hframe
  localized _ _ _ _ _ _ inner _ := kept_begins.localize inner
  body c hc call _ _ := commandList_begins call c (mem_commandList hc)

/-! ### Local calls and actions -/

/-- **Local calls and actions leave all registers alone.**  Let an attribute be called with
    registers of its own, or let the action of an attribute that reacts to a command be run.
    Whatever the softcode in it does, and whether it comes to an end, passes a ceiling or is
    cancelled, each scope that there was when it began still has the registers that it had then.  So
    the caller's registers are as they were, and so are those of the frame in which the command was
    typed. -/
theorem isolated_registers (settings : Settings) (levels : Nat) (stack : FrameStack) :
    (∀ object path args (s : EvalState) (id : ScopeId), id < s.registers.scopes.length →
      ((settings.callAttribute (settings.evalText levels) object path args stack true).run.run
        s).2.registers.scope id = s.registers.scope id) ∧
    ∀ (r : Reaction) (s : EvalState) (id : ScopeId), id < s.registers.scopes.length →
      ((runReaction settings (runAction standardCommands settings levels) stack r).run.run
        s).2.registers.scope id = s.registers.scope id := by
  constructor
  · -- The called attribute has a scope of its own, which comes behind all that there are.
    intro object path args s id hid
    have hkeeps : Keeps (EvalState.Begins s.registers.scopes)
        (settings.callAttribute (settings.evalText levels) object path args stack true) :=
      kept_begins.callAttribute settings (kept_begins.evalText settings levels)
        (.inl rfl) object path args
    exact (hkeeps s (List.prefix_refl s.registers.scopes)).1.scope_eq hid
  · intro r s id hid
    have hkeeps : Keeps (EvalState.Begins s.registers.scopes)
        (runReaction settings (runAction standardCommands settings levels) stack r) :=
      keepIn_begins.runReaction (keepIn_begins.runCommandList levels)
        (fun inner _ => kept_begins.localize inner) stack
    exact (hkeeps s (List.prefix_refl s.registers.scopes)).1.scope_eq hid

/-- An attribute sets a register and calls itself until the calls nest too deep.  If the first call
    has registers of its own, those of the caller stay.  They stay too if the action of a command
    does all this.  Otherwise the attribute sets them. -/
theorem spill_isolated_registers :
    let e := Engine.ofAttribute { depth := 2 } "SPILL" "setq(0,in)[u(me/spill)]"
    let stack : FrameStack := ⟨{ executor := 1, enactor := 1, caller := 1 }, {}⟩
    let before : Table String Styled := Table.insert {} "0" (.ofString "out")
    let s := e.start before none
    let call (isolated : Bool) : EvalM Styled :=
      e.settings.callAttribute (e.settings.evalText 3) 1 ⟨["SPILL".toList]⟩ [] stack isolated
    let reaction : Reaction :=
      { object := 1, name := "GO", source := .own, captures := [], named := {}
        action := .ofString "think setq(0,in);think u(me/spill)" }
    let act : EvalM Unit :=
      runReaction e.settings (runAction standardCommands e.settings 3) stack reaction
    ((call true).run.run s).1.toOption = none ∧
      ((call true).run.run s).2.registers.scope 0 = before ∧
      (act.run.run s).1.toOption = none ∧ (act.run.run s).2.registers.scope 0 = before ∧
      ((call false).run.run s).2.registers.scope 0 ≠ before := by
  -- For any engine, so that this one is not evaluated here.
  have hcall : ∀ (e : Engine) levels stack object path args before,
      ((e.settings.callAttribute (e.settings.evalText levels) object path args stack true).run.run
        (e.start before none)).2.registers.scope 0 = before :=
    fun e levels stack object path args before =>
      (isolated_registers e.settings levels stack).1 object path args (e.start before none) 0
        Nat.zero_lt_one
  have hact : ∀ (e : Engine) levels stack r before,
      ((runReaction e.settings (runAction standardCommands e.settings levels) stack r).run.run
        (e.start before none)).2.registers.scope 0 = before :=
    fun e levels stack r before =>
      (isolated_registers e.settings levels stack).2 r (e.start before none) 0 Nat.zero_lt_one
  refine ⟨?_, hcall _ _ _ _ _ _ _, ?_, hact _ _ _ _ _, by decide +kernel⟩
  · rw [← Option.isNone_iff_eq_none]
    decide +kernel
  · rw [← Option.isNone_iff_eq_none]
    decide +kernel

end Softcode
