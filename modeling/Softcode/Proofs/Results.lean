namespace Softcode

/-!
# Results that may be errors

A computation that gives a result went through all of its steps.  These lemmas take it apart.  One
that works in place goes through its steps too, and what it has changed stays if a later step fails.
-/

variable {ε σ α β : Type}

/-- A computation of two steps gives a result if both steps do. -/
theorem bind_eq_ok {x : Except ε α} {f : α → Except ε β} {b : β} :
    x >>= f = .ok b ↔ ∃ a, x = .ok a ∧ f a = .ok b := by
  cases x with
  | error e => simp [bind, Except.bind]
  | ok a => simp [bind, Except.bind]

/-- A result is what is left when errors are forgotten. -/
theorem toOption_eq_some {x : Except ε α} {a : α} : x.toOption = some a ↔ x = .ok a := by
  cases x with
  | error e => simp [Except.toOption]
  | ok a' => simp [Except.toOption]

/-! ### Computations in place -/

/-- What is asked for is the state. -/
theorem run_get_bind (f : σ → ExceptT ε (StateM σ) α) (s : σ) :
    (get >>= f).run.run s = (f s).run.run s := rfl

/-- A change gives its value to what follows, and the new state. -/
theorem run_modifyGet_bind (g : σ → β × σ) (f : β → ExceptT ε (StateM σ) α) (s : σ) :
    (modifyGet g >>= f).run.run s = (f (g s).1).run.run (g s).2 := rfl

end Softcode
