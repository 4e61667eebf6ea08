import Softcode.Pattern.Cache
import Softcode.Proofs.World.Sound

namespace Softcode.PatternCache

/-!
# Patterns seen through a cache

Look-ups of patterns go through a cache that they fill.  What a cache keeps is always what the
pattern would be made ready to now, so a computation that uses the cache only for look-ups gives the
same value whatever has been looked up before:

* `PatternCache.Used.faithful` — whatever has been looked up, the cache keeps nothing else;
* `PatternCache.Answers` — a computation whose value does not depend on such a cache;
* `PatternCache.answers_ready` — looking up a pattern is one of them.
-/

open Relation

variable {α β : Type} {cache : PatternCache} {p : Pattern} {m : Matcher}

/-! ### What a cache keeps -/

/-- One look-up: of any pattern, with any number of patterns that may be kept, and whichever of them
    has to go. -/
def LooksUp (cache cache' : PatternCache) : Prop :=
  ∃ p capacity victim, cache' = (cache.ready p capacity victim).2

/-- A cache that was empty and has been used for look-ups only. -/
def Used (cache : PatternCache) : Prop := ReflTransGen LooksUp {} cache

/-- Is all that is kept what its pattern is made ready to? -/
def Faithful (cache : PatternCache) : Prop := ∀ e ∈ cache.entries, e.1.compile? = some e.2

/-- To keep what a pattern is made ready to leaves the cache faithful. -/
theorem Faithful.keep (h : cache.Faithful) (hm : p.compile? = some m) (capacity victim : Nat) :
    (cache.keep p m capacity victim).Faithful := by
  -- To insert a faithful entry is harmless, whatever has been thrown out before.
  have hinsert : ∀ cache' : PatternCache, cache'.Faithful → Faithful (cache'.insert p m) := by
    intro cache' hcache' e he
    rcases Table.mem_insert he with rfl | he
    · exact hm
    · exact hcache' e he
  unfold PatternCache.keep
  by_cases hnone : capacity = 0
  · rw [if_pos hnone]
    exact h
  rw [if_neg hnone]
  by_cases hfull : capacity ≤ cache.size
  · rw [if_pos hfull]
    refine hinsert _ fun e he => ?_
    exact h e (List.mem_of_mem_eraseIdx he)
  · rw [if_neg hfull]
    exact hinsert cache h

/-- **A look-up gives what the pattern is made ready to,** and leaves the cache faithful. -/
theorem Faithful.ready (h : cache.Faithful) (p : Pattern) (capacity victim : Nat) :
    (cache.ready p capacity victim).1 = p.compile? ∧
      (cache.ready p capacity victim).2.Faithful := by
  unfold PatternCache.ready
  cases hfind : cache.find? p with
  | some m =>
    have hm : p.compile? = some m := h (p, m) (Table.mem_of_find? hfind)
    exact ⟨hm.symm, h⟩
  -- A pattern is kept only with what it compiles to.
  | none =>
    cases hm : p.compile? with
    | none => exact ⟨rfl, h⟩
    | some m => exact ⟨rfl, h.keep hm capacity victim⟩

/-- Whatever has been looked up, all that is kept is what its pattern is made ready to. -/
theorem Used.faithful (h : cache.Used) : cache.Faithful := by
  induction h with
  | refl =>
    intro e he
    cases he
  | tail _ hstep ih =>
    obtain ⟨p, capacity, victim, rfl⟩ := hstep
    exact (ih.ready p capacity victim).2

/-! ### Computations that look up patterns -/

/-- Does the computation give `a` from every faithful cache, and does it leave the cache
    faithful? -/
def Answers (x : StateM PatternCache α) (a : α) : Prop :=
  ∀ cache : PatternCache, cache.Faithful → (x.run cache).1 = a ∧ (x.run cache).2.Faithful

namespace Answers

/-- A value does not depend on the cache. -/
theorem pure (a : α) : Answers (Pure.pure a) a := fun _ h => ⟨rfl, h⟩

/-- Two steps do not depend on the cache if none of them does. -/
theorem bind {x : StateM PatternCache α} {a : α} {f : α → StateM PatternCache β} {b : β}
    (hx : Answers x a) (hf : Answers (f a) b) : Answers (x >>= f) b := by
  intro cache hcache
  obtain ⟨hvalue, hleft⟩ := hx cache hcache
  have hrun : (x >>= f).run cache = (f (x.run cache).1).run (x.run cache).2 := rfl
  rw [hrun, hvalue]
  exact hf _ hleft

/-- One step for each element of a list does not depend on it if no step does. -/
theorem mapM {f : α → StateM PatternCache β} {g : α → β} (hf : ∀ a, Answers (f a) (g a))
    (as : List α) : Answers (as.mapM f) (as.map g) := by
  induction as with
  | nil => exact .pure []
  | cons a as ih =>
    rw [List.mapM_cons, List.map_cons]
    exact (hf a).bind (ih.bind (.pure _))

end Answers

/-- **The answer of a look-up is what the pattern is made ready to.** -/
theorem answers_ready (p : Pattern) (capacity : Nat) :
    Answers (modifyGet (·.ready p capacity)) p.compile? :=
  fun _ hcache => hcache.ready p capacity 0

end Softcode.PatternCache
