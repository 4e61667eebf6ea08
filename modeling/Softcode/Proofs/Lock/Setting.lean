import Softcode.Proofs.Lock.CacheView
import Softcode.Proofs.Lock.PinnedText
import Softcode.Proofs.Lock.Session
import Softcode.Proofs.Lock.Unwritable

namespace Softcode

/-!
# Setting a lock is all or nothing

A `LockService` stores a text and then puts the lock into the cache.  All that can fail comes
before, so a failure leaves no trace (`LockService.set_cases`).

The text that is stored is the pinned text, and it is checked as it is, not as it was given.  It is
read as the lock with its targets pinned (`LockExpr.eq_of_read_mapTargets`), whatever numbers and
times the objects have.  So all of its targets are `Pinned`: none is a name, and a number without a
time is that of no object.

* `read_pinText` — a pinned text that is a lock has pinned targets, and to pin it again changes
  nothing;
* `LockService.set_all_or_nothing` — a lock is not set and nothing is changed, or what is stored is
  safe and nothing else is changed.
-/

/-- Is the target a reference that pinning leaves as it is?  It gives a time, or it names no
    object. -/
def Target.Pinned (w : World) (t : Target) : Prop :=
  ∃ r, t = .ref r ∧ (r.isBare → w.object? r.number = none)

/-- To pin a pinned target changes nothing, whoever looks. -/
theorem Target.Pinned.pin_eq {w : World} {t : Target} (h : t.Pinned w) (looker : Option Dbref) :
    t.pin w looker = t := by
  obtain ⟨r, rfl, hbare⟩ := h
  by_cases hr : r.isBare
  · simp [pin, hbare hr]
  · simp [pin, hr]

/-- To pin a target makes it a reference that is pinned, or leaves it as a name. -/
theorem Target.pin_cases (w : World) (looker : Option Dbref) (t : Target) :
    (t.pin w looker).Pinned w ∨ ∃ n, t.pin w looker = .name n ∧ t = .name n := by
  -- Only a name that stands for nothing stays a name.
  cases t with
  | ref r =>
    left
    by_cases hbare : r.isBare
    · cases ho : w.object? r.number with
      | none => exact ⟨r, by simp [pin, ho], fun _ => ho⟩
      | some o => exact ⟨o.identity, by simp [pin, hbare, ho], fun h => by cases h⟩
    · exact ⟨r, by simp [pin, hbare], fun h => absurd h hbare⟩
  | name n =>
    cases ho : w.locate? n.toList looker with
    | none => exact .inr ⟨n, by simp [pin, ho], rfl⟩
    | some o => exact .inl ⟨o.identity, by simp [pin, ho], fun h => by cases h⟩

namespace LockExpr

variable {f : Target → Target} {e : LockExpr}

/-- The targets of a lock whose targets are replaced. -/
private theorem targets_mapTargets : (e.mapTargets f).targets = e.targets.map f := by
  have hkey : Key.target? ∘ Key.mapTarget f = fun k => k.target?.map f :=
    funext (Key.target?_mapTarget f)
  rw [targets, keys_mapTargets, List.filterMap_map, hkey, targets, List.map_filterMap]

/-- A lock whose targets stay stays as it is. -/
private theorem mapTargets_eq_self (h : ∀ t ∈ e.targets, f t = t) : e.mapTargets f = e := by
  -- Operators have no targets of their own.
  induction e with
  | or a b iha ihb =>
    simp only [targets, keys, List.filterMap_append, List.forall_mem_append] at h
    rw [mapTargets, iha h.1, ihb h.2]
  | and a b iha ihb =>
    simp only [targets, keys, List.filterMap_append, List.forall_mem_append] at h
    rw [mapTargets, iha h.1, ihb h.2]
  | not a iha => rw [mapTargets, iha h]
  | group a iha => rw [mapTargets, iha h]
  | key k =>
    have hk : ∀ t, k.target? = some t → f t = t :=
      fun t ht => h t (List.mem_filterMap.mpr ⟨k, List.mem_singleton_self k, ht⟩)
    cases k with
    | bare t | exact t | carry t | owner t | indirect t _ =>
      simp only [mapTargets, Key.mapTarget, hk t rfl]
    | _ => rfl

end LockExpr

/-- **A pinned text that is a lock has pinned targets,** if it has no names.  To pin it again, from
    any point of view, changes nothing. -/
theorem read_pinText {w : World} {looker : Option Dbref} {text : String} {e : LockExpr}
    (h : LockExpr.read (pinText w looker text).toList = .ok e)
    (hrefs : ∀ t ∈ e.targets, ∃ r, t = .ref r) :
    (∀ t ∈ e.targets, t.Pinned w) ∧
      ∀ looker', pinText w looker' (pinText w looker text) = pinText w looker text := by
  cases hread : LockExpr.read text.toList with
  | error err =>
    rw [pinText_of_error hread, hread] at h
    cases h
  | ok given =>
    rw [pinText_of_ok hread, String.toList_ofList] at h
    -- Pinning leaves a target or makes it a reference, and what is read of that is the pinned lock.
    have hcases : ∀ t : Target, t.pin w looker = t ∨ ∃ r, t.pin w looker = .ref r := by
      intro t
      rcases t.pin_cases w looker with ⟨r, hr, -⟩ | ⟨n, hn, rfl⟩
      · exact .inr ⟨r, hr⟩
      · exact .inl hn
    obtain rfl : e = given.pin w looker :=
      LockExpr.eq_of_read_mapTargets hcases (LockExpr.read_writable hread) h
    have hpinned : ∀ t ∈ (given.pin w looker).targets, t.Pinned w := by
      intro t ht
      obtain ⟨r, hr⟩ := hrefs t ht
      rw [LockExpr.pin, LockExpr.targets_mapTargets] at ht
      obtain ⟨t, -, rfl⟩ := List.mem_map.mp ht
      rcases t.pin_cases w looker with hpinned | ⟨n, hn, -⟩
      · exact hpinned
      · rw [hn] at hr
        cases hr
    refine ⟨hpinned, fun looker' => ?_⟩
    have hagain : (given.pin w looker).pin w looker' = given.pin w looker :=
      LockExpr.mapTargets_eq_self fun t ht => (hpinned t ht).pin_eq looker'
    rw [pinText_of_ok hread, pinText_of_ok (by rwa [String.toList_ofList]), hagain]

namespace LockService

variable (s : LockService) (d : Dbref) (kind : LockKind) (text : String) (setter : Dbref)

/-- **Setting a lock is all or nothing.**  It fails, and the world and the cache are as before; or
    it gives the pinned text, and this is a lock without names, in which a number without a time is
    that of no object, and which does not ask for a lock of the object that it is on.  To pin that
    text again changes nothing, whoever looks.  It is stored and is the lock in force, and all other
    texts and cached locks are as before.  Setting fails only if the pinned text is no lock, has
    names, has a problem on the object, or has a pattern that is too large. -/
theorem set_all_or_nothing :
    let run := (set d kind text setter).run.run s
    (∀ err, run.1 = .error err → run.2 = s) ∧
    ((∃ n, run.1 = .ok n) ↔
      ∃ e c, LockExpr.read (pinText s.world (some setter) text).toList = .ok e ∧
        (∀ t ∈ e.targets, ∃ r, t = .ref r) ∧ e.problem? (some d) = none ∧
        e.condition s.world = .ok c) ∧
    ∀ n, run.1 = .ok n →
      n = pinText s.world (some setter) text ∧
      (∃ e, LockExpr.read n.toList = .ok e ∧
        (∀ t ∈ e.targets, ∃ r, t = .ref r ∧ (r.isBare → s.world.object? r.number = none)) ∧
        ∀ r lock, .indirect (.ref r) lock ∈ e.keys → r.number ≠ d) ∧
      (∀ looker, pinText s.world looker n = n) ∧
      run.2.world.lockText? d kind = some n ∧
      ((run.2.world.lockFor d kind).run run.2.cache).1.text = n ∧
      (∀ d' kind', (d', kind') ≠ (d, kind) →
        run.2.world.lockText? d' kind' = s.world.lockText? d' kind' ∧
          run.2.cache.get? d' kind' = s.cache.get? d' kind') ∧
      run.2.world = { s.world with locks := run.2.world.locks } := by
  intro run
  rcases s.set_cases d kind text setter with ⟨⟨err, hrun⟩, hnot⟩ | ⟨c, hc, hrun⟩
  · rw [show run = (.error err, s) from hrun]
    refine ⟨fun _ _ => rfl, ⟨?_, ?_⟩, ?_⟩
    · rintro ⟨n, ⟨⟩⟩
    · rintro ⟨e, c, he⟩
      exact absurd ⟨e, he⟩ (hnot c)
    · rintro n ⟨⟩
  · obtain ⟨e, hread, hrefs, hproblem, hc⟩ := hc
    rw [show run = (.ok _, _) from hrun]
    -- It is the text after pinning that was read and checked, so this holds of what is stored.
    obtain ⟨hpinned, hfixed⟩ := read_pinText hread hrefs
    refine ⟨?_, ⟨fun _ => ⟨e, c, hread, hrefs, hproblem, hc⟩, fun _ => ⟨_, rfl⟩⟩, ?_⟩
    · rintro err ⟨⟩
    · rintro n ⟨⟩
      refine ⟨rfl, ⟨e, hread, hpinned, ?_⟩, hfixed, ?_, ?_, ?_, rfl⟩
      · intro r lock hk
        exact (Key.problem?_indirect.mp (List.findSome?_eq_none_iff.mp hproblem _ hk)).1
      · rw [World.lockText?_storeLock, if_pos rfl]
      · rw [World.lockFor_run, LockSession.get?_replace, if_pos rfl]
        rfl
      · intro d' kind' hother
        rw [World.lockText?_storeLock, if_neg hother, LockSession.get?_replace, if_neg hother]
        exact ⟨rfl, rfl⟩

/-- A lock with a name that only the setter resolves, the lock of another object, and the number of
    no object.  It is set, and who looks at it later does not change it. -/
theorem start_set_all_or_nothing :
    let s : LockService := { world := .start }
    let stored := "=#1:2 & @#1:2/Use | #7"
    let run := (set 0 .basic "=me&@me/Use|#7" 1).run.run s
    run.1 = .ok stored ∧ (∀ looker, pinText .start looker stored = stored) ∧
      run.2.world.lockText? 0 .basic = some stored := by
  intro s stored run
  have hok : run.1 = .ok stored := by decide +kernel
  obtain ⟨-, -, hstored⟩ := s.set_all_or_nothing 0 .basic "=me&@me/Use|#7" 1
  obtain ⟨-, -, hfixed, htext, -⟩ := hstored stored hok
  exact ⟨hok, hfixed, htext⟩

end LockService

end Softcode
