import Softcode.Proofs.Lock.ExprText
import Softcode.Proofs.Lock.Session
import Softcode.Proofs.World.Allocation

namespace Softcode

/-!
# Pinned locks and numbers that are used again

A lock that asks for the object with a number is pinned when it is set, so it goes on asking for
that one object, also after the object is gone and its number has been given to another.

A `LockedWorld` is a world with the cache of its locks, and a `Run` is what happens to it, event by
event.  Two facts are carried along a run: the lock that was set stays in force (`Step.inForce`),
and the number stays that of the object until the object is destroyed, after which nothing has both
its number and its time of creation (`Step.traces`).  The statement about whole runs is
`LockedWorld.Run.passes_exact_iff`.
-/

/-! ### Setting a lock to one object -/

namespace World

variable {w w' : World} {cache cache' : LockCache} {d : Dbref} {kind : LockKind}
  {text stored : String} {setter : Dbref}

/-- A lock that asks for the number of a live object is stored as one that asks for its identity. -/
private theorem Allotted.setLock_exact (hw : w.Allotted) {x : Object} (hx : w.Live x)
    (h : w.setLock cache d kind (String.ofList ('=' :: Dbref.text x.dbref)) setter
      = .ok (stored, w', cache')) :
    Softcode.Settled stored (.exact x.identity) ∧ w' = w.storeLock d kind stored ∧
      cache' = cache.replace d kind (some ⟨stored, .exact x.identity⟩) := by
  obtain ⟨hstored, c, ⟨e, hread, hproblem, hcondition⟩, rfl, rfl⟩ := setLock_eq_ok h
  suffices he : e = .key (.exact (.ref x.identity)) by
    subst he
    obtain rfl : Condition.exact x.identity = c := Except.ok.inj (hcondition w)
    exact ⟨⟨_, hread, hproblem, hcondition⟩, rfl, rfl⟩
  unfold pinText at hstored
  rw [String.toList_ofList] at hstored
  split at hstored
  · rename_i e' hread'
    obtain ⟨-, rfl⟩ :=
      @LockExpr.read_exact_eq_ok { number := x.dbref } (by simp) e' hread'
    have hpin : (LockExpr.key (.exact (.ref { number := x.dbref }))).pin w (some setter)
        = .key (.exact (.ref x.identity)) := by
      have hlive : w.object? x.dbref = some x := hx
      simp [LockExpr.pin, LockExpr.mapTargets, Key.mapTarget, Target.pin, Reference.isBare, hlive]
    rw [hstored, hpin, String.toList_ofList] at hread
    refine (@LockExpr.read_exact_eq_ok x.identity (fun t ht => ?_) e hread).2
    obtain rfl : x.created = t := Option.some.inj ht
    exact (hw.created _ x hx).1
  · -- A number of more than 64 bits would not be read, and then there is no lock.
    rename_i hread'
    rw [hstored, String.toList_ofList, hread'] at hread
    cases hread

end World

/-! ### Runs -/

/-- A world with the cache of its locks. -/
structure LockedWorld where
  world : World := {}
  cache : LockCache := {}

namespace LockedWorld

/-- What can happen. -/
inductive Event where
  | created (o : Object)
  | recycled (d : Dbref)
  | lockSet (d : Dbref) (kind : LockKind)
  | lockCleared (d : Dbref) (kind : LockKind)
  | other

/-- One thing happens.  To set a lock may fail, and then nothing happens. -/
inductive Step : LockedWorld → Event → LockedWorld → Prop
  | create (w : World) (c : LockCache) (kind : Kind) (name : String) (location : Option Dbref) :
      Step ⟨w, c⟩ (.created (w.create kind name location).1) ⟨(w.create kind name location).2, c⟩
  | recycle (w : World) (c : LockCache) (d : Dbref) : Step ⟨w, c⟩ (.recycled d) ⟨w.recycle d, c⟩
  /-- An object changes, but keeps its number and its time of creation. -/
  | update (w : World) (c : LockCache) (d : Dbref) (f : Object → Object)
      (hf : ∀ o, (f o).identity = o.identity) : Step ⟨w, c⟩ .other ⟨w.update d f, c⟩
  /-- Attributes, channels, connections and messages change. -/
  | change {w w' : World} (c : LockCache) (hobjects : w'.objects = w.objects)
      (hallocator : w'.allocator = w.allocator) (hlocks : w'.locks = w.locks) :
      Step ⟨w, c⟩ .other ⟨w', c⟩
  | setLock {w w' : World} {c c' : LockCache} (d : Dbref) (kind : LockKind) (text : String)
      (setter : Dbref) {stored : String}
      (h : w.setLock c d kind text setter = .ok (stored, w', c')) :
      Step ⟨w, c⟩ (.lockSet d kind) ⟨w', c'⟩
  | clearLock (w : World) (c : LockCache) (d : Dbref) (kind : LockKind) :
      Step ⟨w, c⟩ (.lockCleared d kind) ⟨(w.clearLock c d kind).2.1, (w.clearLock c d kind).2.2⟩
  | invalidate (w : World) (c : LockCache) (d : Dbref) : Step ⟨w, c⟩ .other ⟨w, c.invalidate d⟩
  | getLock (w : World) (c : LockCache) (d : Dbref) (kind : LockKind) :
      Step ⟨w, c⟩ .other ⟨w, ((w.lockFor d kind).run c).2⟩
  | tryLock (w : World) (c : LockCache) (kind : LockKind) (gated unlocker : Object) :
      Step ⟨w, c⟩ .other ⟨w, ((w.passes kind gated unlocker).run c).2⟩

/-- Events happen one after the other. -/
inductive Run : LockedWorld → List Event → LockedWorld → Prop
  | nil (s : LockedWorld) : Run s [] s
  | snoc {s s' s'' : LockedWorld} {es : List Event} {e : Event} (h : Run s es s')
      (hstep : Step s' e s'') : Run s (es ++ [e]) s''

/-! ### Numbers -/

variable {s s' : LockedWorld} {e : Event} {es : List Event}

/-- Every step keeps numbers allotted. -/
private theorem Step.allotted (hstep : Step s e s') (h : s.world.Allotted) : s'.world.Allotted := by
  cases hstep with
  | create w c kind name location => exact h.create kind name location
  | recycle w c d => exact h.recycle d
  | update w c d f hf => exact h.update d hf
  | change c hobjects hallocator hlocks => exact h.others hobjects hallocator
  | setLock d kind text setter hset =>
    obtain ⟨-, _, _, rfl, _⟩ := World.setLock_eq_ok hset
    exact h.others rfl rfl
  | clearLock w c d kind => exact h.others rfl rfl
  | invalidate | getLock | tryLock => exact h

private theorem Run.allotted (hrun : Run s es s') (h : s.world.Allotted) : s'.world.Allotted := by
  induction hrun with
  | nil => exact h
  | snoc _ hstep ih => exact hstep.allotted ih

/-- What has become of an object after some events.  Until it is destroyed, its number is that of an
    object with its time of creation, and from then on of none.  Objects made since have later times
    of creation. -/
structure Traces (x : Object) (es : List Event) (s : LockedWorld) : Prop where
  clock : x.created < s.world.allocator.clock
  here : .recycled x.dbref ∉ es → ∃ o, s.world.object? x.dbref = some o ∧ o.created = x.created
  gone : .recycled x.dbref ∈ es → ∀ o, s.world.object? x.dbref = some o → o.created ≠ x.created
  later : ∀ o, .created o ∈ es → x.created < o.created

/-- Before anything happens, the object is there. -/
private theorem traces_nil {x : Object} (hs : s.world.Allotted) (hx : s.world.Live x) :
    Traces x [] s :=
  ⟨(hs.created _ x hx).2, fun _ => ⟨x, hx, rfl⟩, by simp, by simp⟩

namespace Traces

variable {x : Object}

/-- A step that neither makes nor destroys objects leaves their times of creation. -/
private theorem of_created_eq (h : Traces x es s) (hcreated : ∀ o, e ≠ .created o)
    (hrecycled : ∀ d, e ≠ .recycled d)
    (hclock : s'.world.allocator.clock = s.world.allocator.clock)
    (hobject : (s'.world.object? x.dbref).map (·.created)
      = (s.world.object? x.dbref).map (·.created)) : Traces x (es ++ [e]) s' := by
  -- The event is none that concerns the object.
  have hmem : .recycled x.dbref ∈ es ++ [e] ↔ .recycled x.dbref ∈ es := by
    simp [(hrecycled x.dbref).symm]
  refine ⟨by rw [hclock]; exact h.clock, fun hes => ?_, fun hes o ho => ?_, fun o ho => ?_⟩
  · obtain ⟨o, ho, hcreated⟩ := h.here (mt hmem.mpr hes)
    rw [ho] at hobject
    obtain ⟨o', ho', hcreated'⟩ := Option.map_eq_some_iff.mp hobject
    exact ⟨o', ho', hcreated'.trans hcreated⟩
  · rw [ho] at hobject
    obtain ⟨o', ho', hcreated⟩ := Option.map_eq_some_iff.mp hobject.symm
    exact fun heq => h.gone (hmem.mp hes) o' ho' (hcreated.trans heq)
  · rcases List.mem_append.mp ho with ho | ho
    · exact h.later o ho
    · exact absurd (List.mem_singleton.mp ho).symm (hcreated o)

/-- A new object has the number of no other, and a later time of creation than all others. -/
theorem create {w : World} {c : LockCache} (h : Traces x es ⟨w, c⟩) (hw : w.Allotted) (kind : Kind)
    (name : String) (location : Option Dbref) :
    Traces x (es ++ [.created (w.create kind name location).1])
      ⟨(w.create kind name location).2, c⟩ := by
  obtain ⟨hcreated, hclock⟩ := w.create_created kind name location
  have hbefore : x.created < w.allocator.clock := h.clock
  have hobject := w.object?_create kind name location x.dbref
  refine ⟨?_, fun hes => ?_, fun hes o ho => ?_, fun o ho => ?_⟩
  · show x.created < (w.create kind name location).2.allocator.clock
    omega
  · obtain ⟨o, ho, heq⟩ := h.here (by simpa using hes)
    -- The number of the object is in use, so the new one has another.
    rw [if_neg] at hobject
    · exact ⟨o, hobject.trans ho, heq⟩
    · intro hnumber
      rw [hnumber, hw.object?_new] at ho
      cases ho
  · rw [hobject] at ho
    split at ho
    · obtain rfl := Option.some.inj ho
      omega
    · exact h.gone (by simpa using hes) o ho
  · rcases List.mem_append.mp ho with ho | ho
    · exact h.later o ho
    · obtain rfl := Event.created.inj (List.mem_singleton.mp ho)
      omega

/-- Only the object with that number is gone. -/
theorem recycle {w : World} {c : LockCache} (h : Traces x es ⟨w, c⟩) (d : Dbref) :
    Traces x (es ++ [.recycled d]) ⟨w.recycle d, c⟩ := by
  have hclock : (w.recycle d).allocator.clock = w.allocator.clock := by
    unfold World.recycle
    split <;> rfl
  have hobject := w.object?_recycle d x.dbref
  refine ⟨lt_of_lt_of_eq h.clock hclock.symm, fun hes => ?_, fun hes o ho => ?_, fun o ho => ?_⟩
  · -- The object has not been recycled, so it is another one that is.
    have hne : x.dbref ≠ d := by
      rintro rfl
      exact hes (by simp)
    rw [if_neg hne] at hobject
    obtain ⟨o, ho, heq⟩ := h.here fun hmem => hes (List.mem_append_left _ hmem)
    exact ⟨o, hobject.trans ho, heq⟩
  · rw [hobject] at ho
    split at ho
    · cases ho
    · rename_i hne
      refine h.gone ?_ o ho
      rcases List.mem_append.mp hes with hes | hes
      · exact hes
      · exact absurd (Event.recycled.inj (List.mem_singleton.mp hes)) hne
  · exact h.later o (by simpa using ho)

end Traces

/-- Every step goes on tracing an object. -/
theorem Step.traces {x : Object} (hstep : Step s e s') (hs : s.world.Allotted)
    (h : Traces x es s) : Traces x (es ++ [e]) s' := by
  cases hstep with
  | create w c kind name location => exact h.create hs kind name location
  | recycle w c d => exact h.recycle d
  | update w c d f hf =>
    refine h.of_created_eq (by simp) (by simp) rfl ?_
    show ((w.update d f).object? x.dbref).map (·.created) = (w.object? x.dbref).map (·.created)
    rw [World.object?_update]
    split
    · -- An object that keeps its identity keeps its time of creation.
      have hcreated : (·.created) ∘ f = fun o : Object => o.created :=
        funext fun o => Option.some.inj (congrArg Reference.created (hf o))
      rw [Option.map_map, hcreated]
    · rfl
  | change c hobjects hallocator hlocks =>
    refine h.of_created_eq (by simp) (by simp) (congrArg Allocator.clock hallocator) ?_
    simp only [World.object?, hobjects]
  | setLock d kind text setter hset =>
    obtain ⟨-, _, _, rfl, _⟩ := World.setLock_eq_ok hset
    exact h.of_created_eq (by simp) (by simp) rfl rfl
  | clearLock | invalidate | getLock | tryLock => exact h.of_created_eq (by simp) (by simp) rfl rfl

/-- Every run goes on tracing it. -/
private theorem Run.traces {x : Object} (hrun : Run s es s') (hs : s.world.Allotted)
    (hx : s.world.Live x) : Traces x es s' := by
  induction hrun with
  | nil => exact traces_nil hs hx
  | snoc hrun hstep ih => exact hstep.traces (hrun.allotted hs) ih

/-! ### Locks in force -/

/-- Does the event leave the lock alone?  It destroys not its object, and neither sets nor clears
    the lock. -/
def Event.Leaves (d : Dbref) (kind : LockKind) (e : Event) : Prop :=
  e ≠ .recycled d ∧ e ≠ .lockSet d kind ∧ e ≠ .lockCleared d kind

/-- Is the lock the one that is stored and, if the cache has one, the one in the cache? -/
structure InForce (s : LockedWorld) (d : Dbref) (kind : LockKind) (lock : ReadyLock) : Prop where
  settled : Settled lock.text lock.condition
  stored : s.world.lockText? d kind = some lock.text
  cached : ∀ l, s.cache.get? d kind = some l → l = lock

namespace InForce

variable {d : Dbref} {kind : LockKind} {lock : ReadyLock}

/-- The lock in force is the one that the cache shows. -/
private theorem view_eq (h : InForce s d kind lock) : s.cache.view s.world d kind = lock := by
  cases hget : s.cache.get? d kind with
  | none =>
    rw [LockSession.view_of_get?_none hget, World.freshLock_eq (c := lock.condition)]
    · rw [h.stored]
      rfl
    · rw [h.stored]
      exact h.settled
  | some l => rw [LockCache.view, hget, Option.getD_some, h.cached l hget]

/-- What leaves the stored text alone, and keeps or drops what is in the cache, leaves the lock in
    force. -/
private theorem of_get? (h : InForce s d kind lock)
    (htext : s'.world.lockText? d kind = s.world.lockText? d kind)
    (hget : ∀ l, s'.cache.get? d kind = some l → s.cache.get? d kind = some l) :
    InForce s' d kind lock :=
  ⟨h.settled, htext.trans h.stored, fun l hl => h.cached l (hget l hl)⟩

/-- Looking up and trying locks changes nothing about what the cache shows. -/
theorem answers {w : World} {c : LockCache} {α : Type} {x : StateM LockCache α} {a : α}
    (h : InForce ⟨w, c⟩ d kind lock) (hx : Answers w (c.view w) x a) :
    InForce ⟨w, (x.run c).2⟩ d kind lock := by
  refine ⟨h.settled, h.stored, fun l hl => ?_⟩
  have hview : (x.run c).2.view w d kind = lock := by rw [(hx c rfl).2, h.view_eq]
  rw [← hview, LockCache.view, hl, Option.getD_some]

/-- Who passes the lock in force is what its condition says. -/
private theorem passes_eq (h : InForce s d kind lock) {gated : Object} (hgated : gated.dbref = d)
    (unlocker : Object) : ((s.world.passes kind gated unlocker).run s.cache).1
      = s.world.passesLockIn (s.cache.view s.world) lock gated unlocker := by
  rw [(s.world.passes_answers _ kind gated unlocker s.cache rfl).1, hgated, h.view_eq]

end InForce

/-- **A lock stays in force** through every step that leaves it alone. -/
theorem Step.inForce {d : Dbref} {kind : LockKind} {lock : ReadyLock} (hstep : Step s e s')
    (he : e.Leaves d kind) (h : InForce s d kind lock) : InForce s' d kind lock := by
  obtain ⟨hrecycled, hset, hcleared⟩ := he
  -- Only setting, clearing and recycling change texts, and here of other locks.
  cases hstep with
  | create w c kind name location => exact h.of_get? rfl fun _ hl => hl
  | recycle w c d' =>
    refine h.of_get? ?_ fun _ hl => hl
    have hne : d ≠ d' := fun heq => hrecycled (heq ▸ rfl)
    show (w.recycle d').lockText? d kind = w.lockText? d kind
    rw [World.lockText?_recycle, if_neg fun hd => hne hd.2]
  | update w c d f hf => exact h.of_get? rfl fun _ hl => hl
  | change c hobjects hallocator hlocks =>
    refine h.of_get? ?_ fun _ hl => hl
    simp only [World.lockText?, hlocks]
  | @setLock w _ c _ d' kind' text setter stored hset' =>
    obtain ⟨-, _, _, rfl, rfl⟩ := World.setLock_eq_ok hset'
    have hne : (d, kind) ≠ (d', kind') := by
      rintro ⟨⟩
      exact hset rfl
    refine h.of_get? ?_ fun l hl => ?_
    · show (w.storeLock d' kind' stored).lockText? d kind = w.lockText? d kind
      rw [World.lockText?_storeLock, if_neg hne]
    · rwa [LockSession.get?_replace, if_neg hne] at hl
  | clearLock w c d' kind' =>
    have hne : (d, kind) ≠ (d', kind') := by
      rintro ⟨⟩
      exact hcleared rfl
    refine h.of_get? ?_ fun l hl => ?_
    · show (w.removeLock d' kind').lockText? d kind = w.lockText? d kind
      rw [World.lockText?_removeLock, if_neg hne]
    · have hl : (c.replace d' kind' none).get? d kind = some l := hl
      rwa [LockSession.get?_replace, if_neg hne] at hl
  | invalidate w c d' =>
    refine h.of_get? rfl fun l hl => ?_
    have hl : (c.invalidate d').get? d kind = some l := hl
    rw [LockSession.get?_invalidate] at hl
    split at hl
    · exact hl
    · cases hl
  | getLock w c d kind => exact h.answers (w.lockFor_answers _ d kind)
  | tryLock w c kind gated unlocker => exact h.answers (w.passes_answers _ kind gated unlocker)

/-- A lock stays in force through every run that leaves it alone. -/
private theorem Run.inForce {d : Dbref} {kind : LockKind} {lock : ReadyLock} (hrun : Run s es s')
    (hes : ∀ e ∈ es, e.Leaves d kind) (h : InForce s d kind lock) : InForce s' d kind lock := by
  induction hrun with
  | nil => exact h
  | snoc _ hstep ih =>
    refine hstep.inForce (hes _ (by simp)) (ih fun e he => ?_)
    exact hes e (List.mem_append_left _ he)

/-- A lock that has been set to one object is in force. -/
private theorem inForce_setLock {w w' : World} {c c' : LockCache} {d : Dbref} {kind : LockKind}
    {stored : String} {setter : Dbref} (hw : w.Allotted) {x : Object} (hx : w.Live x)
    (h : w.setLock c d kind (String.ofList ('=' :: Dbref.text x.dbref)) setter
      = .ok (stored, w', c')) : InForce ⟨w', c'⟩ d kind ⟨stored, .exact x.identity⟩ := by
  obtain ⟨hsettled, rfl, rfl⟩ := hw.setLock_exact hx h
  refine ⟨hsettled, ?_, fun l hl => ?_⟩
  · show (w.storeLock d kind stored).lockText? d kind = some stored
    rw [World.lockText?_storeLock, if_pos rfl]
  · rw [LockSession.get?_replace, if_pos rfl] at hl
    exact (Option.some.inj hl).symm

/-! ### Who passes -/

/-- **A pinned lock is passed by its object only.** From an empty world, let a lock be set to the
    number of a live object `x`.  As long as the lock is left alone, a live object passes it exactly
    if it has that number and nothing with that number has been destroyed since, and an object made
    since passes it never, whatever else has changed about it. -/
theorem Run.passes_exact_iff {before after : List Event} {w w' : World} {c c' : LockCache}
    (hbefore : Run {} before ⟨w, c⟩) {x : Object} (hx : w.Live x) {door setter : Dbref}
    {kind : LockKind} {stored : String}
    (hset : w.setLock c door kind (String.ofList ('=' :: Dbref.text x.dbref)) setter
      = .ok (stored, w', c'))
    (hafter : Run ⟨w', c'⟩ after s) (hleaves : ∀ e ∈ after, e.Leaves door kind)
    {gated : Object} (hgated : gated.dbref = door) :
    (∀ u, s.world.Live u → (((s.world.passes kind gated u).run s.cache).1 = true ↔
      u.dbref = x.dbref ∧ .recycled x.dbref ∉ after)) ∧
    ∀ o, .created o ∈ after → ∀ u : Object, u.identity = o.identity →
      ((s.world.passes kind gated u).run s.cache).1 = false := by
  have hw : w.Allotted := hbefore.allotted World.allotted_empty
  have hinForce := hafter.inForce hleaves (inForce_setLock hw hx hset)
  have htraces : Traces x after s := by
    obtain ⟨-, _, _, rfl, _⟩ := World.setLock_eq_ok hset
    exact hafter.traces (hw.others rfl rfl) hx
  -- The lock asks for the number and the time of creation.
  have hpasses : ∀ u, ((s.world.passes kind gated u).run s.cache).1 = true ↔
      x.dbref = u.dbref ∧ x.created = u.created := by
    intro u
    rw [hinForce.passes_eq hgated u]
    show x.identity.matches u = true ↔ _
    simp [Reference.matches, Reference.names, Object.identity]
  refine ⟨fun u hu => ?_, fun o ho u hidentity => ?_⟩
  · rw [hpasses]
    constructor
    · rintro ⟨hnumber, hcreated⟩
      refine ⟨hnumber.symm, fun hrecycled => ?_⟩
      exact htraces.gone hrecycled u (hnumber ▸ hu) hcreated.symm
    · rintro ⟨hnumber, hrecycled⟩
      obtain ⟨o, ho, hcreated⟩ := htraces.here hrecycled
      obtain rfl : u = o := Option.some.inj (hu.symm.trans (hnumber ▸ ho))
      exact ⟨hnumber.symm, hcreated.symm⟩
  · rw [← Bool.not_eq_true, hpasses]
    rintro ⟨-, hcreated⟩
    have hsame : u.created = o.created := Option.some.inj (congrArg Reference.created hidentity)
    have hlater := htraces.later o ho
    omega

/-- A door is locked to a guest, who passes it.  Then the guest is destroyed, and an impostor of the
    same name gets their number and joins a channel: the impostor does not pass. -/
theorem passes_exact_impostor :
    let hall := (World.create {} .room "Hall" none).2
    let guest := hall.create .player "Guest" (some 0)
    let door := guest.2.create .thing "Door" (some 0)
    let locked := door.2.storeLock 2 .enter "=#1:2"
    let c : LockCache := LockCache.replace {} 2 .enter (some ⟨"=#1:2", .exact ⟨1, some 2⟩⟩)
    let tried := (locked.passes .enter door.1 guest.1).run c
    let impostor := (locked.recycle 1).create .player "Guest" (some 0)
    let w := impostor.2.join 1 "Public"
    door.2.setLock {} 2 .enter "=#1" 1 = .ok ("=#1:2", locked, c) ∧ tried.1 = true ∧
      impostor.1.dbref = guest.1.dbref ∧ w.Live impostor.1 ∧
      ((w.passes .enter door.1 impostor.1).run tried.2).1 = false := by
  intro hall guest door locked c tried impostor w
  have hset : door.2.setLock {} 2 .enter "=#1" 1 = .ok ("=#1:2", locked, c) := by decide +kernel
  have htried : tried.1 = true := by decide +kernel
  have hnumber : impostor.1.dbref = guest.1.dbref := by decide +kernel
  have hlive : w.Live impostor.1 := by decide +kernel
  refine ⟨hset, htried, hnumber, hlive, ?_⟩
  have hbefore : Run {} _ ⟨door.2, {}⟩ :=
    (((Run.nil {}).snoc (.create {} {} .room "Hall" none)).snoc
      (.create hall {} .player "Guest" (some 0))).snoc (.create guest.2 {} .thing "Door" (some 0))
  -- The door has been tried before, so that its lock is in the cache.
  have hafter : Run ⟨locked, c⟩ _ ⟨w, tried.2⟩ :=
    ((((Run.nil ⟨locked, c⟩).snoc (.tryLock locked c .enter door.1 guest.1)).snoc
      (.recycle locked tried.2 1)).snoc
        (.create (locked.recycle 1) tried.2 .player "Guest" (some 0))).snoc
          (.change tried.2 rfl rfl rfl)
  have hguest : door.2.Live guest.1 := by decide +kernel
  have hdoor : door.1.dbref = 2 := by decide +kernel
  have htext : String.ofList ('=' :: Dbref.text guest.1.dbref) = "=#1" := by decide +kernel
  rw [← htext] at hset
  exact (hbefore.passes_exact_iff hguest hset hafter (by simp [Event.Leaves]) hdoor).2 impostor.1
    (by simp [impostor]) impostor.1 rfl

end LockedWorld

end Softcode
