import Softcode.Proofs.Lock.Session

namespace Softcode

/-!
# Readers and writers of the cache

Any number of readers look up locks at the same time, while locks are set and removed one after the
other.  A reader that does not find a lock in the cache notes the count of writes, reads the text of
the lock, and then offers the lock to the cache.  A writer first changes the texts and then
publishes the change to the cache.  Between any two of these steps, others may take theirs: a reader
may keep an old text for as long as it likes, and may offer it while a writer is half-way.

* `LockTraffic.Step` — one step of one reader or writer;
* `LockTraffic.Step.coherent` — each step keeps the state `Coherent`, which says what the count that
  a reader has noted is good for;
* `LockTraffic.Reachable.cached_text` — whenever no writer is half-way, every lock in the cache has
  the text that is stored;
* `LockTraffic.run_lockFor`, `LockTraffic.run_setLock`, `LockTraffic.run_clearLock`,
  `LockTraffic.run_recycle` — looking up a lock, setting it, removing it and destroying its object
  are such steps, taken without a break.
-/

/-- The text in force for a lock: the one that is stored, or else the default. -/
def World.textInForce (w : World) (d : Dbref) (kind : LockKind) : String :=
  (w.lockText? d kind).getD defaultLock

/-- The text in force depends on the stored text only. -/
private theorem World.textInForce_congr {w w' : World} {d : Dbref} {kind : LockKind}
    (h : w'.lockText? d kind = w.lockText? d kind) :
    w'.textInForce d kind = w.textInForce d kind := by
  rw [textInForce, textInForce, h]

/-- Offering a lock leaves the cache as it is, or keeps the lock, if there has been no write since
    its text was read. -/
private theorem LockCache.fill_cases (c : LockCache) (d : Dbref) (kind : LockKind)
    (lock : ReadyLock) (seen : Nat) : (c.fill d kind lock seen).2 = c ∨ seen = c.generation ∧
      (c.fill d kind lock seen).2 = { c with entries := c.entries.insert (d, kind) lock } := by
  unfold fill
  split
  · exact .inl rfl
  · split
    · rename_i hseen
      exact .inr ⟨hseen.symm, rfl⟩
    · exact .inl rfl

/-- The lock in force is made of the text in force. -/
private theorem World.freshLock_text (w : World) (d : Dbref) (kind : LockKind) :
    (w.freshLock d kind).text = w.textInForce d kind := by
  unfold freshLock
  dsimp only
  split
  · -- A lock that can be made ready keeps its text.
    rename_i lock hlock
    unfold ReadyLock.ofText at hlock
    split at hlock
    · cases hlock
    split at hlock
    · cases hlock
    obtain ⟨c, -, hlock⟩ := bind_eq_ok.mp hlock
    cases hlock
    rfl
  · rfl

/-- How far a reader has come with a lock. -/
inductive Fetch where
  /-- The lock is not in the cache. -/
  | missed (d : Dbref) (kind : LockKind)
  /-- The count of writes has been noted. -/
  | noted (d : Dbref) (kind : LockKind) (seen : Nat)
  /-- The text has been read. -/
  | read (d : Dbref) (kind : LockKind) (seen : Nat) (text : String)

/-- A change of texts that has been made, but is not yet known to the cache. -/
inductive Publication where
  /-- A lock has been set, or removed if there is none. -/
  | one (d : Dbref) (kind : LockKind) (lock : Option ReadyLock)
  /-- All texts of an object have been removed. -/
  | all (d : Dbref)

/-- Is the lock among those that have been changed? -/
def Publication.Concerns : Publication → Dbref → LockKind → Prop
  | one d kind _, d', kind' => (d', kind') = (d, kind)
  | all d, d', _ => d' = d

/-- The number of a reader. -/
abbrev ReaderId := Nat

/-- A world with the cache of its locks, and those who use it. -/
structure LockTraffic where
  world : World
  cache : LockCache := {}
  /-- The readers that are under way. -/
  readers : ReaderId → Option Fetch := fun _ => none
  /-- What the writer that is half-way, if there is one, has still to publish. -/
  pending : Option Publication := none

namespace LockTraffic

/-- The state after a reader has got as far as `f`, or has come to the end. -/
def move (s : LockTraffic) (r : ReaderId) (f : Option Fetch) : LockTraffic :=
  { s with readers := Function.update s.readers r f }

/-- One step of a reader or a writer.  Writers wait for each other, but nobody else waits. -/
inductive Step : LockTraffic → LockTraffic → Prop
  | miss {s : LockTraffic} (r : ReaderId) (d : Dbref) (kind : LockKind) (hr : s.readers r = none)
      (hmiss : s.cache.get? d kind = none) : Step s (s.move r (some (.missed d kind)))
  | note {s : LockTraffic} {r : ReaderId} {d : Dbref} {kind : LockKind}
      (hr : s.readers r = some (.missed d kind)) :
      Step s (s.move r (some (.noted d kind s.cache.generation)))
  | read {s : LockTraffic} {r : ReaderId} {d : Dbref} {kind : LockKind} {seen : Nat}
      (hr : s.readers r = some (.noted d kind seen)) :
      Step s (s.move r (some (.read d kind seen (s.world.textInForce d kind))))
  /-- The lock may have been made ready in any world, or be one that nobody passes. -/
  | fill {s : LockTraffic} {r : ReaderId} {d : Dbref} {kind : LockKind} {seen : Nat} {text : String}
      (hr : s.readers r = some (.read d kind seen text)) (lock : ReadyLock)
      (hlock : lock.text = text) :
      Step s { s.move r none with cache := (s.cache.fill d kind lock seen).2 }
  | store {s : LockTraffic} (hs : s.pending = none) (d : Dbref) (kind : LockKind)
      (lock : ReadyLock) :
      Step s { s with
        world := s.world.storeLock d kind lock.text, pending := some (.one d kind (some lock)) }
  | remove {s : LockTraffic} (hs : s.pending = none) (d : Dbref) (kind : LockKind) :
      Step s { s with
        world := s.world.removeLock d kind, pending := some (.one d kind none) }
  /-- The texts of an object are removed, with the object or without it.  All that counts is that
      those of other objects stay. -/
  | removeAll {s : LockTraffic} (hs : s.pending = none) (d : Dbref) {w : World}
      (hw : ∀ d' kind, d' ≠ d → w.lockText? d' kind = s.world.lockText? d' kind) :
      Step s { s with world := w, pending := some (.all d) }
  | replace {s : LockTraffic} {d : Dbref} {kind : LockKind} {lock : Option ReadyLock}
      (hs : s.pending = some (.one d kind lock)) :
      Step s { s with cache := s.cache.replace d kind lock, pending := none }
  | invalidate {s : LockTraffic} {d : Dbref} (hs : s.pending = some (.all d)) :
      Step s { s with cache := s.cache.invalidate d, pending := none }
  /-- The world changes in any way that leaves the texts of locks alone. -/
  | change {s : LockTraffic} {w : World}
      (hw : ∀ d kind, w.lockText? d kind = s.world.lockText? d kind) : Step s { s with world := w }

/-- Steps one after the other. -/
abbrev Run : LockTraffic → LockTraffic → Prop := Relation.ReflTransGen Step

/-- A state that can come about, from any world and an empty cache. -/
inductive Reachable : LockTraffic → Prop
  | start (w : World) : Reachable { world := w }
  | step {s s' : LockTraffic} (h : Reachable s) (hstep : Step s s') : Reachable s'

/-- What comes about goes on coming about. -/
theorem Reachable.run {s s' : LockTraffic} (h : s.Reachable) (hrun : Run s s') : s'.Reachable := by
  induction hrun with
  | refl => exact h
  | tail _ hstep ih => exact ih.step hstep

/-! ### What the states have in common -/

/-- Is a writer half-way with this lock? -/
def Changing (s : LockTraffic) (d : Dbref) (kind : LockKind) : Prop :=
  ∃ p ∈ s.pending, p.Concerns d kind

/-- Between writes no lock is changing. -/
private theorem not_changing {s : LockTraffic} (hs : s.pending = none) (d : Dbref)
    (kind : LockKind) :
    ¬ s.Changing d kind := by
  rintro ⟨p, hp, -⟩
  rw [hs] at hp
  cases hp

/-- Can the reader go on?  It has noted no count that is still to come.  If there has been no write
    since, the text that it has read is in force, unless a writer is half-way with the lock. -/
def Trusts (s : LockTraffic) : Fetch → Prop
  | .missed _ _ => True
  | .noted _ _ seen => seen ≤ s.cache.generation
  | .read d kind seen text => seen ≤ s.cache.generation ∧
      (seen = s.cache.generation → ¬ s.Changing d kind → text = s.world.textInForce d kind)

/-- The invariant. -/
structure Coherent (s : LockTraffic) : Prop where
  /-- A lock in the cache has the text in force, unless a writer is half-way with it. -/
  cached : ∀ d kind lock, s.cache.get? d kind = some lock → ¬ s.Changing d kind →
    lock.text = s.world.textInForce d kind
  /-- What a writer is about to publish has the text in force. -/
  published : ∀ d kind lock, s.pending = some (.one d kind (some lock)) →
    lock.text = s.world.textInForce d kind
  readers : ∀ r, ∀ f ∈ s.readers r, s.Trusts f

namespace Coherent

variable {s : LockTraffic}

/-! ### Steps of readers -/

/-- A reader moves on. -/
theorem move (h : s.Coherent) (r : ReaderId) {f : Option Fetch} (hf : ∀ g ∈ f, s.Trusts g) :
    (s.move r f).Coherent := by
  refine ⟨h.cached, h.published, fun r' g hg => ?_⟩
  by_cases hr : r' = r
  · subst hr
    replace hg : g ∈ Function.update s.readers r' f r' := hg
    rw [Function.update_self] at hg
    exact hf g hg
  · replace hg : g ∈ Function.update s.readers r f r' := hg
    rw [Function.update_of_ne hr] at hg
    exact h.readers r' g hg

/-- The text is read after the count was noted, so it is good for that count. -/
theorem read (h : s.Coherent) {r : ReaderId} {d : Dbref} {kind : LockKind} {seen : Nat}
    (hr : s.readers r = some (.noted d kind seen)) :
    (s.move r (some (.read d kind seen (s.world.textInForce d kind)))).Coherent := by
  have hseen : seen ≤ s.cache.generation := h.readers r _ hr
  refine h.move r ?_
  rintro g ⟨⟩
  exact ⟨hseen, fun _ _ => rfl⟩

/-- **An old text is not kept.** A lock is offered with the count that was noted before its text was
    read. -/
theorem fill (h : s.Coherent) {r : ReaderId} {d : Dbref} {kind : LockKind} {seen : Nat}
    {text : String} (hr : s.readers r = some (.read d kind seen text)) {lock : ReadyLock}
    (hlock : lock.text = text) :
    Coherent { s.move r none with cache := (s.cache.fill d kind lock seen).2 } := by
  obtain ⟨-, htext⟩ : s.Trusts (.read d kind seen text) := h.readers r _ hr
  have hmoved : (s.move r none).Coherent := h.move r (by simp)
  rcases s.cache.fill_cases d kind lock seen with hfill | ⟨hseen, hfill⟩
  · rw [hfill]
    exact hmoved
  · rw [hfill]
    refine ⟨fun d' kind' l hl hchanging => ?_, h.published, hmoved.readers⟩
    replace hl : (s.cache.entries.insert (d, kind) lock).find? (d', kind') = some l := hl
    rw [Table.find?_insert] at hl
    by_cases hkey : (d', kind') = (d, kind)
    · -- The lock that is kept was read since the last write.
      rw [if_pos hkey] at hl
      obtain ⟨rfl, rfl⟩ := Prod.mk.inj hkey
      obtain rfl := Option.some.inj hl
      exact hlock.trans (htext hseen hchanging)
    · rw [if_neg hkey] at hl
      exact h.cached d' kind' l hl hchanging

/-! ### Steps of writers -/

/-- A writer changes texts.  What it has changed is not trusted until it is published. -/
theorem store (h : s.Coherent) (hs : s.pending = none) (p : Publication) {w : World}
    (hw : ∀ d kind, ¬ p.Concerns d kind → w.lockText? d kind = s.world.lockText? d kind)
    (hp : ∀ d kind lock, p = .one d kind (some lock) → lock.text = w.textInForce d kind) :
    Coherent { s with world := w, pending := some p } := by
  -- Where no change is on its way, the texts are as before.
  have hconcerns : ∀ {d kind}, ¬ Changing { s with world := w, pending := some p } d kind →
      ¬ p.Concerns d kind := fun hchanging hd => hchanging ⟨p, rfl, hd⟩
  refine ⟨fun d kind lock hl hchanging => ?_, fun d kind lock hl => ?_, fun r f hf => ?_⟩
  · rw [World.textInForce_congr (hw d kind (hconcerns hchanging))]
    exact h.cached d kind lock hl (not_changing hs d kind)
  · exact hp d kind lock (Option.some.inj hl)
  · have hold : s.Trusts f := h.readers r f hf
    cases f with
    | missed => trivial
    | noted => exact hold
    | read d kind seen text =>
      refine ⟨hold.1, fun hseen hchanging => ?_⟩
      rw [World.textInForce_congr (hw d kind (hconcerns hchanging))]
      exact hold.2 hseen (not_changing hs d kind)

/-- A writer publishes.  All readers that are under way have noted an earlier count, so what they
    have read does not matter any more. -/
private theorem publish (h : s.Coherent) {p : Publication} (hs : s.pending = some p) {c : LockCache}
    (hcount : c.generation = s.cache.generation + 1)
    (hother : ∀ d kind, ¬ p.Concerns d kind → c.get? d kind = s.cache.get? d kind)
    (hthis : ∀ d kind, p.Concerns d kind → ∀ lock, c.get? d kind = some lock →
      lock.text = s.world.textInForce d kind) :
    Coherent { s with cache := c, pending := none } := by
  refine ⟨fun d kind lock hl _ => ?_, fun _ _ _ hl => absurd hl (by simp), fun r f hf => ?_⟩
  · by_cases hp : p.Concerns d kind
    · exact hthis d kind hp lock hl
    · replace hl : c.get? d kind = some lock := hl
      rw [hother d kind hp] at hl
      refine h.cached d kind lock hl ?_
      rintro ⟨q, hq, hconcerns⟩
      obtain rfl : p = q := Option.some.inj (hs.symm.trans hq)
      exact hp hconcerns
  · have hold : s.Trusts f := h.readers r f hf
    cases f with
    | missed => trivial
    | noted d kind seen =>
      show seen ≤ c.generation
      have hseen : seen ≤ s.cache.generation := hold
      omega
    | read d kind seen text =>
      obtain ⟨hseen, -⟩ := hold
      -- The count has gone up, so what was read before is not filled in.
      have hlater : seen < c.generation := by omega
      exact ⟨hlater.le, fun heq => absurd heq hlater.ne⟩

/-- The world changes, but for the texts. -/
theorem change (h : s.Coherent) {w : World}
    (hw : ∀ d kind, w.lockText? d kind = s.world.lockText? d kind) :
    Coherent { s with world := w } := by
  have htext : ∀ d kind, w.textInForce d kind = s.world.textInForce d kind :=
    fun d kind => World.textInForce_congr (hw d kind)
  refine ⟨fun d kind lock hl hchanging => ?_, fun d kind lock hl => ?_, fun r f hf => ?_⟩
  · rw [htext]
    exact h.cached d kind lock hl hchanging
  · rw [htext]
    exact h.published d kind lock hl
  · have hold : s.Trusts f := h.readers r f hf
    cases f with
    | missed => trivial
    | noted => exact hold
    | read d kind seen text =>
      refine ⟨hold.1, fun hseen hchanging => ?_⟩
      rw [htext]
      exact hold.2 hseen hchanging

end Coherent

/-- **Each step keeps the state coherent.** -/
theorem Step.coherent {s s' : LockTraffic} (hstep : Step s s') (h : s.Coherent) : s'.Coherent := by
  cases hstep with
  | miss r d kind hr hmiss => exact h.move r (by rintro g ⟨⟩; trivial)
  | note hr => exact h.move _ (by rintro g ⟨⟩; exact Nat.le_refl s.cache.generation)
  | read hr => exact h.read hr
  | fill hr lock hlock => exact h.fill hr hlock
  -- A writer changes the world first.
  | store hs d kind lock =>
    refine h.store hs _ (fun d' kind' hother => ?_) ?_
    · have hkey : (d', kind') ≠ (d, kind) := hother
      rw [World.lockText?_storeLock, if_neg hkey]
    · rintro _ _ _ ⟨⟩
      rw [World.textInForce, World.lockText?_storeLock, if_pos rfl, Option.getD_some]
  | remove hs d kind =>
    refine h.store hs _ (fun d' kind' hother => ?_) ?_
    · have hkey : (d', kind') ≠ (d, kind) := hother
      rw [World.lockText?_removeLock, if_neg hkey]
    · rintro _ _ _ ⟨⟩
  | removeAll hs d hw =>
    refine h.store hs _ (fun d' kind hne => hw d' kind hne) ?_
    rintro _ _ _ ⟨⟩
  -- Then it changes the cache, and no change is on its way any more.
  | @replace d kind lock hs =>
    refine h.publish hs rfl (fun d' kind' hother => ?_) fun d' kind' hthis l hl => ?_
    · have hkey : (d', kind') ≠ (d, kind) := hother
      rw [LockSession.get?_replace, if_neg hkey]
    · have hkey : (d', kind') = (d, kind) := hthis
      rw [LockSession.get?_replace, if_pos hkey] at hl
      obtain ⟨rfl, rfl⟩ := Prod.mk.inj hkey
      exact h.published d' kind' l (by rw [hs, hl])
  | @invalidate d hs =>
    refine h.publish hs rfl (fun d' kind hother => ?_) fun d' kind hthis l hl => ?_
    · have hne : d' ≠ d := hother
      rw [LockSession.get?_invalidate, if_pos hne]
    · have heq : d' = d := hthis
      rw [LockSession.get?_invalidate, if_neg fun hne => hne heq] at hl
      cases hl
  | change hw => exact h.change hw

/-- **Every state that can come about is coherent.** -/
theorem Reachable.coherent {s : LockTraffic} (h : s.Reachable) : s.Coherent := by
  induction h with
  | start w =>
    refine ⟨?_, ?_, by simp⟩
    · rintro d kind lock ⟨⟩
    · rintro d kind lock ⟨⟩
  | step _ hstep ih => exact hstep.coherent ih

/-! ### Steps without a break -/

section

variable {s : LockTraffic}

/-- Only where a reader has got to last matters. -/
@[simp] private theorem move_move (r : ReaderId) (f g : Option Fetch) :
    (s.move r f).move r g = s.move r g := by
  simp [move]

@[simp] private theorem readers_move (r : ReaderId) (f : Option Fetch) :
    (s.move r f).readers r = f := by
  simp [move]

/-- A reader that has come to the end was never there. -/
private theorem move_none {r : ReaderId} (hr : s.readers r = none) : s.move r none = s := by
  have hreaders : Function.update s.readers r none = s.readers := by
    rw [← hr, Function.update_eq_self]
  rw [move, hreaders]

/-- Looking up a lock is what a reader does, if nobody else takes a step meanwhile. -/
theorem run_lockFor {r : ReaderId} (hr : s.readers r = none) (d : Dbref) (kind : LockKind) :
    Run s { s with cache := ((s.world.lockFor d kind).run s.cache).2 } := by
  rw [s.world.lockFor_run]
  cases hget : s.cache.get? d kind with
  | some lock => exact .refl
  | none =>
    -- Looking up is four steps, and the reader is then where it was.
    have hmiss : Step s (s.move r (some (.missed d kind))) := .miss r d kind hr hget
    have hnote := Step.note (readers_move (s := s) r (some (.missed d kind)))
    rw [move_move] at hnote
    have hread := Step.read (readers_move (s := s) r (some (.noted d kind s.cache.generation)))
    rw [move_move] at hread
    have hfill := Step.fill
      (readers_move (s := s) r (some (.read d kind s.cache.generation
        (s.world.textInForce d kind))))
      (s.world.freshLock d kind) (s.world.freshLock_text d kind)
    rw [move_move, move_none hr] at hfill
    exact .tail (.tail (.tail (.single hmiss) hnote) hread) hfill

/-- Setting a lock is what a writer does, if nobody else takes a step meanwhile. -/
theorem run_setLock (hs : s.pending = none) {d : Dbref} {kind : LockKind} {text stored : String}
    {setter : Dbref} {w : World} {c : LockCache}
    (h : s.world.setLock s.cache d kind text setter = .ok (stored, w, c)) :
    Run s { s with world := w, cache := c } := by
  obtain ⟨-, condition, -, rfl, rfl⟩ := World.setLock_eq_ok h
  have hstore := Step.store hs d kind ⟨stored, condition⟩
  have hreplace := Step.replace (s := { s with
    world := s.world.storeLock d kind stored
    pending := some (.one d kind (some ⟨stored, condition⟩)) }) rfl
  rw [hs]
  exact .tail (.single hstore) hreplace

/-- So is removing a lock. -/
theorem run_clearLock (hs : s.pending = none) (d : Dbref) (kind : LockKind) :
    Run s { s with
      world := (s.world.clearLock s.cache d kind).2.1
      cache := (s.world.clearLock s.cache d kind).2.2 } := by
  have hremove := Step.remove hs d kind
  have hreplace := Step.replace (s := { s with
    world := s.world.removeLock d kind, pending := some (.one d kind none) }) rfl
  rw [hs]
  exact .tail (.single hremove) hreplace

/-- Destroying an object removes its texts, and then the cache is told. -/
theorem run_recycle (hs : s.pending = none) (d : Dbref) :
    Run s { s with world := s.world.recycle d, cache := s.cache.invalidate d } := by
  have hremove : Step s { s with world := s.world.recycle d, pending := some (.all d) } := by
    refine .removeAll hs d fun d' kind hne => ?_
    rw [World.lockText?_recycle, if_neg fun hd => hne hd.2]
  have hinvalidate := Step.invalidate (s := { s with
    world := s.world.recycle d, pending := some (.all d) }) rfl
  rw [hs]
  exact .tail (.single hremove) hinvalidate

end

/-! ### No stale locks -/

/-- **No stale lock stays in the cache.** However the steps of readers and writers are mixed,
    whenever no writer is half-way, each lock in the cache has the text that is stored, or the
    default if none is. -/
theorem Reachable.cached_text {s : LockTraffic} (h : s.Reachable) (hs : s.pending = none)
    {d : Dbref} {kind : LockKind} {lock : ReadyLock} (hlock : s.cache.get? d kind = some lock) :
    lock.text = (s.world.lockText? d kind).getD defaultLock :=
  h.coherent.cached d kind lock hlock (not_changing hs d kind)

/-- Reader 1 reads a text before a lock is set, and offers it while the writer is half-way, so that
    the cache is wrong for a moment.  Reader 2 reads the new text meanwhile, but offers it only
    after the lock has been removed again, and then it is not kept.  Reader 3 comes after that. -/
theorem interleaved_cached_text :
    ∃ early late : LockTraffic,
      (early.Reachable ∧ early.cache.get? 0 .basic = some ⟨"#TRUE", .always⟩ ∧
        early.world.lockText? 0 .basic = some "#FALSE") ∧
      late.Reachable ∧ late.pending = none ∧ late.cache.get? 0 .basic = some ⟨"#TRUE", .always⟩ ∧
        "#TRUE" = (late.world.lockText? 0 .basic).getD defaultLock := by
  have h := (Reachable.start .start).step (.miss 1 0 .basic rfl rfl)
  have h := (h.step (.note (r := 1) rfl)).step (.read (r := 1) rfl)
  have h := h.step (.store rfl 0 .basic ⟨"#FALSE", .never⟩)
  have h := h.step (.miss 2 0 .basic rfl rfl)
  have h := (h.step (.note (r := 2) rfl)).step (.read (r := 2) rfl)
  have hearly := h.step (.fill (r := 1) rfl ⟨"#TRUE", .always⟩ rfl)
  have h := (hearly.step (.replace rfl)).run (run_clearLock rfl 0 .basic)
  have h := h.step (.fill (r := 2) rfl ⟨"#FALSE", .never⟩ rfl)
  have hlate := h.run (run_lockFor (r := 3) rfl 0 .basic)
  refine ⟨_, _, ⟨hearly, rfl, rfl⟩, hlate, rfl, ?kept, hlate.cached_text rfl ?kept⟩
  decide +kernel

end LockTraffic

end Softcode
