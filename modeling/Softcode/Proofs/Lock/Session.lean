import Softcode.Proofs.Lock.Meaning

namespace Softcode

/-!
# The cache of locks is invisible

A `LockSession` is a world with a cache of its locks.  Locks are set, cleared, looked up and tried
through the session, while the world changes.  In every session that can come about, who passes a
lock is what the stored texts say now (`LockSession.Reachable.passes_eq_admits`).

A stored text has been checked when it was set, and speaks of objects by their numbers only, so it
has the same condition in every world (`Settled`).  Each step keeps the session `Coherent`: all
stored texts are settled, and the cache shows the locks that would be made ready now.
-/

/-! ### Settled texts -/

/-- Is the text a lock that has this condition in every world? -/
def Settled (text : String) (c : Condition) : Prop :=
  ∃ e, LockExpr.read text.toList = .ok e ∧ e.problem? none = none ∧ ∀ w, e.condition w = .ok c

/-- A settled text can be made ready in every world. -/
theorem Settled.ofText {text : String} {c : Condition} (h : Settled text c) (w : World) :
    ReadyLock.ofText w text = .ok ⟨text, c⟩ := by
  obtain ⟨e, hread, hproblem, hc⟩ := h
  simp only [ReadyLock.ofText, hread, hproblem, hc]
  rfl

theorem settled_defaultLock : Settled defaultLock .always :=
  ⟨.key .always, by decide +kernel, rfl, fun _ => rfl⟩

/-- The condition of a key that has no name in it depends on no world. -/
private theorem Key.condition_congr {k : Key} (hk : ∀ t ∈ k.target?, ∀ n, t ≠ .name n)
    (w w' : World) :
    k.condition w = k.condition w' := by
  -- Only a name has to be looked up in the world.
  have href : ∀ {t : Target}, (∀ n, t ≠ .name n) → ∀ f, t.condition w f = t.condition w' f := by
    intro t ht f
    cases t with
    | ref r => rfl
    | name n => exact absurd rfl (ht n)
  cases k with
  | bare t => simp only [condition, href (hk t rfl)]
  | exact t => simp only [condition, href (hk t rfl)]
  | carry t => simp only [condition, href (hk t rfl)]
  | owner t => simp only [condition, href (hk t rfl)]
  | indirect t lock => cases lock <;> simp only [condition, href (hk t rfl)]
  | _ => rfl

/-- The condition of a lock without names is the same in both worlds. -/
private theorem LockExpr.condition_congr {e : LockExpr} (he : ∀ t ∈ e.targets, ∀ n, t ≠ .name n)
    (w w' : World) : e.condition w = e.condition w' := by
  induction e with
  | or a b iha ihb =>
    simp only [targets, keys, List.filterMap_append, List.forall_mem_append] at he
    rw [condition, condition, iha he.1, ihb he.2]
  | and a b iha ihb =>
    simp only [targets, keys, List.filterMap_append, List.forall_mem_append] at he
    rw [condition, condition, iha he.1, ihb he.2]
  | not a iha => rw [condition, condition, iha he]
  | group a iha => exact iha he
  | key k =>
    refine Key.condition_congr (fun t ht => he t ?_) w w'
    exact List.mem_filterMap.mpr ⟨k, List.mem_singleton_self k, ht⟩

/-- A key may not ask for a lock of the object that it is on. -/
theorem Key.problem?_indirect {r : Reference} {lock : Option String} {d : Dbref} :
    (indirect (.ref r) lock).problem? (some d) = none ↔
      r.number ≠ d ∧ (indirect (.ref r) lock).problem? none = none := by
  by_cases hself : r.number = d
  · simp [problem?, hself]
  · have hother : (d == r.number) = false := beq_eq_false_iff_ne.mpr fun h => hself h.symm
    simp [problem?, hself, hother]

/-- A lock that has no problem on an object has none if it is for no object in particular. -/
theorem LockExpr.problem?_none_of_some {e : LockExpr} {d : Dbref} (h : e.problem? (some d) = none) :
    e.problem? none = none := by
  rw [problem?, List.findSome?_eq_none_iff] at h ⊢
  intro k hk
  have hkey := h k hk
  cases k with
  | indirect t lock =>
    cases t with
    | ref r => exact (Key.problem?_indirect.mp hkey).2
    | name n => exact hkey
  | kind v => exact hkey
  | _ => rfl

namespace World

variable {w w' : World} {cache cache' : LockCache} {d : Dbref} {kind : LockKind}
  {text stored : String} {setter : Dbref}

/-- A lock is without unknown names if all of its targets are references. -/
private theorem unknownName?_eq_none {e : LockExpr} (hread : LockExpr.read text.toList = .ok e) :
    unknownName? text = none ↔ ∀ t ∈ e.targets, ∃ r, t = .ref r := by
  simp only [unknownName?, hread, List.findSome?_eq_none_iff]
  refine forall₂_congr fun t _ => ?_
  cases t with
  | ref r => simp
  | name n => simp

/-- Is the text a lock that can be set on the object, with this condition?  It has no names, none of
    its keys has a problem, and its patterns can be made ready. -/
def CanSet (w : World) (d : Dbref) (text : String) (c : Condition) : Prop :=
  ∃ e, LockExpr.read text.toList = .ok e ∧ (∀ t ∈ e.targets, ∃ r, t = .ref r) ∧
    e.problem? (some d) = none ∧ e.condition w = .ok c

/-- Such a text passes all checks. -/
theorem CanSet.ofText {c : Condition} (h : w.CanSet d text c) :
    unknownName? text = none ∧ isLockFor d text.toList = true ∧
      ReadyLock.ofText w text = .ok ⟨text, c⟩ := by
  obtain ⟨e, hread, hrefs, hproblem, hc⟩ := h
  refine ⟨(unknownName?_eq_none hread).mpr hrefs, by simp [isLockFor, hread, hproblem], ?_⟩
  simp only [ReadyLock.ofText, hread, LockExpr.problem?_none_of_some hproblem, hc]
  rfl

/-- What passes all checks is such a text. -/
private theorem canSet_of_ofText {lock : ReadyLock} (hnames : unknownName? text = none)
    (hlockFor : isLockFor d text.toList = true) (hlock : ReadyLock.ofText w text = .ok lock) :
    ∃ c, w.CanSet d text c ∧ lock = ⟨text, c⟩ := by
  unfold ReadyLock.ofText at hlock
  split at hlock
  · cases hlock
  rename_i e hread
  split at hlock
  · cases hlock
  obtain ⟨c, hc, hlock⟩ := bind_eq_ok.mp hlock
  cases hlock
  have hproblem : e.problem? (some d) = none := by
    simpa [isLockFor, hread] using hlockFor
  exact ⟨c, ⟨e, hread, (unknownName?_eq_none hread).mp hnames, hproblem, hc⟩, rfl⟩

end World

/-- **What setting a lock can do.**  It fails and nothing is changed, if the pinned text cannot be
    set.  Otherwise the pinned text is stored, and the lock is put into the cache. -/
theorem LockService.set_cases (s : LockService) (d : Dbref) (kind : LockKind) (text : String)
    (setter : Dbref) :
    ((∃ err, (set d kind text setter).run.run s = (.error err, s)) ∧
        ∀ c, ¬ s.world.CanSet d (pinText s.world (some setter) text) c) ∨
      ∃ c, s.world.CanSet d (pinText s.world (some setter) text) c ∧
        (set d kind text setter).run.run s = (.ok (pinText s.world (some setter) text),
          ⟨s.world.storeLock d kind (pinText s.world (some setter) text),
            s.cache.replace d kind (some ⟨pinText s.world (some setter) text, c⟩)⟩) := by
  rw [set, run_get_bind]
  dsimp only
  generalize pinText s.world (some setter) text = pinned
  cases hnames : World.unknownName? pinned with
  | some n =>
    refine .inl ⟨⟨_, rfl⟩, fun c hc => ?_⟩
    rw [hc.ofText.1] at hnames
    cases hnames
  | none =>
    cases hlockFor : isLockFor d pinned.toList with
    | false =>
      refine .inl ⟨⟨_, rfl⟩, fun c hc => ?_⟩
      rw [hc.ofText.2.1] at hlockFor
      cases hlockFor
    | true =>
      -- All that can fail comes before the text is stored.
      cases hlock : ReadyLock.ofText s.world pinned with
      | error err =>
        refine .inl ⟨⟨err, rfl⟩, fun c hc => ?_⟩
        rw [hc.ofText.2.2] at hlock
        cases hlock
      | ok lock =>
        obtain ⟨c, hc, rfl⟩ := World.canSet_of_ofText hnames hlockFor hlock
        exact .inr ⟨c, hc, rfl⟩

namespace World

/-- What setting a lock gives, if it does not fail: the text that is stored, with the world and the
    cache afterwards. -/
def setLock (w : World) (cache : LockCache) (d : Dbref) (kind : LockKind) (text : String)
    (setter : Dbref) : Except ScriptError (String × World × LockCache) :=
  let run := (LockService.set d kind text setter).run.run ⟨w, cache⟩
  run.1.map fun stored => (stored, run.2.world, run.2.cache)

variable {w w' : World} {cache cache' : LockCache} {d : Dbref} {kind : LockKind}
  {text stored : String} {setter : Dbref}

/-- The text that is stored is the pinned one.  It is settled, and its lock is put into the
    cache. -/
theorem setLock_eq_ok (h : w.setLock cache d kind text setter = .ok (stored, w', cache')) :
    stored = pinText w (some setter) text ∧ ∃ c, Settled stored c ∧ w' = w.storeLock d kind stored ∧
      cache' = cache.replace d kind (some ⟨stored, c⟩) := by
  unfold setLock at h
  rcases LockService.set_cases ⟨w, cache⟩ d kind text setter with ⟨⟨err, hrun⟩, -⟩ | ⟨c, hc, hrun⟩
  · rw [hrun] at h
    cases h
  rw [hrun] at h
  cases h
  obtain ⟨e, hread, hrefs, hproblem, hcondition⟩ := hc
  refine ⟨rfl, c, ⟨e, hread, LockExpr.problem?_none_of_some hproblem, fun w' => ?_⟩, rfl, rfl⟩
  rw [← hcondition]
  -- The stored text has no names, so its condition is the same everywhere.
  refine LockExpr.condition_congr ?_ w' w
  rintro _ ht n rfl
  obtain ⟨r, hr⟩ := hrefs _ ht
  cases hr

/-! ### Stored texts -/

theorem lockText?_storeLock (w : World) (d d' : Dbref) (kind kind' : LockKind) (text : String) :
    (w.storeLock d kind text).lockText? d' kind'
      = if (d', kind') = (d, kind) then some text else w.lockText? d' kind' :=
  Table.find?_insert ..

theorem lockText?_removeLock (w : World) (d d' : Dbref) (kind kind' : LockKind) :
    (w.removeLock d kind).lockText? d' kind'
      = if (d', kind') = (d, kind) then none else w.lockText? d' kind' :=
  Table.find?_erase ..

/-- Destroying an object removes its locks, and touches no others. -/
theorem lockText?_recycle (w : World) (d d' : Dbref) (kind : LockKind) :
    (w.recycle d).lockText? d' kind
      = if w.objects.has d ∧ d' = d then none else w.lockText? d' kind := by
  unfold recycle
  by_cases hd : w.objects.has d
  · rw [if_pos hd]
    simp only [lockText?, Table.find?_filter w.locks (fun k => decide (k.1 ≠ d)), hd, true_and]
    by_cases he : d' = d <;> simp [he]
  · rw [if_neg hd]
    simp [hd]

/-- A settled text is the lock in force, in the same form in every world that stores it. -/
theorem freshLock_eq {w : World} {d : Dbref} {kind : LockKind} {c : Condition}
    (h : Settled ((w.lockText? d kind).getD defaultLock) c) :
    w.freshLock d kind = ⟨(w.lockText? d kind).getD defaultLock, c⟩ := by
  rw [freshLock, h.ofText w]

/-- Are all stored texts settled? -/
def Settled (w : World) : Prop :=
  ∀ d kind, ∃ c, Softcode.Settled ((w.lockText? d kind).getD defaultLock) c

/-- The lock in force depends on the stored text only. -/
private theorem Settled.freshLock_congr {w w' : World} (h : w.Settled) {d : Dbref} {kind : LockKind}
    (htext : w'.lockText? d kind = w.lockText? d kind) :
    w'.freshLock d kind = w.freshLock d kind := by
  obtain ⟨c, hc⟩ := h d kind
  rw [freshLock_eq hc, freshLock_eq (htext ▸ hc), htext]

/-- The lock in force lets pass whom its text lets pass, if other objects are asked alike. -/
private theorem Settled.admits_eq_of_ask {w : World} (h : w.Settled) {unlocker : Object}
    {depth : Nat} {ask : Reference → LockKind → Bool}
    (hask : ∀ r lock, ask r lock = if depth < maxIndirections then
      (w.referent? r).any fun target => w.admits unlocker (depth + 1) target lock else false)
    (gated : Object) (kind : LockKind) :
    w.admits unlocker depth gated kind
      = (w.freshLock gated.dbref kind).condition.holdsWith w ask gated unlocker := by
  obtain ⟨c, hc⟩ := h gated.dbref kind
  rw [freshLock_eq hc]
  obtain ⟨e, hread, -, hcondition⟩ := hc
  rw [LockExpr.holdsWith_condition (hcondition w), admits]
  simp only [hread]
  congr 1
  funext r lock
  rw [hask]
  cases w.referent? r <;> simp

/-- **Locks made ready from settled texts let pass whom the texts let pass.** -/
theorem Settled.admits_eq {w : World} (h : w.Settled) (unlocker : Object) (depth : Nat)
    (gated : Object) (kind : LockKind) :
    w.admits unlocker depth gated kind = (w.freshLock gated.dbref kind).condition.holdsWith w
      (w.passesIndirectIn w.freshLock unlocker (maxIndirections - depth)) gated unlocker := by
  -- The induction is on how many more objects may be asked.
  induction hmore : maxIndirections - depth generalizing depth gated kind with
  | zero =>
    refine h.admits_eq_of_ask (fun r lock => ?_) gated kind
    rw [if_neg (by omega), passesIndirectIn]
  | succ more ih =>
    refine h.admits_eq_of_ask (fun r lock => ?_) gated kind
    rw [if_pos (by omega), passesIndirectIn]
    cases w.referent? r with
    | none => rfl
    | some target => exact (ih (depth + 1) target lock (by omega)).symm

end World

/-! ### Sessions -/

/-- A world with a cache of its locks. -/
structure LockSession where
  world : World
  cache : LockCache := {}
  /-- The objects that have been destroyed, but are not yet known to be gone to the cache. -/
  stale : List Dbref := []

namespace LockSession

/-- What can happen next.  Setting a lock may fail, and then nothing happens.  Locks are tried only
    while no object is stale. -/
inductive Step : LockSession → LockSession → Prop
  | set {w w' : World} {c c' : LockCache} {stale : List Dbref} (d : Dbref) (kind : LockKind)
      (text : String) (setter : Dbref) {stored : String}
      (h : w.setLock c d kind text setter = .ok (stored, w', c')) :
      Step ⟨w, c, stale⟩ ⟨w', c', stale⟩
  | clear (w : World) (c : LockCache) (stale : List Dbref) (d : Dbref) (kind : LockKind) :
      Step ⟨w, c, stale⟩ ⟨(w.clearLock c d kind).2.1, (w.clearLock c d kind).2.2, stale⟩
  | invalidate (w : World) (c : LockCache) (stale : List Dbref) (d : Dbref) :
      Step ⟨w, c, stale⟩ ⟨w, c.invalidate d, stale.filter (· ≠ d)⟩
  | get (w : World) (c : LockCache) (stale : List Dbref) (d : Dbref) (kind : LockKind) :
      Step ⟨w, c, stale⟩ ⟨w, ((w.lockFor d kind).run c).2, stale⟩
  | evaluate (w : World) (c : LockCache) (kind : LockKind) (gated unlocker : Object) :
      Step ⟨w, c, []⟩ ⟨w, ((w.passes kind gated unlocker).run c).2, []⟩
  | evaluateAt (w : World) (c : LockCache) (kind : LockKind) (gated unlocker : Dbref) :
      Step ⟨w, c, []⟩ ⟨w, ((w.passesAt kind gated unlocker).run c).2, []⟩
  /-- The world changes in any way that leaves the texts of locks alone. -/
  | change {w w' : World} (c : LockCache) (stale : List Dbref)
      (h : ∀ d kind, w'.lockText? d kind = w.lockText? d kind) :
      Step ⟨w, c, stale⟩ ⟨w', c, stale⟩
  | recycle (w : World) (c : LockCache) (stale : List Dbref) (d : Dbref) :
      Step ⟨w, c, stale⟩ ⟨w.recycle d, c, d :: stale⟩

/-- A session that can come about, from a world in which no lock is set. -/
inductive Reachable : LockSession → Prop
  | start {w : World} (h : ∀ d kind, w.lockText? d kind = none) : Reachable ⟨w, {}, []⟩
  | step {s s' : LockSession} (h : Reachable s) (hstep : Step s s') : Reachable s'

/-- Are the stored texts settled, and does the cache show the locks that they would give now? -/
structure Coherent (s : LockSession) : Prop where
  settled : s.world.Settled
  shown : ∀ d, d ∉ s.stale → ∀ kind, s.cache.view s.world d kind = s.world.freshLock d kind

/-! ### Each step keeps a session coherent -/

/-- What is not in the cache is made ready now. -/
theorem view_of_get?_none {w : World} {c : LockCache} {d : Dbref} {kind : LockKind}
    (h : c.get? d kind = none) : c.view w d kind = w.freshLock d kind := by
  rw [LockCache.view, h, Option.getD_none]

/-- What is shown stays right where neither the text nor the entry has changed. -/
private theorem view_congr {w w' : World} {c c' : LockCache} {d : Dbref} {kind : LockKind}
    (hw : w.Settled) (hview : c.view w d kind = w.freshLock d kind)
    (hget : c'.get? d kind = c.get? d kind) (htext : w'.lockText? d kind = w.lockText? d kind) :
    c'.view w' d kind = w'.freshLock d kind := by
  have hfresh := hw.freshLock_congr htext
  rw [LockCache.view, hget, hfresh]
  exact hview

/-- One entry is replaced. -/
theorem get?_replace (c : LockCache) (d d' : Dbref) (kind kind' : LockKind)
    (lock : Option ReadyLock) :
    (c.replace d kind lock).get? d' kind'
      = if (d', kind') = (d, kind) then lock else c.get? d' kind' := by
  cases lock with
  | none => exact Table.find?_erase ..
  | some lock => exact Table.find?_insert ..

/-- All entries of an object are dropped. -/
theorem get?_invalidate (c : LockCache) (d d' : Dbref) (kind : LockKind) :
    (c.invalidate d).get? d' kind = if d' ≠ d then c.get? d' kind else none := by
  rw [LockCache.get?, LockCache.invalidate,
    Table.find?_filter c.entries (fun k => decide (k.1 ≠ d))]
  simp only [decide_eq_true_eq]
  rfl

/-- Looking up and trying locks leaves a session coherent, since the cache goes on showing what it
    showed. -/
theorem Coherent.answers {w : World} {c : LockCache} {stale : List Dbref} {α : Type}
    {x : StateM LockCache α} {a : α} (h : Coherent ⟨w, c, stale⟩) (hx : Answers w (c.view w) x a) :
    Coherent ⟨w, (x.run c).2, stale⟩ := by
  refine ⟨h.settled, fun d hd kind => ?_⟩
  rw [(hx c rfl).2]
  exact h.shown d hd kind

/-- A lock is set, and its new text is what the cache shows. -/
theorem Coherent.set {w w' : World} {c c' : LockCache} {stale : List Dbref}
    (h : Coherent ⟨w, c, stale⟩) {d : Dbref} {kind : LockKind} {text stored : String}
    {setter : Dbref} (hset : w.setLock c d kind text setter = .ok (stored, w', c')) :
    Coherent ⟨w', c', stale⟩ := by
  obtain ⟨-, condition, hsettled, rfl, rfl⟩ := World.setLock_eq_ok hset
  refine ⟨fun d' kind' => ?_, fun d' hd' kind' => ?_⟩
  · rw [World.lockText?_storeLock]
    split
    · exact ⟨condition, hsettled⟩
    · exact h.settled d' kind'
  · by_cases hkey : (d', kind') = (d, kind)
    · -- The new entry is the lock of the new text.
      have htext := w.lockText?_storeLock d d' kind kind' stored
      rw [if_pos hkey] at htext
      have hfresh : (w.storeLock d kind stored).freshLock d' kind' = ⟨_, condition⟩ :=
        World.freshLock_eq (by rwa [htext])
      rw [hfresh, LockCache.view, get?_replace, if_pos hkey, htext]
      rfl
    · refine view_congr h.settled (h.shown d' hd' kind') ?_ ?_
      · rw [get?_replace, if_neg hkey]
      · rw [World.lockText?_storeLock, if_neg hkey]

/-- A lock is removed, and the default is what the cache shows. -/
theorem Coherent.clear {w : World} {c : LockCache} {stale : List Dbref}
    (h : Coherent ⟨w, c, stale⟩) (d : Dbref) (kind : LockKind) :
    Coherent ⟨w.removeLock d kind, c.replace d kind none, stale⟩ := by
  refine ⟨fun d' kind' => ?_, fun d' hd' kind' => ?_⟩
  · rw [World.lockText?_removeLock]
    split
    · exact ⟨.always, settled_defaultLock⟩
    · exact h.settled d' kind'
  · by_cases hkey : (d', kind') = (d, kind)
    · exact view_of_get?_none (by rw [get?_replace, if_pos hkey])
    · refine view_congr h.settled (h.shown d' hd' kind') ?_ ?_
      · rw [get?_replace, if_neg hkey]
      · rw [World.lockText?_removeLock, if_neg hkey]

/-- An object that is gone is not stale any more. -/
theorem Coherent.invalidate {w : World} {c : LockCache} {stale : List Dbref}
    (h : Coherent ⟨w, c, stale⟩) (d : Dbref) :
    Coherent ⟨w, c.invalidate d, stale.filter (· ≠ d)⟩ := by
  refine ⟨h.settled, fun d' hd' kind => ?_⟩
  by_cases hne : d' ≠ d
  · have hnot : d' ∉ stale := fun hmem => hd' (List.mem_filter.mpr ⟨hmem, by simpa using hne⟩)
    exact view_congr h.settled (h.shown d' hnot kind) (by rw [get?_invalidate, if_pos hne]) rfl
  · exact view_of_get?_none (by rw [get?_invalidate, if_neg hne])

/-- An object is destroyed, and is stale from then on. -/
theorem Coherent.recycle {w : World} {c : LockCache} {stale : List Dbref}
    (h : Coherent ⟨w, c, stale⟩) (d : Dbref) : Coherent ⟨w.recycle d, c, d :: stale⟩ := by
  refine ⟨fun d' kind => ?_, fun d' hd' kind => ?_⟩
  · rw [World.lockText?_recycle]
    split
    · exact ⟨.always, settled_defaultLock⟩
    · exact h.settled d' kind
  · obtain ⟨hne, hnot⟩ := not_or.mp (mt List.mem_cons.mpr hd')
    refine view_congr h.settled (h.shown d' hnot kind) rfl ?_
    rw [World.lockText?_recycle, if_neg fun hd => hne hd.2]

/-- Nothing else in the world has to do with locks. -/
theorem Coherent.change {w w' : World} {c : LockCache} {stale : List Dbref}
    (h : Coherent ⟨w, c, stale⟩) (htext : ∀ d kind, w'.lockText? d kind = w.lockText? d kind) :
    Coherent ⟨w', c, stale⟩ := by
  refine ⟨fun d kind => ?_, fun d hd kind => ?_⟩
  · rw [htext]
    exact h.settled d kind
  · exact view_congr h.settled (h.shown d hd kind) rfl (htext d kind)

/-- **Each step keeps a session coherent.** -/
theorem Step.coherent {s s' : LockSession} (hstep : Step s s') (h : s.Coherent) : s'.Coherent := by
  cases hstep with
  | set d kind text setter hset => exact h.set hset
  | clear w c stale d kind => exact h.clear d kind
  | invalidate w c stale d => exact h.invalidate d
  -- To look up or to try locks fills the cache with what is stored.
  | get w c stale d kind => exact h.answers (w.lockFor_answers _ d kind)
  | evaluate w c kind gated unlocker => exact h.answers (w.passes_answers _ kind gated unlocker)
  | evaluateAt w c kind gated unlocker =>
    unfold World.passesAt
    split
    · exact h.answers (w.passes_answers _ kind _ _)
    · exact h
  | change c stale htext => exact h.change htext
  | recycle w c stale d => exact h.recycle d

/-- **Every session that can come about is coherent.** -/
theorem Reachable.coherent {s : LockSession} (h : s.Reachable) : s.Coherent := by
  induction h with
  | start hnone =>
    refine ⟨fun d kind => ?_, fun d _ kind => view_of_get?_none rfl⟩
    rw [hnone]
    exact ⟨.always, settled_defaultLock⟩
  | step _ hstep ih => exact hstep.coherent ih

/-- **The cache is invisible.** In every session that can come about, and in which no object is
    stale, an unlocker passes a lock through the cache exactly if the stored texts let them pass. -/
theorem Reachable.passes_eq_admits {s : LockSession} (h : s.Reachable) (hstale : s.stale = [])
    (kind : LockKind) (gated unlocker : Object) :
    ((s.world.passes kind gated unlocker).run s.cache).1
      = s.world.admits unlocker 0 gated kind := by
  have hcoherent := h.coherent
  have hview : s.cache.view s.world = s.world.freshLock := by
    funext d kind
    exact hcoherent.shown d (by simp [hstale]) kind
  calc ((s.world.passes kind gated unlocker).run s.cache).1
      = s.world.passesLockIn s.world.freshLock
        (s.world.freshLock gated.dbref kind) gated unlocker :=
        (s.world.passes_answers _ kind gated unlocker s.cache hview).1
    _ = s.world.admits unlocker 0 gated kind :=
        (hcoherent.settled.admits_eq unlocker 0 gated kind).symm

/-- A lock that asks for another is set and tried, which fills the cache with both.  Then the other
    is set so that nobody passes it: the wizard, who passed before, does not pass now. -/
theorem start_passes_eq_admits :
    let room : Object := { Object.new 0 1 .room "Room Zero" with owner := 1 }
    let wizard : Object :=
      { Object.new 1 2 .player "Wizard" with location := some 0, flags := ["WIZARD"] }
    let w := World.start.storeLock 0 .basic "=#1:2 & @#1:2/Use"
    let c : LockCache := LockCache.replace {} 0 .basic
      (some ⟨"=#1:2 & @#1:2/Use", .and (.exact ⟨1, some 2⟩) (.indirect ⟨1, some 2⟩ .use)⟩)
    let tried := (w.passes .basic room wizard).run c
    let w' := w.storeLock 1 .use "#FALSE"
    let c' := tried.2.replace 1 .use (some ⟨"#FALSE", .never⟩)
    World.start.setLock {} 0 .basic "=me & @me/Use" 1 = .ok ("=#1:2 & @#1:2/Use", w, c) ∧
      tried.1 = true ∧ w.setLock tried.2 1 .use "#FALSE" 1 = .ok ("#FALSE", w', c') ∧
      ((w'.passes .basic room wizard).run c').1 = false ∧
      w'.admits wizard 0 room .basic = false := by
  intro room wizard w c tried w' c'
  have hset : World.start.setLock {} 0 .basic "=me & @me/Use" 1
      = .ok ("=#1:2 & @#1:2/Use", w, c) := by decide +kernel
  have hset' : w.setLock tried.2 1 .use "#FALSE" 1 = .ok ("#FALSE", w', c') := by decide +kernel
  -- The lock is tried before the second one is set, so it is in the cache by then.
  have hreachable : Reachable ⟨w', c', []⟩ :=
    (((Reachable.start fun _ _ => rfl).step (.set 0 .basic _ 1 hset)).step
      (.evaluate w c .basic room wizard)).step (.set 1 .use _ 1 hset')
  have hpasses : ((w'.passes .basic room wizard).run c').1 = false := by decide +kernel
  exact ⟨hset, by decide +kernel, hset', hpasses,
    (hreachable.passes_eq_admits rfl .basic room wizard).symm.trans hpasses⟩

end LockSession

end Softcode
