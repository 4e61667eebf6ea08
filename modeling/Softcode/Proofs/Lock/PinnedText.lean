import Softcode.Proofs.Lock.Pinning

namespace Softcode

/-!
# Pinned locks as texts

When a lock is set, it is read, pinned and printed, and the text is what is stored.
`LockExpr.Lifts` says that two locks differ in their targets only, and `Target.PinsTo` how they may
differ.

* `LockExpr.lifts_mapTargets` — to replace the targets of a lock changes nothing else;
* `Target.PinsTo.pin_eq` — what a target is pinned to stays as it is;
* `World.Reachable.pinText_exact` — the pinned text of a lock is read as the lock with its targets
  pinned, and to pin it again changes nothing.
-/

/-! ### Locks that differ in their targets -/

/-- Are the keys the same but for their targets, and are these related? -/
inductive Key.Lifts (R : Target → Target → Prop) : Key → Key → Prop
  | bare {t t' : Target} (h : R t t') : Lifts R (.bare t) (.bare t')
  | exact {t t' : Target} (h : R t t') : Lifts R (.exact t) (.exact t')
  | carry {t t' : Target} (h : R t t') : Lifts R (.carry t) (.carry t')
  | owner {t t' : Target} (h : R t t') : Lifts R (.owner t) (.owner t')
  | indirect {t t' : Target} (lock : Option String) (h : R t t') :
      Lifts R (.indirect t lock) (.indirect t' lock)
  /-- A key that speaks of no object. -/
  | other {k : Key} (h : k.target? = none) : Lifts R k k

/-- Do the locks have the same shape, with keys that are the same but for their targets? -/
inductive LockExpr.Lifts (R : Target → Target → Prop) : LockExpr → LockExpr → Prop
  | or {a a' b b' : LockExpr} (ha : Lifts R a a') (hb : Lifts R b b') :
    Lifts R (.or a b) (.or a' b')
  | and {a a' b b' : LockExpr} (ha : Lifts R a a') (hb : Lifts R b b') :
      Lifts R (.and a b) (.and a' b')
  | not {a a' : LockExpr} (ha : Lifts R a a') : Lifts R (.not a) (.not a')
  | group {a a' : LockExpr} (ha : Lifts R a a') : Lifts R (.group a) (.group a')
  | key {k k' : Key} (hk : k.Lifts R k') : Lifts R (.key k) (.key k')

section

variable {R : Target → Target → Prop} {f : Target → Target}

/-- To replace the target of a key changes nothing else. -/
private theorem Key.lifts_mapTarget (h : ∀ t, R t (f t)) (k : Key) : k.Lifts R (k.mapTarget f) := by
  cases k with
  | bare t => exact .bare (h t)
  | exact t => exact .exact (h t)
  | carry t => exact .carry (h t)
  | owner t => exact .owner (h t)
  | indirect t lock => exact .indirect lock (h t)
  | _ => exact .other rfl

/-- To replace the targets changes nothing else. -/
theorem LockExpr.lifts_mapTargets (h : ∀ t, R t (f t)) (e : LockExpr) :
    e.Lifts R (e.mapTargets f) := by
  induction e with
  | or a b iha ihb => exact .or iha ihb
  | and a b iha ihb => exact .and iha ihb
  | not a iha => exact .not iha
  | group a iha => exact .group iha
  | key k => exact .key (Key.lifts_mapTarget h k)

/-- A key stays as it is if its target does. -/
private theorem Key.Lifts.mapTarget_eq {k k' : Key} (h : k.Lifts R k')
    (hf : ∀ t t', R t t' → f t' = t') :
    k'.mapTarget f = k' := by
  cases h with
  | bare h | exact h | carry h | owner h | indirect _ h => simp only [mapTarget, hf _ _ h]
  | other h =>
    cases k with
    | bare | exact | carry | owner | indirect => cases h
    | _ => rfl

/-- A lock stays as it is if all targets that it can have stay. -/
private theorem LockExpr.Lifts.mapTargets_eq {e e' : LockExpr} (h : e.Lifts R e')
    (hf : ∀ t t', R t t' → f t' = t') : e'.mapTargets f = e' := by
  induction h with
  | or _ _ iha ihb => rw [mapTargets, iha, ihb]
  | and _ _ iha ihb => rw [mapTargets, iha, ihb]
  | not _ iha => rw [mapTargets, iha]
  | group _ iha => rw [mapTargets, iha]
  | key hk => rw [mapTargets, hk.mapTarget_eq hf]

end

/-! ### Pinned targets -/

/-- What a target is pinned to in a world, from the point of view of a looker. -/
inductive Target.PinsTo (w : World) (looker : Option Dbref) : Target → Target → Prop
  /-- The number of a live object gets the time of its creation. -/
  | number {d : Dbref} {o : Object} (h : w.object? d = some o) :
      PinsTo w looker (.ref ⟨d, none⟩) (.ref ⟨d, some o.created⟩)
  | gone {d : Dbref} (h : w.object? d = none) : PinsTo w looker (.ref ⟨d, none⟩) (.ref ⟨d, none⟩)
  /-- A reference that gives a time is kept, whether it names an object or not. -/
  | timed (d : Dbref) (t : Int) : PinsTo w looker (.ref ⟨d, some t⟩) (.ref ⟨d, some t⟩)
  /-- A name that is found becomes the number and the time of what is found. -/
  | found {n : String} {o : Object} (h : w.locate? n.toList looker = some o) :
      PinsTo w looker (.name n) (.ref ⟨o.dbref, some o.created⟩)
  | lost {n : String} (h : w.locate? n.toList looker = none) : PinsTo w looker (.name n) (.name n)

variable {w : World} {looker : Option Dbref}

/-- What pinning does to a target. -/
private theorem Target.pinsTo_pin (hw : w.Sound) (t : Target) :
    t.PinsTo w looker (t.pin w looker) := by
  -- There is one case for each way in which pinning can go.
  cases t with
  | ref r =>
    obtain ⟨d, created⟩ := r
    cases created with
    | none =>
      simp only [pin, Reference.isBare, Option.isNone_none, if_true]
      cases ho : w.object? d with
      | none => exact .gone ho
      | some o =>
        obtain rfl := hw.dbref_eq ho
        exact .number ho
    | some t => exact .timed d t
  | name n =>
    simp only [pin]
    cases ho : w.locate? n.toList looker with
    | none => exact .lost ho
    | some o => exact .found ho

/-- What a target is pinned to stays as it is. -/
theorem Target.PinsTo.pin_eq {t t' : Target} (h : t.PinsTo w looker t') : t'.pin w looker = t' := by
  cases h with
  | number | timed | found => rfl
  | gone h => simp only [pin, h, Option.elim_none, ite_self]
  | lost h => simp only [pin, h, Option.elim_none]

/-! ### Pinned texts -/

section

variable {text : String} {e : LockExpr}

/-- What is no lock is not pinned. -/
theorem pinText_of_error {err : LockError} (h : LockExpr.read text.toList = .error err) :
    pinText w looker text = text := by
  simp only [pinText, h]

/-- A lock is pinned and printed. -/
theorem pinText_of_ok (h : LockExpr.read text.toList = .ok e) :
    pinText w looker text = String.ofList (e.pin w looker).text := by
  simp only [pinText, h]

end

namespace World

/-- The identity of a live object can be written if its number has 64 bits and its time is not
    negative. -/
private theorem identity_writable
    (hnumbers : ∀ o ∈ w.objects.values, Number.minInteger ≤ o.dbref ∧ o.dbref ≤ Number.maxInteger)
    (htimes : ∀ o ∈ w.objects.values, 0 ≤ o.created ∧ o.created ≤ Number.maxInteger) {o : Object}
    (ho : w.Live o) : o.identity.Writable := by
  obtain ⟨hlo, hhi⟩ := hnumbers o ho.mem_values
  refine ⟨hlo, hhi, ?_⟩
  rintro t ⟨⟩
  exact htimes o ho.mem_values

/-- **Pinning is exact and is done once.**  In every world that can come about, with numbers of 64
    bits and times that are not negative, and from every point of view: what is no lock stays as it
    is, and the pinned text of a lock is read as the lock with each target pinned and nothing else
    changed.  To pin a text a second time changes nothing. -/
theorem Reachable.pinText_exact (hw : w.Reachable)
    (hnumbers : ∀ o ∈ w.objects.values, Number.minInteger ≤ o.dbref ∧ o.dbref ≤ Number.maxInteger)
    (htimes : ∀ o ∈ w.objects.values, 0 ≤ o.created ∧ o.created ≤ Number.maxInteger)
    (looker : Option Dbref) (text : String) :
    (∀ err, LockExpr.read text.toList = .error err → pinText w looker text = text) ∧
    (∀ e, LockExpr.read text.toList = .ok e →
      ∃ e', LockExpr.read (pinText w looker text).toList = .ok e' ∧
        e.Lifts (Target.PinsTo w looker) e') ∧
    pinText w looker (pinText w looker text) = pinText w looker text := by
  -- A lock is read back after it is pinned.
  have hback : ∀ e, LockExpr.read text.toList = .ok e →
      LockExpr.read (pinText w looker text).toList = .ok (e.pin w looker) := by
    intro e he
    rw [pinText_of_ok he, String.toList_ofList]
    exact LockExpr.read_text ((LockExpr.read_writable he).mapTargets
      (hw.sound.pin_cases fun _ => identity_writable hnumbers htimes))
  have hlifts : ∀ e : LockExpr, e.Lifts (Target.PinsTo w looker) (e.pin w looker) :=
    LockExpr.lifts_mapTargets (Target.pinsTo_pin hw.sound)
  refine ⟨fun err herr => pinText_of_error herr, fun e he => ⟨_, hback e he, hlifts e⟩, ?_⟩
  cases hread : LockExpr.read text.toList with
  | error err => rw [pinText_of_error hread, pinText_of_error hread]
  | ok e =>
    have hpin : (e.pin w looker).pin w looker = e.pin w looker :=
      (hlifts e).mapTargets_eq fun t t' => Target.PinsTo.pin_eq
    rw [pinText_of_ok (hback e hread), hpin, pinText_of_ok hread]

/-- A lock with a name that only the looker resolves, a name that is not found, the numbers of an
    object and of none, and a time of creation that is wrong.  A number in the free text of a key is
    no target. -/
theorem start_pinText_exact :
    let text := "me|=Nobody & #0|!(@#7/Use & #0:9)&sex:#1"
    let pinned := "#1:2 | =Nobody & #0:1 | !(@#7/Use & #0:9) & SEX:#1"
    let e := LockExpr.or
      (.or (.key (.bare (.name "me")))
        (.and (.key (.exact (.name "Nobody"))) (.key (.bare (.ref ⟨0, none⟩)))))
      (.and
        (.not (.group (.and (.key (.indirect (.ref ⟨7, none⟩) (some "Use")))
          (.key (.bare (.ref ⟨0, some 9⟩))))))
        (.key (.unlockerAttr "SEX" "#1")))
    LockExpr.read text.toList = .ok e ∧ pinText start (some 1) text = pinned ∧
      (∃ e', LockExpr.read pinned.toList = .ok e' ∧ e.Lifts (Target.PinsTo start (some 1)) e') ∧
      pinText start (some 1) pinned = pinned := by
  intro text pinned e
  have hread : LockExpr.read text.toList = .ok e := by decide +kernel
  have hpinned : pinText start (some 1) text = pinned := by decide +kernel
  -- Everything that can be found gets its time; numbers in the text of an attribute key do not.
  obtain ⟨-, hlock, htwice⟩ :=
    start_reachable.pinText_exact (by decide +kernel) (by decide +kernel) (some 1) text
  rw [hpinned] at hlock htwice
  exact ⟨hread, hpinned, hlock e hread, htwice⟩

end World

end Softcode
