import Softcode.Proofs.Lock.CacheView
import Softcode.Proofs.Lock.ExprText
import Softcode.Proofs.Results
import Softcode.Proofs.World.Sound

namespace Softcode

/-!
# Pinning keeps the meaning of locks

To pin a lock is to read it, to replace its references by ones that give a time of creation, and to
print it again.  In the world where that is done, the new text is a lock that the same unlockers
pass:

* `Target.pin_rel` — a target and the pinned target stand for references that agree, that is, name
  the same objects;
* `LockExpr.condition_pin` — so the conditions of the lock and of the pinned lock ask for the same;
* `World.Reachable.passesLock_pinText` — the statement about texts, with the way through the printer
  and the reader.
-/

/-! ### References that agree -/

/-- Do two references name the same objects of the world? -/
structure Reference.Agree (w : World) (r r' : Reference) : Prop where
  number : r.number = r'.number
  live : ∀ o, w.Live o → r.matches o = r'.matches o

namespace Reference.Agree

variable {w : World} {r r' : Reference}

protected theorem refl (r : Reference) : Agree w r r := ⟨rfl, fun _ _ => rfl⟩

/-- A number alone agrees with the identity of the object that has it. -/
private theorem of_bare (hw : w.Sound) (hbare : r.isBare) {o : Object}
    (ho : w.object? r.number = some o) :
    Agree w r o.identity := by
  have hdbref : o.dbref = r.number := hw.dbref_eq ho
  refine ⟨hdbref.symm, ?_⟩
  intro u hu
  have hnone : r.created.isNone := hbare
  simp only [Reference.matches, names, Object.identity, hdbref, hnone, Bool.true_or, Bool.and_true,
    Option.isNone_some, Bool.false_or]
  by_cases hnumber : r.number = u.dbref
  · -- The number is that of `o`, which is live, so `u` is `o`.
    have huo : some u = some o := by
      rw [← ho, hnumber]
      exact hu.symm
    obtain rfl := Option.some.inj huo
    simp
  · simp [hnumber]

/-- References that agree stand for the same object. -/
private theorem referent?_eq (hw : w.Sound) (h : Agree w r r') :
    w.referent? r = w.referent? r' := by
  rw [World.referent?, World.referent?, ← h.number]
  cases ho : w.object? r.number with
  | none => rfl
  | some o => simp only [Option.filter_some, h.live o (hw.live_of_object? ho)]

/-- An unlocker carries both or neither. -/
private theorem carries_eq (hw : w.Sound) (h : Agree w r r') (unlocker : Object) :
    w.carries unlocker r = w.carries unlocker r' := by
  rw [World.carries, World.carries, h.number, h.referent?_eq hw]

end Reference.Agree

/-! ### Conditions that ask for the same -/

/-- Does each live unlocker satisfy both conditions or none of them, whatever the locked object is
    and however other objects are asked, as long as references that agree get the same answer? -/
def Condition.Same (w : World) (c c' : Condition) : Prop :=
  ∀ ask : Reference → LockKind → StateM LockCache Bool,
    (∀ r r' lock, Reference.Agree w r r' → ask r lock = ask r' lock) →
    ∀ gated unlocker, w.Live unlocker →
      c.holds w ask gated unlocker = c'.holds w ask gated unlocker

namespace Condition.Same

variable {w : World} {a a' b b' : Condition}

/-- A condition asks for what it asks for. -/
protected theorem refl (c : Condition) : Same w c c := fun _ _ _ _ _ => rfl

protected theorem or (ha : Same w a a') (hb : Same w b b') :
    Same w (.or a b) (.or a' b') := by
  intro ask hask gated unlocker hu
  rw [holds, holds, ha ask hask gated unlocker hu, hb ask hask gated unlocker hu]

protected theorem and (ha : Same w a a') (hb : Same w b b') :
    Same w (.and a b) (.and a' b') := by
  intro ask hask gated unlocker hu
  rw [holds, holds, ha ask hask gated unlocker hu, hb ask hask gated unlocker hu]

/-- What is negated may be replaced. -/
protected theorem not (ha : Same w a a') : Same w (.not a) (.not a') := by
  intro ask hask gated unlocker hu
  rw [holds, holds, ha ask hask gated unlocker hu]

end Condition.Same

/-! ### Pinning targets, keys and locks -/

section

variable {w : World}

/-- A target and the pinned target stand for references that agree, or both for none. -/
theorem Target.pin_rel (hw : w.Sound) (t : Target) :
    Option.Rel (Reference.Agree w) (t.reference? w) ((t.pin w none).reference? w) := by
  cases t with
  -- A number without a time is given the time of the object that has it now.
  | ref r =>
    simp only [pin]
    split
    · rename_i hbare
      cases ho : w.object? r.number with
      | none => exact Option.Rel.some (Reference.Agree.refl r)
      | some o => exact Option.Rel.some (Reference.Agree.of_bare hw hbare ho)
    · exact Option.Rel.some (Reference.Agree.refl r)
  -- A name is given the identity of the object that it stands for now.
  | name n =>
    simp only [pin]
    cases ho : w.locate? n.toList none with
    | none =>
      simp only [Option.elim_none, reference?, ho, Option.map_none]
      exact Option.Rel.none
    | some o =>
      simp only [Option.elim_some, reference?, ho, Option.map_some]
      exact Option.Rel.some (Reference.Agree.refl _)

/-- What a key asks of its target, it asks of the pinned target. -/
private theorem Target.condition_pin (hw : w.Sound) {f : Reference → Condition}
    (hf : ∀ r r', Reference.Agree w r r' → Condition.Same w (f r) (f r')) (t : Target) :
    Condition.Same w (t.condition w f) ((t.pin w none).condition w f) := by
  have hrel := Target.pin_rel hw t
  unfold condition
  generalize t.reference? w = x at hrel ⊢
  generalize (t.pin w none).reference? w = y at hrel ⊢
  cases hrel with
  | none => exact Condition.Same.refl _
  | some hagree => exact hf _ _ hagree

/-- The conditions of a key and of the pinned key ask for the same. -/
private theorem Key.condition_pin (hw : w.Sound) {k : Key} {c : Condition}
    (h : k.condition w = .ok c) :
    ∃ c', (k.mapTarget (·.pin w none)).condition w = .ok c' ∧ Condition.Same w c c' := by
  cases k with
  | bare t =>
    cases h
    refine ⟨_, rfl, Target.condition_pin hw (fun r r' hr ask _ gated unlocker hu => ?_) t⟩
    simp only [Condition.holds, hr.live unlocker hu, hr.carries_eq hw]
  | exact t =>
    cases h
    refine ⟨_, rfl, Target.condition_pin hw (fun r r' hr ask _ gated unlocker hu => ?_) t⟩
    simp only [Condition.holds, hr.live unlocker hu]
  | carry t =>
    cases h
    refine ⟨_, rfl, Target.condition_pin hw (fun r r' hr ask _ gated unlocker hu => ?_) t⟩
    simp only [Condition.holds, hr.carries_eq hw]
  | owner t =>
    cases h
    refine ⟨_, rfl, Target.condition_pin hw (fun r r' hr ask _ gated unlocker hu => ?_) t⟩
    simp only [Condition.holds, hr.referent?_eq hw]
  | indirect t lock =>
    have hask : ∀ kind r r', Reference.Agree w r r' →
        Condition.Same w (.indirect r kind) (.indirect r' kind) :=
      fun kind r r' hr ask hask gated unlocker _ => hask r r' kind hr
    cases lock with
    | none =>
      cases h
      exact ⟨_, rfl, Target.condition_pin hw (hask .basic) t⟩
    | some l =>
      simp only [condition, mapTarget] at h ⊢
      split at h
      · rename_i kind _
        cases h
        exact ⟨_, rfl, Target.condition_pin hw (hask kind) t⟩
      · exact absurd h (by simp)
  -- The other keys have no targets, so pinning leaves them.
  | _ => exact ⟨c, h, Condition.Same.refl c⟩

/-- **Pinning keeps the condition.** The conditions of a lock and of the pinned lock ask for the
    same. -/
theorem LockExpr.condition_pin (hw : w.Sound) {e : LockExpr} {c : Condition}
    (h : e.condition w = .ok c) :
    ∃ c', (e.pin w none).condition w = .ok c' ∧ Condition.Same w c c' := by
  -- Each operand is ready before pinning, so it is ready afterwards and the same.
  induction e generalizing c with
  | or a b iha ihb =>
    obtain ⟨ca, ha, h⟩ := bind_eq_ok.mp h
    obtain ⟨cb, hb, h⟩ := bind_eq_ok.mp h
    cases h
    obtain ⟨ca', ha', hsa⟩ := iha ha
    obtain ⟨cb', hb', hsb⟩ := ihb hb
    exact ⟨.or ca' cb', bind_eq_ok.mpr ⟨ca', ha', bind_eq_ok.mpr ⟨cb', hb', rfl⟩⟩, hsa.or hsb⟩
  | and a b iha ihb =>
    obtain ⟨ca, ha, h⟩ := bind_eq_ok.mp h
    obtain ⟨cb, hb, h⟩ := bind_eq_ok.mp h
    cases h
    obtain ⟨ca', ha', hsa⟩ := iha ha
    obtain ⟨cb', hb', hsb⟩ := ihb hb
    exact ⟨.and ca' cb', bind_eq_ok.mpr ⟨ca', ha', bind_eq_ok.mpr ⟨cb', hb', rfl⟩⟩, hsa.and hsb⟩
  | not a iha =>
    obtain ⟨ca, ha, h⟩ := bind_eq_ok.mp h
    cases h
    obtain ⟨ca', ha', hsa⟩ := iha ha
    exact ⟨.not ca', bind_eq_ok.mpr ⟨ca', ha', rfl⟩, hsa.not⟩
  | group a iha => exact iha h
  | key k => exact Key.condition_pin hw h

end

/-! ### The pinned lock as a text -/

/-- What is wrong with a key on no object in particular is not its target. -/
private theorem Key.problem?_mapTarget (f : Target → Target) (k : Key) :
    (k.mapTarget f).problem? none = k.problem? none := by
  cases k <;> rfl

/-- The target of a key whose target is replaced. -/
theorem Key.target?_mapTarget (f : Target → Target) (k : Key) :
    (k.mapTarget f).target? = k.target?.map f := by
  cases k <;> rfl

/-- A key stays writable if its target stays or becomes a reference that can be written. -/
theorem Key.Writable.mapTarget {f : Target → Target} {k : Key} (hk : k.Writable)
    (hf : ∀ t, k.target? = some t → f t = t ∨ ∃ r, f t = .ref r ∧ r.Writable) :
    (k.mapTarget f).Writable := by
  have hw : ∀ t : Target, k.target? = some t → t.Writable → (f t).Writable := by
    intro t hkt ht
    rcases hf t hkt with h | ⟨r, h, hr⟩
    · rwa [h]
    · rw [h]
      exact hr
  cases k with
  | bare t =>
    -- A name alone is read as an attribute's name, so it has its own condition.
    rcases hf t rfl with h | ⟨r, h, hr⟩
    · rwa [Key.mapTarget, h]
    · rw [Key.mapTarget, h]
      exact hr
  | exact t => exact hw t rfl hk
  | carry t => exact hw t rfl hk
  | owner t => exact hw t rfl hk
  | indirect t lock => exact ⟨hw t rfl hk.1, hk.2⟩
  | _ => exact hk

namespace LockExpr

variable {f : Target → Target} {e : LockExpr}

/-- The keys of a lock whose targets are replaced. -/
theorem keys_mapTargets : (e.mapTargets f).keys = e.keys.map (·.mapTarget f) := by
  induction e with
  | or a b iha ihb => simp only [mapTargets, keys, iha, ihb, List.map_append]
  | and a b iha ihb => simp only [mapTargets, keys, iha, ihb, List.map_append]
  | not a iha => exact iha
  | group a iha => exact iha
  | key k => rfl

/-- A lock that is meant for no object in particular has no problem with targets. -/
private theorem problem?_mapTargets : (e.mapTargets f).problem? none = e.problem? none := by
  have hkey : Key.problem? none ∘ Key.mapTarget f = Key.problem? none :=
    funext (Key.problem?_mapTarget f)
  rw [problem?, problem?, keys_mapTargets, List.findSome?_map, hkey]

/-- The shape of a lock stays. -/
private theorem rank_mapTargets : (e.mapTargets f).rank = e.rank := by
  cases e <;> rfl

/-- To replace targets changes the shape of no lock, so only the keys have to be writable. -/
theorem Writable.mapTargets_of_keys (he : e.Writable)
    (hkeys : ∀ k ∈ e.keys, (k.mapTarget f).Writable) : (e.mapTargets f).Writable := by
  -- Targets do not change how tightly an expression binds.
  induction e with
  | or a b iha ihb =>
    obtain ⟨ha, hb, hone⟩ := he
    obtain ⟨hakeys, hbkeys⟩ := List.forall_mem_append.mp hkeys
    exact ⟨iha ha hakeys, ihb hb hbkeys, by rwa [rank_mapTargets]⟩
  | and a b iha ihb =>
    obtain ⟨ha, hb, hone, htwo⟩ := he
    obtain ⟨hakeys, hbkeys⟩ := List.forall_mem_append.mp hkeys
    exact ⟨iha ha hakeys, ihb hb hbkeys, by rwa [rank_mapTargets], by rwa [rank_mapTargets]⟩
  | not a iha => exact ⟨iha he.1 hkeys, by rw [rank_mapTargets]; exact he.2⟩
  | group a iha => exact iha he hkeys
  | key k => exact hkeys k List.mem_cons_self

theorem Writable.mapTargets (hf : ∀ t, f t = t ∨ ∃ r, f t = .ref r ∧ r.Writable)
    (he : e.Writable) : (e.mapTargets f).Writable :=
  he.mapTargets_of_keys fun k hk => ((writable_iff.mp he).2 k hk).mapTarget fun t _ => hf t

end LockExpr

namespace World

variable {w : World}

/-- If the identities of the objects can be written, pinning a target leaves it or makes it a
    reference that can be written. -/
theorem Sound.pin_cases (hw : w.Sound) (hwritable : ∀ o, w.Live o → o.identity.Writable)
    {looker : Option Dbref} (t : Target) :
    t.pin w looker = t ∨ ∃ r, t.pin w looker = .ref r ∧ r.Writable := by
  -- Whatever pinning puts in is the identity of a live object.
  cases t with
  | ref r =>
    simp only [Target.pin]
    split
    · cases ho : w.object? r.number with
      | none => exact .inl rfl
      | some o => exact .inr ⟨o.identity, rfl, hwritable o (hw.live_of_object? ho)⟩
    · exact .inl rfl
  | name n =>
    simp only [Target.pin]
    cases ho : w.locate? n.toList looker with
    | none => exact .inl rfl
    | some o => exact .inr ⟨o.identity, rfl, hwritable o (hw.locate?_live ho)⟩

/-- Asking through references that agree is the same computation. -/
private theorem Sound.passesIndirect_congr (hw : w.Sound) (unlocker : Object) (more : Nat)
    {r r' : Reference} (hr : Reference.Agree w r r') (lock : LockKind) :
    w.passesIndirect unlocker more r lock = w.passesIndirect unlocker more r' lock := by
  cases more with
  | zero => rfl
  | succ more => rw [passesIndirect, passesIndirect, hr.referent?_eq hw]

/-- **Pinning keeps the meaning of a lock.** In every world that can come about, with numbers of 64
    bits and times that are not negative, the pinned text of a lock is a lock again.  Trying it on a
    live unlocker is the same computation as trying the lock itself, and gives the same answer also
    in the cache that trying the lock itself has left. -/
theorem Reachable.passesLock_pinText (hw : w.Reachable)
    (hnumbers : ∀ o ∈ w.objects.values, Number.minInteger ≤ o.dbref ∧ o.dbref ≤ Number.maxInteger)
    (htimes : ∀ o ∈ w.objects.values, 0 ≤ o.created ∧ o.created ≤ Number.maxInteger)
    {text : String} {lock : ReadyLock} (hlock : ReadyLock.ofText w text = .ok lock) :
    ∃ lock', ReadyLock.ofText w (pinText w none text) = .ok lock' ∧
      ∀ gated unlocker, w.Live unlocker → ∀ cache : LockCache,
        (w.passesLock lock' gated unlocker).run cache
          = (w.passesLock lock gated unlocker).run cache ∧
        ((w.passesLock lock' gated unlocker).run
            ((w.passesLock lock gated unlocker).run cache).2).1
          = ((w.passesLock lock gated unlocker).run cache).1 := by
  have hsound := hw.sound
  have hwritable : ∀ o, w.Live o → o.identity.Writable := by
    intro o ho
    obtain ⟨hlo, hhi⟩ := hnumbers o ho.mem_values
    refine ⟨hlo, hhi, ?_⟩
    rintro t ⟨⟩
    exact htimes o ho.mem_values
  -- Reading, checking and making ready take the lock apart.
  unfold ReadyLock.ofText at hlock
  split at hlock
  · exact absurd hlock (by simp)
  rename_i e hread
  split at hlock
  · exact absurd hlock (by simp)
  rename_i hproblem
  obtain ⟨c, hc, hlock⟩ := bind_eq_ok.mp hlock
  cases hlock
  -- The same three steps for the pinned lock.
  have hread' : LockExpr.read (e.pin w none).text = .ok (e.pin w none) :=
    LockExpr.read_text ((LockExpr.read_writable hread).mapTargets (hsound.pin_cases hwritable))
  have hproblem' : (e.pin w none).problem? none = none := by
    rw [LockExpr.pin, LockExpr.problem?_mapTargets, hproblem]
  obtain ⟨c', hc', hsame⟩ := LockExpr.condition_pin hsound hc
  refine ⟨⟨pinText w none text, c'⟩, ?_, ?_⟩
  · have htext : (pinText w none text).toList = (e.pin w none).text := by
      simp only [pinText, hread, String.toList_ofList]
    rw [ReadyLock.ofText, htext, hread']
    simp only [hproblem', hc']
    rfl
  · intro gated unlocker hunlocker cache
    have heq : w.passesLock ⟨pinText w none text, c'⟩ gated unlocker
        = w.passesLock ⟨text, c⟩ gated unlocker :=
      (hsame _ (fun r r' lock hr => hsound.passesIndirect_congr unlocker maxIndirections hr lock)
        gated unlocker hunlocker).symm
    have hanswers := w.passesLock_answers (cache.view w) ⟨text, c⟩ gated unlocker
    rw [heq]
    exact ⟨rfl, hanswers.run_after hanswers rfl⟩

/-- The wizard passes a lock with a name, a lock of another object and a negation, and passes the
    pinned lock. -/
theorem start_passesLock_pinText :
    let text := "=Wizard & @#0 | !+#0"
    let room : Object := { Object.new 0 1 .room "Room Zero" with owner := 1 }
    let wizard : Object :=
      { Object.new 1 2 .player "Wizard" with location := some 0, flags := ["WIZARD"] }
    ∃ lock lock', ReadyLock.ofText start text = .ok lock ∧
      ReadyLock.ofText start (pinText start none text) = .ok lock' ∧
      ((start.passesLock lock room wizard).run {}).1 = true ∧
      ((start.passesLock lock' room wizard).run {}).1 = true := by
  intro text room wizard
  let lock : ReadyLock := ⟨text,
    .or (.and (.exact ⟨1, some 2⟩) (.indirect ⟨0, none⟩ .basic)) (.not (.carry ⟨0, none⟩))⟩
  have hlock : ReadyLock.ofText start text = .ok lock := by decide +kernel
  have hpasses : ((start.passesLock lock room wizard).run {}).1 = true := by decide +kernel
  obtain ⟨lock', hlock', hsame⟩ :=
    start_reachable.passesLock_pinText (by decide +kernel) (by decide +kernel) hlock
  refine ⟨lock, lock', hlock, hlock', hpasses, ?_⟩
  rw [(hsame room wizard (by decide +kernel) {}).1]
  exact hpasses

end World

end Softcode
