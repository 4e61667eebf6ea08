import Softcode.Proofs.Lock.Validation
import Softcode.Proofs.World.Sound

namespace Softcode

/-!
# Why a lock without negation is passed

A lock may ask for a lock of another object, that one for a third, and so on in a circle.  Who
passes has a reason, and a reason is finite: a `Derivation` follows the tree of a lock down to keys
that hold by themselves, and where a key asks for another lock it goes on with the tree of that
lock.  No bound is built into it.  Its `depth` is how many times it goes on to another lock along
one branch.

Locks are tried with a bound on that depth.  If there is no negation, a bound can only make fewer
people pass, and those who pass are exactly those with a derivation within the bound:

* `LockExpr.meaning_iff_derivation` — one lock, if the locks that it asks for are answered by
  derivations;
* `World.PositiveLocks.passesIndirectIn_iff` — all locks, by induction on the bound;
* `World.PositiveLocks.isEmpty_of_circle` — locks that only rest on each other have no derivation.
-/

/-! ### Locks without negation -/

/-- Is there no negation in the lock? -/
def LockExpr.isPositive : LockExpr → Bool
  | or a b | and a b => a.isPositive && b.isPositive
  | not _ => false
  | group a => a.isPositive
  | key _ => true

namespace World

/-- The lock that is in force, as a tree. -/
def storedLock? (w : World) (d : Dbref) (kind : LockKind) : Option LockExpr :=
  (LockExpr.read ((w.lockText? d kind).getD defaultLock).toList).toOption

/-- Is every stored text a lock without negation, and one that can be made ready? -/
def PositiveLocks (w : World) : Prop :=
  ∀ d kind text, w.lockText? d kind = some text →
    (∃ e, LockExpr.read text.toList = .ok e ∧ e.isPositive) ∧
      ∃ lock, ReadyLock.ofText w text = .ok lock

end World

/-! ### Derivations -/

/-- The kind of lock that a word in a key asks for. -/
def askedKind? : Option String → Option LockKind
  | none => some .basic
  | some word => (LockKind.read word).toOption

/-- A reason why the unlocker passes a lock on an object. -/
inductive Derivation (w : World) (unlocker : Object) : Object → LockExpr → Type
  | left {gated : Object} {a b : LockExpr} (h : Derivation w unlocker gated a) :
      Derivation w unlocker gated (.or a b)
  | right {gated : Object} {a b : LockExpr} (h : Derivation w unlocker gated b) :
      Derivation w unlocker gated (.or a b)
  | both {gated : Object} {a b : LockExpr} (ha : Derivation w unlocker gated a)
      (hb : Derivation w unlocker gated b) : Derivation w unlocker gated (.and a b)
  | group {gated : Object} {a : LockExpr} (h : Derivation w unlocker gated a) :
      Derivation w unlocker gated (.group a)
  /-- The key holds by itself, whatever is said of other locks. -/
  | key {gated : Object} {k : Key} (h : k.meaning w (fun _ _ => false) gated unlocker) :
      Derivation w unlocker gated (.key k)
  /-- The object that the key names exists, and the unlocker passes its lock, with that object in
      the place of the one that is locked. -/
  | indirect {gated object : Object} {t : Target} {word : Option String} {r : Reference}
      {kind : LockKind} {e : LockExpr} (hr : t.reference? w = some r)
      (hkind : askedKind? word = some kind) (hobject : w.referent? r = some object)
      (he : w.storedLock? object.dbref kind = some e) (h : Derivation w unlocker object e) :
      Derivation w unlocker gated (.key (.indirect t word))

/-- How deep other locks are asked for. -/
def Derivation.depth {w : World} {unlocker gated : Object} {e : LockExpr} :
    Derivation w unlocker gated e → Nat
  | left h => h.depth
  | right h => h.depth
  | both ha hb => max ha.depth hb.depth
  | group h => h.depth
  | key _ => 0
  | indirect _ _ _ _ h => h.depth + 1

section

variable {w : World} {unlocker gated : Object} {n : Nat}

/-- Is there a derivation for the lock of the object that the reference names, one that is less deep
    than `n`? -/
def AskedWithin (w : World) (unlocker : Object) (n : Nat) (r : Reference) (kind : LockKind) :
    Prop :=
  ∃ object e, w.referent? r = some object ∧ w.storedLock? object.dbref kind = some e ∧
    ∃ d : Derivation w unlocker object e, d.depth < n

/-- A key that asks for another lock is answered by the asked one. -/
private theorem Key.meaning_indirect (ask : Reference → LockKind → Bool) (t : Target)
    (word : Option String) :
    (indirect t word).meaning w ask gated unlocker ↔
      ∃ r kind, t.reference? w = some r ∧ askedKind? word = some kind ∧ ask r kind := by
  cases word with
  | none => simp [meaning, askedKind?, Option.any_eq_true]
  | some l => simp [meaning, askedKind?, Option.any_eq_true, ← exists_and_left]

/-- Every other key has its meaning by itself. -/
private theorem Key.meaning_congr {k : Key} (hk : ∀ t word, k ≠ .indirect t word)
    (ask ask' : Reference → LockKind → Bool) :
    k.meaning w ask gated unlocker = k.meaning w ask' gated unlocker := by
  cases k with
  | indirect t word => exact absurd rfl (hk t word)
  | _ => rfl

/-- **One lock is passed exactly by those with a derivation,** if the locks that it asks for are
    answered by derivations that are less deep. -/
theorem LockExpr.meaning_iff_derivation {e : LockExpr} (hpositive : e.isPositive)
    {ask : Reference → LockKind → Bool}
    (hask : ∀ r kind, ask r kind ↔ AskedWithin w unlocker n r kind) :
    e.meaning w ask gated unlocker ↔ ∃ d : Derivation w unlocker gated e, d.depth ≤ n := by
  induction e with
  | or a b iha ihb =>
    rw [isPositive, Bool.and_eq_true] at hpositive
    rw [meaning, Bool.or_eq_true, iha hpositive.1, ihb hpositive.2]
    constructor
    · rintro (⟨d, hd⟩ | ⟨d, hd⟩)
      · exact ⟨.left d, hd⟩
      · exact ⟨.right d, hd⟩
    · rintro ⟨d, hd⟩
      cases d with
      | left d => exact .inl ⟨d, hd⟩
      | right d => exact .inr ⟨d, hd⟩
  | and a b iha ihb =>
    rw [isPositive, Bool.and_eq_true] at hpositive
    rw [meaning, Bool.and_eq_true, iha hpositive.1, ihb hpositive.2]
    constructor
    · rintro ⟨⟨da, ha⟩, db, hb⟩
      exact ⟨.both da db, max_le ha hb⟩
    · rintro ⟨d, hd⟩
      cases d with
      | both da db => exact ⟨⟨da, le_trans (le_max_left ..) hd⟩, db, le_trans (le_max_right ..) hd⟩
  | not a => cases hpositive
  | group a iha =>
    rw [meaning, iha hpositive]
    constructor
    · rintro ⟨d, hd⟩
      exact ⟨.group d, hd⟩
    · rintro ⟨d, hd⟩
      cases d with
      | group d => exact ⟨d, hd⟩
  | key k =>
    rw [meaning]
    -- Only where a key asks for another lock do the answers matter.
    by_cases hk : ∃ t word, k = .indirect t word
    · obtain ⟨t, word, rfl⟩ := hk
      rw [Key.meaning_indirect]
      constructor
      · rintro ⟨r, kind, hr, hkind, hpass⟩
        obtain ⟨object, e, hobject, he, d, hd⟩ := (hask r kind).mp hpass
        exact ⟨.indirect hr hkind hobject he d, hd⟩
      · rintro ⟨d, hd⟩
        cases d with
        | key h =>
          -- No key that asks for another lock holds by itself.
          obtain ⟨r, kind, -, -, hpass⟩ := (Key.meaning_indirect ..).mp h
          cases hpass
        | indirect hr hkind hobject he d =>
          exact ⟨_, _, hr, hkind, (hask _ _).mpr ⟨_, _, hobject, he, d, hd⟩⟩
    · rw [Key.meaning_congr (fun t word h => hk ⟨t, word, h⟩) ask fun _ _ => false]
      constructor
      · intro h
        exact ⟨.key h, Nat.zero_le n⟩
      · rintro ⟨d, -⟩
        cases d with
        | key h => exact h
        | indirect => exact absurd ⟨_, _, rfl⟩ hk

end

/-! ### All locks of a world -/

namespace World

variable {w : World}

/-- The lock in force is a tree without negation, and the condition that is tried is made from
    it. -/
theorem PositiveLocks.stored (h : w.PositiveLocks) (d : Dbref) (kind : LockKind) :
    ∃ e, w.storedLock? d kind = some e ∧ e.isPositive ∧
      e.condition w = .ok (w.freshLock d kind).condition := by
  cases htext : w.lockText? d kind with
  | none =>
    -- The default is the lock that everybody passes.
    have hsettled : Softcode.Settled ((w.lockText? d kind).getD defaultLock) .always := by
      rw [htext]
      exact settled_defaultLock
    have hread : LockExpr.read defaultLock.toList = .ok (.key .always) := by decide +kernel
    refine ⟨.key .always, ?_, rfl, ?_⟩
    · rw [storedLock?, htext, Option.getD_none, hread]
      rfl
    · rw [freshLock_eq hsettled]
      rfl
  | some text =>
    obtain ⟨⟨e, hread, hpositive⟩, lock, hlock⟩ := h d kind text htext
    obtain ⟨e', c, hread', -, hc, rfl⟩ := ReadyLock.ofText_eq_ok_iff.mp hlock
    obtain rfl := Except.ok.inj (hread.symm.trans hread')
    refine ⟨e, ?_, hpositive, ?_⟩
    · rw [storedLock?, htext, Option.getD_some, hread]
      rfl
    · rw [freshLock, htext, Option.getD_some, hlock]
      exact hc

/-- **Within a bound, the locks of other objects are passed exactly by those with a derivation.**
    The bound is on how many objects are asked one after the other; each of them is one step in
    depth. -/
theorem PositiveLocks.passesIndirectIn_iff (h : w.PositiveLocks) (unlocker : Object) (n : Nat)
    (r : Reference) (kind : LockKind) :
    w.passesIndirectIn w.freshLock unlocker n r kind ↔ AskedWithin w unlocker n r kind := by
  induction n generalizing r kind with
  | zero =>
    constructor
    · intro hpass
      cases hpass
    · rintro ⟨object, e, -, -, d, hd⟩
      exact absurd hd (Nat.not_lt_zero _)
  -- One object more has been asked, so its own lock may ask one less.
  | succ n ih =>
    rw [passesIndirectIn]
    cases hobject : w.referent? r with
    | none => simp [AskedWithin, hobject]
    | some object =>
      obtain ⟨e, he, hpositive, hc⟩ := h.stored object.dbref kind
      dsimp only
      rw [LockExpr.holdsWith_condition hc, LockExpr.meaning_iff_derivation hpositive ih]
      simp only [AskedWithin, hobject, Option.some.injEq, Nat.lt_succ_iff]
      constructor
      · rintro ⟨d, hd⟩
        exact ⟨object, e, rfl, he, d, hd⟩
      · rintro ⟨_, e', rfl, he', d, hd⟩
        obtain rfl := Option.some.inj (he.symm.trans he')
        exact ⟨d, hd⟩

/-- A lock is passed exactly by those with a derivation within the bound. -/
private theorem PositiveLocks.passesLockIn_iff (h : w.PositiveLocks) {lock : ReadyLock}
    {e : LockExpr} (hpositive : e.isPositive) (hc : e.condition w = .ok lock.condition)
    (gated unlocker : Object) :
    w.passesLockIn w.freshLock lock gated unlocker ↔
      ∃ d : Derivation w unlocker gated e, d.depth ≤ maxIndirections := by
  rw [passesLockIn, LockExpr.holdsWith_condition hc,
    LockExpr.meaning_iff_derivation hpositive (h.passesIndirectIn_iff unlocker maxIndirections)]

/-! ### Locks that rest on each other -/

/-- Do the locks of a circle rest on each other, for the unlocker?  None of them is passed as long
    as nobody passes the others, whatever is said of locks outside. -/
def Circle (w : World) (unlocker : Object) (member : Object → LockKind → Prop) : Prop :=
  ∀ gated kind e, member gated kind → w.storedLock? gated.dbref kind = some e →
    ∀ ask : Reference → LockKind → Bool,
      (∀ r kind' object, w.referent? r = some object → member object kind' → ask r kind' = false) →
        e.meaning w ask gated unlocker = false

/-- **No lock of a circle has a derivation.**  The least deep one would have to go on with one for
    another lock of the circle, which is less deep still. -/
theorem PositiveLocks.isEmpty_of_circle (h : w.PositiveLocks) {unlocker gated : Object}
    {member : Object → LockKind → Prop} (hcircle : w.Circle unlocker member) {kind : LockKind}
    (hgated : member gated kind) {e : LockExpr} (he : w.storedLock? gated.dbref kind = some e) :
    IsEmpty (Derivation w unlocker gated e) := by
  -- By strong induction on the depth: what is less deep is asked for, and members are asked in
  -- vain.
  suffices hdepth : ∀ n gated kind e, member gated kind → w.storedLock? gated.dbref kind = some e →
      ∀ d : Derivation w unlocker gated e, d.depth ≠ n from
    ⟨fun d => hdepth d.depth gated kind e hgated he d rfl⟩
  intro n
  induction n using Nat.strongRecOn with
  | ind n ih =>
    intro gated kind e hgated he d hd
    obtain ⟨e', he', hpositive, -⟩ := h.stored gated.dbref kind
    obtain rfl := Option.some.inj (he.symm.trans he')
    classical
    -- Everybody is taken to pass who has a derivation that is less deep.
    let ask : Reference → LockKind → Bool := fun r kind => decide (AskedWithin w unlocker n r kind)
    have hpass : e.meaning w ask gated unlocker :=
      (LockExpr.meaning_iff_derivation hpositive fun _ _ => decide_eq_true_iff).mpr ⟨d, hd.le⟩
    have hfail : e.meaning w ask gated unlocker = false := by
      refine hcircle gated kind e hgated he ask fun r kind' object hobject hmember => ?_
      refine decide_eq_false ?_
      rintro ⟨object', e', hobject', he', d', hd'⟩
      obtain rfl := Option.some.inj (hobject.symm.trans hobject')
      exact ih d'.depth hd' object kind' e' hmember he' d' rfl
    rw [hfail] at hpass
    cases hpass

/-! ### Who passes -/

/-- The lock in force is passed exactly by those with a derivation within the bound. -/
private theorem PositiveLocks.passes_iff (h : w.PositiveLocks) {c : LockCache}
    (hc : c.view w = w.freshLock) (kind : LockKind) (gated unlocker : Object) :
    ((w.passes kind gated unlocker).run c).1 ↔
      ∃ e, w.storedLock? gated.dbref kind = some e ∧
        ∃ d : Derivation w unlocker gated e, d.depth ≤ maxIndirections := by
  obtain ⟨e, he, hpositive, hcondition⟩ := h.stored gated.dbref kind
  rw [(w.passes_answers _ kind gated unlocker c hc).1,
    h.passesLockIn_iff hpositive hcondition gated unlocker]
  constructor
  · intro hd
    exact ⟨e, he, hd⟩
  · rintro ⟨e', he', hd⟩
    obtain rfl := Option.some.inj (he.symm.trans he')
    exact hd

/-- **If no lock has a negation, those who pass are exactly those with a derivation that asks for
    other locks at most ten deep.**  So it is for a lock that is made ready from a text, and for the
    lock of each kind on an object; a lock that only rests on a circle is never passed. -/
theorem PositiveLocks.passes_iff_derivation (h : w.PositiveLocks) {c : LockCache}
    (hc : c.view w = w.freshLock) (gated unlocker : Object) :
    (∀ text e lock, LockExpr.read text.toList = .ok e → e.isPositive →
        ReadyLock.ofText w text = .ok lock →
          (((w.passesLock lock gated unlocker).run c).1 ↔
            ∃ d : Derivation w unlocker gated e, d.depth ≤ 10)) ∧
      (∀ kind, ((w.passes kind gated unlocker).run c).1 ↔
        ∃ e, w.storedLock? gated.dbref kind = some e ∧
          ∃ d : Derivation w unlocker gated e, d.depth ≤ 10) ∧
      ∀ member, w.Circle unlocker member → ∀ kind, member gated kind →
        (∀ e, w.storedLock? gated.dbref kind = some e → IsEmpty (Derivation w unlocker gated e)) ∧
          ((w.passes kind gated unlocker).run c).1 = false := by
  refine ⟨?_, fun kind => h.passes_iff hc kind gated unlocker, ?_⟩
  · intro text e lock hread hpositive hlock
    obtain ⟨e', condition, hread', -, hcondition, rfl⟩ := ReadyLock.ofText_eq_ok_iff.mp hlock
    obtain rfl := Except.ok.inj (hread.symm.trans hread')
    rw [(w.passesLock_answers _ _ gated unlocker c hc).1]
    exact h.passesLockIn_iff hpositive hcondition gated unlocker
  · intro member hcircle kind hmember
    refine ⟨fun e he => h.isEmpty_of_circle hcircle hmember he, ?_⟩
    rw [← Bool.not_eq_true, h.passes_iff hc]
    rintro ⟨e, he, d, -⟩
    exact (h.isEmpty_of_circle hcircle hmember he).false d

/-- The basic locks of a room and its wizard ask for each other, and the wizard passes neither.  The
    use lock of the wizard asks for the enter lock of the room, which everybody passes. -/
theorem mutual_passes_iff_derivation :
    let w := ((start.storeLock 0 .basic "@#1").storeLock 1 .basic "@#0 | =#7").storeLock 1 .use
      "@#0/Enter & =#1"
    let wizard : Object :=
      { Object.new 1 2 .player "Wizard" with location := some 0, flags := ["WIZARD"] }
    let use : LockExpr := .key (.indirect (.ref ⟨1, none⟩) (some "Use"))
    let member (o : Object) (kind : LockKind) : Prop := (o.dbref = 0 ∨ o.dbref = 1) ∧ kind = .basic
    w.object? 1 = some wizard ∧ w.PositiveLocks ∧ ({} : LockCache).view w = w.freshLock ∧
      w.Circle wizard member ∧ ((w.passes .basic wizard wizard).run {}).1 = false ∧
      ∃ d : Derivation w wizard wizard use, d.depth ≤ 10 := by
  intro w wizard use member
  -- All locks in this world are among the three.
  have hlocks : w.PositiveLocks := by
    intro d kind text htext
    have hmem : ((d, kind), text) ∈ [((0, .basic), "@#1"), ((1, .basic), "@#0 | =#7"),
        ((1, .use), "@#0/Enter & =#1")] := Table.mem_of_find? htext
    simp only [List.mem_cons, Prod.mk.injEq, List.not_mem_nil, or_false] at hmem
    rcases hmem with ⟨-, rfl⟩ | ⟨-, rfl⟩ | ⟨-, rfl⟩
    · exact ⟨⟨.key (.indirect (.ref ⟨1, none⟩) none), by decide +kernel, rfl⟩,
        ⟨"@#1", .indirect ⟨1, none⟩ .basic⟩, by decide +kernel⟩
    · exact ⟨⟨.or (.key (.indirect (.ref ⟨0, none⟩) none)) (.key (.exact (.ref ⟨7, none⟩))),
        by decide +kernel, rfl⟩,
        ⟨"@#0 | =#7", .or (.indirect ⟨0, none⟩ .basic) (.exact ⟨7, none⟩)⟩, by decide +kernel⟩
    · exact ⟨⟨.and (.key (.indirect (.ref ⟨0, none⟩) (some "Enter")))
        (.key (.exact (.ref ⟨1, none⟩))), by decide +kernel, rfl⟩,
        ⟨"@#0/Enter & =#1", .and (.indirect ⟨0, none⟩ .enter) (.exact ⟨1, none⟩)⟩,
        by decide +kernel⟩
  have hcircle : w.Circle wizard member := by
    rintro gated kind e ⟨hgated | hgated, rfl⟩ he ask hask <;> rw [hgated] at he
    · have hstored : w.storedLock? 0 .basic = some (.key (.indirect (.ref ⟨1, none⟩) none)) := by
        decide +kernel
      obtain rfl := Option.some.inj (hstored.symm.trans he)
      have hwizard : w.referent? ⟨1, none⟩ = some wizard := by decide +kernel
      exact hask ⟨1, none⟩ .basic _ hwizard ⟨.inr rfl, rfl⟩
    · have hstored : w.storedLock? 1 .basic
          = some (.or (.key (.indirect (.ref ⟨0, none⟩) none))
            (.key (.exact (.ref ⟨7, none⟩)))) := by
        decide +kernel
      obtain rfl := Option.some.inj (hstored.symm.trans he)
      have hroom : w.referent? ⟨0, none⟩
          = some { Object.new 0 1 .room "Room Zero" with owner := 1 } := by
        decide +kernel
      have hanswer : ask ⟨0, none⟩ .basic = false := hask _ _ _ hroom ⟨.inl rfl, rfl⟩
      have hseven : (Key.exact (.ref ⟨7, none⟩)).meaning w ask gated wizard = false := by
        show Reference.matches ⟨7, none⟩ wizard = false
        decide +kernel
      rw [LockExpr.meaning, LockExpr.meaning, LockExpr.meaning, hseven, Bool.or_false]
      exact hanswer
  have hview : ({} : LockCache).view w = w.freshLock := by
    funext d kind
    exact LockSession.view_of_get?_none rfl
  obtain ⟨htext, -, hcircular⟩ := hlocks.passes_iff_derivation hview wizard wizard
  refine ⟨by decide +kernel, hlocks, hview, hcircle,
    (hcircular member hcircle .basic ⟨.inr rfl, rfl⟩).2, ?_⟩
  exact (htext "@#1/Use" use ⟨"@#1/Use", .indirect ⟨1, none⟩ .use⟩ (by decide +kernel) rfl
    (by decide +kernel)).mp (by decide +kernel)

end World

end Softcode
