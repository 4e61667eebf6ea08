import Softcode.Proofs.Lock.Pinning

namespace Softcode

/-!
# Locks that cannot be written

An object may have a number of more than 64 bits or a negative time of creation.  Its identity can
be printed, but it is not read back: the reader stops in the middle of it, at a place where no
operator stands, and all of the text is no lock.  So a lock whose targets have been replaced by
references is read back as it is, or it is not read at all.

* `Key.read_stops` — of a key that is not writable nothing is read, or a colon is left behind it;
* `LockExpr.reads_or_fails` — the reader gets to the end of a lock only if all of its keys are
  writable;
* `LockExpr.eq_of_read_mapTargets` — what is read from the text of a lock with other references is
  that lock.
-/

namespace Key

variable {r : Reference} {rest : List Char}

/-- The target of a key is read up to a colon at most, if it is not writable. -/
private theorem readTarget_stops (hr : ¬ r.Writable) (hrest : EndsTarget rest) {x : Target × Nat}
    (h : readTarget (r.text ++ rest) = some x) :
    ((r.text ++ rest).drop x.2).head? = some ':' := by
  rw [readTarget_reference] at h
  obtain ⟨y, hy, rfl⟩ := Option.map_eq_some_iff.mp h
  exact readReference_stops hr hrest.digit hrest.colon hy

/-- A sign before a target changes nothing. -/
private theorem read_sign_stops {c : Char} (hc : c ∈ ['=', '+', '$', '@']) {k : Target → Key}
    (hread : ∀ cs, readSigned (c :: cs) = (readTarget cs).map fun (t, n) => (k t, n + 1))
    (hr : ¬ r.Writable) (hrest : Ends rest) {x : Key × Nat}
    (h : read (c :: (r.text ++ rest)) = some x) :
    ((c :: (r.text ++ rest)).drop x.2).head? = some ':' := by
  rw [read_signed hc, hread] at h
  obtain ⟨y, hy, rfl⟩ := Option.map_eq_some_iff.mp h
  exact readTarget_stops hr hrest.endsTarget hy

/-- Neither does the name of a lock behind it, which is not reached. -/
private theorem read_indirect_stops (hr : ¬ r.Writable) (hrest : EndsTarget rest) {x : Key × Nat}
    (h : read ('@' :: (r.text ++ rest)) = some x) :
    (('@' :: (r.text ++ rest)).drop x.2).head? = some ':' := by
  rw [read_signed (by simp), readSigned] at h
  obtain ⟨⟨t, n⟩, ht, h⟩ := Option.bind_eq_some_iff.mp h
  have hcolon := readTarget_stops hr hrest ht
  dsimp only at h hcolon
  split at h
  · rename_i after hafter
    rw [hafter] at hcolon
    exact absurd hcolon (by simp)
  · obtain rfl := Option.some.inj h
    exact hcolon

/-- **Of a key that is not writable nothing is read,** or a colon is left behind what is read. -/
theorem read_stops {k : Key} (hk : k.target? = some (.ref r)) (hr : ¬ r.Writable)
    (hrest : Ends rest) {x : Key × Nat} (h : read (k.text ++ rest) = some x) :
    ((k.text ++ rest).drop x.2).head? = some ':' := by
  -- Only these keys have a target; it stands last in the text but for the name of a lock.
  cases k with
  | bare t =>
    obtain rfl := Option.some.inj hk
    have hdigit : ∀ c ∈ rest.head?, c.isDigit = false := hrest.endsTarget.digit
    rw [text, Target.text, read_sharp] at h
    obtain ⟨y, hy, rfl⟩ := Option.map_eq_some_iff.mp h
    exact readReference_stops hr hdigit hrest.endsTarget.colon hy
  | exact t =>
    obtain rfl := Option.some.inj hk
    exact read_sign_stops (by simp) (fun _ => rfl) hr hrest h
  | carry t =>
    obtain rfl := Option.some.inj hk
    exact read_sign_stops (by simp) (fun _ => rfl) hr hrest h
  | owner t =>
    obtain rfl := Option.some.inj hk
    exact read_sign_stops (by simp) (fun _ => rfl) hr hrest h
  | indirect t lock =>
    obtain rfl := Option.some.inj hk
    cases lock with
    | none => exact read_indirect_stops hr hrest.endsTarget h
    | some l =>
      have htext : (indirect (.ref r) (some l)).text ++ rest
          = '@' :: (r.text ++ '/' :: (l.toList ++ rest)) := by simp [text, Target.text]
      rw [htext] at h ⊢
      exact read_indirect_stops hr (endsTarget_slash _) h
  | _ => cases hk

end Key

namespace LockExpr

variable {p : Pending} {outer : List Pending} {rest : List Char}

/-- The text of a reference, with or without a sign, is neither skipped nor does it open an
    operand. -/
private theorem opens_reference {k : Key} {r : Reference} (hk : k.target? = some (.ref r)) :
    ∃ c cs, k.text = c :: cs ∧ isGap c = false ∧ c ≠ '!' ∧ c ≠ '(' ∧ c ≠ ':' := by
  cases k with
  | bare t =>
    obtain rfl := Option.some.inj hk
    obtain ⟨c, cs, htext, -⟩ := r.text_eq_cons
    exact ⟨'#', c :: cs, htext, by decide⟩
  | indirect t lock => cases lock <;> exact ⟨'@', _, rfl, by decide⟩
  | exact | carry | owner => exact ⟨_, _, rfl, by decide⟩
  | _ => cases hk

/-- Behind an operand there is no place for a colon. -/
private theorem readFrom_colon (x : LockExpr) {cs : List Char} (hcs : cs.head? = some ':') :
    ∃ err, readFrom p outer (some x) cs = .error err := by
  obtain ⟨cs, rfl⟩ := List.head?_eq_some_iff.mp hcs
  refine ⟨':' :: cs, ?_⟩
  rw [readFrom.eq_def]
  cases outer <;> rfl

/-- The reader gives up at a key that is not writable. -/
private theorem readFrom_stops {k : Key} {r : Reference} (hk : k.target? = some (.ref r))
    (hr : ¬ r.Writable) (hrest : Key.Ends rest) :
    ∃ err, readFrom p outer none (k.text ++ rest) = .error err := by
  obtain ⟨c, cs, htext, hgap, hbang, hopen, hne⟩ := opens_reference hk
  have hstops := fun x => Key.read_stops hk hr hrest (x := x)
  rw [htext, List.cons_append] at hstops ⊢
  rw [readFrom.eq_def]
  simp only [hgap, hbang, hopen, Bool.false_eq_true, if_false]
  cases hread : Key.read (c :: (cs ++ rest)) with
  | none => exact ⟨_, rfl⟩
  | some x =>
    obtain ⟨k', n⟩ := x
    have hcolon := hstops _ hread
    -- At least the first character has been taken, since that is no colon.
    cases n with
    | zero => exact absurd (Option.some.inj hcolon) hne
    | succ n => exact readFrom_colon _ hcolon

/-- The reader gives up in the text of the lock, or it gets to the end and has an operand.  Then all
    keys are writable. -/
def ReadsOrFails (e : LockExpr) : Prop :=
  ∀ p outer rest, Key.Ends rest →
    (∃ err, readFrom p outer none (e.text ++ rest) = .error err) ∨
      (∀ k ∈ e.keys, k.Writable) ∧
        ∃ q x, readFrom p outer none (e.text ++ rest) = readFrom q outer (some x) rest

/-- Two locks with an operator between them. -/
theorem ReadsOrFails.operator {a b e : LockExpr} {c : Char} (hc : Key.isOperator c)
    (hstep : ∀ p outer x rest, ∃ q, readFrom p outer (some x) (c :: rest)
      = readFrom q outer none rest)
    (htext : e.text = a.text ++ ' ' :: c :: ' ' :: b.text) (hkeys : e.keys = a.keys ++ b.keys)
    (ha : a.ReadsOrFails) (hb : b.ReadsOrFails) : e.ReadsOrFails := by
  intro p outer rest hrest
  rw [htext, List.append_assoc, hkeys, List.forall_mem_append]
  rcases ha p outer (' ' :: c :: ' ' :: (b.text ++ rest))
    (ends_gap (by decide) (ends_operator hc)) with herr | ⟨hakeys, q, x, hread⟩
  · exact .inl herr
  · -- The first operand has been read, so the operator and then the second one are.
    obtain ⟨q', hq'⟩ := hstep q outer x (' ' :: (b.text ++ rest))
    have hmiddle : readFrom p outer none (a.text ++ ' ' :: c :: ' ' :: (b.text ++ rest))
        = readFrom q' outer none (b.text ++ rest) := by
      rw [hread, readFrom_gap (by decide), hq', readFrom_gap (by decide)]
    show (∃ err,
        readFrom p outer none (a.text ++ ' ' :: c :: ' ' :: (b.text ++ rest)) = .error err) ∨
      _ ∧ ∃ q x, readFrom p outer none (a.text ++ ' ' :: c :: ' ' :: (b.text ++ rest)) = _
    rw [hmiddle]
    rcases hb q' outer rest hrest with herr | ⟨hbkeys, hread⟩
    · exact .inl herr
    · exact .inr ⟨⟨hakeys, hbkeys⟩, hread⟩

/-- **The reader gets to the end of a lock only if all of its keys are writable,** provided that all
    that could be wrong with them are their references. -/
theorem reads_or_fails {e : LockExpr}
    (hkeys : ∀ k ∈ e.keys, k.Writable ∨ ∃ r, k.target? = some (.ref r) ∧ ¬ r.Writable) :
    e.ReadsOrFails := by
  -- Here the rank of a lock plays no part: what matters is only how far the reader gets.
  induction e with
  | key k =>
    intro p outer rest hrest
    rcases hkeys k List.mem_cons_self with hk | ⟨r, hk, hr⟩
    · exact .inr ⟨by simpa [keys] using hk, p, _, readFrom_key hk hrest⟩
    · exact .inl (readFrom_stops hk hr hrest)
  | not a iha =>
    intro p outer rest hrest
    rw [text, List.cons_append, readFrom_bang]
    rcases iha hkeys { p with nots := p.nots + 1 } outer rest hrest with herr | hread
    · exact .inl herr
    · exact .inr hread
  | group a iha =>
    intro p outer rest hrest
    have htext : (group a).text ++ rest = '(' :: (a.text ++ ')' :: rest) := by simp [text]
    rw [htext, readFrom_open]
    rcases iha hkeys {} (p :: outer) (')' :: rest) (ends_operator (by decide)) with
      herr | ⟨hwritable, q, x, hread⟩
    · exact .inl herr
    · rw [hread, readFrom_close]
      exact .inr ⟨hwritable, p, _, rfl⟩
  | and a b iha ihb =>
    obtain ⟨ha, hb⟩ := List.forall_mem_append.mp hkeys
    refine (iha ha).operator (c := '&') (by decide) (fun p outer x rest => ⟨_, readFrom_and x⟩)
      ?_ rfl (ihb hb)
    simp [text]
  | or a b iha ihb =>
    obtain ⟨ha, hb⟩ := List.forall_mem_append.mp hkeys
    refine (iha ha).operator (c := '|') (by decide) (fun p outer x rest => ⟨_, readFrom_or x⟩)
      ?_ rfl (ihb hb)
    simp [text]

/-! ### Locks with other references -/

/-- A writable key stays writable when its target is replaced, or it gets a reference that is
    not. -/
private theorem writable_or_not_mapTarget {f : Target → Target}
    (hf : ∀ t, f t = t ∨ ∃ r, f t = .ref r) {k : Key} (hk : k.Writable) :
    (k.mapTarget f).Writable ∨
      ∃ r, (k.mapTarget f).target? = some (.ref r) ∧ ¬ r.Writable := by
  by_contra hnot
  push Not at hnot
  refine hnot.1 (hk.mapTarget fun t ht => ?_)
  rcases hf t with hsame | ⟨r, hr⟩
  · exact .inl hsame
  · refine .inr ⟨r, hr, hnot.2 r ?_⟩
    rw [Key.target?_mapTarget, ht, Option.map_some, hr]

/-- **What is read from the text of a lock with other references is that lock.**  It may be no lock
    at all, but it is no other. -/
theorem eq_of_read_mapTargets {f : Target → Target} (hf : ∀ t, f t = t ∨ ∃ r, f t = .ref r)
    {e e' : LockExpr} (he : e.Writable) (h : read (e.mapTargets f).text = .ok e') :
    e' = e.mapTargets f := by
  have hkeys := (writable_iff.mp he).2
  -- Each key either can be written or stops the reader.
  have hnew : (e.mapTargets f).ReadsOrFails := by
    refine reads_or_fails fun k' hk' => ?_
    rw [keys_mapTargets] at hk'
    obtain ⟨k, hk, rfl⟩ := List.mem_map.mp hk'
    exact writable_or_not_mapTarget hf (hkeys k hk)
  rcases hnew {} [] [] (by simp [Key.Ends]) with ⟨err, herr⟩ | ⟨hwritable, -⟩
  · rw [List.append_nil] at herr
    rw [read, herr] at h
    cases h
  · have hback : (e.mapTargets f).Writable := by
      refine he.mapTargets_of_keys fun k hk => hwritable _ ?_
      rw [keys_mapTargets]
      exact List.mem_map_of_mem hk
    exact Except.ok.inj (h.symm.trans (read_text hback))

example : read (key (.exact (.ref ⟨0, some (-5)⟩))).text = .error ⟨3, ":-5"⟩ := by decide +kernel

end LockExpr

end Softcode
