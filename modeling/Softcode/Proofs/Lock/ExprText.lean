import Softcode.Lock.Reader
import Softcode.Proofs.Lock.KeyText

namespace Softcode

/-!
# Locks as they are written

A lock is `Writable` if its tree is one that the reader can build: negations stand before keys,
groups and negations only, and both binary operators group to the left.  The reader and the printer
of locks fit together:

* `LockExpr.read_writable` — what is read is writable;
* `LockExpr.read_text` — a writable lock is read back from its text;
* `LockExpr.read_roundTrips` — so what is read is read back, and its shape obeys the precedence of
  the operators.

The reader is a machine with pending left sides.  The first statement is an invariant of its state.
For the second, each kind of tree has its own account of what the machine has pending once it has
read the text of the tree.
-/

namespace LockExpr

/-- How tightly the outermost operator binds. -/
def rank : LockExpr → Nat
  | or _ _ => 0
  | and _ _ => 1
  | not _ | group _ | key _ => 2

/-- Can the lock be written as it stands? -/
def Writable : LockExpr → Prop
  | or a b => a.Writable ∧ b.Writable ∧ 1 ≤ b.rank
  | and a b => a.Writable ∧ b.Writable ∧ 1 ≤ a.rank ∧ 2 ≤ b.rank
  | not a => a.Writable ∧ 2 ≤ a.rank
  | group a => a.Writable
  | key k => k.Writable

end LockExpr

/-! ### What is read is writable -/

namespace Pending

/-- Can what is pending be written? -/
structure Writable (p : Pending) : Prop where
  ors : ∀ a ∈ p.ors, a.Writable
  ands : ∀ a ∈ p.ands, a.Writable ∧ 1 ≤ a.rank

private theorem writable_empty : Writable {} := ⟨by simp, by simp⟩

variable {p : Pending} {e : LockExpr}

/-- An operand behind negations. -/
private theorem negate_writable (he : e.Writable) (hrank : 2 ≤ e.rank) :
    (p.negate e).Writable ∧ 2 ≤ (p.negate e).rank := by
  unfold negate
  induction p.nots with
  | zero => exact ⟨he, hrank⟩
  | succ n ih => exact ⟨ih, Nat.le_refl 2⟩

/-- An operand behind the conjunction that it belongs to. -/
theorem Writable.conjunction (hp : p.Writable) (he : e.Writable) (hrank : 2 ≤ e.rank) :
    (p.conjunction e).Writable ∧ 1 ≤ (p.conjunction e).rank := by
  unfold Pending.conjunction
  split
  · rename_i a ha
    obtain ⟨hwritable, hone⟩ := hp.ands a ha
    exact ⟨⟨hwritable, he, hone, hrank⟩, Nat.le_refl 1⟩
  · exact ⟨he, by omega⟩

/-- An operand behind all that is pending. -/
theorem Writable.disjunction (hp : p.Writable) (he : e.Writable) (hrank : 2 ≤ e.rank) :
    (p.disjunction e).Writable := by
  obtain ⟨hconj, hone⟩ := hp.conjunction he hrank
  unfold Pending.disjunction
  split
  · rename_i a ha
    exact ⟨hp.ors a ha, hconj, hone⟩
  · exact hconj

end Pending

namespace LockExpr

/-- Every tree in the state of the reader is writable, so the one that it ends with is. -/
private theorem readFrom_writable (p : Pending) (outer : List Pending) (operand : Option LockExpr)
    (cs : List Char) {e : LockExpr} (h : readFrom p outer operand cs = .ok e) (hp : p.Writable)
    (houter : ∀ q ∈ outer, q.Writable) (hop : ∀ x ∈ operand, x.Writable ∧ 2 ≤ x.rank) :
    e.Writable := by
  -- The cases are the steps of the machine: the end, a gap, what may begin an operand, and what may
  -- follow one.
  fun_induction readFrom p outer operand cs with
  | case1 p x =>
    obtain ⟨hx, hrank⟩ := hop x rfl
    obtain rfl := Except.ok.inj h
    exact hp.disjunction hx hrank
  | case3 p outer operand c cs _ ih => exact ih h hp houter hop
  | case4 p outer cs _ ih => exact ih h ⟨hp.ors, hp.ands⟩ houter (by simp)
  | case5 p outer cs _ _ ih =>
    exact ih h Pending.writable_empty (List.forall_mem_cons.mpr ⟨hp, houter⟩) (by simp)
  | case6 p outer c cs _ _ _ k n hk ih =>
    refine ih h hp houter ?_
    rintro x ⟨⟩
    exact Pending.negate_writable (Key.read_writable hk) (Nat.le_refl 2)
  | case8 p outer cs x _ ih =>
    obtain ⟨hx, hrank⟩ := hop x rfl
    refine ih h ⟨hp.ors, ?_⟩ houter (by simp)
    rintro a ⟨⟩
    exact hp.conjunction hx hrank
  | case9 p outer cs x _ _ ih =>
    obtain ⟨hx, hrank⟩ := hop x rfl
    refine ih h ⟨?_, by simp⟩ houter (by simp)
    rintro a ⟨⟩
    exact hp.disjunction hx hrank
  | case10 p cs x q outer _ _ _ ih =>
    obtain ⟨hx, hrank⟩ := hop x rfl
    obtain ⟨hq, houter⟩ := List.forall_mem_cons.mp houter
    refine ih h hq houter ?_
    rintro y ⟨⟩
    exact Pending.negate_writable (e := .group _) (hp.disjunction hx hrank) (Nat.le_refl 2)
  | case2 | case7 | case11 | case12 => exact absurd h (by simp)

/-- **What is read is writable.** -/
theorem read_writable {text : List Char} {e : LockExpr} (h : read text = .ok e) : e.Writable := by
  unfold read at h
  split at h
  · rename_i e' he
    obtain rfl := Except.ok.inj h
    exact readFrom_writable {} [] none text he Pending.writable_empty (by simp) (by simp)
  · exact absurd h (by simp)

/-! ### What is writable is read back

First the steps of the machine, then what it does with the text of a tree.
-/

variable {p : Pending} {outer : List Pending} {operand : Option LockExpr} {rest : List Char}

theorem readFrom_gap {c : Char} (hc : isGap c) :
    readFrom p outer operand (c :: rest) = readFrom p outer operand rest := by
  rw [readFrom.eq_def]
  exact if_pos hc

theorem readFrom_bang :
    readFrom p outer none ('!' :: rest)
      = readFrom { p with nots := p.nots + 1 } outer none rest := by
  rw [readFrom.eq_def]
  rfl

/-- A parenthesis opens a lock inside. -/
theorem readFrom_open :
    readFrom p outer none ('(' :: rest) = readFrom {} (p :: outer) none rest := by
  rw [readFrom.eq_def]
  rfl

/-- An operator ends an operand of a conjunction. -/
theorem readFrom_and (e : LockExpr) : readFrom p outer (some e) ('&' :: rest)
    = readFrom { ors := p.ors, ands := some (p.conjunction e) } outer none rest := by
  rw [readFrom.eq_def]
  rfl

/-- An operator ends a whole conjunction. -/
theorem readFrom_or (e : LockExpr) : readFrom p outer (some e) ('|' :: rest)
    = readFrom { ors := some (p.disjunction e) } outer none rest := by
  rw [readFrom.eq_def]
  rfl

/-- A parenthesis makes a group of the lock inside, which is an operand of the one around it. -/
theorem readFrom_close (q : Pending) (e : LockExpr) :
    readFrom p (q :: outer) (some e) (')' :: rest)
      = readFrom q outer (some (q.negate (.group (p.disjunction e)))) rest := by
  rw [readFrom.eq_def]
  rfl

/-- Blanks that a key has taken make no difference. -/
private theorem readFrom_drop {j : Nat} (hj : j ≤ (rest.takeWhile isGap).length) :
    readFrom p outer operand (rest.drop j) = readFrom p outer operand rest := by
  induction j generalizing rest with
  | zero => rfl
  | succ j ih =>
    cases rest with
    | nil => rfl
    | cons c rest =>
      by_cases hc : isGap c
      · rw [List.takeWhile_cons_of_pos hc, List.length_cons] at hj
        rw [List.drop_succ_cons, ih (by omega), readFrom_gap hc]
      · rw [List.takeWhile_cons_of_neg hc] at hj
        exact absurd hj (by simp)

/-- Behind an operand, the negations before it are forgotten. -/
private theorem readFrom_nots (n : Nat) (e : LockExpr) :
    readFrom { p with nots := n } outer (some e) rest = readFrom p outer (some e) rest := by
  induction rest with
  | nil =>
    rw [readFrom.eq_def, readFrom.eq_def p]
    rfl
  | cons c rest ih =>
    by_cases hc : isGap c
    · rw [readFrom_gap hc, readFrom_gap hc, ih]
    · rw [readFrom.eq_def, readFrom.eq_def p]
      simp only [hc, Bool.false_eq_true, if_false]
      rfl

/-- A character of an attribute's name is neither skipped nor does it open an operand. -/
private theorem opens_of_isAttributeChar {c : Char} (h : Key.isAttributeChar c) :
    isGap c = false ∧ c ≠ '!' ∧ c ≠ '(' := by
  refine ⟨?_, Key.ne_sign h (by simp [Key.signs]), Key.ne_sign h (by simp [Key.signs])⟩
  by_contra hgap
  rw [Bool.not_eq_false, isGap_iff] at hgap
  have hsign : c ∈ Key.signs := by rcases hgap with rfl | rfl | rfl | rfl <;> simp [Key.signs]
  exact Key.ne_sign h hsign rfl

/-- The first character of a key is neither skipped nor does it open an operand. -/
private theorem opens_text {k : Key} (hk : k.Writable) :
    ∃ c cs, k.text = c :: cs ∧ isGap c = false ∧ c ≠ '!' ∧ c ≠ '(' := by
  -- The name of an attribute begins with a character that opens nothing.
  have hword : ∀ {a : String} (rest : List Char), Key.Word Key.isAttributeChar a →
      ∃ c cs, a.toList ++ rest = c :: cs ∧ isGap c = false ∧ c ≠ '!' ∧ c ≠ '(' := by
    intro a rest ha
    obtain ⟨c, cs, hcs⟩ := List.exists_cons_of_ne_nil ha.nonempty
    exact ⟨c, cs ++ rest, by rw [hcs, List.cons_append],
      opens_of_isAttributeChar (ha.all c (by simp [hcs]))⟩
  cases k with
  | bare t =>
    cases t with
    | ref r =>
      obtain ⟨c, cs, htext, -⟩ := r.text_eq_cons
      exact ⟨'#', c :: cs, htext, by decide⟩
    | name n => simpa [Key.text, Target.text] using hword [] hk
  | unlockerAttr a v => exact hword _ hk.1
  | lockedAttr a v => exact hword _ hk.1
  | indirect t lock => cases lock <;> exact ⟨'@', _, rfl, by decide⟩
  | always | never | kind | name | flag | power | dbrefList | ip | hostname | channel
  | exact | carry | owner => exact ⟨_, _, rfl, by decide⟩

/-- A key is read as an operand. -/
theorem readFrom_key {k : Key} (hk : k.Writable) (hrest : Key.Ends rest) :
    readFrom p outer none (k.text ++ rest) = readFrom p outer (some (p.negate (.key k))) rest := by
  obtain ⟨c, cs, htext, hgap, hbang, hopen⟩ := opens_text hk
  obtain ⟨j, hj, hread⟩ := Key.read_text hk hrest
  have hdrop : (cs ++ rest).drop (k.text.length + j - 1) = rest.drop j := by
    have hlen : k.text.length + j - 1 = cs.length + j := by
      rw [htext, List.length_cons]
      omega
    rw [hlen, List.drop_length_add_append]
  rw [htext, List.cons_append] at hread ⊢
  rw [readFrom.eq_def]
  -- The key may have taken blanks behind it, which the machine would have skipped.
  simp only [hgap, hbang, hopen, hread, Bool.false_eq_true, if_false]
  rw [← htext, hdrop, readFrom_drop hj]

/-- An operator ends a key. -/
theorem ends_operator {c : Char} (hc : Key.isOperator c) : Key.Ends (c :: rest) := by
  have hgap : ¬isGap c := by
    rcases Key.isOperator_iff.mp hc with rfl | rfl | rfl | rfl <;> decide
  intro d hd
  rw [List.dropWhile_cons_of_neg hgap] at hd
  obtain rfl : c = d := by simpa using hd
  exact hc

theorem ends_gap {c : Char} (hc : isGap c) (hrest : Key.Ends rest) : Key.Ends (c :: rest) := by
  rwa [Key.Ends, List.dropWhile_cons_of_pos hc]

/-- The text of an expression that is a single operand makes the reader have that operand, under
    the negations that are pending. -/
def ReadsOperand (e : LockExpr) : Prop :=
  ∀ p outer rest, Key.Ends rest →
    readFrom p outer none (e.text ++ rest) = readFrom p outer (some (p.negate e)) rest

/-- The text of a conjunction makes the reader have its last operand, with what is to the left of
    that operand pending. -/
def ReadsConjunction (e : LockExpr) : Prop :=
  ∀ ors outer rest, Key.Ends rest → ∃ p x, p.ors = ors ∧ p.conjunction x = e ∧
    readFrom { ors := ors } outer none (e.text ++ rest) = readFrom p outer (some x) rest

/-- The text of any expression makes the reader have its last operand, with what is to the left of
    that operand pending. -/
def ReadsDisjunction (e : LockExpr) : Prop :=
  ∀ outer rest, Key.Ends rest → ∃ p x, p.disjunction x = e ∧
    readFrom {} outer none (e.text ++ rest) = readFrom p outer (some x) rest

/-- An operand is a conjunction of one. -/
theorem ReadsOperand.conjunction {e : LockExpr} (h : e.ReadsOperand) : e.ReadsConjunction :=
  fun ors outer rest hrest => ⟨{ ors := ors }, e, rfl, rfl, h { ors := ors } outer rest hrest⟩

/-- A conjunction is a disjunction of one. -/
theorem ReadsConjunction.disjunction {e : LockExpr} (h : e.ReadsConjunction) :
    e.ReadsDisjunction := by
  intro outer rest hrest
  obtain ⟨p, x, hors, hconj, hread⟩ := h none outer rest hrest
  refine ⟨p, x, ?_, hread⟩
  simp only [Pending.disjunction, hors, hconj]

private theorem readsOperand_key {k : Key} (hk : k.Writable) : ReadsOperand (.key k) :=
  fun _ _ _ hrest => readFrom_key hk hrest

/-- A negated operand is an operand. -/
theorem ReadsOperand.not {a : LockExpr} (h : a.ReadsOperand) : ReadsOperand (.not a) := by
  intro p outer rest hrest
  have hnegate : Pending.negate { p with nots := p.nots + 1 } a = p.negate (.not a) := by
    simp only [Pending.negate]
    induction p.nots with
    | zero => rfl
    | succ n ih => rw [Nat.repeat, ih, Nat.repeat]
  rw [LockExpr.text, List.cons_append, readFrom_bang, h _ outer rest hrest, hnegate, readFrom_nots]

/-- Any lock in parentheses is an operand. -/
theorem ReadsDisjunction.group {a : LockExpr} (h : a.ReadsDisjunction) :
    ReadsOperand (.group a) := by
  intro p outer rest hrest
  obtain ⟨q, x, hdisj, hread⟩ := h (p :: outer) (')' :: rest) (ends_operator (by decide))
  rw [LockExpr.text, List.cons_append, List.cons_append, readFrom_open, List.append_assoc,
    List.singleton_append, hread, readFrom_close, hdisj]

/-- A conjunction goes on with an operand. -/
theorem ReadsConjunction.and {a b : LockExpr} (ha : a.ReadsConjunction) (hb : b.ReadsOperand) :
    ReadsConjunction (.and a b) := by
  intro ors outer rest hrest
  have hamp : Key.Ends (' ' :: '&' :: ' ' :: (b.text ++ rest)) :=
    ends_gap (by decide) (ends_operator (by decide))
  obtain ⟨p, x, hors, hconj, hread⟩ := ha ors outer _ hamp
  refine ⟨{ ors := ors, ands := some a }, b, rfl, rfl, ?_⟩
  have htext : (LockExpr.and a b).text ++ rest
      = a.text ++ ' ' :: '&' :: ' ' :: (b.text ++ rest) := by
    simp [LockExpr.text]
  rw [htext, hread, readFrom_gap (by decide), readFrom_and, readFrom_gap (by decide), hors, hconj,
    hb _ outer rest hrest]
  rfl

/-- A disjunction goes on with a conjunction. -/
theorem ReadsDisjunction.or {a b : LockExpr} (ha : a.ReadsDisjunction) (hb : b.ReadsConjunction) :
    ReadsDisjunction (.or a b) := by
  intro outer rest hrest
  have hbar : Key.Ends (' ' :: '|' :: ' ' :: (b.text ++ rest)) :=
    ends_gap (by decide) (ends_operator (by decide))
  obtain ⟨p, x, hdisj, hread⟩ := ha outer _ hbar
  obtain ⟨q, y, hors, hconj, hread'⟩ := hb (some a) outer rest hrest
  refine ⟨q, y, by simp only [Pending.disjunction, hors, hconj], ?_⟩
  have htext : (LockExpr.or a b).text ++ rest
      = a.text ++ ' ' :: '|' :: ' ' :: (b.text ++ rest) := by
    simp [LockExpr.text]
  rw [htext, hread, readFrom_gap (by decide), readFrom_or, readFrom_gap (by decide), hdisj, hread']

/-- Each writable expression is read as its rank says. -/
theorem reads_text {e : LockExpr} (he : e.Writable) :
    e.ReadsDisjunction ∧ (1 ≤ e.rank → e.ReadsConjunction) ∧ (2 ≤ e.rank → e.ReadsOperand) := by
  -- An operand is a conjunction too, and a conjunction is a disjunction.
  have hoperand : ∀ {e : LockExpr}, e.ReadsOperand → e.ReadsDisjunction ∧
      (1 ≤ e.rank → e.ReadsConjunction) ∧ (2 ≤ e.rank → e.ReadsOperand) :=
    fun h => ⟨h.conjunction.disjunction, fun _ => h.conjunction, fun _ => h⟩
  induction e with
  | key k => exact hoperand (readsOperand_key he)
  | group a iha => exact hoperand (iha he).1.group
  | not a iha => exact hoperand ((iha he.1).2.2 he.2).not
  | and a b iha ihb =>
    obtain ⟨ha, hb, hone, htwo⟩ := he
    have hconj := ((iha ha).2.1 hone).and ((ihb hb).2.2 htwo)
    exact ⟨hconj.disjunction, fun _ => hconj, fun h => absurd h (by simp [rank])⟩
  | or a b iha ihb =>
    obtain ⟨ha, hb, hone⟩ := he
    exact ⟨(iha ha).1.or ((ihb hb).2.1 hone), fun h => absurd h (by simp [rank]),
      fun h => absurd h (by simp [rank])⟩

/-- **Locks round-trip.** A writable lock is read back from its text. -/
theorem read_text {e : LockExpr} (he : e.Writable) : read e.text = .ok e := by
  obtain ⟨p, x, hdisj, hread⟩ := (reads_text he).1 [] [] (by simp [Key.Ends])
  rw [List.append_nil] at hread
  rw [read, hread, readFrom.eq_def, ← hdisj]

/-- A reference behind an equals sign is a lock only if it is writable, and then it is read back. -/
theorem read_exact_eq_ok {r : Reference} (hpos : ∀ t ∈ r.created, 0 ≤ t) {e : LockExpr}
    (h : read ('=' :: r.text) = .ok e) : r.Writable ∧ e = .key (.exact (.ref r)) := by
  -- What could be read has a number and a time that fit.
  have hwritable : r.Writable := by
    unfold read at h
    split at h
    · rename_i e' hfrom
      cases hkey : Key.read ('=' :: r.text) with
      | none =>
        rw [readFrom.eq_def] at hfrom
        simp [isGap, hkey] at hfrom
      | some x => exact Key.writable_of_read_exact hpos hkey
    · exact absurd h (by simp)
  have hread := read_text (show Writable (.key (.exact (.ref r))) from hwritable)
  exact ⟨hwritable, Except.ok.inj (h.symm.trans hread)⟩

/-! ### Precedence -/

/-- Does the tree obey the precedence of the operators?  A negation is of one operand alone, and a
    right side that has the operator of its parent, or one that binds less, is in parentheses. -/
def Grouped : LockExpr → Prop
  | or a b => a.Grouped ∧ b.Grouped ∧ ∀ x y, b ≠ or x y
  | and a b => a.Grouped ∧ b.Grouped ∧ ∀ x y, a ≠ or x y ∧ b ≠ or x y ∧ b ≠ and x y
  | not a => a.Grouped ∧ ((∃ x, a = not x) ∨ (∃ x, a = group x) ∨ ∃ k, a = key k)
  | group a => a.Grouped
  | key _ => True

/-- Only a disjunction binds less than a conjunction. -/
private theorem one_le_rank_iff {e : LockExpr} : 1 ≤ e.rank ↔ ∀ x y, e ≠ or x y := by
  cases e <;> simp [rank]

/-- The rest binds more than either. -/
private theorem two_le_rank_iff {e : LockExpr} : 2 ≤ e.rank ↔ ∀ x y, e ≠ or x y ∧ e ≠ and x y := by
  cases e <;> simp [rank]

/-- That rest are negations, groups and keys. -/
private theorem two_le_rank_iff_exists {e : LockExpr} :
    2 ≤ e.rank ↔ (∃ x, e = not x) ∨ (∃ x, e = group x) ∨ ∃ k, e = key k := by
  cases e <;> simp [rank]

/-- Apart from its keys, what a lock needs to be writable is precedence. -/
theorem writable_iff {e : LockExpr} : e.Writable ↔ e.Grouped ∧ ∀ k ∈ e.keys, k.Writable := by
  -- That operands bind tightly enough is the same as that they are grouped.
  induction e with
  | or a b iha ihb =>
    simp only [Writable, Grouped, keys, List.forall_mem_append, iha, ihb, one_le_rank_iff]
    tauto
  | and a b iha ihb =>
    simp only [Writable, Grouped, keys, List.forall_mem_append, iha, ihb, one_le_rank_iff,
      two_le_rank_iff, forall_and]
    tauto
  | not a iha =>
    simp only [Writable, Grouped, keys, iha, two_le_rank_iff_exists]
    tauto
  | group a iha => exact iha
  | key k => simp [Writable, Grouped, keys]

/-- **What is read is read back.**  A lock obeys precedence, and its text is read as that lock
    again.  Nothing but precedence is needed: so is the text of any other lock over the same keys
    that obeys it. -/
theorem read_roundTrips {text : List Char} {e : LockExpr} (h : read text = .ok e) :
    read e.text = .ok e ∧ e.Grouped ∧
      ∀ e' : LockExpr, e'.Grouped → (∀ k ∈ e'.keys, k ∈ e.keys) → read e'.text = .ok e' := by
  have hwritable := read_writable h
  obtain ⟨hgrouped, hkeys⟩ := writable_iff.mp hwritable
  refine ⟨read_text hwritable, hgrouped, ?_⟩
  intro e' hgrouped' hkeys'
  exact read_text (writable_iff.mpr ⟨hgrouped', fun k hk => hkeys k (hkeys' k hk)⟩)

/-- A lock with all operators, a negated negation and free text with blanks at both ends.  Its text
    has other blanks, no leading zero and the name of an attribute in capitals. -/
theorem mixed_read_roundTrips :
    let text := "me|!!( #007 & name^ a b )&=#-1:5 |sex:m*".toList
    let e := LockExpr.or
      (.or (.key (.bare (.name "me")))
        (.and (.not (.not (.group (.and (.key (.bare (.ref ⟨7, none⟩))) (.key (.name "a b"))))))
          (.key (.exact (.ref ⟨-1, some 5⟩)))))
      (.key (.unlockerAttr "SEX" "m*"))
    read text = .ok e ∧ e.text = "me | !!(#7 & name^a b) & =#-1:5 | SEX:m*".toList ∧
      read e.text = .ok e ∧ e.Grouped := by
  intro text e
  have hread : read text = .ok e := by decide +kernel
  obtain ⟨hback, hgrouped, -⟩ := read_roundTrips hread
  exact ⟨hread, by decide +kernel, hback, hgrouped⟩

end LockExpr

end Softcode
