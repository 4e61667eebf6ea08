import Softcode.Proofs.Regex.Search

namespace Softcode

/-!
# Straight expressions

Expressions without choices, in which only single characters are repeated.  The program of such an
expression never goes back unless it takes a character, so that the search follows it faithfully.

* `Regex.Takes` — the places that an expression leads to, from a given place;
* `Regex.Straight.accepts_iff` — the code of an expression leads to the same places, wherever it
  stands;
* `Matcher.accepts_ofRegex` — an anchored expression accepts a text exactly if it leads somewhere
  from its start.
-/

namespace Regex

/-- Does the expression lead from the first place to the second? -/
inductive Takes : Regex → Place → Place → Prop
  | cls {c offset before x rest} (hc : c.has x) :
      Takes (.cls c) ⟨offset, before, x :: rest⟩ ⟨offset + 1, some x, rest⟩
  | look {l place} (hl : l.holds place.before place.rest.head?) : Takes (.look l) place place
  | cat {a b place place' place''} (ha : Takes a place place') (hb : Takes b place' place'') :
      Takes (.cat a b) place place''
  | group {index a place place'} (ha : Takes a place place') : Takes (.group index a) place place'
  | stop {greedy a place} : Takes (.rep 0 none greedy a) place place
  | again {greedy a place place' place''} (ha : Takes a place place')
      (hmore : Takes (.rep 0 none greedy a) place' place'') :
        Takes (.rep 0 none greedy a) place place''

/-- An expression without choices, in which only single characters are repeated. -/
inductive Straight : Regex → Prop
  | cls (c : CharClass) : Straight (.cls c)
  | look (l : Look) : Straight (.look l)
  | cat {a b : Regex} (ha : Straight a) (hb : Straight b) : Straight (.cat a b)
  | group (index : Nat) {a : Regex} (ha : Straight a) : Straight (.group index a)
  | run (greedy : Bool) (c : CharClass) : Straight (.rep 0 none greedy (.cls c))

variable {program : Array Instruction} {r : Regex} {start next : Nat}

/-! ### Code -/

/-- The code of a run of characters. -/
theorem code_run (greedy : Bool) (c : CharClass) (start next : Nat) :
    code (.rep 0 none greedy (.cls c)) start next =
      [prefer greedy (start + 1) next, .take c start] := by
  simp [code, minLength]

/-- The code is as long as the expression is large. -/
theorem Straight.length_code (h : Straight r) (start next : Nat) :
    (r.code start next).length = r.size := by
  induction h generalizing start next with
  | cls => rfl
  | look => rfl
  | cat _ _ iha ihb => simp [code, size, iha, ihb]
  | group _ _ ih => simp [code, size, ih]
  | run => simp [code_run, size, minLength]

/-- No instruction goes back at the same place. -/
private theorem Straight.forward (h : Straight r) (hnext : start + r.size ≤ next) :
    ∀ x ∈ (r.code start next).zipIdx start, ∀ q ∈ x.1.idles, x.2 < q := by
  -- Each part leads to the next one; only a repetition leads back, and it takes a character.
  induction h generalizing start next with
  | cls => simp [code, Instruction.idles]
  | look =>
    simp only [size] at hnext
    simp [code, Instruction.idles]
    omega
  | @cat a b ha hb iha ihb =>
    simp only [size] at hnext
    rw [code, List.zipIdx_append, List.forall_mem_append, ha.length_code]
    exact ⟨iha (Nat.le_refl _), ihb (by omega)⟩
  | @group index a ha ih =>
    simp only [size] at hnext
    rw [code, List.zipIdx_cons, List.forall_mem_cons, List.zipIdx_append, List.forall_mem_append,
      ha.length_code]
    refine ⟨by simp [Instruction.idles], ih (Nat.le_refl _), ?_⟩
    simp [Instruction.idles]
    omega
  | run greedy =>
    simp only [size, minLength] at hnext
    cases greedy <;> simp [code_run, prefer, Instruction.idles] <;> omega

/-- Does the code stand in the program? -/
def Placed (program : Array Instruction) (start : Nat) (code : List Instruction) : Prop :=
  ∀ x ∈ code.zipIdx start, program[x.2]? = some x.1

namespace Placed

variable {a b : Regex}

/-- One instruction stands where it is placed. -/
theorem single {i : Instruction} (h : Placed program start [i]) : program[start]? = some i :=
  h _ (List.mem_singleton_self _)

/-- The second part of a sequence starts where the first one ends. -/
theorem cat (ha : Straight a) (h : Placed program start ((Regex.cat a b).code start next)) :
    Placed program start (a.code start (start + a.size)) ∧
      Placed program (start + a.size) (b.code (start + a.size) next) := by
  rw [Placed, code, List.zipIdx_append, List.forall_mem_append, ha.length_code] at h
  exact h

/-- The ends of a group are noted before and behind its body. -/
theorem group (ha : Straight a) {index : Nat}
    (h : Placed program start ((Regex.group index a).code start next)) :
    program[start]? = some (.save (2 * index) (start + 1)) ∧
      Placed program (start + 1) (a.code (start + 1) (start + 1 + a.size)) ∧
      program[start + 1 + a.size]? = some (.save (2 * index + 1) next) := by
  rw [Placed, code, List.zipIdx_cons, List.forall_mem_cons, List.zipIdx_append,
    List.forall_mem_append, ha.length_code] at h
  obtain ⟨hopen, hbody, hclose⟩ := h
  exact ⟨hopen, hbody, single hclose⟩

/-- A run chooses whether to go on, and then takes a character. -/
theorem run {greedy : Bool} {c : CharClass}
    (h : Placed program start (code (.rep 0 none greedy (.cls c)) start next)) :
    program[start]? = some (prefer greedy (start + 1) next) ∧
      program[start + 1]? = some (.take c start) := by
  rw [code_run] at h
  exact ⟨h (prefer greedy (start + 1) next, start) (by simp),
    h (.take c start, start + 1) (by simp)⟩

end Placed

/-- A run of characters goes on inside or after. -/
private theorem accepts_prefer_iff {pc inside after : Nat} {greedy : Bool} {place : Place}
    (h : program[pc]? = some (prefer greedy inside after)) :
    Accepts program pc place ↔ Accepts program inside place ∨ Accepts program after place := by
  cases greedy with
  | false => exact (accepts_iff h).trans or_comm
  | true => exact accepts_iff h

/-- The code of a character leads where the character does. -/
private theorem accepts_take_iff {pc next : Nat} {c : CharClass} {place : Place}
    (h : program[pc]? = some (.take c next)) :
    Accepts program pc place ↔
      ∃ place', Takes (.cls c) place place' ∧ Accepts program next place' := by
  rw [accepts_iff h]
  constructor
  · obtain ⟨offset, before, rest⟩ := place
    rintro ⟨x, rest', rfl, hc, hnext⟩
    exact ⟨_, .cls hc, hnext⟩
  · rintro ⟨place', htakes, hnext⟩
    cases htakes with
    | cls hc => exact ⟨_, _, rfl, hc, hnext⟩

/-- The code of a run of characters leads where the run does. -/
private theorem accepts_run_iff {pc next : Nat} {greedy : Bool} {c : CharClass} {place : Place}
    (hprefer : program[pc]? = some (prefer greedy (pc + 1) next))
    (htake : program[pc + 1]? = some (.take c pc)) :
    Accepts program pc place ↔
      ∃ place', Takes (.rep 0 none greedy (.cls c)) place place' ∧ Accepts program next place' := by
  constructor
  · obtain ⟨offset, before, rest⟩ := place
    intro h
    -- Every turn of the run takes a character of what is left.
    induction rest generalizing offset before with
    | nil =>
      rcases (accepts_prefer_iff hprefer).mp h with hinside | hafter
      · obtain ⟨_, ⟨⟩, -⟩ := (accepts_take_iff htake).mp hinside
      · exact ⟨_, .stop, hafter⟩
    | cons x rest ih =>
      rcases (accepts_prefer_iff hprefer).mp h with hinside | hafter
      · obtain ⟨_, ⟨hc⟩, hmore⟩ := (accepts_take_iff htake).mp hinside
        obtain ⟨place', htakes, hnext⟩ := ih _ _ hmore
        exact ⟨place', .again (.cls hc) htakes, hnext⟩
      · exact ⟨_, .stop, hafter⟩
  · rintro ⟨place', htakes, hnext⟩
    -- The induction is on the turns of the run; no other expression is this repetition.
    generalize hr : Regex.rep 0 none greedy (.cls c) = r at htakes
    induction htakes with
    | stop =>
      exact (accepts_prefer_iff hprefer).mpr (.inr hnext)
    | again ha _ _ ih =>
      cases hr
      refine (accepts_prefer_iff hprefer).mpr (.inl ?_)
      exact (accepts_take_iff htake).mpr ⟨_, ha, ih hnext rfl⟩
    | _ => cases hr

/-- **The code of an expression leads where the expression does**, wherever it stands in a
    program. -/
theorem Straight.accepts_iff (h : Straight r) {place : Place}
    (hcode : Placed program start (r.code start next)) :
    Accepts program start place ↔ ∃ place', Takes r place place' ∧ Accepts program next place' := by
  induction h generalizing start next place with
  | cls c => exact accepts_take_iff hcode.single
  | look l =>
    rw [Regex.accepts_iff hcode.single]
    constructor
    · exact fun ⟨hl, hnext⟩ => ⟨place, .look hl, hnext⟩
    · rintro ⟨_, htakes, hnext⟩
      cases htakes with
      | look hl => exact ⟨hl, hnext⟩
  | cat ha hb iha ihb =>
    obtain ⟨hfirst, hsecond⟩ := hcode.cat ha
    rw [iha hfirst]
    constructor
    · rintro ⟨place', htakes, hnext⟩
      obtain ⟨place'', htakes', hnext'⟩ := (ihb hsecond).mp hnext
      exact ⟨place'', .cat htakes htakes', hnext'⟩
    · rintro ⟨place'', htakes, hnext⟩
      cases htakes with
      | cat htakes htakes' => exact ⟨_, htakes, (ihb hsecond).mpr ⟨place'', htakes', hnext⟩⟩
  -- Noting a place makes no difference to where the code leads.
  | group index ha ih =>
    obtain ⟨hopen, hbody, hclose⟩ := hcode.group ha
    rw [Regex.accepts_iff hopen]
    refine (ih hbody).trans ?_
    constructor
    · rintro ⟨place', htakes, hnext⟩
      exact ⟨place', .group htakes, (Regex.accepts_iff hclose).mp hnext⟩
    · rintro ⟨place', htakes, hnext⟩
      cases htakes with
      | group htakes => exact ⟨place', htakes, (Regex.accepts_iff hclose).mpr hnext⟩
  | run greedy c => exact accepts_run_iff hcode.run.1 hcode.run.2

/-! ### Programs -/

/-- **The program of a straight expression goes ahead.** -/
theorem Straight.forward_program (h : Straight r) : Forward r.program := by
  intro pc i hi
  rw [program, List.getElem?_toArray] at hi
  have hmem : (i, pc) ∈ (r.code 0 r.size ++ [Instruction.accept]).zipIdx :=
    List.mem_zipIdx_iff_getElem?.mpr hi
  -- An instruction of the program belongs to the code or is the last one.
  rw [List.zipIdx_append, List.mem_append] at hmem
  rcases hmem with hcode | haccept
  · exact h.forward (Nat.le_of_eq (Nat.zero_add _)) (i, pc) hcode
  · cases List.mem_singleton.mp haccept
    exact fun _ h => absurd h List.not_mem_nil

/-- The code of an expression stands at the start of its program. -/
theorem placed_program (r : Regex) : Placed r.program 0 (r.code 0 r.size) := by
  intro x hx
  rw [program, List.getElem?_toArray, ← List.mem_zipIdx_iff_getElem?, List.zipIdx_append]
  exact List.mem_append_left _ hx

/-- The code goes on at the last instruction, which ends the match. -/
theorem Straight.program_size (h : Straight r) : r.program[r.size]? = some .accept := by
  rw [program, List.getElem?_toArray,
    List.getElem?_append_right (Nat.le_of_eq (h.length_code 0 r.size)),
    h.length_code, Nat.sub_self, List.getElem?_cons_zero]

/-- The program of an expression finds a way to its end exactly if the expression leads
    somewhere. -/
theorem Straight.accepts_program (h : Straight r) (place : Place) :
    Accepts r.program 0 place ↔ ∃ place', Takes r place place' := by
  rw [h.accepts_iff (placed_program r)]
  exact exists_congr fun _ => and_iff_left (.accept h.program_size)

/-! ### Sequences -/

/-- Does the expression lead somewhere exactly if the text that follows has the property? -/
def Spans (r : Regex) (property : List Char → Prop) : Prop :=
  ∀ offset before text, (∃ place, Takes r ⟨offset, before, text⟩ place) ↔ property text

/-- The property may be stated in another way. -/
theorem Spans.congr {property property' : List Char → Prop} (h : Spans r property)
    (heq : ∀ text, property text ↔ property' text) : Spans r property' :=
  fun offset before text => (h offset before text).trans (heq text)

/-- Only at the end of the text there is nothing left. -/
theorem spans_stop : Spans (.look .stop) (· = []) := by
  intro offset before text
  constructor
  · rintro ⟨place, hplace⟩
    cases hplace with
    | look hl => simpa [Look.holds] using hl
  · rintro rfl
    exact ⟨_, .look rfl⟩

/-- A character and what follows it. -/
theorem Spans.cls {property : List Char → Prop} (c : CharClass) (h : Spans r property) :
    Spans (.cat (.cls c) r) fun text => ∃ x rest, text = x :: rest ∧ c.has x ∧ property rest := by
  intro offset before text
  constructor
  · rintro ⟨place, hplace⟩
    cases hplace with
    | cat ha hb =>
      cases ha with
      | cls hc => exact ⟨_, _, rfl, hc, (h _ _ _).mp ⟨place, hb⟩⟩
  · rintro ⟨x, rest, rfl, hc, hrest⟩
    obtain ⟨place, hplace⟩ := (h (offset + 1) (some x) rest).mpr hrest
    exact ⟨place, .cat (.cls hc) hplace⟩

/-- A run of characters and what follows it. -/
theorem Spans.run {property : List Char → Prop} (greedy : Bool) (c : CharClass)
    (h : Spans r property) :
    Spans (.cat (.rep 0 none greedy (.cls c)) r) fun text =>
      ∃ piece rest, text = piece ++ rest ∧ (∀ x ∈ piece, c.has x) ∧ property rest := by
  intro offset before text
  constructor
  · rintro ⟨place, hplace⟩
    cases hplace with
    | @cat _ _ _ place' _ ha hb =>
      -- Each turn of the run puts one more character in front of the piece.
      generalize hr : Regex.rep 0 none greedy (.cls c) = a at ha
      generalize hstart : (⟨offset, before, text⟩ : Place) = start at ha
      induction ha generalizing offset before text with
      | stop =>
        subst hstart
        exact ⟨[], text, rfl, by simp, (h _ _ _).mp ⟨place, hb⟩⟩
      | again ha _ _ ih =>
        cases hr
        cases ha with
        | cls hc =>
          cases hstart
          obtain ⟨piece, rest, rfl, hpiece, hrest⟩ := ih _ _ _ hb rfl rfl
          exact ⟨_ :: piece, rest, rfl, List.forall_mem_cons.mpr ⟨hc, hpiece⟩, hrest⟩
      | _ => cases hr
  · rintro ⟨piece, rest, rfl, hpiece, hrest⟩
    induction piece generalizing offset before with
    | nil =>
      obtain ⟨place, hplace⟩ := (h offset before rest).mpr hrest
      exact ⟨place, .cat .stop hplace⟩
    | cons x piece ih =>
      rw [List.forall_mem_cons] at hpiece
      obtain ⟨place, hplace⟩ := ih (offset + 1) (some x) hpiece.2
      cases hplace with
      | cat ha hb => exact ⟨place, .cat (.again (.cls hpiece.1) ha) hb⟩

/-- An expression comes before those that follow it. -/
theorem sequence_cons (a : Regex) {as : List Regex} (has : as ≠ []) :
    sequence (a :: as) = .cat a (sequence as) := by
  cases as with
  | nil => exact absurd rfl has
  | cons => rfl

/-- A sequence of straight expressions is straight. -/
theorem straight_sequence {as : List Regex} (has : as ≠ []) (h : ∀ a ∈ as, Straight a) :
    Straight (sequence as) := by
  induction as with
  | nil => exact absurd rfl has
  | cons a as ih =>
    rw [List.forall_mem_cons] at h
    by_cases has' : as = []
    · subst has'
      exact h.1
    · rw [sequence_cons a has']
      exact .cat h.1 (ih has' h.2)

end Regex

/-- **An anchored expression accepts a text exactly if it leads somewhere from the start of the
    text.** -/
theorem Matcher.accepts_ofRegex {r : Regex} (h : r.Straight)
    (hanchored : ∀ offset x rest place, ¬ r.Takes ⟨offset, some x, rest⟩ place)
    (names : List (String × Nat)) (text : List Char) :
    (ofRegex r names).accepts text ↔ ∃ place, r.Takes ⟨0, none, text⟩ place := by
  have hgroup := Regex.Straight.group 0 h
  have htakes : ∀ place, Regex.Accepts (ofRegex r names).program 0 place ↔
      ∃ place', r.Takes place place' := by
    intro place
    refine (hgroup.accepts_program place).trans (exists_congr fun place' => ⟨?_, .group⟩)
    rintro ⟨⟩
    assumption
  rw [accepts_iff hgroup.forward_program, htakes]
  intro offset x rest haccepts
  obtain ⟨place, hplace⟩ := (htakes _).mp haccepts
  exact hanchored offset x rest place hplace

end Softcode
