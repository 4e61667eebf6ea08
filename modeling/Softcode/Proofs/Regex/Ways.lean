import Softcode.Proofs.Regex.Straight

namespace Softcode

/-!
# The order in which the ways through an expression are tried

The search comes to the first way that leads to the end.  For straight expressions the ways can be
listed in the order in which they are tried, with what is noted on each, so that the match is the
first of the list.

* `Regex.First` — what trying one possibility after the other comes to;
* `Regex.ways` — the ways through an expression, in order;
* `Regex.Straight.explores_ways` — the code of an expression goes through them in this order;
* `Matcher.captures_ofRegex` — what an anchored expression captures was noted on the first of its
  ways.
-/

namespace Regex

/-! ### One after the other -/

/-- What it comes to if possibilities are tried one after the other until one succeeds, given what
    each of them comes to. -/
inductive First {α β : Type} (outcome : α → Option β → Prop) : List α → Option β → Prop
  | nil : First outcome [] none
  | here {a as b} (h : outcome a (some b)) : First outcome (a :: as) (some b)
  | later {a as result} (h : outcome a none) (hlater : First outcome as result) :
      First outcome (a :: as) result

namespace First

variable {α β γ : Type} {outcome : α → Option β → Prop} {outcome' : γ → Option β → Prop}
  {as bs : List α} {a : α} {result : Option β}

/-- With one possibility there is nothing to choose. -/
private theorem singleton_iff : First outcome [a] result ↔ outcome a result := by
  constructor
  · intro h
    cases h with
    | here h => exact h
    | later h hlater =>
      cases hlater
      exact h
  · intro h
    cases result with
    | none => exact .later h .nil
    | some b => exact .here h

/-- If all have failed, others are tried behind them. -/
private theorem append_none (h : First outcome as none) (h' : First outcome bs result) :
    First outcome (as ++ bs) result := by
  generalize hnone : (none : Option β) = r at h
  induction h with
  | nil => exact h'
  | here => cases hnone
  | later h _ ih => exact .later h (ih hnone)

/-- If one has succeeded, those behind it are not tried. -/
private theorem append_some {b : β} (h : First outcome as (some b)) :
    First outcome (as ++ bs) (some b) := by
  generalize hsome : some b = r at h ⊢
  induction h with
  | nil => cases hsome
  | here h => exact .here h
  | later h _ ih => exact .later h (ih hsome)

/-- If each possibility is itself a choice between others, these are tried in order. -/
theorem flatMap {f : α → List γ} (h : First outcome as result)
    (hf : ∀ a r, outcome a r → First outcome' (f a) r) : First outcome' (as.flatMap f) result := by
  induction h with
  | nil => exact .nil
  | here h => exact (hf _ _ h).append_some
  | later h _ ih => exact (hf _ _ h).append_none ih

/-- The possibilities may be named differently. -/
theorem map {f : α → γ} (h : First outcome as result) (hf : ∀ a r, outcome a r → outcome' (f a) r) :
    First outcome' (as.map f) result := by
  rw [List.map_eq_flatMap]
  exact h.flatMap fun a r ha => singleton_iff.mpr (hf a r ha)

end First

/-! ### Instructions -/

/-- What is to be tried next: an instruction, the place that has been reached, and what has been
    noted. -/
structure Turn where
  pc : Nat
  place : Place
  saves : Saves

/-- What an instruction leads to, in the order of preference. -/
def turns (place : Place) (saves : Saves) : Instruction → List Turn
  | .take c next =>
    match place.rest with
    | [] => []
    | x :: rest => if c.has x then [⟨next, ⟨place.offset + 1, some x, rest⟩, saves⟩] else []
  | .choose first second => [⟨first, place, saves⟩, ⟨second, place, saves⟩]
  | .save slot next => [⟨next, place, (slot, place.offset) :: saves⟩]
  | .check l next => if l.holds place.before place.rest.head? then [⟨next, place, saves⟩] else []
  | .jump next => [⟨next, place, saves⟩]
  | .accept => []

variable {program : Array Instruction}

/-- What backtracking comes to from where a turn leads. -/
def Turn.Explores (program : Array Instruction) (t : Turn) (result : Option Saves) : Prop :=
  Regex.Explores program t.pc t.place t.saves result

/-- Backtracking tries in order what an instruction leads to. -/
private theorem Explores.turns {pc : Nat} {i : Instruction} {place : Place} {saves : Saves}
    {result : Option Saves} (h : Explores program pc place saves result)
    (hi : program[pc]? = some i) (haccept : i ≠ .accept) :
    First (Turn.Explores program) (Regex.turns place saves i) result := by
  -- How it was explored tells which instruction stands there.
  cases h with
  | stuck h => cases h.symm.trans hi
  | accept h => exact absurd (Option.some.inj (hi.symm.trans h)) haccept
  | jump h hnext | save h hnext =>
    cases Option.some.inj (h.symm.trans hi)
    exact First.singleton_iff.mpr hnext
  | pass h hl hnext =>
    cases Option.some.inj (h.symm.trans hi)
    rw [Regex.turns, if_pos hl]
    exact First.singleton_iff.mpr hnext
  | refuse h hl =>
    cases Option.some.inj (h.symm.trans hi)
    rw [Regex.turns, if_neg hl]
    exact .nil
  | first h hfirst =>
    cases Option.some.inj (h.symm.trans hi)
    exact .here hfirst
  | second h hfirst hsecond =>
    cases Option.some.inj (h.symm.trans hi)
    exact .later hfirst (First.singleton_iff.mpr hsecond)
  | take h hc hnext =>
    cases Option.some.inj (h.symm.trans hi)
    simp only [Regex.turns, if_pos hc]
    exact First.singleton_iff.mpr hnext
  | differ h hc =>
    cases Option.some.inj (h.symm.trans hi)
    simp only [Regex.turns, if_neg hc]
    exact .nil
  | ended h =>
    cases Option.some.inj (h.symm.trans hi)
    exact .nil

/-! ### Expressions -/

/-- The places that a run of characters leads to, in the order of preference. -/
def runPlaces (greedy : Bool) (c : CharClass) (offset : Nat) (before : Option Char) :
    List Char → List Place
  | [] => [⟨offset, before, []⟩]
  | x :: rest =>
    let inside := if c.has x then runPlaces greedy c (offset + 1) (some x) rest else []
    if greedy then inside ++ [⟨offset, before, x :: rest⟩]
    else ⟨offset, before, x :: rest⟩ :: inside

/-- The ways through a straight expression, in the order of preference: where each leads, and what
    has been noted by then. -/
def ways : Regex → Place → Saves → List (Place × Saves)
  | .cls c, place, saves =>
    match place.rest with
    | [] => []
    | x :: rest => if c.has x then [(⟨place.offset + 1, some x, rest⟩, saves)] else []
  | .look l, place, saves => if l.holds place.before place.rest.head? then [(place, saves)] else []
  | .cat a b, place, saves => (a.ways place saves).flatMap fun w => b.ways w.1 w.2
  | .group i a, place, saves =>
    (a.ways place ((2 * i, place.offset) :: saves)).map fun w =>
      (w.1, (2 * i + 1, w.1.offset) :: w.2)
  | .rep 0 none greedy (.cls c), place, saves =>
    (runPlaces greedy c place.offset place.before place.rest).map (·, saves)
  | _, _, _ => []

variable {r : Regex} {start next : Nat} {place : Place} {saves : Saves} {result : Option Saves}

/-- What backtracking comes to at the end of a way, if it goes on at `next`. -/
def Onward (program : Array Instruction) (next : Nat) (w : Place × Saves) (result : Option Saves) :
    Prop :=
  Explores program next w.1 w.2 result

/-- The code of a character. -/
private theorem Explores.first_take {c : CharClass} (h : Explores program start place saves result)
    (hi : program[start]? = some (.take c next)) :
    First (Onward program next) (ways (.cls c) place saves) result := by
  have hfirst := h.turns hi (by simp)
  obtain ⟨offset, before, rest⟩ := place
  cases rest with
  | nil =>
    cases hfirst
    exact .nil
  | cons x rest =>
    simp only [Regex.turns] at hfirst
    simp only [ways]
    split
    · rename_i hc
      rw [if_pos hc] at hfirst
      have hnext := First.singleton_iff.mp hfirst
      exact First.singleton_iff.mpr hnext
    · rename_i hc
      rw [if_neg hc] at hfirst
      cases hfirst
      exact .nil

/-- The code of a choice by greed, given what going on inside and after come to. -/
private theorem Explores.first_prefer {greedy : Bool} {inside after : Nat}
    (h : Explores program start place saves result)
    (hprefer : program[start]? = some (prefer greedy inside after)) (ws : List (Place × Saves))
    (hinside : ∀ {r}, Explores program inside place saves r → First (Onward program after) ws r) :
    First (Onward program after)
      (if greedy then ws ++ [(place, saves)] else (place, saves) :: ws) result := by
  cases greedy with
  -- Going on is tried first, and another turn only after it.
  | false =>
    rw [if_neg Bool.false_ne_true]
    cases h.turns hprefer (by simp [prefer]) with
    | here hafter => exact .here hafter
    | later hafter hlater =>
      have hlater := First.singleton_iff.mp hlater
      exact .later hafter (hinside hlater)
  -- Another turn is tried first, and going on only after it.
  | true =>
    rw [if_pos rfl]
    cases h.turns hprefer (by simp [prefer]) with
    | here hfound => exact (hinside hfound).append_some
    | later hnone hlater =>
      have hafter := First.singleton_iff.mp hlater
      exact (hinside hnone).append_none (First.singleton_iff.mpr hafter)

/-- The code of a run of characters. -/
private theorem Explores.first_run {greedy : Bool} {c : CharClass}
    (h : Explores program start place saves result)
    (hprefer : program[start]? = some (prefer greedy (start + 1) next))
    (htake : program[start + 1]? = some (.take c start)) :
    First (Onward program next) (ways (.rep 0 none greedy (.cls c)) place saves) result := by
  obtain ⟨offset, before, rest⟩ := place
  simp only [ways]
  -- Every turn of the run takes a character of what is left.
  induction rest generalizing offset before result with
  | nil =>
    have hfirst := h.first_prefer hprefer [] fun hinside => by
      cases hinside.first_take htake
      exact .nil
    rwa [List.nil_append, ite_self] at hfirst
  | cons x rest ih =>
    have hfirst := h.first_prefer hprefer
      ((if c.has x then runPlaces greedy c (offset + 1) (some x) rest else []).map (·, saves))
      fun hinside => by
        have htaken := hinside.first_take htake
        simp only [ways] at htaken
        split at htaken
        · rename_i hc
          rw [if_pos hc]
          have hagain := First.singleton_iff.mp htaken
          exact ih _ _ hagain
        · rename_i hc
          rw [if_neg hc]
          cases htaken
          exact .nil
    rw [runPlaces]
    cases greedy with
    | false => exact hfirst
    | true =>
      rw [if_pos rfl, List.map_append]
      exact hfirst

/-- **The code of an expression goes through its ways in order**, wherever it stands in a
    program. -/
theorem Straight.explores_ways (h : Straight r) (hcode : Placed program start (r.code start next))
    (hexplores : Explores program start place saves result) :
    First (Onward program next) (r.ways place saves) result := by
  induction h generalizing start next place saves result with
  | cls c => exact hexplores.first_take hcode.single
  | look l =>
    have hfirst := hexplores.turns hcode.single (by simp)
    simp only [Regex.turns] at hfirst
    rw [ways]
    split
    · rename_i hl
      rw [if_pos hl] at hfirst
      have hnext := First.singleton_iff.mp hfirst
      exact First.singleton_iff.mpr hnext
    · rename_i hl
      rw [if_neg hl] at hfirst
      cases hfirst
      exact .nil
  -- From each way through the first part, all ways through the second are tried.
  | cat ha hb iha ihb =>
    obtain ⟨hfirst, hsecond⟩ := hcode.cat ha
    exact (iha hfirst hexplores).flatMap fun w r hw => ihb hsecond hw
  -- The ends of a group are noted on the way into it and out of it.
  | group index ha ih =>
    obtain ⟨hopen, hbody, hclose⟩ := hcode.group ha
    have hinside := First.singleton_iff.mp (hexplores.turns hopen (by simp))
    refine (ih hbody hinside).map fun w r hw => ?_
    have hafter := First.singleton_iff.mp (Explores.turns hw hclose (by simp))
    exact hafter
  | run greedy c => exact hexplores.first_run hcode.run.1 hcode.run.2

/-- The program of an expression comes to the first of its ways. -/
private theorem Straight.explores_program (h : Straight r)
    (hexplores : Explores r.program 0 place saves result) :
    result = (r.ways place saves).head?.map Prod.snd := by
  have hfirst := h.explores_ways (placed_program r) hexplores
  -- The code goes on at the last instruction, which ends every match.
  have hend : ∀ w result, Onward r.program r.size w result → result = some w.2 := by
    rintro ⟨⟨offset, before, rest⟩, saves⟩ result hw
    have haccept := h.program_size
    cases hw <;> simp_all
  generalize r.ways place saves = ws at hfirst
  cases hfirst with
  | nil => rfl
  | here h => exact hend _ _ h
  | later h => cases hend _ _ h

end Regex

/-- **What an anchored expression captures was noted on the first of its ways** from the start of
    the text. -/
theorem Matcher.captures_ofRegex {r : Regex} (h : r.Straight)
    (hanchored : ∀ offset x rest place, ¬ r.Takes ⟨offset, some x, rest⟩ place)
    (names : List (String × Nat)) (text : List Char) :
    (ofRegex r names).captures text =
      ((Regex.group 0 r).ways ⟨0, none, text⟩ []).head?.map fun w =>
        (List.range (r.lastGroup + 1)).map (w.2.text? text) := by
  have hgroup := Regex.Straight.group 0 h
  have hnot :
      ∀ offset x rest, ¬ Regex.Accepts (ofRegex r names).program 0 ⟨offset, some x, rest⟩ := by
    intro offset x rest haccepts
    obtain ⟨place, hplace⟩ := (hgroup.accepts_program _).mp haccepts
    cases hplace with
    | group hplace => exact hanchored offset x rest place hplace
  obtain ⟨result, hexplores, hcaptures⟩ :=
    captures_explores (m := ofRegex r names) hgroup.forward_program hnot text
  rw [hcaptures, hgroup.explores_program hexplores, Option.map_map]
  rfl

end Softcode
