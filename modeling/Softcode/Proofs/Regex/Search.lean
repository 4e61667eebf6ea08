import Softcode.Regex.Search

namespace Softcode

/-!
# Searching is backtracking

The search tries each instruction at most once at each place.  Plain backtracking would try it again
and again, with the same outcome.  It is described here by what it comes to (`Regex.Explores`), with
no regard to what has been tried before.  Programs whose instructions all go on further ahead unless
they take a character (`Regex.Forward`) never come back to an instruction at the same place, so the
two agree.

* `Regex.Explores` — what backtracking from an instruction comes to at a place;
* `Regex.follow_explores` — following a program comes to the same;
* `Regex.searchFrom_searches` — hence so does the search from each place on;
* `Regex.Accepts`, `Regex.Explores.isSome_iff` — there is a result exactly if some way leads to the
  end.
-/

/-- The instructions that may come next at the same place. -/
def Instruction.idles : Instruction → List Nat
  | take _ _ | accept => []
  | choose first second => [first, second]
  | save _ next | check _ next | jump next => [next]

namespace Regex

variable {program : Array Instruction}

/-! ### Backtracking -/

/-- What backtracking from an instruction comes to at a place: what was noted on the preferred way
    to the end, or nothing if there is no such way. -/
inductive Explores (program : Array Instruction) : Nat → Place → Saves → Option Saves → Prop
  | stuck {pc place saves} (h : program[pc]? = none) : Explores program pc place saves none
  | accept {pc place saves} (h : program[pc]? = some .accept) :
      Explores program pc place saves (some saves)
  | jump {pc place saves next result} (h : program[pc]? = some (.jump next))
      (hnext : Explores program next place saves result) : Explores program pc place saves result
  | save {pc place saves slot next result} (h : program[pc]? = some (.save slot next))
      (hnext : Explores program next place ((slot, place.offset) :: saves) result) :
      Explores program pc place saves result
  | pass {pc place saves l next result} (h : program[pc]? = some (.check l next))
      (hl : l.holds place.before place.rest.head?)
      (hnext : Explores program next place saves result) :
      Explores program pc place saves result
  | refuse {pc place saves l next} (h : program[pc]? = some (.check l next))
      (hl : ¬ l.holds place.before place.rest.head?) : Explores program pc place saves none
  | first {pc place saves first second result} (h : program[pc]? = some (.choose first second))
      (hfirst : Explores program first place saves (some result)) :
      Explores program pc place saves (some result)
  | second {pc place saves first second result} (h : program[pc]? = some (.choose first second))
      (hfirst : Explores program first place saves none)
      (hsecond : Explores program second place saves result) :
      Explores program pc place saves result
  | take {pc offset before x rest saves c next result} (h : program[pc]? = some (.take c next))
      (hc : c.has x) (hnext : Explores program next ⟨offset + 1, some x, rest⟩ saves result) :
      Explores program pc ⟨offset, before, x :: rest⟩ saves result
  | differ {pc offset before x rest saves c next} (h : program[pc]? = some (.take c next))
      (hc : ¬ c.has x) : Explores program pc ⟨offset, before, x :: rest⟩ saves none
  | ended {pc offset before saves c next} (h : program[pc]? = some (.take c next)) :
      Explores program pc ⟨offset, before, []⟩ saves none

/-- Does backtracking from an instruction fail at a place? -/
def Fails (program : Array Instruction) (pc : Nat) (place : Place) : Prop :=
  ∀ saves, Explores program pc place saves none

/-- What was noted before does not matter for a failure. -/
private theorem Explores.fails {pc : Nat} {place : Place} {saves : Saves}
    (h : Explores program pc place saves none) : Fails program pc place := by
  -- What has been noted is changed along the way, but only a result shows it.
  generalize hresult : (none : Option Saves) = result at h
  induction h with
  | stuck h => exact fun _ => .stuck h
  | accept => cases hresult
  | jump h _ ih => exact fun saves => .jump h (ih hresult saves)
  | save h _ ih => exact fun _ => .save h (ih hresult _)
  | pass h hl _ ih => exact fun saves => .pass h hl (ih hresult saves)
  | refuse h hl => exact fun _ => .refuse h hl
  | first => cases hresult
  | second h _ _ ih ih' =>
    subst hresult
    exact fun saves => .second h (ih rfl saves) (ih' rfl saves)
  | take h hc _ ih => exact fun saves => .take h hc (ih hresult saves)
  | differ h hc => exact fun _ => .differ h hc
  | ended h => exact fun _ => .ended h

/-! ### Following a program -/

/-- Do all instructions that take no character go on further ahead? -/
def Forward (program : Array Instruction) : Prop :=
  ∀ (pc : Nat) (i : Instruction), program[pc]? = some i → ∀ next ∈ i.idles, pc < next

/-- Have the instructions that have been tried at later places failed there? -/
def Settled (program : Array Instruction) : Nat → List Char → List Untried → Prop
  | _, [], _ => True
  | _, _ :: _, [] => False
  | offset, x :: rest, there :: ahead =>
    (∀ q, q ∉ there → Fails program q ⟨offset + 1, some x, rest⟩) ∧
      Settled program (offset + 1) rest ahead

/-- Is this what backtracking comes to?  If it fails, what has been tried at the place in the
    meantime has failed, and so has what has been tried at later places. -/
def Agrees (program : Array Instruction) (pc : Nat) (place : Place) (saves : Saves)
    (here : Untried) :
    Except (Untried × List Untried) Saves → Prop
  | .ok result => Explores program pc place saves (some result)
  | .error (here', ahead') =>
    Explores program pc place saves none ∧ (∀ q, q ∉ here' → q ∉ here ∨ Fails program q place) ∧
      Settled program place.offset place.rest ahead'

/-- What is tried now has failed in the end, as has what was tried before. -/
private theorem Agrees.of_erase {pc : Nat} {place : Place} {saves : Saves} {here : Untried}
    {result : Except (Untried × List Untried) Saves}
    (h : Agrees program pc place saves (here.erase pc) result) :
    Agrees program pc place saves here result := by
  cases result with
  | ok => exact h
  | error tried =>
    obtain ⟨hnone, hhere, hahead⟩ := h
    refine ⟨hnone, fun q hq => ?_, hahead⟩
    by_cases hpc : q = pc
    · exact .inr (hpc ▸ hnone.fails)
    · exact (hhere q hq).imp_left fun hq => fun hmem => hq ((List.mem_erase_of_ne hpc).mpr hmem)

/-- An instruction that comes to what the next one comes to. -/
private theorem Agrees.of_next {pc next : Nat} {place : Place} {saves saves' : Saves}
    {here : Untried} {result : Except (Untried × List Untried) Saves}
    (h : Agrees program next place saves' here result)
    (hnext : ∀ {r}, Explores program next place saves' r → Explores program pc place saves r) :
    Agrees program pc place saves here result := by
  cases result with
  | ok => exact hnext h
  | error => exact ⟨hnext h.1, h.2⟩

/-- An instruction that fails at once has tried nothing but itself. -/
private theorem Agrees.of_none {pc : Nat} {place : Place} {saves : Saves} {here : Untried}
    {ahead : List Untried} (hnone : Explores program pc place saves none)
    (hahead : Settled program place.offset place.rest ahead) :
    Agrees program pc place saves here (.error (here, ahead)) :=
  ⟨hnone, fun _ => .inl, hahead⟩

/-- A choice comes to what its second way comes to, if its first way has failed. -/
theorem Agrees.second {pc first second : Nat} {place : Place} {saves : Saves} {here here' : Untried}
    {ahead' : List Untried} {result : Except (Untried × List Untried) Saves}
    (h : program[pc]? = some (.choose first second))
    (hfirst : Agrees program first place saves here (.error (here', ahead')))
    (hsecond : Agrees program second place saves here' result) :
    Agrees program pc place saves here result := by
  obtain ⟨hnone, hhere, -⟩ := hfirst
  cases result with
  | ok => exact Explores.second h hnone hsecond
  | error =>
    refine ⟨.second h hnone hsecond.1, fun q hq => ?_, hsecond.2.2⟩
    exact (hsecond.2.1 q hq).elim (hhere q) .inr

/-- A character is taken, and what has been tried behind it has failed there. -/
private theorem Agrees.take_error {pc next offset : Nat} {before : Option Char} {x : Char}
    {rest : List Char} {saves : Saves} {c : CharClass} {here there there' : Untried}
    {ahead' : List Untried} (h : program[pc]? = some (.take c next)) (hc : c.has x)
    (hthere : ∀ q, q ∉ there → Fails program q ⟨offset + 1, some x, rest⟩)
    (hnext : Agrees program next ⟨offset + 1, some x, rest⟩ saves there (.error (there', ahead'))) :
    Agrees program pc ⟨offset, before, x :: rest⟩ saves here (.error (here, there' :: ahead')) := by
  obtain ⟨hnone, hfails, hahead⟩ := hnext
  exact .of_none (.take h hc hnone) ⟨fun q hq => (hfails q hq).elim (hthere q) id, hahead⟩

/-- Has all failed that has been tried, at the place from an instruction on, and at the later
    places? -/
structure AllFailed (program : Array Instruction) (pc : Nat) (place : Place) (here : Untried)
    (ahead : List Untried) : Prop where
  here : ∀ q, pc ≤ q → q ∉ here → Fails program q place
  ahead : Settled program place.offset place.rest ahead

namespace AllFailed

variable {pc next : Nat} {place : Place} {here : Untried} {ahead : List Untried}

/-- Trying an instruction says nothing about those behind it. -/
theorem erase (h : AllFailed program pc place here ahead) :
    AllFailed program (pc + 1) place (here.erase pc) ahead where
  here q hq hmem := h.here q (by omega) fun hin => hmem ((List.mem_erase_of_ne (by omega)).mpr hin)
  ahead := h.ahead

/-- What holds from an instruction on holds from a later one on. -/
private theorem of_le (h : AllFailed program pc place here ahead) (hle : pc ≤ next) :
    AllFailed program next place here ahead :=
  ⟨fun q hq => h.here q (Nat.le_trans hle hq), h.ahead⟩

/-- What has been tried on a way that has failed has failed. -/
private theorem of_error {first : Nat} {saves : Saves} {here' : Untried} {ahead' : List Untried}
    (h : AllFailed program pc place here ahead) (hle : pc ≤ next)
    (hfirst : Agrees program first place saves here (.error (here', ahead'))) :
    AllFailed program next place here' ahead' where
  here q hq hmem := (hfirst.2.1 q hmem).elim (h.here q (Nat.le_trans hle hq)) id
  ahead := hfirst.2.2

end AllFailed

/-- Is following a program with so much fuel backtracking?  All must have failed that has been tried
    at later places, and at this place from the instruction on. -/
private def FollowsWith (program : Array Instruction) (fuel : Nat) : Prop :=
  ∀ (pc : Nat) (place : Place) (saves : Saves) {here : Untried} {ahead : List Untried},
    program.size * (place.rest.length + 1) ≤ fuel + pc → AllFailed program pc place here ahead →
    Agrees program pc place saves here (follow program fuel pc place saves here ahead)

/-- An untried instruction, one step before following is known to be backtracking. -/
private structure Attempt (program : Array Instruction) (fuel pc : Nat) (place : Place)
    (here : Untried) (ahead : List Untried) : Prop where
  forward : Forward program
  follows : FollowsWith program fuel
  untried : here.contains pc
  enough : program.size * (place.rest.length + 1) ≤ fuel + 1 + pc
  failed : AllFailed program (pc + 1) place (here.erase pc) ahead

namespace Attempt

variable {fuel pc : Nat} {place : Place} {here : Untried} {ahead : List Untried}

/-- Going on further ahead at the same place. -/
private theorem idle (t : Attempt program fuel pc place here ahead) {i : Instruction}
    (h : program[pc]? = some i) (saves : Saves) {next : Nat} (hnext : next ∈ i.idles) :
    Agrees program next place saves (here.erase pc)
      (follow program fuel next place saves (here.erase pc) ahead) := by
  have hlt : pc < next := t.forward pc i h next hnext
  have henough := t.enough
  exact t.follows next place saves (by omega) (t.failed.of_le hlt)

variable (saves : Saves) {next : Nat}

/-- A condition is checked. -/
private theorem check (t : Attempt program fuel pc place here ahead) {l : Look}
    (h : program[pc]? = some (.check l next)) :
    Agrees program pc place saves here
      (follow program (fuel + 1) pc place saves here ahead) := by
  refine Agrees.of_erase ?_
  rw [follow, if_pos t.untried, h]
  dsimp only
  split
  next hl =>
    have hnext := t.idle h saves List.mem_cons_self
    exact hnext.of_next (.pass h hl)
  next hl => exact .of_none (.refuse h hl) t.failed.ahead

/-- The second way of a choice is gone if the first has failed. -/
private theorem choose (t : Attempt program fuel pc place here ahead) {first second : Nat}
    (h : program[pc]? = some (.choose first second)) :
    Agrees program pc place saves here
      (follow program (fuel + 1) pc place saves here ahead) := by
  have hfirst := t.idle h saves List.mem_cons_self
  have hlt : pc < second := t.forward pc _ h second (by simp [Instruction.idles])
  have henough := t.enough
  refine Agrees.of_erase ?_
  rw [follow, if_pos t.untried, h]
  dsimp only
  generalize follow program fuel first place saves (here.erase pc) ahead = result at hfirst
  cases result with
  | ok => exact .first h hfirst
  | error =>
    have hfailed := t.failed.of_error hlt hfirst
    exact .second h hfirst (t.follows second place saves (by omega) hfailed)

/-- A character is taken if it is there and in the class. -/
private theorem take (t : Attempt program fuel pc place here ahead) {c : CharClass}
    (h : program[pc]? = some (.take c next)) :
    Agrees program pc place saves here
      (follow program (fuel + 1) pc place saves here ahead) := by
  have hahead := t.failed.ahead
  refine Agrees.of_erase ?_
  rw [follow, if_pos t.untried, h]
  obtain ⟨offset, before, _ | ⟨x, rest⟩⟩ := place
  · exact .of_none (.ended h) hahead
  obtain _ | ⟨there, ahead⟩ := ahead
  · cases hahead
  dsimp only
  by_cases hc : c.has x
  · -- The character that is taken makes up for going back.
    have hsize : pc < program.size := (Array.getElem?_eq_some_iff.mp h).1
    have henough : program.size * (rest.length + 1) ≤ fuel + next := by
      have := t.enough
      simp only [List.length_cons, Nat.mul_succ] at this ⊢
      omega
    have hnext := t.follows next ⟨offset + 1, some x, rest⟩ saves henough
      ⟨fun q _ => hahead.1 q, hahead.2⟩
    rw [if_pos hc]
    generalize follow program fuel next _ saves there ahead = result at hnext
    cases result with
    | ok => exact .take h hc hnext
    | error => exact .take_error h hc hahead.1 hnext
  · rw [if_neg hc]
    exact .of_none (.differ h hc) hahead

/-- Whatever the instruction is, one step more is backtracking too. -/
private theorem agrees (t : Attempt program fuel pc place here ahead) :
    Agrees program pc place saves here
      (follow program (fuel + 1) pc place saves here ahead) := by
  cases h : program[pc]? with
  | none =>
    refine Agrees.of_erase ?_
    rw [follow, if_pos t.untried, h]
    exact .of_none (.stuck h) t.failed.ahead
  | some i =>
    cases i with
    | take c next => exact t.take saves h
    | choose first second => exact t.choose saves h
    | save slot next =>
      have hnext := t.idle h ((slot, place.offset) :: saves) List.mem_cons_self
      refine Agrees.of_erase ?_
      rw [follow, if_pos t.untried, h]
      exact hnext.of_next (.save h)
    | check l next => exact t.check saves h
    | jump next =>
      have hnext := t.idle h saves List.mem_cons_self
      refine Agrees.of_erase ?_
      rw [follow, if_pos t.untried, h]
      exact hnext.of_next (.jump h)
    | accept =>
      rw [follow, if_pos t.untried, h]
      exact .accept h

end Attempt

/-- **Following a program is backtracking.**  Let all have failed that has been tried at later
    places, and at this place from the instruction on.  Then what the program comes to is what
    backtracking comes to. -/
theorem follow_explores (hforward : Forward program) {fuel : Nat} (pc : Nat) (place : Place)
    (saves : Saves) {here : Untried} {ahead : List Untried}
    (hfuel : program.size * (place.rest.length + 1) ≤ fuel + pc)
    (hfailed : AllFailed program pc place here ahead) :
    Agrees program pc place saves here (follow program fuel pc place saves here ahead) := by
  induction fuel generalizing pc place saves here ahead with
  | zero =>
    -- Without fuel left, the instruction is behind the last one.
    have hsize : program.size ≤ pc := by
      rw [Nat.mul_succ] at hfuel
      omega
    exact .of_none (.stuck (Array.getElem?_eq_none hsize)) hfailed.ahead
  | succ fuel ih =>
    by_cases htried : here.contains pc
    · have hattempt : Attempt program fuel pc place here ahead :=
        ⟨hforward, fun pc place saves _ _ => ih pc place saves, htried, hfuel, hfailed.erase⟩
      exact hattempt.agrees saves
    · have hfails := hfailed.here pc (Nat.le_refl pc) (by simpa using htried)
      rw [follow, if_neg htried]
      exact .of_none (hfails saves) hfailed.ahead

/-! ### Searching a text -/

/-- What the search from a place on comes to: what backtracking comes to at the first place where it
    does not fail. -/
inductive Searches (program : Array Instruction) :
    Nat → Option Char → List Char → Option Saves → Prop
  | found {offset before rest result}
      (h : Explores program 0 ⟨offset, before, rest⟩ [] (some result)) :
      Searches program offset before rest (some result)
  | later {offset before x rest result} (h : Explores program 0 ⟨offset, before, x :: rest⟩ [] none)
      (hlater : Searches program (offset + 1) (some x) rest result) :
      Searches program offset before (x :: rest) result
  | ended {offset before} (h : Explores program 0 ⟨offset, before, []⟩ [] none) :
      Searches program offset before [] none

/-- The search from a place on comes to what it should, if what has been tried has failed. -/
theorem searchFrom_searches (hforward : Forward program) {fuel : Nat} (offset : Nat)
    (before : Option Char) {here : Untried} {ahead : List Untried} {rest : List Char}
    (hfuel : program.size * (rest.length + 1) ≤ fuel)
    (hhere : ∀ q, q ∉ here → Fails program q ⟨offset, before, rest⟩)
    (hahead : Settled program offset rest ahead) :
    Searches program offset before rest
      (searchFrom program fuel offset before here ahead rest) := by
  induction rest generalizing offset before here ahead with
  | nil =>
    have hfollow := follow_explores hforward 0 ⟨offset, before, []⟩ [] hfuel
      ⟨fun q _ => hhere q, hahead⟩
    rw [searchFrom]
    generalize follow program fuel 0 _ _ here ahead = result at hfollow
    cases result with
    | ok => exact .found hfollow
    | error => exact .ended hfollow.1
  | cons x rest ih =>
    have hfollow := follow_explores hforward 0 ⟨offset, before, x :: rest⟩ [] hfuel
      ⟨fun q _ => hhere q, hahead⟩
    rw [searchFrom]
    generalize follow program fuel 0 _ _ here ahead = result at hfollow
    cases result with
    | ok => exact .found hfollow
    | error tried =>
      obtain ⟨here', ahead'⟩ := tried
      obtain ⟨hnone, -, hahead'⟩ := hfollow
      cases ahead' with
      | nil => cases hahead'
      | cons there ahead' =>
        -- There is one character less to go, and so less fuel is needed.
        have hfuel' : program.size * (rest.length + 1) ≤ fuel := by
          simp only [List.length_cons, Nat.mul_succ] at hfuel ⊢
          omega
        exact .later hnone (ih (offset + 1) (some x) hfuel' hahead'.1 hahead'.2)

/-- Nothing has been tried at first. -/
private theorem fails_of_notMem_range {place : Place} {q : Nat} (h : q ∉ List.range program.size) :
    Fails program q place := by
  rw [List.mem_range, Nat.not_lt] at h
  exact fun _ => .stuck (Array.getElem?_eq_none h)

/-- Nothing has been tried at first at the later places. -/
private theorem settled_replicate (program : Array Instruction) (offset : Nat) (rest : List Char) :
    Settled program offset rest (List.replicate rest.length (List.range program.size)) := by
  induction rest generalizing offset with
  | nil => trivial
  | cons x rest ih => exact ⟨fun _ => fails_of_notMem_range, ih (offset + 1)⟩

/-! ### Ways to the end -/

/-- Is there a way to the end from an instruction at a place? -/
inductive Accepts (program : Array Instruction) : Nat → Place → Prop
  | accept {pc place} (h : program[pc]? = some .accept) : Accepts program pc place
  | jump {pc place next} (h : program[pc]? = some (.jump next))
      (hnext : Accepts program next place) :
      Accepts program pc place
  | save {pc place slot next} (h : program[pc]? = some (.save slot next))
      (hnext : Accepts program next place) : Accepts program pc place
  | check {pc place l next} (h : program[pc]? = some (.check l next))
      (hl : l.holds place.before place.rest.head?) (hnext : Accepts program next place) :
      Accepts program pc place
  | first {pc place first second} (h : program[pc]? = some (.choose first second))
      (hnext : Accepts program first place) : Accepts program pc place
  | second {pc place first second} (h : program[pc]? = some (.choose first second))
      (hnext : Accepts program second place) : Accepts program pc place
  | take {pc offset before x rest c next} (h : program[pc]? = some (.take c next)) (hc : c.has x)
      (hnext : Accepts program next ⟨offset + 1, some x, rest⟩) :
      Accepts program pc ⟨offset, before, x :: rest⟩

/-- Does an instruction at a place lead to the end, or to an instruction at a place where the
    condition holds? -/
def Leads (condition : Nat → Place → Prop) (place : Place) : Instruction → Prop
  | .take c next =>
    ∃ x rest, place.rest = x :: rest ∧ c.has x ∧ condition next ⟨place.offset + 1, some x, rest⟩
  | .choose first second => condition first place ∨ condition second place
  | .save _ next | .jump next => condition next place
  | .check l next => l.holds place.before place.rest.head? ∧ condition next place
  | .accept => True

/-- A way to the end goes on where the instruction leads. -/
theorem accepts_iff {pc : Nat} {i : Instruction} {place : Place} (h : program[pc]? = some i) :
    Accepts program pc place ↔ Leads (Accepts program) place i := by
  constructor
  · intro haccepts
    cases haccepts with
    | accept hi | jump hi hnext | save hi hnext | check hi hl hnext | first hi hnext
      | second hi hnext =>
      cases Option.some.inj (h.symm.trans hi)
      simp_all [Leads]
    | take hi hc hnext =>
      cases Option.some.inj (h.symm.trans hi)
      exact ⟨_, _, rfl, hc, hnext⟩
  · intro hleads
    cases i with
    | take c next =>
      obtain ⟨offset, before, rest⟩ := place
      obtain ⟨x, rest', rfl, hc, hnext⟩ := hleads
      exact .take h hc hnext
    | choose => exact hleads.elim (.first h) (.second h)
    | save => exact .save h hleads
    | check => exact .check h hleads.1 hleads.2
    | jump => exact .jump h hleads
    | accept => exact .accept h

/-- There is no way from an instruction that is not there. -/
private theorem not_accepts_of_none {pc : Nat} {place : Place} (h : program[pc]? = none) :
    ¬ Accepts program pc place := by
  intro haccepts
  cases haccepts <;> simp_all

/-- **Backtracking finds a way to the end exactly if there is one.** -/
theorem Explores.isSome_iff {pc : Nat} {place : Place} {saves : Saves} {result : Option Saves}
    (h : Explores program pc place saves result) : result.isSome ↔ Accepts program pc place := by
  -- What exploration tries is what acceptance allows.
  induction h with
  | stuck h => simp [not_accepts_of_none h]
  | accept h => simp [accepts_iff h, Leads]
  | jump h _ ih | save h _ ih => simpa [accepts_iff h, Leads] using ih
  | pass h hl _ ih => simpa [accepts_iff h, Leads, hl] using ih
  | refuse h hl => simp [accepts_iff h, Leads, hl]
  | first h _ ih => simp [accepts_iff h, Leads, ← ih]
  | second h _ _ ih ih' => simpa [accepts_iff h, Leads, ← ih] using ih'
  | take h hc _ ih =>
    rw [accepts_iff h, ih]
    constructor
    · exact fun hnext => ⟨_, _, rfl, hc, hnext⟩
    · rintro ⟨_, _, ⟨⟩, -, hnext⟩
      exact hnext
  | differ h hc =>
    rw [accepts_iff h]
    simp only [Option.isSome_none, Bool.false_eq_true, false_iff]
    rintro ⟨_, _, ⟨⟩, hx, -⟩
    exact hc hx
  | ended h => simp [accepts_iff h, Leads]

/-- A program that is anchored at the start of the text finds nothing after it. -/
private theorem Searches.eq_none
    (hanchored : ∀ offset x rest, ¬ Accepts program 0 ⟨offset, some x, rest⟩) {offset : Nat}
    {x : Char} {rest : List Char} {result : Option Saves}
    (h : Searches program offset (some x) rest result) : result = none := by
  generalize hbefore : some x = before at h
  induction h generalizing x with
  | found h => exact absurd (h.isSome_iff.mp rfl) (hbefore ▸ hanchored _ x _)
  | later _ _ ih => exact ih rfl
  | ended => rfl

/-- What the search comes to for a program that is anchored at the start of the text. -/
private theorem Searches.explores
    (hanchored : ∀ offset x rest, ¬ Accepts program 0 ⟨offset, some x, rest⟩) {offset : Nat}
    {before : Option Char} {rest : List Char} {result : Option Saves}
    (h : Searches program offset before rest result) :
    Explores program 0 ⟨offset, before, rest⟩ [] result := by
  cases h with
  | found h => exact h
  | later h hlater => exact hlater.eq_none hanchored ▸ h
  | ended h => exact h

end Regex

namespace Matcher

variable {m : Matcher}

/-- What an anchored matcher captures is what backtracking from the start of the text comes to. -/
theorem captures_explores (hforward : Regex.Forward m.program)
    (hanchored : ∀ offset x rest, ¬ Regex.Accepts m.program 0 ⟨offset, some x, rest⟩)
    (text : List Char) :
    ∃ result, Regex.Explores m.program 0 ⟨0, none, text⟩ [] result ∧
      m.captures text = result.map fun saves => (List.range m.groups).map (saves.text? text) := by
  have hsearch := Regex.searchFrom_searches hforward 0 none (Nat.le_refl _)
    (fun _ => Regex.fails_of_notMem_range) (Regex.settled_replicate m.program 0 text)
  exact ⟨_, hsearch.explores hanchored, rfl⟩

/-- **An anchored matcher accepts a text exactly if there is a way to the end from its start.** -/
theorem accepts_iff (hforward : Regex.Forward m.program)
    (hanchored : ∀ offset x rest, ¬ Regex.Accepts m.program 0 ⟨offset, some x, rest⟩)
    (text : List Char) :
    m.accepts text ↔ Regex.Accepts m.program 0 ⟨0, none, text⟩ := by
  obtain ⟨result, hresult, hcaptures⟩ := captures_explores hforward hanchored text
  rw [← hresult.isSome_iff, accepts, hcaptures, Option.isSome_map]

end Matcher

end Softcode
