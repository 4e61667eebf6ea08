import Mathlib.Data.Finset.Card
import Mathlib.Logic.Relation
import Softcode.Proofs.Results
import Softcode.Proofs.World.Allocation
import Softcode.Proofs.World.AttributeTrees

namespace Softcode

/-!
# Parents

An object names its parent by number.  When the parent is destroyed its number stays in the
children, and it means the next object that gets the number.  So the way along parents may lead to
numbers of no objects, and it may go on from there some day.

`World.ancestry` follows that way with a list of the numbers that it has visited and a bound on the
hops.  In every world, also one with loops, it finds just what can be reached
(`World.mem_ancestry`): the numbers that it finds are closed under parents, because hops run out
only when all objects have been visited.  So no object becomes its own ancestor, and then no
operation makes a loop: all but `World.setParent` can only take parents away.

* `World.setParent_cases` — what giving an object a parent can do;
* `World.Operation.acyclic` — no operation makes a loop;
* `World.Made.acyclic_setParent` — in a world that has been made by operations there are no loops,
  and an object gets every parent that makes none.
-/

open Relation

/-! ### One more link -/

section

variable {α : Type} {r r' : α → α → Prop} {a b : α}

/-- If all links of `r'` but one from `a` to `b` are links of `r`, and no way in `r` leads back from
    `b` to `a`, then a way in `r'` uses the new link at most once. -/
private theorem transGen_of_link (hlink : ∀ x y, r' x y → r x y ∨ x = a ∧ y = b)
    (hback : ¬ ReflTransGen r b a) {x y : α} (h : TransGen r' x y) :
    TransGen r x y ∨ ReflTransGen r x a ∧ ReflTransGen r b y := by
  -- A path that uses the new edge twice would lead from its end back to its start.
  induction h with
  | single hxy =>
    rcases hlink _ _ hxy with hxy | ⟨rfl, rfl⟩
    · exact .inl (.single hxy)
    · exact .inr ⟨.refl, .refl⟩
  | tail _ hyz ih =>
    rcases hlink _ _ hyz with hyz | ⟨rfl, rfl⟩
    · rcases ih with hold | ⟨hxa, hby⟩
      · exact .inl (hold.tail hyz)
      · exact .inr ⟨hxa, hby.tail hyz⟩
    · rcases ih with hold | ⟨-, hby⟩
      · exact .inr ⟨hold.to_reflTransGen, .refl⟩
      · exact absurd hby hback

end

/-- What is not there is not changed. -/
private theorem Table.modify_of_none {κ ν : Type} [DecidableEq κ] {t : Table κ ν} {k : κ}
    (h : t.find? k = none) (f : ν → ν) : t.modify k f = t := by
  obtain ⟨es⟩ := t
  simp only [find?, modify, mk.injEq] at h ⊢
  induction es with
  | nil => rfl
  | cons e es ih =>
    rw [find?.go] at h
    split at h
    · cases h
    · rename_i he
      rw [List.map_cons, if_neg he, ih h]

namespace World

variable {w w' : World} {visited : List Dbref} {hops : Nat} {d p : Dbref}

/-- Does the object have the parent `p`?  There may be no object with that number. -/
def Parent (w : World) (d p : Dbref) : Prop := (w.object? d).bind (·.parent) = some p

instance (w : World) (d p : Dbref) : Decidable (w.Parent d p) :=
  inferInstanceAs (Decidable (_ = _))

/-- Does no way along parents lead back to where it began? -/
def Acyclic (w : World) : Prop := ∀ d, ¬ TransGen w.Parent d d

/-- Only an object has a parent. -/
private theorem Parent.object?_ne_none (h : w.Parent d p) : w.object? d ≠ none := by
  intro hnone
  rw [Parent, hnone] at h
  cases h

/-! ### Ancestors -/

/-- The way ends where there is no parent. -/
theorem ancestors_none (w : World) (visited : List Dbref) (hops : Nat) :
    w.ancestors visited hops none = [] := by
  cases hops <;> rfl

/-- The way goes on from a number that has not been visited. -/
theorem ancestors_some (w : World) (visited : List Dbref) (hops : Nat) (d : Dbref) :
    w.ancestors visited (hops + 1) (some d) = if d ∈ visited then []
      else d :: w.ancestors (d :: visited) hops ((w.object? d).bind (·.parent)) := rfl

/-- All that is found can be reached. -/
private theorem reflTransGen_of_mem_ancestors {x : Dbref}
    (h : x ∈ w.ancestors visited hops (some d)) :
    ReflTransGen w.Parent d x := by
  -- The walk goes up one edge for each hop.
  induction hops generalizing visited d with
  | zero => cases h
  | succ hops ih =>
    rw [ancestors_some] at h
    split at h
    · cases h
    · rcases List.mem_cons.mp h with rfl | h
      · exact .refl
      · cases hp : (w.object? d).bind (·.parent) with
        | none =>
          rw [hp, ancestors_none] at h
          cases h
        | some p =>
          rw [hp] at h
          exact .head hp (ih h)

/-- The objects that have not been visited. -/
def unvisited (w : World) (visited : List Dbref) : Finset Dbref :=
  w.objects.keys.toFinset \ visited.toFinset

/-- Each object that is visited leaves fewer. -/
private theorem card_unvisited_cons (hlive : w.object? d ≠ none) (hnew : d ∉ visited) :
    (w.unvisited (d :: visited)).card < (w.unvisited visited).card := by
  obtain ⟨o, ho⟩ := Option.ne_none_iff_exists'.mp hlive
  have hkey : d ∈ w.objects.keys := List.mem_map.mpr ⟨(d, o), Table.mem_of_find? ho, rfl⟩
  rw [unvisited, List.toFinset_cons, Finset.sdiff_insert]
  apply Finset.card_erase_lt_of_mem
  simp only [Finset.mem_sdiff, List.mem_toFinset]
  exact ⟨hkey, hnew⟩

/-- The way finds where it begins, unless that has been visited. -/
private theorem mem_ancestors_self (hhops : 0 < hops) :
    d ∈ w.ancestors visited hops (some d) ∨ d ∈ visited := by
  obtain ⟨hops, rfl⟩ := Nat.exists_eq_succ_of_ne_zero hhops.ne'
  rw [ancestors_some]
  by_cases hd : d ∈ visited
  · exact .inr hd
  · rw [if_neg hd]
    exact .inl List.mem_cons_self

/-- With enough hops, the parent of all that is found is found too, or it has been visited
    before. -/
private theorem mem_ancestors_of_parent (hhops : (w.unvisited visited).card < hops) {a b : Dbref}
    (ha : a ∈ w.ancestors visited hops (some d)) (hab : w.Parent a b) :
    b ∈ w.ancestors visited hops (some d) ∨ b ∈ visited := by
  induction hops generalizing visited d with
  | zero => cases ha
  | succ hops ih =>
    rw [ancestors_some] at ha ⊢
    by_cases hd : d ∈ visited
    · rw [if_pos hd] at ha
      cases ha
    · rw [if_neg hd] at ha ⊢
      cases hp : (w.object? d).bind (·.parent) with
      | none =>
        -- The way ends here, so that `a` is `d`, which has no parent.
        rw [hp, ancestors_none] at ha
        obtain rfl := List.mem_singleton.mp ha
        rw [Parent, hp] at hab
        cases hab
      | some p =>
        rw [hp] at ha
        have hparent : w.Parent d p := hp
        have hfewer := card_unvisited_cons hparent.object?_ne_none hd
        have hhops' : (w.unvisited (d :: visited)).card < hops := by omega
        have hfound : b ∈ w.ancestors (d :: visited) hops (some p) ∨ b ∈ d :: visited := by
          rcases List.mem_cons.mp ha with rfl | ha
          · obtain rfl : p = b := Option.some.inj (hparent.symm.trans hab)
            exact mem_ancestors_self (by omega)
          · exact ih hhops' ha
        rcases hfound with hb | hb
        · exact .inl (List.mem_cons_of_mem d hb)
        · rcases List.mem_cons.mp hb with rfl | hb
          · exact .inl List.mem_cons_self
          · exact .inr hb

/-- **The ancestry of an object is all that can be reached from it along parents.** -/
theorem mem_ancestry {x : Dbref} : x ∈ w.ancestry d ↔ ReflTransGen w.Parent d x := by
  have hhops : (w.unvisited []).card < w.objects.size + 1 := by
    have hcard := List.toFinset_card_le w.objects.keys
    simp only [Table.keys, List.length_map] at hcard
    simp only [unvisited, List.toFinset_nil, Finset.sdiff_empty, Table.keys, Table.size]
    omega
  constructor
  · exact reflTransGen_of_mem_ancestors
  · intro h
    induction h with
    | refl => exact (mem_ancestors_self (by omega)).resolve_right List.not_mem_nil
    | tail _ hab ih => exact (mem_ancestors_of_parent hhops ih hab).resolve_right List.not_mem_nil

/-! ### Giving an object a parent -/

/-- An object that does not exist is not changed. -/
private theorem update_of_none (h : w.object? d = none) (f : Object → Object) :
    w.update d f = w := by
  have hmodify : w.objects.modify d f = w.objects := Table.modify_of_none h f
  rw [update, hmodify]

/-- What it comes to, without the steps in between. -/
private theorem setParent_run (w : World) (child : Dbref) (parent : Option Dbref) :
    (setParent child parent).run.run w
      = match parent.filter fun p => child ∈ w.ancestry p with
        | some p => (.error (parentLoop child p), w)
        | none => (if w.objects.has child then .ok () else .error (noSuchObject child),
            w.update child fun o => { o with parent }) := by
  rw [setParent, run_get_bind]
  cases parent.filter fun p => child ∈ w.ancestry p with
  | some p => rfl
  | none =>
    simp only [run_modifyGet_bind]
    cases w.objects.has child <;> rfl

/-- **What giving an object a parent can do.**  It fails and nothing is changed, if the object does
    not exist or if it is the parent or one of its ancestors.  Otherwise the object gets the
    parent. -/
theorem setParent_cases (w : World) (child : Dbref) (parent : Option Dbref) :
    ((∃ e, (setParent child parent).run.run w = (.error e, w)) ∧
        (w.object? child = none ∨ ∃ p, parent = some p ∧ ReflTransGen w.Parent p child)) ∨
      ((setParent child parent).run.run w = (.ok (), w.update child fun o => { o with parent }) ∧
        w.object? child ≠ none ∧ ∀ p, parent = some p → ¬ ReflTransGen w.Parent p child) := by
  rw [setParent_run]
  split
  · -- The child is among the ancestors of its new parent.
    rename_i p hfilter
    obtain ⟨hparent, hp⟩ := Option.filter_eq_some_iff.mp hfilter
    have hloop : ReflTransGen w.Parent p child := mem_ancestry.mp (of_decide_eq_true hp)
    exact .inl ⟨⟨_, rfl⟩, .inr ⟨p, hparent, hloop⟩⟩
  · rename_i hfilter
    -- There is no loop, so it depends on whether the child exists.
    have hloop : ∀ p, parent = some p → ¬ ReflTransGen w.Parent p child := by
      intro p hp hpath
      exact Option.filter_eq_none_iff.mp hfilter p hp (decide_eq_true (mem_ancestry.mpr hpath))
    cases hchild : w.object? child with
    | none =>
      have hhas : w.objects.has child = false := congrArg Option.isSome hchild
      rw [hhas, update_of_none hchild]
      exact .inl ⟨⟨_, rfl⟩, .inl rfl⟩
    | some o =>
      have hhas : w.objects.has child = true := congrArg Option.isSome hchild
      rw [hhas]
      exact .inr ⟨rfl, Option.some_ne_none o, hloop⟩

/-- Only the parent of the child is set. -/
private theorem parent_update (w : World) (child : Dbref) (parent : Option Dbref)
    (hchild : w.object? child ≠ none) (d p : Dbref) :
    (w.update child fun o => { o with parent }).Parent d p
      ↔ if d = child then parent = some p else w.Parent d p := by
  rw [Parent, object?_update]
  by_cases hd : d = child
  · obtain ⟨o, ho⟩ := Option.ne_none_iff_exists'.mp hchild
    rw [if_pos hd, if_pos hd, hd, ho]
    rfl
  · rw [if_neg hd, if_neg hd, Parent]

/-! ### Operations -/

/-- One operation on a world.  One that fails is seen by what it leaves. -/
inductive Operation : World → World → Prop
  | create (w : World) (kind : Kind) (name : String) (location : Option Dbref) :
      Operation w (w.create kind name location).2
  | recycle (w : World) (d : Dbref) : Operation w (w.recycle d)
  | setParent (w : World) (child : Dbref) (parent : Option Dbref) :
      Operation w ((setParent child parent).run.run w).2
  | setZone (w : World) (d : Dbref) (zone : Option Dbref) :
      Operation w (w.update d fun o => { o with zone })
  | putAttribute (w : World) (d : Dbref) (path : AttributePath) (value : Styled) (owner : Dbref) :
      Operation w (w.putAttribute d path value owner)
  | setAttribute (w : World) (d : Dbref) (path : AttributePath) (value : Styled) (owner : Dbref) :
      Operation w ((setAttribute d path value owner).run.run w).2
  | modifyFlags (w : World) (d : Dbref) (name : String) (f : AttributeFlags → AttributeFlags) :
      Operation w (w.modifyFlags d name f)
  | removeAttribute (w : World) (d : Dbref) (path : AttributePath) :
      Operation w ((removeAttribute d path).run.run w).2
  | removeMatching (w : World) (d : Dbref) (glob : List Char) :
      Operation w ((removeMatching d glob).run.run w).2

/-- A world that has been made by operations alone. -/
def Made (w : World) : Prop := ReflTransGen Operation {} w

/-- What changes attributes leaves the objects. -/
theorem ChangesAttributes.objects {α : Type} {x : ExceptT ScriptError (StateM World) α}
    (h : ChangesAttributes d x) (w : World) : (x.run.run w).2.objects = w.objects := by
  rcases h w with hsame | ⟨t, ht⟩
  · rw [hsame]
  · rw [ht]
    rfl

/-- **What an operation does to parents.**  It sets none, or that of one child, which is then not
    among the ancestors of its parent. -/
theorem Operation.parent (h : Operation w w') :
    (∀ d p, w'.Parent d p → w.Parent d p) ∨
      ∃ child parent, ¬ ReflTransGen w.Parent parent child ∧
        ∀ d p, w'.Parent d p → w.Parent d p ∨ d = child ∧ p = parent := by
  have hsame : w'.objects = w.objects → ∀ d p, w'.Parent d p → w.Parent d p := by
    intro hobjects d p hp
    rwa [Parent, object?_congr hobjects] at hp
  cases h with
  | create kind name location =>
    -- The new object has no parent, also if its number is that of a parent of others.
    refine .inl fun d p hp => ?_
    rw [Parent, object?_create] at hp
    split at hp
    · cases hp
    · exact hp
  | recycle d =>
    refine .inl fun d' p hp => ?_
    rw [Parent, object?_recycle] at hp
    split at hp
    · cases hp
    · exact hp
  | setParent child parent =>
    rcases w.setParent_cases child parent with ⟨⟨e, hrun⟩, -⟩ | ⟨hrun, hchild, hloop⟩
    · rw [hrun]
      exact .inl fun d p hp => hp
    · rw [hrun]
      simp only [parent_update w child parent hchild]
      cases parent with
      | none =>
        refine .inl fun d p hp => ?_
        split at hp
        · cases hp
        · exact hp
      | some parent =>
        refine .inr ⟨child, parent, hloop parent rfl, fun d p hp => ?_⟩
        split at hp
        · rename_i hd
          exact .inr ⟨hd, (Option.some.inj hp).symm⟩
        · exact .inl hp
  | setZone d zone =>
    refine .inl fun d' p hp => ?_
    rw [Parent, object?_update] at hp
    split at hp
    · rwa [Option.bind_map] at hp
    · exact hp
  | putAttribute | modifyFlags => exact .inl (hsame rfl)
  | setAttribute d path value owner =>
    exact .inl (hsame ((changesAttributes_setAttribute d path value owner).objects w))
  | removeAttribute d path =>
    exact .inl (hsame ((changesAttributes_removeAttribute d path).objects w))
  | removeMatching d glob =>
    exact .inl (hsame ((changesAttributes_removeMatching d glob).objects w))

/-- **No operation makes a loop.** -/
theorem Operation.acyclic (h : Operation w w') (hw : w.Acyclic) : w'.Acyclic := by
  intro d hd
  rcases h.parent with hold | ⟨child, parent, hloop, hnew⟩
  · exact hw d (TransGen.mono hold d d hd)
  · rcases transGen_of_link hnew hloop hd with hd | ⟨hchild, hparent⟩
    · exact hw d hd
    · -- A loop through the new link leads on from the parent to the child.
      exact hloop (hparent.trans hchild)

/-- No sequence of operations makes a loop. -/
private theorem Made.acyclic (h : w.Made) : w.Acyclic := by
  induction h with
  | refl =>
    intro d hd
    obtain ⟨p, hp, -⟩ := TransGen.head'_iff.mp hd
    exact hp.object?_ne_none rfl
  | tail _ hop ih => exact hop.acyclic ih

/-- **There are no loops among parents, and an object gets every parent that makes none.**  In every
    world that has been made by operations: the way along parents from an object never leads back to
    it.  To give an object a parent fails exactly if the object does not exist, is the parent, or is
    an ancestor of it, and then the world is as it was.  Otherwise the object has the new parent,
    and all others have theirs as before. -/
theorem Made.acyclic_setParent (h : w.Made) :
    (∀ d, ¬ TransGen w.Parent d d) ∧
    ∀ (child : Dbref) (parent : Option Dbref),
      let run := (setParent child parent).run.run w
      ((∃ e, run.1 = .error e) ↔
        w.object? child = none ∨
          ∃ p, parent = some p ∧ (child = p ∨ TransGen w.Parent p child)) ∧
      (∀ e, run.1 = .error e → run.2 = w) ∧
      (run.1 = .ok () →
        ∀ d p, run.2.Parent d p ↔ if d = child then parent = some p else w.Parent d p) := by
  refine ⟨h.acyclic, ?_⟩
  intro child parent run
  simp only [← reflTransGen_iff_eq_or_transGen]
  rcases w.setParent_cases child parent with ⟨⟨e, hrun⟩, hwhy⟩ | ⟨hrun, hchild, hloop⟩
  · rw [show run = (.error e, w) from hrun]
    refine ⟨⟨fun _ => hwhy, fun _ => ⟨e, rfl⟩⟩, fun _ _ => rfl, ?_⟩
    rintro ⟨⟩
  · rw [show run = (.ok (), w.update child fun o => { o with parent }) from hrun]
    refine ⟨⟨?_, ?_⟩, ?_, fun _ => parent_update w child parent hchild⟩
    · rintro ⟨e, ⟨⟩⟩
    · rintro (hnone | ⟨p, hp, hpath⟩)
      · exact absurd hnone hchild
      · exact absurd hpath (hloop p hp)
    · rintro e ⟨⟩

/-- The parent of a child is destroyed and its number is used again.  The new object is the parent
    of the child from then on, and it cannot get the child as its own parent. -/
theorem reused_acyclic_setParent :
    let orphan := ((setParent 1 (some 0)).run.run
      ((World.create {} .thing "Mother" none).2.create .thing "Child" none).2).2.recycle 0
    let w := (orphan.create .thing "Stranger" none).2
    w.Made ∧ w.Parent 1 0 ∧ w.Acyclic ∧
      ∃ e, ((setParent 0 (some 1)).run.run w).1 = .error e := by
  intro orphan w
  have hmade : w.Made :=
    ((((ReflTransGen.refl.tail (.create {} .thing "Mother" none)).tail
      (.create _ .thing "Child" none)).tail (.setParent _ 1 (some 0))).tail (.recycle _ 0)).tail
      (.create _ .thing "Stranger" none)
  -- The number of the mother has been given to the stranger, and the child still names it.
  have hparent : w.Parent 1 0 := by decide +kernel
  obtain ⟨hacyclic, hset⟩ := hmade.acyclic_setParent
  exact ⟨hmade, hparent, hacyclic, (hset 0 (some 1)).1.mpr (.inr ⟨1, rfl, .inr (.single hparent)⟩)⟩

end World

end Softcode
