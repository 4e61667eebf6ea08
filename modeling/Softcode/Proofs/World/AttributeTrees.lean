import Mathlib.Logic.Relation
import Softcode.Proofs.Attribute.TreeShape
import Softcode.Proofs.Results

namespace Softcode.World

/-!
# Attributes stay trees

Attributes are set, cleared and wiped on numbers, whether or not there is an object, and objects
come and go.  Whatever has happened, the attributes of every number are a well-formed tree
(`World.Tended.wellFormed`), so the operations that look at names only do what they should do with
paths:

* `World.removeAttribute_cases`, `World.removeMatching_cases` — what removing attributes can do;
* `World.ChangesAttributes` — no operation on the attributes of an object touches anything else;
* `World.Tending.wellFormed` — every operation keeps trees well formed;
* `World.WellFormed.parent` — every attribute is kept by its path, and the parent of that path is
  there.
-/

open Relation

variable {w w' : World} {d : Dbref} {path : AttributePath}

/-! ### Trees after an operation -/

/-- The attributes of one number are replaced. -/
private theorem tree_setTree (w : World) (d d' : Dbref) (t : AttributeTree) :
    (w.setTree d t).tree d' = if d' = d then t else w.tree d' := by
  rw [tree, setTree, Table.find?_insert]
  split
  · rfl
  · rfl

/-- An object that is destroyed takes its attributes with it. -/
private theorem tree_recycle (w : World) (d d' : Dbref) :
    (w.recycle d).tree d' = if w.objects.has d ∧ d' = d then {} else w.tree d' := by
  unfold recycle
  by_cases hd : w.objects.has d
  · rw [if_pos hd, tree, Table.find?_erase]
    by_cases hd' : d' = d
    · simp [hd, hd']
    · simp [hd', tree]
  · simp [hd]

/-- The flags of one attribute are changed. -/
private theorem tree_modifyFlags (w : World) (d d' : Dbref) (name : String)
    (f : AttributeFlags → AttributeFlags) :
    (w.modifyFlags d name f).tree d' = if d' = d then
      (w.tree d).modify (upperName name) fun a => { a with flags := f a.flags } else w.tree d' := by
  rw [tree, modifyFlags, Table.find?_modify]
  by_cases hd : d' = d
  · subst hd
    rw [if_pos rfl, if_pos rfl, tree]
    cases w.attributes.find? d' with
    | none => rfl
    | some t => rfl
  · rw [if_neg hd, if_neg hd, tree]

/-! ### What can fail -/

/-- Does the computation change nothing but the attributes of one object, whether it fails or
    not? -/
def ChangesAttributes (d : Dbref) {α : Type} (x : ExceptT ScriptError (StateM World) α) : Prop :=
  ∀ w : World, (x.run.run w).2 = w ∨ ∃ t, (x.run.run w).2 = w.setTree d t

/-- Without an entry there are no attributes. -/
private theorem tree_of_none (h : w.attributes.find? d = none) : w.tree d = {} := by
  rw [tree, h, Option.getD_none]

/-- The entry of a number holds its attributes. -/
private theorem tree_of_some {t : AttributeTree} (h : w.attributes.find? d = some t) :
    w.tree d = t := by
  rw [tree, h, Option.getD_some]

/-- **What setting an attribute can do.**  It fails and nothing is changed, or the attribute is
    set. -/
theorem setAttribute_cases (w : World) (d : Dbref) (path : AttributePath) (value : Styled)
    (owner : Dbref) :
    (∃ e, (setAttribute d path value owner).run.run w = (.error e, w)) ∨
      (setAttribute d path value owner).run.run w
        = (.ok (), w.putAttribute d path value owner) := by
  rw [setAttribute, run_get_bind]
  cases w.objects.has d with
  | false => exact .inl ⟨_, rfl⟩
  | true => exact .inr rfl

/-- **What removing an attribute can do.**  It fails and nothing is changed, if by the names there
    is something below the attribute.  Otherwise the attribute is gone, and it tells whether it was
    there. -/
theorem removeAttribute_cases (w : World) (d : Dbref) (path : AttributePath) :
    ((∃ e, (removeAttribute d path).run.run w = (.error e, w)) ∧
        (w.tree d).keys.any (AttributeTree.isBelow · path.name)) ∨
      ∃ w', (removeAttribute d path).run.run w = (.ok ((w.tree d).has path.name), w') ∧
        ¬ (w.tree d).keys.any (AttributeTree.isBelow · path.name) ∧
        w' = { w with attributes := w'.attributes } ∧
        ∀ d', w'.tree d' = if d' = d then (w.tree d).erase path.name else w.tree d' := by
  rw [removeAttribute, run_get_bind]
  cases hfind : w.attributes.find? d with
  -- An object without a tree has the empty one, so there is nothing to remove.
  | none =>
    rw [tree_of_none hfind]
    refine .inr ⟨w, rfl, Bool.false_ne_true, rfl, fun d' => ?_⟩
    split
    · rename_i hd
      rw [hd, tree_of_none hfind]
      rfl
    · rfl
  | some t =>
    rw [tree_of_some hfind]
    dsimp only
    by_cases hbelow : t.keys.any (AttributeTree.isBelow · path.name)
    · rw [if_pos hbelow]
      exact .inl ⟨⟨_, rfl⟩, hbelow⟩
    · rw [if_neg hbelow]
      exact .inr ⟨_, rfl, hbelow, rfl, fun d' => w.tree_setTree d d' _⟩

/-- **What wiping attributes can do.**  It fails and nothing is changed, if the glob cannot be made
    ready.  Otherwise what matches is gone, and it tells how much that was. -/
theorem removeMatching_cases (w : World) (d : Dbref) (glob : List Char) :
    ((∃ e, (removeMatching d glob).run.run w = (.error e, w)) ∧
        (Pattern.mk (.glob .attributeName) glob false).compile? = none) ∨
      ∃ m w', (Pattern.mk (.glob .attributeName) glob false).compile? = some m ∧
        (removeMatching d glob).run.run w
          = (.ok ((w.tree d).size - Table.size ((w.tree d).wipe m)), w') ∧
        w' = { w with attributes := w'.attributes } ∧
        ∀ d', w'.tree d' = if d' = d then (w.tree d).wipe m else w.tree d' := by
  rw [removeMatching]
  cases (Pattern.mk (.glob .attributeName) glob false).compile? with
  | none => exact .inl ⟨⟨_, rfl⟩, rfl⟩
  | some m =>
    dsimp only
    rw [run_get_bind]
    cases hfind : w.attributes.find? d with
    -- An object without a tree has the empty one, which is not changed by wiping.
    | none =>
      rw [tree_of_none hfind]
      refine .inr ⟨m, w, rfl, rfl, rfl, fun d' => ?_⟩
      split
      · rename_i hd
        rw [hd, tree_of_none hfind]
        rfl
      · rfl
    | some t =>
      rw [tree_of_some hfind]
      exact .inr ⟨m, _, rfl, rfl, rfl, fun d' => w.tree_setTree d d' _⟩

/-- Setting an attribute changes no other object. -/
theorem changesAttributes_setAttribute (d : Dbref) (path : AttributePath) (value : Styled)
    (owner : Dbref) : ChangesAttributes d (setAttribute d path value owner) := by
  intro w
  rcases w.setAttribute_cases d path value owner with ⟨e, hrun⟩ | hrun
  · exact .inl (congrArg Prod.snd hrun)
  · exact .inr ⟨_, congrArg Prod.snd hrun⟩

/-- Removing an attribute changes no other object. -/
theorem changesAttributes_removeAttribute (d : Dbref) (path : AttributePath) :
    ChangesAttributes d (removeAttribute d path) := by
  intro w
  rw [removeAttribute, run_get_bind]
  cases w.attributes.find? d with
  | none => exact .inl rfl
  | some t =>
    dsimp only
    split
    · exact .inl rfl
    · exact .inr ⟨_, rfl⟩

/-- Wiping attributes changes no other object. -/
theorem changesAttributes_removeMatching (d : Dbref) (glob : List Char) :
    ChangesAttributes d (removeMatching d glob) := by
  intro w
  rw [removeMatching]
  cases (Pattern.mk (.glob .attributeName) glob false).compile? with
  | none => exact .inl rfl
  | some m =>
    dsimp only
    rw [run_get_bind]
    cases w.attributes.find? d with
    | none => exact .inl rfl
    | some t => exact .inr ⟨_, rfl⟩

/-! ### Every operation keeps trees -/

/-- One operation on objects or attributes.  Paths are read from texts.  One that fails is seen by
    what it leaves. -/
inductive Tending : World → World → Prop
  | create (w : World) (kind : Kind) (name : String) (location : Option Dbref) :
      Tending w (w.create kind name location).2
  | recycle (w : World) (d : Dbref) : Tending w (w.recycle d)
  | setOwn (w : World) (d : Dbref) (name : List Char) (value : String) :
      Tending w (w.setOwn d name value)
  | setAttribute (w : World) (d : Dbref) {text : List Char} {path : AttributePath}
      (hpath : AttributePath.read text = .ok path) (value : Styled) (owner : Dbref) :
      Tending w ((setAttribute d path value owner).run.run w).2
  | modifyFlags (w : World) (d : Dbref) (name : String) (f : AttributeFlags → AttributeFlags) :
      Tending w (w.modifyFlags d name f)
  | removeAttribute (w : World) (d : Dbref) {text : List Char} {path : AttributePath}
      (hpath : AttributePath.read text = .ok path) :
      Tending w ((removeAttribute d path).run.run w).2
  | removeMatching (w : World) (d : Dbref) (glob : List Char) :
      Tending w ((removeMatching d glob).run.run w).2

/-- A world that operations have made from one without attributes. -/
def Tended (w : World) : Prop := ∃ bare : World, bare.attributes = {} ∧ ReflTransGen Tending bare w

/-- Are the attributes of all numbers trees? -/
def WellFormed (w : World) : Prop := ∀ d, (w.tree d).WellFormed

/-- An attribute is put in with all that its path needs. -/
theorem WellFormed.putAttribute (h : w.WellFormed) (hpath : path.Canonical) (d : Dbref)
    (value : Styled) (owner : Dbref) : (w.putAttribute d path value owner).WellFormed := by
  intro d'
  rw [World.putAttribute, tree_setTree]
  split
  · exact (h d).set hpath
  · exact h d'

/-- One is removed only if there is nothing below it. -/
theorem WellFormed.removeAttribute (h : w.WellFormed) (hpath : path.Canonical) (d : Dbref) :
    ((removeAttribute d path).run.run w).2.WellFormed := by
  rcases w.removeAttribute_cases d path with ⟨⟨e, hrun⟩, -⟩ | ⟨w', hrun, hleaf, -, htree⟩
  · rw [hrun]
    exact h
  · rw [hrun]
    intro d'
    rw [htree]
    split
    · rw [(h d).any_isBelow_iff hpath] at hleaf
      refine (h d).erase hpath fun p hp hhas hbelow => ?_
      exact hleaf ⟨p, hp, hhas, hbelow⟩
    · exact h d'

/-- One is wiped with all below it. -/
theorem WellFormed.removeMatching (h : w.WellFormed) (d : Dbref) (glob : List Char) :
    ((removeMatching d glob).run.run w).2.WellFormed := by
  rcases w.removeMatching_cases d glob with ⟨⟨e, hrun⟩, -⟩ | ⟨m, w', -, hrun, -, htree⟩
  · rw [hrun]
    exact h
  · rw [hrun]
    intro d'
    rw [htree]
    split
    · exact (h d).wipe m
    · exact h d'

/-- **Every operation keeps trees well formed.** -/
theorem Tending.wellFormed (hstep : Tending w w') (h : w.WellFormed) : w'.WellFormed := by
  -- Only what writes a path has to make sure that it is one that can be read.
  cases hstep with
  | create kind name location => exact h
  | recycle d =>
    intro d'
    rw [tree_recycle]
    split
    · exact .empty
    · exact h d'
  | setOwn d name value =>
    unfold World.setOwn
    split
    · rename_i path hpath
      exact h.putAttribute (AttributePath.canonical_of_read hpath) d _ d
    · exact h
  | setAttribute d hpath value owner =>
    rcases w.setAttribute_cases d _ value owner with ⟨e, hrun⟩ | hrun
    · rw [hrun]
      exact h
    · rw [hrun]
      exact h.putAttribute (AttributePath.canonical_of_read hpath) d value owner
  | modifyFlags d name f =>
    intro d'
    rw [tree_modifyFlags]
    split
    · exact (h d).modify fun _ => rfl
    · exact h d'
  | removeAttribute d hpath =>
    exact h.removeAttribute (AttributePath.canonical_of_read hpath) d
  | removeMatching d glob => exact h.removeMatching d glob

/-- **Whatever has happened, attributes are trees.** -/
theorem Tended.wellFormed (h : w.Tended) : w.WellFormed := by
  obtain ⟨bare, hbare, hsteps⟩ := h
  induction hsteps with
  | refl =>
    intro d
    rw [tree, hbare]
    exact .empty
  | tail _ hstep ih => exact hstep.wellFormed ih

/-- An attribute has the name that it is kept by, this is what a canonical path is written as, and
    the parent of the path is there too. -/
theorem WellFormed.parent (h : w.WellFormed) {key : String} {a : Attribute}
    (ha : (w.tree d).find? key = some a) :
    a.name = key ∧ ∃ p, AttributePath.read key.toList = .ok p ∧ p.name = key ∧
      ∀ q, p.parent? = some q → (w.tree d).has q.name := by
  have hhas : (w.tree d).has key := Table.has_iff_exists.mpr ⟨a, ha⟩
  obtain ⟨p, hp, rfl⟩ := (h d).canonical hhas
  have hread : AttributePath.read p.name.toList = .ok p := by
    rw [AttributePath.name, String.toList_ofList]
    exact hp
  refine ⟨(h d).name ha, p, hread, rfl, fun q hq => ?_⟩
  -- A path of one segment has no parent; that of any other stands before its last segment.
  rw [AttributePath.parent?] at hq
  split at hq
  · rename_i hlength
    obtain rfl := Option.some.inj hq
    exact (h d).closed hp (hp.take (by omega)) (p.extends_take _) hhas
  · cases hq

/-- **Attributes stay trees, and removing them goes by paths.**  In every world that operations have
    made:

    * each attribute is kept by its name, which is a canonical path, and the parent of that path is
      there too;
    * removing an attribute fails exactly if there is one below it, and then the world is as it was;
      otherwise this attribute is gone, and all others are as before;
    * wiping a glob that can be made ready removes exactly the attributes that match and those below
      them, tells how many these are, and leaves all others as they are. -/
theorem Tended.trees_and_removal (h : w.Tended) :
    (∀ d key a, (w.tree d).find? key = some a →
      a.name = key ∧ ∃ p, AttributePath.read key.toList = .ok p ∧ p.name = key ∧
        ∀ q, p.parent? = some q → (w.tree d).has q.name) ∧
    (∀ d text path, AttributePath.read text = .ok path →
      let run := (removeAttribute d path).run.run w
      ((∃ e, run.1 = .error e) ↔
        ∃ p : AttributePath, p.Canonical ∧ (w.tree d).has p.name ∧ p.Below path) ∧
      (∀ e, run.1 = .error e → run.2 = w) ∧
      ∀ existed, run.1 = .ok existed → existed = (w.tree d).has path.name ∧
        run.2 = { w with attributes := run.2.attributes } ∧
        ∀ d' key, (run.2.tree d').find? key
          = if d' = d ∧ key = path.name then none else (w.tree d').find? key) ∧
    ∀ d glob,
      let run := (removeMatching d glob).run.run w
      let ready := (Pattern.mk (.glob .attributeName) glob false).compile?
      (ready = none → (∃ e, run.1 = .error e) ∧ run.2 = w) ∧
      ∀ m, ready = some m →
        run.1 = .ok {key | (w.tree d).has key ∧ (w.tree d).Wiped m key}.ncard ∧
        run.2 = { w with attributes := run.2.attributes } ∧
        (∀ key a, (run.2.tree d).find? key = some a
          ↔ (w.tree d).find? key = some a ∧ ¬ (w.tree d).Wiped m key) ∧
        ∀ d', d' ≠ d → run.2.tree d' = w.tree d' := by
  have hw := h.wellFormed
  refine ⟨fun d key a ha => hw.parent ha, ?_, ?_⟩
  · -- Clearing fails exactly if something is below, and else takes away one attribute.
    intro d text path htext run
    have hpath := AttributePath.canonical_of_read htext
    rw [← (hw d).any_isBelow_iff hpath]
    rcases w.removeAttribute_cases d path with ⟨⟨e, hrun⟩, hbelow⟩ | ⟨w', hrun, hleaf, hrest, htree⟩
    · rw [show run = (.error e, w) from hrun]
      refine ⟨⟨fun _ => hbelow, fun _ => ⟨e, rfl⟩⟩, fun _ _ => rfl, ?_⟩
      rintro existed ⟨⟩
    · rw [show run = (.ok ((w.tree d).has path.name), w') from hrun]
      refine ⟨⟨?_, fun hbelow => absurd hbelow hleaf⟩, ?_, ?_⟩
      · rintro ⟨e, ⟨⟩⟩
      · rintro e ⟨⟩
      · rintro existed ⟨⟩
        refine ⟨rfl, hrest, fun d' key => ?_⟩
        rw [htree]
        by_cases hd : d' = d
        · subst hd
          simp [Table.find?_erase]
        · simp [hd]
  · -- Wiping takes away all that the pattern accepts and all that is below it.
    intro d glob run ready
    rcases w.removeMatching_cases d glob with ⟨⟨e, hrun⟩, hnone⟩ | ⟨m, w', hm, hrun, hrest, htree⟩
    · rw [show run = (.error e, w) from hrun, show ready = none from hnone]
      refine ⟨fun _ => ⟨⟨e, rfl⟩, rfl⟩, ?_⟩
      rintro m ⟨⟩
    · rw [show run = (.ok _, w') from hrun, show ready = some m from hm]
      refine ⟨?_, ?_⟩
      · rintro ⟨⟩
      · rintro m ⟨⟩
        refine ⟨congrArg Except.ok ((hw d).size_wipe m), hrest, fun key a => ?_, fun d' hd => ?_⟩
        · rw [htree, if_pos rfl]
          exact (hw d).find?_wipe
        · rw [htree, if_neg hd]

/-- An attribute deep in a tree, and another whose name only begins alike.  The root of the tree
    cannot be removed by itself, but it is wiped with the two attributes below it, and the other
    attribute stays. -/
theorem bush_trees_and_removal :
    let w := ((World.create {} .thing "Bush" none).2.setOwn 0 "a`b`c".toList "leaf").setOwn 0
      "ab".toList "stone"
    let clear := (removeAttribute 0 ⟨["A".toList]⟩).run.run w
    w.Tended ∧ clear.1 = .error (.collaborator "A still has child attributes") ∧ clear.2 = w ∧
      ∃ m, (Pattern.mk (.glob .attributeName) "A".toList false).compile? = some m ∧
        {key | (w.tree 0).has key ∧ (w.tree 0).Wiped m key}.ncard = 3 ∧
        (w.tree 0).has "AB" ∧ ¬ (w.tree 0).Wiped m "AB" := by
  intro w clear
  have hw : w.Tended := ⟨{}, rfl, ((ReflTransGen.refl.tail (.create {} .thing "Bush" none)).tail
    (.setOwn _ 0 "a`b`c".toList "leaf")).tail (.setOwn _ 0 "ab".toList "stone")⟩
  have hclear : clear.1 = .error (.collaborator "A still has child attributes") := by
    decide +kernel
  obtain ⟨m, hm⟩ : ∃ m, (Pattern.mk (.glob .attributeName) "A".toList false).compile? = some m :=
    Option.isSome_iff_exists.mp (by decide +kernel)
  obtain ⟨-, hremove, hwipe⟩ := hw.trees_and_removal
  obtain ⟨hcount, -, hleft, -⟩ := (hwipe 0 "A".toList).2 m hm
  -- Three are gone, and `AB` is not among them, though its name begins with that of `A`.
  have hthree : ((removeMatching 0 "A".toList).run.run w).1 = .ok 3 := by decide +kernel
  have hstone : ((((removeMatching 0 "A".toList).run.run w).2.tree 0).find? "AB").isSome := by
    decide +kernel
  obtain ⟨a, ha⟩ := Option.isSome_iff_exists.mp hstone
  obtain ⟨hfind, hnot⟩ := (hleft "AB" a).mp ha
  refine ⟨hw, hclear, (hremove 0 "a".toList _ (by decide +kernel)).2.1 _ hclear, m, hm, ?_,
    Table.has_iff_exists.mpr ⟨a, hfind⟩, hnot⟩
  exact Except.ok.inj (hcount.symm.trans hthree)

end Softcode.World
