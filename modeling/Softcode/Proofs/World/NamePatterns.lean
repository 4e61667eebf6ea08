import Softcode.Proofs.Pattern.Transparency
import Softcode.Proofs.World.AttributeTrees
import Softcode.Proofs.World.Inheritance

namespace Softcode

/-!
# Look-ups by pattern and look-ups by path

An attribute can be asked for by its path, by a pattern of names, or by what it reacts to.  The
first look-up goes along the lineage and stops at the first holder that counts; the other two
collect all attributes of the lineage and leave out those that a nearer one hides.  This file says
that they see the same attributes:

* `find?_foldl_addFirst` — to leave out what has a name that was met before is to keep the first of
  each name, and names that do not match can be left out before or after (`foldl_addFirst_filter`);
* `World.namedOn?` — the attribute that one holder shows under a name;
* `World.foundOn?_eq`, `World.mem_visibleAttributes` — by path and by name, the first holder in the
  lineage that shows the attribute wins;
* `World.mem_visibleAttributes_iff_sees` — hence what is visible is what a look-up by path finds.
-/

open Relation

/-! ### The first of each name -/

section

variable {α κ : Type} [DecidableEq κ] (key : α → κ)

/-- **To leave out keys that were met before is to keep the first of each key.** -/
theorem find?_foldl_addFirst (k : κ) (seen xs : List α) :
    (xs.foldl (addFirst key) seen).find? (key · == k) = (seen ++ xs).find? (key · == k) := by
  induction xs generalizing seen with
  | nil => rw [List.foldl_nil, List.append_nil]
  | cons x xs ih =>
    rw [List.foldl_cons, ih, addFirst]
    by_cases hmet : seen.any (key · == key x)
    · -- What is left out would not have been found, because something before it is.
      rw [if_pos hmet, List.find?_append, List.find?_append, List.find?_cons]
      by_cases hk : key x = k
      · subst hk
        obtain ⟨y, hy⟩ :=
          Option.isSome_iff_exists.mp (List.find?_isSome.mpr (List.any_eq_true.mp hmet))
        rw [hy, Option.some_or, Option.some_or]
      · have hother : (key x == k) = false := by simpa using hk
        rw [hother]
    · rw [if_neg hmet, List.append_assoc, List.singleton_append]

/-- Whether keys are tested before or after it is seen which of them were met does not matter. -/
theorem foldl_addFirst_filter (test : κ → Bool) (seen xs : List α) :
    (xs.filter fun x => test (key x)).foldl (addFirst key) (seen.filter fun x => test (key x))
      = (xs.foldl (addFirst key) seen).filter fun x => test (key x) := by
  induction xs generalizing seen with
  | nil => rfl
  | cons x xs ih =>
    rw [List.foldl_cons, ← ih]
    by_cases htest : test (key x)
    · -- An element that passes is met before exactly if it is among those that pass.
      have hmet : (seen.filter fun y => test (key y)).any (key · == key x)
          = seen.any (key · == key x) := by
        rw [Bool.eq_iff_iff]
        simp only [List.any_eq_true, List.mem_filter, beq_iff_eq]
        exact ⟨fun ⟨y, ⟨hy, _⟩, hkey⟩ => ⟨y, hy, hkey⟩, fun ⟨y, hy, hkey⟩ =>
          ⟨y, ⟨hy, hkey ▸ htest⟩, hkey⟩⟩
      rw [List.filter_cons_of_pos (p := fun y => test (key y)) htest, List.foldl_cons]
      congr 1
      unfold addFirst
      rw [hmet]
      split
      · rfl
      · rw [List.filter_append, List.filter_cons_of_pos (p := fun y => test (key y)) htest,
          List.filter_nil]
    · rw [List.filter_cons_of_neg (p := fun y => test (key y)) htest]
      congr 1
      unfold addFirst
      split
      · rfl
      · rw [List.filter_append, List.filter_cons_of_neg (p := fun y => test (key y)) htest,
          List.filter_nil, List.append_nil]

/-- No key stays twice. -/
private theorem nodup_foldl_addFirst {seen : List α} (h : (seen.map key).Nodup) (xs : List α) :
    ((xs.foldl (addFirst key) seen).map key).Nodup := by
  induction xs generalizing seen with
  | nil => exact h
  | cons x xs ih =>
    rw [List.foldl_cons]
    refine ih ?_
    unfold addFirst
    -- What is added has a key that none of those before it has.
    by_cases hmet : seen.any (key · == key x)
    · rwa [if_pos hmet]
    · rw [if_neg hmet, List.map_append, List.map_singleton]
      refine List.nodup_append.mpr ⟨h, List.nodup_singleton _, ?_⟩
      intro k hk k' hk'
      obtain ⟨y, hy, rfl⟩ := List.mem_map.mp hk
      obtain rfl := List.mem_singleton.mp hk'
      intro heq
      exact hmet (List.any_eq_true.mpr ⟨y, hy, beq_iff_eq.mpr heq⟩)

/-- If each key stands there once, an element is found by its key. -/
private theorem find?_key_eq_some_iff {xs : List α} (h : (xs.map key).Nodup) {x : α} :
    xs.find? (key · == key x) = some x ↔ x ∈ xs := by
  refine ⟨List.mem_of_find?_eq_some, fun hx => ?_⟩
  have hsome : (xs.find? (key · == key x)).isSome :=
    List.find?_isSome.mpr ⟨x, hx, beq_self_eq_true _⟩
  obtain ⟨y, hy⟩ := Option.isSome_iff_exists.mp hsome
  have hkey : key y = key x := by simpa using List.find?_some hy
  rw [hy, List.inj_on_of_nodup_map h (List.mem_of_find?_eq_some hy) hx hkey]

/-- An element stays if it is the first of its key. -/
private theorem mem_foldl_addFirst {xs : List α} {x : α} :
    x ∈ xs.foldl (addFirst key) [] ↔ xs.find? (key · == key x) = some x := by
  have hnodup : ((xs.foldl (addFirst key) []).map key).Nodup :=
    nodup_foldl_addFirst key (by simp) xs
  rw [← find?_key_eq_some_iff key hnodup, find?_foldl_addFirst, List.nil_append]

end

/-! ### Attributes by their names -/

namespace AttributeTree

variable {t : AttributeTree} {a : Attribute}

/-- In order, they are all the attributes. -/
private theorem mem_inOrder (h : t.Named) : a ∈ t.inOrder ↔ t.find? a.name = some a := by
  rw [inOrder, List.mem_map]
  constructor
  · rintro ⟨⟨key, b⟩, hmem, rfl⟩
    have hfind : t.find? key = some b := Table.find?_of_mem h.nodup (List.mem_mergeSort.mp hmem)
    rwa [h.name hfind]
  · intro hfind
    exact ⟨(a.name, a), List.mem_mergeSort.mpr (Table.mem_of_find? hfind), rfl⟩

/-- Among the attributes of a tree that pass a test, the one with a name is found, if it passes. -/
private theorem find?_filter_inOrder (h : t.Named) (test : Attribute → Bool) (name : String) :
    (t.inOrder.filter test).find? (·.name == name) = (t.find? name).filter test := by
  ext a
  rw [Option.filter_eq_some_iff]
  constructor
  · intro hfound
    have hname : a.name = name := by simpa using List.find?_some hfound
    obtain ⟨hmem, htest⟩ := List.mem_filter.mp (List.mem_of_find?_eq_some hfound)
    rw [mem_inOrder h, hname] at hmem
    exact ⟨hmem, htest⟩
  · rintro ⟨hfind, htest⟩
    have hname : a.name = name := h.name hfind
    have hmem : a ∈ t.inOrder.filter test :=
      List.mem_filter.mpr ⟨(mem_inOrder h).mpr (hname ▸ hfind), htest⟩
    have hsome : ((t.inOrder.filter test).find? (·.name == name)).isSome :=
      List.find?_isSome.mpr ⟨a, hmem, beq_iff_eq.mpr hname⟩
    obtain ⟨b, hb⟩ := Option.isSome_iff_exists.mp hsome
    -- Another attribute of that name would be the same one.
    have hbname : b.name = name := by simpa using List.find?_some hb
    obtain ⟨hbmem, -⟩ := List.mem_filter.mp (List.mem_of_find?_eq_some hb)
    rw [mem_inOrder h, hbname, hfind] at hbmem
    rw [hb, Option.some.inj hbmem]

/-- The run along a path to an attribute of a tree is as long as the path. -/
private theorem WellFormed.length_chain_iff (h : t.WellFormed) {path : AttributePath}
    (hpath : path.Canonical) :
    (t.chain path).length = path.length ↔ t.has path.name := by
  rw [length_chain_eq_iff]
  constructor
  · intro hall
    have hlast : path.take path.length = path := by
      rw [AttributePath.take, AttributePath.length, List.take_length]
    simpa [hlast] using hall path.length hpath.length_pos le_rfl
  · intro hhas n hn _
    exact h.closed hpath (hpath.take hn) (path.extends_take n) hhas

end AttributeTree

namespace World

variable {w w' : World} {hops : Nat} {d holder : Dbref} {inherits : Bool} {path : AttributePath}
  {source : AttributeSource} {a : Attribute} {name : String}

/-! ### What one holder shows -/

/-- The attribute with a name on a holder, if it counts there. -/
def namedOn? (w : World) (name : String) (source : AttributeSource) (holder : Dbref) :
    Option Attribute :=
  ((w.tree holder).find? name).filter (isVisible source)

/-- The attribute that a look-up shows under a name, with where it is. -/
def shown? (w : World) (hops : Nat) (d : Dbref) (inherits : Bool) (name : String) :
    Option (AttributeSource × Dbref × Attribute) :=
  (w.lineage hops d inherits).findSome? fun x => (w.namedOn? name x.1 x.2).map fun a =>
    (x.1, x.2, a)

/-- What is shown is on its holder, under its name. -/
private theorem name_of_shown (h : w.WellFormed)
    (hshown : w.shown? hops d inherits name = some (source, holder, a)) :
    (w.tree holder).find? name = some a ∧ a.name = name := by
  obtain ⟨x, -, hx⟩ := List.exists_of_findSome?_eq_some hshown
  obtain ⟨b, hb, heq⟩ := Option.map_eq_some_iff.mp hx
  cases heq
  obtain ⟨hfind, -⟩ := Option.filter_eq_some_iff.mp hb
  exact ⟨hfind, (h _).name hfind⟩

/-- **By path a holder shows what it shows by name,** with the attributes along the path. -/
theorem foundOn?_eq (h : w.WellFormed) (hpath : path.Canonical) (source : AttributeSource)
    (holder : Dbref) :
    w.foundOn? path source holder = (w.namedOn? path.name source holder).map fun _ =>
      ⟨source, holder, (w.tree holder).chain path⟩ := by
  unfold foundOn? namedOn?
  dsimp only
  cases hfind : (w.tree holder).find? path.name with
  -- Nothing has the name, so the chain does not reach the end of the path.
  | none =>
    have hshort : ¬ ((w.tree holder).chain path).length = path.length := by
      rw [(h holder).length_chain_iff hpath, Table.has, hfind]
      simp
    rw [if_neg fun hboth => hshort hboth.1]
    rfl
  | some a =>
    have hlength : ((w.tree holder).chain path).length = path.length := by
      rw [(h holder).length_chain_iff hpath, Table.has, hfind]
      rfl
    rw [AttributeTree.getLast?_chain hpath.length_pos hlength, hfind]
    by_cases hvisible : isVisible source a
    · simp [hlength, hvisible]
    · simp [hvisible]

/-- What is found at a path is what is shown under its name. -/
private theorem found_iff_shown (h : w.WellFormed) (hpath : path.Canonical) :
    (∃ f, w.resolve hops d path inherits = .found f ∧ f.source = source ∧ f.holder = holder ∧
        f.chain.getLast? = some a) ↔
      w.shown? hops d inherits path.name = some (source, holder, a) := by
  -- Both go along the lineage, and what is found is made from what is shown.
  have hfound : ((w.lineage hops d inherits).findSome? fun x => w.foundOn? path x.1 x.2)
      = (w.shown? hops d inherits path.name).map fun e =>
        ⟨e.1, e.2.1, (w.tree e.2.1).chain path⟩ := by
    rw [shown?, List.map_findSome?]
    refine congrArg (List.findSome? · _) (funext fun x => ?_)
    rw [foundOn?_eq h hpath, Function.comp_apply, Option.map_map]
    rfl
  have hlast : ∀ source holder a, w.shown? hops d inherits path.name = some (source, holder, a) →
      ((w.tree holder).chain path).getLast? = some a := by
    intro source holder a hshown
    obtain ⟨hfind, -⟩ := name_of_shown h hshown
    have hlength := ((h holder).length_chain_iff hpath).mpr (Table.has_iff_exists.mpr ⟨a, hfind⟩)
    rw [AttributeTree.getLast?_chain hpath.length_pos hlength, hfind]
  simp only [resolve_eq_found_iff, hfound]
  constructor
  · rintro ⟨f, hf, rfl, rfl, ha⟩
    obtain ⟨⟨source, holder, b⟩, hshown, rfl⟩ := Option.map_eq_some_iff.mp hf
    have hb := hlast source holder b hshown
    obtain rfl : b = a := Option.some.inj (hb.symm.trans ha)
    exact hshown
  · intro hshown
    exact ⟨_, Option.map_eq_some_iff.mpr ⟨_, hshown, rfl⟩, rfl, rfl, hlast _ _ _ hshown⟩

/-! ### What is visible -/

/-- **What is visible is what is shown under its name.** -/
theorem mem_visibleAttributes (h : w.WellFormed) :
    (source, holder, a) ∈ w.visibleAttributes hops d inherits ↔
      w.shown? hops d inherits a.name = some (source, holder, a) := by
  have hone : ∀ x : AttributeSource × Dbref,
      (((w.tree x.2).inOrder.filter (isVisible x.1)).map fun a => (x.1, x.2, a)).find?
          (·.2.2.name == a.name)
        = (w.namedOn? a.name x.1 x.2).map fun a => (x.1, x.2, a) := by
    intro x
    rw [List.find?_map, namedOn?, ← AttributeTree.find?_filter_inOrder (h x.2).toNamed]
    rfl
  rw [visibleAttributes, mem_foldl_addFirst, allAttributes, List.find?_flatMap, shown?]
  simp only [hone]

/-- No name is visible twice. -/
private theorem nodup_visibleAttributes (w : World) (hops : Nat) (d : Dbref) (inherits : Bool) :
    ((w.visibleAttributes hops d inherits).map (·.2.2.name)).Nodup := by
  exact nodup_foldl_addFirst _ (by simp) _

/-! ### Whatever has happened -/

/-- One thing that can happen to a world: an operation on attributes or objects, or any change that
    leaves the attributes of all objects as they are, such as to parents, zones, flags and locks. -/
inductive Growing (w w' : World) : Prop
  | tending (h : Tending w w')
  | elsewhere (h : w'.attributes = w.attributes)

/-- A world that has come about from the empty one in this way. -/
def Grown (w : World) : Prop := ReflTransGen Growing {} w

/-- Whatever has happened, attributes are trees. -/
theorem Grown.wellFormed (h : w.Grown) : w.WellFormed := by
  induction h with
  | refl =>
    intro d
    exact .empty
  | tail _ hstep ih =>
    cases hstep with
    | tending hstep => exact hstep.wellFormed ih
    | elsewhere hsame =>
      intro d
      rw [tree, hsame]
      exact ih d

/-- Is the attribute what a look-up by the path that it is named for finds, there and in that
    way? -/
def Sees (w : World) (hops : Nat) (d : Dbref) (inherits : Bool) (source : AttributeSource)
    (holder : Dbref) (a : Attribute) : Prop :=
  ∃ path, AttributePath.read a.name.toList = .ok path ∧
    ∃ f, w.resolve hops d path inherits = .found f ∧ f.source = source ∧ f.holder = holder ∧
      f.chain.getLast? = some a

/-- **What is visible is what look-ups by path find.** -/
theorem mem_visibleAttributes_iff_sees (h : w.WellFormed) :
    (source, holder, a) ∈ w.visibleAttributes hops d inherits ↔
      w.Sees hops d inherits source holder a := by
  rw [mem_visibleAttributes h]
  constructor
  · -- The name of what is shown is the text of a path.
    intro hshown
    obtain ⟨hfind, -⟩ := name_of_shown h hshown
    obtain ⟨-, path, hread, hname, -⟩ := h.parent hfind
    have hpath := AttributePath.canonical_of_read hread
    rw [← hname] at hshown
    exact ⟨path, hread, (found_iff_shown h hpath).mpr hshown⟩
  · rintro ⟨path, hread, hfound⟩
    have hpath := AttributePath.canonical_of_read hread
    have hshown := (found_iff_shown h hpath).mp hfound
    obtain ⟨-, hname⟩ := name_of_shown h hshown
    rwa [hname]

end World

/-! ### Reactions -/

/-- How the pattern of an attribute that reacts is written. -/
def Attribute.patternOf (a : Attribute) (text : List Char) : Pattern :=
  ⟨if a.flags.regexp then .regex else .glob .capturing, text, a.flags.caseSensitive⟩

/-- Does the attribute react to the text, with this action, and do the groups of its pattern take
    this?  It may do so, its value has the marker, a pattern and an action, and the pattern accepts
    the text. -/
structure Attribute.Reacts (a : Attribute) (marker : PatternMarker) (text : List Char)
    (action : Styled) (m : Matcher) (groups : List (Option (List Char))) : Prop where
  allowed : ¬ (marker = .command ∧ a.flags.noCommand)
  split : ∃ pattern, reaction? a.value marker = some (pattern, action) ∧
    (a.patternOf pattern).compile? = some m
  accepts : m.captures text = some groups

/-- The reaction of an attribute, given where it is, its action and what the groups of its pattern
    took. -/
def Reaction.ofGroups (d : Dbref) (source : AttributeSource) (a : Attribute) (action : Styled)
    (m : Matcher) (groups : List (Option (List Char))) : Reaction :=
  { object := d, name := a.name, source, action
    captures := ((groups.drop 1).take 10).map fun g => Styled.ofChars (g.getD [])
    named := m.names.foldl (fun t x => match (groups[x.2]?).bind id with
      | some g => t.insert (upperName x.1) (Styled.ofChars g)
      | none => t) {} }

namespace World

variable {w : World} {hops capacity : Nat} {d : Dbref} {inherits : Bool} {source : AttributeSource}
  {a : Attribute} {marker : PatternMarker} {text : List Char} {cache : PatternCache}

/-- The reaction of one attribute, if patterns are made ready anew. -/
def freshReaction? (d : Dbref) (marker : PatternMarker) (text : List Char)
    (source : AttributeSource) (a : Attribute) : Option Reaction :=
  if marker = .command ∧ a.flags.noCommand then none
  else (reaction? a.value marker).bind fun x =>
    (a.patternOf x.1).compile?.bind fun m =>
      (m.captures text).map (Reaction.ofGroups d source a x.2 m)

/-- A cache of patterns does not change how an attribute reacts. -/
private theorem reactionOf?_answers (capacity : Nat) (d : Dbref) (marker : PatternMarker)
    (text : List Char) (source : AttributeSource) (a : Attribute) :
    PatternCache.Answers (reactionOf? capacity d marker text source a)
      (freshReaction? d marker text source a) := by
  unfold reactionOf? freshReaction?
  by_cases hforbidden : marker = .command ∧ a.flags.noCommand
  · rw [if_pos hforbidden, if_pos hforbidden]
    exact .pure none
  rw [if_neg hforbidden, if_neg hforbidden]
  cases reaction? a.value marker with
  | none => exact .pure none
  | some x =>
    obtain ⟨pattern, action⟩ := x
    refine (PatternCache.answers_ready (a.patternOf pattern) capacity).bind ?_
    rw [Option.bind_some]
    cases (a.patternOf pattern).compile? with
    | none => exact .pure none
    | some m => exact .pure _

/-- An attribute that reacts gives its reaction. -/
private theorem freshReaction?_eq_some {r : Reaction} :
    freshReaction? d marker text source a = some r ↔
      ∃ action m groups, a.Reacts marker text action m groups ∧
        r = .ofGroups d source a action m groups := by
  unfold freshReaction?
  -- An attribute may forbid commands, but not listening.
  by_cases hforbidden : marker = .command ∧ a.flags.noCommand
  · rw [if_pos hforbidden]
    constructor
    · rintro ⟨⟩
    · rintro ⟨action, m, groups, hreacts, -⟩
      exact absurd hforbidden hreacts.allowed
  rw [if_neg hforbidden]
  simp only [Option.bind_eq_some_iff, Option.map_eq_some_iff, Prod.exists]
  constructor
  · rintro ⟨pattern, action, hsplit, m, hm, groups, hgroups, rfl⟩
    exact ⟨action, m, groups, ⟨hforbidden, ⟨pattern, hsplit, hm⟩, hgroups⟩, rfl⟩
  · rintro ⟨action, m, groups, ⟨-, ⟨pattern, hsplit, hm⟩, hgroups⟩, rfl⟩
    exact ⟨pattern, action, hsplit, m, hm, groups, hgroups, rfl⟩

/-- The reactions of an object are those of its visible attributes. -/
private theorem reactions_answers (w : World) (hops capacity : Nat) (d : Dbref)
    (marker : PatternMarker) (text : List Char) (inherits : Bool) :
    PatternCache.Answers (w.reactions hops capacity d marker text inherits)
      ((w.visibleAttributes hops d inherits).filterMap fun e =>
        freshReaction? d marker text e.1 e.2.2) := by
  have heach := PatternCache.Answers.mapM
    (fun e : AttributeSource × Dbref × Attribute =>
      reactionOf?_answers capacity d marker text e.1 e.2.2) (w.visibleAttributes hops d inherits)
  refine heach.bind ?_
  rw [List.filterMap_map]
  exact .pure _

/-- A pattern gives the visible attributes whose names match. -/
private theorem resolvePattern_answers (w : World) (hops capacity : Nat) (d : Dbref)
    (inherits : Bool) {pattern : Pattern} {m : Matcher} (hm : pattern.compile? = some m) :
    PatternCache.Answers (w.resolvePattern hops capacity d pattern inherits)
      ((w.visibleAttributes hops d inherits).filter fun e => m.accepts e.2.2.name.toList) := by
  have hhits := foldl_addFirst_filter (fun e : AttributeSource × Dbref × Attribute => e.2.2.name)
    (fun name => m.accepts name.toList) [] (w.allAttributes hops d inherits)
  rw [List.filter_nil, List.foldl_filter] at hhits
  refine (PatternCache.answers_ready pattern capacity).bind ?_
  rw [hm, visibleAttributes, ← hhits]
  exact .pure _

/-- **Patterns see what paths see.**  In every world that has come about by operations, and whatever
    patterns have been looked up before:

    * a pattern of names that can be made ready gives no name twice, and it gives an attribute,
      there and in that way, exactly if its name matches and the look-up by its path finds it there
      and in that way;
    * an object reacts to a text with no name twice, and it reacts exactly with those attributes
      that the look-up by their paths finds and whose marker, flags and pattern let them react, with
      the value and from the source that the look-up tells. -/
theorem Grown.patterns_see_paths (h : w.Grown) (hcache : cache.Used) (hops capacity : Nat)
    (d : Dbref) (inherits : Bool) :
    (∀ pattern m, pattern.compile? = some m →
      let hits := ((w.resolvePattern hops capacity d pattern inherits).run cache).1
      (hits.map (·.2.2.name)).Nodup ∧
      ∀ source holder a, (source, holder, a) ∈ hits ↔
        m.accepts a.name.toList ∧ w.Sees hops d inherits source holder a) ∧
    ∀ marker text,
      let found := ((w.reactions hops capacity d marker text inherits).run cache).1
      (found.map (·.name)).Nodup ∧
      ∀ r, r ∈ found ↔ ∃ source holder a, w.Sees hops d inherits source holder a ∧
        ∃ action m groups, a.Reacts marker text action m groups ∧
          r = .ofGroups d source a action m groups := by
  have hw := h.wellFormed
  have hnodup := w.nodup_visibleAttributes hops d inherits
  refine ⟨?_, ?_⟩
  · intro pattern m hm hits
    have hhits : hits = _ :=
      (w.resolvePattern_answers hops capacity d inherits hm cache hcache.faithful).1
    rw [hhits]
    refine ⟨hnodup.sublist (List.filter_sublist.map _), fun source holder a => ?_⟩
    rw [List.mem_filter, mem_visibleAttributes_iff_sees hw, and_comm]
  · intro marker text found
    have hfound : found = _ :=
      (w.reactions_answers hops capacity d marker text inherits cache hcache.faithful).1
    rw [hfound]
    refine ⟨?_, fun r => ?_⟩
    · -- A reaction has the name of its attribute, and no two of these have the same.
      rw [List.Nodup, List.pairwise_map, List.pairwise_filterMap]
      refine (List.pairwise_map.mp hnodup).imp ?_
      intro e e' hne r hr r' hr'
      obtain ⟨_, _, _, -, rfl⟩ := freshReaction?_eq_some.mp hr
      obtain ⟨_, _, _, -, rfl⟩ := freshReaction?_eq_some.mp hr'
      exact hne
    · simp only [List.mem_filterMap, freshReaction?_eq_some, Prod.exists,
        mem_visibleAttributes_iff_sees hw]

/-- A thing with two ancestors.  Its own `A` hides that of its parent.  The parent keeps its `B` to
    itself, so the one of the grandparent is found by its name, and it reacts. -/
theorem family_patterns_see_paths :
    let thing (d : Dbref) (parent : Option Dbref) : Object :=
      { Object.new d (d + 1) .thing "Thing" with parent }
    let made :=
      ((World.insert {} (thing 0 (some 1))).insert (thing 1 (some 2))).insert (thing 2 none)
    let near := (made.setOwn 0 "A".toList "own").setOwn 1 "A".toList "hidden"
    let w := ((near.setOwn 1 "B".toList "kept").modifyFlags 1 "B" fun f =>
      { f with noInherit := true }).setOwn 2 "B".toList "$hi *:wave"
    let names : Pattern := ⟨.glob .attributeName, "?".toList, false⟩
    let hits := ((w.resolvePattern 9 9 0 names true).run {}).1
    let found := ((w.reactions 9 9 0 .command "hi there".toList true).run {}).1
    w.Grown ∧ PatternCache.Used {} ∧ names.compile?.isSome ∧
      (.own, 0, ⟨"A", .ofString "own", 0, {}⟩) ∈ hits ∧
      (∀ a : Attribute, a.name = "A" → (.parent, 1, a) ∉ hits) ∧
      (.parent, 2, ⟨"B", .ofString "$hi *:wave", 2, {}⟩) ∈ hits ∧
      ∃ r ∈ found, r.name = "B" ∧ r.source = .parent ∧ r.action = .ofString "wave" := by
  intro thing made near w names hits found
  have hmade : made.Grown := .single (.elsewhere rfl)
  have hgrown : w.Grown := ((((hmade.tail (.tending (.setOwn _ 0 "A".toList "own"))).tail
    (.tending (.setOwn _ 1 "A".toList "hidden"))).tail
      (.tending (.setOwn _ 1 "B".toList "kept"))).tail
    (.tending (.modifyFlags _ 1 "B" _))).tail (.tending (.setOwn _ 2 "B".toList "$hi *:wave"))
  have hused : PatternCache.Used {} := .refl
  have hready : names.compile?.isSome := by decide +kernel
  obtain ⟨m, hm⟩ := Option.isSome_iff_exists.mp hready
  have haccepts : ∀ name ∈ ["A", "B"], m.accepts name.toList := by
    have hall : names.compile?.all fun m => ["A", "B"].all fun name => m.accepts name.toList := by
      decide +kernel
    rw [hm] at hall
    simpa using hall
  obtain ⟨hnames, hreactions⟩ := hgrown.patterns_see_paths hused 9 9 0 true
  obtain ⟨-, hhits⟩ := hnames names m hm
  obtain ⟨-, hfound⟩ := hreactions .command "hi there".toList
  -- What the look-ups by path find.
  have hread : AttributePath.read "A".toList = .ok ⟨["A".toList]⟩ := by decide +kernel
  have hown : w.resolve 9 0 ⟨["A".toList]⟩ true
      = .found ⟨.own, 0, [⟨"A", .ofString "own", 0, {}⟩]⟩ := by
    decide +kernel
  have hfar : w.Sees 9 0 true .parent 2 ⟨"B", .ofString "$hi *:wave", 2, {}⟩ :=
    ⟨⟨["B".toList]⟩, by decide +kernel, ⟨.parent, 2, [⟨"B", .ofString "$hi *:wave", 2, {}⟩]⟩,
      by decide +kernel, rfl, rfl, rfl⟩
  refine ⟨hgrown, hused, hready,
    (hhits _ _ _).mpr ⟨haccepts "A" (by simp), _, hread, _, hown, rfl, rfl, rfl⟩,
    ?_, (hhits _ _ _).mpr ⟨haccepts "B" (by simp), hfar⟩, ?_⟩
  · intro a ha hmem
    obtain ⟨-, path, hpath, f, hf, hsource, -⟩ := (hhits _ _ _).mp hmem
    rw [ha, hread] at hpath
    cases hpath
    rw [hown] at hf
    cases hf
    cases hsource
  · let command : Pattern := ⟨.glob .capturing, "hi *".toList, false⟩
    have hgroups : (command.compile?.bind (·.captures "hi there".toList)).isSome := by
      decide +kernel
    obtain ⟨groups, hgroups⟩ := Option.isSome_iff_exists.mp hgroups
    obtain ⟨m', hm', hgroups⟩ := Option.bind_eq_some_iff.mp hgroups
    exact ⟨_, (hfound _).mpr ⟨_, _, _, hfar, .ofString "wave", m', groups,
      ⟨by decide, ⟨"hi *".toList, by decide +kernel, hm'⟩, hgroups⟩, rfl⟩, rfl, rfl, rfl⟩

end World

end Softcode
