import Mathlib.Data.Set.Card
import Softcode.Proofs.Attribute.PathText
import Softcode.Proofs.World.Sound

namespace Softcode

/-!
# The shape of attribute trees

The attributes of an object are a table, and only the names in it make it a tree.  A table is a
`WellFormed` tree if each name in it stands there once, is that of its attribute and of a canonical
path, and if with a path all paths on the way to it are there.

* `AttributeTree.WellFormed.set` — setting an attribute keeps that, because it makes the attributes
  on the way;
* `AttributeTree.WellFormed.erase` — removing one keeps it if nothing lies below;
* `AttributeTree.WellFormed.wipe` — removing attributes with all that lies below them keeps it;
* `AttributeTree.WellFormed.find?_wipe`, `AttributeTree.WellFormed.size_wipe` — what is left then,
  and how much is gone.
-/

/-! ### Which keys a table has -/

namespace Table

variable {κ ν : Type}

/-- A test that looks at keys only filters the keys. -/
private theorem keys_filter (t : Table κ ν) (p : κ → Bool) :
    (t.filter fun k _ => p k).keys = t.keys.filter p := by
  simp only [keys, filter, List.filter_map]
  rfl

theorem length_keys (t : Table κ ν) : t.keys.length = t.size := List.length_map _

variable [DecidableEq κ] {t : Table κ ν} {k k' : κ} {v : ν}

/-- A key is there if something is found under it. -/
theorem has_iff_exists : t.has k ↔ ∃ v, t.find? k = some v := Option.isSome_iff_exists

/-- The keys are those under which something is found. -/
theorem mem_keys : k ∈ t.keys ↔ t.has k := by
  obtain ⟨es⟩ := t
  simp only [keys, has, find?]
  induction es with
  | nil => simp [find?.go]
  | cons e es ih =>
    rw [List.map_cons, List.mem_cons, find?.go]
    by_cases he : e.1 = k
    · simp [he]
    · have hke : k ≠ e.1 := fun h => he h.symm
      simp only [hke, false_or, he, if_false]
      exact ih

theorem has_insert : (t.insert k v).has k' ↔ k' = k ∨ t.has k' := by
  rw [has, find?_insert]
  by_cases hk : k' = k
  · simp [hk]
  · simp [hk, has]

theorem has_erase : (t.erase k).has k' ↔ k' ≠ k ∧ t.has k' := by
  rw [has, find?_erase]
  by_cases hk : k' = k
  · simp [hk]
  · simp [hk, has]

/-- Changing what stands under a key changes no keys. -/
private theorem has_modify (f : ν → ν) : (t.modify k f).has k' = t.has k' := by
  rw [has, find?_modify]
  split
  · rw [Option.isSome_map, has]
  · rfl

end Table

namespace AttributePath

variable {p q r : AttributePath}

/-- What lies at or below a path lies at or below the paths on the way to it. -/
theorem Extends.trans (hpq : p.Extends q) (hqr : q.Extends r) : p.Extends r :=
  List.IsPrefix.trans hqr hpq

/-- A path lies at or below each of its beginnings. -/
theorem extends_take (p : AttributePath) (n : Nat) : p.Extends (p.take n) := List.take_prefix n _

/-- The paths on the way to an attribute are the beginnings of its path. -/
private theorem Extends.eq_take (h : p.Extends q) : q = p.take q.length := by
  have hsegments : q.segments = p.segments.take q.segments.length := List.prefix_iff_eq_take.mp h
  rw [take, length, ← hsegments]

/-- A canonical path has a segment. -/
theorem Canonical.length_pos (h : p.Canonical) : 0 < p.length :=
  List.length_pos_of_ne_nil (canonical_iff.mp h).1

/-- The paths on the way to an attribute are not longer than its own. -/
theorem Extends.length_le (h : p.Extends q) : q.length ≤ p.length := List.IsPrefix.length_le h

end AttributePath

namespace AttributeTree

open AttributePath

variable {t : AttributeTree} {path : AttributePath} {key : String} {value : Styled} {owner : Dbref}

/-! ### Names -/

/-- Does each name stand there once, and is it that of its attribute and of a canonical path? -/
structure Named (t : AttributeTree) : Prop where
  nodup : t.keys.Nodup
  name : ∀ {key a}, t.find? key = some a → a.name = key
  canonical : ∀ {key}, t.has key → ∃ p : AttributePath, p.Canonical ∧ p.name = key

namespace Named

/-- An attribute may be put under the name that it has. -/
theorem insert (h : t.Named) (hpath : path.Canonical) {a : Attribute} (ha : a.name = path.name) :
    Named (t.insert path.name a) := by
  refine ⟨Table.nodup_keys_insert h.nodup, fun {key b} hb => ?_, fun {key} hkey => ?_⟩
  · rw [Table.find?_insert] at hb
    split at hb
    · rename_i hkey
      obtain rfl := Option.some.inj hb
      rw [ha, hkey]
    · exact h.name hb
  · rcases Table.has_insert.mp hkey with rfl | hkey
    · exact ⟨path, hpath, rfl⟩
    · exact h.canonical hkey

/-- Writing an attribute puts it under its name. -/
theorem write (h : t.Named) (hpath : path.Canonical) : Named (t.write path.name value owner) := by
  unfold AttributeTree.write
  split
  · rename_i a ha
    have hname : a.name = path.name := h.name ha
    exact h.insert hpath hname
  · exact h.insert hpath rfl

/-- An attribute that is made for others to lie below it stands under its name. -/
theorem ensure (h : t.Named) (hpath : path.Canonical) : Named (t.ensure path.name owner) := by
  unfold AttributeTree.ensure
  split
  · exact h
  · exact h.insert hpath rfl

/-- A test that looks at names only keeps attributes as they are. -/
theorem filter (h : t.Named) (test : String → Bool) : Named (t.filter fun k _ => test k) := by
  refine ⟨h.nodup.sublist (List.filter_sublist.map _), fun {key a} ha => ?_, fun {key} hkey => ?_⟩
  · rw [Table.find?_filter] at ha
    split at ha
    · exact h.name ha
    · cases ha
  · rw [Table.has, Table.find?_filter] at hkey
    split at hkey
    · exact h.canonical hkey
    · cases hkey

/-- A change that keeps the names of attributes keeps names in order. -/
theorem modify (h : t.Named) {f : Attribute → Attribute} (hf : ∀ a, (f a).name = a.name) :
    Named (t.modify key f) := by
  refine ⟨by rw [Table.keys_modify]; exact h.nodup, fun {key' a} ha => ?_, fun {key'} hkey => ?_⟩
  · rw [Table.find?_modify] at ha
    split at ha
    · obtain ⟨b, hb, rfl⟩ := Option.map_eq_some_iff.mp ha
      rw [hf, h.name hb]
    · exact h.name ha
  · rw [Table.has_modify] at hkey
    exact h.canonical hkey

/-- All attributes on the way to an attribute can be made. -/
theorem set (h : t.Named) (hpath : path.Canonical) : Named (t.set path value owner) := by
  -- The attributes on the way are put there first, from the shortest path on.
  have hway : ∀ (ns : List Nat) (t : AttributeTree), (∀ n ∈ ns, 0 < n) → t.Named →
      Named ((ns.map fun n => (path.take n).name).foldl (fun t name => t.ensure name owner) t) := by
    intro ns
    induction ns with
    | nil => exact fun t _ ht => ht
    | cons n ns ih =>
      intro t hns ht
      have hn : (path.take n).Canonical := hpath.take (hns n List.mem_cons_self)
      exact ih _ (fun m hm => hns m (List.mem_cons_of_mem n hm)) (ht.ensure hn)
  unfold AttributeTree.set
  refine (hway _ t (fun n hn => ?_) h).write hpath
  rw [List.mem_range'_1] at hn
  omega

end Named

/-! ### What setting an attribute adds -/

variable {key' : String} {p q : AttributePath}

/-- Writing an attribute adds its name. -/
private theorem has_write : Table.has (t.write key value owner) key' ↔ key' = key ∨ t.has key' := by
  unfold write
  split
  · exact Table.has_insert
  · exact Table.has_insert

/-- Making sure of an attribute adds its name. -/
private theorem has_ensure : Table.has (t.ensure key owner) key' ↔ key' = key ∨ t.has key' := by
  unfold ensure
  split
  · rename_i hkey
    refine ⟨.inr, ?_⟩
    rintro (rfl | hkey')
    · exact hkey
    · exact hkey'
  · exact Table.has_insert

/-- Making sure of attributes adds their names. -/
private theorem has_foldl_ensure (names : List String) (t : AttributeTree) :
    Table.has (names.foldl (fun t name => AttributeTree.ensure t name owner) t) key
      ↔ key ∈ names ∨ t.has key := by
  induction names generalizing t with
  | nil => simp
  | cons name names ih =>
    rw [List.foldl_cons, ih, has_ensure, List.mem_cons]
    tauto

/-- **Setting an attribute adds its path and the paths on the way to it,** and no others. -/
theorem has_set (hpath : path.Canonical) (hp : p.Canonical) :
    Table.has (t.set path value owner) p.name ↔ path.Extends p ∨ t.has p.name := by
  have hway : (∃ n, 0 < n ∧ n ≤ path.length ∧ p.name = (path.take n).name) ↔ path.Extends p := by
    constructor
    · rintro ⟨n, hn, -, hname⟩
      rw [hp.name_inj (hpath.take hn) hname]
      exact path.extends_take n
    · intro hext
      exact ⟨p.length, hp.length_pos, hext.length_le, congrArg name hext.eq_take⟩
  have hlength := hpath.length_pos
  have hlast : path.take path.length = path := by
    rw [take, length, List.take_length]
  unfold AttributeTree.set
  dsimp only
  -- The path is written, and its shorter beginnings are made before that.
  rw [has_write, has_foldl_ensure, ← hway, List.mem_map]
  constructor
  · rintro (hname | ⟨n, hn, hname⟩ | hold)
    · exact .inl ⟨path.length, hlength, le_rfl, by rw [hlast, hname]⟩
    · rw [List.mem_range'_1] at hn
      exact .inl ⟨n, by omega, by omega, hname.symm⟩
    · exact .inr hold
  · rintro (⟨n, hpos, hle, hname⟩ | hold)
    · -- The last of the beginnings of the path is the path itself, which is written.
      by_cases hn : n = path.length
      · rw [hn, hlast] at hname
        exact .inl hname
      · exact .inr (.inl ⟨n, List.mem_range'_1.mpr (by omega), hname.symm⟩)
    · exact .inr (.inr hold)

/-! ### Trees -/

/-- Are the attributes a tree?  Each name is in order, and the paths on the way to an attribute are
    there. -/
structure WellFormed (t : AttributeTree) : Prop extends Named t where
  closed : ∀ {p q : AttributePath}, p.Canonical → q.Canonical → p.Extends q → t.has p.name →
    t.has q.name

/-- Is the name that of an attribute that matches, or of one below it? -/
def Wiped (t : AttributeTree) (m : Matcher) (key : String) : Prop :=
  ∃ p root : AttributePath, p.Canonical ∧ root.Canonical ∧ p.name = key ∧ p.Extends root ∧
    t.has root.name ∧ m.accepts root.name.toList

/-- Is that so, by the names alone? -/
def isWiped (t : AttributeTree) (m : Matcher) (key : String) : Bool :=
  (t.keys.filter fun k => m.accepts k.toList).any fun root => key == root || isBelow key root

/-- Wiping is a test that looks at names only. -/
private theorem wipe_eq (t : AttributeTree) (m : Matcher) :
    t.wipe m = t.filter fun key _ => !t.isWiped m key := rfl

namespace WellFormed

theorem empty : WellFormed {} := by
  refine ⟨⟨List.nodup_nil, ?_, ?_⟩, ?_⟩
  · rintro key a ⟨⟩
  · rintro key ⟨⟩
  · rintro p q - - - ⟨⟩

/-- **Setting an attribute keeps a tree,** because the attributes on the way are made. -/
theorem set (h : t.WellFormed) (hpath : path.Canonical) : WellFormed (t.set path value owner) := by
  refine ⟨h.toNamed.set hpath, fun {p q} hp hq hpq hhas => ?_⟩
  rw [has_set hpath hp] at hhas
  rw [has_set hpath hq]
  rcases hhas with hnew | hold
  · exact .inl (hnew.trans hpq)
  · exact .inr (h.closed hp hq hpq hold)

/-- A change that keeps the names of attributes keeps a tree. -/
theorem modify (h : t.WellFormed) {f : Attribute → Attribute} (hf : ∀ a, (f a).name = a.name) :
    WellFormed (t.modify key f) := by
  refine ⟨h.toNamed.modify hf, fun {p q} hp hq hpq hhas => ?_⟩
  rw [Table.has_modify] at hhas ⊢
  exact h.closed hp hq hpq hhas

/-! ### Removing one attribute -/

/-- **By the names there is something below an attribute exactly if there is by the paths.** -/
theorem any_isBelow_iff (h : t.WellFormed) (hpath : path.Canonical) :
    t.keys.any (isBelow · path.name) ↔
      ∃ p : AttributePath, p.Canonical ∧ t.has p.name ∧ p.Below path := by
  rw [List.any_eq_true]
  constructor
  · rintro ⟨key, hkey, hbelow⟩
    have hhas := Table.mem_keys.mp hkey
    obtain ⟨p, hp, rfl⟩ := h.canonical hhas
    exact ⟨p, hp, hhas, (hp.isBelow_iff hpath).mp hbelow⟩
  · rintro ⟨p, hp, hhas, hbelow⟩
    exact ⟨p.name, Table.mem_keys.mpr hhas, (hp.isBelow_iff hpath).mpr hbelow⟩

/-- **Removing an attribute keeps a tree,** if nothing lies below the attribute. -/
theorem erase (h : t.WellFormed) (hpath : path.Canonical)
    (hleaf : ∀ p : AttributePath, p.Canonical → t.has p.name → ¬ p.Below path) :
    WellFormed (t.erase path.name) := by
  refine ⟨h.toNamed.filter fun key => decide (key ≠ path.name), fun {p q} hp hq hpq hhas => ?_⟩
  rw [Table.has_erase] at hhas ⊢
  refine ⟨fun hname => ?_, h.closed hp hq hpq hhas.2⟩
  -- If `q` is the attribute that is removed, then `p` lies below it.
  obtain rfl := hq.name_inj hpath hname
  refine hleaf p hp hhas.2 ⟨hpq, ?_⟩
  rintro rfl
  exact hhas.1 rfl

/-! ### Removing all that matches -/

/-- **What is wiped by the names is wiped by the paths.** -/
theorem isWiped_iff (h : t.WellFormed) {m : Matcher} (hkey : t.has key) :
    t.isWiped m key ↔ t.Wiped m key := by
  rw [isWiped, List.any_eq_true]
  constructor
  · rintro ⟨root, hroot, hunder⟩
    obtain ⟨hmem, hmatch⟩ := List.mem_filter.mp hroot
    have hhas := Table.mem_keys.mp hmem
    obtain ⟨p, hp, rfl⟩ := h.canonical hkey
    obtain ⟨r, hr, rfl⟩ := h.canonical hhas
    refine ⟨p, r, hp, hr, rfl, ?_, hhas, hmatch⟩
    rw [Bool.or_eq_true, beq_iff_eq] at hunder
    -- It is the attribute that the pattern accepts, or one below that.
    rcases hunder with hname | hbelow
    · rw [hp.name_inj hr hname]
      exact List.prefix_refl _
    · exact ((hp.isBelow_iff hr).mp hbelow).1
  · rintro ⟨p, r, hp, hr, rfl, hext, hhas, hmatch⟩
    refine ⟨r.name, List.mem_filter.mpr ⟨Table.mem_keys.mpr hhas, hmatch⟩, ?_⟩
    rw [Bool.or_eq_true, beq_iff_eq]
    by_cases hpr : p = r
    · exact .inl (congrArg AttributePath.name hpr)
    · exact .inr ((hp.isBelow_iff hr).mpr ⟨hext, hpr⟩)

/-- **What is left when attributes are wiped:** all that is not wiped, as it was. -/
theorem find?_wipe (h : t.WellFormed) {m : Matcher} {a : Attribute} :
    Table.find? (t.wipe m) key = some a ↔ t.find? key = some a ∧ ¬ t.Wiped m key := by
  -- What is left is what is not wiped, and keys are enough to tell.
  rw [wipe_eq, Table.find?_filter t fun key => !t.isWiped m key]
  constructor
  · intro hfind
    split at hfind
    · rename_i hleft
      have hkey : t.has key := Table.has_iff_exists.mpr ⟨a, hfind⟩
      rw [← h.isWiped_iff hkey]
      exact ⟨hfind, by simpa using hleft⟩
    · cases hfind
  · rintro ⟨hfind, hleft⟩
    have hkey : t.has key := Table.has_iff_exists.mpr ⟨a, hfind⟩
    rw [← h.isWiped_iff hkey] at hleft
    rw [if_pos (by simpa using hleft), hfind]

/-- The names that are left when attributes are wiped. -/
private theorem has_wipe (h : t.WellFormed) {m : Matcher} :
    Table.has (t.wipe m) key ↔ t.has key ∧ ¬ t.Wiped m key := by
  simp only [Table.has_iff_exists, h.find?_wipe, exists_and_right]

/-- **Wiping attributes keeps a tree,** because all that lies below them goes with them. -/
theorem wipe (h : t.WellFormed) (m : Matcher) : WellFormed (t.wipe m) := by
  have hnamed : Named (t.wipe m) := h.toNamed.filter fun key => !t.isWiped m key
  refine ⟨hnamed, fun {p q} hp hq hpq hhas => ?_⟩
  rw [h.has_wipe] at hhas ⊢
  refine ⟨h.closed hp hq hpq hhas.1, ?_⟩
  -- What lies below something that is wiped is wiped too.
  rintro ⟨q', root, hq', hroot, hname, hext, hmatch⟩
  obtain rfl := hq'.name_inj hq hname
  exact hhas.2 ⟨p, root, hp, hroot, rfl, hpq.trans hext, hmatch⟩

/-- **As many attributes are gone as have been wiped.** -/
theorem size_wipe (h : t.WellFormed) (m : Matcher) :
    t.size - Table.size (t.wipe m) = {key | t.has key ∧ t.Wiped m key}.ncard := by
  have hset : {key | t.has key ∧ t.Wiped m key} = ↑(t.keys.filter (t.isWiped m)).toFinset := by
    ext key
    simp only [List.coe_toFinset, List.mem_filter, Table.mem_keys]
    exact and_congr_right fun hkey => (h.isWiped_iff hkey).symm
  -- Wiped and left over, the names make up all names, and each of them stands there once.
  have hleft : Table.size (t.wipe m) = (t.keys.filter fun key => !t.isWiped m key).length := by
    rw [← Table.length_keys, wipe_eq, Table.keys_filter]
  have hsplit := List.length_eq_length_filter_add (l := t.keys) (t.isWiped m)
  rw [hset, Set.ncard_coe_finset, List.toFinset_card_of_nodup (h.nodup.filter _), hleft,
    ← Table.length_keys]
  omega

end WellFormed

end AttributeTree

end Softcode
