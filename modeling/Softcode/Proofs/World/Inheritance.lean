import Softcode.Proofs.Attribute.TreeShape
import Softcode.Proofs.World.Parentage
import Softcode.World.Lookup

namespace Softcode

/-!
# Where attributes are inherited from

An attribute is looked for on the object itself, then on its ancestors, then on its zone.  Ancestors
are counted here: `World.ancestor?` follows the parents of an object, also around a loop.  An
ancestor is `Reached` if there are enough hops for it, and if nothing on the way to it has been met
before.  The rank of an object among those that are consulted is the number of the ancestor, and a
zone comes after all of them.

* `World.getElem?_ancestors` — the walk along parents finds the ancestors that are reached, in
  order;
* `World.exists_ranked_lineage` — the lineage of an object holds those that are consulted, by their
  ranks;
* `AttributeTree.chain_eq_iff` — the attributes along a path are the longest run of them;
* `World.findSome?_lineage_eq_some_iff` — the first that carries the attribute wins.
-/

/-- The first success in a list that is ordered by rank is the one of lowest rank. -/
private theorem findSome?_ranked {α β : Type} {rank : α → Nat} {xs : List α} {f : α → Option β}
    {b : β} (h : xs.Pairwise (rank · < rank ·)) : xs.findSome? f = some b ↔
      ∃ x ∈ xs, f x = some b ∧ ∀ y ∈ xs, rank y < rank x → f y = none := by
  induction xs with
  | nil => simp
  | cons x xs ih =>
    obtain ⟨hx, hxs⟩ := List.pairwise_cons.mp h
    rw [List.findSome?_cons]
    cases hfx : f x with
    -- The first one is found, and all others come behind it.
    | some c =>
      constructor
      · rintro ⟨⟩
        refine ⟨x, List.mem_cons_self, hfx, fun y hy hlt => ?_⟩
        rcases List.mem_cons.mp hy with rfl | hy
        · omega
        · have := hx y hy
          omega
      · rintro ⟨y, hy, hfy, hfirst⟩
        rcases List.mem_cons.mp hy with rfl | hy
        · rw [← hfx, hfy]
        · rw [hfirst x List.mem_cons_self (hx y hy)] at hfx
          cases hfx
    -- The first one is passed over, on both sides.
    | none =>
      rw [ih hxs]
      constructor
      · rintro ⟨y, hy, hfy, hfirst⟩
        refine ⟨y, List.mem_cons_of_mem x hy, hfy, fun z hz hlt => ?_⟩
        rcases List.mem_cons.mp hz with rfl | hz
        · exact hfx
        · exact hfirst z hz hlt
      · rintro ⟨y, hy, hfy, hfirst⟩
        rcases List.mem_cons.mp hy with rfl | hy
        · rw [hfx] at hfy
          cases hfy
        · exact ⟨y, hy, hfy, fun z hz => hfirst z (List.mem_cons_of_mem x hz)⟩

/-! ### The attributes along a path -/

namespace AttributeTree

variable {t : AttributeTree} {path : AttributePath} {run : List Attribute}

/-- Are these attributes along the path, from its first segment on and without a gap? -/
def IsRun (t : AttributeTree) (path : AttributePath) (run : List Attribute) : Prop :=
  ∀ i, i < run.length → run[i]? = t.find? (path.take (i + 1)).name

/-- The run goes on as long as there is an attribute for each of the names. -/
private theorem go_eq_iff {names : List String} : chain.go t names = run ↔
    run.length ≤ names.length ∧ (∀ i, i < run.length → run[i]? = names[i]?.bind t.find?) ∧
      ∀ name, names[run.length]? = some name → t.find? name = none := by
  induction names generalizing run with
  | nil =>
    rw [chain.go]
    constructor
    · rintro rfl
      simp
    · rintro ⟨hlength, -⟩
      exact (List.length_eq_zero_iff.mp (Nat.le_zero.mp hlength)).symm
  | cons name names ih =>
    rw [chain.go]
    cases hname : t.find? name with
    -- The walk stops here, so only the empty run is left.
    | none =>
      constructor
      · rintro rfl
        simp [hname]
      · rintro ⟨-, hrun, -⟩
        cases run with
        | nil => rfl
        | cons a run => simpa [hname] using hrun 0 (Nat.succ_pos _)
    -- The run begins with what is found here, and goes on as the walk does.
    | some a =>
      constructor
      · rintro rfl
        obtain ⟨hlength, hrun, hnext⟩ := ih.mp rfl
        refine ⟨Nat.succ_le_succ hlength, fun i hi => ?_, fun other hother => ?_⟩
        · cases i with
          | zero => simp [hname]
          | succ i => simpa using hrun i (Nat.lt_of_succ_lt_succ hi)
        · exact hnext other (by simpa using hother)
      · rintro ⟨hlength, hrun, hnext⟩
        cases run with
        | nil => simp [hnext name rfl] at hname
        | cons b run =>
          have hb : b = a := by simpa [hname] using hrun 0 (Nat.succ_pos _)
          have hrest : chain.go t names = run := by
            refine ih.mpr ⟨Nat.le_of_succ_le_succ hlength, fun i hi => ?_, fun other hother => ?_⟩
            · simpa using hrun (i + 1) (Nat.succ_lt_succ hi)
            · exact hnext other (by simpa using hother)
          dsimp only
          rw [hb, hrest]

/-- **The attributes along a path are the longest run of them.** -/
theorem chain_eq_iff : t.chain path = run ↔
    run.length ≤ path.length ∧ t.IsRun path run ∧
      (run.length < path.length → t.find? (path.take (run.length + 1)).name = none) := by
  -- The names that are looked up are those of the beginnings of the path.
  have hname : ∀ i, ((List.range' 1 path.length).map fun n => (path.take n).name)[i]?
      = if i < path.length then some (path.take (i + 1)).name else none := by
    intro i
    rw [List.getElem?_map]
    by_cases hi : i < path.length
    · rw [if_pos hi, List.getElem?_range' hi, Option.map_some, Nat.one_mul, Nat.add_comm]
    · rw [if_neg hi, List.getElem?_eq_none (by simpa using hi), Option.map_none]
  rw [chain, go_eq_iff, List.length_map, List.length_range']
  refine and_congr_right fun hlength => and_congr (forall₂_congr fun i hi => ?_) ?_
  · rw [hname, if_pos (by omega), Option.bind_some]
  · rw [hname]
    split
    · rename_i hlt
      simp [hlt]
    · rename_i hge
      simp [hge]

/-- The run along a path is as long as the path exactly if all attributes along it are set. -/
theorem length_chain_eq_iff : (t.chain path).length = path.length ↔
    ∀ n, 0 < n → n ≤ path.length → t.has (path.take n).name := by
  obtain ⟨hle, hrun, hnext⟩ := chain_eq_iff.mp (rfl : t.chain path = t.chain path)
  constructor
  · intro hlength n hn hnle
    have hi : n - 1 < (t.chain path).length := by omega
    have hfind := hrun (n - 1) hi
    rw [Nat.sub_add_cancel hn, List.getElem?_eq_getElem hi] at hfind
    exact Table.has_iff_exists.mpr ⟨_, hfind.symm⟩
  · intro hall
    -- A chain that is too short has stopped at a beginning that is missing.
    by_contra hne
    have hlt : (t.chain path).length < path.length := by omega
    have hhas := hall _ (Nat.succ_pos _) hlt
    rw [Table.has, hnext hlt] at hhas
    cases hhas

/-- A run that is as long as the path ends with the attribute that the path leads to. -/
theorem getLast?_chain (hpath : 0 < path.length) (hlength : (t.chain path).length = path.length) :
    (t.chain path).getLast? = t.find? path.name := by
  obtain ⟨-, hrun, -⟩ := chain_eq_iff.mp (rfl : t.chain path = t.chain path)
  have hlast : path.take path.length = path := by
    rw [AttributePath.take, AttributePath.length, List.take_length]
  rw [List.getLast?_eq_getElem?, hrun _ (by omega), hlength, Nat.sub_add_cancel hpath, hlast]

end AttributeTree

namespace World

variable {w : World} {hops : Nat} {d a : Dbref}

/-! ### Ancestors by their numbers -/

/-- Where `n` steps along parents lead. -/
def ancestor? (w : World) (d : Dbref) : Nat → Option Dbref
  | 0 => some d
  | n + 1 => (w.ancestor? d n).bind fun a => (w.object? a).bind (·.parent)

/-- Is the ancestor met within the hops, before the way comes to anything for the second time? -/
structure Reached (w : World) (hops : Nat) (d : Dbref) (n : Nat) (a : Dbref) : Prop where
  within : n ≤ hops
  ancestor : w.ancestor? d n = some a
  fresh : ∀ i j, i < j → j ≤ n → w.ancestor? d i ≠ w.ancestor? d j

/-- Behind the last ancestor there is none. -/
private theorem ancestor?_add_eq_none {n : Nat} (h : w.ancestor? d n = none) (k : Nat) :
    w.ancestor? d (n + k) = none := by
  induction k with
  | zero => exact h
  | succ k ih => rw [← Nat.add_assoc, ancestor?, ih, Option.bind_none]

/-- **The walk along parents finds the ancestors that are reached.**  It has come as far as the
    `k`-th of them, and all up to that one have been visited. -/
theorem getElem?_ancestors {visited : List Dbref} {k : Nat}
    (hvisited : ∀ x, x ∈ visited ↔ ∃ i, i ≤ k ∧ w.ancestor? d i = some x)
    (hfresh : ∀ i j, i < j → j ≤ k → w.ancestor? d i ≠ w.ancestor? d j) (n : Nat) :
    (w.ancestors visited hops (w.ancestor? d (k + 1)))[n]? = some a ↔
      n < hops ∧ w.ancestor? d (k + 1 + n) = some a ∧
        ∀ i j, i < j → j ≤ k + 1 + n → w.ancestor? d i ≠ w.ancestor? d j := by
  induction hops generalizing visited k n with
  | zero =>
    simp [ancestors]
  | succ hops ih =>
    cases hnext : w.ancestor? d (k + 1) with
    | none =>
      rw [ancestors_none, ancestor?_add_eq_none hnext]
      simp
    | some x =>
      rw [ancestors_some]
      by_cases hx : x ∈ visited
      · rw [if_pos hx]
        obtain ⟨i, hi, hxi⟩ := (hvisited x).mp hx
        constructor
        · intro h
          cases h
        · rintro ⟨-, -, hall⟩
          exact absurd (hxi.trans hnext.symm) (hall i (k + 1) (by omega) (by omega))
      · rw [if_neg hx]
        -- The next one is visited, and the way goes on from there.
        have hvisited' : ∀ y, y ∈ x :: visited ↔ ∃ i, i ≤ k + 1 ∧ w.ancestor? d i = some y := by
          intro y
          rw [List.mem_cons, hvisited]
          constructor
          · rintro (rfl | ⟨i, hi, hy⟩)
            · exact ⟨k + 1, le_rfl, hnext⟩
            · exact ⟨i, by omega, hy⟩
          · rintro ⟨i, hi, hy⟩
            by_cases hik : i = k + 1
            · rw [hik, hnext] at hy
              exact .inl (Option.some.inj hy).symm
            · exact .inr ⟨i, by omega, hy⟩
        have hfresh' : ∀ i j, i < j → j ≤ k + 1 → w.ancestor? d i ≠ w.ancestor? d j := by
          intro i j hij hj
          by_cases hjk : j = k + 1
          · intro heq
            rw [hjk, hnext] at heq
            exact hx ((hvisited x).mpr ⟨i, by omega, heq⟩)
          · exact hfresh i j hij (by omega)
        have hafter : (w.object? x).bind (·.parent) = w.ancestor? d (k + 1 + 1) := by
          rw [ancestor?, hnext, Option.bind_some]
        rw [hafter]
        cases n with
        | zero =>
          rw [List.getElem?_cons_zero, Nat.add_zero, hnext]
          exact ⟨fun h => ⟨by omega, h, hfresh'⟩, fun h => h.2.1⟩
        | succ n =>
          have hindex : k + 1 + (n + 1) = k + 1 + 1 + n := by omega
          rw [List.getElem?_cons_succ, ih hvisited' hfresh', hindex]
          simp

/-- The ancestors that a look-up visits are those that are reached. -/
private theorem getElem?_ancestors_self (n : Nat) :
    (w.ancestors [d] hops ((w.object? d).bind (·.parent)))[n]? = some a
      ↔ w.Reached hops d (n + 1) a := by
  have hstart : (w.object? d).bind (·.parent) = w.ancestor? d (0 + 1) := rfl
  have hvisited : ∀ x, x ∈ [d] ↔ ∃ i, i ≤ 0 ∧ w.ancestor? d i = some x := by
    intro x
    simp [ancestor?, eq_comm]
  rw [hstart, getElem?_ancestors hvisited (by omega)]
  have hindex : 0 + 1 + n = n + 1 := by omega
  rw [hindex]
  exact ⟨fun h => ⟨h.1, h.2.1, h.2.2⟩, fun h => ⟨h.within, h.ancestor, h.fresh⟩⟩

private theorem mem_ancestors_self_iff :
    a ∈ w.ancestors [d] hops ((w.object? d).bind (·.parent)) ↔ ∃ n, w.Reached hops d (n + 1) a := by
  rw [List.mem_iff_getElem?]
  exact exists_congr fun n => getElem?_ancestors_self n

/-! ### Who is consulted -/

/-- Is the object consulted, with this rank?  Without inheritance it is only the object itself. -/
def Consults (w : World) (hops : Nat) (inherits : Bool) (d : Dbref) (rank : Nat) :
    AttributeSource → Dbref → Prop
  | .own, a => rank = 0 ∧ a = d
  | .parent, a => inherits ∧ 0 < rank ∧ w.Reached hops d rank a
  | .zone, a => inherits ∧ rank = hops + 1 ∧ (∃ o, w.object? d = some o ∧ o.zone = some a) ∧
      ∀ n, ¬ w.Reached hops d n a

/-- The object itself is always reached. -/
private theorem reached_zero : w.Reached hops d 0 a ↔ a = d := by
  constructor
  · intro h
    exact (Option.some.inj h.ancestor).symm
  · rintro rfl
    exact ⟨Nat.zero_le _, rfl, by omega⟩

/-- A zone is consulted unless it is the object or one of the ancestors before it. -/
private theorem zone_eq_some_iff {o : Object} (ho : w.object? d = some o) :
    (o.zone.filter fun z => z ≠ d && !(w.ancestors [d] hops o.parent).contains z) = some a ↔
      o.zone = some a ∧ ∀ n, ¬ w.Reached hops d n a := by
  have hparent : o.parent = (w.object? d).bind (·.parent) := by rw [ho, Option.bind_some]
  rw [Option.filter_eq_some_iff, hparent]
  refine and_congr_right fun _ => ?_
  simp only [decide_eq_true_eq, Bool.and_eq_true, Bool.not_eq_true', List.contains_eq_mem,
    decide_eq_false_iff_not, mem_ancestors_self_iff, not_exists]
  -- The object itself is reached in no steps, its ancestors in one or more.
  constructor
  · rintro ⟨hself, hfar⟩ n
    cases n with
    | zero => exact fun h => hself (reached_zero.mp h)
    | succ n => exact hfar n
  · intro h
    exact ⟨fun hself => h 0 (reached_zero.mpr hself), fun n => h (n + 1)⟩

/-- The parents that are consulted, with their ranks. -/
private theorem mem_zipIdx_ancestors {o : Object} (ho : w.object? d = some o) {n : Nat} :
    (a, n) ∈ (w.ancestors [d] hops o.parent).zipIdx 1 ↔ 0 < n ∧ w.Reached hops d n a := by
  have hparent : o.parent = (w.object? d).bind (·.parent) := by rw [ho, Option.bind_some]
  rw [List.mk_mem_zipIdx_iff_le_and_getElem?_sub, hparent, getElem?_ancestors_self]
  refine and_congr_right fun hn => ?_
  rw [Nat.sub_add_cancel hn]

/-- The lineage of an object that exists, with ranks. -/
def rankedLineage (w : World) (hops : Nat) (d : Dbref) (o : Object) :
    List (Nat × AttributeSource × Dbref) :=
  let parents := w.ancestors [d] hops o.parent
  let zone := o.zone.filter fun z => z ≠ d && !parents.contains z
  (0, .own, d) :: (parents.zipIdx 1).map (fun e => (e.2, .parent, e.1)) ++
    zone.toList.map (hops + 1, .zone, ·)

section

variable {o : Object}

/-- Without its ranks it is the lineage. -/
private theorem map_snd_rankedLineage (ho : w.object? d = some o) :
    (w.rankedLineage hops d o).map Prod.snd = w.lineage hops d true := by
  have hparents : ((w.ancestors [d] hops o.parent).zipIdx 1).map
      (Prod.snd ∘ fun e => (e.2, AttributeSource.parent, e.1))
      = (w.ancestors [d] hops o.parent).map (.parent, ·) := by
    conv_rhs => rw [← List.zipIdx_map_fst 1 (w.ancestors [d] hops o.parent)]
    rw [List.map_map]
    rfl
  simp only [rankedLineage, lineage, if_true, ho, List.map_append, List.map_cons, List.map_map,
    hparents]
  rfl

/-- The ranked lineage holds those that are consulted, with their ranks. -/
private theorem mem_rankedLineage (ho : w.object? d = some o) (rank : Nat)
    (source : AttributeSource) (a : Dbref) :
    (rank, source, a) ∈ w.rankedLineage hops d o ↔ w.Consults hops true d rank source a := by
  simp only [rankedLineage, List.cons_append, List.mem_cons, List.mem_append, List.mem_map,
    Option.mem_toList, zone_eq_some_iff ho, Prod.exists, mem_zipIdx_ancestors ho, Prod.mk.injEq]
  cases source with
  | own => simp [Consults]
  | parent => simp [Consults]
  | zone =>
    simp only [Consults, ho, Option.some.injEq, exists_eq_left', true_and]
    constructor
    · rintro (⟨-, ⟨⟩, -⟩ | ⟨_, _, -, -, ⟨⟩, -⟩ | ⟨z, hz, rfl, rfl⟩)
      exact ⟨rfl, hz⟩
    · rintro ⟨rfl, hz⟩
      exact .inr (.inr ⟨a, hz, rfl, rfl⟩)

/-- The ranks of parents lie between that of the object and that of its zone. -/
private theorem pairwise_rankedLineage (ho : w.object? d = some o) :
    (w.rankedLineage hops d o).Pairwise (·.1 < ·.1) := by
  have hparents : ((w.ancestors [d] hops o.parent).zipIdx 1).Pairwise (·.2 < ·.2) := by
    rw [← List.pairwise_map (f := Prod.snd), List.zipIdx_map_snd]
    exact List.pairwise_lt_range' 1
  rw [rankedLineage, List.cons_append, List.pairwise_cons, List.pairwise_append]
  refine ⟨fun e he => ?_, List.pairwise_map.mpr hparents, ?_, fun e he e' he' => ?_⟩
  · rcases List.mem_append.mp he with he | he
    · obtain ⟨⟨a, n⟩, ha, rfl⟩ := List.mem_map.mp he
      exact ((mem_zipIdx_ancestors ho).mp ha).1
    · obtain ⟨z, -, rfl⟩ := List.mem_map.mp he
      exact Nat.succ_pos hops
  · -- There is at most one zone.
    cases o.zone.filter fun z => z ≠ d && !(w.ancestors [d] hops o.parent).contains z with
    | none => exact List.Pairwise.nil
    | some z => exact List.pairwise_singleton _ _
  · obtain ⟨⟨a, n⟩, ha, rfl⟩ := List.mem_map.mp he
    obtain ⟨z, -, rfl⟩ := List.mem_map.mp he'
    exact Nat.lt_succ_of_le ((mem_zipIdx_ancestors ho).mp ha).2.within

end

/-- Nothing but the object itself is consulted if it does not exist. -/
private theorem not_reached_of_none (h : w.object? d = none) {n : Nat} (hn : 0 < n) :
    ¬ w.Reached hops d n a := by
  intro hreached
  have hfirst : w.ancestor? d 1 = none := by
    rw [ancestor?, ancestor?, Option.bind_some, h, Option.bind_none]
  have hnone := ancestor?_add_eq_none hfirst (n - 1)
  rw [Nat.add_sub_cancel' hn, hreached.ancestor] at hnone
  cases hnone

/-- **The lineage of an object holds those that are consulted,** in the order of their ranks. -/
theorem exists_ranked_lineage (w : World) (hops : Nat) (d : Dbref) (inherits : Bool) :
    ∃ xs : List (Nat × AttributeSource × Dbref), xs.map Prod.snd = w.lineage hops d inherits ∧
      xs.Pairwise (·.1 < ·.1) ∧
      ∀ rank source a, (rank, source, a) ∈ xs ↔ w.Consults hops inherits d rank source a := by
  -- Otherwise only the object itself is consulted.
  by_cases hlive : inherits = true ∧ ∃ o, w.object? d = some o
  · obtain ⟨rfl, o, ho⟩ := hlive
    exact ⟨w.rankedLineage hops d o, map_snd_rankedLineage ho, pairwise_rankedLineage ho,
      mem_rankedLineage ho⟩
  · have hself : (if inherits then w.object? d else none) = none := by
      cases inherits with
      | false => rfl
      | true => simpa [Option.eq_none_iff_forall_ne_some] using hlive
    refine ⟨[(0, .own, d)], ?_, List.pairwise_singleton _ _, fun rank source a => ?_⟩
    · rw [lineage, hself]
      rfl
    rw [List.mem_singleton, Prod.mk.injEq, Prod.mk.injEq]
    cases source with
    | own => simp [Consults]
    | parent =>
      refine ⟨fun h => absurd h.2.1 (by simp), ?_⟩
      rintro ⟨rfl, hrank, hreached⟩
      exact absurd hreached (not_reached_of_none hself hrank)
    | zone =>
      refine ⟨fun h => absurd h.2.1 (by simp), ?_⟩
      rintro ⟨rfl, -, ⟨o, ho, -⟩, -⟩
      exact absurd ⟨rfl, o, ho⟩ hlive

/-! ### Who carries the attribute -/

section

variable {path : AttributePath} {source : AttributeSource}

/-- Does the object carry the attribute at a path?  All attributes along the path are set on it, and
    the last one may be inherited, unless it is the object itself that is asked. -/
structure Carries (w : World) (path : AttributePath) (source : AttributeSource) (a : Dbref) :
    Prop where
  has : ∀ n, 0 < n → n ≤ path.length → (w.tree a).has (path.take n).name
  inherited : source = .own ∨
    ∀ x, (w.tree a).find? path.name = some x → x.flags.noInherit = false

/-- Whether an attribute is carried can be told from the run along its path. -/
theorem carries_iff (hpath : 0 < path.length) : w.Carries path source a ↔
    ((w.tree a).chain path).length = path.length ∧
      ((w.tree a).chain path).getLast?.any (isVisible source) := by
  -- The last attribute of a chain of full length is the one at the path.
  have hvisible : ((w.tree a).chain path).length = path.length →
      (((w.tree a).chain path).getLast?.any (isVisible source) ↔ source = .own ∨
        ∀ x, (w.tree a).find? path.name = some x → x.flags.noInherit = false) := by
    intro hlength
    have hlast := AttributeTree.getLast?_chain hpath hlength
    have hne : (w.tree a).chain path ≠ [] := List.ne_nil_of_length_pos (by omega)
    rw [List.getLast?_eq_getLast_of_ne_nil hne] at hlast ⊢
    simp [← hlast, isVisible]
  constructor
  · intro h
    have hlength := AttributeTree.length_chain_eq_iff.mpr h.has
    exact ⟨hlength, (hvisible hlength).mpr h.inherited⟩
  · rintro ⟨hlength, hany⟩
    exact ⟨AttributeTree.length_chain_eq_iff.mp hlength, (hvisible hlength).mp hany⟩

/-- Nothing is found on one that does not carry the attribute. -/
private theorem foundOn?_eq_none_iff (hpath : 0 < path.length) :
    w.foundOn? path source a = none ↔ ¬ w.Carries path source a := by
  rw [foundOn?, carries_iff hpath]
  simp

/-- One that does not carry the attribute has a run that ends before the path does. -/
private theorem chain_eq_iff_of_not_carries {run : List Attribute} (h : ¬ w.Carries path .own d) :
    (w.tree d).chain path = run ↔ run.length < path.length ∧ (w.tree d).IsRun path run ∧
      (w.tree d).find? (path.take (run.length + 1)).name = none := by
  constructor
  · intro hchain
    obtain ⟨hle, hrun, hnext⟩ := AttributeTree.chain_eq_iff.mp hchain
    have hlt : run.length < path.length := by
      by_contra hge
      have hlength : ((w.tree d).chain path).length = path.length := by
        rw [hchain]
        omega
      exact h ⟨AttributeTree.length_chain_eq_iff.mp hlength, .inl rfl⟩
    exact ⟨hlt, hrun, hnext hlt⟩
  · rintro ⟨hlt, hrun, hnext⟩
    exact AttributeTree.chain_eq_iff.mpr ⟨hlt.le, hrun, fun _ => hnext⟩

/-- What is found on one that carries the attribute. -/
private theorem foundOn?_eq_some_iff (hpath : 0 < path.length) {f : FoundAttribute} :
    w.foundOn? path source a = some f ↔ f.source = source ∧ f.holder = a ∧
      w.Carries path source a ∧ f.chain.length = path.length ∧ (w.tree a).IsRun path f.chain := by
  -- A run of full length is the chain, since nothing on the path is missing.
  have hchain : (w.Carries path source a ∧ f.chain.length = path.length ∧
      (w.tree a).IsRun path f.chain) ↔
        w.Carries path source a ∧ f.chain = (w.tree a).chain path := by
    refine and_congr_right fun hcarries => ?_
    rw [eq_comm (a := f.chain), AttributeTree.chain_eq_iff]
    constructor
    · rintro ⟨hlength, hrun⟩
      exact ⟨hlength.le, hrun, fun hlt => absurd hlt (by omega)⟩
    · rintro ⟨hle, hrun, hnext⟩
      refine ⟨?_, hrun⟩
      by_contra hne
      have hhas := hcarries.has _ (Nat.succ_pos f.chain.length) (by omega)
      rw [Table.has, hnext (by omega)] at hhas
      cases hhas
  rw [hchain, foundOn?, carries_iff hpath]
  obtain ⟨source', holder', chain'⟩ := f
  simp only [Option.ite_none_right_eq_some, Option.some.injEq, FoundAttribute.mk.injEq]
  constructor
  · rintro ⟨hcarries, rfl, rfl, rfl⟩
    exact ⟨rfl, rfl, hcarries, rfl⟩
  · rintro ⟨rfl, rfl, hcarries, rfl⟩
    exact ⟨hcarries, rfl, rfl, rfl⟩

end

/-- The holder of lowest rank is found. -/
theorem findSome?_lineage_eq_some_iff {path : AttributePath} {inherits : Bool} {f : FoundAttribute}
    (hpath : 0 < path.length) :
    ((w.lineage hops d inherits).findSome? fun x => w.foundOn? path x.1 x.2) = some f ↔
      ∃ rank, w.Consults hops inherits d rank f.source f.holder ∧
        (w.Carries path f.source f.holder ∧
          f.chain.length = path.length ∧ (w.tree f.holder).IsRun path f.chain) ∧
        ∀ rank' source a, rank' < rank → w.Consults hops inherits d rank' source a →
          ¬ w.Carries path source a := by
  -- Ranks make the order of the list a matter of numbers.
  obtain ⟨xs, hlineage, hordered, hmem⟩ := w.exists_ranked_lineage hops d inherits
  rw [← hlineage, List.findSome?_map, findSome?_ranked hordered]
  constructor
  · rintro ⟨⟨rank, source, a⟩, hx, hfound, hfirst⟩
    obtain ⟨rfl, rfl, hcarries⟩ := (foundOn?_eq_some_iff hpath).mp hfound
    refine ⟨rank, (hmem _ _ _).mp hx, hcarries, fun rank' source a hlt hconsults => ?_⟩
    exact (foundOn?_eq_none_iff hpath).mp (hfirst (rank', source, a)
      ((hmem _ _ _).mpr hconsults) hlt)
  · rintro ⟨rank, hconsults, hcarries, hfirst⟩
    refine ⟨(rank, f.source, f.holder), (hmem _ _ _).mpr hconsults,
      (foundOn?_eq_some_iff hpath).mpr ⟨rfl, rfl, hcarries⟩, ?_⟩
    rintro ⟨rank', source, a⟩ hy hlt
    exact (foundOn?_eq_none_iff hpath).mpr (hfirst rank' source a hlt ((hmem _ _ _).mp hy))

/-- Nothing is found if nobody carries it. -/
private theorem findSome?_lineage_eq_none_iff {path : AttributePath} {inherits : Bool}
    (hpath : 0 < path.length) :
    ((w.lineage hops d inherits).findSome? fun x => w.foundOn? path x.1 x.2) = none ↔
      ∀ rank source a, w.Consults hops inherits d rank source a → ¬ w.Carries path source a := by
  obtain ⟨xs, hlineage, -, hmem⟩ := w.exists_ranked_lineage hops d inherits
  rw [← hlineage, List.findSome?_map, List.findSome?_eq_none_iff]
  constructor
  · intro hnone rank source a hconsults
    exact (foundOn?_eq_none_iff hpath).mp (hnone (rank, source, a) ((hmem _ _ _).mpr hconsults))
  · rintro hnobody ⟨rank, source, a⟩ hx
    exact (foundOn?_eq_none_iff hpath).mpr (hnobody rank source a ((hmem _ _ _).mp hx))

/-- A look-up gives the first that is found. -/
theorem resolve_eq_found_iff {path : AttributePath} {inherits : Bool} {f : FoundAttribute} :
    w.resolve hops d path inherits = .found f ↔
      ((w.lineage hops d inherits).findSome? fun x => w.foundOn? path x.1 x.2) = some f := by
  unfold resolve
  cases (w.lineage hops d inherits).findSome? fun x => w.foundOn? path x.1 x.2 <;> simp

/-- A look-up that finds nothing gives the run on the object itself. -/
private theorem resolve_eq_notFound_iff {path : AttributePath} {inherits : Bool}
    {run : List Attribute} :
    w.resolve hops d path inherits = .notFound run ↔
      ((w.lineage hops d inherits).findSome? fun x => w.foundOn? path x.1 x.2) = none ∧
        (w.tree d).chain path = run := by
  unfold resolve
  cases (w.lineage hops d inherits).findSome? fun x => w.foundOn? path x.1 x.2 <;> simp

/-- **The first that carries the attribute wins.**  Whatever parents and zones there are, a look-up
    finds the attribute on an object exactly if that object is consulted and carries it, and no
    object of lower rank does.  It tells where that is and gives the attributes along the path, one
    for each segment.  It finds nothing exactly if nobody who is consulted carries the attribute,
    and then it gives the longest run of attributes along the path that the object has itself. -/
theorem resolve_first_carrier (w : World) (hops : Nat) (d : Dbref) (inherits : Bool)
    {path : AttributePath} (hpath : 0 < path.length) :
    (∀ f, w.resolve hops d path inherits = .found f ↔
      ∃ rank, w.Consults hops inherits d rank f.source f.holder ∧
        (w.Carries path f.source f.holder ∧
          f.chain.length = path.length ∧ (w.tree f.holder).IsRun path f.chain) ∧
        ∀ rank' source a, rank' < rank → w.Consults hops inherits d rank' source a →
          ¬ w.Carries path source a) ∧
    ∀ run, w.resolve hops d path inherits = .notFound run ↔
      (∀ rank source a, w.Consults hops inherits d rank source a → ¬ w.Carries path source a) ∧
        run.length < path.length ∧ (w.tree d).IsRun path run ∧
        (w.tree d).find? (path.take (run.length + 1)).name = none := by
  refine ⟨fun f => ?_, fun run => ?_⟩
  · rw [resolve_eq_found_iff, findSome?_lineage_eq_some_iff hpath]
  · rw [resolve_eq_notFound_iff, findSome?_lineage_eq_none_iff hpath]
    refine and_congr_right fun hnobody => ?_
    -- The object itself is consulted, and it does not carry the attribute.
    exact chain_eq_iff_of_not_carries (hnobody 0 .own d ⟨rfl, rfl⟩)

/-- Parents that run in a loop, and a zone.  The first parent has the attribute but keeps it to
    itself, so the second one wins; with one hop less it is the zone. -/
theorem loop_resolve_first_carrier :
    let path : AttributePath := ⟨["A".toList]⟩
    let thing (d : Dbref) (parent zone : Option Dbref) : Object :=
      { Object.new d (d + 1) .thing "Thing" with parent, zone }
    let made :=
      (((World.insert {} (thing 0 (some 1) (some 3))).insert (thing 1 (some 2) none)).insert
      (thing 2 (some 0) none)).insert (thing 3 none none)
    let w := (((made.setOwn 1 "A".toList "own").modifyFlags 1 "A" fun f =>
      { f with noInherit := true }).setOwn 2 "A".toList "far").setOwn 3 "A".toList "zone"
    0 < path.length ∧ (∃ f, w.resolve 2 0 path true = .found f ∧ f.source = .parent ∧
      f.holder = 2) ∧
      w.Consults 2 true 0 1 .parent 1 ∧ ¬ w.Carries path .parent 1 ∧
      ∃ f, w.resolve 1 0 path true = .found f ∧ f.source = .zone ∧ f.holder = 3 := by
  intro path thing made w
  have hpath : 0 < path.length := Nat.one_pos
  have hfound : ∃ f, w.resolve 2 0 path true = .found f ∧ f.source = .parent ∧ f.holder = 2 :=
    ⟨⟨.parent, 2, [⟨"A", .ofString "far", 2, {}⟩]⟩, by decide +kernel, rfl, rfl⟩
  have hfirst : w.Consults 2 true 0 1 .parent 1 := by
    refine ⟨rfl, Nat.one_pos, by omega, by decide +kernel, fun i j hij hj => ?_⟩
    obtain ⟨rfl, rfl⟩ : i = 0 ∧ j = 1 := by omega
    decide +kernel
  refine ⟨hpath, hfound, hfirst, ?_,
    ⟨.zone, 3, [⟨"A", .ofString "zone", 3, {}⟩]⟩, by decide +kernel, rfl, rfl⟩
  obtain ⟨f, hf, hsource, hholder⟩ := hfound
  obtain ⟨rank, hconsults, -, hlower⟩ :=
    ((w.resolve_first_carrier 2 0 true hpath).1 f).mp hf
  rw [hsource, hholder] at hconsults
  obtain ⟨-, hpos, hreached⟩ := hconsults
  refine hlower 1 .parent 1 ?_ hfirst
  -- The second parent is not the first.
  by_contra hge
  obtain rfl : rank = 1 := by omega
  have hparent : w.ancestor? 0 1 = some 1 := by decide +kernel
  rw [hreached.ancestor] at hparent
  exact absurd hparent (by decide)

end World

end Softcode
