import Softcode.Lock.Passing
import Softcode.Proofs.Results
import Softcode.Proofs.Styled.Erasure
import Softcode.World.Lookup

namespace Softcode

/-!
# Worlds without markup

The values of attributes and the messages of a world lose their markup.  All else stays, so look-ups
find the same attributes (`World.found?_resolve_erase`), attributes react to the same texts
(`World.reactions_erase`), and locks let the same objects pass (`World.passesAt_erase`).
-/

/-! ### Tables -/

namespace Table

variable {κ ν μ : Type}

/-- The table with all values changed. -/
def map (f : ν → μ) (t : Table κ ν) : Table κ μ := ⟨t.entries.map fun e => (e.1, f e.2)⟩

variable (f : ν → μ) (t : Table κ ν)

private theorem keys_map : (t.map f).keys = t.keys := by
  simp only [keys, map, List.map_map]
  rfl

private theorem size_map : (t.map f).size = t.size := List.length_map ..

/-- Entries are kept by their keys. -/
private theorem map_filter (p : κ → Bool) :
    (t.filter fun k _ => p k).map f = (t.map f).filter fun k _ => p k := by
  simp only [map, filter, List.filter_map, Table.mk.injEq]
  rfl

variable [DecidableEq κ]

/-- A look-up finds the changed value. -/
theorem find?_map (k : κ) : (t.map f).find? k = (t.find? k).map f := by
  obtain ⟨es⟩ := t
  simp only [map, find?]
  induction es with
  | nil => rfl
  | cons e es ih =>
    rw [List.map_cons, find?.go, find?.go, ih]
    dsimp only
    split <;> rfl

/-- A value is changed before or after it is put in, with the same result. -/
theorem map_insert (k : κ) (v : ν) : (t.insert k v).map f = (t.map f).insert k (f v) := by
  obtain ⟨es⟩ := t
  simp only [map, insert, Table.mk.injEq]
  induction es with
  | nil => rfl
  | cons e es ih =>
    rw [List.map_cons, insert.go, insert.go]
    dsimp only
    split
    · rfl
    · rw [List.map_cons, ih]

private theorem map_erase (k : κ) : (t.erase k).map f = (t.map f).erase k :=
  t.map_filter f fun k' => decide (k' ≠ k)

private theorem has_map (k : κ) : (t.map f).has k = t.has k := by
  rw [has, has, find?_map, Option.isSome_map]

end Table

/-! ### Attributes -/

/-- The attribute without the markup of its value. -/
def Attribute.erase (a : Attribute) : Attribute := { a with value := a.value.erase }

namespace AttributeTree

/-- The attributes without the markup of their values. -/
def eraseValues (t : AttributeTree) : AttributeTree := t.map Attribute.erase

variable (t : AttributeTree)

/-- An attribute is found without its markup. -/
private theorem find?_eraseValues (name : String) :
    t.eraseValues.find? name = (t.find? name).map Attribute.erase :=
  Table.find?_map ..

/-- Attributes are in the order of their names. -/
private theorem inOrder_eraseValues : t.eraseValues.inOrder = t.inOrder.map Attribute.erase := by
  simp only [inOrder, eraseValues, Table.map]
  rw [← List.map_mergeSort (r := fun a b => !decide (b.1 < a.1)) fun _ _ _ _ => rfl, List.map_map,
    List.map_map]
  rfl

/-- A value is written without its markup. -/
private theorem eraseValues_write (name : String) (value : Styled) (owner : Dbref) :
    (t.write name value owner).eraseValues = t.eraseValues.write name value.erase owner := by
  unfold write
  rw [find?_eraseValues]
  cases t.find? name with
  | none => exact Table.map_insert ..
  | some a => exact Table.map_insert ..

/-- An attribute that is made on the way has no markup. -/
private theorem eraseValues_ensure (name : String) (owner : Dbref) :
    (t.ensure name owner).eraseValues = t.eraseValues.ensure name owner := by
  have hhas : Table.has t.eraseValues name = Table.has t name := Table.has_map ..
  unfold ensure
  rw [hhas]
  split
  · rfl
  · exact Table.map_insert ..

/-- A value is set without its markup, with all that its path needs. -/
private theorem eraseValues_set (path : AttributePath) (value : Styled) (owner : Dbref) :
    (t.set path value owner).eraseValues = t.eraseValues.set path value.erase owner := by
  -- The attributes on the way are made one after the other.
  have hway : ∀ (names : List String) (t : AttributeTree),
      (names.foldl (fun t name => t.ensure name owner) t).eraseValues
        = names.foldl (fun t name => t.ensure name owner) t.eraseValues := by
    intro names
    induction names with
    | nil => exact fun _ => rfl
    | cons name names ih => exact fun t => (ih _).trans (by rw [eraseValues_ensure]; rfl)
  unfold set
  dsimp only
  rw [eraseValues_write, hway]

/-- Attributes are wiped by their names. -/
private theorem wipe_eraseValues (m : Matcher) : t.eraseValues.wipe m = (t.wipe m).eraseValues := by
  have hkeys : Table.keys t.eraseValues = Table.keys t := Table.keys_map ..
  unfold wipe
  dsimp only
  rw [hkeys]
  exact (Table.map_filter ..).symm

/-- The attributes along a path are the same, without their markup. -/
private theorem chain_eraseValues (path : AttributePath) :
    t.eraseValues.chain path = (t.chain path).map Attribute.erase := by
  unfold chain
  generalize (List.range' 1 path.length).map (fun n => (path.take n).name) = names
  induction names with
  | nil => rfl
  | cons name names ih =>
    rw [chain.go, chain.go, find?_eraseValues]
    cases t.find? name with
    | none => rfl
    | some a => exact congrArg (a.erase :: ·) ih

end AttributeTree

/-- What was found without the markup of its value. -/
def FoundAttribute.erase (f : FoundAttribute) : FoundAttribute :=
  { f with chain := f.chain.map Attribute.erase }

/-- Its value is the one without markup. -/
theorem FoundAttribute.value_erase (f : FoundAttribute) : f.erase.value = f.value.erase := by
  unfold value erase
  rw [List.getLast?_map]
  cases f.chain.getLast? <;> rfl

/-! ### Worlds -/

/-- The message without its markup. -/
def Notification.erase (n : Notification) : Notification := { n with message := n.message.erase }

namespace World

/-- The world without markup. -/
def erase (w : World) : World :=
  { w with
    attributes := w.attributes.map AttributeTree.eraseValues
    outbox := w.outbox.map Notification.erase }

variable (w : World)

/-- The attributes of a number lose their markup. -/
private theorem tree_erase (d : Dbref) : w.erase.tree d = (w.tree d).eraseValues := by
  unfold tree
  have hfind : w.erase.attributes.find? d
      = (w.attributes.find? d).map AttributeTree.eraseValues := Table.find?_map ..
  rw [hfind]
  cases w.attributes.find? d <;> rfl

/-- The text of an attribute has none. -/
private theorem attributeText?_erase : w.erase.attributeText? = w.attributeText? := by
  funext d name
  unfold attributeText?
  rw [tree_erase, AttributeTree.find?_eraseValues, Option.map_map]
  rfl

/-- Attributes are replaced by those without markup. -/
private theorem erase_setTree (d : Dbref) (t : AttributeTree) :
    (w.setTree d t).erase = w.erase.setTree d t.eraseValues := by
  have hinsert : (w.attributes.insert d t).map AttributeTree.eraseValues
      = (w.attributes.map AttributeTree.eraseValues).insert d t.eraseValues := Table.map_insert ..
  unfold setTree erase
  rw [← hinsert]

/-- A message is sent without its markup. -/
theorem erase_notify (target sender : Dbref) (message : Styled) :
    (w.notify target sender message).erase = w.erase.notify target sender message.erase := by
  simp only [notify, erase, List.map_append]
  rfl

/-! ### Changes of attributes -/

/-- Does the second computation do to a world without markup what the first does to the world? -/
def ChangeErases {α : Type} (x y : ExceptT ScriptError (StateM World) α) : Prop :=
  ∀ w : World, y.run.run w.erase = ((x.run.run w).1, (x.run.run w).2.erase)

/-- The entry of a number loses its markup. -/
private theorem find?_attributes_erase (d : Dbref) :
    w.erase.attributes.find? d = (w.attributes.find? d).map AttributeTree.eraseValues :=
  Table.find?_map ..

/-- An attribute is set alike. -/
theorem changeErases_setAttribute (d : Dbref) (path : AttributePath) (value : Styled)
    (owner : Dbref) :
    ChangeErases (setAttribute d path value owner) (setAttribute d path value.erase owner) := by
  intro w
  have hput : w.erase.putAttribute d path value.erase owner
      = (w.putAttribute d path value owner).erase := by
    unfold putAttribute
    rw [tree_erase, ← AttributeTree.eraseValues_set, ← erase_setTree]
  have hhas : w.erase.objects.has d = w.objects.has d := rfl
  rw [setAttribute, setAttribute, run_get_bind, run_get_bind, hhas]
  cases w.objects.has d with
  | false => rfl
  | true => exact congrArg (Prod.mk (Except.ok ())) hput

/-- An attribute is removed alike. -/
theorem changeErases_removeAttribute (d : Dbref) (path : AttributePath) :
    ChangeErases (removeAttribute d path) (removeAttribute d path) := by
  intro w
  rw [removeAttribute, run_get_bind, run_get_bind, find?_attributes_erase]
  cases w.attributes.find? d with
  | none => rfl
  | some t =>
    -- Erasing changes no key of a tree, and only keys decide.
    have hkeys : Table.keys t.eraseValues = Table.keys t := Table.keys_map ..
    have hhas : Table.has t.eraseValues path.name = Table.has t path.name := Table.has_map ..
    have herase : Table.erase t.eraseValues path.name
        = AttributeTree.eraseValues (Table.erase t path.name) :=
      (Table.map_erase ..).symm
    dsimp only [Option.map_some]
    rw [hkeys, hhas, herase]
    split
    · rfl
    · exact congrArg (Prod.mk (Except.ok (Table.has t path.name))) (w.erase_setTree d _).symm

/-- Attributes are wiped alike. -/
theorem changeErases_removeMatching (d : Dbref) (glob : List Char) :
    ChangeErases (removeMatching d glob) (removeMatching d glob) := by
  intro w
  rw [removeMatching]
  cases (Pattern.mk (.glob .attributeName) glob false).compile? with
  | none => rfl
  | some m =>
    dsimp only
    rw [run_get_bind, run_get_bind, find?_attributes_erase]
    cases w.attributes.find? d with
    | none => rfl
    | some t =>
      -- How many are wiped is the same, as no attribute is added or lost.
      have hsize : Table.size t.eraseValues = Table.size t := Table.size_map ..
      have hleft : Table.size (t.wipe m).eraseValues = Table.size (t.wipe m) := Table.size_map ..
      dsimp only [Option.map_some]
      rw [AttributeTree.wipe_eraseValues, hsize, hleft]
      exact congrArg (Prod.mk (Except.ok _)) (w.erase_setTree d _).symm

/-! ### Look-ups -/

/-- The same attribute is found on a holder. -/
private theorem foundOn?_erase (path : AttributePath) (source : AttributeSource) (holder : Dbref) :
    w.erase.foundOn? path source holder
      = (w.foundOn? path source holder).map FoundAttribute.erase := by
  have hvisible : (fun a => isVisible source a.erase) = isVisible source := rfl
  unfold foundOn?
  dsimp only
  rw [tree_erase, AttributeTree.chain_eraseValues, List.length_map, List.getLast?_map,
    Option.any_map, hvisible]
  split <;> rfl

/-- The ancestors are the same. -/
private theorem ancestors_erase (visited : List Dbref) (hops : Nat) (next : Option Dbref) :
    w.erase.ancestors visited hops next = w.ancestors visited hops next := by
  induction hops generalizing visited next with
  | zero => rfl
  | succ hops ih =>
    cases next with
    | none => rfl
    | some d =>
      rw [ancestors, ancestors, ih]
      rfl

private theorem lineage_erase : w.erase.lineage = w.lineage := by
  funext hops d inherits
  unfold lineage
  simp only [ancestors_erase]
  rfl

/-- **The same attribute is found.** -/
theorem found?_resolve_erase (hops : Nat) (d : Dbref) (path : AttributePath) (inherits : Bool) :
    (w.erase.resolve hops d path inherits).found?
      = (w.resolve hops d path inherits).found?.map FoundAttribute.erase := by
  have hfirst : (w.lineage hops d inherits).findSome?
      (fun p => w.erase.foundOn? path p.1 p.2) = ((w.lineage hops d inherits).findSome?
        fun p => w.foundOn? path p.1 p.2).map FoundAttribute.erase := by
    rw [List.map_findSome?]
    simp only [foundOn?_erase]
    rfl
  unfold resolve
  rw [lineage_erase, hfirst]
  cases (w.lineage hops d inherits).findSome? fun p => w.foundOn? path p.1 p.2 <;> rfl

/-- An attribute with where it is, without the markup of its value. -/
def eraseVisible (e : AttributeSource × Dbref × Attribute) : AttributeSource × Dbref × Attribute :=
  (e.1, e.2.1, e.2.2.erase)

/-- All attributes of a lineage are the same, without markup. -/
private theorem allAttributes_erase (hops : Nat) (d : Dbref) (inherits : Bool) :
    w.erase.allAttributes hops d inherits = (w.allAttributes hops d inherits).map eraseVisible := by
  unfold allAttributes
  rw [lineage_erase, List.map_flatMap]
  congr 1
  funext ⟨source, holder⟩
  dsimp only
  rw [tree_erase, AttributeTree.inOrder_eraseValues, List.filter_map, List.map_map, List.map_map]
  rfl

/-- Which attribute hides which depends on their names only. -/
private theorem visibleAttributes_erase (hops : Nat) (d : Dbref) (inherits : Bool) :
    w.erase.visibleAttributes hops d inherits
      = (w.visibleAttributes hops d inherits).map eraseVisible := by
  -- Which of two attributes of a name comes first depends on the names alone.
  have hfold : ∀ all seen : List (AttributeSource × Dbref × Attribute),
      (all.map eraseVisible).foldl (addFirst (·.2.2.name)) (seen.map eraseVisible)
        = (all.foldl (addFirst (·.2.2.name)) seen).map eraseVisible := by
    intro all
    induction all with
    | nil => exact fun _ => rfl
    | cons e all ih =>
      intro seen
      rw [List.map_cons, List.foldl_cons, List.foldl_cons, ← ih]
      congr 1
      unfold addFirst
      rw [List.any_map]
      show (if seen.any (·.2.2.name == e.2.2.name) then _ else _) = _
      split
      · rfl
      · rw [List.map_append]
        rfl
  unfold visibleAttributes
  rw [allAttributes_erase]
  exact hfold _ []

end World

/-! ### Reactions -/

/-- A marker and a pattern are read as characters. -/
private theorem reaction?_erase (value : Styled) (marker : PatternMarker) :
    reaction? value.erase marker = (reaction? value marker).map fun r => (r.1, r.2.erase) := by
  unfold reaction?
  rw [Styled.chars_erase]
  split
  · rfl
  split
  · rw [Option.map_map]
    refine congrArg (Option.map · _) (funext fun i => ?_)
    simp
  · rfl

/-- The reaction without markup. -/
def Reaction.erase (r : Reaction) : Reaction :=
  { r with
    action := r.action.erase
    captures := r.captures.map Styled.erase
    named := r.named.map Styled.erase }

namespace World

variable (w : World)

/-- A table that is filled step by step has no markup if no step adds any. -/
private theorem map_erase_foldl {ι : Type} {f : Table String Styled → ι → Table String Styled}
    (hf : ∀ t i, t.map Styled.erase = t → (f t i).map Styled.erase = f t i) (is : List ι)
    {t : Table String Styled} (ht : t.map Styled.erase = t) :
    (is.foldl f t).map Styled.erase = is.foldl f t := by
  induction is generalizing t with
  | nil => exact ht
  | cons i is ih => exact ih (hf t i ht)

/-- What the groups of a pattern take has no markup in any case. -/
private theorem reactionOf?_erase (capacity : Nat) (d : Dbref) (marker : PatternMarker)
    (text : List Char) (source : AttributeSource) (a : Attribute) :
    reactionOf? capacity d marker text source a.erase
      = Option.map Reaction.erase <$> reactionOf? capacity d marker text source a := by
  have hreaction : reaction? a.erase.value marker
      = (reaction? a.value marker).map fun r => (r.1, r.2.erase) := reaction?_erase a.value marker
  have hflags : a.erase.flags = a.flags := rfl
  unfold reactionOf?
  rw [hreaction, hflags]
  split
  · rfl
  cases reaction? a.value marker with
  | none => rfl
  | some r =>
    dsimp only [Option.map_some]
    rw [map_bind]
    congr 1
    funext m
    cases m with
    | none => rfl
    | some m =>
      rw [map_pure, Option.map_map]
      refine congrArg (fun f => pure (Option.map f (m.captures text))) (funext fun groups => ?_)
      rw [Function.comp_apply, Reaction.erase]
      dsimp only
      -- The groups that have names are put into a table one after the other.
      rw [List.map_map, map_erase_foldl _ m.names rfl]
      · rfl
      · intro t e ht
        split
        · rw [Table.map_insert, ht]
          rfl
        · exact ht

/-- **The same attributes react.** -/
theorem reactions_erase (hops capacity : Nat) (d : Dbref) (marker : PatternMarker)
    (text : List Char) (inherits : Bool) :
    w.erase.reactions hops capacity d marker text inherits
      = List.map Reaction.erase <$> w.reactions hops capacity d marker text inherits := by
  -- The attributes are tried in turn, and the cache is handed on from each to the next.
  have hall : ∀ all : List (AttributeSource × Dbref × Attribute),
      (all.map eraseVisible).mapM (fun e => reactionOf? capacity d marker text e.1 e.2.2)
        = List.map (Option.map Reaction.erase) <$>
          all.mapM fun e => reactionOf? capacity d marker text e.1 e.2.2 := by
    intro all
    induction all with
    | nil => rfl
    | cons e all ih =>
      rw [List.map_cons, List.mapM_cons, List.mapM_cons, ih]
      simp only [eraseVisible, reactionOf?_erase, map_bind, bind_map_left, map_pure, List.map_cons]
  unfold reactions
  rw [visibleAttributes_erase]
  refine (congrArg (· >>= _) (hall _)).trans ?_
  simp only [bind_map_left, map_bind, map_pure, List.filterMap_map, List.map_filterMap]
  rfl

/-! ### Locks -/

/-- A lock is read as the same condition. -/
private theorem condition_erase (e : LockExpr) : e.condition w.erase = e.condition w := by
  have hkey : ∀ k : Key, k.condition w.erase = k.condition w := by
    intro k
    cases k with
    | indirect t lock => cases lock <;> rfl
    | _ => rfl
  induction e with
  | or a b iha ihb => rw [LockExpr.condition, LockExpr.condition, iha, ihb]
  | and a b iha ihb => rw [LockExpr.condition, LockExpr.condition, iha, ihb]
  | not a iha => rw [LockExpr.condition, LockExpr.condition, iha]
  | group a iha => exact iha
  | key k => exact hkey k

private theorem ofText_erase (text : String) :
    ReadyLock.ofText w.erase text = ReadyLock.ofText w text := by
  unfold ReadyLock.ofText
  simp only [condition_erase]

/-- The same conditions hold. -/
private theorem holds_erase {m : Type → Type} [Monad m] (ask : Reference → LockKind → m Bool)
    (gated unlocker : Object) (c : Condition) :
    c.holds w.erase ask gated unlocker = c.holds w ask gated unlocker := by
  induction c with
  | or a b iha ihb => rw [Condition.holds, Condition.holds, iha, ihb]
  | and a b iha ihb => rw [Condition.holds, Condition.holds, iha, ihb]
  | not a iha => rw [Condition.holds, Condition.holds, iha]
  | dbrefList | unlockerAttr | lockedAttr =>
    rw [Condition.holds, Condition.holds, attributeText?_erase]
  | _ => rfl

/-- The same lock is in force. -/
private theorem lockFor_erase : w.erase.lockFor = w.lockFor := by
  have hfresh : w.erase.freshLock = w.freshLock := by
    funext d kind
    unfold freshLock
    simp only [ofText_erase]
    rfl
  funext d kind
  unfold lockFor
  rw [hfresh]

/-- An indirect lock lets the same objects pass. -/
private theorem passesIndirect_erase (unlocker : Object) (more : Nat) :
    w.erase.passesIndirect unlocker more = w.passesIndirect unlocker more := by
  induction more with
  | zero => rfl
  | succ more ih =>
    funext r kind
    rw [passesIndirect, passesIndirect, ih, lockFor_erase]
    simp only [holds_erase]
    rfl

/-- **Locks do not see markup.** -/
theorem passesAt_erase : w.erase.passesAt = w.passesAt := by
  funext kind gated unlocker
  unfold passesAt passes passesLock
  simp only [lockFor_erase, passesIndirect_erase, holds_erase]
  rfl

end World

/-- Setting a lock does the same without markup. -/
theorem LockService.run_set_erase (w : World) (cache : LockCache) (d : Dbref) (kind : LockKind)
    (text : String) (setter : Dbref) :
    (set d kind text setter).run.run ⟨w.erase, cache⟩
      = (((set d kind text setter).run.run ⟨w, cache⟩).1,
        ⟨((set d kind text setter).run.run ⟨w, cache⟩).2.world.erase,
          ((set d kind text setter).run.run ⟨w, cache⟩).2.cache⟩) := by
  have hpin : pinText w.erase (some setter) text = pinText w (some setter) text := rfl
  rw [set, run_get_bind, run_get_bind]
  dsimp only
  rw [hpin, World.ofText_erase]
  cases World.unknownName? (pinText w (some setter) text) with
  | some n => rfl
  | none =>
    cases isLockFor d (pinText w (some setter) text).toList with
    | false => rfl
    | true => cases ReadyLock.ofText w (pinText w (some setter) text) <;> rfl

end Softcode
