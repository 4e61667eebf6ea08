import Softcode.Proofs.Text.Runs
import Softcode.World.Matching

namespace Softcode

/-!
# Worlds that operations can make

The objects of a world stand in a table under their numbers.  A world is `Sound` if each number has
one entry and each object stands under its own number.  Every operation on worlds keeps that
(`World.Reachable.sound`), so whatever a search among the objects finds is what a look-up by number
gives (`World.locate?_live`).
-/

namespace Table

variable {κ ν : Type} [DecidableEq κ] {t : Table κ ν} {k : κ} {v : ν}

/-- What is found has an entry. -/
theorem mem_of_find? (h : t.find? k = some v) : (k, v) ∈ t.entries := by
  obtain ⟨es⟩ := t
  simp only [find?] at h
  induction es with
  | nil => exact absurd h (by simp [find?.go])
  | cons e es ih =>
    rw [find?.go] at h
    split at h
    · rename_i he
      obtain rfl := Option.some.inj h
      rw [← he]
      exact List.mem_cons_self
    · exact List.mem_cons_of_mem _ (ih h)

/-- If each key has one entry, a look-up finds it. -/
theorem find?_of_mem (hkeys : t.keys.Nodup) (h : (k, v) ∈ t.entries) : t.find? k = some v := by
  obtain ⟨es⟩ := t
  simp only [find?, keys] at hkeys h ⊢
  induction es with
  | nil => exact absurd h (by simp)
  | cons e es ih =>
    rw [List.map_cons, List.nodup_cons] at hkeys
    rw [find?.go]
    rcases List.mem_cons.mp h with rfl | h
    · exact if_pos rfl
    · have hne : e.1 ≠ k := fun he => hkeys.1 (he ▸ List.mem_map_of_mem h)
      rw [if_neg hne, ih hkeys.2 h]

/-- An insertion adds one entry at most. -/
theorem mem_insert {e : κ × ν} (h : e ∈ (t.insert k v).entries) : e = (k, v) ∨ e ∈ t.entries := by
  obtain ⟨es⟩ := t
  simp only [insert] at h
  induction es with
  | nil => exact .inl (List.mem_singleton.mp h)
  | cons e' es ih =>
    rw [insert.go] at h
    split at h
    · rcases List.mem_cons.mp h with h | h
      · exact .inl h
      · exact .inr (List.mem_cons_of_mem _ h)
    · rcases List.mem_cons.mp h with rfl | h
      · exact .inr List.mem_cons_self
      · exact (ih h).imp_right (List.mem_cons_of_mem _)

/-- A new key comes behind the others. -/
theorem keys_insert (t : Table κ ν) (k : κ) (v : ν) :
    (t.insert k v).keys = if k ∈ t.keys then t.keys else t.keys ++ [k] := by
  obtain ⟨es⟩ := t
  simp only [insert, keys]
  induction es with
  | nil => rfl
  | cons e es ih =>
    by_cases he : e.1 = k
    · simp [insert.go, he]
    · have hke : k ≠ e.1 := fun h => he h.symm
      simp only [insert.go, he, if_false, List.map_cons, List.mem_cons, hke, false_or]
      rw [ih]
      by_cases hk : k ∈ es.map (·.1) <;> simp only [hk, if_true, if_false, List.cons_append]

/-- No key is added twice. -/
theorem nodup_keys_insert (h : t.keys.Nodup) : (t.insert k v).keys.Nodup := by
  rw [keys_insert]
  split
  · exact h
  · rename_i hk
    exact List.nodup_append.mpr ⟨h, List.nodup_singleton k, by
      intro a ha b hb
      rw [List.mem_singleton.mp hb]
      exact fun hab => hk (hab ▸ ha)⟩

/-- To take keys away leaves the others once. -/
private theorem nodup_keys_erase (h : t.keys.Nodup) : (t.erase k).keys.Nodup :=
  h.sublist (List.filter_sublist.map _)

/-- Values are changed, but not keys. -/
theorem keys_modify (f : ν → ν) : (t.modify k f).keys = t.keys := by
  simp only [modify, keys, List.map_map]
  refine List.map_congr_left fun e _ => ?_
  by_cases he : e.1 = k <;> simp [he]

end Table

namespace World

variable {w w' : World}

/-- Does each object stand under its own number, and is there one object for each number? -/
structure Sound (w : World) : Prop where
  keys : w.objects.keys.Nodup
  dbref : ∀ e ∈ w.objects.entries, e.2.dbref = e.1

/-- A world that can come about.  An object may be changed in every way, but it keeps its number;
    what does not concern objects may change freely. -/
inductive Reachable : World → Prop
  | empty : Reachable {}
  | create {w : World} (h : Reachable w) (kind : Kind) (name : String) (location : Option Dbref) :
      Reachable (w.create kind name location).2
  | insert {w : World} (h : Reachable w) (o : Object) : Reachable (w.insert o)
  | update {w : World} (h : Reachable w) (d : Dbref) (f : Object → Object)
      (hf : ∀ o, (f o).dbref = o.dbref) : Reachable (w.update d f)
  | recycle {w : World} (h : Reachable w) (d : Dbref) : Reachable (w.recycle d)
  | others {w w' : World} (h : Reachable w) (hobjects : w'.objects = w.objects) : Reachable w'

/-! ### Each operation keeps worlds sound -/

private theorem sound_empty : Sound {} := ⟨List.nodup_nil, by simp⟩

/-- An object is put in under its own number. -/
theorem Sound.insert (h : w.Sound) {o : Object}
    (hobjects : w'.objects = w.objects.insert o.dbref o) :
    w'.Sound := by
  refine ⟨hobjects ▸ Table.nodup_keys_insert h.keys, ?_⟩
  intro e he
  rw [hobjects] at he
  rcases Table.mem_insert he with rfl | he
  · rfl
  · exact h.dbref e he

/-- A change that keeps the number of an object keeps the world sound. -/
theorem Sound.update (h : w.Sound) (d : Dbref) {f : Object → Object}
    (hf : ∀ o, (f o).dbref = o.dbref) : (w.update d f).Sound := by
  refine ⟨by simpa only [World.update, Table.keys_modify] using h.keys, ?_⟩
  intro e he
  obtain ⟨e', he', rfl⟩ := List.mem_map.mp he
  have hdbref := h.dbref e' he'
  by_cases hd : e'.1 = d
  · simp only [hd, if_true, hf]
    rw [hdbref, hd]
  · simp only [hd, if_false]
    exact hdbref

/-- To destroy an object leaves the others. -/
theorem Sound.recycle (h : w.Sound) (d : Dbref) : (w.recycle d).Sound := by
  unfold World.recycle
  split
  · exact ⟨Table.nodup_keys_erase h.keys, fun e he => h.dbref e (List.mem_of_mem_filter he)⟩
  · exact h

/-- **Every world that can come about is sound.** -/
theorem Reachable.sound (h : w.Reachable) : w.Sound := by
  induction h with
  | empty => exact sound_empty
  | create h kind name location ih =>
    exact ih.insert (o := (World.create _ kind name location).1) rfl
  | insert h o ih => exact ih.insert rfl
  | update h d f hf ih => exact ih.update d hf
  | recycle h d ih => exact ih.recycle d
  | others h hobjects ih => exact ⟨hobjects ▸ ih.keys, hobjects ▸ ih.dbref⟩

/-- The world at the start can come about. -/
theorem start_reachable : start.Reachable := by
  unfold start
  refine .update (.update (.create (.create .empty _ _ _) _ _ _) _ _ ?_) _ _ ?_
  · exact fun _ => rfl
  · exact fun _ => rfl

/-! ### Searches find live objects -/

/-- Is the object the one that the world has under its number? -/
def Live (w : World) (o : Object) : Prop := w.object? o.dbref = some o

instance (w : World) (o : Object) : Decidable (w.Live o) :=
  inferInstanceAs (Decidable (w.object? o.dbref = some o))

/-- All objects of a sound world are live. -/
private theorem Sound.live_of_mem (h : w.Sound) {o : Object} (ho : o ∈ w.objects.values) :
    w.Live o := by
  obtain ⟨e, he, rfl⟩ := List.mem_map.mp ho
  rw [Live, h.dbref e he]
  exact Table.find?_of_mem h.keys he

/-- A look-up by number finds an object with that number. -/
theorem Sound.dbref_eq (h : w.Sound) {d : Dbref} {o : Object} (ho : w.object? d = some o) :
    o.dbref = d :=
  h.dbref (d, o) (Table.mem_of_find? ho)

theorem Sound.live_of_object? (h : w.Sound) {d : Dbref} {o : Object} (ho : w.object? d = some o) :
    w.Live o := by
  rwa [Live, h.dbref_eq ho]

/-- A live object is an object of the world. -/
theorem Live.mem_values {o : Object} (h : w.Live o) : o ∈ w.objects.values :=
  List.mem_map.mpr ⟨(o.dbref, o), Table.mem_of_find? h, rfl⟩

/-- The lowest of those that pass a test is an object of the world. -/
private theorem lowest?_mem {p : Object → Bool} {o : Object} (h : w.lowest? p = some o) :
    o ∈ w.objects.values := by
  have hmem := List.mem_of_mem_head? h
  rw [List.mem_mergeSort] at hmem
  exact List.mem_of_mem_filter hmem

/-- **What a lock means by a name is live.** -/
theorem Sound.locate?_live (h : w.Sound) {name : List Char} {looker : Option Dbref} {o : Object}
    (ho : w.locate? name looker = some o) : w.Live o := by
  unfold locate? at ho
  dsimp only at ho
  split at ho
  · obtain ⟨d, -, hd⟩ := Option.bind_eq_some_iff.mp ho
    exact h.live_of_object? hd
  split at ho
  · obtain ⟨d, -, hd⟩ := Option.bind_eq_some_iff.mp ho
    exact h.live_of_object? hd
  -- The name of a player comes first, then what is at hand, then any object.
  simp only [Option.orElse_eq_orElse, Option.orElse_eq_or, Option.or_eq_some_iff] at ho
  rcases ho with ho | ⟨-, ho⟩
  · exact h.live_of_mem (lowest?_mem ho)
  rcases ho with ho | ⟨-, ho⟩
  · obtain ⟨l, -, hl⟩ := Option.bind_eq_some_iff.mp ho
    obtain ⟨d, -, hd⟩ := List.mem_filterMap.mp (List.mem_of_find?_eq_some hl)
    exact h.live_of_object? hd
  · exact h.live_of_mem (lowest?_mem ho)

end World

end Softcode
