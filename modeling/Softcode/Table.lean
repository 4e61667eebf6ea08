namespace Softcode

/-!
# Tables

A finite map as a list of its entries, in the order in which the keys were first inserted.  The
lemmas say what each operation does to look-ups.
-/

/-- A finite map from `κ` to `ν`. -/
structure Table (κ ν : Type) where
  entries : List (κ × ν) := []
deriving Repr, DecidableEq

namespace Table

variable {κ ν : Type} [DecidableEq κ]

/-- The empty table. -/
def empty : Table κ ν := ⟨[]⟩

instance : Inhabited (Table κ ν) := ⟨empty⟩

/-- The value at a key. -/
def find? (t : Table κ ν) (k : κ) : Option ν :=
  go t.entries
where
  /-- The value at the key among the entries. -/
  go : List (κ × ν) → Option ν
    | [] => none
    | e :: es => if e.1 = k then some e.2 else go es

/-- Is there an entry for the key? -/
def has (t : Table κ ν) (k : κ) : Bool :=
  (t.find? k).isSome

/-- Put a value at a key, in the place of the value there or else at the end. -/
def insert (t : Table κ ν) (k : κ) (v : ν) : Table κ ν :=
  ⟨go t.entries⟩
where
  /-- Put the value among the entries. -/
  go : List (κ × ν) → List (κ × ν)
    | [] => [(k, v)]
    | e :: es => if e.1 = k then (k, v) :: es else e :: go es

/-- The entries that pass a test. -/
def filter (t : Table κ ν) (p : κ → ν → Bool) : Table κ ν :=
  ⟨t.entries.filter fun e => p e.1 e.2⟩

/-- Remove the entry for a key. -/
def erase (t : Table κ ν) (k : κ) : Table κ ν :=
  t.filter fun k' _ => k' ≠ k

/-- Change the value at a key, if there is one. -/
def modify (t : Table κ ν) (k : κ) (f : ν → ν) : Table κ ν :=
  ⟨t.entries.map fun e => if e.1 = k then (e.1, f e.2) else e⟩

/-- The keys. -/
def keys (t : Table κ ν) : List κ :=
  t.entries.map (·.1)

/-- The values. -/
def values (t : Table κ ν) : List ν :=
  t.entries.map (·.2)

/-- The number of entries. -/
def size (t : Table κ ν) : Nat :=
  t.entries.length

/-- Is there no entry? -/
def isEmpty (t : Table κ ν) : Bool :=
  t.entries.isEmpty

/-! ### Look-ups -/

@[simp] theorem find?_empty (k : κ) : (empty : Table κ ν).find? k = none := rfl

theorem find?_insert (t : Table κ ν) (k k' : κ) (v : ν) :
    (t.insert k v).find? k' = if k' = k then some v else t.find? k' := by
  obtain ⟨es⟩ := t
  simp only [insert, find?]
  induction es with
  | nil => grind [insert.go, find?.go]
  | cons e es ih => grind [insert.go, find?.go]

/-- A test that looks at keys only keeps or removes all that a look-up could find. -/
theorem find?_filter (t : Table κ ν) (p : κ → Bool) (k : κ) :
    (t.filter fun k _ => p k).find? k = if p k then t.find? k else none := by
  obtain ⟨es⟩ := t
  simp only [filter, find?]
  induction es with
  | nil => simp [find?.go]
  | cons e es ih => by_cases h : p e.1 <;> grind [find?.go]

theorem find?_erase (t : Table κ ν) (k k' : κ) :
    (t.erase k).find? k' = if k' = k then none else t.find? k' := by
  rw [erase, find?_filter]
  by_cases h : k' = k <;> simp [h]

theorem find?_modify (t : Table κ ν) (k k' : κ) (f : ν → ν) :
    (t.modify k f).find? k' = if k' = k then (t.find? k').map f else t.find? k' := by
  obtain ⟨es⟩ := t
  simp only [modify, find?]
  induction es with
  | nil => simp [find?.go]
  | cons e es ih => by_cases h : e.1 = k <;> grind [find?.go]

end Table

end Softcode
