import Softcode.Function.Standard
import Softcode.Proofs.Styled.Cutting
import Softcode.Proofs.Text.Runs

namespace Softcode

/-!
# Texts without their markup

Every operation on styled texts commutes with erasure: to drop the markup of what is cut, joined or
changed is to drop it first.  So what a function makes of the values of its arguments has the same
characters with and without markup.
-/

namespace Styled

variable (s t : Styled)

/-! ### Cutting and joining -/

@[simp] theorem chars_erase : s.erase.chars = s.chars := rfl

@[simp] theorem length_erase : s.erase.length = s.length := rfl

/-- A plain text has no markup. -/
@[simp] theorem erase_ofString (text : String) : (ofString text).erase = ofString text := rfl

@[simp] private theorem erase_append : (s ++ t).erase = s.erase ++ t.erase := rfl

@[simp] theorem erase_upper : s.upper.erase = s.erase.upper := rfl

@[simp] theorem erase_lower : s.lower.erase = s.erase.lower := rfl

@[simp] theorem erase_slice (start stop : Nat) :
    (s.slice start stop).erase = s.erase.slice start stop := by
  rw [slice_eq, slice_eq, length_erase]
  split <;> rfl

@[simp] theorem erase_trim : s.trim.erase = s.erase.trim := erase_slice s _ _

/-- The pieces are cut at the same characters. -/
private theorem map_erase_piecesFrom (d : Char) (start i : Nat) (cs : List Char) :
    (s.piecesFrom d start i cs).map erase = s.erase.piecesFrom d start i cs := by
  induction cs generalizing start i with
  | nil => rw [piecesFrom, piecesFrom, List.map_singleton, erase_slice]
  | cons c cs ih =>
    rw [piecesFrom, piecesFrom]
    -- Pieces are cut at characters, which erasing keeps.
    split
    · rw [List.map_cons, erase_slice, ih]
    · exact ih start (i + 1)

@[simp] private theorem map_erase_split (d : Char) : (s.split d).map erase = s.erase.split d := by
  rw [split_eq, split_eq]
  exact s.map_erase_piecesFrom d 0 0 s.chars

/-- What each step commutes with, all steps do. -/
private theorem erase_foldl {f g : Styled → Styled → Styled}
    (h : ∀ a b, (f a b).erase = g a.erase b.erase) (items : List Styled) (done : Styled) :
    (items.foldl f done).erase = (items.map erase).foldl g done.erase := by
  induction items generalizing done with
  | nil => rfl
  | cons item items ih => rw [List.foldl_cons, List.map_cons, List.foldl_cons, ih, h]

/-- Putting texts together commutes with erasure. -/
@[simp] theorem erase_concat (items : List Styled) :
    (concat items).erase = concat (items.map erase) :=
  erase_foldl erase_append items empty

@[simp] theorem erase_join (separator : Styled) (items : List Styled) :
    (join separator items).erase = join separator.erase (items.map erase) := by
  cases items with
  | nil => rfl
  | cons item items => exact erase_foldl (fun _ _ => rfl) items (empty ++ item)

end Styled

/-! ### Lists -/

@[simp] private theorem delimiter?_map_erase (s : Option Styled) :
    delimiter? (s.map Styled.erase) = delimiter? s := by
  cases s <;> rfl

/-- Elements are told apart by characters. -/
theorem map_erase_elements (list : Styled) (delimiter : Option Char) :
    (elements list delimiter).map Styled.erase = elements list.erase delimiter := by
  unfold elements
  split
  · exact list.map_erase_split _
  · have hempty : (fun word : Styled => !word.isEmpty) ∘ Styled.erase = fun word => !word.isEmpty :=
      rfl
    rw [← Styled.erase_trim, ← Styled.map_erase_split, List.filter_map, hempty]

/-- The elements that are given to a function are told apart by characters. -/
private theorem map_erase_givenElements (values : List Styled) :
    (givenElements values).map Styled.erase = givenElements (values.map Styled.erase) := by
  unfold givenElements
  rw [List.getElem?_map, List.getElem?_map, delimiter?_map_erase]
  cases values[0]? with
  | none => rfl
  | some list => exact map_erase_elements list _

/-! ### Functions of values -/

/-- Does the function of values give the same with and without their markup, up to markup? -/
def Inert (f : List Styled → Styled) : Prop :=
  ∀ values, f (values.map Styled.erase) = (f values).erase

/-- Numbers are written in characters. -/
private theorem mapM_number?_erase (values : List Styled) :
    (values.map Styled.erase).mapM number? = values.mapM number? := by
  induction values with
  | nil => rfl
  | cons value values ih =>
    rw [List.map_cons, List.mapM_cons, List.mapM_cons, ih]
    rfl

/-- What depends on the numbers that texts write, and gives text without markup, is inert. -/
theorem inert_ofNumbers {f : List Float → Styled} (hf : ∀ xs, (f xs).erase = f xs) :
    Inert (ofNumbers f) := by
  intro values
  unfold ofNumbers
  rw [mapM_number?_erase]
  split
  · exact (hf _).symm
  · rfl

/-- What depends on two numbers is inert. -/
theorem inert_ofTwoNumbers {f : Float → Float → Styled} (hf : ∀ a b, (f a b).erase = f a b) :
    Inert (ofTwoNumbers f) := by
  refine inert_ofNumbers fun xs => ?_
  split
  · exact hf _ _
  · rfl

/-- What depends on whole numbers is inert. -/
theorem inert_ofIntegers (f : Int → Int → Int) : Inert (ofIntegers f) := by
  intro values
  -- Only two values are calculated with, and they are read from their characters.
  match values with
  | [] => rfl
  | [_] => rfl
  | [a, b] =>
    simp only [ofIntegers, List.map_cons, List.map_nil, Styled.chars_erase]
    split <;> rfl
  | _ :: _ :: _ :: _ => rfl

/-- What counts as true is told by the characters. -/
theorem any_isTrue_head_erase (values : List Styled) :
    ((values.map Styled.erase)[0]?).any isTrue = (values[0]?).any isTrue := by
  cases values <;> rfl

/-- Texts are put together with their markup. -/
theorem inert_concat : Inert Styled.concat := fun values => (Styled.erase_concat values).symm

theorem inert_join (separator : String) : Inert (Styled.join (.ofString separator)) :=
  fun values => (Styled.erase_join (.ofString separator) values).symm

/-- The first element keeps its markup. -/
theorem inert_firstElement : Inert fun values => (givenElements values).headD {} := by
  intro values
  dsimp only
  rw [← map_erase_givenElements]
  cases givenElements values <;> rfl

/-- The elements behind the first keep their markup. -/
theorem inert_otherElements : Inert fun values =>
    .join (separator (delimiter? values[1]?)) ((givenElements values).drop 1) := by
  intro values
  dsimp only
  rw [← map_erase_givenElements, List.getElem?_map, delimiter?_map_erase, Styled.erase_join,
    List.map_drop]
  rfl

/-- Elements are counted. -/
theorem inert_countElements : Inert fun values =>
    .ofChars (Number.natText (givenElements values).length) := by
  intro values
  dsimp only
  rw [← map_erase_givenElements, List.length_map]
  rfl

/-- A function of the first value only. -/
theorem inert_head {f : Styled → Styled} (hf : ∀ s, f s.erase = (f s).erase) :
    Inert fun values => f (values.headD .empty) := by
  intro values
  cases values with
  | nil => exact hf .empty
  | cons value values => exact hf value

end Softcode
