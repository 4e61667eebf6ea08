import Softcode.Command.Dispatch
import Softcode.Proofs.Styled.View
import Softcode.Proofs.Tree.Accounting

namespace Softcode

/-!
# Arguments as they are written

An argument that is not evaluated is taken from the source as it stands there, with its markup.
Only the braces around a group that is meant literally are left out.  `literalText` puts the
argument together from the pieces of its nodes, and since these account for every character, nothing
else can be missing:

* `Styled.viewWithout` — what a span of a text shows, without the characters at some offsets;
* `Tiles.view_literalText` — nodes that account for a span show all of it but the delimiters of the
  literal groups among them;
* `parse_covers_source` — so does each argument of a text that is read without an error.
-/

/-! ### Leaving characters out -/

namespace Styled

variable {s : Styled} {i j k : Nat} {holes : List Nat}

/-- What the text shows on a span, without the characters at the offsets `holes`. -/
def viewWithout (s : Styled) (span : Span) (holes : List Nat) : List (Char × List Markup) :=
  (((s.slice span.start span.stop).view.zipIdx span.start).filter (·.2 ∉ holes)).map (·.1)

/-- The offsets of a piece are those of its span. -/
private theorem offset_of_mem_zipIdx {x : (Char × List Markup) × Nat}
    (hx : x ∈ (s.slice i j).view.zipIdx i) :
    i ≤ x.2 ∧ x.2 < j := by
  have hle := List.le_snd_of_mem_zipIdx hx
  have hlt := List.snd_lt_of_mem_zipIdx hx
  rw [length_view, length_slice] at hlt
  omega

/-- A span can be cut in two. -/
private theorem viewWithout_append (hik : i ≤ k) (hkj : k ≤ j) (hj : j ≤ s.length) :
    s.viewWithout ⟨i, j⟩ holes = s.viewWithout ⟨i, k⟩ holes ++ s.viewWithout ⟨k, j⟩ holes := by
  have hoffset : i + (k - i) = k := by omega
  have hview : (s.slice i j).view = (s.slice i k).view ++ (s.slice k j).view := by
    have hcount : j - i = (k - i) + (j - k) := by omega
    simp only [view_slice, List.drop_take]
    -- The characters up to `j` are those up to `k` and then the rest.
    rw [hcount, List.take_add, List.drop_drop, hoffset]
  have hlength : (s.slice i k).view.length = k - i := by
    rw [length_view, length_slice, Nat.min_eq_left (hkj.trans hj)]
  simp only [viewWithout]
  rw [hview, List.zipIdx_append, hlength, hoffset, List.filter_append, List.map_append]

/-- Only the offsets inside the span matter. -/
private theorem viewWithout_congr {holes' : List Nat}
    (h : ∀ x, i ≤ x → x < j → (x ∈ holes ↔ x ∈ holes')) :
    s.viewWithout ⟨i, j⟩ holes = s.viewWithout ⟨i, j⟩ holes' := by
  unfold viewWithout
  refine congrArg (List.map _) (List.filter_congr ?_)
  intro x hx
  obtain ⟨hle, hlt⟩ := offset_of_mem_zipIdx hx
  simp only [h x.2 hle hlt]

/-- If nothing is left out, the piece shows all of the span. -/
private theorem viewWithout_nil (s : Styled) (span : Span) :
    s.viewWithout span [] = (s.slice span.start span.stop).view := by
  simp [viewWithout]

/-- Nothing is left of a character that is left out. -/
private theorem viewWithout_singleton (h : i ∈ holes) : s.viewWithout ⟨i, i + 1⟩ holes = [] := by
  rw [viewWithout, List.map_eq_nil_iff, List.filter_eq_nil_iff]
  intro x hx
  obtain ⟨hle, hlt⟩ : i ≤ x.2 ∧ x.2 < i + 1 := offset_of_mem_zipIdx hx
  have hoffset : x.2 = i := by omega
  simpa [hoffset] using h

/-- To leave out the first and the last character is to cut them off. -/
private theorem viewWithout_ends (hij : i + 1 ≤ j) (hj : j + 1 ≤ s.length) :
    s.viewWithout ⟨i, j + 1⟩ [i, j] = (s.slice (i + 1) j).view := by
  -- Between the two delimiters nothing is left out.
  have hinner : s.viewWithout ⟨i + 1, j⟩ [i, j] = s.viewWithout ⟨i + 1, j⟩ [] := by
    refine viewWithout_congr fun x hle hlt => ?_
    have hne : x ≠ i := by omega
    have hne' : x ≠ j := by omega
    simp [hne, hne']
  rw [viewWithout_append (k := i + 1) (by omega) (by omega) hj,
    viewWithout_append (k := j) hij (Nat.le_succ j) hj, viewWithout_singleton (by simp),
    viewWithout_singleton (by simp), hinner, viewWithout_nil, List.nil_append, List.append_nil]

end Styled

/-! ### Nodes as they are written -/

namespace Node

/-- The offsets of the two delimiters of a literal group. -/
def delimiters : Node → List Nat
  | .brace .literal _ span _ => [span.start, span.stop - 1]
  | _ => []

/-- The part of the source that is taken for a node which is not evaluated. -/
def kept : Node → Span
  | .brace .literal _ _ inner => inner
  | node => node.piece

variable {text : List Char} {node : Node} {source : Styled}

/-- The delimiters of a group lie in its piece. -/
private theorem delimiters_mem_piece (hpiece : node.piece.start < node.piece.stop) :
    ∀ x ∈ node.delimiters, node.piece.start ≤ x ∧ x < node.piece.stop := by
  intro x hx
  unfold delimiters at hx
  split at hx
  · simp only [piece, Node.span] at hpiece ⊢
    simp only [List.mem_cons, List.not_mem_nil, or_false] at hx
    omega
  · cases hx

/-- What is taken for a node is its piece without delimiters. -/
private theorem Accounted.view_kept (h : node.Accounted text true)
    (hstop : node.piece.stop ≤ source.length) :
    (source.slice node.kept.start node.kept.stop).view
      = source.viewWithout node.piece node.delimiters := by
  cases h with
  | text | escape | substitution | bracket | call => exact (Styled.viewWithout_nil source _).symm
  | @brace mode body span inner hopen hinner hbody hclose =>
    cases mode with
    | strip | keep => exact (Styled.viewWithout_nil source _).symm
    | literal =>
      obtain ⟨start, stop⟩ := span
      obtain ⟨innerStart, innerStop⟩ := inner
      obtain rfl : innerStart = start + 1 := hinner
      -- The text is whole, so a brace closes the group.
      obtain ⟨-, rfl⟩ | ⟨hwhole, -⟩ := hclose
      · exact (Styled.viewWithout_ends hbody.le hstop).symm
      · cases hwhole

end Node

section

variable {source : Styled} {nodes : List Node} {text : List Char} {i j : Nat}

/-- What an argument shows that is taken as it is written. -/
theorem view_literalText (hsource : source.WellFormed) (nodes : List Node) :
    (literalText source nodes).view
      = nodes.flatMap fun node => (source.slice node.kept.start node.kept.stop).view := by
  have hslice : literalText source nodes
      = .concat (nodes.map fun node => source.slice node.kept.start node.kept.stop) := by
    refine congrArg Styled.concat (List.map_congr_left fun node _ => ?_)
    cases node with
    | text | escape | substitution | call | bracket => rfl
    | brace mode => cases mode <;> rfl
  rw [hslice, Styled.view_concat, List.flatMap_map]
  intro x hx
  obtain ⟨node, -, rfl⟩ := List.mem_map.mp hx
  exact hsource.slice _ _

/-- Nodes from an offset on have no delimiters before it. -/
private theorem Tiles.le_delimiters {P : Node → Prop} (h : Tiles P i nodes j) :
    ∀ x ∈ nodes.flatMap Node.delimiters, i ≤ x := by
  induction h with
  | nil => simp
  | @cons node nodes i stop hnode hstart hpiece hnext hrest ih =>
    intro x hx
    rw [List.flatMap_cons, List.mem_append] at hx
    rcases hx with hx | hx
    · rw [← hstart] at hpiece ⊢
      exact (Node.delimiters_mem_piece hpiece x hx).1
    · exact hpiece.le.trans (ih x hx)

/-- **Nodes that account for a span show all of it**, but for the delimiters of literal groups. -/
theorem Tiles.view_literalText (h : Tiles (Node.Accounted text true) i nodes j)
    (hsource : source.WellFormed) (hj : j ≤ source.length) :
    (literalText source nodes).view
      = source.viewWithout ⟨i, j⟩ (nodes.flatMap Node.delimiters) := by
  rw [Softcode.view_literalText hsource]
  induction h with
  | nil i =>
    rw [List.flatMap_nil, List.flatMap_nil, Styled.viewWithout_nil, Styled.view_slice,
      List.drop_take, Nat.sub_self, List.take_zero]
  | @cons node nodes i stop hnode hstart hpiece hnext hrest ih =>
    subst hstart
    have hle := hrest.le
    -- The delimiters of the node lie in its piece, those of the other nodes behind it.
    have hfirst : source.viewWithout node.piece node.delimiters
        = source.viewWithout node.piece ((node :: nodes).flatMap Node.delimiters) := by
      refine Styled.viewWithout_congr fun x _ hlt => ?_
      rw [List.flatMap_cons, List.mem_append, iff_self_or]
      intro hx
      exact absurd (hrest.le_delimiters x hx) (Nat.not_le_of_lt hlt)
    have hothers : source.viewWithout ⟨node.piece.stop, stop⟩ (nodes.flatMap Node.delimiters)
        = source.viewWithout ⟨node.piece.stop, stop⟩ ((node :: nodes).flatMap Node.delimiters) := by
      refine Styled.viewWithout_congr fun x hge _ => ?_
      rw [List.flatMap_cons, List.mem_append, iff_or_self]
      intro hx
      exact absurd (Node.delimiters_mem_piece hpiece x hx).2 (Nat.not_lt_of_le hge)
    rw [List.flatMap_cons, hnode.view_kept (hle.trans hj), ih hj, hfirst, hothers]
    exact (Styled.viewWithout_append hpiece.le hle hj).symm

end

/-! ### Texts that are read without an error -/

/-- The arguments that a tree has at its top. -/
def Tree.arguments : Tree → List Argument
  | .expression body => [body]
  | .command _ | .commandList _ => []
  | .commaArgs args => args
  | .eqSplitArgs left right => left :: right.getD []
  | .eqSplitCommand left right => left :: right.toList

/-- If a tree accounts for a text, each argument at its top accounts for its span. -/
theorem Tree.Accounted.arguments {text : List Char} {whole : Bool} {rule : Rule} {tree : Tree}
    (h : tree.Accounted text whole rule) : ∀ a ∈ tree.arguments, a.Accounted text whole := by
  -- One case for each rule with the shape that it reads; no other shape accounts for a text.
  unfold Tree.Accounted at h
  split at h
  · simpa [Tree.arguments] using h.1
  · exact h.2.1
  · simpa [Tree.arguments] using h.1
  · exact List.forall_mem_cons.mpr ⟨h.1, h.2.2.1⟩
  · simpa [Tree.arguments] using h.1
  · simpa [Tree.arguments] using ⟨h.1, h.2.1⟩
  · exact h.elim

/-- **A text is all there in its tree.**  The pieces of the nodes lie one behind the other and cover
    the arguments, at every depth, and the arguments with their separators are the text.  So an
    argument of a text that is read without an error is taken as it is written, and all that is left
    out are the delimiters of the literal groups at its top. -/
theorem parse_covers_source {rule : Rule} (hrule : rule.readsCommands = false) (text : List Char) :
    (parse rule text).tree.Accounted text (parse rule text).isOk rule ∧
      ∀ source : Styled, source.WellFormed → source.chars = text → (parse rule text).isOk →
        ∀ a ∈ (parse rule text).tree.arguments,
          (literalText source a.nodes).view
            = source.viewWithout a.span (a.nodes.flatMap Node.delimiters) := by
  have haccounted := parse_accounted hrule text
  refine ⟨haccounted, ?_⟩
  intro source hsource hchars hok a ha
  rw [hok] at haccounted
  obtain ⟨hnodes, hstop⟩ := haccounted.arguments a ha
  refine hnodes.view_literalText hsource ?_
  rw [← hchars, ← source.length_eq] at hstop
  exact hstop

/-- Three arguments with an escaped separator, a call inside a group and separators inside groups.
    The braces go, and the red characters around the last comma stay red. -/
theorem groups_cover_source :
    let text := "me\\=%n\x7ba,b\x7d=\x7bsay [add(1, 2)]\x7dhi, \x7bx\x7d".toList
    let red := Markup.style { foreground := some .red }
    let source := (Styled.ofChars text).mark 29 33 red
    let read := parse .eqSplitArgs text
    source.WellFormed ∧ source.chars = text ∧ read.isOk ∧
      read.tree.Accounted text read.isOk .eqSplitArgs ∧
      read.tree.arguments.map (fun a => (literalText source a.nodes).chars)
        = ["me\\=%na,b".toList, "say [add(1, 2)]hi".toList, " x".toList] ∧
      read.tree.arguments.getLast?.map (fun a => (literalText source a.nodes).view)
        = some [(' ', [red]), ('x', [])] := by
  intro text red source read
  have hsource : source.WellFormed := (Styled.wellFormed_ofChars text).mark 29 33 red
  have hok : read.isOk := by decide +kernel
  have hrule : Rule.eqSplitArgs.readsCommands = false := rfl
  obtain ⟨haccounted, hview⟩ := parse_covers_source hrule text
  -- The texts are the spans without the braces around groups.
  have hchars : ∀ a ∈ read.tree.arguments, (literalText source a.nodes).chars
      = (source.viewWithout a.span (a.nodes.flatMap Node.delimiters)).map Prod.fst := by
    intro a ha
    rw [← Styled.map_fst_view, hview source hsource rfl hok a ha]
  refine ⟨hsource, rfl, hok, haccounted, ?_, by decide +kernel⟩
  rw [List.map_congr_left hchars]
  decide +kernel

end Softcode
