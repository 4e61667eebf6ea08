import Softcode.Proofs.Pattern.GlobMeaning

namespace Softcode

/-!
# Command patterns as regular expressions

In a command pattern each wildcard is a group of its own, and the groups are numbered in order.  A
star is lazy: it takes no more than it has to.

* `Glob.captureRegex` — the expression of a command pattern;
* `Regex.Reader.run_captures` — its items are read one after another, and each wildcard opens a
  group;
* `Regex.read?_capturing` — hence the text of a command pattern is read as this expression.
-/

/-! ### The expressions of items -/

namespace Glob

/-- Does the item capture what it stands for? -/
def captures : GlobItem → Bool
  | .char _ => false
  | _ => true

/-- An item stands for a character or captures something. -/
@[elab_as_elim]
theorem captureCases {motive : GlobItem → Prop} (char : ∀ c, motive (.char c))
    (wild : ∀ item, captures item = true → motive item) (item : GlobItem) : motive item := by
  cases item with
  | char c => exact char c
  | one | run | deepRun => exact wild _ rfl

/-- The number of items that capture something. -/
def captureCount (items : List GlobItem) : Nat := items.countP captures

/-- A wildcard is one more of them. -/
theorem captureCount_cons {item : GlobItem} (h : captures item = true) (items : List GlobItem) :
    captureCount (item :: items) = captureCount items + 1 :=
  List.countP_cons_of_pos h

/-- The expression of what an item captures. -/
def wildRegex : GlobItem → Regex
  | .one => .cls .any
  | _ => .rep 0 none false (.cls .any)

/-- The expressions of the items of a command pattern, if `n` groups stand before them. -/
def captureRegexes (fold : Bool) (n : Nat) : List GlobItem → List Regex
  | [] => []
  | .char c :: items => .cls (if fold then .like c else .char c) :: captureRegexes fold n items
  | item :: items => .group (n + 1) (wildRegex item) :: captureRegexes fold (n + 1) items

/-- All wildcards become groups. -/
theorem captureRegexes_wild {item : GlobItem} (hitem : captures item = true) (fold : Bool) (n : Nat)
    (items : List GlobItem) :
    captureRegexes fold n (item :: items) =
      .group (n + 1) (wildRegex item) :: captureRegexes fold (n + 1) items := by
  cases item with
  | char c => cases hitem
  | one | run | deepRun => rfl

/-- The expression of a command pattern. -/
def captureRegex (fold : Bool) (glob : List Char) : Regex :=
  .sequence (.look .start :: captureRegexes fold 0 (GlobItem.read .capturing glob) ++ [.look .stop])

/-- Command patterns know no segments. -/
private theorem deepRun_notMem_read (glob : List Char) :
    .deepRun ∉ GlobItem.read .capturing glob := by
  generalize hstyle : GlobStyle.capturing = style
  fun_induction GlobItem.read style glob with
  | case5 _ hname => exact absurd (hstyle.trans hname) (by decide)
  | _ => simp_all

end Glob

/-! ### Reading them -/

namespace Regex.Reader

variable {r : Reader} {fold : Bool}

/-- A group has been read, with one expression in it. -/
def capture (r : Reader) (x : Regex) (n : Nat) : Reader :=
  { r with draft := r.draft.push (.group (r.groups + 1) x) (n + 1), groups := r.groups + 1 }

/-- What stands in parentheses is captured. -/
private theorem run_capture (hflags : r.flags = globFlags fold) (body : List Char) {x : Regex}
    {n : Nat} (hhead : (body ++ [')']).head? ≠ some '?')
    (hbody : ∀ (q : Reader) (cs : List Char), q.flags = globFlags fold →
      q.run (body ++ cs) = (q.push x n).run cs) (cs : List Char) :
    r.run ('(' :: body ++ ')' :: cs) = (r.capture x n).run cs := by
  -- No question mark follows the parenthesis, so it opens a group of its own.
  have hopen : r.step '(' (body ++ ')' :: cs) = some (r.openCapture [], body ++ ')' :: cs) := by
    have hmark : ∀ rest, body ++ ')' :: cs ≠ '?' :: rest := by
      intro rest hrest
      refine hhead ?_
      cases body with
      | nil => cases hrest
      | cons c body =>
        rw [List.cons_append, List.cons.injEq] at hrest
        rw [hrest.1]
        rfl
    have hskip : r.flags.skip (body ++ ')' :: cs) = body ++ ')' :: cs := by
      simp only [Flags.skip, verbose_of_flags hflags, Bool.false_eq_true, if_false]
    show r.openGroup (body ++ ')' :: cs) = _
    rw [openGroup, hskip]
    split
    any_goals exact absurd ‹body ++ ')' :: cs = _› (hmark _)
    rfl
  have hclose : ((r.openCapture []).push x n).step ')' cs = some (r.capture x n, cs) := by
    simp [step, closeGroup, openCapture, push, capture, Draft.push, Draft.regex, Draft.branch,
      sequence, choice, Piece.regex?, Draft.nesting, Draft.branchNesting, Piece.nesting]
  have hinside : (r.openCapture []).flags = globFlags fold := hflags
  have hpushed : ((r.openCapture []).push x n).flags = globFlags fold := hflags
  rw [List.cons_append, run_cons (verbose_of_flags hflags) hopen (Nat.le_refl _), hbody _ _ hinside,
    run_cons (verbose_of_flags hpushed) hclose (Nat.le_refl _)]

/-- A lazy repetition of a class. -/
private theorem run_lazyStar (hflags : r.flags = globFlags fold) (k : CharClass) (cs : List Char) :
    (r.push (.cls k)).run ('*' :: '?' :: cs) = (r.push (.rep 0 none false (.cls k)) 1).run cs := by
  refine run_cons (verbose_of_flags hflags) ?_ (by simp)
  simp [step, repeatLast, push, Draft.push, Draft.repeatLast?, hflags, globFlags, repeated,
    takesNone]

/-- The items of a command pattern are read one after another. -/
theorem run_captures (hflags : r.flags = globFlags fold) (items : List GlobItem)
    (hitems : .deepRun ∉ items) (cs : List Char) :
    ∃ pieces, Holds pieces (Glob.captureRegexes fold r.groups items) ∧
      r.run (items.flatMap (GlobItem.source .capturing) ++ cs) =
        (r.readOn pieces (Glob.captureCount items)).run cs := by
  induction items generalizing r with
  | nil => exact ⟨[], ⟨rfl, by simp⟩, rfl⟩
  | cons item items ih =>
    rw [List.mem_cons, not_or] at hitems
    obtain ⟨hitem, hitems⟩ := hitems
    rw [List.flatMap_cons, List.append_assoc]
    -- A wildcard adds a group and what is captured in it.
    have hwild : ∀ (x : Regex) (n : Nat), n ≤ 1 → ∃ pieces,
        Holds pieces (.group (r.groups + 1) x :: Glob.captureRegexes fold (r.groups + 1) items) ∧
        (r.capture x n).run (items.flatMap (GlobItem.source .capturing) ++ cs) =
          (r.readOn pieces (Glob.captureCount items + 1)).run cs := by
      intro x n hn
      obtain ⟨pieces, hpieces, hrun⟩ := ih (r := r.capture x n) hflags hitems
      refine ⟨_, hpieces.cons (.group (r.groups + 1) x) (Nat.succ_le_succ hn), ?_⟩
      rw [hrun]
      simp [readOn, capture, Draft.push, Nat.add_assoc, Nat.add_comm 1]
    cases item with
    | char c =>
      obtain ⟨pieces, hpieces, hrun⟩ :=
        ih (r := r.push (.cls (if fold then .like c else .char c)) 0)
        hflags hitems
      refine ⟨_, hpieces.cons (.cls (if fold then .like c else .char c)) (Nat.zero_le 2), ?_⟩
      refine (run_quote hflags c _).trans (hrun.trans (congrArg (run · cs) ?_))
      simp [readOn, push, Draft.push, Glob.captureCount, Glob.captures]
    | one =>
      obtain ⟨pieces, hpieces, hrun⟩ := hwild (.cls .any) 0 (Nat.zero_le 1)
      rw [Glob.captureRegexes_wild rfl, Glob.captureCount_cons rfl]
      refine ⟨pieces, hpieces, ?_⟩
      exact (run_capture hflags ['.'] (by simp) (fun q cs hq => run_dot hq cs) _).trans hrun
    | run =>
      have hlazy (q : Reader) (cs : List Char) (hq : q.flags = globFlags fold) :
          q.run (['.', '*', '?'] ++ cs) = (q.push (.rep 0 none false (.cls .any)) 1).run cs :=
        (run_dot hq _).trans (run_lazyStar hq _ _)
      obtain ⟨pieces, hpieces, hrun⟩ := hwild (.rep 0 none false (.cls .any)) 1 (Nat.le_refl 1)
      rw [Glob.captureRegexes_wild rfl, Glob.captureCount_cons rfl]
      refine ⟨pieces, hpieces, ?_⟩
      exact (run_capture hflags ['.', '*', '?'] (by simp) hlazy _).trans hrun
    | deepRun => exact absurd rfl hitem

end Regex.Reader

/-- **A command pattern is read as the expressions of its items**, between the ends of the text. -/
theorem Regex.read?_capturing (caseSensitive : Bool) (glob : List Char) :
    read? { fold := !caseSensitive } (globSource .capturing caseSensitive glob) =
      some (Glob.captureRegex (!caseSensitive) glob, []) := by
  let items := GlobItem.read .capturing glob
  let start : Reader :=
    { flags := globFlags (!caseSensitive)
      draft := { pieces := [.item (.look .start) 0, .setting] } }
  obtain ⟨pieces, hpieces, hrun⟩ :=
    Reader.run_captures (r := start) rfl items (Glob.deepRun_notMem_read glob) ['$']
  refine read?_of_run (r := start) (Glob.captureCount items) ?_ hpieces rfl rfl
  rw [globSource, List.append_assoc, Reader.run_start, hrun, Reader.run_stop rfl]

end Softcode
