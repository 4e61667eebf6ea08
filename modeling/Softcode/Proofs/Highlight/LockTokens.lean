import Softcode.Highlight.Lock
import Softcode.Proofs.Lock.ExprText
import Softcode.Proofs.Lock.KeyLocality

namespace Softcode

/-!
# Tokens of a lock and its tree

A lock is shown without being read.  The scanner of its tokens and the reader of its tree each have
their own idea of blanks and of where a key ends.  Still, of every text that the reader accepts they
see the same: the tokens, one after the other, are the signs and the keys of the tree from left to
right.

* `LockExpr.marks` — the signs and keys of a tree, from left to right;
* `LockExpr.key_token` — the token of a key is that key alone, and ends where the reader goes on;
* `LockExpr.scan_stands` — the tokens of a lock are those of its tree;
* `LockExpr.tokens_of_read` — hence what kinds of tokens there are, and how many.
-/

/-- What a token of a lock stands for. -/
inductive LockMark where
  | sign (c : Char)
  | key (k : Key)
deriving Repr, DecidableEq

/-- The key that a token stands for, if it stands for one. -/
def LockMark.key? : LockMark → Option Key
  | sign _ => none
  | key k => some k

namespace LockExpr

/-- The signs and the keys of a lock, from left to right. -/
def marks : LockExpr → List LockMark
  | or a b => a.marks ++ .sign '|' :: b.marks
  | and a b => a.marks ++ .sign '&' :: b.marks
  | not a => .sign '!' :: a.marks
  | group a => .sign '(' :: (a.marks ++ [.sign ')'])
  | key k => [.key k]

/-- The lock and all the locks in it. -/
def nodes : LockExpr → List LockExpr
  | or a b => or a b :: (a.nodes ++ b.nodes)
  | and a b => and a b :: (a.nodes ++ b.nodes)
  | not a => not a :: a.nodes
  | group a => group a :: a.nodes
  | key k => [key k]

/-- The sign that a lock is made with, if it is not a key; of the parentheses, the first one. -/
def sign? : LockExpr → Option Char
  | or _ _ => some '|'
  | and _ _ => some '&'
  | not _ => some '!'
  | group _ => some '('
  | key _ => none

end LockExpr

/-- Does the token stand for a sign, or for a key that is read from its text alone? -/
def LockToken.Stands (text : List Char) (token : LockToken) : LockMark → Prop
  | .sign c =>
    token.kind = (if c = '(' ∨ c = ')' then .paren else .operator) ∧ token.span.of text = [c]
  | .key k => token.kind = .key ∧ LockExpr.read (token.span.of text) = .ok (.key k)

/-! ### What has been read so far -/

namespace Pending

/-- The signs and keys to the left of an operand and its negations. -/
def left (p : Pending) : List LockMark :=
  p.ors.elim [] (·.marks ++ [.sign '|']) ++ p.ands.elim [] (·.marks ++ [.sign '&'])

/-- The signs and keys to the left of an operand. -/
def marks (p : Pending) : List LockMark := p.left ++ List.replicate p.nots (.sign '!')

/-- The signs and keys to the left of the innermost open parenthesis, and that parenthesis. -/
def marksAround : List Pending → List LockMark
  | [] => []
  | p :: outer => marksAround outer ++ p.marks ++ [.sign '(']

variable (p : Pending) (e : LockExpr)

private theorem marks_negate :
    (p.negate e).marks = List.replicate p.nots (.sign '!') ++ e.marks := by
  unfold negate
  induction p.nots with
  | zero => rfl
  | succ n ih => rw [Nat.repeat, LockExpr.marks, ih, List.replicate_succ, List.cons_append]

/-- An operand behind the conjunction that it belongs to. -/
private theorem marks_conjunction :
    (p.conjunction e).marks = p.ands.elim [] (·.marks ++ [.sign '&']) ++ e.marks := by
  unfold conjunction
  cases p.ands <;> simp [LockExpr.marks]

/-- An operand behind all that is to the left of it. -/
private theorem marks_disjunction : (p.disjunction e).marks = p.left ++ e.marks := by
  unfold disjunction left
  cases p.ors with
  | none => exact marks_conjunction p e
  | some a => simp [LockExpr.marks, marks_conjunction]

end Pending

namespace LockExpr

/-- The signs and keys that the reader has come across. -/
def marksRead (p : Pending) (outer : List Pending) : Option LockExpr → List LockMark
  | none => Pending.marksAround outer ++ p.marks
  | some x => Pending.marksAround outer ++ (p.left ++ x.marks)

/-! ### Where keys end -/

variable {p : Pending} {outer : List Pending} {operand : Option LockExpr} {text cs rest : List Char}
  {c : Char} {e : LockExpr} {k : Key} {n start : Nat}

/-- Behind an operand, the reader goes on only if blanks and then an operator or the end follow. -/
private theorem ends_of_readFrom {x : LockExpr} (h : readFrom p outer (some x) cs = .ok e) :
    Key.Ends cs := by
  induction cs with
  | nil => simp [Key.Ends]
  | cons c cs ih =>
    by_cases hgap : isGap c
    · rw [readFrom_gap hgap] at h
      exact ends_gap hgap (ih h)
    · refine ends_operator (Key.isOperator_iff.mpr ?_)
      rw [readFrom.eq_def] at h
      simp only [hgap, Bool.false_eq_true, if_false] at h
      -- Behind an operand the reader goes on only at an operator that it knows.
      split at h
      · exact .inl ‹_›
      split at h
      · exact .inr (.inl ‹_›)
      split at h
      · split at h
        · exact .inr (.inr (.inr ‹_›))
        · cases h
      · cases h

/-- Before the next operator, only what the reader skips can follow a key. -/
private theorem isGap_of_ends {run : List Char} (hrun : ∀ d ∈ run, Key.isOperator d = false)
    (h : Key.Ends (run ++ rest)) : ∀ d ∈ run, isGap d := by
  induction run with
  | nil => simp
  | cons d run ih =>
    obtain ⟨hd, hrun⟩ := List.forall_mem_cons.mp hrun
    have hgap : isGap d := by
      rcases h.head d rfl with hgap | hop
      · exact hgap
      · rw [hd] at hop
        cases hop
    rw [List.cons_append, Key.Ends, List.dropWhile_cons_of_pos hgap] at h
    exact List.forall_mem_cons.mpr ⟨hgap, ih hrun h⟩

/-- Blanks give no tokens. -/
private theorem scanFrom_blanks {blanks : List Char} (hblanks : ∀ d ∈ blanks, Text.isBlank d)
    (start : Nat) :
    LockToken.scanFrom start (blanks ++ rest)
      = LockToken.scanFrom (start + blanks.length) rest := by
  induction blanks generalizing start with
  | nil => rfl
  | cons d blanks ih =>
    obtain ⟨hd, hblanks⟩ := List.forall_mem_cons.mp hblanks
    rw [List.cons_append, LockToken.scanFrom, if_pos hd, ih hblanks, List.length_cons,
      Nat.add_assoc, Nat.add_comm 1]

/-- A text that does not begin with a blank, cut before the blanks at its end. -/
private theorem exists_trimmed (hblank : Text.isBlank c = false) (run : List Char) :
    ∃ body gap, run = body ++ gap ∧ (∀ d ∈ gap, Text.isBlank d) ∧
      Text.dropRightWhile Text.isBlank (c :: run) = c :: body ∧
      ∀ init d, body = init ++ [d] → Text.isBlank d = false := by
  -- The blanks to cut off are at the end, so the induction is from there.
  induction run using List.reverseRecOn with
  | nil =>
    refine ⟨[], [], rfl, by simp, ?_, by simp⟩
    exact List.rdropWhile_concat_neg Text.isBlank [] c (by rw [hblank]; exact Bool.noConfusion)
  | append_singleton run d ih =>
    rw [← List.cons_append, Text.dropRightWhile_eq_rdropWhile]
    by_cases hd : Text.isBlank d
    · obtain ⟨body, gap, rfl, hgap, htrim, hlast⟩ := ih
      refine ⟨body, gap ++ [d], List.append_assoc .., ?_, ?_, hlast⟩
      · simpa [or_imp, forall_and] using ⟨hgap, hd⟩
      · rw [List.rdropWhile_concat_pos _ _ _ hd]
        exact htrim
    · refine ⟨run ++ [d], [], (List.append_nil _).symm, by simp,
        List.rdropWhile_concat_neg _ _ _ hd, ?_⟩
      intro init d' heq
      obtain ⟨-, heq⟩ := List.append_inj' heq rfl
      rw [← List.singleton_inj.mp heq]
      exact Bool.eq_false_of_not_eq_true hd

/-- Of a text that does not end with a blank, nothing is left where only gaps are left. -/
private theorem length_le_of_isGap {body gap : List Char}
    (hlast : ∀ init d, body = init ++ [d] → Text.isBlank d = false)
    (hleft : ∀ d ∈ (body ++ gap).drop n, isGap d) : body.length ≤ n := by
  rcases List.eq_nil_or_concat' body with rfl | ⟨init, d, rfl⟩
  · exact Nat.zero_le _
  · by_contra hlt
    rw [List.length_append, List.length_singleton] at hlt
    have hmem : d ∈ (init ++ [d] ++ gap).drop n := by
      rw [List.append_assoc, List.drop_append_of_le_length (by omega)]
      simp
    have hd := hlast init d rfl
    rw [Key.isBlank_of_isGap (hleft d hmem)] at hd
    cases hd

/-- A text of which nothing is left behind a key is that key. -/
private theorem read_eq_key (hread : Key.read (c :: cs) = some (k, n)) (hall : cs.length ≤ n - 1)
    (hbang : c ≠ '!') (hopen : c ≠ '(') : read (c :: cs) = .ok (.key k) := by
  have hgap : isGap c = false := by
    by_contra hgap
    have hblank := (Key.not_closes_of_read hread).1
    rw [Key.isBlank_of_isGap (Bool.eq_true_of_not_eq_false hgap)] at hblank
    cases hblank
  rw [read, readFrom.eq_def]
  simp only [hgap, Bool.false_eq_true, if_false, hbang, hopen, hread, List.drop_eq_nil_iff.mpr hall]
  rw [readFrom.eq_def]
  rfl

/-- **The token of a key is that key alone,** and behind it the scanner and the reader skip the same
    blanks.  The key begins with `c`, the characters `run` stand between that and the next operator,
    and the reader takes `n` characters and finds the end of a key there. -/
theorem key_token {run : List Char} (hread : Key.read (c :: (run ++ rest)) = some (k, n))
    (hrun : ∀ d ∈ run, Key.isOperator d = false) (hrest : ∀ d ∈ rest.head?, Key.isOperator d)
    (hends : Key.Ends ((run ++ rest).drop (n - 1))) (hbang : c ≠ '!') (hopen : c ≠ '(') :
    read (Text.dropRightWhile Text.isBlank (c :: run)) = .ok (.key k) ∧
      ∀ start, LockToken.scanFrom (start + (n - 1)) ((run ++ rest).drop (n - 1)) =
        LockToken.scanFrom (start + run.length) rest := by
  obtain ⟨body, gap, rfl, hgap, htrim, hlast⟩ := exists_trimmed (Key.not_closes_of_read hread).1 run
  -- Read from the token alone, the key is the same.
  obtain ⟨hlocal, hle⟩ := Key.local_read ⟨hgap, hrest⟩ (c :: body)
  rw [List.cons_append, ← List.append_assoc] at hlocal hle
  rw [hread, Option.map_some, List.length_cons] at hlocal
  have hn : n ≤ body.length + 1 + gap.length := hle _ hread
  -- What the reader does not take of the token and the blanks behind it is skipped, and is nothing
  -- of the token.
  have hinside : n - 1 ≤ (body ++ gap).length := by
    rw [List.length_append]
    omega
  have hdrop : (body ++ gap ++ rest).drop (n - 1) = (body ++ gap).drop (n - 1) ++ rest :=
    List.drop_append_of_le_length hinside
  rw [hdrop] at hends
  have hskipped := isGap_of_ends (fun d hd => hrun d (List.mem_of_mem_drop hd)) hends
  have htaken := length_le_of_isGap hlast hskipped
  refine ⟨?_, fun start => ?_⟩
  · rw [htrim]
    exact read_eq_key hlocal (by omega) hbang hopen
  · rw [hdrop, scanFrom_blanks fun d hd => Key.isBlank_of_isGap (hskipped d hd), List.length_drop]
    congr 1
    omega

/-! ### The tokens of a lock -/

/-- The token of a sign, and the tokens behind it. -/
private theorem stands_sign {ms : List LockMark} (hc : c ∈ ['&', '|', '!', '(', ')'])
    (htext : text.drop start = c :: cs)
    (h : List.Forall₂ (LockToken.Stands text) (LockToken.scanFrom (start + 1) cs) ms) :
    List.Forall₂ (LockToken.Stands text) (LockToken.scanFrom start (c :: cs)) (.sign c :: ms) := by
  have hdrop : text.drop start = [c] ++ cs := htext
  have hspan : Span.of ⟨start, start + 1⟩ text = [c] := Span.of_drop hdrop
  rw [LockToken.scanFrom]
  simp only [List.mem_cons, List.not_mem_nil, or_false] at hc
  rcases hc with rfl | rfl | rfl | rfl | rfl <;> exact .cons ⟨rfl, hspan⟩ h

/-- The token of a key that the reader reads, and the tokens behind it. -/
private theorem scanFrom_key (hread : Key.read (c :: cs) = some (k, n))
    (hends : Key.Ends (cs.drop (n - 1))) (hbang : c ≠ '!') (hopen : c ≠ '(')
    (htext : text.drop start = c :: cs) :
    ∃ token, token.Stands text (.key k) ∧ LockToken.scanFrom start (c :: cs) =
      token :: LockToken.scanFrom (start + 1 + (n - 1)) (cs.drop (n - 1)) := by
  obtain ⟨hblank, hoperator⟩ := Key.not_closes_of_read hread
  have hsigns : c ≠ '&' ∧ c ≠ '|' ∧ c ≠ ')' := by
    refine ⟨?_, ?_, ?_⟩ <;> (rintro rfl; cases hoperator)
  -- Cut the text at the next operator.
  have hcut : cs.takeWhile (!Key.isOperator ·) ++ cs.dropWhile (!Key.isOperator ·) = cs :=
    List.takeWhile_append_dropWhile
  have hrun : ∀ d ∈ cs.takeWhile (!Key.isOperator ·), Key.isOperator d = false := fun d hd => by
    simpa using Text.mem_takeWhile hd
  have hrest : ∀ d ∈ (cs.dropWhile (!Key.isOperator ·)).head?, Key.isOperator d := fun d hd => by
    have hnot := List.head?_dropWhile_not (!Key.isOperator ·) cs
    rw [Option.mem_def.mp hd] at hnot
    simpa using hnot
  obtain ⟨hkey, hscan⟩ := key_token (hcut.symm ▸ hread) hrun hrest (hcut.symm ▸ hends) hbang hopen
  rw [hcut] at hscan
  have htake : cs.take (cs.takeWhile (!Key.isOperator ·)).length
      = cs.takeWhile (!Key.isOperator ·) :=
    (List.prefix_iff_eq_take.mp (List.takeWhile_prefix _)).symm
  obtain ⟨behind, hbehind⟩ : Text.dropRightWhile Text.isBlank
    (c :: cs.takeWhile (!Key.isOperator ·)) <+: c :: cs :=
    (List.rdropWhile_prefix Text.isBlank _).trans
      (List.prefix_cons_inj c |>.mpr (List.takeWhile_prefix _))
  refine ⟨⟨.key, ⟨start, start + (Text.dropRightWhile Text.isBlank
    (c :: cs.takeWhile (!Key.isOperator ·))).length⟩⟩, ⟨rfl, ?_⟩, ?_⟩
  · rw [Span.of_drop (htext.trans hbehind.symm), hkey]
  · rw [hscan, LockToken.scanFrom]
    simp only [hblank, hsigns, hbang, hopen, decide_false, Bool.or_self, Bool.false_eq_true,
      if_false, htake, Text.drop_length_takeWhile]

/-- **What the reader has come across and the tokens that are left make up the lock.** -/
theorem readFrom_stands (text : List Char) (p : Pending) (outer : List Pending)
    (operand : Option LockExpr) (cs : List Char) {e : LockExpr}
    (h : readFrom p outer operand cs = .ok e) {start : Nat} (htext : text.drop start = cs) :
    ∃ ms, e.marks = marksRead p outer operand ++ ms ∧
      List.Forall₂ (LockToken.Stands text) (LockToken.scanFrom start cs) ms := by
  -- What follows one more character of the text.
  have hnext : ∀ {start : Nat} {c : Char} {cs : List Char}, text.drop start = c :: cs →
      text.drop (start + 1) = cs := fun hc => by rw [← List.drop_drop, hc]; rfl
  -- One case for each thing that the reader can do.  Those that fail are the last ones here.
  fun_induction readFrom p outer operand cs generalizing start with
  | case1 p x =>
    obtain rfl := Except.ok.inj h
    refine ⟨[], ?_, ?_⟩
    · rw [Pending.marks_disjunction, marksRead, Pending.marksAround, List.nil_append,
        List.append_nil]
    · rw [LockToken.scanFrom]
      exact .nil
  | case3 p outer operand c cs hgap ih =>
    obtain ⟨ms, hmarks, hstands⟩ := ih h (hnext htext)
    refine ⟨ms, hmarks, ?_⟩
    rwa [LockToken.scanFrom, if_pos (Key.isBlank_of_isGap hgap)]
  | case4 p outer cs _ ih =>
    obtain ⟨ms, hmarks, hstands⟩ := ih h (hnext htext)
    refine ⟨.sign '!' :: ms, ?_, stands_sign (by simp) htext hstands⟩
    rw [hmarks, marksRead, marksRead, Pending.marks, Pending.marks, List.replicate_succ']
    simp [Pending.left]
  | case5 p outer cs _ _ ih =>
    obtain ⟨ms, hmarks, hstands⟩ := ih h (hnext htext)
    refine ⟨.sign '(' :: ms, ?_, stands_sign (by simp) htext hstands⟩
    rw [hmarks, marksRead, marksRead, Pending.marksAround]
    simp [Pending.marks, Pending.left]
  | case6 p outer c cs hgap hbang hopen k n hk ih =>
    have hrest : text.drop (start + 1 + (n - 1)) = cs.drop (n - 1) := by
      rw [← List.drop_drop, hnext htext]
    obtain ⟨ms, hmarks, hstands⟩ := ih h hrest
    obtain ⟨token, htoken, hscan⟩ := scanFrom_key hk (ends_of_readFrom h) hbang hopen htext
    refine ⟨.key k :: ms, ?_, ?_⟩
    · rw [hmarks, marksRead, marksRead, Pending.marks_negate, Pending.marks]
      simp [LockExpr.marks]
    · rw [hscan]
      exact .cons htoken hstands
  | case8 p outer cs x _ ih =>
    obtain ⟨ms, hmarks, hstands⟩ := ih h (hnext htext)
    refine ⟨.sign '&' :: ms, ?_, stands_sign (by simp) htext hstands⟩
    rw [hmarks, marksRead, marksRead, Pending.marks, Pending.left, Pending.left]
    simp [Pending.marks_conjunction]
  | case9 p outer cs x _ _ ih =>
    obtain ⟨ms, hmarks, hstands⟩ := ih h (hnext htext)
    refine ⟨.sign '|' :: ms, ?_, stands_sign (by simp) htext hstands⟩
    rw [hmarks, marksRead, marksRead, Pending.marks, Pending.left]
    simp [Pending.marks_disjunction]
  | case10 p cs x q outer _ _ _ ih =>
    obtain ⟨ms, hmarks, hstands⟩ := ih h (hnext htext)
    refine ⟨.sign ')' :: ms, ?_, stands_sign (by simp) htext hstands⟩
    rw [hmarks, marksRead, marksRead, Pending.marksAround, Pending.marks_negate, LockExpr.marks,
      Pending.marks_disjunction, Pending.marks]
    simp
  | case2 | case7 | case11 | case12 => exact absurd h (by simp)

/-- **The tokens of a lock are the signs and keys of its tree.** -/
theorem scan_stands (h : read text = .ok e) :
    List.Forall₂ (LockToken.Stands text) (LockToken.scan text) e.marks := by
  unfold read at h
  split at h
  · rename_i e' hfrom
    obtain rfl := Except.ok.inj h
    have hall : text.drop 0 = text := rfl
    obtain ⟨ms, hmarks, hstands⟩ := readFrom_stands text {} [] none text hfrom hall
    rw [hmarks]
    exact hstands
  · cases h

/-! ### Kinds and numbers of tokens -/

/-- There are as many signs of a kind as there are locks made with it. -/
private theorem count_marks (e : LockExpr) (hc : c ≠ ')') :
    e.marks.count (.sign c) = e.nodes.countP (·.sign? = some c) := by
  -- Each operator has one sign of its own; a group has a second one, which is excluded.
  induction e with
  | or a b iha ihb | and a b iha ihb =>
    simp only [marks, nodes, List.count_append, List.count_cons, List.countP_cons,
      List.countP_append, iha, ihb, sign?, beq_iff_eq, LockMark.sign.injEq, Option.some.injEq,
      decide_eq_true_eq]
    omega
  | not a iha =>
    simp only [marks, nodes, List.count_cons, List.countP_cons, iha, sign?, beq_iff_eq,
      LockMark.sign.injEq, Option.some.injEq, decide_eq_true_eq]
  | group a iha =>
    simp only [marks, nodes, List.count_append, List.count_cons, List.count_nil, List.countP_cons,
      iha, sign?, beq_iff_eq, LockMark.sign.injEq, Option.some.injEq, decide_eq_true_eq, Ne.symm hc,
      if_false, Nat.add_zero]
  | key k => rfl

/-- Parentheses come in pairs. -/
private theorem count_marks_close (e : LockExpr) :
    e.marks.count (.sign ')') = e.marks.count (.sign '(') := by
  induction e with
  | or a b iha ihb | and a b iha ihb => simp [marks, iha, ihb]
  | not a iha => simp [marks, iha]
  | group a iha => simp [marks, iha]
  | key k => rfl

/-- The keys among the signs and keys are the keys of the lock. -/
private theorem filterMap_marks (e : LockExpr) : e.marks.filterMap LockMark.key? = e.keys := by
  induction e with
  | or a b iha ihb | and a b iha ihb =>
    simp [marks, keys, List.filterMap_cons, LockMark.key?, iha, ihb]
  | not a iha | group a iha => simp [marks, keys, List.filterMap_cons, LockMark.key?, iha]
  | key k => rfl

variable {tokens : List LockToken} {ms : List LockMark}

/-- Tokens of keys stand for keys, in the same order. -/
private theorem keys_of_stands (h : List.Forall₂ (LockToken.Stands text) tokens ms) :
    List.Forall₂ (fun (token : LockToken) k => read (token.span.of text) = .ok (.key k))
      (tokens.filter (·.kind = .key)) (ms.filterMap LockMark.key?) := by
  induction h with
  | nil => exact .nil
  | @cons token m tokens ms hstands _ ih =>
    cases m with
    | key k =>
      have hkey : LockMark.key? (.key k) = some k := rfl
      rw [List.filter_cons_of_pos (by simp [hstands.1]), List.filterMap_cons_some hkey]
      exact .cons hstands.2 ih
    | sign d =>
      have hkind : token.kind ≠ .key := by
        rw [hstands.1]
        split <;> nofun
      rw [List.filter_cons_of_neg (by simpa using hkind), List.filterMap_cons_none rfl]
      exact ih

/-- There are as many operators of a kind as signs. -/
private theorem operators_of_stands (h : List.Forall₂ (LockToken.Stands text) tokens ms)
    (hopen : c ≠ '(') (hclose : c ≠ ')') :
    (tokens.filter fun token => token.kind = .operator ∧ token.span.of text = [c]).length
      = ms.count (.sign c) := by
  induction h with
  | nil => rfl
  | @cons token m tokens ms hstands _ ih =>
    cases m with
    | key k =>
      rw [List.filter_cons_of_neg (by simp [hstands.1]), List.count_cons_of_ne (by simp), ih]
    | sign d =>
      -- A sign that is no parenthesis stands as an operator.
      by_cases hd : d = c
      · subst hd
        have hkind : token.kind = .operator := hstands.1.trans (by simp [hopen, hclose])
        rw [List.filter_cons_of_pos (by simp [hkind, hstands.2]), List.count_cons_self,
          List.length_cons, ih]
      · rw [List.filter_cons_of_neg (by simp [hstands.2, hd]),
          List.count_cons_of_ne (by simpa using hd), ih]

/-- There are as many parentheses as signs of either kind. -/
private theorem parens_of_stands (h : List.Forall₂ (LockToken.Stands text) tokens ms) :
    (tokens.filter (·.kind = .paren)).length = ms.count (.sign '(') + ms.count (.sign ')') := by
  induction h with
  | nil => rfl
  | @cons token m tokens ms hstands _ ih =>
    cases m with
    | key k => rw [List.filter_cons_of_neg (by simp [hstands.1]), ih]; simp
    | sign d =>
      by_cases hd : d = '(' ∨ d = ')'
      · rw [List.filter_cons_of_pos (by simp [hstands.1, hd]), List.length_cons, ih]
        obtain rfl | rfl := hd <;> simp <;> omega
      · rw [List.filter_cons_of_neg (by simp [hstands.1, hd]), ih]
        rw [not_or] at hd
        rw [List.count_cons_of_ne (by simpa using hd.1),
          List.count_cons_of_ne (by simpa using hd.2)]

/-- The operators of a lock's text that are written `c`. -/
def operators (text : List Char) (c : Char) : List LockToken :=
  (LockToken.scan text).filter fun token => token.kind = .operator ∧ token.span.of text = [c]

/-- There are as many operators of a kind as locks made with them. -/
private theorem length_operators (h : read text = .ok e) (hopen : c ≠ '(') (hclose : c ≠ ')') :
    (operators text c).length = e.nodes.countP (·.sign? = some c) := by
  rw [operators, operators_of_stands (scan_stands h) hopen hclose, count_marks e hclose]

/-- The tokens of a lock agree with its tree: its keys are, one by one, what the key tokens are read
    as alone, and there are as many operators and parentheses as its nodes are written with. -/
theorem tokens_of_read (h : read text = .ok e) :
    List.Forall₂ (fun (token : LockToken) k => read (token.span.of text) = .ok (.key k))
        ((LockToken.scan text).filter (·.kind = .key)) e.keys ∧
      (operators text '&').length = e.nodes.countP (· matches .and _ _) ∧
      (operators text '|').length = e.nodes.countP (· matches .or _ _) ∧
      (operators text '!').length = e.nodes.countP (· matches .not _) ∧
      ((LockToken.scan text).filter (·.kind = .paren)).length
        = 2 * e.nodes.countP (· matches .group _) := by
  refine ⟨filterMap_marks e ▸ keys_of_stands (scan_stands h), ?_, ?_, ?_, ?_⟩
  · rw [length_operators h (by decide) (by decide)]
    exact List.countP_congr fun x _ => by cases x <;> simp [sign?]
  · rw [length_operators h (by decide) (by decide)]
    exact List.countP_congr fun x _ => by cases x <;> simp [sign?]
  · rw [length_operators h (by decide) (by decide)]
    exact List.countP_congr fun x _ => by cases x <;> simp [sign?]
  · rw [parens_of_stands (scan_stands h), count_marks_close, ← two_mul, count_marks e (by decide)]
    exact congrArg (2 * ·) (List.countP_congr fun x _ => by cases x <;> simp [sign?])

/-- Blanks of all kinds stand around the keys, blanks and a `!` in them, and negations are
    repeated. -/
theorem nested_tokens_of_read :
    let text := " !( sex:a !b\u00a0| =Big Key\u2003)&!!@Gate /Use\t".toList
    let keys := [Key.unlockerAttr "SEX" "a !b", Key.exact (.name "Big Key"),
      Key.indirect (.name "Gate") (some "Use")]
    (∃ e, read text = .ok e ∧ e.keys = keys) ∧
      List.Forall₂ (fun (token : LockToken) k => read (token.span.of text) = .ok (.key k))
        ((LockToken.scan text).filter (·.kind = .key)) keys ∧
      (operators text '&').length = 1 ∧ (operators text '|').length = 1 ∧
        (operators text '!').length = 3 ∧
      ((LockToken.scan text).filter (·.kind = .paren)).length = 2 := by
  intro text keys
  have hread : read text
      = .ok (.and (.not (.group (.or (.key keys[0]) (.key keys[1]))))
        (.not (.not (.key keys[2])))) := by
    decide +kernel
  exact ⟨⟨_, hread, rfl⟩, tokens_of_read hread⟩

end LockExpr

end Softcode
