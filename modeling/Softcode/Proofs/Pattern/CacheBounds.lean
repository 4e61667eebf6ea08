import Softcode.Proofs.Attribute.TreeShape
import Softcode.Proofs.Pattern.Transparency

namespace Softcode.PatternCache

/-!
# How much a cache of patterns keeps

Each look-up says how many patterns may be kept, and what has to go if there is no room is up to
whoever looks up.  A look-up changes the patterns that are kept only if it makes a pattern ready
that was not there and may be kept: then that pattern is added, and at most one other goes.  So
there are never more of them than the most generous look-up so far allowed.

* `PatternCache.keys_ready` — what a look-up does to the patterns that are kept;
* `PatternCache.size_ready_le` — how many are kept then;
* `PatternCache.lookUps_transparent_bounded` — whole sequences of look-ups.
-/

variable {cache : PatternCache} {p : Pattern} {m : Matcher}

/-! ### One look-up -/

/-- Does a look-up leave the cache alone?  It does if the pattern is there, if it cannot be made
    ready, or if nothing may be kept. -/
def keepsNothing (cache : PatternCache) (p : Pattern) (capacity : Nat) : Bool :=
  cache.has p || p.compile?.isNone || capacity == 0

/-- The patterns that stay when one more is to be kept. -/
def staying (cache : PatternCache) (capacity victim : Nat) : List Pattern :=
  if capacity ≤ cache.size then cache.keys.eraseIdx (victim % cache.size) else cache.keys

/-- All of them were there before. -/
private theorem staying_sublist (cache : PatternCache) (capacity victim : Nat) :
    (cache.staying capacity victim).Sublist cache.keys := by
  unfold staying
  split
  · exact List.eraseIdx_sublist ..
  · exact List.Sublist.refl _

/-- A pattern that is not there is added behind those that stay. -/
private theorem keys_keep (hp : p ∉ cache.keys) (m : Matcher) {capacity : Nat}
    (hcapacity : capacity ≠ 0) (victim : Nat) :
    (cache.keep p m capacity victim).keys = cache.staying capacity victim ++ [p] := by
  have hfresh : p ∉ cache.staying capacity victim :=
    fun h => hp ((cache.staying_sublist capacity victim).subset h)
  unfold PatternCache.keep staying at *
  rw [if_neg hcapacity]
  split at hfresh
  · rename_i hfull
    have hkeys : (⟨cache.entries.eraseIdx (victim % cache.size)⟩ : PatternCache).keys
        = cache.keys.eraseIdx (victim % cache.size) := (List.eraseIdx_map ..).symm
    rw [if_pos hfull, if_pos hfull, Table.keys_insert, hkeys, if_neg hfresh]
  · rename_i hroom
    rw [if_neg hroom, if_neg hroom, Table.keys_insert, if_neg hfresh]

/-- **What a look-up does to the patterns that are kept.** -/
theorem keys_ready (cache : PatternCache) (p : Pattern) (capacity victim : Nat) :
    (cache.ready p capacity victim).2.keys =
      if cache.keepsNothing p capacity then cache.keys
      else cache.staying capacity victim ++ [p] := by
  unfold PatternCache.ready keepsNothing
  cases hfind : cache.find? p with
  -- A pattern that is there stays where it is.
  | some m => rw [Table.has, hfind, Option.isSome_some, Bool.true_or, Bool.true_or, if_pos rfl]
  | none =>
    have habsent : p ∉ cache.keys := by
      rw [Table.mem_keys, Table.has, hfind, Option.isSome_none]
      exact Bool.noConfusion
    rw [Table.has, hfind, Option.isSome_none, Bool.false_or]
    cases p.compile? with
    | none => rw [Option.isNone_none, Bool.true_or, if_pos rfl]
    | some m =>
      rw [Option.isNone_some, Bool.false_or]
      by_cases hcapacity : capacity = 0
      · have hsame : cache.keep p m capacity victim = cache := if_pos hcapacity
        rw [if_pos (by rw [hcapacity]; rfl)]
        exact congrArg Table.keys hsame
      · rw [if_neg (by simpa using hcapacity)]
        exact keys_keep habsent m hcapacity victim

/-- No pattern is kept twice. -/
private theorem nodup_keys_ready (h : cache.keys.Nodup) (p : Pattern) (capacity victim : Nat) :
    (cache.ready p capacity victim).2.keys.Nodup := by
  rw [keys_ready]
  split
  · exact h
  · rename_i hkeeps
    -- Only a pattern that is not there gets added.
    have habsent : p ∉ cache.keys := by
      rw [Table.mem_keys]
      intro hhas
      exact hkeeps (by rw [keepsNothing, hhas, Bool.true_or, Bool.true_or])
    have hsublist := cache.staying_sublist capacity victim
    exact List.nodup_append.mpr ⟨h.sublist hsublist, List.nodup_singleton p, fun q hq q' hq' => by
      rintro rfl
      exact habsent (List.mem_singleton.mp hq' ▸ hsublist.subset hq)⟩

/-- **After a look-up there are no more patterns than before it or than may be kept.** -/
theorem size_ready_le (cache : PatternCache) (p : Pattern) (capacity victim : Nat) :
    (cache.ready p capacity victim).2.size ≤ max cache.size capacity := by
  rw [← Table.length_keys, keys_ready]
  split
  · rw [Table.length_keys]
    exact Nat.le_max_left ..
  · rename_i hkeeps
    have hcapacity : capacity ≠ 0 := by
      rintro rfl
      exact hkeeps (Bool.or_true _)
    rw [List.length_append, List.length_singleton, staying]
    split
    · -- The cache was full: one pattern goes and one comes.
      have hindex : victim % cache.size < cache.keys.length := by
        rw [Table.length_keys]
        exact Nat.mod_lt _ (by omega)
      rw [List.length_eraseIdx_of_lt hindex, Table.length_keys]
      omega
    · rw [Table.length_keys]
      omega

/-! ### Sequences of look-ups -/

/-- A look-up: of a pattern, with the number of patterns that may be kept, and the index of the
    pattern that has to go if there is no room. -/
structure LookUp where
  pattern : Pattern
  capacity : Nat
  victim : Nat

/-- What the look-up gives, and the cache after it. -/
def LookUp.on (l : LookUp) (cache : PatternCache) : Option Matcher × PatternCache :=
  cache.ready l.pattern l.capacity l.victim

/-- A cache that was empty, after look-ups. -/
def after (past : List LookUp) : PatternCache := past.foldl (fun cache l => (l.on cache).2) {}

/-- The largest number of patterns that could be kept so far. -/
def mostAllowed (past : List LookUp) : Nat := (past.map (·.capacity)).foldl max 0

private theorem after_concat (past : List LookUp) (l : LookUp) :
    after (past ++ [l]) = (l.on (after past)).2 :=
  List.foldl_concat ..

private theorem mostAllowed_concat (past : List LookUp) (l : LookUp) :
    mostAllowed (past ++ [l]) = max (mostAllowed past) l.capacity := by
  rw [mostAllowed, List.map_append, List.map_singleton, List.foldl_concat, mostAllowed]

/-- This is a cache that has been used for look-ups only. -/
private theorem used_after (past : List LookUp) : (after past).Used := by
  induction past using List.reverseRecOn with
  | nil => exact .refl
  | append_singleton past l ih =>
    rw [after_concat]
    exact ih.tail ⟨l.pattern, l.capacity, l.victim, rfl⟩

/-- Whatever was looked up, no pattern is kept twice. -/
private theorem nodup_keys_after (past : List LookUp) : (after past).keys.Nodup := by
  induction past using List.reverseRecOn with
  | nil => exact List.nodup_nil
  | append_singleton past l ih =>
    rw [after_concat]
    exact nodup_keys_ready ih l.pattern l.capacity l.victim

/-- No more patterns are kept than could be. -/
private theorem size_after_le (past : List LookUp) : (after past).size ≤ mostAllowed past := by
  induction past using List.reverseRecOn with
  | nil => exact Nat.le_refl 0
  | append_singleton past l ih =>
    rw [after_concat, mostAllowed_concat]
    have hstep := size_ready_le (after past) l.pattern l.capacity l.victim
    exact hstep.trans (max_le_max_right l.capacity ih)

/-- **A cache of patterns cannot be noticed, and it stays small.**  Whatever has been looked up
    before, with whatever numbers of patterns to keep and whatever had to go: a look-up gives what
    making the pattern ready gives, if only that it cannot be done.  Each pattern is kept once, and
    no more patterns are kept than the largest number so far.  A pattern that is there, one that
    cannot be made ready and a look-up that may keep nothing leave the patterns that are kept as
    they are; otherwise the pattern is added, and only if the cache is full another one goes. -/
theorem lookUps_transparent_bounded (past : List LookUp) (l : LookUp) :
    (l.on (after past)).1 = l.pattern.compile? ∧
      (after (past ++ [l])).keys.Nodup ∧
      (after (past ++ [l])).size ≤ mostAllowed (past ++ [l]) ∧
      (after (past ++ [l])).keys =
        if (after past).has l.pattern || l.pattern.compile?.isNone || l.capacity == 0 then
          (after past).keys
        else if l.capacity ≤ (after past).size then
          (after past).keys.eraseIdx (l.victim % (after past).size) ++ [l.pattern]
        else (after past).keys ++ [l.pattern] := by
  refine ⟨((used_after past).faithful.ready ..).1, nodup_keys_after _, size_after_le _, ?_⟩
  rw [after_concat, LookUp.on, keys_ready, keepsNothing, staying]
  split
  · rfl
  · split <;> rfl

end Softcode.PatternCache
