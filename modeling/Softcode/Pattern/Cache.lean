import Softcode.Pattern.Basic
import Softcode.Table

namespace Softcode

/-!
# Caches of patterns

Patterns that have been made ready are kept, up to a number of them.
-/

/-- Patterns that are ready to be used. -/
abbrev PatternCache := Table Pattern Matcher

namespace PatternCache

/-- Keep a pattern, given how many may be kept.  If there is no room for it, the entry with the
    index `victim` has to go. -/
def keep (cache : PatternCache) (p : Pattern) (m : Matcher) (capacity : Nat) (victim : Nat := 0) :
    PatternCache :=
  if capacity = 0 then cache
  else if capacity ≤ cache.size then
    Table.insert ⟨cache.entries.eraseIdx (victim % cache.size)⟩ p m
  else Table.insert cache p m

/-- The pattern made ready, and the cache after that.  A pattern that cannot be made ready is not
    kept. -/
def ready (cache : PatternCache) (p : Pattern) (capacity : Nat) (victim : Nat := 0) :
    Option Matcher × PatternCache :=
  match cache.find? p with
  | some m => (some m, cache)
  | none => match p.compile? with
    | none => (none, cache)
    | some m => (some m, cache.keep p m capacity victim)

end PatternCache

end Softcode
