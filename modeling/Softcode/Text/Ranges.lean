namespace Softcode.Text

/-!
# Character tables

Tables of characters as closed ranges of code points, as runs of characters at a fixed distance from
each other, and of case mappings as runs of characters that all move by the same distance.  What the
tables say of each character is what Unicode 16.0 says.
-/

/-- Does the code point of `c` lie in one of the closed ranges? -/
def inRanges (ranges : List (Nat × Nat)) (c : Char) : Bool :=
  ranges.any fun r => r.1 ≤ c.toNat && c.toNat ≤ r.2

/-- The characters from `first` to `last` in steps of `stride`. -/
structure CharRun where
  first : Nat
  last : Nat
  stride : Nat

/-- Is the code point `n` one of the run's characters? -/
def CharRun.has (run : CharRun) (n : Nat) : Bool :=
  run.first ≤ n && n ≤ run.last && (n - run.first) % run.stride == 0

/-- Does `c` belong to one of the runs? -/
def inRuns (runs : List CharRun) (c : Char) : Bool :=
  runs.any (·.has c.toNat)

/-- A run of characters, each of which is mapped `distance` further. -/
structure CaseRun extends CharRun where
  distance : Int

/-- Where the run maps `c`, if `c` belongs to it. -/
def CaseRun.map? (run : CaseRun) (c : Char) : Option Char :=
  if run.has c.toNat then some (Char.ofNat (c.toNat + run.distance).toNat) else none

/-- The character that the run maps to `c`, if there is one. -/
def CaseRun.unmap? (run : CaseRun) (c : Char) : Option Char :=
  let n : Int := c.toNat - run.distance
  if 0 ≤ n && run.has n.toNat then some (Char.ofNat n.toNat) else none

end Softcode.Text
