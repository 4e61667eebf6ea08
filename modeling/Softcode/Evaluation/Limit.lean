namespace Softcode

/-!
# Ceilings of an evaluation

An evaluation that passes one of its ceilings ends at once, and so does one that is cancelled.
-/

/-- The ceiling that an evaluation passed. -/
inductive LimitKind where
  | depth | recursion | invocations | nodes
deriving Repr, DecidableEq

/-- What the evaluation gives then. -/
def LimitKind.message : LimitKind → String
  | depth => "#-1 MAXIMUM STACK DEPTH EXCEEDED"
  | recursion => "#-1 FUNCTION RECURSION LIMIT EXCEEDED"
  | invocations => "#-1 FUNCTION INVOCATION LIMIT EXCEEDED"
  | nodes => "#-1 CALL LIMIT EXCEEDED"

/-- Why an evaluation ended early. -/
inductive Abort where
  | limit (kind : LimitKind)
  | cancelled
  /-- Texts nest deeper than the evaluator was made for. -/
  | exhausted
deriving Repr, DecidableEq

end Softcode
