namespace Softcode

/-!
# Errors

Two families of errors: those of the data and files that the engine is given, and those of the
softcode that it is asked to run.  Either family can be reported as a member of the other.  What an
error says is decided in one place, its message.
-/

/-- Something is wrong with the data or the files that the engine is given. -/
inductive DataError where
  | script (detail : String)
  | io (detail : String)
  | settings (detail : String)
  | notFound (detail : String)
  | permissionDenied (detail : String)
  | invalid (detail : String)
deriving Repr, DecidableEq

/-- What the error says. -/
def DataError.message : DataError → String
  | script detail => "Script error: " ++ detail
  | io detail => "IO error: " ++ detail
  | settings detail => "Configuration error: " ++ detail
  | notFound detail => "Not found: " ++ detail
  | permissionDenied detail => "Permission denied: " ++ detail
  | invalid detail => "Invalid data: " ++ detail

/-- A request to the engine fails. -/
inductive ScriptError where
  /-- The text has a syntax error, at a line and column counted from zero. -/
  | malformed (line column : Nat) (detail : String)
  | invalidLock (detail : String)
  | cancelled
  /-- The world could not do what was asked. -/
  | collaborator (detail : String)
deriving Repr, DecidableEq

/-- What the error says. -/
def ScriptError.message : ScriptError → String
  | malformed line column detail =>
    "Syntax error at line " ++ toString line ++ ", column " ++ toString column ++ ": " ++ detail
  | invalidLock detail => "Invalid lock: " ++ detail
  | cancelled => "Evaluation cancelled"
  | collaborator detail => "Collaborator failure: " ++ detail

/-- A failed request, reported as an error of the data. -/
def ScriptError.toDataError (e : ScriptError) : DataError :=
  .script e.message

/-- An error of the data, reported as a failed request. -/
def DataError.toScriptError (e : DataError) : ScriptError :=
  .collaborator e.message

end Softcode
