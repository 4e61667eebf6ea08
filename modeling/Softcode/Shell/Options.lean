namespace Softcode

/-!
# Options of the shell
-/

/-- What the arguments of the shell say. -/
structure ShellOptions where
  /-- The file with the settings. -/
  config : String := "config/mush.txt"
  /-- Report on the lines instead of running them. -/
  check : Bool := false
  /-- Report in JSON. -/
  json : Bool := false
deriving Repr, DecidableEq

namespace ShellOptions

/-- Read the arguments, or say what is wrong with them. -/
def readFrom (options : ShellOptions) : List String → Except String ShellOptions
  | [] => .ok options
  | ["--config"] => .error "--config needs a path"
  | "--config" :: path :: rest => readFrom { options with config := path } rest
  | "--check" :: rest => readFrom { options with check := true } rest
  | "--json" :: rest => readFrom { options with json := true } rest
  | other :: _ => .error ("unknown argument: " ++ other)

/-- Read the arguments, starting from the defaults. -/
def read (args : List String) : Except String ShellOptions := readFrom {} args

end ShellOptions

end Softcode
