import Softcode.Shell.Basic

/-!
# The command line

Reads lines from standard input and shows what the shell makes of them.
-/

open Softcode

/-- The settings in a file, or the defaults if it cannot be read. -/
def loadSettings (path : String) : IO Settings := do
  try
    return Settings.read (← IO.FS.readFile path).toList
  catch _ =>
    return {}

/-- Take lines until the input ends. -/
partial def takeLines (input output : IO.FS.Stream) (shell : Shell) : IO Unit := do
  let line ← input.getLine
  if line.isEmpty then return
  let (lines, shell) := shell.feed line.toList
  for line in lines do
    output.putStrLn (String.ofList line)
  output.flush
  takeLines input output shell

/-- Run the shell. -/
def main (args : List String) : IO UInt32 := do
  match ShellOptions.read args with
  | .error problem =>
    (← IO.getStderr).putStrLn ("Error: " ++ problem)
    return 1
  | .ok options =>
    let settings ← loadSettings options.config
    takeLines (← IO.getStdin) (← IO.getStdout) (Shell.start options settings)
    return 0
