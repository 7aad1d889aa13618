import SqlScript.Program

/-!
The command-line program: it gathers what the program finds around it, runs it, and writes what it
leaves behind.
-/

namespace SqlScript

def ReadFault.ofError : IO.Error → ReadFault
  | .noFileOrDirectory .. => .missing
  | .inappropriateType _ 21 _ => .isDirectory
  | .inappropriateType _ _ _ => .notDirectory
  | .invalidArgument _ 36 _ => .nameTooLong
  | e => .other (toString e).toList

/-- Opens and reads a file. A folder can be opened but not read. -/
def readFile (path : String) : IO (Except ReadFault Source) := do
  try return .ok ⟨(← IO.FS.readBinFile path).toList, none⟩
  catch e =>
    match ReadFault.ofError e with
    | .isDirectory => return .ok ⟨[], some .isDirectory⟩
    | fault => return .error fault

/-- Whether a path leads to a file or folder; one that cannot be followed does not. -/
def pathExists (path : String) : IO Bool := do
  try
    let _ ← IO.FS.realPath path
    return true
  catch _ => return false

/-- Reads a configuration file that need not be there. -/
def readConfig? (path : Text) : IO (Option Source) := do
  let path := String.ofList path
  if ← pathExists path then
    match ← readFile path with
    | .ok source => return some source
    | .error fault => return some ⟨[], some fault⟩
  else return none

def readInput : IO Source := do
  try return ⟨(← (← IO.getStdin).readBinToEnd).toList, none⟩
  catch e => return ⟨[], some (.ofError e)⟩

def environmentText? (name : Text) : IO (Option Text) := do
  return (← IO.getEnv (String.ofList name)).map String.toList

def World.gather (script : Text) : IO World := do
  let home? ← environmentText? "HOME"
  let isInput := script == Program.inputPath
  let opened ←
    if isInput then pure (.error .missing) else readFile (String.ofList script)
  return {
    homeConfig := ← match home? with
      | some home => readConfig? (Settings.homePath home)
      | none => pure none
    localConfig := ← readConfig? Settings.localPath
    environment := {
      lowercase := ← environmentText? Settings.lowercaseVariable
      functionName := ← environmentText? Settings.functionNameVariable
      lineSeparator := ← environmentText? Settings.lineSeparatorVariable }
    input := ← if isInput then readInput else pure ⟨[], none⟩
    file := fun _ => opened }

/-- Writes what a run leaves behind and gives its exit code. -/
def Run.report (run : Run) : IO UInt32 := do
  (← IO.getStdout).putStr (String.ofList run.output)
  match run.errorLine with
  | some line => (← IO.getStderr).putStrLn (String.ofList line)
  | none => pure ()
  return run.exitCode.toUInt32

end SqlScript

open SqlScript in
def main (args : List String) : IO UInt32 := do
  let args := args.map String.toList
  match CommandLine.read args with
  | .error refusal =>
    if refusal != .displayVersion then
      (← if refusal.isAnswer then IO.getStdout else IO.getStderr).putStr
        (String.ofList CommandLine.usage)
    (Program.refuse refusal).report
  | .ok invocation =>
    let w ← World.gather invocation.command.script
    (Program.run w (← (← IO.getStdout).isTty) args).report
