import PlanetScript.Command.Arguments
import PlanetScript.Command.Run

/-! # The command line program

The outer layer: it reads the files that a command names, runs the command, and prints.
The program has no transport of its own, so every request for a texture fails, which a
run tells as it tells any other failed request.
-/
namespace PlanetScript

/-- The paths of the files that a command reads. -/
def Command.paths : Command → List Text
  | .inspect script options _ | .texture script _ options => options.settingsFile.toList ++ [script]

/-- Reads one file. -/
def loadFile (path : Text) : IO FileContent := do
  try
    let content ← IO.FS.readBinFile (String.ofList path)
    return .bytes content.toList
  catch
    | .noFileOrDirectory .. => return .missing
    | _ => return .unreadable

/-- The world that a command runs in. -/
def loadWorld (paths : List Text) : IO World := do
  let files ← paths.mapM fun path => return (path, ← loadFile path)
  return {
    file := fun path => (files.lookup path).getD .missing
    network := fun _ => .none "no transport".toList }

/-- Whether a notice is printed. -/
def Notice.isShown (verbose : Bool) (notice : Notice) : Bool :=
  verbose || notice.level = .error || notice.level = .warn

/-- How the program is called. -/
def usage : String :=
  "Usage: planets [-v] inspect SCRIPT [--bind NAME=ID]... [OPTIONS]\n" ++
  "       planets [-v] texture SCRIPT ID [OPTIONS]\n" ++
  "Options: --config FILE, --block-scope sticky|reset-after-content,\n" ++
  "         --numeric strict-integer|lenient\n"

/-- Prints the answer to a command line that is not carried out. -/
def printFault (fault : UsageFault) : IO UInt32 := do
  match fault with
  | .help => IO.print usage; return 0
  | .version => IO.println "planets 0.1.0"; return 0
  | .malformedBinding raw =>
    IO.eprintln (String.ofList (bindingMessage raw))
    return 2
  | _ => IO.eprint usage; return 2

/-- Carries a command line out. -/
def runProgram (arguments : List Text) : IO UInt32 := do
  match Invocation.read arguments with
  | .error fault => printFault fault
  | .ok invocation =>
    let outcome := invocation.command.run (← loadWorld invocation.command.paths)
    for notice in outcome.notices do
      if notice.isShown invocation.verbose then
        IO.eprintln (String.ofList (notice.level.name ++ ": ".toList ++ notice.message))
    match outcome.result with
    | .ok text => IO.print (String.ofList text); return 0
    | .error fault =>
      IO.eprintln (String.ofList ("Error: ".toList ++ fault.message))
      return 1

end PlanetScript

/-- Runs the program on its arguments. -/
def main (arguments : List String) : IO UInt32 :=
  PlanetScript.runProgram (arguments.map String.toList)
