import IndexGateway.CommandLine.Run
import IndexGateway.Metrics.Host

/-!
# The program

The program reads its words and the files that they name, does what is asked, and
shows the result. Mistakes in the words are shown with the exit code 2, other
failures with the exit code 1. The log is not written anywhere.

The program asks nobody for the address of a host: it sends metrics to hosts that are
given by their addresses, and takes no other for resolved.
-/

namespace IndexGateway.CommandLine

/-- The text of a file, if it can be read. -/
def readFile? (path : String) : IO (Option String) := do
  try return some (← IO.FS.readFile path) catch _ => return none

/-- What the named files hold. -/
def readFiles (paths : List String) : IO Files := do
  let contents ← paths.mapM fun path => do return (path, ← readFile? path)
  return fun path => (contents.lookup path).bind id

/-- What is shown about the use of the program. -/
def usage : String :=
  "Usage: indexgateway [-c FILE] [-l FILTER] [--check] [routes | call -m METHOD [OPTIONS]]\n"

/-- Shows why nothing is done. -/
def fail (message : String) : IO UInt32 := do
  IO.eprintln ("Error: " ++ message)
  return 1

/-- Does what an invocation asks for. -/
def perform (i : Invocation) : IO UInt32 := do
  let files ← readFiles i.paths
  let now ← IO.monoNanosNow
  match (run files Metrics.Host.isAddress now i).1 with
  | .error e => fail e.message
  | .ok output => do
    IO.print output.text
    return if output.isSuccess then 0 else 1

/-- Does what words ask for. -/
def runWords (words : List String) : IO UInt32 := do
  match Invocation.ofWords words with
  | .ok i => perform i
  | .error .helpWanted => do
    IO.print usage
    return 0
  | .error .versionWanted => do
    IO.println "indexgateway 0.1.0"
    return 0
  | .error _ => do
    IO.eprint usage
    return 2

end IndexGateway.CommandLine

/-- Runs the program on its words. -/
def main (words : List String) : IO UInt32 := IndexGateway.CommandLine.runWords words
