/-
Ontograph.Main — the program.

The program reads and writes files in the file system and settings in the
environment. It has no network of its own: every request counts as dropped.
-/
import Ontograph.CommandLine.Run

namespace Ontograph.Program

def parentPath (path : String) : String :=
  String.ofList (((path.toList.reverse.dropWhile (· ≠ '/')).drop 1).reverse)

def readText (path : String) : IO (Option String) := do
  try
    return some (← IO.FS.readFile path)
  catch _ =>
    return none

/-- Writes a file and makes its directory first; the answer is whether that succeeds. -/
def writeText (path content : String) : IO Bool := do
  try
    if !(parentPath path).isEmpty then IO.FS.createDirAll (parentPath path)
    IO.FS.writeFile path content
    return true
  catch _ =>
    return false

/-- The environment variables that matter: those that hold settings, and those that the environment
file may speak of. -/
def readEnvironment : IO Environment := do
  let text := (← readText CommandLine.environmentFile).getD ""
  let names := (Settings.variableNames ++ EnvironmentFile.words text).eraseDups
  names.filterMapM fun key => do
    return (← IO.getEnv key).map (key, ·)

def host : CommandLine.Host IO where
  read := readText
  write := writeText
  transport _ := pure .dropped

end Ontograph.Program

def main (args : List String) : IO UInt32 := do
  let outcome ← Ontograph.CommandLine.run Ontograph.Program.host args
    (← Ontograph.Program.readEnvironment)
  IO.print outcome.output
  for line in outcome.complaints do
    IO.eprintln line
  return UInt32.ofNat outcome.status
