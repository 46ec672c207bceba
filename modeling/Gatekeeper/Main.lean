import Gatekeeper.CommandLine.Process
/-!
# The program

Collects what a process finds, runs it, and hands over what it leaves. A file is read when the
arguments name it, and the input only when the password is on it and the settings are there, up to
the end of its first line.

The program opens no connections of its own: on its network no server listens, so every connection
is refused.
-/

namespace Gatekeeper.Main

open CommandLine (Arguments VariableFile.complete)
open Settings (FileEntry Lookup)

/-- The number of the error behind a failure of reading. Some calls give it negated. -/
def errorNumber : IO.Error → Int
  | .alreadyExists _ n _ | .interrupted _ n _ | .noFileOrDirectory _ n _
  | .invalidArgument _ n _ | .permissionDenied _ n _ | .resourceExhausted _ n _
  | .inappropriateType _ n _ | .noSuchThing _ n _
  | .otherError n _ | .resourceBusy n _ | .resourceVanished n _ | .unsupportedOperation n _
  | .hardwareFault n _ | .unsatisfiedConstraints n _ | .illegalOperation n _ | .protocolError n _
  | .timeExpired n _ => n.toInt32.toInt.natAbs
  | .unexpectedEof | .userError _ => 5

/-- What is found under a path. -/
def entry (path : String) : IO FileEntry := do
  try
    let bytes ← IO.FS.readBinFile path
    return .content bytes.data.toList
  catch e => return .unreadable (errorNumber e)

/-- The first of some files that can be read. -/
def firstReadable : List String → IO FileEntry
  | [] => return .unreadable SystemError.notFound
  | p :: ps => do
    match ← entry p with
    | .content bytes => return .content bytes
    | .unreadable _ => firstReadable ps

/-- The file of variables in the current directory or the nearest one above it. -/
def variableEntry : IO FileEntry := do
  let depth := ((← IO.currentDir).toString.splitOn "/").length
  firstReadable ((List.range depth).map fun n =>
    String.join (List.replicate n "../") ++ CommandLine.variableFile)

/-- The values of variables. -/
def valuesOf (names : List String) : IO Lookup := do
  let values ← names.mapM fun n => do return (n, ← IO.getEnv n)
  return fun n => (values.lookup n).join

/-- The bytes of a stream up to the end of a line, behind those that were read before, which stand
in reverse. -/
partial def restOfLine (s : IO.FS.Stream) (begun : List UInt8) : IO (List UInt8) := do
  match (← s.read 1).data.toList with
  | [] => return begun.reverse
  | b :: _ =>
    if b = Text.lineFeed then return (b :: begun).reverse else restOfLine s (b :: begun)

/-- Runs the program in the surroundings of this process. -/
def run (args : List String) : IO CommandLine.Exit := do
  let ofVariables ← variableEntry
  let lookup ← valuesOf (CommandLine.variableNames ++ CommandLine.VariableFile.names ofVariables)
  let asked := (Arguments.read (VariableFile.complete lookup ofVariables) args).toOption
  let settings ← match asked.bind (·.configFile) with
    | some path => entry path
    | none => pure (.unreadable SystemError.notFound)
  let found : CommandLine.Surroundings := {
    lookup := lookup
    file := fun path => if path = CommandLine.variableFile then ofVariables else settings
    input := []
    network := ⟨none, none⟩ }
  let input ← if CommandLine.readsInput found args then restOfLine (← IO.getStdin) [] else pure []
  return CommandLine.run { found with input := input } args

end Gatekeeper.Main

/-- Runs the program and hands over its output, its diagnostics and its status. -/
def main (args : List String) : IO UInt32 := do
  let exit ← Gatekeeper.Main.run args
  IO.print exit.output
  IO.eprint exit.diagnostics
  return exit.status.toUInt32
