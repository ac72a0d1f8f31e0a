import Reroute.Command.Run
import Reroute.Command.Usage

set_option autoImplicit false

namespace Reroute.Program

def reasonOf : IO.Error → Text
  | .permissionDenied _ code details | .inappropriateType _ code details =>
    (details ++ " (os error " ++ toString code ++ ")").toList
  | e => e.toString.toList

def readEntry (path : Text) : IO (Option Entry) := do
  try
    let bytes ← IO.FS.readBinFile ⟨String.ofList path⟩
    match String.fromUTF8? bytes with
    | some content => return some (.file content.toList)
    | none => return some .binary
  catch
    | .noFileOrDirectory .. | .noSuchThing .. => return none
    | .inappropriateType _ code _ => return if code = 21 then some .directory else none
    | e => return some (.locked (reasonOf e))

def readEntries (paths : List Text) : IO (List (Text × Entry)) := do
  let entries ← paths.mapM fun path => do return (path, ← readEntry path)
  return entries.filterMap fun (path, entry) => entry.map fun e => (path, e)

def readVariables (entries : List (Text × Entry)) : IO (List (Text × Text)) := do
  let names := entries.filterMap fun (path, entry) => Cascade.switchName? path entry
  let bindings ← names.mapM fun name => do
    return (name, ← IO.getEnv (String.ofList name))
  return bindings.filterMap fun (name, value) => value.map fun v => (name, v.toList)

partial def readBytes (input : IO.FS.Stream) (before : ByteArray) : IO ByteArray := do
  let more ← input.read 65536
  if more.isEmpty then return before else readBytes input (before ++ more)

def readInput : IO (Except Text Text) := do
  match String.fromUTF8? (← readBytes (← IO.getStdin) .empty) with
  | some t => return .ok t.toList
  | none => return .error Entry.binaryReason

def readWorld : IO Command.World := do
  let directory := (← IO.currentDir).toString.toList
  let home := ((← IO.getEnv "HOME").filter (!·.isEmpty)).map String.toList
  let entries ← readEntries (Cascade.fileName :: Cascade.candidates home directory)
  let files : FileSystem := fun path => (entries.find? (·.1 == path)).map Prod.snd
  let bindings ← readVariables entries
  return {
    host := ⟨files, Environment.ofBindings bindings, home⟩
    directory
    input := .ok []
    writeProblem := none
    isTerminal := ← (← IO.getStderr).isTty }

/-- Runs a command, and runs it again if what it wants to write cannot be written. -/
def perform (w : Command.World) (i : Command.Invocation) : IO Command.Outcome := do
  let outcome := Command.run w i
  match outcome.written with
  | none => return outcome
  | some content =>
    try
      IO.FS.writeFile ⟨String.ofList Cascade.fileName⟩ (String.ofList content)
      return outcome
    catch e => return Command.run { w with writeProblem := some (reasonOf e) } i

def serve (args : List Text) : IO UInt32 := do
  match Command.Arguments.parse args with
  | .error .version =>
    IO.print (String.ofList Command.versionText)
    return 0
  | .error .help =>
    IO.print (String.ofList Command.usageText)
    return 0
  | .error .misuse =>
    IO.eprint (String.ofList Command.misuseText)
    return 2
  | .ok i =>
    let w ← readWorld
    let w ← if Command.readsInput w i then do pure { w with input := ← readInput } else pure w
    let outcome ← perform w i
    IO.eprint (String.ofList (outcome.errorOutput i.verbosity))
    IO.print (String.ofList outcome.output)
    return outcome.code.toUInt32

end Reroute.Program

def main (args : List String) : IO UInt32 :=
  Reroute.Program.serve (args.map String.toList)
