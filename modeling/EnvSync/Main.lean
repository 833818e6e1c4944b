/-
# The executable

Takes from the system what a run needs, leaves the run to `Surroundings.run`, and
gives back what came of it.  The output of the program that holds the secret is
read from standard input, into which it is piped; there is no web service to ask.
Of the file tree a run sees its env file alone, and that is what is written back.
-/
import EnvSync.CommandLine.Run
import EnvSync.FileTree.Standing

namespace EnvSync.CommandLine

/-- All that standard input holds. -/
partial def readAll (input : IO.FS.Stream) (read : ByteArray) : IO ByteArray := do
  let bytes ← input.read 4096
  if bytes.isEmpty then return read else readAll input (read ++ bytes)

/-- The tree with what is at a path on disk. -/
def snapshot (t : FileTree) (path : String) : IO FileTree := do
  try
    let bytes ← IO.FS.readBinFile path
    return (t.place path bytes.toList 0o644).getD t
  catch e =>
    match e with
    | .noFileOrDirectory .. => return t
    | _ => return (t.makeDirectories path).1

/-- Writes what a tree has at a path to disk. -/
def writeBack (t : FileTree) (path : String) : IO Unit := do
  match t.read path with
  | .error _ => return
  | .ok bytes =>
    match FileTree.parent? path with
    | none | some "" => pure ()
    | some p => IO.FS.createDirAll p
    IO.FS.writeBinFile path ⟨bytes.toArray⟩
    let owner : IO.AccessRight := { read := true, write := true }
    IO.setAccessRights path { user := owner }

/-- The programs of a run with the given options: where one is needed its output is at
hand. -/
def programsFor (i : Invocation) : IO Backend.Programs := do
  if i.provider ≠ .gcp then return Backend.Programs.system
  let payload ← readAll (← IO.getStdin) .empty
  return Backend.Programs.system.adding [Backend.gcloud] fun _ => ⟨payload.toList, [], .exit 0⟩

/-- Shows what can be seen of a run. -/
def Display.print (d : Display) : IO Unit := do
  for line in d.log do IO.eprintln line
  match d.message with
  | none => pure ()
  | some m => IO.eprintln ("Error: " ++ m)
  IO.print d.stdout

end EnvSync.CommandLine

open EnvSync EnvSync.CommandLine in
/-- Runs the program. -/
def main (arguments : List String) : IO UInt32 := do
  let filter ← IO.getEnv "RUST_LOG"
  let bare : Surroundings :=
    ⟨filter, Backend.Programs.system, fun _ _ => .refused "no credentials", .standing ["work"]⟩
  match Reading.ofArguments Given.none arguments with
  | .accepted given =>
    let i := given.invocation
    let programs ← programsFor i
    let tree ← snapshot bare.tree i.options.envFile
    let d := ({ bare with programs, tree } : Surroundings).run arguments
    if d.tree ≠ tree then writeBack d.tree i.options.envFile
    d.print
    return d.ending.status.toUInt32
  | _ =>
    let d := bare.run arguments
    d.print
    return d.ending.status.toUInt32
