/-
# The env file in a file tree

An env file is loaded from a path and saved to one.  A file that is not there holds
no settings; one that cannot be looked at, or is no UTF-8 text, cannot be loaded.
Saving is a replacement of the file.
-/
import EnvSync.Dotenv.Reader
import EnvSync.FileTree.Replace
import EnvSync.Log.Event
import EnvSync.Text.Utf8

namespace EnvSync.Dotenv

inductive Task where
  /-- Finding out whether the file is there. -/
  | check
  | read
  /-- A step of replacing the file. -/
  | replace (step : FileTree.Step)
deriving DecidableEq, Repr

/-- What could not be done with which file. -/
structure Failure where
  task : Task
  path : String
deriving DecidableEq, Repr

def Failure.message (f : Failure) : String :=
  match f.task with
  | .check => "Failed to check environment file " ++ f.path
  | .read => "Failed to read environment file " ++ f.path
  | .replace .createParents => "Failed to create output directory"
  | .replace .openFile => "Failed to open environment file " ++ f.path
  | .replace .writeContent => "Failed to write environment file " ++ f.path
  | .replace .restrict => "Failed to restrict permissions of " ++ f.path

/-- The path of an env file where none is named. -/
def defaultPath : String := ".env"

/-! ## Loading -/

/-- The text of an env file, or `none` where there is no file. -/
def readText (t : FileTree) (path : String) : Except Failure (Option String) :=
  match t.lookUp path with
  | .error .notFound => .ok none
  | .error _ => .error ⟨.check, path⟩
  | .ok _ =>
    match t.read path with
    | .error _ => .error ⟨.read, path⟩
    | .ok bytes =>
      match Text.Utf8.decode bytes with
      | .error _ => .error ⟨.read, path⟩
      | .ok text => .ok (some text)

def load (t : FileTree) (path : String) : Except Failure Settings :=
  match readText t path with
  | .error f => .error f
  | .ok none => .ok .empty
  | .ok (some text) => .ok (parse text)

/-- What is logged when an env file is loaded. -/
def loadEvents (t : FileTree) (path : String) : List Log.Event :=
  match t.lookUp path with
  | .error .notFound => [.noEnvFile path]
  | _ => []

/-! ## Saving -/

def replacement (path text : String) : FileTree.Replacement := ⟨path, Text.Utf8.encode text⟩

/-- Saves a text: the tree afterwards, and what failed if something did. -/
def save (t : FileTree) (path text : String) : FileTree × Option Failure :=
  let r := (replacement path text).run t FileTree.Step.all
  (r.1, r.2.map fun s => ⟨.replace s, path⟩)

/-- What is logged when a text is saved. -/
def saveEvents (t : FileTree) (path text : String) : List Log.Event :=
  match (replacement path text).missingParent? t with
  | none => []
  | some p => [.creatingDirectory p]

end EnvSync.Dotenv
