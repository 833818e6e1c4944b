/-
# Replacing a file

A file is replaced in four steps, one after the other: missing directories on the
way are made, the file is opened and so emptied or made, the content is written, and
the permissions are set.  A step that fails ends the run, and what the steps before
it did stays done.

Only a file that is made by opening it has the permissions from the start.  One that
was there keeps its own until the last step.
-/
import EnvSync.FileTree.Basic

namespace EnvSync.FileTree

/-- What is to be written, and where. -/
structure Replacement where
  path : String
  content : List UInt8
deriving DecidableEq, Repr

/-- The permissions of a replaced file: its owner may read and write it, and nobody else
has anything. -/
def ownerOnly : Nat := 0o600

inductive Step where
  | createParents
  | openFile
  | writeContent
  | restrict
deriving DecidableEq, Repr

def Step.all : List Step := [createParents, openFile, writeContent, restrict]

namespace Replacement

/-- The directory that has to be made first, if one is missing. -/
def missingParent? (r : Replacement) (t : FileTree) : Option String :=
  match parent? r.path with
  | none => none
  | some p => if p = "" ∨ t.isThere p then none else some p

/-- Does something at the location of the file, and leaves the tree alone if that does
not work. -/
def atFile (r : Replacement) (t : FileTree)
    (act : FileTree → Location → Except Fault FileTree) : FileTree × Option Fault :=
  match t.locate r.path with
  | .error fault => (t, some fault)
  | .ok l =>
    match act t l with
    | .error fault => (t, some fault)
    | .ok t => (t, none)

/-- Does one step: the tree that it leaves, and the fault if it comes to one. -/
def perform (r : Replacement) (t : FileTree) : Step → FileTree × Option Fault
  | .createParents =>
    match r.missingParent? t with
    | none => (t, none)
    | some p => t.makeDirectories p
  | .openFile => r.atFile t fun t l => t.openAt l ownerOnly
  | .writeContent => r.atFile t fun t l => t.append l r.content
  | .restrict => r.atFile t fun t l => t.changeMode l ownerOnly

/-- Does steps until one fails: the tree that they leave, and the one that failed. -/
def run (r : Replacement) (t : FileTree) : List Step → FileTree × Option Step
  | [] => (t, none)
  | s :: ss =>
    match r.perform t s with
    | (t, some _) => (t, some s)
    | (t, none) => r.run t ss

end Replacement
end EnvSync.FileTree
