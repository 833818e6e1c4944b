/-
# File trees

The files and directories that a run finds and leaves.  A tree knows what is at each
location, a location being the names on the way from the root, and where relative
paths start.  Paths are followed one name at a time, and every name but the last has
to be that of a directory.

Besides files and directories there are three devices, because an env file may be
one: one that forgets what it is given, one that has no room, and one that keeps a
few bytes and does not let its permissions be changed.

A run owns the files that it meets and has no other rights to them, so it reads and
writes what the mode lets the owner read and write.
-/
import EnvSync.FileTree.Path
import EnvSync.OrderedMap.Basic

namespace EnvSync

/-- The names on the way from the root. -/
abbrev Location := List String

namespace FileTree

/-! ## What a tree holds -/

/-- A place to write to that is no file. -/
inductive Device where
  /-- Takes everything and keeps nothing. -/
  | null
  /-- Takes nothing. -/
  | full
  /-- Keeps a short text; its permissions are fixed. -/
  | label (text : List UInt8)
deriving DecidableEq, Repr

inductive Entry where
  /-- Nothing can be made in a closed directory. -/
  | directory (closed : Bool)
  | file (content : List UInt8) (mode : Nat)
  | device (d : Device)
deriving DecidableEq, Repr

inductive Fault where
  | notFound
  | notDirectory
  | isDirectory
  | alreadyThere
  | nameTooLong
  | invalidName
  | noSpace
  /-- The mode of a file does not let its owner do it. -/
  | accessDenied
  | notPermitted
deriving DecidableEq, Repr

end FileTree

/-- Files and directories, and the location at which relative paths start. -/
structure FileTree where
  entries : OrderedMap Location FileTree.Entry
  start : Location
deriving DecidableEq

namespace FileTree

/-- What is at a location.  The root is always there. -/
def entry? (t : FileTree) (l : Location) : Option Entry :=
  if l = [] then some (.directory false) else t.entries.get? l

def set (t : FileTree) (l : Location) (e : Entry) : FileTree :=
  { t with entries := t.entries.insert l e }

def unset (t : FileTree) (l : Location) : FileTree :=
  { t with entries := t.entries.erase l }

/-! ## Following paths -/

def maxNameSize : Nat := 255

def maxPathSize : Nat := 4095

/-- Where names lead from a location, whether or not something is there.  On the way
there have to be directories. -/
def follow (t : FileTree) (l : Location) : List String → Except Fault Location
  | [] => .ok l
  | name :: names =>
    match t.entry? l with
    | none => .error .notFound
    | some (.directory _) =>
      if name = "." then t.follow l names
      else if name = ".." then t.follow l.dropLast names
      else if maxNameSize < name.utf8ByteSize then .error .nameTooLong
      else t.follow (l ++ [name]) names
    | some _ => .error .notDirectory

def locate (t : FileTree) (path : String) : Except Fault Location :=
  if path.toList.contains '\x00' then .error .invalidName
  else if maxPathSize < path.utf8ByteSize then .error .nameTooLong
  else if path = "" then .error .notFound
  else t.follow (if isAbsolute path then [] else t.start) (components path)

def lookUp (t : FileTree) (path : String) : Except Fault Entry :=
  match t.locate path with
  | .error fault => .error fault
  | .ok l =>
    match t.entry? l with
    | none => .error .notFound
    | some e => .ok e

def isThere (t : FileTree) (path : String) : Bool := (t.lookUp path).isOk

def isDirectory (t : FileTree) (path : String) : Bool :=
  match t.lookUp path with
  | .ok (.directory _) => true
  | _ => false

/-! ## Making entries -/

/-- Puts an entry where nothing is.  A closed directory does not know of it. -/
def create (t : FileTree) (l : Location) (e : Entry) : Except Fault FileTree :=
  match t.entry? l.dropLast with
  | some (.directory false) => .ok (t.set l e)
  | some (.directory true) | none => .error .notFound
  | some _ => .error .notDirectory

/-- Makes a directory in one that is there.  Slashes behind its name do not count. -/
def makeDirectory (t : FileTree) (path : String) : Except Fault FileTree :=
  match t.locate (withoutEndSlashes path) with
  | .error fault => .error fault
  | .ok l =>
    match t.entry? l with
    | some _ => .error .alreadyThere
    | none => t.create l (.directory false)

/-- Makes the first of the paths, after the ones behind it where those are missing.
What is a directory already need not be made, and an empty path names none. -/
def makeDirectoryOf (t : FileTree) : List String → FileTree × Option Fault
  | [] => (t, some .notFound)
  | path :: outer =>
    if path = "" then (t, none)
    else
      match t.makeDirectory path with
      | .ok t => (t, none)
      | .error .notFound =>
        match t.makeDirectoryOf outer with
        | (t, some fault) => (t, some fault)
        | (t, none) =>
          match t.makeDirectory path with
          | .ok t => (t, none)
          | .error fault => (t, if t.isDirectory path then none else some fault)
      | .error fault => (t, if t.isDirectory path then none else some fault)

/-- Makes a directory with all that is missing on the way to it.  What has been made
stays if it comes to a fault. -/
def makeDirectories (t : FileTree) (path : String) : FileTree × Option Fault :=
  t.makeDirectoryOf (ancestors path)

/-! ## Reading and writing files -/

def ownerReads (mode : Nat) : Bool := mode.testBit 8

def ownerWrites (mode : Nat) : Bool := mode.testBit 7

/-- The bytes that can be read where a path leads.  From a device without room there is
no end of them. -/
def read (t : FileTree) (path : String) : Except Fault (List UInt8) :=
  match t.lookUp path with
  | .error fault => .error fault
  | .ok (.directory _) => .error .isDirectory
  | .ok (.file content mode) => if ownerReads mode then .ok content else .error .accessDenied
  | .ok (.device .null) => .ok []
  | .ok (.device .full) => .error .noSpace
  | .ok (.device (.label text)) => .ok (text ++ [0x0A])

/-- Makes a location ready to be written from its start: a file that is there is emptied
and keeps its mode, one that is not is made with `mode`. -/
def openAt (t : FileTree) (l : Location) (mode : Nat) : Except Fault FileTree :=
  match t.entry? l with
  | none => t.create l (.file [] mode)
  | some (.directory _) => .error .isDirectory
  | some (.file _ mode) =>
    if ownerWrites mode then .ok (t.set l (.file [] mode)) else .error .accessDenied
  | some (.device _) => .ok t

def labelSize : Nat := 15

/-- Adds bytes to what is at a location that has been opened; no bytes can be added to
anything. -/
def append (t : FileTree) (l : Location) (bytes : List UInt8) : Except Fault FileTree :=
  if bytes = [] then .ok t
  else
    match t.entry? l with
    | none => .error .notFound
    | some (.directory _) => .error .isDirectory
    | some (.file content mode) => .ok (t.set l (.file (content ++ bytes) mode))
    | some (.device .null) => .ok t
    | some (.device .full) => .error .noSpace
    | some (.device (.label _)) =>
      .ok (t.set l (.device (.label ((bytes.take labelSize).takeWhile (· ≠ 0)))))

/-- Changes the mode of what is at a location. -/
def changeMode (t : FileTree) (l : Location) (mode : Nat) : Except Fault FileTree :=
  match t.entry? l with
  | none => .error .notFound
  | some (.file content _) => .ok (t.set l (.file content mode))
  | some (.device (.label _)) => .error .notPermitted
  | some (.device _) | some (.directory _) => .ok t

/-! ## Listings -/

/-- The names from `base` to `l`, if `l` is below it. -/
def below? (base l : Location) : Option Location :=
  if base.isPrefixOf l ∧ base.length < l.length then some (l.drop base.length) else none

/-- How an entry is listed: its names with slashes between them, a slash behind those of
a directory. -/
def listedName (names : Location) : Entry → String
  | .directory _ => "/".intercalate names ++ "/"
  | _ => "/".intercalate names

/-- What is below a location, in the order of the names listed. -/
def listing (t : FileTree) (base : Location) : List (String × Entry) :=
  (t.entries.entries.filterMap fun e =>
    (below? base e.1).map fun names => (listedName names e.2, e.2)).mergeSort
      fun a b => a.1 ≤ b.1

end FileTree
end EnvSync
