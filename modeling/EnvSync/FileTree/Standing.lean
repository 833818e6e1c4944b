/-
# The tree that a run starts from

Every running system has the devices, with some text on the label; a run adds a
directory of its own to start relative paths from.
-/
import EnvSync.FileTree.Replace

namespace EnvSync.FileTree

/-- The devices, where they are found. The label is the process's, and its text may have
been written before. -/
def devices (label : List UInt8) : OrderedMap Location Entry :=
  .ofList
    [(["dev"], .directory false),
     (["dev", "null"], .device .null),
     (["dev", "full"], .device .full),
     (["proc"], .directory true),
     (["proc", "self"], .directory true),
     (["proc", "self", "comm"], .device (.label label))]

/-- The devices, with a text on the label, and an empty directory, from which relative
paths start. -/
def standing (start : Location) (label : List UInt8 := []) : FileTree :=
  ⟨(devices label).insert start (.directory false), start⟩

/-- Puts a file with a mode at a path, with what is missing on the way, if that can be
done. -/
def place (t : FileTree) (path : String) (content : List UInt8) (mode : Nat) :
    Option FileTree :=
  let r : Replacement := ⟨path, content⟩
  match r.run t [.createParents, .openFile, .writeContent] with
  | (t, none) => ((t.locate path).bind fun l => t.changeMode l mode).toOption
  | (_, some _) => none

/-- Takes away the file that a path names, if it names one. -/
def remove (t : FileTree) (path : String) : Option FileTree :=
  match t.locate path with
  | .error _ => none
  | .ok l =>
    match t.entry? l with
    | none | some (.directory _) => none
    | some _ => some (t.unset l)

end EnvSync.FileTree
