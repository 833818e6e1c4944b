/-
# Paths

A path is kept as it is written, because that is how it is shown.  Two readings of
it are needed.  `components` is what a walk through a file tree follows.  `parent?`
is the path with its last name taken off, again as it is written; `ancestors` goes
on like that until nothing is left.
-/
import EnvSync.Text.Split

namespace EnvSync.FileTree

def isAbsolute (path : String) : Bool := path.toList.head? = some '/'

/-- The names that a path goes through.  A slash at the end stands for one more `.`, so
that what is before it has to be a directory. -/
def components (path : String) : List String :=
  let names := ((Text.split '/' path.toList).filter (· ≠ [])).map String.ofList
  if path.toList.getLast? = some '/' then names ++ ["."] else names

/-- The path without the slashes at its end, but for the one that is the root. -/
def withoutEndSlashes (path : String) : String :=
  match path.toList.reverse.dropWhile (· = '/') with
  | [] => path
  | s => .ofList s.reverse

/-! ## Parents

A path ends in a name once the slashes and dots behind it are gone.  As all this
happens at the end, the characters are taken in reverse. -/

/-- Drops slashes and `.` components, up to a name. -/
def dropIdle : List Char → List Char
  | '/' :: s => dropIdle s
  | '.' :: '/' :: s => dropIdle s
  | ['.'] => []
  | s => s

/-- Drops a name and the slash next to it. -/
def dropName (s : List Char) : List Char :=
  (s.dropWhile (· ≠ '/')).tail

/-- What is left of a reversed path when its last name is gone. -/
def parentOfReversed (s : List Char) : Option (List Char) :=
  match dropIdle s with
  | [] => none
  | c :: r => some (dropIdle (dropName (c :: r)))

/-- The path without its last name.  A slash at the start stays, and so does a dot that
has a name behind it; of a dot alone nothing is left. -/
def parent? (path : String) : Option String :=
  match path.toList with
  | '/' :: s => (parentOfReversed s.reverse).map fun p => .ofList ('/' :: p.reverse)
  | ['.'] => some ""
  | '.' :: '/' :: s =>
    match parentOfReversed ('/' :: s).reverse with
    | none => some ""
    | some p => some (.ofList ('.' :: p.reverse))
  | s => (parentOfReversed s.reverse).map fun p => .ofList p.reverse

theorem length_dropIdle_le (s : List Char) : (dropIdle s).length ≤ s.length := by
  fun_induction dropIdle s with
  | case1 s ih =>
    rw [List.length_cons]
    omega
  | case2 s ih =>
    rw [List.length_cons, List.length_cons]
    omega
  | case3 => exact Nat.zero_le _
  | case4 => exact Nat.le_refl _

theorem length_dropName_lt {s : List Char} (h : s ≠ []) : (dropName s).length < s.length := by
  have hd := (List.dropWhile_suffix (l := s) (· ≠ '/')).length_le
  have hs := List.length_pos_iff.2 h
  simp only [dropName, List.length_tail]
  omega

theorem length_parentOfReversed_lt {s p : List Char} (h : parentOfReversed s = some p) :
    p.length < s.length := by
  simp only [parentOfReversed] at h
  split at h
  · cases h
  · next c r hr =>
    rw [Option.some.injEq] at h
    subst h
    have hi := length_dropIdle_le (dropName (c :: r))
    have hn := length_dropName_lt (List.cons_ne_nil c r)
    have hs := length_dropIdle_le s
    rw [hr] at hs
    omega

theorem length_parent?_lt {path p : String} (h : parent? path = some p) :
    p.length < path.length := by
  rw [← String.length_toList (s := path)]
  simp only [parent?] at h
  split at h
  · next s hs =>
    obtain ⟨q, hq, rfl⟩ := Option.map_eq_some_iff.1 h
    have hl := length_parentOfReversed_lt hq
    rw [List.length_reverse] at hl
    rw [hs, String.length_ofList, List.length_cons, List.length_cons, List.length_reverse]
    omega
  · next hs =>
    rw [Option.some.injEq] at h
    subst h
    rw [hs]
    exact Nat.zero_lt_one
  · next s hs =>
    split at h
    · rw [Option.some.injEq] at h
      subst h
      rw [hs, List.length_cons]
      exact Nat.succ_pos _
    · next q hq =>
      rw [Option.some.injEq] at h
      subst h
      have hl := length_parentOfReversed_lt hq
      rw [List.length_reverse] at hl
      rw [hs, String.length_ofList, List.length_cons, List.length_cons, List.length_reverse]
      omega
  · next s _ _ _ =>
    obtain ⟨q, hq, rfl⟩ := Option.map_eq_some_iff.1 h
    have hl := length_parentOfReversed_lt hq
    rw [List.length_reverse] at hl
    rw [String.length_ofList, List.length_reverse]
    exact hl

/-- A path, its parent, the parent of that, and so on. -/
def ancestors (path : String) : List String :=
  match _h : parent? path with
  | none => [path]
  | some p => path :: ancestors p
termination_by path.length
decreasing_by exact length_parent?_lt _h

end EnvSync.FileTree
