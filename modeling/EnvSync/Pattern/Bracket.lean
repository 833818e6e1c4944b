/-
# Brackets

A bracket is a class of characters that is spelled out: characters, ranges, classes
with a name and further brackets, between `[` and `]`.  Operators on what stands at
their sides need no parentheses, as each takes all that stands before it.

What is kept of a class is how deep it is.  In a pattern about bytes it has no members
beyond the first 128 characters, and that can be told from each of its parts alone:
there no part of it, and not the whole, may be the class of all other characters.
-/
import EnvSync.Pattern.Atom

namespace EnvSync.Pattern

/-! ## Depth -/

def deepest (ds : List Nat) : Nat := ds.foldl max 0

/-- The depth of parts taken together: one part is no deeper for being taken alone. -/
def depthOf : List Nat → Nat
  | [] => 0
  | [d] => d
  | ds => deepest ds + 1

/-! ## Members -/

def Atom.isMember (m : Mode) : Atom → Bool
  | char c _ => m.unicode || isAscii c
  | shorthand others => m.allows others
  | property => m.unicode
  | anyChar | edge | wordEdge => false

/-- There are members between two characters, and they may be there. -/
def isRange (m : Mode) : Atom → Atom → Bool
  | .char a _, .char b _ => a ≤ b && (m.unicode || isAscii b)
  | _, _ => false

/-- Reads an atom inside of a bracket, where only the backslash is special. -/
def takeBracketAtom (m : Mode) : List Char → Option (Atom × List Char)
  | [] => none
  | '\\' :: s => takeEscape m s
  | c :: s => some (.char c false, s)

/-- The character that is seen ahead past blanks and a hash. -/
def Mode.ahead (m : Mode) (s : List Char) : Option Char :=
  if !m.spaced then s.head?
  else
    let t := match s.dropWhile Text.isBlank with
      | '#' :: t => t.dropWhile Text.isBlank
      | t => t
    t.head?.or s.head?

/-- Drops a character, a range or a class that is written with a backslash.  A dash before
a closing bracket or another dash makes no range. -/
def dropMember (m : Mode) (s : List Char) : Option (List Char) := do
  let (a, s) ← takeBracketAtom m s
  match m.next s with
  | [] => none
  | '-' :: r =>
    if m.ahead r = some ']' ∨ m.ahead r = some '-' then
      if a.isMember m then some ('-' :: r) else none
    else
      let (b, r) ← takeBracketAtom m (m.next r)
      if isRange m a b then some r else none
  | s => if a.isMember m then some s else none

/-- The classes that have a name between colons. -/
def namedClasses : List String :=
  ["alnum", "alpha", "ascii", "blank", "cntrl", "digit", "graph", "lower", "print", "punct",
   "space", "upper", "word", "xdigit"]

/-- Reads a named class from behind its opening bracket: whether it is that of all other
characters, and what is left. -/
def takeNamed : List Char → Option (Bool × List Char)
  | ':' :: s =>
    let others := s.head? = some '^'
    let s := if others then s.tail else s
    match s.dropWhile (· ≠ ':') with
    | ':' :: ']' :: r =>
      if namedClasses.contains (.ofList (s.takeWhile (· ≠ ':'))) then some (others, r) else none
    | _ => none
  | _ => none

/-- Drops an operator: intersection, difference or symmetric difference. -/
def dropOperator : List Char → Option (List Char)
  | '&' :: '&' :: s | '-' :: '-' :: s | '~' :: '~' :: s => some s
  | _ => none

/-! ## Brackets -/

/-- Where in a bracket its members are read. -/
structure Place where
  /-- The class is that of all other characters. -/
  complement : Bool
  /-- Only dashes have been read, and dashes stand for themselves. -/
  leading : Bool
  /-- The depth of what stands before the last operator. -/
  pending : Option Nat
  /-- The depths of the members since then, the last one first. -/
  members : List Nat

def Place.start (complement : Bool) : Place := ⟨complement, true, none, []⟩

def Place.push (p : Place) (depth : Nat) : Place :=
  { p with leading := false, members := depth :: p.members }

/-- The depth of all that has been read. -/
def Place.depth (p : Place) : Nat :=
  match p.pending with
  | none => depthOf p.members
  | some d => max d (depthOf p.members) + 1

/-- Reads members up to the end of the bracket, and returns its depth.  There are at most
`fuel` characters. -/
def takeMembers (m : Mode) : Nat → Place → List Char → Option (Nat × List Char)
  | 0, _, _ => none
  | fuel + 1, p, s =>
    match m.next s with
    | [] => none
    | c :: r =>
      if p.leading && c = '-' then takeMembers m fuel { p with members := 0 :: p.members } r
      else if p.leading && p.members.isEmpty && c = ']' then takeMembers m fuel (p.push 0) r
      else if c = ']' then if m.allows p.complement then some (p.depth + 1, r) else none
      else if c = '[' then
        match takeNamed r with
        | some (others, r) => if m.allows others then takeMembers m fuel (p.push 0) r else none
        | none => do
          let r := m.next r
          let complement := r.head? = some '^'
          let (d, r) ← takeMembers m fuel (.start complement) (if complement then r.tail else r)
          takeMembers m fuel (p.push d) r
      else
        match dropOperator (c :: r) with
        | some r => takeMembers m fuel ⟨p.complement, false, some p.depth, []⟩ r
        | none => do
          let r ← dropMember m (c :: r)
          takeMembers m fuel (p.push 0) r

/-- Reads a bracket from behind its opening, and returns its depth. -/
def takeBracket (m : Mode) (s : List Char) : Option (Nat × List Char) :=
  let s := m.next s
  let complement := s.head? = some '^'
  takeMembers m (s.length + 1) (.start complement) (if complement then s.tail else s)

end EnvSync.Pattern
