/-
# Valid patterns

A pattern is a choice between sequences, and a sequence consists of atoms, brackets
and groups, which may be repeated.  Here patterns are only told from what is none, as
there is nothing to match them with; so all that is kept of one is how deep it is and
which names its groups have.
-/
import EnvSync.Pattern.Bracket
import EnvSync.Text.Alphanumeric

namespace EnvSync.Pattern

/-! ## Groups -/

/-- The letters of the flags, and the dash behind which flags are taken away. -/
def flagChars : List Char := ['-', 'i', 'm', 's', 'U', 'u', 'R', 'x']

/-- The mode after a flag has been given or taken away. -/
def Mode.withFlag (m : Mode) (flag : Char) (on : Bool) : Mode :=
  match flag with
  | 'u' => { m with unicode := on }
  | 'x' => { m with spaced := on }
  | _ => m

/-- Reads flags up to the colon or parenthesis that ends them.  No flag comes twice, and
a dash has flags behind it. -/
def takeFlags (m : Mode) (seen : List Char) : List Char → Option (Mode × Char × List Char)
  | [] => none
  | c :: s =>
    if c = ':' ∨ c = ')' then
      if seen.head? = some '-' ∨ (c = ')' ∧ seen = []) then none else some (m, c, s)
    else if flagChars.contains c && !seen.contains c then
      takeFlags (m.withFlag c (!seen.contains '-')) (c :: seen) s
    else none

def beginsName (c : Char) : Bool := c = '_' || Text.isAlphabetic c

def continuesName (c : Char) : Bool :=
  ['_', '.', '[', ']'].contains c || Text.isAlphanumeric c

abbrev Names := List (List Char)

/-- Reads a name up to the `>` that ends it.  It must be new. -/
def takeName (names : Names) (s : List Char) : Option (Names × List Char) :=
  let name := s.takeWhile (· ≠ '>')
  match name, s.dropWhile (· ≠ '>') with
  | c :: cs, _ :: r =>
    if beginsName c && cs.all continuesName && !names.contains name then some (name :: names, r)
    else none
  | _, _ => none

/-- What a parenthesis opens. -/
inductive Opening where
  /-- Nothing: flags have been given for what follows. -/
  | flags (m : Mode)
  | group (m : Mode) (names : Names)
deriving DecidableEq, Repr

/-- Reads what makes a parenthesis more than a group. -/
def takeOpening (m : Mode) (names : Names) : List Char → Option (Opening × List Char)
  | '?' :: 'P' :: '<' :: s | '?' :: '<' :: s =>
    (takeName names s).map fun (names, s) => (.group m names, s)
  | '?' :: s =>
    (takeFlags m [] s).map fun (m', c, s) =>
      (if c = ':' then .group m' names else .flags m', s)
  | s => some (.group m names, s)

/-! ## Sequences and choices -/

structure Item where
  depth : Nat
  /-- It is there to be matched, and so can be repeated. -/
  matched : Bool
deriving DecidableEq, Repr

/-- What has been read of a choice. -/
structure Choice where
  /-- The depths of the sequences that are complete. -/
  complete : List Nat
  /-- The items of the one that is not, the last one first. -/
  items : List Item
deriving DecidableEq, Repr

namespace Choice

def start : Choice := ⟨[], []⟩

def push (k : Choice) (i : Item) : Choice := { k with items := i :: k.items }

def turn (k : Choice) : Choice := ⟨depthOf (k.items.map (·.depth)) :: k.complete, []⟩

def depth (k : Choice) : Nat := depthOf k.turn.complete

def repeat? (k : Choice) : Option Choice :=
  match k.items with
  | ⟨d, true⟩ :: is => some { k with items := ⟨d + 1, true⟩ :: is }
  | _ => none

end Choice

/-- What is left behind a sign of repetition, and the question mark that makes it
reluctant. -/
def dropReluctance : List Char → List Char
  | '?' :: s => s
  | s => s

/-- Reads a choice up to the end of its group or of the pattern: its depth, the names of
all groups, and what is left.  There are at most `fuel` characters. -/
def takeChoice : Nat → Mode → Names → Choice → List Char → Option (Nat × Names × List Char)
  | 0, _, _, _, _ => none
  | fuel + 1, m, names, k, s =>
    match m.next s with
    | [] => some (k.depth, names, [])
    | ')' :: r => some (k.depth, names, ')' :: r)
    | '|' :: r => takeChoice fuel m names k.turn r
    | '(' :: r => do
      match ← takeOpening m names (m.next r) with
      | (.flags m', r) => takeChoice fuel m' names (k.push ⟨0, false⟩) r
      | (.group m' names, r) =>
        match ← takeChoice fuel m' names .start r with
        | (d, names, _ :: r) => takeChoice fuel m names (k.push ⟨d + 1, true⟩) r
        | (_, _, []) => none
    | '[' :: r => do
      let (d, r) ← takeBracket m r
      takeChoice fuel m names (k.push ⟨d, true⟩) r
    | '\x7b' :: _ => none
    | c :: r =>
      if ['?', '*', '+'].contains c then do
        takeChoice fuel m names (← k.repeat?) (dropReluctance r)
      else do
        let (a, r) ← takeAtom m (c :: r)
        if a.standsIn m then takeChoice fuel m names (k.push ⟨0, true⟩) r else none

/-- How deep a pattern may be. -/
def maxDepth : Nat := 250

/-- A text that is a pattern. -/
def isValid (s : List Char) : Bool :=
  match takeChoice (s.length + 1) .initial [] .start s with
  | some (d, _, []) => d ≤ maxDepth
  | _ => false

end EnvSync.Pattern
