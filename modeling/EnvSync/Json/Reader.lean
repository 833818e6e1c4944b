/-
# Reading JSON

One function per construct of the grammar, each taking its construct off the front
of a text and returning what follows.  The functions for lists are given the
function for an item, so that the depth of nesting is the only thing `takeValue`
recurses on; a text nested deeper than `maxDepth` is refused.

`readObject` reads a whole text as an object.  It tells a text that is no JSON from
one that holds something other than an object, and decides that by the first
character that is not blank: a scalar has to be well formed to count as such,
an array only has to begin, and nothing behind either is looked at.
-/
import EnvSync.Json.Chars
import EnvSync.Json.Numeral

namespace EnvSync.Json

/-! ## Blanks and lists -/

/-- The blanks of JSON: space, tab, LF and CR. -/
def isBlank (c : Char) : Bool :=
  c = ' ' || c = '\t' || c = '\n' || c = '\r'

def skipBlanks (s : List Char) : List Char := s.dropWhile isBlank

variable {α : Type}

/-- The items of a list after its first, each behind a comma, and what follows the
closing character.  Every item costs a character, so the length of the text bounds
their number. -/
def takeFurther (item : List Char → Option (α × List Char)) (close : Char) :
    Nat → List Char → Option (List α × List Char)
  | 0, _ => none
  | n + 1, s =>
    match skipBlanks s with
    | [] => none
    | c :: s =>
      if c = close then some ([], s)
      else if c = ',' then
        match item (skipBlanks s) with
        | none => none
        | some (a, s) => (takeFurther item close n s).map fun r => (a :: r.1, r.2)
      else none

/-- A list whose opening character has been read: items with a comma between each
two, then the closing character.  What follows that is returned. -/
def takeList (item : List Char → Option (α × List Char)) (close : Char) (s : List Char) :
    Option (List α × List Char) :=
  match skipBlanks s with
  | [] => none
  | c :: s =>
    if c = close then some ([], s)
    else
      match item (c :: s) with
      | none => none
      | some (a, s) => (takeFurther item close (s.length + 1) s).map fun r => (a :: r.1, r.2)

/-! ## Values -/

/-- A value that holds no other. -/
def takeScalar : List Char → Option (Json × List Char)
  | '"' :: s => (takeString s).map fun r => (.string r.1, r.2)
  | 'n' :: 'u' :: 'l' :: 'l' :: s => some (.null, s)
  | 't' :: 'r' :: 'u' :: 'e' :: s => some (.bool true, s)
  | 'f' :: 'a' :: 'l' :: 's' :: 'e' :: s => some (.bool false, s)
  | s =>
    match takeNumeral s with
    | none => none
    | some (n, s) => n.number?.map fun v => (.number v, s)

/-- A member of an object: a name, a colon and a value. -/
def takeMember (value : List Char → Option (Json × List Char)) :
    List Char → Option ((String × Json) × List Char)
  | '"' :: s =>
    match takeString s with
    | none => none
    | some (name, s) =>
      match skipBlanks s with
      | ':' :: s => (value (skipBlanks s)).map fun r => ((name, r.1), r.2)
      | _ => none
  | _ => none

/-- A value in which arrays and objects are nested no deeper than the number says. -/
def takeValue : Nat → List Char → Option (Json × List Char)
  | 0, s => takeScalar s
  | depth + 1, s =>
    match s with
    | '[' :: s => (takeList (takeValue depth) ']' s).map fun r => (.array r.1, r.2)
    | '{' :: s =>
      (takeList (takeMember (takeValue depth)) '}' s).map fun r => (.object r.1, r.2)
    | s => takeScalar s

/-! ## Whole texts -/

/-- How deep arrays and objects may be nested, the outermost included. -/
def maxDepth : Nat := 127

/-- Why a text is not read as an object. -/
inductive Refusal where
  | malformed
  | notObject
deriving DecidableEq, Repr

/-- The members of the object whose opening brace has been read, if only blanks follow
it. -/
def takeMembers (s : List Char) : Option (List (String × Json)) :=
  match takeList (takeMember (takeValue (maxDepth - 1))) '}' s with
  | none => none
  | some (members, rest) => if skipBlanks rest = [] then some members else none

/-- The members of the object that a text is, in the order in which they are written. -/
def readObject (text : String) : Except Refusal (List (String × Json)) :=
  match skipBlanks text.toList with
  | '{' :: s =>
    match takeMembers s with
    | some members => .ok members
    | none => .error .malformed
  | '[' :: _ => .error .notObject
  | s => .error (if (takeScalar s).isSome then .notObject else .malformed)

end EnvSync.Json
