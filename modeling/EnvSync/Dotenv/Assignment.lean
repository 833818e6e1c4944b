/-
# Assignments of an env file

An assignment is a name, a separator and a value, possibly with `export` in front
and a comment behind.  This module takes one off the front of a text.

Three things make the reading less simple than it looks, and each has a function
of its own.

* A quoted value may span lines, and a quote with a backslash before it does not
  end it, unless no better closing quote is to be had (`takeBody`).
* What follows a value has to be blank or a comment up to the end of a line, but
  blanks include line breaks, so the line that ends may be a later one
  (`takeLineEnd`).
* A value whose quotes do not come out is read as a bare one (`takeValue`).

Carriage returns have no part here: a text is given line breaks of one kind before
it is read.
-/
import EnvSync.Text.Blank
import EnvSync.Text.Pair

namespace EnvSync.Dotenv

open Text

/-! ## Names and separators -/

/-- The characters of a name: ASCII letters and digits, `_`, `.` and `-`. -/
def isNameChar (c : Char) : Bool :=
  c.isAlphanum || c = '_' || c = '.' || c = '-'

/-- The longest name at the front, unless it is empty, and what follows. -/
def takeName (s : List Char) : Option (List Char × List Char) :=
  let name := s.takeWhile isNameChar
  if name = [] then none else some (name, s.dropWhile isNameChar)

/-- What follows a separator: `=` with blanks before it, or `:` directly followed by a
blank. -/
def dropSeparator (s : List Char) : Option (List Char) :=
  match s.dropWhile isBlank with
  | '=' :: rest => some rest
  | _ =>
    match s with
    | ':' :: c :: rest => if isBlank c then some rest else none
    | _ => none

/-- A name with its separator, and what follows. -/
def takeTarget (s : List Char) : Option (List Char × List Char) :=
  match takeName s with
  | none => none
  | some (name, s) => (dropSeparator s).map fun rest => (name, rest)

/-- What follows the word `export` and the blanks after it, of which there is at
least one. -/
def dropExport : List Char → Option (List Char)
  | 'e' :: 'x' :: 'p' :: 'o' :: 'r' :: 't' :: c :: s =>
    if isBlank c then some (s.dropWhile isBlank) else none
  | _ => none

/-- All of an assignment before its value.  A text that starts with `export` but goes
on without a name and a separator may still assign to the name `export`. -/
def takeHead (s : List Char) : Option (List Char × List Char) :=
  match (dropExport s).bind takeTarget with
  | some r => some r
  | none => takeTarget s

/-! ## The end of a line -/

/-- Up to the last line break among the blanks at the front: the text from that line
break on. -/
def toLastBreak : List Char → Option (List Char)
  | [] => none
  | c :: s =>
    if isBlank c then
      match toLastBreak s with
      | some rest => some rest
      | none => if c = '\n' then some (c :: s) else none
    else none

/-- What follows the text that may stand behind a value.  All blanks are passed over;
then the text has to end, or a comment runs to the end of its line.  If it is
neither, the blanks are passed over only as far as the last line break among them. -/
def takeLineEnd (s : List Char) : Option (List Char) :=
  match s.dropWhile isBlank with
  | [] => some []
  | '#' :: rest => some (rest.dropWhile (· ≠ '\n'))
  | _ :: _ => toLastBreak s

/-! ## Values -/

/-- The grave accent, third of the quote characters. -/
def backquote : Char := .ofNat 0x60

/-- The characters that may enclose a value. -/
def isQuote (c : Char) : Bool :=
  c = '\'' || c = '"' || c = backquote

/-- The body of a value in `q` quotes, and what follows the end of its line.  The
opening quote has been read; `escaped` says that the character read last is a
backslash.  The closing quote is the first `q` without a backslash before it, if a
line can end behind it.  Failing that, it is the last of the `q`s passed over
behind which a line can end. -/
def takeBody (q : Char) (escaped : Bool) : List Char → Option (List Char × List Char)
  | [] => none
  | c :: s =>
    if c = q then
      match if escaped then takeBody q false s else none with
      | some (body, rest) => some (q :: body, rest)
      | none => (takeLineEnd s).map fun rest => ([], rest)
    else (takeBody q (c = '\\') s).map fun r => (c :: r.1, r.2)

/-- A quoted value with the blanks before it, and what follows the end of its line. -/
def takeQuoted (s : List Char) : Option (List Char × List Char) :=
  match s.dropWhile isBlank with
  | [] => none
  | q :: r =>
    if isQuote q then
      (takeBody q false r).map fun b => (s.takeWhile isBlank ++ q :: b.1 ++ [q], b.2)
    else none

/-- A character that a bare value may contain. -/
def isBareChar (c : Char) : Bool :=
  c ≠ '#' && c ≠ '\n'

/-- The value at the front as it is written, blanks and quotes included, and what
follows the end of its line: a quoted value if there is one, else all up to a `#` or
a line break. -/
def takeValue (s : List Char) : List Char × List Char :=
  match takeQuoted s with
  | some r => r
  | none =>
    let rest := s.dropWhile isBareChar
    (s.takeWhile isBareChar, (takeLineEnd rest).getD rest)

/-- What a written value stands for, once it is trimmed.  A value that begins with a
quote loses its quotes if the same one ends it; if that quote is `"`, backslash
with `n` and then backslash with `r` are expanded, quotes lost or not. -/
def unquote : List Char → List Char
  | [] => []
  | q :: s =>
    if isQuote q then
      let inner := if s.getLast? = some q then s.dropLast else q :: s
      if q = '"' then expandReturns (expandNewlines inner) else inner
    else q :: s

/-! ## Assignments -/

/-- An assignment as it is written: its name, and all that was taken for its value. -/
structure Assignment where
  name : List Char
  written : List Char
deriving DecidableEq, Repr

def Assignment.value (a : Assignment) : List Char :=
  unquote (trim a.written)

/-- The assignment at the front of a text that starts a line, blanks before it
included, and what follows the end of its line. -/
def takeAssignment (s : List Char) : Option (Assignment × List Char) :=
  (takeHead (s.dropWhile isBlank)).map fun h =>
    (⟨h.1, (takeValue h.2).1⟩, (takeValue h.2).2)

end EnvSync.Dotenv
