/-
# Atoms of patterns

A pattern is a regular expression for the values of a field.  Its smallest parts are
atoms: a character, a class with a name of its own, or a condition on a place.  Most
are written with a backslash, and `takeEscape` reads what follows one.

Patterns are written between braces, where a closing brace ends them.  What needs one
of its own, such as a count or a name in braces, can therefore never be complete.
-/
import EnvSync.Text.Blank
import EnvSync.Text.Hex

namespace EnvSync.Pattern

/-! ## Modes -/

/-- What is in force at a place of a pattern. -/
structure Mode where
  /-- Classes and words are those of Unicode, and a pattern is about characters.  If not
  it is about bytes. -/
  unicode : Bool
  /-- Blanks and comments do not count. -/
  spaced : Bool
deriving DecidableEq, Repr

/-- The mode that a pattern starts in. -/
def Mode.initial : Mode := ⟨true, false⟩

/-- Drops blanks and comments, which run from a hash to the end of the line. -/
def dropFiller (inComment : Bool) : List Char → List Char
  | [] => []
  | c :: s =>
    if inComment then dropFiller (c ≠ '\n') s
    else if Text.isBlank c then dropFiller false s
    else if c = '#' then dropFiller true s
    else c :: s

def Mode.next (m : Mode) (s : List Char) : List Char :=
  if m.spaced then dropFiller false s else s

/-! ## Atoms -/

/-- A part of a pattern that has no parts. -/
inductive Atom where
  /-- A character; `asByte` if two hexadecimal digits name it. -/
  | char (c : Char) (asByte : Bool)
  /-- The digits, blanks or word characters, or all others. -/
  | shorthand (others : Bool)
  /-- The characters with a Unicode property. -/
  | property
  | anyChar
  /-- A start or an end of the text. -/
  | edge
  /-- A start or an end of a word. -/
  | wordEdge
deriving DecidableEq, Repr

def isAscii (c : Char) : Bool := c.toNat < 0x80

/-- A class may be that of all other characters.  Among bytes those would be parts of
characters, which a pattern must not match. -/
def Mode.allows (m : Mode) (others : Bool) : Bool := m.unicode || !others

/-- An atom that may stand for itself.  The words of Unicode have no edges that can be
found byte by byte. -/
def Atom.standsIn (m : Mode) : Atom → Bool
  | char c asByte => m.unicode || !asByte || isAscii c
  | shorthand others => m.allows others
  | property | anyChar => m.unicode
  | edge => true
  | wordEdge => !m.unicode

/-! ## Escapes -/

/-- Reads hexadecimal digits, as many as are wanted. -/
def takeHex (m : Mode) (value : Nat) : Nat → List Char → Option (Nat × List Char)
  | 0, s => some (value, s)
  | n + 1, s =>
    match m.next s with
    | [] => none
    | c :: s => (Text.hexValue c).bind fun d => takeHex m (value * 16 + d) n s

/-- Reads a character that is named by its code point in so many digits. -/
def takeCodePoint (m : Mode) (digits : Nat) (s : List Char) : Option (Atom × List Char) :=
  (takeHex m 0 digits s).bind fun (n, s) =>
    if n.isValidChar then some (.char (.ofNat n) (digits = 2), s) else none

/-- The digits behind a letter that announces a code point. -/
def codePointDigits? : Char → Option Nat
  | 'x' => some 2
  | 'u' => some 4
  | 'U' => some 8
  | _ => none

/-- The character that a letter stands for. -/
def control? : Char → Option Char
  | 'a' => some '\x07'
  | 'f' => some '\x0c'
  | 't' => some '\t'
  | 'n' => some '\n'
  | 'r' => some '\r'
  | 'v' => some '\x0b'
  | _ => none

/-- The properties that have a name of one letter: the major general categories. -/
def isProperty (c : Char) : Bool := ['c', 'l', 'm', 'n', 'p', 's', 'z'].contains c.toLower

/-- Reads what follows a backslash. -/
def takeEscape (m : Mode) : List Char → Option (Atom × List Char)
  | [] => none
  | c :: s =>
    match codePointDigits? c, control? c with
    | some n, _ => takeCodePoint m n s
    | none, some d => some (.char d false, s)
    | none, none =>
      if ['d', 's', 'w'].contains c then some (.shorthand false, s)
      else if ['D', 'S', 'W'].contains c then some (.shorthand true, s)
      else if ['A', 'z'].contains c then some (.edge, s)
      else if ['b', 'B', '<', '>'].contains c then some (.wordEdge, s)
      else if ['p', 'P'].contains c then
        match m.next s with
        | [] => none
        | p :: s => if isProperty p then some (.property, s) else none
      else if isAscii c && !c.isAlphanum then some (.char c false, s)
      else none

def takeAtom (m : Mode) : List Char → Option (Atom × List Char)
  | [] => none
  | '\\' :: s => takeEscape m s
  | '.' :: s => some (.anyChar, s)
  | '^' :: s | '$' :: s => some (.edge, s)
  | c :: s => some (.char c false, s)

end EnvSync.Pattern
