/-
# Printing JSON

The compact form of a value: no blanks, members of objects sorted by name, of a
repeated name only the last.  Names are sorted by code points, which is the order
of their UTF-8 bytes.  No line break and no other control character occurs in it.
-/
import EnvSync.Decimal.Layout
import EnvSync.Json.Chars
import EnvSync.Json.Value
import EnvSync.Text.Split

namespace EnvSync.Json

open Decimal

/-! ## Numbers -/

/-- Binary numbers are written positionally as long as the leading digit stands no
further than five places behind the point or sixteen before it. -/
def layout : Layout := { least := -5, greatest := 15, mark := 'e', plus := true }

def integerText (i : Int) : List Char :=
  (if i < 0 then ['-'] else []) ++ Nat.toDigits 10 i.natAbs

def Number.render : Number → List Char
  | .integer i => integerText i
  | .real negative x => (if negative then ['-'] else []) ++ layout.write (shortest x)

/-! ## Members in order -/

/-- Puts a member in its place among sorted ones; one of the same name gives way. -/
def placeMember {α : Type} (m : String × α) : List (String × α) → List (String × α)
  | [] => [m]
  | n :: ns =>
    if m.1 < n.1 then m :: n :: ns
    else if m.1 = n.1 then m :: ns
    else n :: placeMember m ns

/-- Members sorted by name; of those with one name the last remains. -/
def sortMembers {α : Type} (ms : List (String × α)) : List (String × α) :=
  ms.foldl (fun sorted m => placeMember m sorted) []

/-! ## Values -/

mutual

def render : Json → List Char
  | .null => ['n', 'u', 'l', 'l']
  | .bool true => ['t', 'r', 'u', 'e']
  | .bool false => ['f', 'a', 'l', 's', 'e']
  | .number n => n.render
  | .string s => quote s
  | .array items => '[' :: Text.join ',' (renderItems items) ++ [']']
  | .object members =>
    '{' :: Text.join ',' ((sortMembers (renderMembers members)).map fun m =>
      quote m.1 ++ ':' :: m.2) ++ ['}']

def renderItems : List Json → List (List Char)
  | [] => []
  | v :: vs => render v :: renderItems vs

def renderMembers : List (String × Json) → List (String × List Char)
  | [] => []
  | (name, v) :: ms => (name, render v) :: renderMembers ms

end

end EnvSync.Json
