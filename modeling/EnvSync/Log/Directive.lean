/-
# Directives

A directive gives a threshold to some events: those whose target begins with its own,
and if it names a field those that have this field.  It is written as

    target[span{field=value}]=level

where a part may be left out with what belongs to it, and a level may stand alone.

Spans are stretches of a run that a directive can ask an event to be in, and values
of fields are known of spans only.  No run here has spans, so a directive that asks
for a span or a value is understood, but gives no event a threshold.
-/
import EnvSync.Log.Event
import EnvSync.Pattern.Valid
import EnvSync.Text.Slice
import EnvSync.Text.Split

namespace EnvSync.Log

/-! ## What a directive says -/

/-- How far down events are logged; with `none`, not at all. -/
abbrev Threshold := Option Level

def Level.passes (l : Level) : Threshold → Bool
  | none => false
  | some t => l.rank ≤ t.rank

/-- A field that has to be there, with a value if one is wanted. -/
structure FieldTest where
  name : String
  value : Option (List Char)
deriving DecidableEq, Repr

/-- A threshold, and the events that it is for. -/
structure Directive where
  /-- What targets begin with. -/
  target : List Char
  span : Option (List Char)
  field : Option FieldTest
  threshold : Threshold
deriving DecidableEq, Repr

namespace Directive

def everywhere (t : Threshold) : Directive := ⟨[], none, none, t⟩

/-- An event has the field that a directive names, if it names one. -/
def fieldApplies (d : Directive) (e : Event) : Bool :=
  match d.field with
  | none => true
  | some f => f.value.isNone && e.fieldNames.contains f.name

/-- A directive has a threshold for an event. -/
def applies (d : Directive) (e : Event) : Bool :=
  d.span.isNone && d.target.isPrefixOf e.target.toList && d.fieldApplies e

/-- Of two directives that apply, the later one counts unless the earlier one is closer to
the event: it has a longer target, or as long a target and a field where the later one
has none or one whose name comes first. -/
def yieldsTo (earlier later : Directive) : Bool :=
  if later.target.length ≠ earlier.target.length then
    earlier.target.length < later.target.length
  else
    match earlier.field, later.field with
    | some f, some g => f.name ≤ g.name
    | some _, none => false
    | none, _ => true

end Directive

/-! ## Levels as they are written -/

/-- A threshold by its number: nothing at 0, everything at 5. -/
def thresholdOfNumber? (n : Nat) : Option Threshold :=
  if n = 0 then some none
  else (Level.all.find? fun l => l.rank = n).map some

/-- A decimal number, a plus sign allowed in front. -/
def number? (s : List Char) : Option Nat :=
  let ds := match s with
    | '+' :: r => r
    | r => r
  if ds ≠ [] ∧ ds.all Char.isDigit then
    some (ds.foldl (fun n c => n * 10 + (c.toNat - '0'.toNat)) 0)
  else none

/-- A threshold by its name, in any case, or by its number.  `off` stands for none. -/
def threshold? (s : List Char) : Option Threshold :=
  match (number? s).bind thresholdOfNumber? with
  | some t => some t
  | none =>
    let name := s.map Char.toUpper
    if name = ['O', 'F', 'F'] then some none
    else (Level.all.find? fun l => l.name.toList = name).map some

/-! ## Values as they are written -/

/-- A number as values have them: with a sign, a fraction and an exponent, or endless, or
none at all. -/
def isNumber (s : List Char) : Bool :=
  let s := match s with
    | '+' :: r | '-' :: r => r
    | r => r
  let name := s.map Char.toLower
  let whole := s.takeWhile Char.isDigit
  let r := s.dropWhile Char.isDigit
  let fraction := match r with
    | '.' :: r => r.takeWhile Char.isDigit
    | _ => []
  let r := match r with
    | '.' :: r => r.dropWhile Char.isDigit
    | r => r
  let exponent := match r with
    | [] => true
    | e :: '+' :: ds | e :: '-' :: ds => e.toLower = 'e' && !ds.isEmpty && ds.all Char.isDigit
    | e :: ds => e.toLower = 'e' && !ds.isEmpty && ds.all Char.isDigit
  ["inf".toList, "infinity".toList, "nan".toList].contains name ||
    (!(whole ++ fraction).isEmpty && exponent)

/-- A value: a number, or a pattern. -/
def isValue (s : List Char) : Bool := isNumber s || Pattern.isValid s

/-- The test that is written as a name, or as a name and a value.  What follows a second
equals sign does not count. -/
def FieldTest.ofText? (s : List Char) : Option FieldTest :=
  match Text.split '=' s with
  | [] => none
  | [name] => some ⟨.ofList name, none⟩
  | name :: value :: _ => if isValue value then some ⟨.ofList name, some value⟩ else none

/-! ## Directives as they are written -/

inductive Fault where
  | malformed
  /-- A part begins or ends inside a character. -/
  | insideCharacter
deriving DecidableEq, Repr

namespace Directive

def beginsTarget (c : Char) : Bool :=
  ['-', ':', '_'].contains c || Text.isAlphanumeric c

/-- A place in a piece: the bytes that have gone by and the characters that are left,
both without the blanks around the piece. -/
structure Mark where
  gone : Nat
  left : List Char
deriving DecidableEq, Repr

/-- The next place where a character stops, or the end. -/
def Mark.reach (m : Mark) (stops : Char → Bool) : Mark :=
  ⟨m.gone + Text.byteSize (m.left.takeWhile fun c => !stops c),
   m.left.dropWhile fun c => !stops c⟩

/-- The place behind a character of one byte. -/
def Mark.pass (m : Mark) : Mark := ⟨m.gone + 1, m.left.tail⟩

/-- The part of a piece between two places.

Places are found in the piece without the blanks around it, but parts are taken from the
piece as it is.  So with blanks in front of it every part begins and ends too early, and
may do so inside a character. -/
def part (piece : List Char) (a b : Mark) : Except Fault (List Char) :=
  match Text.slice? piece a.gone (b.gone - a.gone) with
  | some s => .ok s
  | none => .error .insideCharacter

/-- The threshold that is written from a place on; everything passes where nothing is
written. -/
def levelFrom (piece : List Char) (m : Mark) : Except Fault Threshold :=
  match Text.dropBytes? m.gone piece with
  | none => .error .insideCharacter
  | some [] => .ok (some .trace)
  | some s =>
    match threshold? s with
    | some t => .ok t
    | none => .error .malformed

/-- The threshold at the end of a piece.  Without an equals sign nothing may be left. -/
def ending (piece : List Char) (m : Mark) : Except Fault Threshold :=
  match m.left with
  | [] => .ok (some .trace)
  | '=' :: _ => levelFrom piece m.pass
  | _ => .error .malformed

def fieldBetween (piece : List Char) (a b : Mark) : Except Fault FieldTest :=
  match part piece a b with
  | .error f => .error f
  | .ok [] => .error .malformed
  | .ok s =>
    match FieldTest.ofText? s with
    | some f => .ok f
    | none => .error .malformed

/-- The span that is asked for before a field.  An empty name asks for none. -/
def spanBeforeField (name : List Char) : Option (List Char) :=
  if name = [] then none else some name

/-- The directive for a target with a bracket, from behind the opening of the bracket. -/
def withBracket (piece target : List Char) (a : Mark) : Except Fault Directive :=
  let b := a.reach fun c => c = ']' || c = '\x7b'
  match b.left with
  | [] => .error .malformed
  | ']' :: _ => do
    let span ← part piece a b
    let t ← ending piece b.pass
    .ok ⟨target, some span, none, t⟩
  | _ => do
    let span ← part piece a b
    let c := b.pass.reach fun c => c = '\x7d'
    if c.left = [] then .error .malformed
    else
      let f ← fieldBetween piece b.pass c
      match c.pass.left with
      | ']' :: _ =>
        let t ← ending piece c.pass.pass
        .ok ⟨target, spanBeforeField span, some f, t⟩
      | _ => .error .malformed

/-- The directive that is a word: a level if it can be one, and else a target whose events
all pass. -/
def ofWord (word : List Char) : Directive :=
  match threshold? word with
  | some t => everywhere t
  | none => ⟨word, none, none, some .trace⟩

def ofPiece (piece : List Char) : Except Fault Directive :=
  match Text.trim piece with
  | [] => .error .malformed
  | c :: s =>
    if c ≠ '[' && !beginsTarget c then .error .malformed
    else
      let a : Mark := ⟨0, c :: s⟩
      let b := a.reach fun c => c = '=' || c = '['
      match b.left with
      | [] => .ok (ofWord piece)
      | '=' :: _ => do
        let target ← part piece a b
        let t ← levelFrom piece b.pass
        .ok ⟨target, none, none, t⟩
      | _ => do
        let target ← part piece a b
        withBracket piece target b.pass

end Directive
end EnvSync.Log
