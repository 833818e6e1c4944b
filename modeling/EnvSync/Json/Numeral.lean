/-
# Numerals

How a number is written in JSON, and the number it stands for.  The two are kept
apart: `takeNumeral` knows the grammar and no arithmetic, `Numeral.number?` the
arithmetic and no grammar.

The arithmetic is that of a reader that gathers digits in 64 bits.  Digits are taken
into a significand as long as it stays below `2 ^ 64`; from then on digits of the
whole part count as a power of ten each and digits of the fraction as nothing.  The
significand is taken to the nearest binary number and then multiplied or divided by
one power of ten, itself the nearest binary number.  So a result can be off by a
last place, and is the same for everyone.
-/
import EnvSync.Json.Value

namespace EnvSync.Json

open Decimal

/-! ## The written form -/

/-- A number as it is written: sign, whole part, digits behind the point, and the
power of ten with its sign. -/
structure Numeral where
  negative : Bool
  whole : List Char
  fraction : Option (List Char)
  power : Option (Bool × List Char)
deriving DecidableEq, Repr

/-- The digits at the front, at least one, and what follows. -/
def takeDigits (s : List Char) : Option (List Char × List Char) :=
  let ds := s.takeWhile Char.isDigit
  if ds = [] then none else some (ds, s.dropWhile Char.isDigit)

/-- The whole part: a zero that stands alone, or digits that do not begin with zero. -/
def takeWhole (s : List Char) : Option (List Char × List Char) :=
  match takeDigits s with
  | some ('0' :: _ :: _, _) => none
  | r => r

/-- The digits behind a point, if there is a point. -/
def takeFraction : List Char → Option (Option (List Char) × List Char)
  | '.' :: s => (takeDigits s).map fun r => (some r.1, r.2)
  | s => some (none, s)

def takeSign : List Char → Bool × List Char
  | '-' :: s => (true, s)
  | '+' :: s => (false, s)
  | s => (false, s)

def takePower : List Char → Option (Option (Bool × List Char) × List Char)
  | c :: s =>
    if c = 'e' ∨ c = 'E' then
      (takeDigits (takeSign s).2).map fun r => (some ((takeSign s).1, r.1), r.2)
    else some (none, c :: s)
  | [] => some (none, [])

def takeMinus : List Char → Bool × List Char
  | '-' :: s => (true, s)
  | s => (false, s)

def takeNumeral (s : List Char) : Option (Numeral × List Char) := do
  let (negative, s) := takeMinus s
  let (whole, s) ← takeWhole s
  let (fraction, s) ← takeFraction s
  let (power, s) ← takePower s
  some (⟨negative, whole, fraction, power⟩, s)

/-! ## The number -/

def digitValue (c : Char) : Nat := c.toNat - '0'.toNat

def digitsValue (ds : List Char) : Nat :=
  ds.foldl (fun n c => n * 10 + digitValue c) 0

/-- A significand stays below this. -/
def significandBound : Nat := Nat.pow 2 64

/-- The significand of a whole part, and the number of digits that did not fit. -/
def gatherWhole (ds : List Char) : Nat × Nat :=
  ds.foldl (fun (n, left) c =>
    if left = 0 ∧ n * 10 + digitValue c < significandBound then (n * 10 + digitValue c, 0)
    else (n, left + 1)) (0, 0)

/-- The significand `n` with the digits of a fraction as far as they fit, and how many
did. -/
def gatherFraction (n : Nat) : List Char → Nat × Nat
  | [] => (n, 0)
  | c :: ds =>
    if n * 10 + digitValue c < significandBound then
      let r := gatherFraction (n * 10 + digitValue c) ds
      (r.1, r.2 + 1)
    else (n, 0)

/-- The greatest power of ten that is used at once. -/
def maxPower : Nat := 308

/-- The binary number nearest to a power of ten. -/
def powerOfTen (n : Nat) : Option Binary64 := Binary64.ofNat (Nat.pow 10 n)

/-- Divides by the greatest power of ten, time after time, until zero is reached. -/
def divideDown : Nat → Binary64 → Option Binary64
  | 0, x => some x
  | n + 1, x =>
    if x.mantissa = 0 then some x
    else (powerOfTen maxPower).bind fun p => (x.div p).bind (divideDown n)

/-- The product of `x` and the power `10 ^ e`, or `none` where that is too great. -/
def scale (x : Binary64) (e : Int) : Option Binary64 :=
  if x.mantissa = 0 then some x
  else if 0 ≤ e then
    if e ≤ maxPower then (powerOfTen e.toNat).bind x.mul else none
  else
    let strides := (e.natAbs - 1) / maxPower
    (divideDown strides x).bind fun x =>
      (powerOfTen (e.natAbs - strides * maxPower)).bind x.div

/-- The power of ten of a numeral as it is written. -/
def Numeral.writtenPower (n : Numeral) : Int :=
  match n.power with
  | none => 0
  | some (negative, ds) => if negative then -(digitsValue ds : Int) else digitsValue ds

/-- The numeral as a binary number, or `none` where that is too great. -/
def Numeral.real? (n : Numeral) : Option Number :=
  let (whole, left) := gatherWhole n.whole
  let (significand, taken) := gatherFraction whole (n.fraction.getD [])
  (Binary64.ofNat significand).bind fun x =>
    (scale x (left - taken + n.writtenPower)).map (.real n.negative)

/-- The number that a numeral stands for.  Written without point and power it is an
integer if it fits in 64 bits; a negative zero does not count as one. -/
def Numeral.number? (n : Numeral) : Option Number :=
  if n.fraction = none ∧ n.power = none then
    let v := digitsValue n.whole
    if n.negative then
      if 0 < v ∧ v ≤ Nat.pow 2 63 then some (.integer (-v)) else n.real?
    else if v < Nat.pow 2 64 then some (.integer v) else n.real?
  else n.real?

end EnvSync.Json
