/-
# The fewest digits that read back

Every number of the binary format is the nearest one to a whole interval of
reals.  `shortest` gives the decimal with the fewest digits in that interval and,
of those, the one closest to the number.  It looks at grids of decimals that grow
finer by one digit at a time: on each, only the two neighbours of the number can be
the closest point of the interval, so only they are looked at.
-/
import EnvSync.Decimal.Binary64

namespace EnvSync.Decimal

/-- The decimal `digits * 10 ^ exponent`. -/
structure Digits where
  digits : Nat
  exponent : Int
deriving DecidableEq, Repr

/-! ## The interval of a number

Both ends and the number itself are multiples of a quarter of its last place, so
the interval is kept as three naturals over that unit. -/

/-- The reals that read as a number: `low * unit` to `high * unit`, the ends
included where the mantissa is even; the number is `middle * unit`. -/
structure Interval where
  low : Nat
  middle : Nat
  high : Nat
  unit : Int
  closed : Bool

/-- Below a power of two the neighbour is only half as far away as above. -/
def Binary64.interval (x : Binary64) : Interval :=
  let below := if x.mantissa = Nat.pow 2 52 ∧ x.exponent ≠ minExponent then 1 else 2
  { low := 4 * x.mantissa - below
    middle := 4 * x.mantissa
    high := 4 * x.mantissa + 2
    unit := x.exponent - 2
    closed := x.mantissa % 2 = 0 }

/-- Numerator and denominator of `n * 10 ^ e / 2 ^ u`. -/
def decimalOverUnit (n : Nat) (e u : Int) : Nat × Nat :=
  let q := Binary64.scaled n 1 (-u)
  if 0 ≤ e then (q.1 * Nat.pow 10 e.toNat, q.2) else (q.1, q.2 * Nat.pow 10 (-e).toNat)

/-- A decimal lies in the interval. -/
def Interval.holds (i : Interval) (d : Digits) : Bool :=
  let q := decimalOverUnit d.digits d.exponent i.unit
  if i.closed then decide (i.low * q.2 ≤ q.1 ∧ q.1 ≤ i.high * q.2)
  else decide (i.low * q.2 < q.1 ∧ q.1 < i.high * q.2)

/-! ## The search -/

/-- The greatest multiple of `10 ^ e` that is no greater than the number. -/
def Interval.floor (i : Interval) (e : Int) : Nat :=
  let q := decimalOverUnit 1 e i.unit
  i.middle * q.2 / q.1

/-- Twice the remainder that `floor` leaves, against the step of the grid. -/
def Interval.twiceRest (i : Interval) (e : Int) : Ordering :=
  let q := decimalOverUnit 1 e i.unit
  compare (2 * (i.middle * q.2 % q.1)) q.1

/-- The point of the grid `10 ^ e` that is closest to the number, among those of its
two neighbours that lie in the interval; of two equally close ones the even. -/
def Interval.pick (i : Interval) (e : Int) : Option Digits :=
  let down : Digits := ⟨i.floor e, e⟩
  let up : Digits := ⟨i.floor e + 1, e⟩
  match i.holds down, i.holds up with
  | false, false => none
  | true, false => some down
  | false, true => some up
  | true, true =>
    match i.twiceRest e with
    | .lt => some down
    | .gt => some up
    | .eq => some (if down.digits % 2 = 0 then down else up)

/-- The first grid with a point in the interval, from `10 ^ e` on to finer ones. -/
def Interval.search (i : Interval) : Nat → Int → Digits
  | 0, e => ⟨i.floor e, e⟩
  | n + 1, e =>
    match i.pick e with
    | some d => d
    | none => i.search n (e - 1)

/-- An exponent of ten above the number, so that the search starts with one digit. -/
def Interval.topExponent (i : Interval) : Int :=
  ((Nat.log2 i.middle + i.unit + 1) * 30103).fdiv 100000 + 1

/-- The decimal without zeros at its end. -/
def Digits.strip : Nat → Digits → Digits
  | 0, d => d
  | n + 1, d =>
    if d.digits ≠ 0 ∧ d.digits % 10 = 0 then strip n ⟨d.digits / 10, d.exponent + 1⟩ else d

/-- The shortest decimal that reads as `x`.  Seventeen digits always do, so the
search needs no more grids than that and the few above the number. -/
def shortest (x : Binary64) : Digits :=
  if x.mantissa = 0 then ⟨0, 0⟩
  else
    let i := x.interval
    (i.search 20 i.topExponent).strip 20

end EnvSync.Decimal
