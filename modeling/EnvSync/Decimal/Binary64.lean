/-
# Binary floating point with 53 bits

The finite numbers of the 64-bit binary format, without their sign, as a mantissa
and a power of two.  Everything is exact arithmetic on naturals: `nearest` takes a
quotient to the nearest such number, a half to the even mantissa, and products and
quotients are their exact value taken to the nearest.
-/
namespace EnvSync.Decimal

/-- The number `mantissa * 2 ^ exponent`.  The mantissa has 53 bits, or fewer where
the exponent is the least one, `-1074`. -/
structure Binary64 where
  mantissa : Nat
  exponent : Int
deriving DecidableEq, Repr

namespace Binary64

def minExponent : Int := -1074

def maxExponent : Int := 971

def zero : Binary64 := ⟨0, minExponent⟩

/-! ## Quotients -/

/-- Numerator and denominator of `num / den * 2 ^ e`. -/
def scaled (num den : Nat) (e : Int) : Nat × Nat :=
  if 0 ≤ e then (num * Nat.pow 2 e.toNat, den) else (num, den * Nat.pow 2 (-e).toNat)

/-- The greatest `e` with `2 ^ e ≤ num / den`, for a positive quotient. -/
def magnitude (num den : Nat) : Int :=
  let e : Int := Nat.log2 num - Nat.log2 den
  let q := scaled num den (-e)
  if q.2 ≤ q.1 then e else e - 1

/-- The natural number nearest to `num / den`; of two, the even one. -/
def roundHalfEven (num den : Nat) : Nat :=
  let q := num / den
  let twice := 2 * (num % den)
  if den < twice ∨ (twice = den ∧ q % 2 = 1) then q + 1 else q

/-- The number nearest to `num / den`, or `none` where that is beyond the greatest
one. -/
def nearest (num den : Nat) : Option Binary64 :=
  if num = 0 then some zero
  else
    let e := max (magnitude num den - 52) minExponent
    let q := scaled num den (-e)
    let m := roundHalfEven q.1 q.2
    let x : Binary64 := if m = Nat.pow 2 53 then ⟨Nat.pow 2 52, e + 1⟩ else ⟨m, e⟩
    if maxExponent < x.exponent then none else some x

/-- Numerator and denominator of a number. -/
def ratio (x : Binary64) : Nat × Nat :=
  scaled x.mantissa 1 x.exponent

/-! ## Arithmetic -/

/-- The natural number nearest to `n` in the format. -/
def ofNat (n : Nat) : Option Binary64 := nearest n 1

/-- The product, or `none` where it is too great. -/
def mul (x y : Binary64) : Option Binary64 :=
  nearest (x.ratio.1 * y.ratio.1) (x.ratio.2 * y.ratio.2)

/-- The quotient, or `none` where it is too great or `y` is zero. -/
def div (x y : Binary64) : Option Binary64 :=
  if y.mantissa = 0 then none
  else nearest (x.ratio.1 * y.ratio.2) (x.ratio.2 * y.ratio.1)

end Binary64
end EnvSync.Decimal
