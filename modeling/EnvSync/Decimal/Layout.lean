/-
# Writing digits down

A decimal is written positionally where its leading digit is near the point, and
with a power of ten where not.  Where "near" ends is part of a record, so a format
is one value of `Layout`.
-/
import EnvSync.Decimal.Shortest

namespace EnvSync.Decimal

structure Layout where
  /-- The least exponent of the leading digit that is written positionally. -/
  least : Int
  /-- The greatest one. -/
  greatest : Int
  /-- The mark before the power of ten. -/
  mark : Char
  /-- Whether a power of ten that is not negative has a sign. -/
  plus : Bool
deriving DecidableEq, Repr

def zeros (n : Nat) : List Char := List.replicate n '0'

/-- The digits `ds` with the point behind the first `n` of them; at least one digit
stands on either side of it. -/
def pointAfter (n : Nat) (ds : List Char) : List Char :=
  let whole := if n = 0 then ['0'] else ds.take n ++ zeros (n - ds.length)
  let part := ds.drop n
  whole ++ '.' :: (if part = [] then ['0'] else part)

/-- The text of a decimal that is not negative. -/
def Layout.write (l : Layout) (d : Digits) : List Char :=
  let ds := Nat.toDigits 10 d.digits
  let e := d.exponent + (ds.length - 1 : Int)
  if d.digits = 0 then ['0', '.', '0']
  else if e < l.least ∨ l.greatest < e then
    let power := (if e < 0 then ['-'] else if l.plus then ['+'] else []) ++
      Nat.toDigits 10 e.natAbs
    match ds with
    | c :: cs@(_ :: _) => c :: '.' :: cs ++ l.mark :: power
    | _ => ds ++ l.mark :: power
  else if e < 0 then pointAfter 0 (zeros (e.natAbs - 1) ++ ds)
  else pointAfter (e.toNat + 1) ds

end EnvSync.Decimal
