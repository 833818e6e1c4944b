/-
# JSON values

A value is what a JSON text says, in the order in which it says it: an object keeps
its members as they are written, repeated names included.  Only the printer puts
members in order (`Json.render`).

A number is an integer where it is written as one and fits in 64 bits, signed or
unsigned.  Every other number is a binary one, kept as sign and magnitude because
zero has a sign too.
-/
import EnvSync.Decimal.Binary64

namespace EnvSync

open Decimal (Binary64)

inductive Json.Number where
  | integer (value : Int)
  | real (negative : Bool) (magnitude : Binary64)
deriving DecidableEq, Repr

inductive Json where
  | null
  | bool (value : Bool)
  | number (value : Json.Number)
  | string (value : String)
  | array (items : List Json)
  | object (members : List (String × Json))
deriving Repr

end EnvSync
