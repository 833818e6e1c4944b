/-
# UTF-8

Text as bytes.  `encode` writes a character in one to four bytes; `decode` reads
them back and, where the bytes are no UTF-8, names the first offending place;
`decodeLossy` puts U+FFFD there and goes on.  Both readers share one table,
`lead`, of the bytes that may follow a first byte.  Overlong forms, surrogates
and values above U+10FFFF are excluded by the ranges of the table alone, so no
value is tested after it has been put together.
-/
namespace EnvSync.Text.Utf8

/-! ## Writing -/

def encodeChar (c : Char) : List UInt8 :=
  let v := c.toNat
  if v < 0x80 then [.ofNat v]
  else if v < 0x800 then [.ofNat (0xC0 + v / 0x40), .ofNat (0x80 + v % 0x40)]
  else if v < 0x10000 then
    [.ofNat (0xE0 + v / 0x1000), .ofNat (0x80 + v / 0x40 % 0x40), .ofNat (0x80 + v % 0x40)]
  else
    [.ofNat (0xF0 + v / 0x40000), .ofNat (0x80 + v / 0x1000 % 0x40),
     .ofNat (0x80 + v / 0x40 % 0x40), .ofNat (0x80 + v % 0x40)]

def encode (s : String) : List UInt8 :=
  s.toList.flatMap encodeChar

/-! ## The table of first bytes -/

/-- What is still due of a character: a closed range for each byte to come. -/
abbrev Due := List (Nat × Nat)

/-- The value bits of a first byte and the bytes that may follow it. -/
def lead (b : UInt8) : Option (Nat × Due) :=
  let v := b.toNat
  if v < 0x80 then some (v, [])
  else if v < 0xC2 then none
  else if v < 0xE0 then some (v - 0xC0, [(0x80, 0xBF)])
  else if v = 0xE0 then some (0, [(0xA0, 0xBF), (0x80, 0xBF)])
  else if v = 0xED then some (0xD, [(0x80, 0x9F), (0x80, 0xBF)])
  else if v < 0xF0 then some (v - 0xE0, [(0x80, 0xBF), (0x80, 0xBF)])
  else if v = 0xF0 then some (0, [(0x90, 0xBF), (0x80, 0xBF), (0x80, 0xBF)])
  else if v < 0xF4 then some (v - 0xF0, [(0x80, 0xBF), (0x80, 0xBF), (0x80, 0xBF)])
  else if v = 0xF4 then some (4, [(0x80, 0x8F), (0x80, 0xBF), (0x80, 0xBF)])
  else none

/-- One byte more: a first byte where nothing is due, else a byte in the range that
is due next. -/
def advance (bits : Nat) : Due → UInt8 → Option (Nat × Due)
  | [], b => lead b
  | (lo, hi) :: due, b =>
    if lo ≤ b.toNat ∧ b.toNat ≤ hi then some (bits * 0x40 + (b.toNat - 0x80), due) else none

/-! ## Strict reading -/

/-- Where bytes stop being UTF-8: the index of the first byte that belongs to no
character, and how many bytes the broken part has, or `none` where the text ends
inside a character. -/
structure Fault where
  start : Nat
  size : Option Nat
deriving DecidableEq, Repr

def Fault.message (f : Fault) : String :=
  match f.size with
  | some n => "invalid utf-8 sequence of " ++ toString n ++ " bytes from index " ++ toString f.start
  | none => "incomplete utf-8 byte sequence from index " ++ toString f.start

/-- Reads on from inside a text: the character at hand began at `start`, the next
byte has index `index`. -/
def decodeFrom (start index bits : Nat) (due : Due) : List UInt8 → Except Fault (List Char)
  | [] => if due = [] then .ok [] else .error ⟨start, none⟩
  | b :: bytes =>
    match advance bits due b with
    | none => .error ⟨start, some (max 1 (index - start))⟩
    | some (value, []) =>
      (decodeFrom (index + 1) (index + 1) 0 [] bytes).map (Char.ofNat value :: ·)
    | some (bits, due) => decodeFrom start (index + 1) bits due bytes

/-- The text that the bytes are the UTF-8 form of, or the first fault. -/
def decode (bytes : List UInt8) : Except Fault String :=
  (decodeFrom 0 0 0 [] bytes).map String.ofList

/-! ## Lossy reading -/

/-- What is read in place of a broken part. -/
def replacement : Char := '\uFFFD'

/-- As `decodeFrom`, but a broken part is read as `replacement`; the byte that broke
it starts afresh. -/
def decodeLossyFrom (bits : Nat) (due : Due) : List UInt8 → List Char
  | [] => if due = [] then [] else [replacement]
  | b :: bytes =>
    match advance bits due b with
    | some (value, []) => Char.ofNat value :: decodeLossyFrom 0 [] bytes
    | some (bits, due) => decodeLossyFrom bits due bytes
    | none =>
      if due = [] then replacement :: decodeLossyFrom 0 [] bytes
      else match lead b with
        | none => replacement :: replacement :: decodeLossyFrom 0 [] bytes
        | some (value, []) => replacement :: Char.ofNat value :: decodeLossyFrom 0 [] bytes
        | some (bits, due) => replacement :: decodeLossyFrom bits due bytes

/-- The text of the bytes, with U+FFFD for each maximal part that is no UTF-8. -/
def decodeLossy (bytes : List UInt8) : String :=
  .ofList (decodeLossyFrom 0 [] bytes)

end EnvSync.Text.Utf8
