/-
# Characters of JSON strings

Between the quotes of a string a character stands for itself, or an escape stands
for it.  `takeChar` reads one character however it is spelled; `escape` writes it
the one way the printer knows.
-/
import EnvSync.Text.Hex

namespace EnvSync.Json

/-! ## Reading -/

/-- The UTF-16 unit that four hexadecimal digits stand for. -/
def takeUnit : List Char → Option (Nat × List Char)
  | a :: b :: c :: d :: s => do
    let a ← Text.hexValue a
    let b ← Text.hexValue b
    let c ← Text.hexValue c
    let d ← Text.hexValue d
    some (((a * 16 + b) * 16 + c) * 16 + d, s)
  | _ => none

def isHighSurrogate (u : Nat) : Bool := 0xD800 ≤ u && u < 0xDC00

def isLowSurrogate (u : Nat) : Bool := 0xDC00 ≤ u && u < 0xE000

def pairChar (high low : Nat) : Char :=
  .ofNat (0x10000 + (high - 0xD800) * 0x400 + (low - 0xDC00))

/-- What follows `\u`: the digits of one unit, or of a surrogate pair with its second
`\u`.  Half a pair is no character. -/
def takeUnicode (s : List Char) : Option (Char × List Char) :=
  match takeUnit s with
  | none => none
  | some (u, s) =>
    if isHighSurrogate u then
      match s with
      | '\\' :: 'u' :: s =>
        match takeUnit s with
        | none => none
        | some (v, s) => if isLowSurrogate v then some (pairChar u v, s) else none
      | _ => none
    else if isLowSurrogate u then none
    else some (.ofNat u, s)

/-- The character of a backslash escape of one letter. -/
def shortEscape : Char → Option Char
  | '"' => some '"'
  | '\\' => some '\\'
  | '/' => some '/'
  | 'b' => some '\x08'
  | 'f' => some '\x0c'
  | 'n' => some '\n'
  | 'r' => some '\r'
  | 't' => some '\t'
  | _ => none

/-- One character of a string, and what follows.  The quote that ends the string is
none, nor is a control character that is not escaped. -/
def takeChar : List Char → Option (Char × List Char)
  | [] => none
  | '"' :: _ => none
  | '\\' :: 'u' :: s => takeUnicode s
  | '\\' :: c :: s => (shortEscape c).map fun c => (c, s)
  | c :: s => if c < ' ' ∨ c = '\\' then none else some (c, s)

theorem suffix_of_takeUnit {s rest : List Char} {u : Nat} (h : takeUnit s = some (u, rest)) :
    rest <:+ s ∧ rest.length < s.length := by
  match s with
  | a :: b :: c :: d :: s =>
    simp only [takeUnit, Option.bind_eq_bind, Option.bind_eq_some_iff, Option.some.injEq,
      Prod.mk.injEq] at h
    obtain ⟨_, -, _, -, _, -, _, -, -, rfl⟩ := h
    exact ⟨⟨[a, b, c, d], rfl⟩, by simp only [List.length_cons]; omega⟩
  | [] | [_] | [_, _] | [_, _, _] => simp [takeUnit] at h

theorem suffix_of_takeUnicode {s rest : List Char} {c : Char}
    (h : takeUnicode s = some (c, rest)) : rest <:+ s ∧ rest.length < s.length := by
  simp only [takeUnicode] at h
  split at h
  · cases h
  · next u t hu =>
    obtain ⟨hs, hl⟩ := suffix_of_takeUnit hu
    split at h
    · split at h
      · split at h
        · cases h
        · next v r hv =>
          obtain ⟨hs', hl'⟩ := suffix_of_takeUnit hv
          split at h
          · simp only [Option.some.injEq, Prod.mk.injEq] at h
            obtain ⟨-, rfl⟩ := h
            have hp : ∀ t : List Char, t <:+ '\\' :: 'u' :: t := fun t => ⟨['\\', 'u'], rfl⟩
            exact ⟨(hs'.trans (hp _)).trans hs, by simp only [List.length_cons] at hl; omega⟩
          · cases h
      · cases h
    · split at h
      · cases h
      · simp only [Option.some.injEq, Prod.mk.injEq] at h
        obtain ⟨-, rfl⟩ := h
        exact ⟨hs, hl⟩

theorem suffix_of_takeChar {s rest : List Char} {c : Char} (h : takeChar s = some (c, rest)) :
    rest <:+ s ∧ rest.length < s.length := by
  unfold takeChar at h
  split at h
  · cases h
  · cases h
  · obtain ⟨hs, hl⟩ := suffix_of_takeUnicode h
    have hp : ∀ t : List Char, t <:+ '\\' :: 'u' :: t := fun t => ⟨['\\', 'u'], rfl⟩
    exact ⟨hs.trans (hp _), by simp only [List.length_cons]; omega⟩
  · next d t =>
    obtain ⟨e, -, he⟩ := Option.map_eq_some_iff.1 h
    simp only [Prod.mk.injEq] at he
    obtain ⟨-, rfl⟩ := he
    exact ⟨⟨['\\', _], rfl⟩, by simp only [List.length_cons]; omega⟩
  · split at h
    · cases h
    · simp only [Option.some.injEq, Prod.mk.injEq] at h
      obtain ⟨-, rfl⟩ := h
      exact ⟨List.suffix_cons _ _, by simp⟩

/-- The characters of a string whose opening quote has been read, and what follows its
closing quote. -/
def takeChars (s : List Char) : Option (List Char × List Char) :=
  match s with
  | '"' :: rest => some ([], rest)
  | s =>
    match _h : takeChar s with
    | none => none
    | some (c, rest) => (takeChars rest).map fun r => (c :: r.1, r.2)
termination_by s.length
decreasing_by exact (suffix_of_takeChar _h).2

/-- A string whose opening quote has been read, and what follows. -/
def takeString (s : List Char) : Option (String × List Char) :=
  (takeChars s).map fun r => (.ofList r.1, r.2)

/-! ## Writing -/

/-- A character of a string as it is written: quote, backslash and the control
characters are escaped, all else stands for itself. -/
def escape (c : Char) : List Char :=
  if c = '"' then ['\\', '"']
  else if c = '\\' then ['\\', '\\']
  else if c = '\x08' then ['\\', 'b']
  else if c = '\x0c' then ['\\', 'f']
  else if c = '\n' then ['\\', 'n']
  else if c = '\r' then ['\\', 'r']
  else if c = '\t' then ['\\', 't']
  else if c < ' ' then
    ['\\', 'u', '0', '0', Nat.digitChar (c.toNat / 16), Nat.digitChar (c.toNat % 16)]
  else [c]

def quote (s : String) : List Char :=
  '"' :: s.toList.flatMap escape ++ ['"']

end EnvSync.Json
