/-
# Blank characters

What separates words is decided in one place: a character is blank when it has
the Unicode property White_Space.  Twenty-five characters have it; NEXT LINE,
NO-BREAK SPACE and the IDEOGRAPHIC SPACE are among them, ZERO WIDTH SPACE, the
BYTE ORDER MARK and the four information separators are not.
-/
namespace EnvSync.Text

/-- The White_Space characters, as closed ranges of code points. -/
def blankRanges : List (Nat × Nat) :=
  [(0x09, 0x0D), (0x20, 0x20), (0x85, 0x85), (0xA0, 0xA0), (0x1680, 0x1680), (0x2000, 0x200A),
   (0x2028, 0x2029), (0x202F, 0x202F), (0x205F, 0x205F), (0x3000, 0x3000)]

def isBlank (c : Char) : Bool :=
  blankRanges.any fun r => r.1 ≤ c.toNat && c.toNat ≤ r.2

/-- The table has all that core calls whitespace. -/
theorem isBlank_of_isWhitespace {c : Char} (h : c.isWhitespace = true) : isBlank c = true := by
  simp only [Char.isWhitespace, Bool.or_eq_true, decide_eq_true_eq] at h
  rcases h with (((h | h) | h) | h) <;> subst h <;> decide

/-! ## Trimming -/

def trimStart (s : List Char) : List Char :=
  s.dropWhile isBlank

def trimEnd (s : List Char) : List Char :=
  (s.reverse.dropWhile isBlank).reverse

/-- Without the blanks at either end. -/
def trim (s : List Char) : List Char :=
  trimEnd (trimStart s)

end EnvSync.Text
