/-
# Replacing a pair of characters

The text formats of this library know three two-character sequences that stand
for one character: backslash and `n`, backslash and `r`, and the CR LF line
break.  All three are undone by one left-to-right scan, `replacePair`.
-/
namespace EnvSync.Text

/-- Each occurrence of `a` directly followed by `b` becomes `c`.  Occurrences are
found from the left and do not overlap; what a replacement produces is not looked
at again. -/
def replacePair (a b c : Char) : List Char → List Char
  | [] => []
  | [x] => [x]
  | x :: y :: rest =>
    if x = a ∧ y = b then c :: replacePair a b c rest
    else x :: replacePair a b c (y :: rest)

theorem replacePair_pair (a b c : Char) (s : List Char) :
    replacePair a b c (a :: b :: s) = c :: replacePair a b c s := by
  simp [replacePair]

theorem replacePair_cons_of_ne {a b c x : Char} (h : x ≠ a) (s : List Char) :
    replacePair a b c (x :: s) = x :: replacePair a b c s := by
  cases s <;> simp [replacePair, h]

/-- Backslash and `n` become a line break. -/
def expandNewlines (s : List Char) : List Char :=
  replacePair '\\' 'n' '\n' s

/-- Backslash and `r` become a carriage return. -/
def expandReturns (s : List Char) : List Char :=
  replacePair '\\' 'r' '\r' s

/-- Every line ends in LF: CR LF becomes LF, and so does a CR that stands alone. -/
def unifyLineBreaks (s : List Char) : List Char :=
  (replacePair '\r' '\n' '\n' s).map fun c => if c = '\r' then '\n' else c

end EnvSync.Text
