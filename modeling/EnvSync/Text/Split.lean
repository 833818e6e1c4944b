/-
# Splitting at a character

`split sep s` cuts `s` at every `sep`; `join_split` says that putting the
separators back gives `s`, so no character is lost.
-/
namespace EnvSync.Text

/-- The pieces of `s` between the occurrences of `sep`, empty pieces included. -/
def split (sep : Char) : List Char → List (List Char)
  | [] => [[]]
  | c :: s =>
    if c = sep then [] :: split sep s
    else match split sep s with
      | [] => [[c]]
      | piece :: pieces => (c :: piece) :: pieces

theorem split_ne_nil (sep : Char) (s : List Char) : split sep s ≠ [] := by
  cases s with
  | nil => simp [split]
  | cons c s =>
    simp only [split]
    split
    · simp
    · split <;> simp

/-- The pieces, with one `sep` between each two. -/
def join (sep : Char) : List (List Char) → List Char
  | [] => []
  | [piece] => piece
  | piece :: pieces => piece ++ sep :: join sep pieces

theorem join_cons (sep : Char) (piece : List Char) {pieces : List (List Char)} (h : pieces ≠ []) :
    join sep (piece :: pieces) = piece ++ sep :: join sep pieces := by
  cases pieces with
  | nil => exact absurd rfl h
  | cons => rfl

theorem join_split (sep : Char) (s : List Char) : join sep (split sep s) = s := by
  induction s with
  | nil => rfl
  | cons c s ih =>
    simp only [split]
    split
    · next h => rw [join_cons _ _ (split_ne_nil sep s), ih, h]; rfl
    · split
      · next h => exact absurd h (split_ne_nil sep s)
      · next piece pieces h =>
        rw [h] at ih
        cases pieces with
        | nil => simpa [join] using ih
        | cons => simpa [join] using ih

end EnvSync.Text
