/-
# The front of a text

Most readers take off the front what satisfies a test.  On a text that is put together
from such a front and a rest which does not go on with it, they find the seam.
-/
namespace EnvSync.Text

variable {p : Char → Bool} {t s : List Char}

/-- The text does not begin with a character of the test. -/
def Stops (p : Char → Bool) (s : List Char) : Prop :=
  ∀ c, s.head? = some c → p c = false

theorem takeWhile_append_of_stops (ht : ∀ c ∈ t, p c = true) (hs : Stops p s) :
    (t ++ s).takeWhile p = t := by
  rw [List.takeWhile_append_of_pos ht]
  cases s with
  | nil => exact List.append_nil t
  | cons c s => rw [List.takeWhile_cons_of_neg (by simp [hs c rfl]), List.append_nil]

theorem dropWhile_of_stops (hs : Stops p s) : s.dropWhile p = s := by
  cases s with
  | nil => rfl
  | cons c s => exact List.dropWhile_cons_of_neg (by simp [hs c rfl])

theorem dropWhile_append_of_stops (ht : ∀ c ∈ t, p c = true) (hs : Stops p s) :
    (t ++ s).dropWhile p = s := by
  rw [List.dropWhile_append_of_pos ht, dropWhile_of_stops hs]

theorem dropWhile_of_forall (ht : ∀ c ∈ t, p c = true) : t.dropWhile p = [] := by
  have h := dropWhile_append_of_stops (s := []) ht (fun _ hc => nomatch hc)
  rwa [List.append_nil] at h

theorem stops_dropWhile (p : Char → Bool) (s : List Char) : Stops p (s.dropWhile p) := by
  intro c hc
  have h := List.head?_dropWhile_not p s
  rw [hc] at h
  exact h

end EnvSync.Text
