/-
# Joined pieces

The line-by-line reader meets a joined text one piece at a time: the first piece, and
then either nothing or the separator and the pieces that are left.

A text that is split comes apart at any of its separators (`split_append`), and so it
does not matter from which end it is read (`split_reverse`).
-/
import EnvSync.Text.Split

namespace EnvSync.Text

theorem join_eq_intercalate (sep : Char) (ps : List (List Char)) :
    join sep ps = [sep].intercalate ps := by
  induction ps with
  | nil => rfl
  | cons p ps ih =>
      cases ps with
      | nil => simp [join]
      | cons q ps => rw [join_cons sep p (by simp), ih, List.intercalate_cons_cons]; simp

theorem join_cons_eq_append (sep : Char) (p : List Char) (ps : List (List Char)) :
    join sep (p :: ps) = p ++ ps.flatMap fun q => sep :: q := by
  induction ps generalizing p with
  | nil => exact (List.append_nil p).symm
  | cons q ps ih => rw [join_cons sep p (by simp), ih, List.flatMap_cons, List.cons_append]

theorem forall_mem_join {P : Char → Prop} {sep : Char} {ps : List (List Char)} (hsep : P sep)
    (h : ∀ p ∈ ps, ∀ c ∈ p, P c) : ∀ c ∈ join sep ps, P c := by
  cases ps with
  | nil => exact fun _ hc => nomatch hc
  | cons p ps =>
      rw [join_cons_eq_append]
      intro c hc
      rcases List.mem_append.1 hc with hc | hc
      · exact h p List.mem_cons_self c hc
      · obtain ⟨q, hq, hcq⟩ := List.mem_flatMap.1 hc
        rcases List.mem_cons.1 hcq with rfl | hcq
        · exact hsep
        · exact h q (List.mem_cons_of_mem p hq) c hcq

theorem notMem_join {c sep : Char} {ps : List (List Char)} (hsep : c ≠ sep)
    (hp : ∀ p ∈ ps, c ∉ p) : c ∉ join sep ps := by
  have h : ∀ d ∈ join sep ps, c ≠ d := by
    refine forall_mem_join hsep fun p hps d hd => ?_
    rintro rfl
    exact hp p hps hd
  exact fun hc => h c hc rfl

theorem infix_join_of_mem {sep : Char} {p : List Char} {ps : List (List Char)} (h : p ∈ ps) :
    p <:+: join sep ps := by
  induction ps with
  | nil => cases h
  | cons q ps ih =>
      rcases List.mem_cons.1 h with rfl | h
      · rw [join_cons_eq_append]
        exact (List.prefix_append p _).isInfix
      · rw [join_cons sep q (List.ne_nil_of_mem h)]
        exact (ih h).trans ((List.suffix_cons sep _).trans (List.suffix_append q _)).isInfix

/-! ## Split texts -/

theorem split_of_notMem {sep : Char} {s : List Char} (h : sep ∉ s) : split sep s = [s] := by
  induction s with
  | nil => rfl
  | cons c s ih =>
      rw [List.mem_cons, not_or] at h
      rw [split, if_neg (Ne.symm h.1), ih h.2]

theorem split_append (sep : Char) (s t : List Char) :
    split sep (s ++ sep :: t) = split sep s ++ split sep t := by
  induction s with
  | nil => exact if_pos rfl
  | cons c s ih =>
      rw [List.cons_append, split, split, ih]
      split
      · rfl
      · cases hs : split sep s with
        | nil => exact absurd hs (split_ne_nil sep s)
        | cons p ps => rfl

/-- A text that is read backwards has the same pieces, last to first and each read backwards. -/
theorem split_reverse (sep : Char) (s : List Char) :
    split sep s.reverse = ((split sep s).map List.reverse).reverse := by
  by_cases h : sep ∈ s
  · obtain ⟨a, b, rfl⟩ := List.append_of_mem h
    have ha := split_reverse sep a
    have hb := split_reverse sep b
    rw [List.reverse_append, List.reverse_cons, List.append_assoc, List.singleton_append,
      split_append, split_append, ha, hb, List.map_append, List.reverse_append]
  · rw [split_of_notMem h, split_of_notMem (by rwa [List.mem_reverse])]
    rfl
termination_by s.length

end EnvSync.Text
