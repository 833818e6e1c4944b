/-
# Occurrences of a pair

What the scan for a pair makes of any text, whatever stands around the pair.  Where the two
characters of the pair differ its occurrences do not overlap, and a text is the pieces between
them, so that the scan only puts another separator between the same pieces
(`replacePair_intercalate`).

No occurrence is left over, and none comes about: a new one would need two characters side by
side that were kept apart before, and between those the replacement stands
(`not_infix_replacePair`).  For the same reason the scan for one pair leaves alone the
occurrences of another one with the same first character (`occurrences_replacePair`).
-/
import EnvSync.Proofs.Text.Join
import EnvSync.Proofs.Text.LineBreaks

namespace EnvSync.Text

variable {a b c d x : Char} {s t : List Char}

/-! ## Where a pair stands -/

/-- The number of places at which `a` is directly followed by `b`. -/
def occurrences (a b : Char) (s : List Char) : Nat := (s.zip s.tail).count (a, b)

theorem occurrences_cons (a b x : Char) (s : List Char) :
    occurrences a b (x :: s) =
      occurrences a b s + if x = a ∧ s.head? = some b then 1 else 0 := by
  cases s with
  | nil => simp [occurrences]
  | cons y s => simp [occurrences, List.count_cons]

theorem pair_infix_cons_iff :
    [a, b] <:+: x :: s ↔ (x = a ∧ s.head? = some b) ∨ [a, b] <:+: s := by
  rw [List.infix_cons_iff, List.cons_prefix_cons, List.singleton_prefix_iff_head?_eq_some]
  exact or_congr_left (and_congr_left fun _ => eq_comm)

theorem occurrences_eq_zero_iff : occurrences a b s = 0 ↔ ¬ [a, b] <:+: s := by
  induction s with
  | nil => simp [occurrences]
  | cons x s ih =>
      rw [occurrences_cons, pair_infix_cons_iff, not_or, ← ih]
      by_cases h : x = a ∧ s.head? = some b <;> simp [h]

/-- No occurrence lies across a cut behind which the second character does not stand. -/
theorem occurrences_append_cons (hx : x ≠ b) (s t : List Char) :
    occurrences a b (s ++ x :: t) = occurrences a b s + occurrences a b (x :: t) := by
  induction s with
  | nil => simp [occurrences]
  | cons y s ih =>
      have hhead : (s ++ x :: t).head? = some b ↔ s.head? = some b := by
        cases s with
        | nil => simp [hx]
        | cons z s => rfl
      simp only [List.cons_append, occurrences_cons, ih, hhead]
      omega

/-! ## What the scan leaves -/

theorem mem_of_mem_replacePair (hx : x ≠ c) (h : x ∈ replacePair a b c s) : x ∈ s := by
  fun_induction replacePair a b c s with
  | case1 | case2 => exact h
  | case3 y z s _ ih =>
      rcases List.mem_cons.1 h with rfl | h
      · exact absurd rfl hx
      · exact List.mem_cons_of_mem y (List.mem_cons_of_mem z (ih h))
  | case4 y z s _ ih =>
      rcases List.mem_cons.1 h with rfl | h
      · exact List.mem_cons_self
      · exact List.mem_cons_of_mem y (ih h)

theorem head?_replacePair_eq_some_iff (hdc : d ≠ c) (hda : d ≠ a) :
    (replacePair a b c s).head? = some d ↔ s.head? = some d := by
  fun_cases replacePair a b c s with
  | case1 | case2 => exact Iff.rfl
  | case3 y z s h =>
      obtain ⟨rfl, -⟩ := h
      simp [Ne.symm hdc, Ne.symm hda]
  | case4 y z s h => exact Iff.rfl

/-- The scan leaves no occurrence over, and makes none. -/
theorem not_infix_replacePair (hca : c ≠ a) (hcb : c ≠ b) (hab : a ≠ b) (s : List Char) :
    ¬ [a, b] <:+: replacePair a b c s := by
  fun_induction replacePair a b c s with
  | case1 => simp
  | case2 y => simp [pair_infix_cons_iff]
  | case3 y z s _ ih =>
      rw [pair_infix_cons_iff, not_or]
      exact ⟨fun h => hca h.1, ih⟩
  | case4 y z s hyz ih =>
      rw [pair_infix_cons_iff, not_or, head?_replacePair_eq_some_iff hcb.symm hab.symm]
      refine ⟨?_, ih⟩
      rintro ⟨hy, hz⟩
      exact hyz ⟨hy, Option.some.inj hz⟩

theorem count_replacePair (hca : c ≠ a) (hcb : c ≠ b) (hab : a ≠ b) (s : List Char) :
    (replacePair a b c s).count c = s.count c + occurrences a b s := by
  fun_induction replacePair a b c s with
  | case1 => rfl
  | case2 y => simp [occurrences]
  | case3 y z s h ih =>
      obtain ⟨rfl, rfl⟩ := h
      have hcut : occurrences y z (z :: s) = occurrences y z s := by
        simp [occurrences_cons, hab.symm]
      rw [List.count_cons_self, ih, List.count_cons_of_ne hca.symm, List.count_cons_of_ne hcb.symm,
        occurrences_cons, hcut, if_pos ⟨rfl, rfl⟩]
      omega
  | case4 y z s hyz ih =>
      have hhead : ¬ (y = a ∧ (z :: s).head? = some b) := by
        rintro ⟨hy, hz⟩
        exact hyz ⟨hy, Option.some.inj hz⟩
      rw [List.count_cons, List.count_cons (l := z :: s), ih, occurrences_cons a b y, if_neg hhead]
      omega

/-- The scan for one pair leaves alone the occurrences of another one that begins alike. -/
theorem occurrences_replacePair (hca : c ≠ a) (hab : a ≠ b) (hdb : d ≠ b) (hdc : d ≠ c)
    (hda : d ≠ a) (s : List Char) :
    occurrences a d (replacePair a b c s) = occurrences a d s := by
  fun_induction replacePair a b c s with
  | case1 | case2 => rfl
  | case3 y z s h ih =>
      obtain ⟨rfl, rfl⟩ := h
      simp [occurrences_cons, ih, hca, hab.symm, hdb.symm]
  | case4 y z s hyz ih =>
      simp only [occurrences_cons a d y, ih, head?_replacePair_eq_some_iff hdc hda]

/-! ## The pieces between the occurrences -/

/-- The pieces are those of the text between the occurrences of the pair: with the pair between
each two of them they are the text, and none of them has it inside. -/
structure Pieces (a b : Char) (s : List Char) (ps : List (List Char)) : Prop where
  ne_nil : ps ≠ []
  joined : [a, b].intercalate ps = s
  absent : ∀ p ∈ ps, ¬ [a, b] <:+: p

theorem intercalate_append {sep : List Char} {ps qs : List (List Char)} (hps : ps ≠ [])
    (hqs : qs ≠ []) :
    sep.intercalate (ps ++ qs) = sep.intercalate ps ++ (sep ++ sep.intercalate qs) := by
  induction ps with
  | nil => exact absurd rfl hps
  | cons p ps ih =>
      cases ps with
      | nil => simp [List.intercalate_cons_of_ne_nil hqs]
      | cons p' ps =>
          have hrest := ih (List.cons_ne_nil p' ps)
          rw [List.cons_append, List.intercalate_cons_of_ne_nil (by simp), hrest,
            List.intercalate_cons_cons]
          simp only [List.append_assoc]

theorem Pieces.append {ps qs : List (List Char)} (hs : Pieces a b s ps) (ht : Pieces a b t qs) :
    Pieces a b (s ++ ([a, b] ++ t)) (ps ++ qs) where
  ne_nil := List.append_ne_nil_of_left_ne_nil hs.ne_nil qs
  joined := by rw [intercalate_append hs.ne_nil ht.ne_nil, hs.joined, ht.joined]
  absent := by
    intro p hp
    rcases List.mem_append.1 hp with hp | hp
    · exact hs.absent p hp
    · exact ht.absent p hp

/-- Every text has such pieces: where the pair occurs, those in front of it and those behind. -/
theorem exists_pieces (a b : Char) (s : List Char) : ∃ ps, Pieces a b s ps := by
  by_cases h : [a, b] <:+: s
  · obtain ⟨u, v, rfl⟩ := h
    obtain ⟨ps, hps⟩ := exists_pieces a b u
    obtain ⟨qs, hqs⟩ := exists_pieces a b v
    rw [List.append_assoc]
    exact ⟨ps ++ qs, hps.append hqs⟩
  · refine ⟨[s], List.cons_ne_nil s [], List.intercalate_singleton, ?_⟩
    rintro p hp
    rwa [List.mem_singleton.1 hp]
termination_by s.length

theorem Pieces.length_eq {ps : List (List Char)} (hab : a ≠ b) (h : Pieces a b s ps) :
    ps.length = occurrences a b s + 1 := by
  obtain ⟨hne, rfl, habsent⟩ := h
  induction ps with
  | nil => exact absurd rfl hne
  | cons p ps ih =>
      have hp := occurrences_eq_zero_iff.2 (habsent p List.mem_cons_self)
      cases ps with
      | nil => simp [hp]
      | cons q ps =>
          have hrest := ih (List.cons_ne_nil q ps) fun r hr => habsent r (List.mem_cons_of_mem p hr)
          simp only [List.intercalate_cons_cons, List.append_assoc, List.cons_append,
            List.nil_append, occurrences_append_cons hab, hp, occurrences_cons, hab.symm,
            List.head?_cons, and_self, false_and, if_true, if_false]
          rw [List.length_cons, hrest]
          omega

theorem replacePair_intercalate (hab : a ≠ b) {ps : List (List Char)}
    (h : ∀ p ∈ ps, ¬ [a, b] <:+: p) :
    replacePair a b c ([a, b].intercalate ps) = [c].intercalate ps := by
  induction ps with
  | nil => rfl
  | cons p ps ih =>
      have hp := h p List.mem_cons_self
      have hps := ih fun q hq => h q (List.mem_cons_of_mem p hq)
      cases ps with
      | nil => simpa using replacePair_of_absent c hp
      | cons q ps =>
          rw [List.intercalate_cons_cons, List.intercalate_cons_cons, ← hps]
          simp only [List.append_assoc, List.cons_append, List.nil_append]
          rw [replacePair_append hab, replacePair_of_absent c hp, replacePair_pair]

end EnvSync.Text
