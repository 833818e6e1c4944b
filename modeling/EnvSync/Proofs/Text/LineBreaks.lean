/-
# Line breaks of one kind

What giving a text line breaks of one kind does to texts that are put together, and to
those that it changes.  The scan for a pair looks at two characters at a time, so a
text can be cut in front of any character that is not the second of the pair
(`replacePair_append`).  It never makes a text longer, and shorter wherever the pair
occurs (`length_replacePair_lt`): a text that comes out as it went in did not have it.

A text without carriage returns is what every rewriting of its line breaks comes to, CR LF here,
LF there and a lone CR elsewhere (`unifyLineBreaks_of_rebroken`).
-/
import EnvSync.Proofs.Text.Unchanged

namespace EnvSync.Text

/-! ## Pairs -/

variable {a b c : Char}

/-- No pair lies across a cut behind which the second character of the pair does not stand. -/
theorem replacePair_append {x : Char} (hx : x ≠ b) (s t : List Char) :
    replacePair a b c (s ++ x :: t) = replacePair a b c s ++ replacePair a b c (x :: t) := by
  fun_induction replacePair a b c s with
  | case1 => rfl
  | case2 y =>
      have hxy : ¬ (y = a ∧ x = b) := fun h => hx h.2
      rw [List.singleton_append, replacePair, if_neg hxy]
      rfl
  | case3 y z s hyz ih =>
      rw [List.cons_append, List.cons_append, replacePair, if_pos hyz, ih, List.cons_append]
  | case4 y z s hyz ih =>
      rw [List.cons_append, List.cons_append, replacePair, if_neg hyz, ← List.cons_append, ih,
        List.cons_append]

theorem length_replacePair_le (s : List Char) : (replacePair a b c s).length ≤ s.length := by
  fun_induction replacePair a b c s with
  | case1 | case2 => exact Nat.le_refl _
  | case3 y z s _ ih =>
      rw [List.length_cons, List.length_cons, List.length_cons]
      omega
  | case4 y z s _ ih =>
      rw [List.length_cons, List.length_cons (a := y)]
      omega

theorem length_replacePair_lt {s : List Char} (h : [a, b] <:+: s) :
    (replacePair a b c s).length < s.length := by
  fun_induction replacePair a b c s with
  | case1 | case2 => exact absurd h.length_le (by simp)
  | case3 y z s _ _ =>
      have hs := length_replacePair_le (a := a) (b := b) (c := c) s
      rw [List.length_cons, List.length_cons, List.length_cons]
      omega
  | case4 y z s hyz ih =>
      have hs : [a, b] <:+: z :: s := by
        rcases List.infix_cons_iff.1 h with hp | hi
        · obtain ⟨hy, hp⟩ := List.cons_prefix_cons.1 hp
          exact absurd ⟨hy.symm, (List.cons_prefix_cons.1 hp).1.symm⟩ hyz
        · exact hi
      have hlt := ih hs
      rw [List.length_cons, List.length_cons (a := y)]
      omega

theorem replacePair_ne_nil {s : List Char} (h : s ≠ []) : replacePair a b c s ≠ [] := by
  fun_cases replacePair a b c s with
  | case1 => exact absurd rfl h
  | case2 | case3 | case4 => exact List.cons_ne_nil _ _

theorem getLast?_replacePair {s : List Char} {x : Char} (hx : x ≠ c)
    (h : (replacePair a b c s).getLast? = some x) : s.getLast? = some x := by
  fun_induction replacePair a b c s with
  | case1 | case2 => exact h
  | case3 y z s _ ih =>
      cases hr : (replacePair a b c s).getLast? with
      | none =>
          rw [List.getLast?_cons, hr] at h
          exact absurd (Option.some.inj h).symm hx
      | some d =>
          rw [List.getLast?_cons, hr] at h
          rw [List.getLast?_cons, List.getLast?_cons, ih (hr.trans h)]
          rfl
  | case4 y z s _ ih =>
      cases hr : (replacePair a b c (z :: s)).getLast? with
      | none =>
          exact absurd (List.getLast?_eq_none_iff.1 hr) (replacePair_ne_nil (List.cons_ne_nil z s))
      | some d =>
          rw [List.getLast?_cons, hr] at h
          rw [List.getLast?_cons_cons]
          exact ih (hr.trans h)

/-! ## Line breaks -/

theorem unifyLineBreaks_append_of_no_return {s : List Char} (hs : '\r' ∉ s) (t : List Char) :
    unifyLineBreaks (s ++ t) = s ++ unifyLineBreaks t := by
  induction s with
  | nil => rfl
  | cons c s ih =>
      have hc : c ≠ '\r' := by
        rintro rfl
        exact hs List.mem_cons_self
      have hs' : '\r' ∉ s := fun h => hs (List.mem_cons_of_mem c h)
      rw [List.cons_append, unifyLineBreaks, replacePair_cons_of_ne hc, List.map_cons, if_neg hc]
      exact congrArg (c :: ·) (ih hs')

/-- A text can be cut in front of anything but a line feed. -/
theorem unifyLineBreaks_append {x : Char} (hx : x ≠ '\n') (s t : List Char) :
    unifyLineBreaks (s ++ x :: t) = unifyLineBreaks s ++ unifyLineBreaks (x :: t) := by
  rw [unifyLineBreaks, replacePair_append hx, List.map_append]
  rfl

theorem return_notMem_unifyLineBreaks (s : List Char) : '\r' ∉ unifyLineBreaks s := by
  intro h
  obtain ⟨c, -, hc⟩ := List.mem_map.1 h
  split at hc
  · exact absurd hc (by decide)
  · next hne => exact hne hc

theorem length_unifyLineBreaks_le (s : List Char) : (unifyLineBreaks s).length ≤ s.length := by
  rw [unifyLineBreaks, List.length_map]
  exact length_replacePair_le s

theorem getLast?_unifyLineBreaks {s : List Char} {x : Char} (hx : x ≠ '\n')
    (h : (unifyLineBreaks s).getLast? = some x) : s.getLast? = some x := by
  rw [unifyLineBreaks, List.getLast?_map] at h
  obtain ⟨c, hc, hcx⟩ := Option.map_eq_some_iff.1 h
  split at hcx
  · exact absurd hcx.symm hx
  · subst hcx
    exact getLast?_replacePair hx hc

theorem unifyLineBreaks_return {t : List Char} (h : t.head? ≠ some '\n') :
    unifyLineBreaks ('\r' :: t) = '\n' :: unifyLineBreaks t := by
  cases t with
  | nil => rfl
  | cons x t =>
      have hx : x ≠ '\n' := fun he => h (congrArg some he)
      exact unifyLineBreaks_append hx ['\r'] t

/-- The second text is the first one with its line breaks rewritten, each on its own: as LF, as
CR LF, or as a CR with no LF behind it. -/
inductive Rebroken : List Char → List Char → Prop where
  | nil : Rebroken [] []
  | same {s t : List Char} (c : Char) : Rebroken s t → Rebroken (c :: s) (c :: t)
  | crlf {s t : List Char} : Rebroken s t → Rebroken ('\n' :: s) ('\r' :: '\n' :: t)
  | cr {s t : List Char} : Rebroken s t → t.head? ≠ some '\n' → Rebroken ('\n' :: s) ('\r' :: t)

theorem unifyLineBreaks_of_rebroken {s t : List Char} (h : Rebroken s t) (hs : '\r' ∉ s) :
    unifyLineBreaks t = s := by
  induction h with
  | nil => rfl
  | @same s t c _ ih =>
      rw [List.mem_cons, not_or] at hs
      have hc : '\r' ∉ [c] := fun h => hs.1 (List.mem_singleton.1 h)
      exact (unifyLineBreaks_append_of_no_return hc t).trans (congrArg (c :: ·) (ih hs.2))
  | @crlf s t _ ih =>
      rw [List.mem_cons, not_or] at hs
      rw [unifyLineBreaks, replacePair_pair, List.map_cons]
      exact congrArg ('\n' :: ·) (ih hs.2)
  | @cr s t _ hhead ih =>
      rw [List.mem_cons, not_or] at hs
      rw [unifyLineBreaks_return hhead, ih hs.2]

/-- With each LF as a lone CR no LF is left, so none can follow one. -/
theorem rebroken_returns (s : List Char) :
    Rebroken s (s.map fun c => if c = '\n' then '\r' else c) := by
  have hnone : ∀ s : List Char, '\n' ∉ s.map fun c => if c = '\n' then '\r' else c := by
    intro s h
    obtain ⟨c, -, hc⟩ := List.mem_map.1 h
    split at hc
    · exact absurd hc (by decide)
    · next hne => exact hne hc
  induction s with
  | nil => exact .nil
  | cons c s ih =>
      rw [List.map_cons]
      split
      · next hc =>
        subst hc
        exact .cr ih fun h => hnone s (List.mem_of_head? h)
      · exact .same c ih

end EnvSync.Text
