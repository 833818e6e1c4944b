/-
# Reading an env file

An env file is read line by line.  At the start of a line an assignment is taken
if there is one; where there is none the line is skipped, whatever it holds.  So
reading never fails.  `assignments` gives what was found, in order, and `parse` the
settings it amounts to: a name that is assigned twice keeps its first place and
its last value.
-/
import EnvSync.Dotenv.Assignment
import EnvSync.Settings

namespace EnvSync.Dotenv

open Text

/-! ## What is left is shorter

Each function that takes something off the front of a text leaves a suffix of it. -/

theorem suffix_of_takeName {s name rest : List Char} (h : takeName s = some (name, rest)) :
    rest <:+ s ∧ rest.length < s.length := by
  simp only [takeName] at h
  split at h
  · cases h
  · next hne =>
    simp only [Option.some.injEq, Prod.mk.injEq] at h
    obtain ⟨-, rfl⟩ := h
    refine ⟨List.dropWhile_suffix _, ?_⟩
    have hs := congrArg List.length (List.takeWhile_append_dropWhile (p := isNameChar) (l := s))
    have hpos := List.length_pos_iff.2 hne
    rw [List.length_append] at hs
    omega

theorem suffix_of_dropSeparator {s rest : List Char} (h : dropSeparator s = some rest) :
    rest <:+ s := by
  simp only [dropSeparator] at h
  split at h
  · next r hr =>
    simp only [Option.some.injEq] at h
    subst h
    exact (List.suffix_cons _ _).trans (hr ▸ List.dropWhile_suffix _)
  · split at h
    · split at h
      · simp only [Option.some.injEq] at h
        subst h
        exact (List.suffix_cons _ _).trans (List.suffix_cons _ _)
      · cases h
    · cases h

theorem suffix_of_takeTarget {s name rest : List Char} (h : takeTarget s = some (name, rest)) :
    rest <:+ s ∧ rest.length < s.length := by
  simp only [takeTarget] at h
  split at h
  · cases h
  · next n r hn =>
    obtain ⟨x, hx, he⟩ := Option.map_eq_some_iff.1 h
    simp only [Prod.mk.injEq] at he
    obtain ⟨-, rfl⟩ := he
    obtain ⟨hs, hl⟩ := suffix_of_takeName hn
    have hd := suffix_of_dropSeparator hx
    exact ⟨hd.trans hs, Nat.lt_of_le_of_lt hd.length_le hl⟩

theorem suffix_of_dropExport {s rest : List Char} (h : dropExport s = some rest) :
    rest <:+ s := by
  simp only [dropExport] at h
  split at h
  · split at h
    · simp only [Option.some.injEq] at h
      subst h
      refine (List.dropWhile_suffix _).trans ?_
      exact ⟨['e', 'x', 'p', 'o', 'r', 't', _], rfl⟩
    · cases h
  · cases h

theorem suffix_of_takeHead {s name rest : List Char} (h : takeHead s = some (name, rest)) :
    rest <:+ s ∧ rest.length < s.length := by
  simp only [takeHead] at h
  split at h
  · next r hr =>
    simp only [Option.some.injEq] at h
    subst h
    obtain ⟨t, ht, hr⟩ := Option.bind_eq_some_iff.1 hr
    have hs := suffix_of_dropExport ht
    obtain ⟨hs', hl⟩ := suffix_of_takeTarget hr
    exact ⟨hs'.trans hs, Nat.lt_of_lt_of_le hl hs.length_le⟩
  · exact suffix_of_takeTarget h

theorem suffix_of_toLastBreak {s rest : List Char} (h : toLastBreak s = some rest) :
    rest <:+ s := by
  induction s generalizing rest with
  | nil => simp [toLastBreak] at h
  | cons c s ih =>
    simp only [toLastBreak] at h
    split at h
    · split at h
      · next r hr =>
        simp only [Option.some.injEq] at h
        subst h
        exact (ih hr).trans (List.suffix_cons _ _)
      · split at h
        · simp only [Option.some.injEq] at h
          exact h ▸ List.suffix_refl _
        · cases h
    · cases h

theorem suffix_of_takeLineEnd {s rest : List Char} (h : takeLineEnd s = some rest) :
    rest <:+ s := by
  simp only [takeLineEnd] at h
  split at h
  · simp only [Option.some.injEq] at h
    exact h ▸ List.nil_suffix
  · next r hr =>
    simp only [Option.some.injEq] at h
    subst h
    exact ((List.dropWhile_suffix _).trans (List.suffix_cons _ _)).trans
      (hr ▸ List.dropWhile_suffix _)
  · exact suffix_of_toLastBreak h

theorem suffix_of_takeBody {q : Char} {escaped : Bool} {s body rest : List Char}
    (h : takeBody q escaped s = some (body, rest)) : rest <:+ s := by
  induction s generalizing escaped body rest with
  | nil => simp [takeBody] at h
  | cons c s ih =>
    simp only [takeBody] at h
    split at h
    · split at h
      · next b r hb =>
        simp only [Option.some.injEq, Prod.mk.injEq] at h
        obtain ⟨-, rfl⟩ := h
        split at hb
        · exact (ih hb).trans (List.suffix_cons _ _)
        · cases hb
      · obtain ⟨r, hr, he⟩ := Option.map_eq_some_iff.1 h
        simp only [Prod.mk.injEq] at he
        obtain ⟨-, rfl⟩ := he
        exact (suffix_of_takeLineEnd hr).trans (List.suffix_cons _ _)
    · obtain ⟨r, hr, he⟩ := Option.map_eq_some_iff.1 h
      simp only [Prod.mk.injEq] at he
      obtain ⟨-, rfl⟩ := he
      exact (ih hr).trans (List.suffix_cons _ _)

theorem suffix_takeValue (s : List Char) : (takeValue s).2 <:+ s := by
  simp only [takeValue]
  split
  · next r hr =>
    simp only [takeQuoted] at hr
    split at hr
    · cases hr
    · next q t ht =>
      split at hr
      · obtain ⟨b, hb, he⟩ := Option.map_eq_some_iff.1 hr
        subst he
        exact ((suffix_of_takeBody hb).trans (List.suffix_cons _ _)).trans
          (ht ▸ List.dropWhile_suffix _)
      · cases hr
  · cases h : takeLineEnd (s.dropWhile isBareChar) with
    | none => exact List.dropWhile_suffix _
    | some r => exact (suffix_of_takeLineEnd h).trans (List.dropWhile_suffix _)

theorem suffix_of_takeAssignment {s rest : List Char} {a : Assignment}
    (h : takeAssignment s = some (a, rest)) : rest <:+ s ∧ rest.length < s.length := by
  obtain ⟨⟨n, t⟩, ht, he⟩ := Option.map_eq_some_iff.1 h
  simp only [Prod.mk.injEq] at he
  obtain ⟨-, rfl⟩ := he
  obtain ⟨hs, hl⟩ := suffix_of_takeHead ht
  have hv := suffix_takeValue t
  have hd : s.dropWhile isBlank <:+ s := List.dropWhile_suffix _
  exact ⟨(hv.trans hs).trans hd,
    Nat.lt_of_le_of_lt hv.length_le (Nat.lt_of_lt_of_le hl hd.length_le)⟩

/-! ## The lines of a text -/

def dropLine (s : List Char) : List Char :=
  (s.dropWhile (· ≠ '\n')).tail

theorem length_dropLine_le (s : List Char) : (dropLine s).length ≤ s.length := by
  have h := (List.dropWhile_suffix (l := s) (· ≠ '\n')).length_le
  simp only [dropLine, List.length_tail]
  omega

theorem length_dropLine_lt {s : List Char} (h : s ≠ []) : (dropLine s).length < s.length := by
  have h' := (List.dropWhile_suffix (l := s) (· ≠ '\n')).length_le
  have hs := List.length_pos_iff.2 h
  simp only [dropLine, List.length_tail]
  omega

/-- The assignments of a text that starts a line, in order.  Where no assignment
starts, the blanks and the rest of the line behind them are skipped. -/
def assignments (s : List Char) : List Assignment :=
  if _hs : s = [] then []
  else match _h : takeAssignment s with
    | some (a, rest) => a :: assignments (dropLine rest)
    | none => assignments (dropLine (s.dropWhile isBlank))
termination_by s.length
decreasing_by
  · exact Nat.lt_of_le_of_lt (length_dropLine_le rest) (suffix_of_takeAssignment _h).2
  · by_cases hd : s.dropWhile isBlank = []
    · rw [hd]
      exact List.length_pos_iff.2 _hs
    · exact Nat.lt_of_lt_of_le (length_dropLine_lt hd) (List.dropWhile_suffix _).length_le

def parse (text : String) : Settings :=
  .ofList <| (assignments (unifyLineBreaks text.toList)).map fun a =>
    (.ofList a.name, .ofList a.value)

end EnvSync.Dotenv
