/-
# A dry run is asked for by name

A run is dry where `--dry-run` is among its arguments, and nowhere else (`dryRun_iff`).  An
option takes no argument for its value that begins with a dash, so none of them can swallow
this one; and behind two dashes, where it would be an operand, no arguments are accepted.
-/
import EnvSync.CommandLine.Arguments
import Mathlib.Data.List.TakeWhile

namespace EnvSync.CommandLine

variable {a : String} {args : List String} {g g' : Given} {s : Setting} {v : String}

theorem longOption_eq_dryRun_iff {name : List Char} {value : Option (List Char)} :
    longOption name value = .dryRun ↔ name = "dry-run".toList ∧ value = none := by
  constructor
  · intro h
    unfold longOption at h
    split at h
    · split at h <;> cases h
    · split at h
      · cases h
      · split at h
        · next hname => exact ⟨hname, rfl⟩
        · split at h
          · cases h
          · split at h <;> cases h
  · rintro ⟨rfl, rfl⟩
    rfl

theorem equals_notMem_of_valuePart {s : List Char} (h : valuePart s = none) : '=' ∉ s := by
  intro hmem
  rw [valuePart] at h
  split at h
  · next hs =>
    have hall := List.dropWhile_eq_nil_iff.1 hs '=' hmem
    exact absurd hall (by decide)
  · cases h

theorem takeWhile_of_valuePart {s : List Char} (h : valuePart s = none) :
    s.takeWhile (· ≠ '=') = s := by
  refine List.takeWhile_eq_self_iff.2 fun c hc => ?_
  simpa using fun he : c = '=' => equals_notMem_of_valuePart h (he ▸ hc)

theorem exists_long_of_ofText {k : Argument} (h : Argument.ofText a = k) (help : k ≠ .help)
    (stray : k ≠ .stray) :
    ∃ t, a.toList = '-' :: '-' :: t ∧ longOption (t.takeWhile (· ≠ '=')) (valuePart t) = k := by
  unfold Argument.ofText at h
  split at h
  · next t ht => exact ⟨t, ht, h⟩
  · exact absurd h.symm help
  · exact absurd h.symm stray

theorem ofText_eq_dryRun_iff : Argument.ofText a = .dryRun ↔ a = "--dry-run" := by
  constructor
  · intro h
    obtain ⟨t, ht, hlong⟩ := exists_long_of_ofText h nofun nofun
    obtain ⟨hname, hvalue⟩ := longOption_eq_dryRun_iff.1 hlong
    rw [takeWhile_of_valuePart hvalue] at hname
    rw [← String.toList_inj, ht, hname]
    rfl
  · rintro rfl
    rfl

theorem dryRun_of_give (h : g.give s v = some g') : g'.dryRun = g.dryRun := by
  rw [Given.give] at h
  split at h
  · cases h
    rfl
  · cases h

theorem dryRun_of_ofArguments (h : Reading.ofArguments g args = .accepted g') :
    g'.dryRun = true ↔ g.dryRun = true ∨ "--dry-run" ∈ args := by
  have other : ∀ {b : String} {k : Argument}, Argument.ofText b = k → k ≠ .dryRun →
      "--dry-run" ≠ b := by
    rintro b k rfl hk rfl
    exact hk (ofText_eq_dryRun_iff.2 rfl)
  fun_induction Reading.ofArguments g args with
  | case1 g =>
      cases h
      simp
  | case2 | case3 => cases h
  | case4 g a ha =>
      cases h
      simp [other ha nofun]
  | case5 => cases h
  | case6 => cases h
  | case7 g a rest ha _ ih =>
      refine (ih h).trans ?_
      simp [ofText_eq_dryRun_iff.1 ha]
  | case8 => cases h
  | case9 g a rest s v ha g₁ hg ih =>
      refine (ih h).trans ?_
      simp [dryRun_of_give hg, other ha nofun]
  | case10 => cases h
  | case11 => cases h
  | case12 g a s ha v rest hv g₁ hg ih =>
      have hvalue : "--dry-run" ≠ v := by
        rintro rfl
        exact absurd hv (by decide)
      refine (ih h).trans ?_
      simp [dryRun_of_give hg, other ha nofun, hvalue]
  | case13 => cases h

theorem dryRun_iff (h : Reading.ofArguments Given.none args = .accepted g) :
    g.dryRun = true ↔ "--dry-run" ∈ args := by
  rw [dryRun_of_ofArguments h]
  simp [Given.none]

end EnvSync.CommandLine
