/-
# Restored line breaks

Restoring the line breaks of a text takes away every backslash with an `n` behind it, puts a
line break in the place of each and does nothing else (`every_newline_restored`).  Backslashes
are not counted: of two in front of an `n` the second one goes and the first one stays, and it
then has a line break behind it.

So nothing is left to restore in a text whose line breaks were restored.  Conversely a text that
had no such pair comes back if its line breaks were stored as pairs, since its pieces between
line breaks are the pieces of what was stored.
-/
import EnvSync.Proofs.Text.Pair
import EnvSync.Secret.Payload

namespace EnvSync.Secret

open Text (Pieces join join_eq_intercalate join_split occurrences split)

/-- A text with each of its line breaks written as backslash and `n`. -/
def escapeNewlines (s : String) : String :=
  .ofList (s.toList.flatMap fun c => if c = '\n' then ['\\', 'n'] else [c])

theorem flatMap_eq_intercalate_split (sep : Char) (w s : List Char) :
    (s.flatMap fun c => if c = sep then w else [c]) = w.intercalate (split sep s) := by
  induction s with
  | nil => rfl
  | cons c s ih =>
      rw [List.flatMap_cons, ih, split]
      split
      · rw [List.intercalate_cons_of_ne_nil (Text.split_ne_nil sep s), List.nil_append]
      · cases hs : split sep s with
        | nil => exact absurd hs (Text.split_ne_nil sep s)
        | cons p ps => cases ps <;> simp

/-- Restoring the line breaks leaves no escape, puts a line break between any two pieces that an
escape was between, as many as there were escapes, and changes nothing else.  To restore them
once more changes nothing at all, and stored line breaks are restored to what they were. -/
theorem every_newline_restored (s : String) :
    ¬ ['\\', 'n'] <:+: (restoreNewlines s).toList ∧
    (restoreNewlines s).toList.count '\n' =
      s.toList.count '\n' + occurrences '\\' 'n' s.toList ∧
    (∃ ps, Pieces '\\' 'n' s.toList ps) ∧
    (∀ ps, Pieces '\\' 'n' s.toList ps → ps.length = occurrences '\\' 'n' s.toList + 1 ∧
      (restoreNewlines s).toList = ['\n'].intercalate ps) ∧
    restoreNewlines (restoreNewlines s) = restoreNewlines s ∧
    (∀ t : String, ¬ ['\\', 'n'] <:+: t.toList → restoreNewlines (escapeNewlines t) = t) := by
  have hab : '\\' ≠ 'n' := by decide
  have hlist : (restoreNewlines s).toList = Text.expandNewlines s.toList := String.toList_ofList
  have habsent : ¬ ['\\', 'n'] <:+: (restoreNewlines s).toList := by
    rw [hlist]
    exact Text.not_infix_replacePair (by decide) (by decide) hab s.toList
  refine ⟨habsent, ?_, Text.exists_pieces '\\' 'n' s.toList, ?_, ?_, ?_⟩
  · rw [hlist]
    exact Text.count_replacePair (by decide) (by decide) hab s.toList
  · intro ps hps
    refine ⟨hps.length_eq hab, ?_⟩
    rw [hlist, ← hps.joined]
    exact Text.replacePair_intercalate hab hps.absent
  · refine String.toList_inj.1 ?_
    rw [restoreNewlines, String.toList_ofList]
    exact Text.replacePair_of_absent '\n' habsent
  · intro t ht
    refine String.toList_inj.1 ?_
    have hpieces : ∀ p ∈ split '\n' t.toList, ¬ ['\\', 'n'] <:+: p := by
      intro p hp hi
      exact ht (join_split '\n' t.toList ▸ hi.trans (Text.infix_join_of_mem hp))
    rw [restoreNewlines, escapeNewlines, String.toList_ofList, String.toList_ofList,
      flatMap_eq_intercalate_split]
    calc Text.expandNewlines (['\\', 'n'].intercalate (split '\n' t.toList))
        = ['\n'].intercalate (split '\n' t.toList) := Text.replacePair_intercalate hab hpieces
      _ = join '\n' (split '\n' t.toList) := (join_eq_intercalate '\n' _).symm
      _ = t.toList := join_split '\n' t.toList

/-- A line break between a backslash and an `n`: stored, it is two backslashes and two `n`. -/
theorem every_newline_restored_behind_backslash :
    ¬ ['\\', 'n'] <:+: "\\\nn".toList ∧ escapeNewlines "\\\nn" = "\\\\nn" ∧
      restoreNewlines "\\\\nn" = "\\\nn" ∧ Pieces '\\' 'n' "\\\\nn".toList [['\\'], ['n']] ∧
      occurrences '\\' 'n' "\\\\nn".toList = 1 := by
  have absent : ¬ ['\\', 'n'] <:+: "\\\nn".toList := by decide
  have stored : escapeNewlines "\\\nn" = "\\\\nn" := by decide
  obtain ⟨-, -, -, pieces, -, restored⟩ := every_newline_restored "\\\\nn"
  have back := restored "\\\nn" absent
  rw [stored] at back
  have hps : Pieces '\\' 'n' "\\\\nn".toList [['\\'], ['n']] := ⟨by simp, by decide, by decide⟩
  exact ⟨absent, stored, back, hps, (Nat.succ.inj (pieces _ hps).1).symm⟩

end EnvSync.Secret
