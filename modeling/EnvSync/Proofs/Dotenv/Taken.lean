/-
# What was taken is of its form

The reader tries several ways at a place, and falls back on one when another fails.  So each
function that takes something off the front of a text is held here to what it can have taken,
whichever way it went: a part of the form it is for, with the rest behind it.  This is the
converse of what was held of well-formed parts, and it needs no assumption on the text.

What an assignment can look like is said once, by its parts (`Stretch`), and
`takeAssignment_eq_some` puts the functions together.
-/
import EnvSync.Proofs.Dotenv.Parts

namespace EnvSync.Dotenv

open Text

variable {s name rest : List Char}

/-! ## The form of an assignment -/

/-- What stands between a name and its value: `=` with blanks around it, or `:` with at least
one blank behind it. -/
inductive SeparatorText : List Char → Prop where
  | equals {w w' : List Char} : Blanks w → Blanks w' → SeparatorText (w ++ '=' :: w')
  | colon {w : List Char} : w ≠ [] → Blanks w → SeparatorText (':' :: w)

/-- The word `export` with blanks behind it, or nothing. -/
inductive ExportText : List Char → Prop where
  | none : ExportText []
  | word {w : List Char} : w ≠ [] → Blanks w → ExportText (exportWord ++ w)

/-- What can be taken for a value: nothing, a quoted text behind blanks, or any text without `#`
and without a line break. -/
inductive ValueText : List Char → Prop where
  | none : ValueText []
  | quoted {w body : List Char} {q : Char} : Blanks w → isQuote q = true → Escaped q body →
      ValueText (w ++ q :: (body ++ [q]))
  | bare {v : List Char} : v ≠ [] → '#' ∉ v → '\n' ∉ v → ValueText v

/-- Blanks, and behind them possibly a comment. -/
inductive TailText : List Char → Prop where
  | mk {w : List Char} {comment : Option (List Char)} : Blanks w →
      (∀ t, comment = some t → '\n' ∉ t) → TailText (w ++ commentText comment)

/-- An assignment as it may stand in a text, over any number of lines. -/
structure Stretch where
  indent : { w : List Char // Blanks w }
  exported : { x : List Char // ExportText x }
  name : { n : List Char // IsName n }
  separator : { p : List Char // SeparatorText p }
  value : { v : List Char // ValueText v }
  tail : { t : List Char // TailText t }

namespace Stretch

def front (x : Stretch) : List Char := x.indent.1 ++ x.exported.1

def head (x : Stretch) : List Char := x.front ++ (x.name.1 ++ x.separator.1)

def text (x : Stretch) : List Char := x.head ++ (x.value.1 ++ x.tail.1)

def assignment (x : Stretch) : Assignment := ⟨x.name.1, x.value.1⟩

end Stretch

/-! ## What can have been taken -/

theorem takeName_eq_some (h : takeName s = some (name, rest)) : IsName name ∧ s = name ++ rest := by
  rw [takeName] at h
  split at h
  · cases h
  · next hne =>
    cases h
    refine ⟨⟨hne, fun c hc => List.all_eq_true.1 List.all_takeWhile c hc⟩, ?_⟩
    exact List.takeWhile_append_dropWhile.symm

theorem dropSeparator_eq_some (h : dropSeparator s = some rest) :
    ∃ p, SeparatorText p ∧ s = p ++ rest := by
  unfold dropSeparator at h
  split at h
  · next r hr =>
    cases h
    obtain ⟨w, t, rfl, hw, ht⟩ := exists_blanks_append s
    rw [dropWhile_append_of_stops hw ht] at hr
    refine ⟨w ++ ['='], .equals hw blanks_nil, ?_⟩
    rw [hr, List.append_assoc]
    rfl
  · split at h
    · next c r _ =>
      split at h
      · next hc =>
        cases h
        refine ⟨[':', c], .colon (List.cons_ne_nil c []) ?_, rfl⟩
        intro d hd
        exact List.mem_singleton.1 hd ▸ hc
      · cases h
    · cases h

theorem takeTarget_eq_some (h : takeTarget s = some (name, rest)) :
    IsName name ∧ ∃ p, SeparatorText p ∧ s = name ++ (p ++ rest) := by
  rw [takeTarget] at h
  split at h
  · cases h
  · next n r hn =>
    obtain ⟨t, ht, he⟩ := Option.map_eq_some_iff.1 h
    cases he
    obtain ⟨hname, rfl⟩ := takeName_eq_some hn
    obtain ⟨p, hp, rfl⟩ := dropSeparator_eq_some ht
    exact ⟨hname, p, hp, rfl⟩

theorem takeHead_eq_some (h : takeHead s = some (name, rest)) :
    IsName name ∧ ∃ x p, ExportText x ∧ SeparatorText p ∧ s = x ++ (name ++ (p ++ rest)) := by
  rw [takeHead] at h
  split at h
  · next r hr =>
    cases h
    obtain ⟨t, ht, htarget⟩ := Option.bind_eq_some_iff.1 hr
    obtain ⟨w, hne, hw, rfl, -⟩ := dropExport_eq_some ht
    obtain ⟨hname, p, hp, rfl⟩ := takeTarget_eq_some htarget
    exact ⟨hname, exportWord ++ w, p, .word hne hw, hp, (List.append_assoc _ _ _).symm⟩
  · obtain ⟨hname, p, hp, rfl⟩ := takeTarget_eq_some h
    exact ⟨hname, [], p, .none, hp, rfl⟩

theorem exists_of_toLastBreak (h : toLastBreak s = some rest) :
    ∃ w, Blanks w ∧ s = w ++ rest ∧ AtLineEnd rest := by
  induction s generalizing rest with
  | nil => cases h
  | cons c s ih =>
      rw [toLastBreak] at h
      split at h
      · next hc =>
        split at h
        · next r hr =>
          cases h
          obtain ⟨w, hw, rfl, hend⟩ := ih hr
          refine ⟨c :: w, ?_, rfl, hend⟩
          intro d hd
          rcases List.mem_cons.1 hd with rfl | hd
          · exact hc
          · exact hw d hd
        · split at h
          · next hn =>
            cases h
            exact ⟨[], blanks_nil, rfl, hn ▸ atLineEnd_cons s⟩
          · cases h
      · cases h

theorem atLineEnd_dropWhile (s : List Char) : AtLineEnd (s.dropWhile (· ≠ '\n')) := by
  intro c hc
  simpa using stops_dropWhile (· ≠ '\n') s c hc

/-- Whether the text ends, a comment ends a line or the blanks do: what was passed over is the
tail of a line. -/
theorem takeLineEnd_eq_some (h : takeLineEnd s = some rest) :
    ∃ t, TailText t ∧ s = t ++ rest ∧ AtLineEnd rest := by
  obtain ⟨w, u, rfl, hw, hu⟩ := exists_blanks_append s
  have hnone : ∀ t : List Char, none = some t → '\n' ∉ t := fun _ ht => nomatch ht
  unfold takeLineEnd at h
  rw [dropWhile_append_of_stops hw hu] at h
  split at h
  · cases h
    refine ⟨w ++ commentText none, .mk hw hnone, ?_, atLineEnd_nil⟩
    rw [commentText, List.append_nil, List.append_nil]
  · next r =>
    cases h
    have hline : ∀ t, some (r.takeWhile (· ≠ '\n')) = some t → '\n' ∉ t := by
      rintro t ⟨⟩ hmem
      simpa using List.all_eq_true.1 List.all_takeWhile _ hmem
    refine ⟨w ++ commentText (some (r.takeWhile (· ≠ '\n'))), .mk hw hline, ?_,
      atLineEnd_dropWhile r⟩
    rw [commentText, List.append_assoc, List.cons_append, List.takeWhile_append_dropWhile]
  · obtain ⟨v, hv, heq, hend⟩ := exists_of_toLastBreak h
    refine ⟨v ++ commentText none, .mk hv hnone, ?_, hend⟩
    rw [commentText, List.append_nil, heq]

/-- A quote in a body has been passed because a backslash is before it. -/
theorem takeBody_eq_some {q p : Char} (hq : q ≠ '\\') {body : List Char}
    (h : takeBody q (p = '\\') s = some (body, rest)) : EscapedAfter q p body ∧
      ∃ t, TailText t ∧ s = body ++ q :: (t ++ rest) ∧ AtLineEnd rest := by
  induction s generalizing p body with
  | nil => cases h
  | cons c s ih =>
      rw [takeBody] at h
      split at h
      · next hc =>
        subst hc
        split at h
        · next b r hb =>
          cases h
          split at hb
          · next hp =>
            have hfalse : decide (c = '\\') = false := decide_eq_false hq
            rw [← hfalse] at hb
            obtain ⟨hbody, t, ht, rfl, hend⟩ := ih hb
            refine ⟨escapedAfter_cons.2 ⟨fun _ => of_decide_eq_true hp, hbody⟩, t, ht, rfl, hend⟩
          · cases hb
        · obtain ⟨r, hr, he⟩ := Option.map_eq_some_iff.1 h
          cases he
          obtain ⟨t, ht, rfl, hend⟩ := takeLineEnd_eq_some hr
          exact ⟨escapedAfter_nil c p, t, ht, rfl, hend⟩
      · next hc =>
        obtain ⟨⟨b, r⟩, hb, he⟩ := Option.map_eq_some_iff.1 h
        cases he
        obtain ⟨hbody, t, ht, rfl, hend⟩ := ih hb
        exact ⟨escapedAfter_cons.2 ⟨fun he => absurd he hc, hbody⟩, t, ht, rfl, hend⟩

theorem takeQuoted_eq_some {v : List Char} (h : takeQuoted s = some (v, rest)) :
    ValueText v ∧ ∃ t, TailText t ∧ s = v ++ (t ++ rest) ∧ AtLineEnd rest := by
  obtain ⟨w, u, rfl, hw, hu⟩ := exists_blanks_append s
  unfold takeQuoted at h
  rw [dropWhile_append_of_stops hw hu, takeWhile_append_of_stops hw hu] at h
  split at h
  · cases h
  · next q r =>
    split at h
    · next hquote =>
      obtain ⟨⟨body, r'⟩, hbody, he⟩ := Option.map_eq_some_iff.1 h
      cases he
      have hq := ne_backslash_of_isQuote hquote
      have hfalse : decide (q = '\\') = false := decide_eq_false hq
      rw [← hfalse] at hbody
      obtain ⟨hescaped, t, ht, rfl, hend⟩ := takeBody_eq_some hq hbody
      have hvalue : w ++ q :: body ++ [q] = w ++ q :: (body ++ [q]) := by
        rw [List.append_assoc, List.cons_append]
      refine ⟨hvalue ▸ .quoted hw hquote (.of_after hq hescaped), t, ht, ?_, hend⟩
      simp only [List.append_assoc, List.cons_append, List.nil_append]
    · cases h

/-- Behind a bare value a line can end, since what follows it is its end or a comment. -/
theorem exists_takeLineEnd_dropWhile (s : List Char) :
    ∃ r, takeLineEnd (s.dropWhile isBareChar) = some r := by
  have hstop := stops_dropWhile isBareChar s
  cases hr : s.dropWhile isBareChar with
  | nil => exact ⟨[], rfl⟩
  | cons c r =>
      have hc : c = '#' ∨ c = '\n' := by
        have hbare := hstop c (by rw [hr]; rfl)
        simp only [isBareChar, Bool.and_eq_false_iff, decide_eq_false_iff_not, ne_eq,
          Decidable.not_not] at hbare
        exact hbare
      rcases hc with rfl | rfl
      · exact ⟨_, rfl⟩
      · obtain ⟨r', hr', -⟩ := takeLineEnd_newline blanks_nil r
        exact ⟨r', hr'⟩

theorem takeValue_eq {v : List Char} (h : takeValue s = (v, rest)) :
    ValueText v ∧ ∃ t, TailText t ∧ s = v ++ (t ++ rest) ∧ AtLineEnd rest := by
  rw [takeValue] at h
  split at h
  · next r hr =>
    subst h
    exact takeQuoted_eq_some hr
  · obtain ⟨r, hr⟩ := exists_takeLineEnd_dropWhile s
    simp only [hr, Option.getD_some, Prod.mk.injEq] at h
    obtain ⟨rfl, rfl⟩ := h
    obtain ⟨t, ht, heq, hend⟩ := takeLineEnd_eq_some hr
    refine ⟨?_, t, ht, ?_, hend⟩
    · have hbare : ∀ c ∈ s.takeWhile isBareChar, c ≠ '#' ∧ c ≠ '\n' := by
        intro c hc
        simpa [isBareChar] using List.all_eq_true.1 List.all_takeWhile c hc
      by_cases hne : s.takeWhile isBareChar = []
      · rw [hne]
        exact .none
      · exact .bare hne (fun hc => (hbare _ hc).1 rfl) fun hc => (hbare _ hc).2 rfl
    · rw [← heq, List.takeWhile_append_dropWhile]

/-- What is taken for an assignment is one, and the end of a line follows it. -/
theorem takeAssignment_eq_some {a : Assignment} (h : takeAssignment s = some (a, rest)) :
    ∃ x : Stretch, x.assignment = a ∧ s = x.text ++ rest ∧ AtLineEnd rest := by
  obtain ⟨⟨n, r⟩, hhead, he⟩ := Option.map_eq_some_iff.1 h
  obtain ⟨w, u, rfl, hw, hu⟩ := exists_blanks_append s
  rw [dropWhile_append_of_stops hw hu] at hhead
  obtain ⟨hname, x, p, hx, hp, rfl⟩ := takeHead_eq_some hhead
  cases hv : takeValue r with
  | mk v r' =>
      rw [hv] at he
      cases he
      obtain ⟨hvalue, t, ht, rfl, hend⟩ := takeValue_eq hv
      refine ⟨⟨⟨w, hw⟩, ⟨x, hx⟩, ⟨n, hname⟩, ⟨p, hp⟩, ⟨v, hvalue⟩, ⟨t, ht⟩⟩, rfl, ?_, hend⟩
      simp only [Stretch.text, Stretch.head, Stretch.front, List.append_assoc]

end EnvSync.Dotenv
