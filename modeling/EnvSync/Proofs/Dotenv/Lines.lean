/-
# From line to line

`assignments` goes through a text from the start of one line to the start of a later
one.  Two things decide where the later one is, and both look past the end of the
line at hand: blanks in front of an assignment include line breaks, and so do the
blanks behind a value.  What is held here is that neither loses anything:

* blanks in front of a text make no difference to its assignments
  (`assignments_blanks_append`);
* whatever is passed over behind a value, blank lines and possibly one whole comment
  line, the assignments found from there on are those of the text behind the line
  break that ends the value's own line (`exists_takeLineEnd`).

The rest of a text behind what has been read of a line is either empty or starts with
a line break, and `AtLineEnd` says so.
-/
import EnvSync.Dotenv.Reader
import EnvSync.Proofs.Text.Unchanged

namespace EnvSync.Dotenv

open Text

/-- A rest that has nothing more of the line: it is empty or starts with a line break. -/
def AtLineEnd (s : List Char) : Prop := ∀ c, s.head? = some c → c = '\n'

theorem atLineEnd_nil : AtLineEnd [] := by
  intro c h
  cases h

theorem atLineEnd_cons (s : List Char) : AtLineEnd ('\n' :: s) :=
  fun _ h => (Option.some.inj h).symm

theorem isBlank_newline : isBlank '\n' = true := by decide

/-! ## The line that is left -/

theorem dropLine_append {t : List Char} (ht : '\n' ∉ t) (r : List Char) :
    dropLine (t ++ r) = dropLine r := by
  have h : ∀ c ∈ t, (c ≠ '\n' : Bool) = true := by
    intro c hc
    simpa using fun he : c = '\n' => ht (he ▸ hc)
  rw [dropLine, dropLine, List.dropWhile_append_of_pos h]

@[simp] theorem dropLine_nil : dropLine [] = [] := rfl

@[simp] theorem dropLine_newline (s : List Char) : dropLine ('\n' :: s) = s := rfl

theorem dropLine_dropWhile (s : List Char) : dropLine (s.dropWhile (· ≠ '\n')) = dropLine s := by
  induction s with
  | nil => rfl
  | cons c s ih =>
      by_cases h : c = '\n'
      · subst h
        rfl
      · have hd : (c :: s).dropWhile (· ≠ '\n') = s.dropWhile (· ≠ '\n') :=
          List.dropWhile_cons_of_pos (by simpa using h)
        have hl : dropLine (c :: s) = dropLine s := by rw [dropLine, hd, dropLine]
        rw [hd, ih, hl]

/-! ## One step -/

theorem takeAssignment_nil : takeAssignment [] = none := rfl

theorem assignments_of_some {s rest : List Char} {a : Assignment}
    (h : takeAssignment s = some (a, rest)) :
    assignments s = a :: assignments (dropLine rest) := by
  have hne : s ≠ [] := by
    rintro rfl
    exact nomatch takeAssignment_nil.symm.trans h
  rw [assignments, dif_neg hne]
  split
  · next b t hb =>
    obtain ⟨rfl, rfl⟩ := Prod.mk.inj (Option.some.inj (h.symm.trans hb))
    rfl
  · next hn => exact nomatch hn.symm.trans h

@[simp] theorem assignments_nil : assignments [] = [] := by rw [assignments, dif_pos rfl]

theorem assignments_of_none {s : List Char} (h : takeAssignment s = none) :
    assignments s = assignments (dropLine (s.dropWhile isBlank)) := by
  by_cases hs : s = []
  · subst hs
    rfl
  · rw [assignments, dif_neg hs]
    split
    · next hb =>
      rw [h] at hb
      cases hb
    · rfl

theorem takeAssignment_blanks_append {w : List Char} (hw : Blanks w) (s : List Char) :
    takeAssignment (w ++ s) = takeAssignment s := by
  rw [takeAssignment, takeAssignment, List.dropWhile_append_of_pos hw]

theorem assignments_congr {s t : List Char} (h : takeAssignment s = takeAssignment t)
    (hd : takeAssignment t = none →
      assignments (dropLine (s.dropWhile isBlank)) = assignments (dropLine (t.dropWhile isBlank))) :
    assignments s = assignments t := by
  cases ht : takeAssignment t with
  | none => rw [assignments_of_none (h.trans ht), assignments_of_none ht, hd ht]
  | some r => rw [assignments_of_some (h.trans ht), assignments_of_some ht]

/-- Blanks in front of a text, line breaks among them, hold no assignment and hide none. -/
theorem assignments_blanks_append {w : List Char} (hw : Blanks w) (s : List Char) :
    assignments (w ++ s) = assignments s :=
  assignments_congr (takeAssignment_blanks_append hw s) fun _ => by
    rw [List.dropWhile_append_of_pos hw]

/-! ## What cannot be an assignment -/

theorem takeTarget_eq_none {c : Char} (hc : isNameChar c = false) (s : List Char) :
    takeTarget (c :: s) = none := by
  have hname : takeName (c :: s) = none := by
    have h : (c :: s).takeWhile isNameChar = [] := List.takeWhile_cons_of_neg (by simp [hc])
    rw [takeName, h]
    rfl
  rw [takeTarget, hname]

theorem takeHead_eq_none {c : Char} (hc : isNameChar c = false) (s : List Char) :
    takeHead (c :: s) = none := by
  have hexport : dropExport (c :: s) = none := by
    unfold dropExport
    split
    · next heq =>
      obtain ⟨rfl, -⟩ := List.cons.inj heq
      exact absurd hc (by decide)
    · rfl
  rw [takeHead, hexport, Option.bind_none, takeTarget_eq_none hc]

theorem assignments_hash (s : List Char) :
    assignments ('#' :: s) = assignments (dropLine s) := by
  have hd : ('#' :: s).dropWhile isBlank = '#' :: s := rfl
  have h : takeAssignment ('#' :: s) = none := by
    rw [takeAssignment, hd, takeHead_eq_none (by decide), Option.map_none]
  rw [assignments_of_none h, hd]
  rfl

/-! ## Behind a value -/

theorem toLastBreak_eq_none {w s : List Char} (hw : '\n' ∉ w)
    (hs : ∀ c, s.head? = some c → isBlank c = false) : toLastBreak (w ++ s) = none := by
  induction w with
  | nil =>
      cases s with
      | nil => rfl
      | cons c s => rw [List.nil_append, toLastBreak, if_neg (by simp [hs c rfl])]
  | cons c w ih =>
      have hc : ¬ c = '\n' := by
        rintro rfl
        exact hw List.mem_cons_self
      have hw' : '\n' ∉ w := by
        intro h
        exact hw (List.mem_cons_of_mem c h)
      rw [List.cons_append, toLastBreak, ih hw']
      simp [hc]

/-- Among blanks with a line break the last one is found; behind it there are blanks only,
up to where they end. -/
theorem toLastBreak_eq_some {w s : List Char} (hw : Blanks w) (hn : '\n' ∈ w)
    (hs : ∀ c, s.head? = some c → isBlank c = false) :
    ∃ v, Blanks v ∧ toLastBreak (w ++ s) = some ('\n' :: (v ++ s)) := by
  induction w with
  | nil => exact absurd hn List.not_mem_nil
  | cons c w ih =>
      have hc : isBlank c = true := hw c List.mem_cons_self
      have hw' : Blanks w := by
        intro d hd
        exact hw d (List.mem_cons_of_mem c hd)
      by_cases hmem : '\n' ∈ w
      · obtain ⟨v, hv, he⟩ := ih hw' hmem
        refine ⟨v, hv, ?_⟩
        rw [List.cons_append, toLastBreak, if_pos hc, he]
      · have hcn : c = '\n' := ((List.mem_cons.1 hn).resolve_right hmem).symm
        refine ⟨w, hw', ?_⟩
        rw [List.cons_append, toLastBreak, if_pos hc, toLastBreak_eq_none hmem hs]
        simp [hcn]

/-- The comment behind a value, with its mark. -/
def commentText : Option (List Char) → List Char
  | none => []
  | some t => '#' :: t

/-- A comment of its own ends the line of a value, and the line break behind it is left. -/
theorem takeLineEnd_comment {w t r : List Char} (hw : Blanks w) (ht : '\n' ∉ t)
    (hr : AtLineEnd r) : takeLineEnd (w ++ '#' :: t ++ r) = some r := by
  have hd : (w ++ '#' :: t ++ r).dropWhile isBlank = '#' :: (t ++ r) := by
    rw [List.append_assoc, List.dropWhile_append_of_pos hw]
    rfl
  have ht' : ∀ c ∈ t, (c ≠ '\n' : Bool) = true := by
    intro c hc
    simpa using fun he : c = '\n' => ht (he ▸ hc)
  have hr' : r.dropWhile (· ≠ '\n') = r := by
    cases r with
    | nil => rfl
    | cons c r =>
        have hc : c = '\n' := hr c rfl
        subst hc
        rfl
  rw [takeLineEnd, hd]
  simp only [List.dropWhile_append_of_pos ht', hr']

/-- Without a comment of its own the line of a value ends too.  Of what comes after,
blank lines may be passed over, and one comment line; no assignment is. -/
theorem takeLineEnd_newline {w : List Char} (hw : Blanks w) (s : List Char) :
    ∃ rest, takeLineEnd (w ++ '\n' :: s) = some rest ∧
      assignments (dropLine rest) = assignments s := by
  obtain ⟨b, t, rfl, hb, ht⟩ := exists_blanks_append s
  have hall : Blanks (w ++ '\n' :: b) := by
    refine hw.append ?_
    intro c hc
    rcases List.mem_cons.1 hc with rfl | hc
    · exact isBlank_newline
    · exact hb c hc
  have hassoc : w ++ '\n' :: (b ++ t) = (w ++ '\n' :: b) ++ t := by
    rw [List.append_assoc, List.cons_append]
  rw [assignments_blanks_append hb, hassoc, takeLineEnd, dropWhile_append_of_stops hall ht]
  -- The cases are those of `takeLineEnd`: the text ends, a comment line follows, or
  -- something else does, and then the last line break among the blanks is where to go on.
  split
  · exact ⟨[], rfl, rfl⟩
  · next t => exact ⟨_, rfl, by rw [dropLine_dropWhile, assignments_hash]⟩
  · obtain ⟨v, hv, he⟩ := toLastBreak_eq_some hall
      (List.mem_append_right w List.mem_cons_self) ht
    exact ⟨_, he, by rw [dropLine_newline, assignments_blanks_append hv]⟩

/-- The line of a value ends behind blanks and a comment, wherever reading goes on
then: what it finds are the assignments behind the line. -/
theorem exists_takeLineEnd {w r : List Char} {comment : Option (List Char)} (hw : Blanks w)
    (hc : ∀ t, comment = some t → '\n' ∉ t) (hr : AtLineEnd r) :
    ∃ rest, takeLineEnd (w ++ commentText comment ++ r) = some rest ∧
      assignments (dropLine rest) = assignments (dropLine r) := by
  cases comment with
  | some t => exact ⟨r, takeLineEnd_comment hw (hc t rfl) hr, rfl⟩
  | none =>
      rw [commentText, List.append_nil]
      cases r with
      | nil =>
          refine ⟨[], ?_, rfl⟩
          rw [List.append_nil, takeLineEnd, dropWhile_of_forall hw]
      | cons c s =>
          have hn : c = '\n' := hr c rfl
          subst hn
          exact takeLineEnd_newline hw s

end EnvSync.Dotenv
