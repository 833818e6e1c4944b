/-
# Nothing is read that is not there

Whatever a text holds, each setting that is read of it stands there as an assignment: behind
the start of a line, with nothing but blanks and the word `export` before its name, and up to
the end of a line.  These stretches of the text follow one another without overlap, so no name
is found in a comment or inside a value that was taken (`parse_of_stretches`).

A setting is read where a line starts, and what is read next starts on a line behind it.  So it
is enough to keep, for each assignment, all of the text that stands before it (`Placed`): by the
induction of the reader itself these only grow (`foundBehind_assignments`).
-/
import EnvSync.Proofs.Dotenv.Reload
import Mathlib.Data.List.DropRight
import Mathlib.Data.List.Pairwise

namespace EnvSync.Dotenv

open Text

variable {s rest : List Char}

/-! ## Stretches of a text -/

/-- Nothing, or a text with a line break at its end. -/
def AtLineStart (s : List Char) : Prop := s = [] ∨ s.getLast? = some '\n'

/-- An assignment with all of the text that stands before it. -/
structure Placed where
  before : List Char
  stretch : Stretch

namespace Placed

def upToName (p : Placed) : List Char := p.before ++ p.stretch.front

def upToValue (p : Placed) : List Char := p.before ++ p.stretch.head

def throughValue (p : Placed) : List Char := p.upToValue ++ p.stretch.value.1

def through (p : Placed) : List Char := p.before ++ p.stretch.text

end Placed

/-- The assignments stand in the text, each from the start of a line to the end of one, in the
order given and without overlap. -/
structure StandIn (text : List Char) (ps : List Placed) : Prop where
  lines : ∀ p ∈ ps, AtLineStart p.before ∧ ∃ rest, text = p.through ++ rest ∧ AtLineEnd rest
  apart : ps.Pairwise fun p p' => p.through <+: p'.before

theorem StandIn.nil (text : List Char) : StandIn text [] :=
  ⟨fun _ hp => (nomatch hp), .nil⟩

theorem StandIn.cons {text : List Char} {p : Placed} {ps : List Placed} (h : StandIn text ps)
    (start : AtLineStart p.before) (place : text = p.through ++ rest) (stop : AtLineEnd rest)
    (later : ∀ p' ∈ ps, p.through <+: p'.before) : StandIn text (p :: ps) := by
  refine ⟨fun p' hp' => ?_, .cons later h.apart⟩
  rcases List.mem_cons.1 hp' with rfl | hp'
  · exact ⟨start, rest, place, stop⟩
  · exact h.lines p' hp'

theorem exists_dropLine (s : List Char) :
    dropLine s = [] ∨ ∃ g, s = g ++ dropLine s ∧ g.getLast? = some '\n' := by
  induction s with
  | nil => exact .inl rfl
  | cons c s ih =>
      by_cases hc : c = '\n'
      · subst hc
        exact .inr ⟨['\n'], rfl, rfl⟩
      · have hd : dropLine (c :: s) = dropLine s :=
          dropLine_append (t := [c]) (by simpa using Ne.symm hc) s
        rw [hd]
        rcases ih with h | ⟨g, hg, hlast⟩
        · exact .inl h
        · refine .inr ⟨c :: g, congrArg (c :: ·) hg, ?_⟩
          cases g with
          | nil => cases hlast
          | cons d g => exact List.getLast?_cons_cons.trans hlast

/-- The assignments stand in the text, in this order and all of them behind its beginning. -/
def FoundBehind (text before : List Char) (as : List Assignment) : Prop :=
  ∃ ps, StandIn text ps ∧ (∀ p ∈ ps, before <+: p.before) ∧
    ps.map (fun p => p.stretch.assignment) = as

theorem FoundBehind.nil (text before : List Char) : FoundBehind text before [] :=
  ⟨[], .nil text, fun _ hp => (nomatch hp), rfl⟩

theorem FoundBehind.of_append {text before g : List Char} {as : List Assignment}
    (h : FoundBehind text (before ++ g) as) : FoundBehind text before as := by
  obtain ⟨ps, hps, hafter, hmap⟩ := h
  exact ⟨ps, hps, fun p hp => (List.prefix_append before g).trans (hafter p hp), hmap⟩

theorem FoundBehind.cons {text before : List Char} {x : Stretch} {as : List Assignment}
    (h : FoundBehind text (before ++ x.text) as) (start : AtLineStart before)
    (place : text = (before ++ x.text) ++ rest) (stop : AtLineEnd rest) :
    FoundBehind text before (x.assignment :: as) := by
  obtain ⟨ps, hps, hafter, rfl⟩ := h
  refine ⟨⟨before, x⟩ :: ps, hps.cons start place stop hafter, ?_, rfl⟩
  intro p hp
  rcases List.mem_cons.1 hp with rfl | hp
  · exact List.prefix_refl before
  · exact (List.prefix_append before x.text).trans (hafter p hp)

theorem foundBehind_dropLine {text before left : List Char} (place : text = before ++ left)
    (next : ∀ {b : List Char}, text = b ++ dropLine left → AtLineStart b →
      FoundBehind text b (assignments (dropLine left))) :
    FoundBehind text before (assignments (dropLine left)) := by
  rcases exists_dropLine left with hnil | ⟨g, hg, hlast⟩
  · rw [hnil, assignments_nil]
    exact .nil text before
  · refine .of_append (g := g) (next ?_ (.inr ?_))
    · rw [List.append_assoc, ← hg, place]
    · rw [List.getLast?_append, hlast, Option.some_or]

/-- From the start of a line on, what is read stands in the text. -/
theorem foundBehind_assignments {text before : List Char} (place : text = before ++ s)
    (start : AtLineStart before) : FoundBehind text before (assignments s) := by
  fun_induction assignments s generalizing before with
  | case1 => exact .nil text before
  | case2 s _ a rest ha ih =>
      obtain ⟨x, rfl, rfl, stop⟩ := takeAssignment_eq_some ha
      rw [← List.append_assoc] at place
      exact (foundBehind_dropLine place ih).cons start place stop
  | case3 s _ _ ih =>
      obtain ⟨w, u, rfl, hw, hu⟩ := exists_blanks_append s
      rw [dropWhile_append_of_stops hw hu] at ih ⊢
      rw [← List.append_assoc] at place
      exact (foundBehind_dropLine place ih).of_append

/-! ## Where a name can stand -/

/-- What of a text is on its last line. -/
def lastLine (s : List Char) : List Char := s.rtakeWhile (· ≠ '\n')

/-- The beginning of a line up to a name. -/
inductive LineFront : List Char → Prop where
  | mk {w x : List Char} : Blanks w → ExportText x → LineFront (w ++ x)

theorem lastLine_append (a b : List Char) :
    lastLine (a ++ b) = if '\n' ∈ b then lastLine b else lastLine a ++ b := by
  induction b using List.reverseRecOn with
  | nil => simp
  | append_singleton b c ih =>
      simp only [lastLine] at ih ⊢
      rw [← List.append_assoc, List.rtakeWhile_concat, List.rtakeWhile_concat, ih]
      by_cases hc : c = '\n'
      · subst hc
        simp
      · by_cases hb : '\n' ∈ b <;> simp [hc, hb, Ne.symm hc]

theorem lastLine_of_start {a : List Char} (h : AtLineStart a) (b : List Char) :
    lastLine (a ++ b) = lastLine b := by
  have ha : lastLine a = [] := by
    rcases h with rfl | h
    · rfl
    · refine List.rtakeWhile_eq_nil_iff.2 fun hne => ?_
      rw [List.getLast?_eq_some_getLast hne] at h
      simpa using Option.some.inj h
  have hb := lastLine_append [] b
  rw [lastLine_append, ha]
  exact hb.symm

theorem Blanks.lastLine {w : List Char} (h : Blanks w) : Blanks (lastLine w) :=
  fun c hc => h c ((List.rtakeWhile_suffix _ w).subset hc)

/-- Blanks and `export` before a name leave nothing else before it on its line, even where they
are on different lines. -/
theorem lineFront_of_start {before : List Char} (h : AtLineStart before) (x : Stretch) :
    LineFront (lastLine (before ++ x.front)) := by
  obtain ⟨⟨w, hw⟩, ⟨e, he⟩, -⟩ := x
  rw [lastLine_of_start h]
  show LineFront (lastLine (w ++ e))
  cases he with
  | none =>
      rw [List.append_nil, ← List.append_nil (lastLine w)]
      exact .mk (Blanks.lastLine hw) .none
  | @word v hne hv =>
      rw [lastLine_append]
      split
      · next hmem =>
        have hbreak : '\n' ∈ v := by
          rcases List.mem_append.1 hmem with hword | hbreak
          · exact absurd hword (by decide)
          · exact hbreak
        rw [lastLine_append, if_pos hbreak, ← List.append_nil (lastLine v)]
        exact .mk (Blanks.lastLine hv) .none
      · exact .mk (Blanks.lastLine hw) (.word hne hv)

namespace Placed

theorem length_upToName_lt (p : Placed) : p.upToName.length < p.upToValue.length := by
  have hname := List.length_pos_iff.2 p.stretch.name.2.ne_nil
  simp only [upToName, upToValue, Stretch.head, List.length_append]
  omega

theorem length_throughValue_le (p : Placed) : p.throughValue.length ≤ p.through.length := by
  simp only [throughValue, upToValue, through, Stretch.text, List.length_append]
  omega

theorem length_upToValue_le (p : Placed) : p.upToValue.length ≤ p.throughValue.length := by
  simp only [throughValue, List.length_append]
  omega

theorem length_before_le (p : Placed) : p.before.length ≤ p.upToName.length := by
  simp only [upToName, List.length_append]
  omega

end Placed

/-- The second name begins in front of the first value, or behind it. -/
def Placed.Outside (p p' : Placed) : Prop :=
  p'.upToName.length < p.upToValue.length ∨ p.throughValue.length ≤ p'.upToName.length

theorem outside_of_through {p p' : Placed} (h : p.through <+: p'.before) :
    p.Outside p' ∧ p'.Outside p := by
  have hle := h.length_le
  have hp := p.length_upToName_lt
  have hp' := p'.length_upToName_lt
  have hv := p.length_throughValue_le
  have hu := p.length_upToValue_le
  have hu' := p'.length_upToValue_le
  have hb := p.length_before_le
  have hb' := p'.length_before_le
  exact ⟨.inr (by omega), .inl (by omega)⟩

theorem StandIn.outside {text : List Char} {ps : List Placed} (h : StandIn text ps) :
    ∀ p ∈ ps, ∀ p' ∈ ps, p.Outside p' := by
  have hlater : ps.Pairwise Placed.Outside := h.apart.imp fun hp => (outside_of_through hp).1
  have hearlier : ps.Pairwise (flip Placed.Outside) :=
    h.apart.imp fun hp => (outside_of_through hp).2
  exact hlater.forall_of_forall_of_flip (fun p _ => .inl p.length_upToName_lt) hearlier

/-! ## What is read of any text -/

/-- The settings of a text are assigned in it, in the order in which they stand there.  Their
names are names, before a name there is nothing else on its line but blanks and `export`, and
no name begins inside a value. -/
theorem parse_of_stretches (text : String) :
    (parse text).keys.Nodup ∧ (∀ k ∈ (parse text).keys, IsName k.toList) ∧
    ∃ ps, StandIn (unifyLineBreaks text.toList) ps ∧
      parse text = .ofList (ps.map fun p =>
        (.ofList p.stretch.name.1, .ofList (unquote (trim p.stretch.value.1)))) ∧
      (∀ p ∈ ps, LineFront (lastLine p.upToName)) ∧
      ∀ p ∈ ps, ∀ p' ∈ ps, p.Outside p' := by
  refine ⟨(parse text).keys_nodup, fun k hk => isName_of_mem_keys_parse hk, ?_⟩
  obtain ⟨ps, hps, -, hmap⟩ :=
    foundBehind_assignments (List.nil_append (unifyLineBreaks text.toList)).symm (.inl rfl)
  refine ⟨ps, hps, ?_, ?_, hps.outside⟩
  · rw [parse, ← hmap, List.map_map]
    rfl
  · intro p hp
    exact lineFront_of_start (hps.lines p hp).1 p.stretch

end EnvSync.Dotenv
