/-
# Where a directive is cut

Places in a piece are found without the blanks around it, and the piece is cut at them with the
blanks in front.  Such a cut can fall inside a character, and then there is no filter at all.
Here is when it cannot: where no blank is in front of the piece, or where all of its characters
are ASCII (`evenCuts_of_head`, `evenCuts_of_ascii`).

Both say the same of the piece, that each place between characters of what is left of it without
the blanks is one between characters of the piece itself (`EvenCuts`), and the reader stops
nowhere else (`clean_ofPiece`).
-/
import EnvSync.Log.Filter
import EnvSync.Proofs.Text.Unchanged
import Mathlib.Data.List.DropRight

namespace EnvSync.Text

variable {s a b r r' : List Char} {n : Nat}

/-! ## Places in a text -/

theorem byteSize_append (a b : List Char) : byteSize (a ++ b) = byteSize a + byteSize b := by
  induction a with
  | nil => rw [List.nil_append, byteSize, Nat.zero_add]
  | cons c a ih => rw [List.cons_append, byteSize, byteSize, ih, Nat.add_assoc]

theorem exists_slice? (ha : s = a ++ r) (hb : s = b ++ r') (h : byteSize a ≤ byteSize b) :
    ∃ x, slice? s (byteSize a) (byteSize b - byteSize a) = some x := by
  rcases List.append_eq_append_iff.1 (ha.symm.trans hb) with ⟨x, rfl, rfl⟩ | ⟨x, rfl, rfl⟩
  · refine ⟨x, ?_⟩
    rw [byteSize_append, Nat.add_sub_cancel_left, ha, ← List.append_assoc]
    exact slice?_append a x r'
  · -- The second cut is not behind the first one, so nothing is between them.
    refine ⟨[], ?_⟩
    rw [byteSize_append] at h ⊢
    have hx : byteSize b - (byteSize b + byteSize x) = 0 := by omega
    rw [hx, ← byteSize_append, ha, slice?, dropBytes?_append, Option.bind_some, takeBytes?]

theorem byteSize_eq_length (h : ∀ c ∈ s, c.toNat < 0x80) : byteSize s = s.length := by
  induction s with
  | nil => rfl
  | cons c s ih =>
      have hc : c.utf8Size = 1 := by
        rw [Char.utf8Size_eq_one_iff, UInt32.le_iff_toNat_le]
        exact Nat.le_of_lt_succ (h c List.mem_cons_self)
      rw [byteSize, hc, ih fun d hd => h d (List.mem_cons_of_mem c hd), List.length_cons, Nat.add_comm]

end EnvSync.Text

namespace EnvSync.Log

open Text (byteSize trim isBlank)

/-! ## Marks -/

namespace Directive

variable {m a b : Mark} {t piece : List Char} {c : Char} {s : List Char} {stops : Char → Bool}

/-- The place is one between characters of a text, and what is left is what follows it there. -/
def Mark.In (m : Mark) (t : List Char) : Prop :=
  ∃ a, t = a ++ m.left ∧ byteSize a = m.gone

theorem Mark.In.start (t : List Char) : Mark.In ⟨0, t⟩ t := ⟨[], rfl, rfl⟩

theorem Mark.In.reach (h : m.In t) (stops : Char → Bool) : (m.reach stops).In t := by
  obtain ⟨a, rfl, hsize⟩ := h
  refine ⟨a ++ m.left.takeWhile fun c => !stops c, ?_, ?_⟩
  · rw [List.append_assoc, Mark.reach, List.takeWhile_append_dropWhile]
  · rw [Text.byteSize_append, hsize, Mark.reach]

theorem Mark.gone_le_reach (m : Mark) (stops : Char → Bool) : m.gone ≤ (m.reach stops).gone :=
  Nat.le_add_right _ _

theorem Mark.stops_of_reach (h : (m.reach stops).left = c :: s) : stops c = true := by
  have hstop := Text.stops_dropWhile (fun c => !stops c) m.left c
  change (m.reach stops).left.head? = some c → _ at hstop
  rw [h] at hstop
  simpa using hstop rfl

theorem Mark.In.pass (h : m.In t) (hleft : m.left = c :: s) (hc : c.utf8Size = 1) : m.pass.In t := by
  obtain ⟨a, rfl, hsize⟩ := h
  refine ⟨a ++ [c], ?_, ?_⟩
  · rw [Mark.pass, hleft, List.tail_cons, List.append_assoc, List.singleton_append]
  · rw [Text.byteSize_append, hsize, byteSize, byteSize, hc, Mark.pass]

/-! ## Pieces that can be cut -/

/-- Every place in the piece without the blanks around it is a place in the piece. -/
def EvenCuts (piece : List Char) : Prop :=
  ∀ a, a <+: trim piece → ∃ b r, piece = b ++ r ∧ byteSize b = byteSize a

theorem evenCuts_of_head (h : ∀ c, piece.head? = some c → isBlank c = false) : EvenCuts piece := by
  intro a ha
  have hstart : Text.trimStart piece = piece := Text.dropWhile_of_stops h
  have htrim : trim piece <+: piece := by
    rw [trim, hstart]
    exact List.rdropWhile_prefix isBlank piece
  obtain ⟨r, hr⟩ := ha.trans htrim
  exact ⟨a, r, hr.symm, rfl⟩

theorem evenCuts_of_ascii (h : ∀ c ∈ piece, c.toNat < 0x80) : EvenCuts piece := by
  intro a ha
  have hsub : a <:+: piece := ha.isInfix.trans (Text.trim_infix piece)
  refine ⟨piece.take a.length, piece.drop a.length, (List.take_append_drop _ _).symm, ?_⟩
  rw [Text.byteSize_eq_length fun c hc => h c (List.mem_of_mem_take hc),
    Text.byteSize_eq_length fun c hc => h c (hsub.subset hc), List.length_take]
  exact Nat.min_eq_left hsub.length_le

/-- Whatever else it comes to, no character is cut. -/
def Clean {α : Type} (x : Except Fault α) : Prop := x ≠ .error .insideCharacter

theorem clean_ok {α : Type} (x : α) : Clean (.ok x) := nofun

theorem clean_malformed {α : Type} : Clean (.error .malformed : Except Fault α) := nofun

theorem Clean.bind {α β : Type} {x : Except Fault α} {f : α → Except Fault β} (h : Clean x)
    (hf : ∀ y, Clean (f y)) : Clean (x >>= f) := by
  cases x with
  | error e =>
      intro he
      exact h (congrArg Except.error (Except.error.inj he))
  | ok y => exact hf y

theorem Mark.In.exists_cut (hpiece : EvenCuts piece) (h : m.In (trim piece)) :
    ∃ b r, piece = b ++ r ∧ byteSize b = m.gone := by
  obtain ⟨a, ht, hsize⟩ := h
  rw [← hsize]
  exact hpiece a ⟨m.left, ht.symm⟩

theorem clean_part (hpiece : EvenCuts piece) (ha : a.In (trim piece)) (hb : b.In (trim piece))
    (h : a.gone ≤ b.gone) : Clean (part piece a b) := by
  obtain ⟨p, r, hp, hpa⟩ := ha.exists_cut hpiece
  obtain ⟨q, r', hq, hqb⟩ := hb.exists_cut hpiece
  rw [← hpa, ← hqb] at h
  obtain ⟨x, hx⟩ := Text.exists_slice? hp hq h
  rw [hpa, hqb] at hx
  rw [part, hx]
  exact clean_ok x

theorem clean_levelFrom (hpiece : EvenCuts piece) (hm : m.In (trim piece)) :
    Clean (levelFrom piece m) := by
  obtain ⟨p, r, rfl, hp⟩ := hm.exists_cut hpiece
  rw [levelFrom, ← hp, Text.dropBytes?_append]
  cases r with
  | nil => exact clean_ok _
  | cons c r =>
      dsimp only
      split
      · exact clean_ok _
      · exact clean_malformed

theorem clean_ending (hpiece : EvenCuts piece) (hm : m.In (trim piece)) :
    Clean (ending piece m) := by
  unfold ending
  split
  · exact clean_ok _
  · next s hleft => exact clean_levelFrom hpiece (hm.pass hleft rfl)
  · exact clean_malformed

theorem clean_fieldBetween (hpiece : EvenCuts piece) (ha : a.In (trim piece))
    (hb : b.In (trim piece)) (h : a.gone ≤ b.gone) : Clean (fieldBetween piece a b) := by
  have hpart := clean_part hpiece ha hb h
  unfold fieldBetween
  split
  · next f hf =>
    intro he
    exact hpart (hf.trans (congrArg Except.error (Except.error.inj he)))
  · exact clean_malformed
  · split
    · exact clean_ok _
    · exact clean_malformed

theorem clean_withBracket (hpiece : EvenCuts piece) (target : List Char)
    (ha : a.In (trim piece)) : Clean (withBracket piece target a) := by
  unfold withBracket
  dsimp only
  have hb := ha.reach fun c => c = ']' || c = '\x7b'
  have hle := a.gone_le_reach fun c => c = ']' || c = '\x7b'
  split
  · exact clean_malformed
  · next hleft =>
    refine (clean_part hpiece ha hb hle).bind fun span => ?_
    exact (clean_ending hpiece (hb.pass hleft rfl)).bind fun t => clean_ok _
  · next hnil hbracket =>
    refine (clean_part hpiece ha hb hle).bind fun span => ?_
    -- The character that was stopped at is the brace, being neither missing nor a bracket.
    obtain ⟨s, hleft⟩ : ∃ s, (a.reach fun c => c = ']' || c = '\x7b').left = '\x7b' :: s := by
      cases hl : (a.reach fun c => c = ']' || c = '\x7b').left with
      | nil => exact absurd hl hnil
      | cons c s =>
          have hc := Mark.stops_of_reach hl
          simp only [Bool.or_eq_true, decide_eq_true_eq] at hc
          rcases hc with rfl | rfl
          · exact absurd hl (hbracket s)
          · exact ⟨s, rfl⟩
    have hopen := hb.pass hleft rfl
    have hclose := hopen.reach fun c => c = '\x7d'
    split
    · exact clean_malformed
    · next hne =>
      refine (clean_fieldBetween hpiece hopen hclose (Mark.gone_le_reach _ _)).bind fun f => ?_
      obtain ⟨c, r, hl⟩ := List.exists_cons_of_ne_nil hne
      have hc : c = '\x7d' := by simpa using Mark.stops_of_reach hl
      subst hc
      have hbehind := hclose.pass hl rfl
      split
      · next hleft' => exact (clean_ending hpiece (hbehind.pass hleft' rfl)).bind fun t => clean_ok _
      · exact clean_malformed

theorem clean_ofPiece (hpiece : EvenCuts piece) : Clean (ofPiece piece) := by
  unfold ofPiece
  split
  · exact clean_malformed
  · next c s htrim =>
    split
    · exact clean_malformed
    · have ha : Mark.In ⟨0, c :: s⟩ (trim piece) := htrim ▸ .start (c :: s)
      have hb := ha.reach fun c => c = '=' || c = '['
      have hle := Mark.gone_le_reach ⟨0, c :: s⟩ fun c => c = '=' || c = '['
      dsimp only
      split
      · exact clean_ok _
      · next hleft =>
        refine (clean_part hpiece ha hb hle).bind fun target => ?_
        exact (clean_levelFrom hpiece (hb.pass hleft rfl)).bind fun t => clean_ok _
      · next hnil hequals =>
        refine (clean_part hpiece ha hb hle).bind fun target => ?_
        cases hl : (Mark.reach ⟨0, c :: s⟩ fun c => c = '=' || c = '[').left with
        | nil => exact absurd hl hnil
        | cons d r =>
            have hd := Mark.stops_of_reach hl
            simp only [Bool.or_eq_true, decide_eq_true_eq] at hd
            rcases hd with rfl | rfl
            · exact absurd hl (hequals r)
            · exact clean_withBracket hpiece target (hb.pass hl rfl)

end Directive

/-! ## Filters -/

namespace Filter

open Directive (EvenCuts Clean)

theorem clean_mapM {ps : List (List Char)} (h : ∀ p ∈ ps, Clean (Directive.ofPiece p)) :
    Clean (ps.mapM Directive.ofPiece) := by
  induction ps with
  | nil => exact Directive.clean_ok _
  | cons p ps ih =>
      rw [List.mapM_cons]
      refine (h p List.mem_cons_self).bind fun d => ?_
      refine (ih fun q hq => h q (List.mem_cons_of_mem p hq)).bind fun f => ?_
      exact Directive.clean_ok _

theorem clean_ofText {text : String} (h : ∀ p ∈ Text.split ',' text.toList, EvenCuts p) :
    Clean (ofText text) := by
  unfold ofText
  dsimp only
  split
  · exact Directive.clean_ok _
  · refine clean_mapM fun p hp => Directive.clean_ofPiece (h p ?_)
    exact (List.mem_filter.1 hp).1

/-- There is a filter unless the text would have to be cut inside a character. -/
theorem inForce_eq_none_iff {text : Option String} :
    inForce text = none ↔ ∃ s, text = some s ∧ ofText s = .error .insideCharacter := by
  constructor
  · intro h
    cases text with
    | none => cases h
    | some s =>
        rw [inForce] at h
        split at h
        · cases h
        · cases h
        · next hs => exact ⟨s, rfl, hs⟩
  · rintro ⟨s, rfl, hs⟩
    rw [inForce, hs]

end Filter
end EnvSync.Log
