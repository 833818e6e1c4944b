/-
# Numerals of JSON

How a JSON text can spell a number.  The reader takes off the front such a spelling, just
where the rest does not go on with it (`takeNumeral_eq_some_iff`).  What goes on with a
numeral depends on it: a digit always does, a point where there is neither a point nor a
power yet, and the letter of a power where there is no power yet.

A number has many spellings, but the spelling of an integer is its decimal form and
nothing else.  Those of 64 bits are read as what they are (`numberText_of_integerText`).
Nothing is said here of the numbers that other numerals stand for; that takes the
arithmetic of the reader.
-/
import EnvSync.Json.Numeral
import EnvSync.Proofs.Text.Front

namespace EnvSync.Json

open Text (Stops)

/-! ## The grammar -/

structure Digits (ds : List Char) : Prop where
  ne_nil : ds ≠ []
  digits : ∀ c ∈ ds, c.isDigit = true

/-- A whole part: a zero that stands alone, or digits of which the first is not zero. -/
inductive WholeText : List Char → Prop where
  | zero : WholeText ['0']
  | digits {c : Char} {ds : List Char} : c ≠ '0' → Digits (c :: ds) → WholeText (c :: ds)

inductive FractionText : Option (List Char) → List Char → Prop where
  | none : FractionText none []
  | some {ds : List Char} : Digits ds → FractionText (some ds) ('.' :: ds)

/-- A power of ten: the letter, a sign that may be missing, and digits. -/
inductive PowerText : Option (Bool × List Char) → List Char → Prop where
  | none : PowerText none []
  | bare {e : Char} {ds : List Char} : e = 'e' ∨ e = 'E' → Digits ds →
      PowerText (some (false, ds)) (e :: ds)
  | plus {e : Char} {ds : List Char} : e = 'e' ∨ e = 'E' → Digits ds →
      PowerText (some (false, ds)) (e :: '+' :: ds)
  | minus {e : Char} {ds : List Char} : e = 'e' ∨ e = 'E' → Digits ds →
      PowerText (some (true, ds)) (e :: '-' :: ds)

/-- The spellings of a numeral. -/
inductive NumeralText : Numeral → List Char → Prop where
  | mk {negative : Bool} {whole t t' : List Char} {fraction : Option (List Char)}
      {power : Option (Bool × List Char)} :
      WholeText whole → FractionText fraction t → PowerText power t' →
      NumeralText ⟨negative, whole, fraction, power⟩
        ((if negative then ['-'] else []) ++ (whole ++ (t ++ t')))

/-- The text does not begin with what could go on with a numeral. -/
structure EndsNumeral (s : List Char) : Prop where
  digit : Stops Char.isDigit s
  point : s.head? ≠ some '.'
  power : s.head? ≠ some 'e' ∧ s.head? ≠ some 'E'

/-- The text does not begin with what could go on with this numeral. -/
structure Numeral.EndsBefore (n : Numeral) (s : List Char) : Prop where
  digit : Stops Char.isDigit s
  point : n.fraction = none → n.power = none → s.head? ≠ some '.'
  power : n.power = none → s.head? ≠ some 'e' ∧ s.head? ≠ some 'E'

theorem EndsNumeral.endsBefore {s : List Char} (h : EndsNumeral s) (n : Numeral) :
    n.EndsBefore s :=
  ⟨h.digit, fun _ _ => h.point, fun _ => h.power⟩

/-- The spellings of a number. -/
def NumberText (n : Number) (t : List Char) : Prop :=
  ∃ m, NumeralText m t ∧ m.number? = some n

/-- The spellings of a number that the text behind them does not go on with. -/
def NumberBefore (rest : List Char) (n : Number) (t : List Char) : Prop :=
  ∃ m, NumeralText m t ∧ m.number? = some n ∧ m.EndsBefore rest

theorem numberText_of_numberBefore {rest t : List Char} {n : Number} (h : NumberBefore rest n t) :
    NumberText n t := by
  obtain ⟨m, hm, hn, -⟩ := h
  exact ⟨m, hm, hn⟩

/-- The decimal form of an integer that fits in 64 bits, signed or unsigned. -/
inductive IntegerText : Number → List Char → Prop where
  | mk {i : Int} : -0x8000000000000000 ≤ i → i < 0x10000000000000000 →
      IntegerText (.integer i) (toString i).toList

/-! ## Digits -/

theorem takeDigits_eq_some_iff {s ds rest : List Char} :
    takeDigits s = some (ds, rest) ↔ s = ds ++ rest ∧ Digits ds ∧ Stops Char.isDigit rest := by
  simp only [takeDigits]
  constructor
  · intro h
    split at h
    · cases h
    · next hne =>
      cases h
      refine ⟨List.takeWhile_append_dropWhile.symm, ⟨hne, ?_⟩, Text.stops_dropWhile _ s⟩
      intro c hc
      exact List.all_eq_true.1 List.all_takeWhile c hc
  · rintro ⟨rfl, hds, hr⟩
    rw [Text.takeWhile_append_of_stops hds.digits hr, Text.dropWhile_append_of_stops hds.digits hr,
      if_neg hds.ne_nil]

theorem WholeText.allDigits {ds : List Char} (h : WholeText ds) : Digits ds := by
  cases h with
  | zero => exact ⟨by simp, by simp⟩
  | digits _ h => exact h

theorem takeWhole_eq_some_iff {s ds rest : List Char} :
    takeWhole s = some (ds, rest) ↔ s = ds ++ rest ∧ WholeText ds ∧ Stops Char.isDigit rest := by
  constructor
  · intro h
    unfold takeWhole at h
    split at h
    · cases h
    · next hlone =>
      obtain ⟨rfl, hds, hr⟩ := takeDigits_eq_some_iff.1 h
      refine ⟨rfl, ?_, hr⟩
      match ds, hds with
      | c :: ds, hds =>
        by_cases hc : c = '0'
        · subst hc
          cases ds with
          | nil => exact .zero
          | cons d ds => exact absurd h (hlone d ds rest)
        · exact .digits hc hds
      | [], hds => exact absurd rfl hds.ne_nil
  · rintro ⟨rfl, hds, hr⟩
    rw [takeWhole, takeDigits_eq_some_iff.2 ⟨rfl, hds.allDigits, hr⟩]
    cases hds with
    | zero => rfl
    | digits hc _ =>
        split
        · next h => cases h; exact absurd rfl hc
        · rfl

/-! ## Fractions and powers -/

/-- What may stand behind a fraction, or where there is none. -/
def FractionEnds : Option (List Char) → List Char → Prop
  | none, s => s.head? ≠ some '.'
  | some _, s => Stops Char.isDigit s

/-- What may stand behind a power, or where there is none. -/
def PowerEnds : Option (Bool × List Char) → List Char → Prop
  | none, s => s.head? ≠ some 'e' ∧ s.head? ≠ some 'E'
  | some _, s => Stops Char.isDigit s

theorem takeFraction_eq_some_iff {f : Option (List Char)} {s rest : List Char} :
    takeFraction s = some (f, rest) ↔
      ∃ t, s = t ++ rest ∧ FractionText f t ∧ FractionEnds f rest := by
  constructor
  · intro h
    unfold takeFraction at h
    split at h
    · obtain ⟨⟨ds, r⟩, hd, he⟩ := Option.map_eq_some_iff.1 h
      cases he
      obtain ⟨rfl, hds, hr⟩ := takeDigits_eq_some_iff.1 hd
      exact ⟨'.' :: ds, rfl, .some hds, hr⟩
    · next hpoint =>
      cases h
      refine ⟨[], rfl, .none, ?_⟩
      intro hhead
      obtain ⟨u, hu⟩ := List.head?_eq_some_iff.1 hhead
      exact hpoint u hu
  · rintro ⟨t, rfl, h, hr⟩
    cases h with
    | none =>
        rw [List.nil_append, takeFraction]
        rintro u rfl
        exact hr rfl
    | some h =>
        rw [List.cons_append, takeFraction, takeDigits_eq_some_iff.2 ⟨rfl, h, hr⟩]
        rfl

theorem Digits.takeSign_append {ds : List Char} (h : Digits ds) (rest : List Char) :
    takeSign (ds ++ rest) = (false, ds ++ rest) := by
  cases ds with
  | nil => exact absurd rfl h.ne_nil
  | cons d ds =>
      have hd := h.digits d List.mem_cons_self
      rw [List.cons_append, takeSign]
      all_goals rintro s hs; cases hs; revert hd; decide

theorem takePower_append {p : Option (Bool × List Char)} {t rest : List Char} (h : PowerText p t)
    (hr : PowerEnds p rest) : takePower (t ++ rest) = some (p, rest) := by
  cases h with
  | none =>
      cases rest with
      | nil => rfl
      | cons c rest =>
          have hc : ¬ (c = 'e' ∨ c = 'E') := by
            rintro (rfl | rfl)
            · exact hr.1 rfl
            · exact hr.2 rfl
          rw [List.nil_append, takePower, if_neg hc]
  | bare he h =>
      rw [List.cons_append, takePower, if_pos he, h.takeSign_append,
        takeDigits_eq_some_iff.2 ⟨rfl, h, hr⟩]
      rfl
  | plus he h =>
      rw [List.cons_append, takePower, if_pos he, List.cons_append, takeSign,
        takeDigits_eq_some_iff.2 ⟨rfl, h, hr⟩]
      rfl
  | minus he h =>
      rw [List.cons_append, takePower, if_pos he, List.cons_append, takeSign,
        takeDigits_eq_some_iff.2 ⟨rfl, h, hr⟩]
      rfl

theorem exists_of_takePower {p : Option (Bool × List Char)} {s rest : List Char}
    (h : takePower s = some (p, rest)) :
    ∃ t, s = t ++ rest ∧ PowerText p t ∧ PowerEnds p rest := by
  cases s with
  | nil =>
      cases h
      exact ⟨[], rfl, .none, nofun, nofun⟩
  | cons e s =>
      rw [takePower] at h
      split at h
      · next he =>
        obtain ⟨⟨ds, r⟩, hd, hp⟩ := Option.map_eq_some_iff.1 h
        cases hp
        unfold takeSign at hd ⊢
        split at hd
        · obtain ⟨rfl, hds, hr⟩ := takeDigits_eq_some_iff.1 hd
          exact ⟨e :: '-' :: ds, rfl, .minus he hds, hr⟩
        · obtain ⟨rfl, hds, hr⟩ := takeDigits_eq_some_iff.1 hd
          exact ⟨e :: '+' :: ds, rfl, .plus he hds, hr⟩
        · obtain ⟨hs, hds, hr⟩ := takeDigits_eq_some_iff.1 hd
          exact ⟨e :: ds, congrArg (e :: ·) hs, .bare he hds, hr⟩
      · next he =>
        cases h
        refine ⟨[], rfl, .none, ?_, ?_⟩
        · exact fun hhead => he (.inl (Option.some.inj hhead))
        · exact fun hhead => he (.inr (Option.some.inj hhead))

/-- Neither digits nor a fraction go on in front of a power. -/
theorem ends_append_of_powerText {f : Option (List Char)} {p : Option (Bool × List Char)}
    {t rest : List Char} (h : PowerText p t) (digit : Stops Char.isDigit rest)
    (point : f = none → p = none → rest.head? ≠ some '.') :
    Stops Char.isDigit (t ++ rest) ∧ FractionEnds f (t ++ rest) := by
  have hletter : ∀ (e : Char) (s : List Char), e = 'e' ∨ e = 'E' →
      Stops Char.isDigit (e :: s) ∧ FractionEnds f (e :: s) := by
    intro e s he
    have hdigit : Stops Char.isDigit (e :: s) := by
      intro c hc
      cases hc
      rcases he with rfl | rfl <;> rfl
    refine ⟨hdigit, ?_⟩
    cases f with
    | some _ => exact hdigit
    | none => rcases he with rfl | rfl <;> nofun
  cases h with
  | none =>
      cases f with
      | some _ => exact ⟨digit, digit⟩
      | none => exact ⟨digit, point rfl rfl⟩
  | bare he _ | plus he _ | minus he _ => exact hletter _ _ he

theorem FractionText.stops_append {f : Option (List Char)} {t rest : List Char}
    (h : FractionText f t) (hr : Stops Char.isDigit rest) : Stops Char.isDigit (t ++ rest) := by
  cases h with
  | none => exact hr
  | some _ =>
      intro c hc
      cases hc
      rfl

/-! ## Numerals -/

theorem takeMinus_append {whole : List Char} (h : Digits whole) (negative : Bool)
    (rest : List Char) :
    takeMinus ((if negative then ['-'] else []) ++ (whole ++ rest)) = (negative, whole ++ rest) := by
  cases negative with
  | true => rfl
  | false =>
      cases whole with
      | nil => exact absurd rfl h.ne_nil
      | cons d ds =>
          have hd := h.digits d List.mem_cons_self
          rw [if_neg (by simp), List.nil_append, List.cons_append, takeMinus]
          rintro s hs
          cases hs
          revert hd
          decide

theorem append_takeMinus (s : List Char) :
    s = (if (takeMinus s).1 then ['-'] else []) ++ (takeMinus s).2 := by
  unfold takeMinus
  split <;> rfl

/-- A numeral is taken, and the rest does not go on with it. -/
theorem takeNumeral_eq_some_iff {n : Numeral} {s rest : List Char} :
    takeNumeral s = some (n, rest) ↔ ∃ t, s = t ++ rest ∧ NumeralText n t ∧ n.EndsBefore rest := by
  constructor
  · intro h
    simp only [takeNumeral, Option.bind_eq_bind, Option.bind_eq_some_iff] at h
    obtain ⟨⟨whole, s₁⟩, hw, ⟨fraction, s₂⟩, hf, ⟨power, s₃⟩, hp, he⟩ := h
    cases he
    obtain ⟨hs, hwhole, hdigit⟩ := takeWhole_eq_some_iff.1 hw
    obtain ⟨t, rfl, hfraction, hpoint⟩ := takeFraction_eq_some_iff.1 hf
    obtain ⟨t', rfl, hpower, hletter⟩ := exists_of_takePower hp
    refine ⟨_, ?_, .mk hwhole hfraction hpower, ?_⟩
    · rw [List.append_assoc, List.append_assoc, List.append_assoc, ← hs]
      exact append_takeMinus s
    · -- The part that was read last says what does not follow.
      cases hpower with
      | none =>
          cases hfraction with
          | none => exact ⟨hdigit, fun _ _ => hpoint, fun _ => hletter⟩
          | some _ => exact ⟨hpoint, nofun, fun _ => hletter⟩
      | bare _ _ | plus _ _ | minus _ _ => exact ⟨hletter, nofun, nofun⟩
  · rintro ⟨_, rfl, @⟨_, _, _, _, _, power, hw, hf, hp⟩, hends⟩
    have hend := ends_append_of_powerText hp hends.digit hends.point
    have hwhole := takeWhole_eq_some_iff.2 ⟨rfl, hw, hf.stops_append hend.1⟩
    have hfraction := takeFraction_eq_some_iff.2 ⟨_, rfl, hf, hend.2⟩
    have hletter : PowerEnds power rest := by
      cases hp with
      | none => exact hends.power rfl
      | bare _ _ | plus _ _ | minus _ _ => exact hends.digit
    have hpower := takePower_append hp hletter
    simp only [takeNumeral, List.append_assoc, takeMinus_append hw.allDigits, hwhole, hfraction,
      hpower, Option.bind_eq_bind, Option.bind_some]

theorem NumeralText.exists_cons {n : Numeral} {t : List Char} (h : NumeralText n t) :
    ∃ c s, t = c :: s ∧ (c = '-' ∨ c.isDigit = true) := by
  cases h with
  | @mk negative whole _ _ _ _ hw _ _ =>
      cases negative with
      | true => exact ⟨'-', _, rfl, .inl rfl⟩
      | false =>
          have hd := hw.allDigits
          cases whole with
          | nil => exact absurd rfl hd.ne_nil
          | cons d ds => exact ⟨d, _, rfl, .inr (hd.digits d List.mem_cons_self)⟩

/-! ## Integers -/

theorem digitsValue_eq (ds : List Char) : digitsValue ds = Nat.ofDigitChars 10 ds 0 := by
  rw [digitsValue, Nat.ofDigitChars_eq_foldl]
  congr 1
  funext n c
  rw [digitValue, Nat.mul_comm]

theorem digitsValue_toDigits (n : Nat) : digitsValue (Nat.toDigits 10 n) = n := by
  rw [digitsValue_eq, Nat.ofDigitChars_ten_toDigits]

theorem exists_toDigits_cons {n : Nat} (h : 0 < n) :
    ∃ c ds, Nat.toDigits 10 n = c :: ds ∧ c ≠ '0' := by
  induction n using Nat.strongRecOn with
  | ind n ih =>
      by_cases hlt : n < 10
      · refine ⟨n.digitChar, [], Nat.toDigits_of_lt_base hlt, ?_⟩
        have hdigit : ∀ d < 10, 0 < d → Nat.digitChar d ≠ '0' := by decide
        exact hdigit n hlt h
      · obtain ⟨c, ds, hds, hc⟩ := ih (n / 10) (by omega) (by omega)
        refine ⟨c, ds ++ [(n % 10).digitChar], ?_, hc⟩
        rw [Nat.toDigits_of_base_le (by omega) (by omega), hds, List.cons_append]

theorem wholeText_toDigits (n : Nat) : WholeText (Nat.toDigits 10 n) := by
  rcases Nat.eq_zero_or_pos n with rfl | h
  · rw [Nat.toDigits_zero]
    exact .zero
  · obtain ⟨c, ds, hds, hc⟩ := exists_toDigits_cons h
    have hall : Digits (Nat.toDigits 10 n) :=
      ⟨Nat.toDigits_ne_nil, fun _ hd => Nat.isDigit_of_mem_toDigits (by omega) (by omega) hd⟩
    rw [hds] at hall ⊢
    exact .digits hc hall

theorem toList_toString (i : Int) :
    (toString i).toList = (if i < 0 then ['-'] else []) ++ Nat.toDigits 10 i.natAbs := by
  rw [Int.toString_eq_repr, Int.repr_eq_if]
  split
  · next h =>
    rw [Nat.toList_repr, if_neg (by omega), show i.toNat = i.natAbs by omega]
    rfl
  · next h =>
    rw [String.toList_append, Nat.toList_repr, if_pos (by omega),
      show (-i).toNat = i.natAbs by omega]
    rfl

theorem numberText_of_integerText {n : Number} {t : List Char} (h : IntegerText n t) :
    NumberText n t := by
  cases h with
  | @mk i hlo hhi =>
      refine ⟨⟨decide (i < 0), Nat.toDigits 10 i.natAbs, none, none⟩, ?_, ?_⟩
      · have h := @NumeralText.mk (decide (i < 0)) _ _ _ _ _ (wholeText_toDigits i.natAbs) .none .none
        rw [toList_toString]
        simpa using h
      · simp only [Numeral.number?, digitsValue_toDigits, and_self, if_true, decide_eq_true_eq,
          show Nat.pow 2 63 = 0x8000000000000000 from rfl,
          show Nat.pow 2 64 = 0x10000000000000000 from rfl]
        split
        · next hneg => rw [if_pos (by omega), show -(i.natAbs : Int) = i by omega]
        · next hpos => rw [if_pos (by omega), show (i.natAbs : Int) = i by omega]

end EnvSync.Json
