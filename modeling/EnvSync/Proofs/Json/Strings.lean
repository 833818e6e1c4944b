/-
# Strings of JSON

The ways in which a JSON text can spell a string, and that the reader knows just
these: it takes a string off the front of a text exactly where one of its spellings
stands there (`takeString_eq_some_iff`).

A character is spelled as itself, or by one of eight short escapes, or by the
hexadecimal digits of its UTF-16 units, of which it has one or two.  The grammar says
it that way round, from the character to its units, so there is no unit that is half
of a pair and no pair that is no character; that the reader's arithmetic, which goes
from units to characters, comes to the same is `pairChar_eq`.

What a spelling means does not depend on what follows it.  So there is no condition on
the rest of the text here, as there is for numbers.
-/
import EnvSync.Json.Chars
import EnvSync.Proofs.Text.Utf8

namespace EnvSync.Json

open Text.Utf8 (isScalar toNat_charOfNat)

/-! ## The grammar -/

/-- A digit for a value below sixteen, in either case. -/
def DigitText (v : Nat) (d : Char) : Prop :=
  v < 10 ∧ d.toNat = 0x30 + v ∨
  10 ≤ v ∧ v < 16 ∧ (d.toNat = 0x61 + (v - 10) ∨ d.toNat = 0x41 + (v - 10))

/-- The four digits of a UTF-16 unit. -/
inductive UnitText (u : Nat) : List Char → Prop where
  | mk {a b c d : Char} :
      DigitText (u / 0x1000) a → DigitText (u / 0x100 % 0x10) b →
      DigitText (u / 0x10 % 0x10) c → DigitText (u % 0x10) d → UnitText u [a, b, c, d]

/-- The characters that have a short escape, with its letter. -/
def shortEscapes : List (Char × Char) :=
  [('"', '"'), ('\\', '\\'), ('/', '/'), ('\x08', 'b'), ('\x0c', 'f'), ('\n', 'n'), ('\r', 'r'),
   ('\t', 't')]

/-- What follows the `\u` of a character: one unit, or a surrogate pair. -/
inductive UnicodeText (c : Char) : List Char → Prop where
  | unit {t : List Char} : UnitText c.toNat t → UnicodeText c t
  | pair {t t' : List Char} : 0x10000 ≤ c.toNat →
      UnitText (0xD800 + (c.toNat - 0x10000) / 0x400) t →
      UnitText (0xDC00 + (c.toNat - 0x10000) % 0x400) t' →
      UnicodeText c (t ++ '\\' :: 'u' :: t')

inductive CharText (c : Char) : List Char → Prop where
  | raw : ' ' ≤ c → c ≠ '"' → c ≠ '\\' → CharText c [c]
  | short {e : Char} : (c, e) ∈ shortEscapes → CharText c ['\\', e]
  | unicode {t : List Char} : UnicodeText c t → CharText c ('\\' :: 'u' :: t)

inductive CharsText : List Char → List Char → Prop where
  | nil : CharsText [] []
  | cons {c : Char} {s t ts : List Char} :
      CharText c t → CharsText s ts → CharsText (c :: s) (t ++ ts)

inductive StringText (s : String) : List Char → Prop where
  | mk {t : List Char} : CharsText s.toList t → StringText s ('"' :: t ++ ['"'])

/-! ## Units -/

theorem toNat_le {c d : Char} : c ≤ d ↔ c.toNat ≤ d.toNat := Iff.rfl

theorem hexValue_eq_some_iff {d : Char} {v : Nat} : Text.hexValue d = some v ↔ DigitText v d := by
  simp only [Text.hexValue, DigitText, toNat_le, show '0'.toNat = 0x30 from rfl,
    show '9'.toNat = 0x39 from rfl, show 'a'.toNat = 0x61 from rfl, show 'f'.toNat = 0x66 from rfl,
    show 'A'.toNat = 0x41 from rfl, show 'F'.toNat = 0x46 from rfl]
  split
  · rw [Option.some.injEq]
    omega
  · split
    · rw [Option.some.injEq]
      omega
    · split
      · rw [Option.some.injEq]
        omega
      · constructor
        · intro h
          cases h
        · intro h
          omega

theorem DigitText.lt {v : Nat} {d : Char} (h : DigitText v d) : v < 0x10 := by
  rcases h with h | h <;> omega

theorem takeUnit_eq_some_iff {s rest : List Char} {u : Nat} :
    takeUnit s = some (u, rest) ↔ ∃ t, s = t ++ rest ∧ UnitText u t := by
  constructor
  · intro h
    match s with
    | a :: b :: c :: d :: s =>
      simp only [takeUnit, Option.bind_eq_bind, Option.bind_eq_some_iff, Option.some.injEq,
        Prod.mk.injEq, hexValue_eq_some_iff] at h
      obtain ⟨va, ha, vb, hb, vc, hc, vd, hd, rfl, rfl⟩ := h
      have hlb := hb.lt
      have hlc := hc.lt
      have hld := hd.lt
      refine ⟨[a, b, c, d], rfl, .mk ?_ ?_ ?_ ?_⟩
      · rwa [show (((va * 16 + vb) * 16 + vc) * 16 + vd) / 0x1000 = va by omega]
      · rwa [show (((va * 16 + vb) * 16 + vc) * 16 + vd) / 0x100 % 0x10 = vb by omega]
      · rwa [show (((va * 16 + vb) * 16 + vc) * 16 + vd) / 0x10 % 0x10 = vc by omega]
      · rwa [show (((va * 16 + vb) * 16 + vc) * 16 + vd) % 0x10 = vd by omega]
    | [] | [_] | [_, _] | [_, _, _] => simp [takeUnit] at h
  · rintro ⟨t, rfl, ha, hb, hc, hd⟩
    simp only [List.cons_append, List.nil_append, takeUnit, hexValue_eq_some_iff.2 ha,
      hexValue_eq_some_iff.2 hb, hexValue_eq_some_iff.2 hc, hexValue_eq_some_iff.2 hd,
      Option.bind_eq_bind, Option.bind_some]
    rw [show ((u / 0x1000 * 16 + u / 0x100 % 0x10) * 16 + u / 0x10 % 0x10) * 16 + u % 0x10 = u
      by omega]

theorem UnitText.lt {u : Nat} {t : List Char} (h : UnitText u t) : u < 0x10000 := by
  obtain ⟨ha, -, -, -⟩ := h
  have := ha.lt
  omega

/-! ## Characters -/

theorem isHighSurrogate_iff {u : Nat} : isHighSurrogate u ↔ 0xD800 ≤ u ∧ u < 0xDC00 := by
  simp [isHighSurrogate]

theorem isLowSurrogate_iff {u : Nat} : isLowSurrogate u ↔ 0xDC00 ≤ u ∧ u < 0xE000 := by
  simp [isLowSurrogate]

/-- The units of a character beyond the first plane are a pair, and the pair gives the
character back. -/
theorem pairChar_eq {c : Char} (h : 0x10000 ≤ c.toNat) :
    pairChar (0xD800 + (c.toNat - 0x10000) / 0x400) (0xDC00 + (c.toNat - 0x10000) % 0x400) = c := by
  have hn : 0x10000 + (0xD800 + (c.toNat - 0x10000) / 0x400 - 0xD800) * 0x400 +
      (0xDC00 + (c.toNat - 0x10000) % 0x400 - 0xDC00) = c.toNat := by omega
  rw [pairChar, hn]
  exact Char.ofNat_toNat c

theorem toNat_pairChar {u v : Nat} (hu : 0xD800 ≤ u ∧ u < 0xDC00) (hv : 0xDC00 ≤ v ∧ v < 0xE000) :
    (pairChar u v).toNat = 0x10000 + (u - 0xD800) * 0x400 + (v - 0xDC00) := by
  rw [pairChar, toNat_charOfNat (by omega)]

theorem takeUnicode_of_unicodeText {c : Char} {t : List Char} (h : UnicodeText c t)
    (rest : List Char) : takeUnicode (t ++ rest) = some (c, rest) := by
  have hc := isScalar c
  cases h with
  | unit h =>
      have hlt := h.lt
      have hhigh : ¬ isHighSurrogate c.toNat := by rw [isHighSurrogate_iff]; omega
      have hlow : ¬ isLowSurrogate c.toNat := by rw [isLowSurrogate_iff]; omega
      simp only [takeUnicode, takeUnit_eq_some_iff.2 ⟨_, rfl, h⟩, if_neg hhigh, if_neg hlow,
        Char.ofNat_toNat]
  | pair hbig h h' =>
      have hhigh : isHighSurrogate (0xD800 + (c.toNat - 0x10000) / 0x400) := by
        rw [isHighSurrogate_iff]; omega
      have hlow : isLowSurrogate (0xDC00 + (c.toNat - 0x10000) % 0x400) := by
        rw [isLowSurrogate_iff]; omega
      rw [List.append_assoc, takeUnicode, takeUnit_eq_some_iff.2 ⟨_, rfl, h⟩]
      simp only [if_pos hhigh, List.cons_append, takeUnit_eq_some_iff.2 ⟨_, rfl, h'⟩, if_pos hlow,
        pairChar_eq hbig]

theorem unicodeText_of_takeUnicode {c : Char} {s rest : List Char}
    (h : takeUnicode s = some (c, rest)) : ∃ t, s = t ++ rest ∧ UnicodeText c t := by
  simp only [takeUnicode] at h
  split at h
  · cases h
  · next u r hu =>
    obtain ⟨t, rfl, ht⟩ := takeUnit_eq_some_iff.1 hu
    have hlt := ht.lt
    split at h
    · next hhigh =>
      rw [isHighSurrogate_iff] at hhigh
      split at h
      · next r =>
        split at h
        · cases h
        · next v r' hv =>
          obtain ⟨t', rfl, ht'⟩ := takeUnit_eq_some_iff.1 hv
          split at h
          · next hlow =>
            rw [isLowSurrogate_iff] at hlow
            simp only [Option.some.injEq, Prod.mk.injEq] at h
            obtain ⟨rfl, rfl⟩ := h
            have hn := toNat_pairChar hhigh hlow
            refine ⟨t ++ '\\' :: 'u' :: t', by simp, .pair (by omega) ?_ ?_⟩
            · rwa [hn, show 0xD800 + (0x10000 + (u - 0xD800) * 0x400 + (v - 0xDC00) - 0x10000) /
                0x400 = u by omega]
            · rwa [hn, show 0xDC00 + (0x10000 + (u - 0xD800) * 0x400 + (v - 0xDC00) - 0x10000) %
                0x400 = v by omega]
          · cases h
      · cases h
    · next hhigh =>
      rw [isHighSurrogate_iff] at hhigh
      split at h
      · cases h
      · next hlow =>
        rw [isLowSurrogate_iff] at hlow
        cases h
        refine ⟨t, rfl, .unit ?_⟩
        rwa [toNat_charOfNat (by omega)]

theorem shortEscape_eq_some_iff {c e : Char} : shortEscape e = some c ↔ (c, e) ∈ shortEscapes := by
  constructor
  · intro h
    unfold shortEscape at h
    split at h <;> cases h <;> decide
  · intro h
    simp only [shortEscapes, List.mem_cons, Prod.mk.injEq, List.not_mem_nil, or_false] at h
    rcases h with h | h | h | h | h | h | h | h <;> obtain ⟨rfl, rfl⟩ := h <;> rfl

theorem takeChar_eq_some_iff {c : Char} {s rest : List Char} :
    takeChar s = some (c, rest) ↔ ∃ t, s = t ++ rest ∧ CharText c t := by
  constructor
  · intro h
    unfold takeChar at h
    split at h
    · cases h
    · cases h
    · obtain ⟨t, rfl, ht⟩ := unicodeText_of_takeUnicode h
      exact ⟨_, rfl, .unicode ht⟩
    · next e s _ =>
      obtain ⟨d, hd, he⟩ := Option.map_eq_some_iff.1 h
      cases he
      exact ⟨['\\', e], rfl, .short (shortEscape_eq_some_iff.1 hd)⟩
    · next d s hquote _ _ =>
      split at h
      · cases h
      · next hd =>
        cases h
        rw [not_or] at hd
        refine ⟨[c], rfl, .raw (Nat.le_of_not_lt hd.1) ?_ hd.2⟩
        intro hc
        exact hquote hc
  · rintro ⟨t, rfl, ht⟩
    cases ht with
    | raw hlow hquote hback =>
        have hd : ¬ (c < ' ' ∨ c = '\\') := by
          rintro (hlt | hc)
          · exact Nat.not_lt.2 hlow hlt
          · exact hback hc
        rw [List.singleton_append, takeChar]
        · rw [if_neg hd]
        all_goals intros; contradiction
    | short h =>
        have hu : ∀ e, (c, e) ∈ shortEscapes → e ≠ 'u' := by
          rintro e he rfl
          rw [← shortEscape_eq_some_iff] at he
          cases he
        rw [List.cons_append, List.cons_append, takeChar, shortEscape_eq_some_iff.2 h]
        · rfl
        · exact hu _ h
    | unicode h => exact takeUnicode_of_unicodeText h rest

/-! ## Strings -/

theorem takeChars_quote (rest : List Char) : takeChars ('"' :: rest) = some ([], rest) := by
  rw [takeChars]

theorem takeChars_of_takeChar {c : Char} {s rest : List Char} (h : takeChar s = some (c, rest)) :
    takeChars s = (takeChars rest).map fun r => (c :: r.1, r.2) := by
  rw [takeChars]
  · split
    · next hn => rw [h] at hn; cases hn
    · next hs => rw [h] at hs; cases hs; rfl
  · rintro r rfl
    cases h

theorem takeChars_eq_some_iff {cs s rest : List Char} :
    takeChars s = some (cs, rest) ↔ ∃ t, s = t ++ '"' :: rest ∧ CharsText cs t := by
  constructor
  · intro h
    induction s using takeChars.induct generalizing cs with
    | case1 r =>
        rw [takeChars_quote] at h
        cases h
        exact ⟨[], rfl, .nil⟩
    | case2 s hquote hs =>
        rw [takeChars] at h
        · split at h
          · cases h
          · next hc => rw [hs] at hc; cases hc
        · exact hquote
    | case3 s hquote c r hs ih =>
        rw [takeChars_of_takeChar hs] at h
        obtain ⟨⟨ds, r'⟩, hr, he⟩ := Option.map_eq_some_iff.1 h
        cases he
        obtain ⟨t, rfl, ht⟩ := takeChar_eq_some_iff.1 hs
        obtain ⟨ts, rfl, hts⟩ := ih hr
        exact ⟨t ++ ts, (List.append_assoc t ts _).symm, .cons ht hts⟩
  · rintro ⟨t, rfl, ht⟩
    induction ht with
    | nil => exact takeChars_quote rest
    | cons hc _ ih =>
        rw [List.append_assoc, takeChars_of_takeChar (takeChar_eq_some_iff.2 ⟨_, rfl, hc⟩), ih]
        rfl

/-- The reader takes a string off the front exactly where a spelling of it stands there. -/
theorem takeString_eq_some_iff {str : String} {s rest : List Char} :
    takeString s = some (str, rest) ↔ ∃ t, '"' :: s = t ++ rest ∧ StringText str t := by
  constructor
  · intro h
    obtain ⟨⟨cs, r⟩, hr, he⟩ := Option.map_eq_some_iff.1 h
    cases he
    obtain ⟨t, rfl, ht⟩ := takeChars_eq_some_iff.1 hr
    refine ⟨'"' :: t ++ ['"'], by simp, .mk ?_⟩
    rwa [String.toList_ofList]
  · rintro ⟨_, hs, ⟨ht⟩⟩
    simp only [List.cons_append, List.append_assoc, List.nil_append, List.cons.injEq,
      true_and] at hs
    rw [takeString, hs, takeChars_eq_some_iff.2 ⟨_, rfl, ht⟩]
    exact congrArg (fun x => some (x, rest)) String.ofList_toList

/-! ## The printer -/

theorem digitText_digitChar : ∀ v < 0x10, DigitText v (Nat.digitChar v) := by
  unfold DigitText
  decide

theorem charText_escape (c : Char) : CharText c (escape c) := by
  unfold escape
  split
  · next h => subst h; exact .short (by decide)
  split
  · next h => subst h; exact .short (by decide)
  split
  · next h => subst h; exact .short (by decide)
  split
  · next h => subst h; exact .short (by decide)
  split
  · next h => subst h; exact .short (by decide)
  split
  · next h => subst h; exact .short (by decide)
  split
  · next h => subst h; exact .short (by decide)
  split
  · next h =>
    have hlt : c.toNat < 0x20 := h
    refine .unicode (.unit (.mk ?_ ?_ ?_ ?_))
    · rw [show c.toNat / 0x1000 = 0 by omega]
      exact digitText_digitChar 0 (by omega)
    · rw [show c.toNat / 0x100 % 0x10 = 0 by omega]
      exact digitText_digitChar 0 (by omega)
    · rw [Nat.mod_eq_of_lt (show c.toNat / 0x10 < 0x10 by omega)]
      exact digitText_digitChar _ (by omega)
    · exact digitText_digitChar _ (by omega)
  · next hquote hback _ _ _ _ _ hlt => exact .raw (Nat.le_of_not_lt hlt) hquote hback

theorem stringText_quote (s : String) : StringText s (quote s) := by
  refine .mk ?_
  induction s.toList with
  | nil => exact .nil
  | cons c s ih => exact .cons (charText_escape c) ih

end EnvSync.Json
