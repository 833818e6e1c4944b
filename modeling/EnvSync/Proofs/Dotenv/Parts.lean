/-
# The parts of an assignment

Each function that takes a part off the front of a text is held here to what a
well-formed part looks like: the part is taken whole and what follows it is left.

A name ends where a character follows that no name contains (`takeTarget_append`).
The word `export` is told from a name that is spelled the same by what comes next:
where the name and its separator are there without it, `export` was the name
(`takeHead_of_takeTarget`).

A body between quotes ends at its closing quote (`takeBody_append`).  Two conditions
carry that.  Every such quote inside the body has a backslash directly before it
(`Escaped`), so nothing ends the body sooner.  And a body that itself ends in a
backslash makes its closing quote look escaped; then the search goes on behind it
and has to fail there, which is a condition on what follows and not on the body.
-/
import EnvSync.Proofs.Dotenv.Lines

namespace EnvSync.Dotenv

open Text

/-! ## Names -/

/-- A name is not empty and holds name characters only. -/
structure IsName (s : List Char) : Prop where
  ne_nil : s ≠ []
  chars : ∀ c ∈ s, isNameChar c = true

instance (s : List Char) : Decidable (IsName s) :=
  decidable_of_iff (s ≠ [] ∧ s.all isNameChar = true)
    ⟨fun h => ⟨h.1, List.all_eq_true.1 h.2⟩, fun h => ⟨h.ne_nil, List.all_eq_true.2 h.chars⟩⟩

/-- A rest that a name in front of it does not reach into. -/
def EndsName (s : List Char) : Prop := ∀ c, s.head? = some c → isNameChar c = false

/-- The characters of names lie between the blank ranges. -/
theorem isNameChar_bounds {c : Char} (h : isNameChar c = true) :
    0x2D ≤ c.toNat ∧ c.toNat ≤ 0x7A := by
  simp only [isNameChar, Bool.or_eq_true, decide_eq_true_eq] at h
  rcases h with ((h | rfl) | rfl) | rfl
  · delta Char.isAlphanum Char.isAlpha Char.isUpper Char.isLower Char.isDigit at h
    simp only [Bool.or_eq_true, Bool.and_eq_true, decide_eq_true_eq, ge_iff_le,
      UInt32.le_iff_toNat_le] at h
    show 0x2D ≤ c.val.toNat ∧ c.val.toNat ≤ 0x7A
    simp only [Char.reduceVal, UInt32.reduceToNat] at h
    omega
  all_goals decide

theorem isBlank_of_isNameChar {c : Char} (h : isNameChar c = true) : isBlank c = false := by
  have hb := isNameChar_bounds h
  simp only [isBlank, blankRanges, List.any_cons, List.any_nil, Bool.or_false, Bool.or_eq_false_iff,
    Bool.and_eq_false_iff, decide_eq_false_iff_not]
  omega

theorem isNameChar_of_isBlank {c : Char} (h : isBlank c = true) : isNameChar c = false := by
  cases hn : isNameChar c with
  | false => rfl
  | true => exact absurd (h.symm.trans (isBlank_of_isNameChar hn)) (by decide)

theorem endsName_of_blanks {w s : List Char} (hw : Blanks w) (hs : EndsName s) :
    EndsName (w ++ s) := by
  cases w with
  | nil => exact hs
  | cons c w =>
      intro d hd
      obtain rfl : c = d := Option.some.inj hd
      exact isNameChar_of_isBlank (hw c List.mem_cons_self)

theorem takeName_append {name s : List Char} (hn : IsName name) (hs : EndsName s) :
    takeName (name ++ s) = some (name, s) := by
  rw [takeName, takeWhile_append_of_stops hn.chars hs, dropWhile_append_of_stops hn.chars hs,
    if_neg hn.ne_nil]

/-! ## Separators -/

theorem dropSeparator_equals {w : List Char} (hw : Blanks w) (s : List Char) :
    dropSeparator (w ++ '=' :: s) = some s := by
  have hd : (w ++ '=' :: s).dropWhile isBlank = '=' :: s := by
    rw [List.dropWhile_append_of_pos hw]
    rfl
  simp only [dropSeparator, hd]

theorem dropSeparator_colon {c : Char} (hc : isBlank c = true) (s : List Char) :
    dropSeparator (':' :: c :: s) = some s := by
  have hd : (':' :: c :: s).dropWhile isBlank = ':' :: c :: s := rfl
  simp [dropSeparator, hd, hc]

theorem dropSeparator_eq_none {s : List Char} (hblank : (s.dropWhile isBlank).head? ≠ some '=')
    (hcolon : s.head? ≠ some ':') : dropSeparator s = none := by
  unfold dropSeparator
  split
  · next h => exact absurd (by rw [h]; rfl) hblank
  · split
    · exact absurd rfl hcolon
    · rfl

theorem takeTarget_append {name s rest : List Char} (hn : IsName name) (hs : EndsName s)
    (hr : dropSeparator s = some rest) : takeTarget (name ++ s) = some (name, rest) := by
  rw [takeTarget, takeName_append hn hs]
  simp [hr]

/-! ## The word `export` -/

/-- The word that may stand in front of a name. -/
def exportWord : List Char := ['e', 'x', 'p', 'o', 'r', 't']

theorem isName_exportWord : IsName exportWord := by decide

theorem dropExport_eq_some {s t : List Char} (h : dropExport s = some t) :
    ∃ w, w ≠ [] ∧ Blanks w ∧ s = exportWord ++ (w ++ t) ∧
      ∀ c, t.head? = some c → isBlank c = false := by
  unfold dropExport at h
  split at h
  · next c s =>
    split at h
    · next hc =>
      obtain ⟨w, u, rfl, hw, hu⟩ := exists_blanks_append s
      have ht : t = u := by
        rw [← Option.some.inj h, dropWhile_append_of_stops hw hu]
      subst ht
      refine ⟨c :: w, List.cons_ne_nil c w, ?_, rfl, hu⟩
      intro d hd
      rcases List.mem_cons.1 hd with rfl | hd
      · exact hc
      · exact hw d hd
    · exact nomatch h
  · exact nomatch h

theorem dropExport_append {w t : List Char} (hne : w ≠ []) (hw : Blanks w)
    (ht : ∀ c, t.head? = some c → isBlank c = false) :
    dropExport (exportWord ++ (w ++ t)) = some t := by
  cases w with
  | nil => exact absurd rfl hne
  | cons c w =>
      have hw' : Blanks w := by
        intro d hd
        exact hw d (List.mem_cons_of_mem c hd)
      show (if isBlank c then some ((w ++ t).dropWhile isBlank) else none) = some t
      rw [if_pos (hw c List.mem_cons_self), dropWhile_append_of_stops hw' ht]

/-- A name and separator that are there with `export` as the name leave nothing for it to
stand in front of. -/
theorem takeHead_of_takeTarget {s : List Char} {r : List Char × List Char}
    (h : takeTarget s = some r) : takeHead s = some r := by
  cases hx : dropExport s with
  | none => rw [takeHead, hx, Option.bind_none, h]
  | some t =>
      obtain ⟨w, hne, hw, rfl, ht⟩ := dropExport_eq_some hx
      obtain ⟨c, u, rfl⟩ := List.exists_cons_of_ne_nil hne
      have hc : isBlank c = true := hw c List.mem_cons_self
      have hends : EndsName (c :: u ++ t) := by
        intro d hd
        cases hd
        exact isNameChar_of_isBlank hc
      -- `takeTarget` took the word for a name, so a separator follows the blanks behind it;
      -- of the two separators only `=` may have blanks in front.
      have heq : t.head? = some '=' := by
        apply Decidable.byContradiction
        intro hne
        have hd : (c :: u ++ t).dropWhile isBlank = t := by
          rw [dropWhile_append_of_stops hw ht]
        have hcolon : (c :: u ++ t).head? ≠ some ':' := by
          intro h
          cases h
          exact absurd hc (by decide)
        have hnone := dropSeparator_eq_none (hd.symm ▸ hne) hcolon
        rw [takeTarget, takeName_append isName_exportWord hends] at h
        simp only [hnone] at h
        cases h
      have hn : takeTarget t = none := by
        obtain ⟨v, rfl⟩ := List.head?_eq_some_iff.1 heq
        exact takeTarget_eq_none (by decide) v
      rw [takeHead, hx, Option.bind_some, hn, h]

theorem takeHead_export {w s : List Char} {r : List Char × List Char} (hne : w ≠ [])
    (hw : Blanks w) (hs : ∀ c, s.head? = some c → isBlank c = false)
    (h : takeTarget s = some r) : takeHead (exportWord ++ (w ++ s)) = some r := by
  rw [takeHead, dropExport_append hne hw hs, Option.bind_some, h]

/-- What begins with all of an assignment before its value does not begin with a blank. -/
theorem stops_of_takeHead {s : List Char} {r : List Char × List Char}
    (h : takeHead s = some r) : Stops isBlank s := by
  intro c hc
  obtain ⟨t, rfl⟩ := List.head?_eq_some_iff.1 hc
  cases hb : isBlank c with
  | false => rfl
  | true =>
      rw [takeHead_eq_none (isNameChar_of_isBlank hb) t] at h
      cases h

/-! ## Bodies between quotes -/

theorem isQuote_cases {q : Char} (h : isQuote q = true) : q = '\'' ∨ q = '"' ∨ q = backquote := by
  simp only [isQuote, Bool.or_eq_true, decide_eq_true_eq] at h
  rcases h with (h | h) | h
  · exact .inl h
  · exact .inr (.inl h)
  · exact .inr (.inr h)

theorem isBlank_of_isQuote {q : Char} (h : isQuote q = true) : isBlank q = false := by
  rcases isQuote_cases h with rfl | rfl | rfl <;> decide

theorem ne_backslash_of_isQuote {q : Char} (h : isQuote q = true) : q ≠ '\\' := by
  rcases isQuote_cases h with rfl | rfl | rfl <;> decide

/-- Every `q` has a backslash directly before it. -/
def Escaped (q : Char) (s : List Char) : Prop :=
  ∀ a b, s = a ++ q :: b → a.getLast? = some '\\'

/-- As `Escaped`, for what is left of a text after the character `p`. -/
def EscapedAfter (q p : Char) (s : List Char) : Prop :=
  ∀ a b, s = a ++ q :: b → (p :: a).getLast? = some '\\'

theorem escapedAfter_nil (q p : Char) : EscapedAfter q p [] := by
  intro a b h
  exact absurd h (by simp)

theorem EscapedAfter.tail {q p c : Char} {s : List Char} (h : EscapedAfter q p (c :: s)) :
    EscapedAfter q c s := by
  intro a b hs
  have := h (c :: a) b (by rw [hs, List.cons_append])
  rwa [List.getLast?_cons_cons] at this

theorem escapedAfter_cons {q p c : Char} {s : List Char} :
    EscapedAfter q p (c :: s) ↔ (c = q → p = '\\') ∧ EscapedAfter q c s := by
  constructor
  · intro h
    exact ⟨fun hc => Option.some.inj (h [] s (congrArg (· :: s) hc)), h.tail⟩
  · rintro ⟨hc, h⟩ a b hs
    cases a with
    | nil =>
        obtain ⟨rfl, -⟩ := List.cons.inj hs
        exact congrArg some (hc rfl)
    | cons d a =>
        obtain ⟨rfl, ht⟩ := List.cons.inj hs
        exact List.getLast?_cons_cons.trans (h a b ht)

theorem escaped_cons {q c : Char} {s : List Char} :
    Escaped q (c :: s) ↔ c ≠ q ∧ EscapedAfter q c s := by
  constructor
  · intro h
    refine ⟨fun hc => (nomatch h [] s (congrArg (· :: s) hc)), fun a b hs => ?_⟩
    exact h (c :: a) b (congrArg (c :: ·) hs)
  · rintro ⟨hc, h⟩ a b hs
    cases a with
    | nil => exact absurd (List.cons.inj hs).1 hc
    | cons d a =>
        obtain ⟨rfl, ht⟩ := List.cons.inj hs
        exact h a b ht

instance decidableEscapedAfter (q : Char) :
    (p : Char) → (s : List Char) → Decidable (EscapedAfter q p s)
  | p, [] => isTrue (escapedAfter_nil q p)
  | p, c :: s =>
      have : Decidable (EscapedAfter q c s) := decidableEscapedAfter q c s
      decidable_of_iff ((c = q → p = '\\') ∧ EscapedAfter q c s) escapedAfter_cons.symm

instance decidableEscaped (q : Char) : (s : List Char) → Decidable (Escaped q s)
  | [] => isTrue fun _ _ h => absurd h (by simp)
  | c :: s => decidable_of_iff (c ≠ q ∧ EscapedAfter q c s) escaped_cons.symm

/-- The quote in front of a body stands for the character before its first one. -/
theorem Escaped.after {q : Char} {s : List Char} (h : Escaped q s) : EscapedAfter q q s := by
  cases s with
  | nil => exact escapedAfter_nil q q
  | cons c s =>
      obtain ⟨hc, h⟩ := escaped_cons.1 h
      exact escapedAfter_cons.2 ⟨fun he => absurd he hc, h⟩

theorem Escaped.of_after {q : Char} (hq : q ≠ '\\') {s : List Char} (h : EscapedAfter q q s) :
    Escaped q s := by
  cases s with
  | nil =>
      intro a b hab
      exact absurd hab (by simp)
  | cons c s =>
      obtain ⟨hc, h⟩ := escapedAfter_cons.1 h
      exact escaped_cons.2 ⟨fun he => hq (hc he), h⟩

/-- The body of a value is taken whole: at a quote inside it the search goes on and
succeeds, at the closing one it stops.  A closing quote behind a backslash is passed
too, so there the search must not succeed behind it. -/
theorem takeBody_append {q p : Char} (hq : q ≠ '\\') {body s rest : List Char}
    (hb : EscapedAfter q p body) (hend : takeLineEnd s = some rest)
    (hopen : (p :: body).getLast? = some '\\' → takeBody q false s = none) :
    takeBody q (p = '\\') (body ++ q :: s) = some (body, rest) := by
  induction body generalizing p with
  | nil =>
      have hn : (if (decide (p = '\\')) = true then takeBody q false s else none) = none := by
        split
        · next hp => exact hopen (congrArg some (of_decide_eq_true hp))
        · rfl
      rw [List.nil_append, takeBody, if_pos rfl, hn, hend]
      rfl
  | cons c body ih =>
      have hopen' : (c :: body).getLast? = some '\\' → takeBody q false s = none := by
        intro h
        exact hopen (List.getLast?_cons_cons.trans h)
      have hrec := ih hb.tail hopen'
      by_cases hc : c = q
      · subst hc
        have hp : p = '\\' := Option.some.inj (hb [] body rfl)
        have hcb : decide (c = '\\') = false := decide_eq_false hq
        rw [hcb] at hrec
        rw [List.cons_append, takeBody, if_pos rfl, if_pos (decide_eq_true hp), hrec]
      · rw [List.cons_append, takeBody, if_neg hc, hrec]
        rfl

/-- A quote that is not escaped ends the search, and where no line can end behind it the
search fails. -/
theorem takeBody_eq_none {q : Char} {a s : List Char} (ha : q ∉ a) (hl : a.getLast? ≠ some '\\')
    (hs : takeLineEnd s = none) : takeBody q false (a ++ q :: s) = none := by
  suffices h : ∀ escaped, (escaped = true → a ≠ []) → takeBody q escaped (a ++ q :: s) = none from
    h false fun h => absurd h (by decide)
  induction a with
  | nil =>
      intro escaped he
      cases escaped with
      | true => exact absurd rfl (he rfl)
      | false =>
          rw [List.nil_append, takeBody, if_pos rfl, if_neg (by decide), hs]
          rfl
  | cons c a ih =>
      intro escaped _
      have hc : c ≠ q := by
        rintro rfl
        exact ha List.mem_cons_self
      have ha' : q ∉ a := by
        intro h
        exact ha (List.mem_cons_of_mem c h)
      have hl' : a.getLast? ≠ some '\\' := by
        intro h
        cases a with
        | nil => cases h
        | cons d a => exact hl (List.getLast?_cons_cons.trans h)
      have he : decide (c = '\\') = true → a ≠ [] := by
        rintro hcb rfl
        exact hl (congrArg some (of_decide_eq_true hcb))
      rw [List.cons_append, takeBody, if_neg hc,
        ih ha' hl' _ he]
      rfl

/-! ## Values -/

theorem takeQuoted_eq_none {s : List Char}
    (h : ∀ c, (s.dropWhile isBlank).head? = some c → isQuote c = false) : takeQuoted s = none := by
  unfold takeQuoted
  split
  · rfl
  · next q r hq => rw [if_neg (by simp [h q (by rw [hq]; rfl)])]

theorem takeValue_quoted {q : Char} {w body s rest : List Char} (hq : isQuote q = true)
    (hw : Blanks w) (hb : takeBody q false (body ++ q :: s) = some (body, rest)) :
    takeValue (w ++ q :: (body ++ q :: s)) = (w ++ q :: (body ++ [q]), rest) := by
  have hd : (w ++ q :: (body ++ q :: s)).dropWhile isBlank = q :: (body ++ q :: s) := by
    rw [List.dropWhile_append_of_pos hw,
      List.dropWhile_cons_of_neg (by simp [isBlank_of_isQuote hq])]
  have ht : (w ++ q :: (body ++ q :: s)).takeWhile isBlank = w := by
    rw [List.takeWhile_append_of_pos hw,
      List.takeWhile_cons_of_neg (by simp [isBlank_of_isQuote hq]), List.append_nil]
  have hquoted : takeQuoted (w ++ q :: (body ++ q :: s)) = some (w ++ q :: (body ++ [q]), rest) := by
    simp only [takeQuoted, hd, ht]
    rw [if_pos hq, hb]
    simp
  rw [takeValue, hquoted]

theorem takeValue_bare {v s rest : List Char} (hv : ∀ c ∈ v, isBareChar c = true)
    (hs : ∀ c, s.head? = some c → isBareChar c = false) (hend : takeLineEnd s = some rest)
    (hq : ∀ c, ((v ++ s).dropWhile isBlank).head? = some c → isQuote c = false) :
    takeValue (v ++ s) = (v, rest) := by
  rw [takeValue, takeQuoted_eq_none hq]
  simp only [takeWhile_append_of_stops hv hs, dropWhile_append_of_stops hv hs, hend,
    Option.getD_some]

/-! ## What a written value stands for -/

/-- A value in quotes stands for its body, with escapes expanded between double quotes. -/
def bodyValue (q : Char) (body : List Char) : List Char :=
  if q = '"' then expandReturns (expandNewlines body) else body

theorem unquote_quoted {q : Char} (hq : isQuote q = true) (body : List Char) :
    unquote (q :: (body ++ [q])) = bodyValue q body := by
  have hl : (body ++ [q]).getLast? = some q := List.getLast?_concat
  simp only [unquote, if_pos hq, if_pos hl, List.dropLast_concat, bodyValue]

theorem value_quoted {q : Char} {w : List Char} (hq : isQuote q = true) (hw : Blanks w)
    (name body : List Char) :
    Assignment.value ⟨name, w ++ q :: (body ++ [q])⟩ = bodyValue q body := by
  have ht : Tight (q :: (body ++ [q])) :=
    ⟨fun c hc => Option.some.inj hc ▸ isBlank_of_isQuote hq, fun c hc => by
      rw [← List.cons_append, List.getLast?_concat] at hc
      exact Option.some.inj hc ▸ isBlank_of_isQuote hq⟩
  have htrim := trim_around hw ht blanks_nil
  rw [List.append_nil] at htrim
  rw [Assignment.value, htrim, unquote_quoted hq]

theorem value_bare {w v w' : List Char} (hw : Blanks w) (hv : Tight v) (hw' : Blanks w')
    (hq : ∀ c, v.head? = some c → isQuote c = false) (name : List Char) :
    Assignment.value ⟨name, w ++ v ++ w'⟩ = v := by
  rw [Assignment.value, trim_around hw hv hw']
  cases v with
  | nil => rfl
  | cons c v => rw [unquote, if_neg (by simp [hq c rfl])]

end EnvSync.Dotenv
