/-
# Values of JSON

The texts that spell a value, and that the reader knows just these.  `Reads` holds
between a reader and a grammar when the reader takes off the front of a text nothing
but what the grammar spells, and takes it wherever it stands before something that
cannot go on with a number.  It passes from the items of a list to the list and from
the values of an object to its members, so induction on the depth of nesting gives it
for values (`reads_value`), and with that whole texts are read as objects exactly where
they spell one (`readObject_eq_ok_iff`).

The grammar is the standard one, with the spelling of numbers left open.  For the
reader it is that of numerals with their number.  Where only the shape of a text
matters, or only integers occur, it is a plainer one, and `ValueText.mono` leads from
one to the other.

Depth is an argument of the grammar and bounds it: at depth `n` arrays and objects are
nested no deeper than `n`.
-/
import EnvSync.Json.Reader
import EnvSync.Proofs.Json.Numerals
import EnvSync.Proofs.Json.Strings

namespace EnvSync.Json

open Text (Stops)

/-! ## The grammar -/

def Blanks (w : List Char) : Prop :=
  ∀ c ∈ w, c = ' ' ∨ c = '\t' ∨ c = '\n' ∨ c = '\r'

/-- Items behind the first, each behind a comma, with the blanks that follow the last. -/
inductive FurtherText {α : Type} (item : α → List Char → Prop) : List α → List Char → Prop where
  | none {w : List Char} : Blanks w → FurtherText item [] w
  | some {a : α} {as : List α} {w w' t ts : List Char} :
      Blanks w → Blanks w' → item a t → FurtherText item as ts →
      FurtherText item (a :: as) (w ++ ',' :: (w' ++ (t ++ ts)))

/-- What stands between the brackets of an array or the braces of an object. -/
inductive ListText {α : Type} (item : α → List Char → Prop) : List α → List Char → Prop where
  | none {w : List Char} : Blanks w → ListText item [] w
  | some {a : α} {as : List α} {w t ts : List Char} :
      Blanks w → item a t → FurtherText item as ts → ListText item (a :: as) (w ++ (t ++ ts))

inductive MemberText (value : Json → List Char → Prop) : String × Json → List Char → Prop where
  | mk {name : String} {v : Json} {t w w' t' : List Char} :
      StringText name t → Blanks w → Blanks w' → value v t' →
      MemberText value (name, v) (t ++ (w ++ ':' :: (w' ++ t')))

inductive ScalarText (number : Number → List Char → Prop) : Json → List Char → Prop where
  | null : ScalarText number .null ['n', 'u', 'l', 'l']
  | true : ScalarText number (.bool true) ['t', 'r', 'u', 'e']
  | false : ScalarText number (.bool false) ['f', 'a', 'l', 's', 'e']
  | number {n : Number} {t : List Char} : number n t → ScalarText number (.number n) t
  | string {s : String} {t : List Char} : StringText s t → ScalarText number (.string s) t

/-- A scalar, or one level of nesting with given values inside. -/
inductive NestedText (number : Number → List Char → Prop) (value : Json → List Char → Prop) :
    Json → List Char → Prop where
  | scalar {v : Json} {t : List Char} : ScalarText number v t → NestedText number value v t
  | array {vs : List Json} {t : List Char} :
      ListText value vs t → NestedText number value (.array vs) ('[' :: (t ++ [']']))
  | object {ms : List (String × Json)} {t : List Char} :
      ListText (MemberText value) ms t → NestedText number value (.object ms) ('{' :: (t ++ ['}']))

/-- The spellings of a value in which arrays and objects are nested no deeper than the
number says. -/
def ValueText (number : Number → List Char → Prop) : Nat → Json → List Char → Prop
  | 0 => ScalarText number
  | depth + 1 => NestedText number (ValueText number depth)

/-- The texts that are an object, with blanks around it. -/
inductive ObjectText (number : Number → List Char → Prop) (depth : Nat)
    (ms : List (String × Json)) : List Char → Prop where
  | mk {w t w' : List Char} :
      Blanks w → ValueText number depth (.object ms) t → Blanks w' →
      ObjectText number depth ms (w ++ (t ++ w'))

theorem FurtherText.forall_mem {α : Type} {item : α → List Char → Prop} {p : α → Prop}
    (h : ∀ a t, item a t → p a) {as : List α} {t : List Char} (ht : FurtherText item as t) :
    ∀ a ∈ as, p a := by
  induction ht with
  | none _ => exact fun _ ha => nomatch ha
  | some _ _ ha _ ih =>
      intro b hb
      rcases List.mem_cons.1 hb with rfl | hb
      · exact h _ _ ha
      · exact ih b hb

theorem ListText.forall_mem {α : Type} {item : α → List Char → Prop} {p : α → Prop}
    (h : ∀ a t, item a t → p a) {as : List α} {t : List Char} (ht : ListText item as t) :
    ∀ a ∈ as, p a := by
  cases ht with
  | none _ => exact fun _ ha => nomatch ha
  | some _ ha hts =>
      intro b hb
      rcases List.mem_cons.1 hb with rfl | hb
      · exact h _ _ ha
      · exact hts.forall_mem h b hb

theorem objectText_succ_iff {number : Number → List Char → Prop} {depth : Nat}
    {ms : List (String × Json)} {s : List Char} :
    ObjectText number (depth + 1) ms s ↔
      ∃ w t w', s = w ++ '{' :: (t ++ '}' :: w') ∧ Blanks w ∧ Blanks w' ∧
        ListText (MemberText (ValueText number depth)) ms t := by
  constructor
  · rintro ⟨hw, hv, hw'⟩
    cases hv with
    | scalar h => cases h
    | object h => exact ⟨_, _, _, by simp, hw, hw', h⟩
  · rintro ⟨w, t, w', rfl, hw, hw', h⟩
    have hv : ValueText number (depth + 1) (.object ms) ('{' :: (t ++ ['}'])) := .object h
    simpa using ObjectText.mk hw hv hw'

/-! ## From one spelling of numbers to another -/

section Mono

variable {α : Type} {item item' : α → List Char → Prop} {number number' : Number → List Char → Prop}

theorem FurtherText.mono (h : ∀ a t, item a t → item' a t) {as : List α} {t : List Char}
    (ht : FurtherText item as t) : FurtherText item' as t := by
  induction ht with
  | none hw => exact .none hw
  | some hw hw' ha _ ih => exact .some hw hw' (h _ _ ha) ih

theorem ListText.mono (h : ∀ a t, item a t → item' a t) {as : List α} {t : List Char}
    (ht : ListText item as t) : ListText item' as t := by
  cases ht with
  | none hw => exact .none hw
  | some hw ha hts => exact .some hw (h _ _ ha) (hts.mono h)

theorem MemberText.mono {value value' : Json → List Char → Prop}
    (h : ∀ v t, value v t → value' v t) {m : String × Json} {t : List Char}
    (ht : MemberText value m t) : MemberText value' m t := by
  cases ht with
  | mk hname hw hw' hv => exact .mk hname hw hw' (h _ _ hv)

theorem ScalarText.mono (h : ∀ n t, number n t → number' n t) {v : Json} {t : List Char}
    (ht : ScalarText number v t) : ScalarText number' v t := by
  cases ht with
  | null => exact .null
  | true => exact .true
  | false => exact .false
  | number hn => exact .number (h _ _ hn)
  | string hs => exact .string hs

theorem ValueText.mono (h : ∀ n t, number n t → number' n t) {depth : Nat} {v : Json}
    {t : List Char} (ht : ValueText number depth v t) : ValueText number' depth v t := by
  induction depth generalizing v t with
  | zero => exact ScalarText.mono h ht
  | succ depth ih =>
      cases ht with
      | scalar hs => exact .scalar (hs.mono h)
      | array hvs => exact .array (hvs.mono fun _ _ => ih)
      | object hms => exact .object (hms.mono fun _ _ hm => hm.mono fun _ _ => ih)

theorem ObjectText.mono (h : ∀ n t, number n t → number' n t) {depth : Nat}
    {ms : List (String × Json)} {t : List Char} (ht : ObjectText number depth ms t) :
    ObjectText number' depth ms t := by
  obtain ⟨hw, hv, hw'⟩ := ht
  exact .mk hw (hv.mono h) hw'

end Mono

/-! ## Blanks -/

theorem isBlank_iff {c : Char} :
    isBlank c = true ↔ c = ' ' ∨ c = '\t' ∨ c = '\n' ∨ c = '\r' := by
  simp [isBlank, or_assoc]

theorem blanks_nil : Blanks [] := by
  intro c hc
  cases hc

theorem skipBlanks_append {w s : List Char} (hw : Blanks w) (hs : Stops isBlank s) :
    skipBlanks (w ++ s) = s :=
  Text.dropWhile_append_of_stops (fun c hc => isBlank_iff.2 (hw c hc)) hs

theorem exists_skipBlanks (s : List Char) : ∃ w, s = w ++ skipBlanks s ∧ Blanks w := by
  refine ⟨s.takeWhile isBlank, List.takeWhile_append_dropWhile.symm, ?_⟩
  intro c hc
  exact isBlank_iff.1 (List.all_eq_true.1 List.all_takeWhile c hc)

theorem stops_of_cons {c : Char} (s : List Char) (h : isBlank c = false) : Stops isBlank (c :: s) := by
  intro d hd
  cases hd
  exact h

/-! ## Readers and grammars -/

/-- The text begins with a character that is neither blank nor closes a list. -/
def Begins (t : List Char) : Prop :=
  ∃ c s, t = c :: s ∧ isBlank c = false ∧ c ≠ ']' ∧ c ≠ '}'

/-- The reader knows the spellings of the grammar and no others. -/
structure Reads {α : Type} (item : List Char → Option (α × List Char))
    (text : α → List Char → Prop) : Prop where
  begins : ∀ {a : α} {t : List Char}, text a t → Begins t
  take : ∀ {a : α} {t rest : List Char}, text a t → EndsNumeral rest →
    item (t ++ rest) = some (a, rest)
  taken : ∀ {a : α} {s rest : List Char}, item s = some (a, rest) → ∃ t, s = t ++ rest ∧ text a t

theorem Begins.stops {t : List Char} (h : Begins t) (s : List Char) : Stops isBlank (t ++ s) := by
  obtain ⟨c, u, rfl, hc, -, -⟩ := h
  exact stops_of_cons (u ++ s) hc

theorem endsNumeral_cons {c : Char} (s : List Char)
    (h : c = ',' ∨ c = ']' ∨ c = '}' ∨ isBlank c = true) : EndsNumeral (c :: s) := by
  rw [isBlank_iff] at h
  refine ⟨?_, ?_, ?_, ?_⟩
  · intro d hd
    cases hd
    rcases h with rfl | rfl | rfl | rfl | rfl | rfl | rfl <;> rfl
  all_goals rcases h with rfl | rfl | rfl | rfl | rfl | rfl | rfl <;> simp

theorem endsNumeral_blanks_append {w s : List Char} (hw : Blanks w) (hs : EndsNumeral s) :
    EndsNumeral (w ++ s) := by
  cases w with
  | nil => exact hs
  | cons c w =>
      exact endsNumeral_cons _ (.inr (.inr (.inr (isBlank_iff.2 (hw c List.mem_cons_self)))))

/-! ## Lists -/

section Lists

variable {α : Type} {item : List Char → Option (α × List Char)} {text : α → List Char → Prop}
  {close : Char} {as : List α} {n : Nat}

/-- The closing character of an array or an object. -/
def IsClose (c : Char) : Prop := c = ']' ∨ c = '}'

theorem IsClose.isBlank {c : Char} (h : IsClose c) : isBlank c = false := by
  rcases h with rfl | rfl <;> rfl

theorem IsClose.ne_comma {c : Char} (h : IsClose c) : ',' ≠ c := by
  rcases h with rfl | rfl <;> decide

theorem IsClose.endsNumeral {c : Char} (h : IsClose c) (s : List Char) : EndsNumeral (c :: s) := by
  rcases h with rfl | rfl
  · exact endsNumeral_cons s (.inr (.inl rfl))
  · exact endsNumeral_cons s (.inr (.inr (.inl rfl)))

theorem FurtherText.endsNumeral {ts : List Char} (h : FurtherText text as ts) (hclose : IsClose close)
    (s : List Char) : EndsNumeral (ts ++ close :: s) := by
  cases h with
  | none hw => exact endsNumeral_blanks_append hw (hclose.endsNumeral s)
  | some hw _ _ _ =>
      rw [List.append_assoc]
      exact endsNumeral_blanks_append hw (endsNumeral_cons _ (.inl rfl))

theorem Reads.takeFurther_append (h : Reads item text) (hclose : IsClose close) {ts : List Char}
    (ht : FurtherText text as ts) (rest : List Char) (hn : ts.length < n) :
    takeFurther item close n (ts ++ close :: rest) = some (as, rest) := by
  induction ht generalizing n with
  | none hw =>
      cases n with
      | zero => exact absurd hn (Nat.not_lt_zero _)
      | succ n =>
          rw [takeFurther, skipBlanks_append hw (stops_of_cons rest hclose.isBlank)]
          exact if_pos rfl
  | @some a as w w' t ts hw hw' hitem hts ih =>
      cases n with
      | zero => exact absurd hn (Nat.not_lt_zero _)
      | succ n =>
          -- The comma alone makes what is left shorter, so the bound never runs out.
          have hlen : ts.length < n := by
            simp only [List.length_append, List.length_cons] at hn
            omega
          have hends := hts.endsNumeral hclose rest
          simp only [takeFurther, List.append_assoc, List.cons_append,
            skipBlanks_append hw (stops_of_cons _ (show isBlank ',' = false from rfl)),
            if_neg hclose.ne_comma, if_true, skipBlanks_append hw' ((h.begins hitem).stops _),
            h.take hitem hends, ih hlen, Option.map_some]

theorem Reads.exists_of_takeFurther (h : Reads item text) {s rest : List Char}
    (ht : takeFurther item close n s = some (as, rest)) :
    ∃ ts, s = ts ++ close :: rest ∧ FurtherText text as ts := by
  induction n generalizing s as with
  | zero => cases ht
  | succ n ih =>
      obtain ⟨w, hs, hw⟩ := exists_skipBlanks s
      rw [takeFurther] at ht
      split at ht
      · cases ht
      · next c r hr =>
        rw [hr] at hs
        split at ht
        · next hc =>
          cases ht
          exact ⟨w, by rw [hs, hc], .none hw⟩
        · split at ht
          · next hc =>
            obtain ⟨w', hr', hw'⟩ := exists_skipBlanks r
            split at ht
            · cases ht
            · next a s' ha =>
              obtain ⟨⟨bs, r'⟩, hb, he⟩ := Option.map_eq_some_iff.1 ht
              cases he
              obtain ⟨t, hat, hitem⟩ := h.taken ha
              obtain ⟨ts, rfl, hts⟩ := ih hb
              refine ⟨w ++ ',' :: (w' ++ (t ++ ts)), ?_, .some hw hw' hitem hts⟩
              rw [hs, hr', hat, hc]
              simp only [List.append_assoc, List.cons_append]
          · cases ht

theorem Reads.takeList_append (h : Reads item text) (hclose : IsClose close) {ts : List Char}
    (ht : ListText text as ts) (rest : List Char) :
    takeList item close (ts ++ close :: rest) = some (as, rest) := by
  cases ht with
  | none hw =>
      rw [takeList, skipBlanks_append hw (stops_of_cons rest hclose.isBlank)]
      exact if_pos rfl
  | @some a as w t ts hw hitem hts =>
      have htake := h.take hitem (hts.endsNumeral hclose rest)
      obtain ⟨c, u, rfl, hblank, hbracket, hbrace⟩ := h.begins hitem
      -- An item is never mistaken for the end of the list.
      have hne : c ≠ close := by
        rcases hclose with rfl | rfl
        · exact hbracket
        · exact hbrace
      rw [List.cons_append] at htake
      rw [List.append_assoc, List.append_assoc, List.cons_append, takeList,
        skipBlanks_append hw (stops_of_cons _ hblank)]
      simp only [if_neg hne, htake]
      rw [h.takeFurther_append hclose hts rest (by rw [List.length_append]; omega)]
      rfl

theorem Reads.exists_of_takeList (h : Reads item text) {s rest : List Char}
    (ht : takeList item close s = some (as, rest)) :
    ∃ ts, s = ts ++ close :: rest ∧ ListText text as ts := by
  obtain ⟨w, hs, hw⟩ := exists_skipBlanks s
  rw [takeList] at ht
  split at ht
  · cases ht
  · next c r hr =>
    rw [hr] at hs
    split at ht
    · next hc =>
      cases ht
      exact ⟨w, by rw [hs, hc], .none hw⟩
    · split at ht
      · cases ht
      · next a s' ha =>
        obtain ⟨⟨bs, r'⟩, hb, he⟩ := Option.map_eq_some_iff.1 ht
        cases he
        obtain ⟨t, hat, hitem⟩ := h.taken ha
        obtain ⟨ts, rfl, hts⟩ := h.exists_of_takeFurther hb
        refine ⟨w ++ (t ++ ts), ?_, .some hw hitem hts⟩
        rw [hs, hat]
        simp only [List.append_assoc]

end Lists

/-! ## Members -/

theorem StringText.exists_cons {str : String} {t : List Char} (h : StringText str t)
    (rest : List Char) : ∃ s, t ++ rest = '"' :: s ∧ takeString s = some (str, rest) := by
  cases h with
  | @mk t h =>
      refine ⟨t ++ '"' :: rest, by simp, takeString_eq_some_iff.2 ⟨'"' :: t ++ ['"'], ?_, .mk h⟩⟩
      simp

theorem Reads.takeMember {value : List Char → Option (Json × List Char)}
    {text : Json → List Char → Prop} (h : Reads value text) :
    Reads (takeMember value) (MemberText text) where
  begins := by
    rintro _ _ ⟨⟨_⟩, _, _, _⟩
    exact ⟨'"', _, rfl, rfl, by decide, by decide⟩
  take := by
    rintro _ _ rest ⟨hname, hw, hw', hv⟩ hrest
    rename_i name v t w w' t'
    obtain ⟨s, hs, hstring⟩ := hname.exists_cons (w ++ ':' :: (w' ++ (t' ++ rest)))
    have hsplit : t ++ (w ++ ':' :: (w' ++ t')) ++ rest = '"' :: s := by
      rw [← hs]
      simp only [List.append_assoc, List.cons_append]
    have hcolon : Stops isBlank (':' :: (w' ++ (t' ++ rest))) := stops_of_cons _ rfl
    rw [hsplit, Json.takeMember, hstring]
    simp only [skipBlanks_append hw hcolon, skipBlanks_append hw' ((h.begins hv).stops rest),
      h.take hv hrest, Option.map_some]
  taken := by
    intro m s rest ht
    unfold Json.takeMember at ht
    split at ht
    · next s =>
      split at ht
      · cases ht
      · next name s₁ hname =>
        obtain ⟨t, hs, hstring⟩ := takeString_eq_some_iff.1 hname
        obtain ⟨w, hs₁, hw⟩ := exists_skipBlanks s₁
        split at ht
        · next s₂ hcolon =>
          obtain ⟨w', hs₂, hw'⟩ := exists_skipBlanks s₂
          obtain ⟨⟨v, r⟩, hv, he⟩ := Option.map_eq_some_iff.1 ht
          cases he
          obtain ⟨t', hr, hvt⟩ := h.taken hv
          refine ⟨t ++ (w ++ ':' :: (w' ++ t')), ?_, .mk hstring hw hw' hvt⟩
          rw [hs, hs₁, hcolon, hs₂, hr]
          simp only [List.append_assoc, List.cons_append]
        · cases ht
    · cases ht

/-! ## Values -/

theorem takeScalar_of_numeral {c : Char} (s : List Char) (h : c = '-' ∨ c.isDigit = true) :
    takeScalar (c :: s) =
      match takeNumeral (c :: s) with
      | none => none
      | some (n, s) => n.number?.map fun v => (.number v, s) := by
  have hc : c ≠ '"' ∧ c ≠ 'n' ∧ c ≠ 't' ∧ c ≠ 'f' := by
    refine ⟨?_, ?_, ?_, ?_⟩ <;> (rintro rfl; revert h; decide)
  unfold takeScalar
  split
  · next h => exact absurd (List.cons.inj h).1 hc.1
  · next h => exact absurd (List.cons.inj h).1 hc.2.1
  · next h => exact absurd (List.cons.inj h).1 hc.2.2.1
  · next h => exact absurd (List.cons.inj h).1 hc.2.2.2
  · rfl

theorem takeScalar_eq_some_iff {v : Json} {s rest : List Char} :
    takeScalar s = some (v, rest) ↔ ∃ t, s = t ++ rest ∧ ScalarText (NumberBefore rest) v t := by
  constructor
  · intro h
    unfold takeScalar at h
    split at h
    · next s =>
      obtain ⟨⟨str, r⟩, hstr, he⟩ := Option.map_eq_some_iff.1 h
      cases he
      obtain ⟨t, hs, ht⟩ := takeString_eq_some_iff.1 hstr
      exact ⟨t, hs, .string ht⟩
    · cases h
      exact ⟨_, rfl, .null⟩
    · cases h
      exact ⟨_, rfl, .true⟩
    · cases h
      exact ⟨_, rfl, .false⟩
    · split at h
      · cases h
      · next m s' hm =>
        obtain ⟨n, hn, he⟩ := Option.map_eq_some_iff.1 h
        cases he
        obtain ⟨t, hs, ht, hends⟩ := takeNumeral_eq_some_iff.1 hm
        exact ⟨t, hs, .number ⟨m, ht, hn, hends⟩⟩
  · rintro ⟨t, rfl, h⟩
    cases h with
    | null | true | false => rfl
    | number h =>
        obtain ⟨m, hm, hn, hends⟩ := h
        have htake := takeNumeral_eq_some_iff.2 ⟨_, rfl, hm, hends⟩
        obtain ⟨c, s, rfl, hc⟩ := hm.exists_cons
        rw [List.cons_append] at htake ⊢
        rw [takeScalar_of_numeral _ hc, htake]
        simp only [hn, Option.map_some]
    | string h =>
        obtain ⟨s, hs, hstring⟩ := h.exists_cons rest
        rw [hs, takeScalar, hstring]
        rfl

theorem reads_scalar : Reads takeScalar (ScalarText NumberText) where
  begins := by
    intro v t h
    cases h with
    | null | true | false => exact ⟨_, _, rfl, rfl, by decide, by decide⟩
    | number h =>
        obtain ⟨m, hm, -⟩ := h
        obtain ⟨c, s, rfl, hc⟩ := hm.exists_cons
        have hblank : isBlank c = false ∧ c ≠ ']' ∧ c ≠ '}' := by
          refine ⟨?_, ?_, ?_⟩
          · rw [Bool.eq_false_iff, Ne, isBlank_iff]
            rintro (rfl | rfl | rfl | rfl) <;> (revert hc; decide)
          · rintro rfl; revert hc; decide
          · rintro rfl; revert hc; decide
        exact ⟨c, s, rfl, hblank⟩
    | string h =>
        cases h
        exact ⟨'"', _, rfl, rfl, by decide, by decide⟩
  take := by
    intro v t rest h hrest
    refine takeScalar_eq_some_iff.2 ⟨t, rfl, h.mono ?_⟩
    rintro n t ⟨m, hm, hn⟩
    exact ⟨m, hm, hn, hrest.endsBefore m⟩
  taken := by
    intro v s rest h
    obtain ⟨t, hs, ht⟩ := takeScalar_eq_some_iff.1 h
    exact ⟨t, hs, ht.mono fun _ _ => numberText_of_numberBefore⟩

/-- What begins with a bracket or a brace is no scalar. -/
theorem takeValue_of_takeScalar {s : List Char} {r : Json × List Char} (depth : Nat)
    (h : takeScalar s = some r) : takeValue depth s = some r := by
  cases depth with
  | zero => exact h
  | succ depth =>
      rw [takeValue, h]
      · rintro u rfl
        cases h
      · rintro u rfl
        cases h

theorem reads_value (depth : Nat) : Reads (takeValue depth) (ValueText NumberText depth) := by
  induction depth with
  | zero => exact reads_scalar
  | succ depth ih =>
      refine ⟨?_, ?_, ?_⟩
      · intro v t h
        cases h with
        | scalar h => exact reads_scalar.begins h
        | array _ => exact ⟨'[', _, rfl, rfl, by decide, by decide⟩
        | object _ => exact ⟨'{', _, rfl, rfl, by decide, by decide⟩
      · intro v t rest h hrest
        cases h with
        | scalar h => exact takeValue_of_takeScalar _ (reads_scalar.take h hrest)
        | array h =>
            rw [List.cons_append, List.append_assoc, List.singleton_append, takeValue,
              ih.takeList_append (.inl rfl) h rest]
            rfl
        | object h =>
            rw [List.cons_append, List.append_assoc, List.singleton_append, takeValue,
              ih.takeMember.takeList_append (.inr rfl) h rest]
            rfl
      · intro v s rest h
        rw [takeValue.eq_def] at h
        simp only at h
        split at h
        · obtain ⟨⟨vs, r⟩, hvs, he⟩ := Option.map_eq_some_iff.1 h
          cases he
          obtain ⟨t, rfl, ht⟩ := ih.exists_of_takeList hvs
          exact ⟨'[' :: (t ++ [']']), by simp, .array ht⟩
        · obtain ⟨⟨ms, r⟩, hms, he⟩ := Option.map_eq_some_iff.1 h
          cases he
          obtain ⟨t, rfl, ht⟩ := ih.takeMember.exists_of_takeList hms
          exact ⟨'{' :: (t ++ ['}']), by simp, .object ht⟩
        · obtain ⟨t, hs, ht⟩ := reads_scalar.taken h
          exact ⟨t, hs, .scalar ht⟩

/-! ## Whole texts -/

theorem takeMembers_eq_some_iff {s : List Char} {ms : List (String × Json)} :
    takeMembers s = some ms ↔
      ∃ t w, s = t ++ '}' :: w ∧ Blanks w ∧
        ListText (MemberText (ValueText NumberText (maxDepth - 1))) ms t := by
  have hmembers := (reads_value (maxDepth - 1)).takeMember
  constructor
  · intro h
    rw [takeMembers] at h
    split at h
    · cases h
    · next r rest hr =>
      obtain ⟨t, rfl, ht⟩ := hmembers.exists_of_takeList hr
      obtain ⟨w, hrest, hw⟩ := exists_skipBlanks rest
      split at h
      · next hnil =>
        cases h
        rw [hnil, List.append_nil] at hrest
        exact ⟨t, rest, rfl, hrest ▸ hw, ht⟩
      · cases h
  · rintro ⟨t, w, rfl, hw, ht⟩
    have hnil : skipBlanks w = [] :=
      Text.dropWhile_of_forall fun c hc => isBlank_iff.2 (hw c hc)
    rw [takeMembers, hmembers.takeList_append (.inr rfl) ht]
    exact if_pos hnil

/-- A text is read as an object exactly where it spells one, with its members in order. -/
theorem readObject_eq_ok_iff {text : String} {ms : List (String × Json)} :
    readObject text = .ok ms ↔ ObjectText NumberText maxDepth ms text.toList := by
  rw [show maxDepth = maxDepth - 1 + 1 from rfl, objectText_succ_iff]
  constructor
  · intro h
    obtain ⟨w, hs, hw⟩ := exists_skipBlanks text.toList
    unfold readObject at h
    split at h
    · next s hbrace =>
      split at h
      · next r hr =>
        cases h
        obtain ⟨t, w', rfl, hw', ht⟩ := takeMembers_eq_some_iff.1 hr
        exact ⟨w, t, w', by rw [hs, hbrace], hw, hw', ht⟩
      · cases h
    · cases h
    · cases h
  · rintro ⟨w, t, w', hs, hw, hw', ht⟩
    have hmembers := takeMembers_eq_some_iff.2 ⟨t, w', rfl, hw', ht⟩
    rw [readObject, hs, skipBlanks_append hw (stops_of_cons _ rfl)]
    simp only [hmembers]

end EnvSync.Json
