/-
# Values that are no strings

A setting has to be text, so of a member that is no string it is the compact form of the value.
Nothing is lost by that (`settingText_faithful`): the text is JSON and reads back as the value,
but for the order of members, which JSON has nothing to say about; it stands on one line; and
values with different texts are different values.

So a payload can have the text of a setting for the value of a member, and gives the same setting
again.  That is said of any payload, so the texts of the values have to be spoken of along with
the names (`VerbatimObject`): the grammar of values has only the values.
-/
import EnvSync.Proofs.Json.Sorted
import EnvSync.Proofs.Secret.Bundle
import Mathlib

namespace EnvSync.Json

open OrderedMap (valueIn valueIn_cons)

/-! ## Objects with the texts of their values -/

/-- The text of a member, of which the name is given and the text of its value. -/
inductive VerbatimMember (e : String × List Char) : List Char → Prop where
  | mk {v : Json} {t w w' : List Char} :
      StringText e.1 t → Blanks w → Blanks w' → ValueText NumberText 126 v e.2 →
      VerbatimMember e (t ++ (w ++ ':' :: (w' ++ e.2)))

/-- The texts that are an object, of which the names of the members are given and the texts of
their values. -/
inductive VerbatimObject (es : List (String × List Char)) : List Char → Prop where
  | mk {w t w' : List Char} :
      Blanks w → ListText VerbatimMember es t → Blanks w' →
      VerbatimObject es (w ++ '{' :: (t ++ '}' :: w'))

/-- The member has the name, and its value is spelled by the text. -/
def SpelledBy (e : String × List Char) (m : String × Json) : Prop :=
  e.1 = m.1 ∧ ValueText NumberText 126 m.2 e.2

section Lists

variable {α β : Type} {item : α → List Char → Prop} {item' : β → List Char → Prop}
  {p : α → β → Prop}

theorem FurtherText.exists_forall₂ (h : ∀ a t, item a t → ∃ b, p a b ∧ item' b t) {as : List α}
    {t : List Char} (ht : FurtherText item as t) :
    ∃ bs, List.Forall₂ p as bs ∧ FurtherText item' bs t := by
  induction ht with
  | none hw => exact ⟨[], .nil, .none hw⟩
  | some hw hw' ha _ ih =>
      obtain ⟨b, hb, hitem⟩ := h _ _ ha
      obtain ⟨bs, hbs, hts⟩ := ih
      exact ⟨b :: bs, .cons hb hbs, .some hw hw' hitem hts⟩

/-- What can be read as something else item by item can be read so as a list. -/
theorem ListText.exists_forall₂ (h : ∀ a t, item a t → ∃ b, p a b ∧ item' b t) {as : List α}
    {t : List Char} (ht : ListText item as t) :
    ∃ bs, List.Forall₂ p as bs ∧ ListText item' bs t := by
  cases ht with
  | none hw => exact ⟨[], .nil, .none hw⟩
  | some hw ha hts =>
      obtain ⟨b, hb, hitem⟩ := h _ _ ha
      obtain ⟨bs, hbs, hfurther⟩ := hts.exists_forall₂ h
      exact ⟨b :: bs, .cons hb hbs, .some hw hitem hfurther⟩

end Lists

theorem VerbatimObject.exists_objectText {es : List (String × List Char)} {s : List Char}
    (h : VerbatimObject es s) :
    ∃ ms, List.Forall₂ SpelledBy es ms ∧ ObjectText NumberText maxDepth ms s := by
  obtain ⟨hw, ht, hw'⟩ := h
  have hmember : ∀ e t, VerbatimMember e t →
      ∃ m, SpelledBy e m ∧ MemberText (ValueText NumberText 126) m t := by
    rintro e _ ⟨hname, hblank, hblank', hvalue⟩
    exact ⟨(e.1, _), ⟨rfl, hvalue⟩, .mk hname hblank hblank' hvalue⟩
  obtain ⟨ms, hms, hlist⟩ := ht.exists_forall₂ hmember
  exact ⟨ms, hms, objectText_succ_iff.2 ⟨_, _, _, rfl, hw, hw', hlist⟩⟩

theorem map_fst_of_spelledBy {es : List (String × List Char)} {ms : List (String × Json)}
    (h : List.Forall₂ SpelledBy es ms) : es.map Prod.fst = ms.map Prod.fst := by
  induction h with
  | nil => rfl
  | cons h _ ih => rw [List.map_cons, List.map_cons, h.1, ih]

theorem exists_valueIn_of_spelledBy {es : List (String × List Char)} {ms : List (String × Json)}
    (h : List.Forall₂ SpelledBy es ms) {name : String} {t : List Char}
    (ht : valueIn es name = some t) :
    ∃ v, valueIn ms name = some v ∧ ValueText NumberText 126 v t := by
  induction h with
  | nil => cases ht
  | @cons e m es ms he _ ih =>
      rw [valueIn_cons] at ht ⊢
      rw [← he.1]
      split at ht
      · next hname =>
        cases ht
        exact ⟨m.2, if_pos hname, he.2⟩
      · next hname =>
        rw [if_neg hname]
        exact ih ht

end EnvSync.Json

namespace EnvSync.Secret

open Json
open OrderedMap (valueIn)

variable {v w : Json}

/-! ## Texts of values -/

theorem settingText_eq_render (h : ∀ s, v ≠ .string s) : settingText v = .ofList v.render := by
  cases v with
  | string s => exact absurd rfl (h s)
  | null | bool _ | number _ | array _ | object _ => rfl

theorem toList_settingText (h : ∀ s, v ≠ .string s) : (settingText v).toList = v.render := by
  rw [settingText_eq_render h, String.toList_ofList]

theorem settingText_of_valueText {u : Json} {depth : Nat} (hv : Regular depth v)
    (other : ∀ s, v ≠ .string s) (h : ValueText NumberText depth u (settingText v).toList) :
    settingText u = settingText v := by
  -- The text spells no value but one, and that is not `v` but `v` with its members in order.
  rw [toList_settingText other] at h
  have hu : u = v.sorted :=
    valueText_unique h ((valueText_render hv).mono fun _ _ => numberText_of_integerText)
  have hother : ∀ s, v.sorted ≠ .string s := by
    intro s hs
    cases v with
    | string s' => exact other s' rfl
    | null | bool _ | number _ | array _ | object _ => cases hs
  rw [hu, settingText_eq_render hother, settingText_eq_render other, render_sorted hv]

theorem exists_readPayload_of_verbatimObject {es : List (String × List Char)} {text : String}
    {payload : List UInt8} {name : String} {t : List Char} (hobject : VerbatimObject es text.toList)
    (hbytes : payload.toByteArray = text.toUTF8) (hname : valueIn es.reverse name = some t) :
    ∃ ms u, readPayload payload = .ok ms ∧ es.map Prod.fst = ms.map Prod.fst ∧
      valueIn ms.reverse name = some u ∧ ValueText NumberText 126 u t := by
  obtain ⟨ms, hms, hspelled⟩ := hobject.exists_objectText
  obtain ⟨u, hu, hvalue⟩ := exists_valueIn_of_spelledBy (List.forall₂_reverse_iff.2 hms) hname
  have hread : readPayload payload = .ok ms := readPayload_eq_ok_iff.2 ⟨text, hbytes, hspelled⟩
  exact ⟨ms, u, hread, map_fst_of_spelledBy hms, hu, hvalue⟩

/-- The text of a value that is no string is JSON, reads back as the value but for the order of
members, and stands on one line; a member with that text for its value has that text for its
setting, and so it is in the bundle unless it is the key, whose line breaks are restored;
and values have one text if, and only if, they are the same but for the order of members. -/
theorem settingText_faithful (regular : Regular 126 v) (other : ∀ s, v ≠ .string s) :
    let c := settingText v
    (∃ u, Same v u ∧ ValueText IntegerText 126 u c.toList ∧
      takeValue 126 c.toList = some (u, [])) ∧
    (∀ (es : List (String × List Char)) (text : String) (payload : List UInt8) (name : String),
      VerbatimObject es text.toList → payload.toByteArray = text.toUTF8 →
      valueIn es.reverse name = some c.toList →
      (∃ ms, readPayload payload = .ok ms ∧ (settings ms).get? name = some c) ∧
      ∀ secret field, field ∈ es.map Prod.fst → ∃ b, bundle secret field payload = .ok b ∧
        b.get? name = some (if name = field then restoreNewlines c else c)) ∧
    (∀ a ∈ c.toList, ' ' ≤ a) ∧
    (∀ w, Regular 126 w → (∀ s, w ≠ .string s) → (settingText w = c ↔ Same w v)) := by
  intro c
  have hc : c.toList = v.render := toList_settingText other
  refine ⟨?_, ?_, ?_, ?_⟩
  · have hspelled := valueText_render regular
    have hread := (reads_value 126).take (hspelled.mono fun _ _ => numberText_of_integerText)
      endsNumeral_nil
    rw [List.append_nil] at hread
    rw [hc]
    exact ⟨v.sorted, same_sorted regular, hspelled, hread⟩
  · intro es text payload name hobject hbytes hname
    obtain ⟨ms, u, hread, hnames, hu, hvalue⟩ :=
      exists_readPayload_of_verbatimObject hobject hbytes hname
    have htext : settingText u = c := settingText_of_valueText regular other hvalue
    refine ⟨⟨ms, hread, ?_⟩, fun secret field hfield => ?_⟩
    · rw [get?_settings, hu, Option.map_some, htext]
    · have hsome : valueIn ms.reverse field ≠ none := by
        intro hn
        exact valueIn_reverse_eq_none_iff.1 hn (hnames ▸ hfield)
      obtain ⟨x, hx⟩ := Option.ne_none_iff_exists'.1 hsome
      refine ⟨_, bundle_of_some hread hx, ?_⟩
      rw [get?_of_bundle_of_some hx hu, htext]
  · rw [hc]
    exact le_of_mem_render regular
  · intro w hw hother
    have hc' : c = .ofList v.render := settingText_eq_render other
    rw [← render_eq_iff hw regular, settingText_eq_render hother, hc']
    exact String.ofList_inj

/-- Members out of order, a line break and a quotation mark in a string, and the text of it all
for a member of a payload. -/
theorem settingText_faithful_of_nested_object :
    let vs : Json := .array [.null, .number (.integer (-1))]
    let v : Json := .object [("b", vs), ("a", .string "\n\"")]
    let w : Json := .object [("a", .string "\n\""), ("b", vs)]
    let c := "\x7b\"a\":\"\\n\\\"\",\"b\":[null,-1]\x7d"
    let es := [("k", c.toList), ("K", ['"', '"'])]
    let text := "\x7b \"k\":" ++ c ++ ",\"K\":\"\"\x7d"
    Regular 126 v ∧ (∀ s, v ≠ .string s) ∧ settingText v = c ∧
      (∃ u, Same v u ∧ takeValue 126 c.toList = some (u, [])) ∧
      VerbatimObject es text.toList ∧
      (∃ b, bundle "S" "K" (Text.Utf8.encode text) = .ok b ∧ b.get? "k" = some c) ∧
      (∀ a ∈ c.toList, ' ' ≤ a) ∧ settingText w = c ∧ Same w v := by
  intro vs v w c es text
  have hvs : Regular 125 vs := by
    refine .array fun u hu => ?_
    obtain rfl | rfl : u = .null ∨ u = .number (.integer (-1)) := by simpa using hu
    · exact .null
    · exact .integer (by decide) (by decide)
  have hv : Regular 126 v := by
    refine .object (by decide) fun m hm => ?_
    obtain rfl | rfl : m = ("b", vs) ∨ m = ("a", .string "\n\"") := by simpa [v] using hm
    · exact hvs
    · exact .string
  have hw : Regular 126 w := by
    refine .object (by decide) fun m hm => ?_
    obtain rfl | rfl : m = ("a", .string "\n\"") ∨ m = ("b", vs) := by simpa [w] using hm
    · exact .string
    · exact hvs
  have hother : ∀ s, v ≠ .string s := by simp [v]
  have hother' : ∀ s, w ≠ .string s := by simp [w]
  have hc : settingText v = c := by cbv
  obtain ⟨⟨u, hsame, hspelled, hread⟩, hpayload, hline, hone⟩ := settingText_faithful hv hother
  rw [hc] at hspelled hread hpayload hline hone
  have none := blanks_nil
  have space : Blanks [' '] := by simp [Blanks]
  have first : VerbatimMember ("k", c.toList) (['"', 'k', '"'] ++ ([] ++ ':' :: ([] ++ c.toList))) :=
    .mk (stringText_quote "k") none none (hspelled.mono fun _ _ => numberText_of_integerText)
  have second : VerbatimMember ("K", ['"', '"']) (['"', 'K', '"'] ++ ([] ++ [':', '"', '"'])) :=
    .mk (stringText_quote "K") none none (.scalar (.string (stringText_quote "")))
  have hobject : VerbatimObject es text.toList := by
    have h := VerbatimObject.mk none (.some space first (.some none none second (.none none))) none
    simpa [text] using h
  have hname : valueIn es.reverse "k" = some c.toList := rfl
  have hbytes := Text.Utf8.toByteArray_encode text
  obtain ⟨b, hb, hk⟩ := (hpayload es text _ "k" hobject hbytes hname).2 "S" "K" (by decide)
  have htext : settingText w = c := by cbv
  exact ⟨hv, hother, hc, ⟨u, hsame, hread⟩, hobject, ⟨b, hb, hk⟩, hline, htext,
    (hone w hw hother').1 htext⟩

end EnvSync.Secret
