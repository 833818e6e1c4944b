/-
# No JSON, or no object

A payload that is UTF-8 but no object is refused in one of two ways: as no JSON, or as JSON of
another shape.  The reader decides this by what the text begins with.  A scalar is read to its
end and an array not beyond its bracket, and whatever stands behind either is not looked at
(`readObject_eq_notObject_iff`).

So the two refusals do not tell malformed texts from well-formed ones of another shape.  They do
so exactly for the texts that begin as another value only if they are one as a whole
(`refusal_tells_shape_iff`), and a lone bracket is not of these (`open_bracket_taken_for_array`).
-/
import EnvSync.Proofs.Secret.Extent

namespace EnvSync.Json

/-! ## What a text begins with -/

/-- The text begins as a value other than an object: with the bracket of an array, or with all of
a scalar, whatever comes then. -/
inductive BeginsOtherwise : List Char → Prop where
  | array {w rest : List Char} : Blanks w → BeginsOtherwise (w ++ '[' :: rest)
  | scalar {w t rest : List Char} {v : Json} :
      Blanks w → ScalarText (NumberBefore rest) v t → BeginsOtherwise (w ++ (t ++ rest))

theorem ScalarText.begins {rest t : List Char} {v : Json}
    (h : ScalarText (NumberBefore rest) v t) : Begins t :=
  reads_scalar.begins (h.mono fun _ _ => numberText_of_numberBefore)

theorem beginsOtherwise_iff {s : List Char} :
    BeginsOtherwise s ↔
      (∃ rest, skipBlanks s = '[' :: rest) ∨ ∃ r, takeScalar (skipBlanks s) = some r := by
  constructor
  · rintro (@⟨w, rest, hw⟩ | @⟨w, t, rest, v, hw, hv⟩)
    · exact .inl ⟨rest, skipBlanks_append hw (stops_of_cons rest rfl)⟩
    · rw [skipBlanks_append hw (hv.begins.stops rest)]
      exact .inr ⟨(v, rest), takeScalar_eq_some_iff.2 ⟨t, rfl, hv⟩⟩
  · obtain ⟨w, hs, hw⟩ := exists_skipBlanks s
    rintro (⟨rest, hbracket⟩ | ⟨⟨v, rest⟩, htake⟩)
    · rw [hs, hbracket]
      exact .array hw
    · obtain ⟨t, ht, hv⟩ := takeScalar_eq_some_iff.1 htake
      rw [hs, ht]
      exact .scalar hw hv

theorem readObject_eq_notObject_iff {text : String} :
    readObject text = .error .notObject ↔ BeginsOtherwise text.toList := by
  rw [beginsOtherwise_iff]
  unfold readObject
  split
  · next s hs =>
    -- No scalar begins with a brace.
    have hleft : ¬ ∃ rest, skipBlanks text.toList = '[' :: rest := by
      rintro ⟨rest, hrest⟩
      cases hs.symm.trans hrest
    have hright : ¬ ∃ r, takeScalar (skipBlanks text.toList) = some r := by
      rw [hs]
      rintro ⟨r, hr⟩
      cases hr
    refine iff_of_false ?_ (not_or.2 ⟨hleft, hright⟩)
    split <;> nofun
  · next s hs => exact iff_of_true rfl (.inl ⟨s, hs⟩)
  · next s hbrace hbracket =>
    have hleft : ¬ ∃ rest, skipBlanks text.toList = '[' :: rest := by
      rintro ⟨rest, hrest⟩
      exact hbracket rest hrest
    rw [← Option.isSome_iff_exists, or_iff_right hleft]
    cases (takeScalar (skipBlanks text.toList)).isSome with
    | true => exact iff_of_true rfl rfl
    | false => exact iff_of_false nofun nofun

/-- What spells an object does not begin as another value. -/
theorem not_beginsOtherwise_of_brace {w s : List Char} (hw : Blanks w) :
    ¬ BeginsOtherwise (w ++ '{' :: s) := by
  have hskip : skipBlanks (w ++ '{' :: s) = '{' :: s := skipBlanks_append hw (stops_of_cons s rfl)
  rw [beginsOtherwise_iff, hskip]
  rintro (⟨rest, hrest⟩ | ⟨r, hr⟩)
  · cases hrest
  · cases hr

end EnvSync.Json

namespace EnvSync.Secret

open Json (BeginsOtherwise Blanks ScalarText ValueText readObject)

variable {secret field : String} {payload : List UInt8}

/-! ## The two refusals -/

/-- A JSON text: blanks, a value and blanks.  It may be nested to any depth and have numbers of
any size. -/
inductive JsonText (v : Json) : List Char → Prop where
  | mk {depth : Nat} {w t w' : List Char} :
      Blanks w → ValueText SomeNumeralText depth v t → Blanks w' → JsonText v (w ++ (t ++ w'))

theorem jsonText_of_objectText {depth : Nat} {ms : List (String × Json)} {s : List Char}
    (h : Json.ObjectText Json.NumberText depth ms s) : JsonText (.object ms) s := by
  obtain ⟨hw, hv, hw'⟩ := h
  refine .mk hw (Json.ValueText.mono ?_ hv) hw'
  rintro n t ⟨m, hm, -⟩
  exact ⟨m, hm⟩

theorem JsonText.not_object {v : Json} {s : List Char} (h : JsonText v s)
    (begins : BeginsOtherwise s) (ms : List (String × Json)) : v ≠ .object ms := by
  rintro rfl
  obtain @⟨depth, w, t, w', hw, hv, -⟩ := h
  cases depth with
  | zero => cases hv
  | succ depth =>
      cases hv with
      | scalar hs => cases hs
      | object _ =>
          rw [List.cons_append] at begins
          exact Json.not_beginsOtherwise_of_brace hw begins

theorem ne_open_of_valueText {depth : Nat} {v : Json} {t : List Char}
    (h : ValueText SomeNumeralText depth v t) : t ≠ ['['] := by
  have hscalar : ¬ ScalarText SomeNumeralText v ['['] := by
    rintro (_ | _ | _ | ⟨m, hm⟩ | hs)
    · obtain ⟨c, s, hc, hnumeral⟩ := hm.exists_cons
      cases hc
      exact absurd hnumeral (by decide)
    · exact nomatch hs
  rintro rfl
  cases depth with
  | zero => exact hscalar h
  | succ depth =>
      generalize hs : ['['] = s at h
      cases h with
      | scalar h => exact hscalar (hs ▸ h)
      | array _ => simp at hs
      | object _ => cases hs

theorem readPayload_of_bundle_error {cause : Cause} (hc : cause ≠ .missingField field)
    (h : bundle secret field payload = .error ⟨secret, cause⟩) :
    readPayload payload = .error cause := by
  cases hread : readPayload payload with
  | error c =>
      rw [bundle_of_error hread] at h
      cases h
      rfl
  | ok ms =>
      cases hfield : OrderedMap.valueIn ms.reverse field with
      | none =>
          rw [bundle_of_none hread hfield] at h
          cases h
          exact absurd rfl hc
      | some v =>
          rw [bundle_of_some hread hfield] at h
          cases h

theorem bundle_eq_notObject_iff {text : String} (bytes : payload.toByteArray = text.toUTF8) :
    bundle secret field payload = .error ⟨secret, .notObject⟩ ↔ BeginsOtherwise text.toList := by
  obtain rfl := Text.Utf8.toByteArray_eq_iff.1 bytes
  rw [← Json.readObject_eq_notObject_iff]
  constructor
  · intro h
    have hcause : Cause.notObject ≠ .missingField field := nofun
    have hread := readPayload_of_bundle_error hcause h
    rw [readPayload_encode] at hread
    split at hread
    · cases hread
    · assumption
    · cases hread
  · intro h
    refine bundle_of_error ?_
    rw [readPayload_encode, h]

theorem bundle_eq_notJson {text : String} (bytes : payload.toByteArray = text.toUTF8)
    (other : ¬ BeginsOtherwise text.toList) (object : ∀ ms, ¬ JsonText (.object ms) text.toList) :
    bundle secret field payload = .error ⟨secret, .notJson⟩ := by
  obtain rfl := Text.Utf8.toByteArray_eq_iff.1 bytes
  refine bundle_of_error ?_
  rw [readPayload_encode]
  cases hread : readObject text with
  | ok ms =>
      exact absurd (jsonText_of_objectText (Json.readObject_eq_ok_iff.1 hread)) (object ms)
  | error refusal =>
      cases refusal with
      | malformed => rfl
      | notObject => exact absurd (Json.readObject_eq_notObject_iff.1 hread) other

/-- A payload is refused as JSON of another shape where it begins as another value.  So what is
refused as such is well-formed, and what is not well-formed is refused as no JSON, just where a
text that begins as another value is a JSON text. -/
theorem refusal_tells_shape_iff {text : String} (bytes : payload.toByteArray = text.toUTF8)
    (secret field : String) :
    (bundle secret field payload = .error ⟨secret, .notObject⟩ ↔ BeginsOtherwise text.toList) ∧
    (((bundle secret field payload = .error ⟨secret, .notObject⟩ →
          ∃ v, JsonText v text.toList ∧ ∀ ms, v ≠ .object ms) ∧
        ((∀ v, ¬ JsonText v text.toList) →
          bundle secret field payload = .error ⟨secret, .notJson⟩)) ↔
      (BeginsOtherwise text.toList → ∃ v, JsonText v text.toList)) := by
  have hother : bundle secret field payload = .error ⟨secret, .notObject⟩ ↔
      BeginsOtherwise text.toList := bundle_eq_notObject_iff bytes
  refine ⟨hother, ?_⟩
  constructor
  · rintro ⟨wellFormed, -⟩ begins
    obtain ⟨v, hv, -⟩ := wellFormed (hother.2 begins)
    exact ⟨v, hv⟩
  · intro whole
    refine ⟨?_, ?_⟩
    · intro h
      obtain ⟨v, hv⟩ := whole (hother.1 h)
      exact ⟨v, hv, hv.not_object (hother.1 h)⟩
    · intro none
      refine bundle_eq_notJson bytes ?_ fun ms => none (.object ms)
      intro begins
      obtain ⟨v, hv⟩ := whole begins
      exact none v hv

/-- An array is refused as such, and it is one.  A null with more behind it is refused just so. -/
theorem refusal_tells_shape_iff_of_array_and_null :
    (bundle "S" "K" (Text.Utf8.encode " [null]") = .error ⟨"S", .notObject⟩ →
      ∃ v, JsonText v " [null]".toList ∧ ∀ ms, v ≠ .object ms) ∧
    bundle "S" "K" (Text.Utf8.encode " [null]") = .error ⟨"S", .notObject⟩ ∧
    bundle "S" "K" (Text.Utf8.encode "null x") = .error ⟨"S", .notObject⟩ := by
  have hempty : Blanks [] := nofun
  have hitem : ValueText SomeNumeralText 0 .null ['n', 'u', 'l', 'l'] := .null
  have hvalue : ValueText SomeNumeralText 1 (.array [.null]) ['[', 'n', 'u', 'l', 'l', ']'] :=
    .array (.some hempty hitem (.none hempty))
  have hblank : Blanks [' '] := List.forall_mem_singleton.2 (by decide)
  have harray : JsonText (.array [.null]) " [null]".toList := .mk hblank hvalue hempty
  have hbegins : BeginsOtherwise " [null]".toList := Json.beginsOtherwise_iff.2 (.inl ⟨_, rfl⟩)
  have hbegins' : BeginsOtherwise "null x".toList := Json.beginsOtherwise_iff.2 (.inr ⟨_, rfl⟩)
  obtain ⟨hrefused, hlaw⟩ :=
    refusal_tells_shape_iff (Text.Utf8.toByteArray_encode " [null]") "S" "K"
  obtain ⟨hrefused', -⟩ := refusal_tells_shape_iff (Text.Utf8.toByteArray_encode "null x") "S" "K"
  exact ⟨(hlaw.2 fun _ => ⟨_, harray⟩).1, hrefused.2 hbegins, hrefused'.2 hbegins'⟩

/-- A lone bracket is taken for an array, although it is not well formed. -/
theorem open_bracket_taken_for_array :
    bundle "S" "K" (Text.Utf8.encode "[") = .error ⟨"S", .notObject⟩ ∧
    ∀ v, ¬ JsonText v "[".toList := by
  refine ⟨by cbv, ?_⟩
  intro v h
  generalize hs : "[".toList = s at h
  obtain @⟨depth, w, t, w', hw, hv, hw'⟩ := h
  have hbracket : '[' ∈ w ++ (t ++ w') := hs ▸ List.mem_singleton_self '['
  have hlength : (w ++ (t ++ w')).length = 1 := hs ▸ rfl
  have hvalue : '[' ∈ t := by
    rcases List.mem_append.1 hbracket with h | h
    · exact absurd (hw _ h) (by decide)
    · exact (List.mem_append.1 h).resolve_right fun h => absurd (hw' _ h) (by decide)
  refine ne_open_of_valueText hv ?_
  obtain ⟨c, rfl⟩ : ∃ c, t = [c] := by
    rw [← List.length_eq_one_iff]
    have := List.length_pos_of_mem hvalue
    simp only [List.length_append] at hlength
    omega
  rw [List.mem_singleton.1 hvalue]

end EnvSync.Secret
