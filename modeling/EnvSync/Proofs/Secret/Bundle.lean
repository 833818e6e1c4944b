/-
# Payloads and their bundles

A payload gives a bundle exactly as an object that it spells says: whatever the
spelling, the bundle is that of the object (`bundle_of_object`), and what is taken for
an object spells one (`object_of_bundle`).

Both come from one fact about `readPayload`: it finds the members of the object whose
text the payload is the UTF-8 form of, and fails where there is none.  The rest is what
`bundle` makes of members, in which no text occurs any more.
-/
import EnvSync.OrderedMap.Lemmas
import EnvSync.Proofs.Json.Compact
import EnvSync.Proofs.OrderedMap
import EnvSync.Proofs.Text.Utf8
import EnvSync.Secret.Payload

namespace EnvSync.Secret

open Json
open OrderedMap (valueIn valueIn_eq_none_iff)

variable {secret field : String} {payload : List UInt8} {ms : List (String × Json)}

/-! ## From payload to members -/

theorem readPayload_eq_ok_iff :
    readPayload payload = .ok ms ↔ ∃ text : String, payload.toByteArray = text.toUTF8 ∧
      ObjectText NumberText maxDepth ms text.toList := by
  constructor
  · intro h
    unfold readPayload at h
    split at h
    · cases h
    · next text htext =>
      split at h
      · cases h
      · cases h
      · next members hread =>
        cases h
        exact ⟨text, Text.Utf8.decode_eq_ok_iff.1 htext, readObject_eq_ok_iff.1 hread⟩
  · rintro ⟨text, htext, hobject⟩
    simp only [readPayload, Text.Utf8.decode_eq_ok_iff.2 htext, readObject_eq_ok_iff.2 hobject]

/-! ## From members to bundle -/

theorem map_fst_settings (ms : List (String × Json)) :
    (ms.map fun m => (m.1, settingText m.2)).map Prod.fst = ms.map Prod.fst := by
  rw [List.map_map]
  rfl

theorem keys_settings (ms : List (String × Json)) :
    (settings ms).keys = (ms.map Prod.fst).eraseDups := by
  rw [settings, OrderedMap.keys_ofList, map_fst_settings]

theorem get?_settings (ms : List (String × Json)) (name : String) :
    (settings ms).get? name = (valueIn ms.reverse name).map settingText := by
  rw [settings, OrderedMap.get?_ofList, ← List.map_reverse,
    OrderedMap.valueIn_map]

theorem bundle_of_error {cause : Cause} (h : readPayload payload = .error cause) :
    bundle secret field payload = .error ⟨secret, cause⟩ := by
  rw [bundle, decode, h]
  rfl

theorem bundle_of_none (h : readPayload payload = .ok ms)
    (hfield : valueIn ms.reverse field = none) :
    bundle secret field payload = .error ⟨secret, .missingField field⟩ := by
  simp only [bundle, decode, h, restoreField, get?_settings, hfield, Option.map_none]
  rfl

theorem bundle_of_some {v : Json} (h : readPayload payload = .ok ms)
    (hfield : valueIn ms.reverse field = some v) :
    bundle secret field payload =
      .ok ((settings ms).insert field (restoreNewlines (settingText v))) := by
  simp only [bundle, decode, h, restoreField, get?_settings, hfield, Option.map_some]
  rfl

theorem mem_of_decode {b : Settings} (h : decode field payload = .ok b) : field ∈ b := by
  rw [decode] at h
  split at h
  · cases h
  · rw [restoreField] at h
    split at h
    · cases h
    · obtain rfl := Except.ok.inj h
      exact OrderedMap.mem_insert.2 (.inl rfl)

theorem bundle_eq_ok_iff {b : Settings} :
    bundle secret field payload = .ok b ↔ decode field payload = .ok b := by
  rw [bundle]
  cases decode field payload with
  | error cause => exact ⟨nofun, nofun⟩
  | ok b' => exact ⟨fun h => congrArg Except.ok (Except.ok.inj h), fun h => h ▸ rfl⟩

theorem keys_of_bundle_of_some {v : Json} (hfield : valueIn ms.reverse field = some v) (s : String) :
    ((settings ms).insert field s).keys = (ms.map Prod.fst).eraseDups := by
  have hmem : field ∈ settings ms := by
    apply Decidable.byContradiction
    intro hn
    rw [← OrderedMap.get?_eq_none_iff, get?_settings, hfield] at hn
    cases hn
  rw [OrderedMap.keys_insert, if_pos hmem, keys_settings]

/-- A member has its text in the bundle, but for the line breaks of `field`. -/
theorem get?_of_bundle_of_some {u v : Json} {name : String}
    (hfield : valueIn ms.reverse field = some u) (hname : valueIn ms.reverse name = some v) :
    ((settings ms).insert field (restoreNewlines (settingText u))).get? name =
      some (if name = field then restoreNewlines (settingText v) else settingText v) := by
  rw [OrderedMap.get?_insert]
  by_cases h : name = field
  · subst h
    obtain rfl := Option.some.inj (hfield.symm.trans hname)
    rw [if_pos rfl, if_pos rfl]
  · rw [if_neg (Ne.symm h), if_neg h, get?_settings, hname, Option.map_some]

theorem valueIn_reverse_eq_none_iff {name : String} :
    valueIn ms.reverse name = none ↔ name ∉ ms.map Prod.fst := by
  rw [valueIn_eq_none_iff, List.map_reverse, List.mem_reverse]

/-! ## The bundle of an object -/

/-- The text that a value amounts to: a string itself, anything else in its compact form. -/
inductive SettingText : Json → String → Prop where
  | string {s : String} : SettingText (.string s) s
  | compact {v : Json} {t : List Char} :
      (∀ s, v ≠ .string s) → Compact v t → SettingText v (.ofList t)

theorem settingText_unique {v : Json} {s s' : String} (h : SettingText v s)
    (h' : SettingText v s') : s = s' := by
  cases h with
  | string =>
      cases h' with
      | string => rfl
      | compact hne _ => exact absurd rfl (hne _)
  | compact hne hc =>
      cases h' with
      | string => exact absurd rfl (hne _)
      | compact _ hc' => rw [compact_unique hc hc']

theorem settingText_of_compact {v : Json} (h : Compact v v.render) :
    SettingText v (settingText v) := by
  cases v with
  | string s => exact .string
  | null | bool _ | number _ | array _ | object _ => exact .compact (fun _ => nofun) h

theorem compact_of_objectText {depth : Nat} {t : List Char}
    (h : ObjectText IntegerText (depth + 1) ms t) : ∀ m ∈ ms, Compact m.2 m.2.render := by
  obtain ⟨_, _, _, -, -, -, h⟩ := objectText_succ_iff.1 h
  refine h.forall_mem ?_
  intro m t hm
  obtain ⟨_, _, _, hv⟩ := hm
  exact compact_render hv

/-- Which spelling of an object it is makes no difference. -/
theorem bundle_eq_of_same_object {text text' : String} {payload' : List UInt8}
    (spelled : ObjectText NumberText maxDepth ms text.toList)
    (spelled' : ObjectText NumberText maxDepth ms text'.toList)
    (bytes : payload.toByteArray = text.toUTF8) (bytes' : payload'.toByteArray = text'.toUTF8) :
    bundle secret field payload = bundle secret field payload' := by
  have hread : readPayload payload = .ok ms := readPayload_eq_ok_iff.2 ⟨text, bytes, spelled⟩
  have hread' : readPayload payload' = .ok ms := readPayload_eq_ok_iff.2 ⟨text', bytes', spelled'⟩
  rw [bundle, decode, hread, bundle, decode, hread']

/-- Every spelling of an object gives the right bundle: the names of the members where
they first stand, each with the text of its last value, and the line breaks of `field`
restored.  Without `field` there is none. -/
theorem bundle_of_object {text : String} (spelled : ObjectText IntegerText 127 ms text.toList)
    (bytes : payload.toByteArray = text.toUTF8) (secret field : String) :
    (field ∉ ms.map Prod.fst →
      bundle secret field payload = .error ⟨secret, .missingField field⟩) ∧
    (field ∈ ms.map Prod.fst → ∃ b, bundle secret field payload = .ok b ∧
      b.keys = (ms.map Prod.fst).eraseDups ∧
      ∀ name v, valueIn ms.reverse name = some v → ∃ s, (∀ s', SettingText v s' ↔ s' = s) ∧
        b.get? name = some (if name = field then restoreNewlines s else s)) := by
  have hread : readPayload payload = .ok ms :=
    readPayload_eq_ok_iff.2 ⟨text, bytes, spelled.mono fun _ _ => numberText_of_integerText⟩
  constructor
  · intro hfield
    exact bundle_of_none hread (valueIn_reverse_eq_none_iff.2 hfield)
  · intro hfield
    have hsome : valueIn ms.reverse field ≠ none := by
      intro hn
      exact valueIn_reverse_eq_none_iff.1 hn hfield
    obtain ⟨u, hu⟩ := Option.ne_none_iff_exists'.1 hsome
    refine ⟨_, bundle_of_some hread hu, keys_of_bundle_of_some hu _, ?_⟩
    intro name v hv
    have hmem : (name, v) ∈ ms := List.mem_reverse.1 (OrderedMap.mem_of_valueIn hv)
    have htext := settingText_of_compact (compact_of_objectText spelled _ hmem)
    refine ⟨settingText v, ?_, ?_⟩
    · intro s
      constructor
      · intro hs
        exact settingText_unique hs htext
      · rintro rfl
        exact htext
    · rw [OrderedMap.get?_insert, get?_settings, hv]
      by_cases hname : name = field
      · subst hname
        rw [hu] at hv
        cases hv
        rw [if_pos rfl, if_pos rfl]
      · rw [if_neg fun h => hname h.symm, if_neg hname]
        rfl

/-- Blanks, escapes of two kinds, a name that comes twice, and a line break to restore. -/
theorem bundle_of_object_of_mixed_spelling :
    let text := "\x7b \"n\":-7,\"\\u006B\" :\"x\\\\ny\",\"n\":[ ]\x7d\n"
    let ms := [("n", .number (.integer (-7))), ("k", .string "x\\ny"), ("n", .array [])]
    ObjectText IntegerText 127 ms text.toList ∧ (Text.Utf8.encode text).toByteArray = text.toUTF8 ∧
      "k" ∈ ms.map Prod.fst ∧ ∃ b, bundle "S" "k" (Text.Utf8.encode text) = .ok b ∧
        b.keys = ["n", "k"] ∧ b.get? "n" = some "[]" ∧ b.get? "k" = some "x\ny" ∧
        bundle "S" "m" (Text.Utf8.encode text) = .error ⟨"S", .missingField "m"⟩ := by
  intro text ms
  have none := blanks_nil
  have space : Blanks [' '] := by simp [Blanks]
  have line : Blanks ['\n'] := by simp [Blanks]
  have n : StringText "n" ['"', 'n', '"'] := stringText_quote "n"
  have unit : UnitText 'k'.toNat ['0', '0', '6', 'B'] :=
    .mk (.inl (by decide)) (.inl (by decide)) (.inl (by decide)) (.inr (by decide))
  have k : StringText "k" ['"', '\\', 'u', '0', '0', '6', 'B', '"'] := by
    have chars := CharsText.cons (.unicode (.unit unit)) .nil
    have text : StringText "k" _ := .mk (String.toList_ofList (l := ['k']) ▸ chars)
    exact text
  have seven : IntegerText (.integer (-7)) ['-', '7'] := by
    have h := @IntegerText.mk (-7) (by decide) (by decide)
    rwa [toList_toString] at h
  have first : MemberText (ValueText IntegerText 126) ("n", .number (.integer (-7)))
      ['"', 'n', '"', ':', '-', '7'] := .mk n none none (.scalar (.number seven))
  have second : MemberText (ValueText IntegerText 126) ("k", .string "x\\ny")
      ['"', '\\', 'u', '0', '0', '6', 'B', '"', ' ', ':', '"', 'x', '\\', '\\', 'n', 'y', '"'] :=
    .mk k space none (.scalar (.string (stringText_quote "x\\ny")))
  have third : MemberText (ValueText IntegerText 126) ("n", .array [])
      ['"', 'n', '"', ':', '[', ' ', ']'] := .mk n none none (.array (.none space))
  have members := ListText.some space first
    (.some none none second (.some none none third (.none none)))
  have spelled : ObjectText IntegerText 127 ms text.toList :=
    objectText_succ_iff.2 ⟨[], _, ['\n'], by simp [text], none, line, members⟩
  have bytes := Text.Utf8.toByteArray_encode text
  have mem : "k" ∈ ms.map Prod.fst := by decide
  refine ⟨spelled, bytes, mem, ?_⟩
  obtain ⟨b, hb, hkeys, hvalues⟩ := (bundle_of_object spelled bytes "S" "k").2 mem
  have other := (bundle_of_object spelled bytes "S" "m").1 (by decide)
  refine ⟨b, hb, hkeys, ?_, ?_, other⟩
  · obtain ⟨s, hs, hn⟩ := hvalues "n" (.array []) rfl
    cases (hs s).2 rfl with
    | compact _ h =>
        cases h with
        | array h =>
            cases h
            rw [hn]
            rfl
  · obtain ⟨s, hs, hk⟩ := hvalues "k" (.string "x\\ny") rfl
    cases (hs s).2 rfl with
    | string => rw [hk]; rfl
    | compact h => exact absurd rfl (h _)

/-! ## The object of a bundle -/

theorem exists_of_bundle (h : (∃ b, bundle secret field payload = .ok b) ∨
      ∃ s f, bundle secret field payload = .error ⟨s, .missingField f⟩) :
    ∃ ms, readPayload payload = .ok ms := by
  cases hread : readPayload payload with
  | ok ms => exact ⟨ms, rfl⟩
  | error cause =>
      rw [bundle_of_error hread] at h
      rcases h with ⟨b, hb⟩ | ⟨s, f, hf⟩
      · cases hb
      · cases hf
        unfold readPayload at hread
        split at hread
        · cases hread
        · split at hread <;> cases hread

/-- The spellings of a numeral, whichever it is. -/
def SomeNumeralText (_ : Number) (t : List Char) : Prop :=
  ∃ m, NumeralText m t

/-- Nothing but the UTF-8 form of an object gives a bundle, or is missing a field, and the
names of the bundle are those of the object. -/
theorem object_of_bundle (secret field : String) (payload : List UInt8) :
    (∀ b, bundle secret field payload = .ok b →
      ∃ (text : String) (ms : List (String × Json)), payload.toByteArray = text.toUTF8 ∧
        ObjectText SomeNumeralText 127 ms text.toList ∧ b.keys = (ms.map Prod.fst).eraseDups) ∧
    (∀ s f, bundle secret field payload = .error ⟨s, .missingField f⟩ →
      ∃ (text : String) (ms : List (String × Json)), payload.toByteArray = text.toUTF8 ∧
        ObjectText SomeNumeralText 127 ms text.toList ∧ s = secret ∧ f = field ∧
        field ∉ ms.map Prod.fst) ∧
    (¬ payload.toByteArray.IsValidUTF8 →
      ∃ fault, bundle secret field payload = .error ⟨secret, .notUtf8 fault⟩) := by
  have hobject : ∀ ms, readPayload payload = .ok ms →
      ∃ text : String, payload.toByteArray = text.toUTF8 ∧
        ObjectText SomeNumeralText 127 ms text.toList := by
    intro ms hread
    obtain ⟨text, hbytes, hspelled⟩ := readPayload_eq_ok_iff.1 hread
    refine ⟨text, hbytes, hspelled.mono ?_⟩
    rintro n t ⟨m, hm, -⟩
    exact ⟨m, hm⟩
  refine ⟨?_, ?_, ?_⟩
  · intro b hb
    obtain ⟨ms, hread⟩ := exists_of_bundle (.inl ⟨b, hb⟩)
    obtain ⟨text, hbytes, hspelled⟩ := hobject ms hread
    refine ⟨text, ms, hbytes, hspelled, ?_⟩
    cases hfield : valueIn ms.reverse field with
    | none =>
        rw [bundle_of_none hread hfield] at hb
        cases hb
    | some v =>
        rw [bundle_of_some hread hfield] at hb
        cases hb
        exact keys_of_bundle_of_some hfield _
  · intro s f hf
    obtain ⟨ms, hread⟩ := exists_of_bundle (.inr ⟨s, f, hf⟩)
    obtain ⟨text, hbytes, hspelled⟩ := hobject ms hread
    cases hfield : valueIn ms.reverse field with
    | none =>
        rw [bundle_of_none hread hfield] at hf
        cases hf
        exact ⟨text, ms, hbytes, hspelled, rfl, rfl, valueIn_reverse_eq_none_iff.1 hfield⟩
    | some v =>
        rw [bundle_of_some hread hfield] at hf
        cases hf
  · intro hinvalid
    cases htext : Text.Utf8.decode payload with
    | ok text => exact absurd (Text.Utf8.isValidUTF8_iff.2 ⟨text, htext⟩) hinvalid
    | error fault =>
        refine ⟨fault, bundle_of_error ?_⟩
        rw [readPayload, htext]

/-- An object with the field, one without it, and a byte that no character begins with. -/
theorem object_of_bundle_of_short_payloads :
    (∃ b, bundle "S" "k" (Text.Utf8.encode "\x7b\"k\":0\x7d") = .ok b ∧
      ∃ (text : String) (ms : List (String × Json)),
        (Text.Utf8.encode "\x7b\"k\":0\x7d").toByteArray = text.toUTF8 ∧
        ObjectText SomeNumeralText 127 ms text.toList ∧ b.keys = (ms.map Prod.fst).eraseDups) ∧
    (bundle "S" "k" (Text.Utf8.encode "\x7b\x7d") = .error ⟨"S", .missingField "k"⟩ ∧
      ∃ (text : String) (ms : List (String × Json)),
        (Text.Utf8.encode "\x7b\x7d").toByteArray = text.toUTF8 ∧
        ObjectText SomeNumeralText 127 ms text.toList ∧ "k" ∉ ms.map Prod.fst) ∧
    (¬ [0xFF].toByteArray.IsValidUTF8 ∧
      ∃ fault, bundle "S" "k" [0xFF] = .error ⟨"S", .notUtf8 fault⟩) := by
  have none := blanks_nil
  have zero : NumberText (.integer 0) ['0'] := by
    have h := @IntegerText.mk 0 (by decide) (by decide)
    rw [toList_toString] at h
    exact numberText_of_integerText h
  have member : MemberText (ValueText NumberText 126) ("k", .number (.integer 0))
      ['"', 'k', '"', ':', '0'] := .mk (stringText_quote "k") none none (.scalar (.number zero))
  have some : readPayload (Text.Utf8.encode "\x7b\"k\":0\x7d") = .ok [("k", .number (.integer 0))] :=
    readPayload_eq_ok_iff.2 ⟨_, Text.Utf8.toByteArray_encode _,
      objectText_succ_iff.2 ⟨[], _, [], by simp, none, none, .some none member (.none none)⟩⟩
  have empty : readPayload (Text.Utf8.encode "\x7b\x7d") = .ok [] :=
    readPayload_eq_ok_iff.2 ⟨_, Text.Utf8.toByteArray_encode _,
      objectText_succ_iff.2 ⟨[], [], [], by simp, none, none, .none none⟩⟩
  have invalid : ¬ [0xFF].toByteArray.IsValidUTF8 := by
    rw [Text.Utf8.isValidUTF8_iff]
    rintro ⟨s, hs⟩
    cases hs
  refine ⟨⟨_, bundle_of_some some rfl, ?_⟩, ⟨bundle_of_none empty rfl, ?_⟩, invalid, ?_⟩
  · exact (object_of_bundle "S" "k" _).1 _ (bundle_of_some some rfl)
  · obtain ⟨text, ms, hbytes, hspelled, -, -, hfield⟩ :=
      (object_of_bundle "S" "k" _).2.1 "S" "k" (bundle_of_none empty rfl)
    exact ⟨text, ms, hbytes, hspelled, hfield⟩
  · exact (object_of_bundle "S" "k" [0xFF]).2.2 invalid

end EnvSync.Secret
