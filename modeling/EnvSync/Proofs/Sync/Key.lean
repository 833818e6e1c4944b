/-
# The key arrives as it was

A key has line breaks, and a payload holds each of them either as it is or as backslash and
`n`.  Which of the spellings it was can be told neither from the bundle (`bundle_of_stored`)
nor from the file, and what is loaded after a run is the key itself (`key_of_run`).

The spellings are not told apart by counting backslashes: a key may have one in front of a line
break, and stored that is two backslashes and an `n`.  The scan for the pair leaves the first
of them alone because the second is no `n`, and a second one that belongs to the key is never
followed by an `n`, since the key lacks the pair (`expandNewlines_of_stored`).
-/
import EnvSync.Proofs.Secret.Bundle
import EnvSync.Proofs.Sync.Reread

namespace EnvSync.Secret

open OrderedMap (valueIn valueIn_append valueIn_cons valueIn_eq_none_iff)

/-! ## Spellings of a key -/

/-- The second text is the first one with some line breaks, or none, or all, written as backslash
and `n`. -/
inductive Stored : List Char → List Char → Prop where
  | nil : Stored [] []
  | same {t u : List Char} (c : Char) : Stored t u → Stored (c :: t) (c :: u)
  | escaped {t u : List Char} : Stored t u → Stored ('\n' :: t) ('\\' :: 'n' :: u)

/-- What a key must not have in it: carriage returns, double quotes, anything that reads as an
escape, a backslash at the end. -/
structure KeyText (t : List Char) : Prop extends Dotenv.Settled t where
  no_quote : '"' ∉ t
  last : t.getLast? ≠ some '\\'

instance (t : List Char) : Decidable (KeyText t) :=
  decidable_of_iff (Dotenv.Settled t ∧ '"' ∉ t ∧ t.getLast? ≠ some '\\')
    ⟨fun h => ⟨h.1, h.2.1, h.2.2⟩, fun h => ⟨h.toSettled, h.no_quote, h.last⟩⟩

variable {t u : List Char}

/-- No spelling begins with an `n` that was not there. -/
theorem Stored.head?_ne {c : Char} (h : Stored t u) (hc : c ≠ '\\') (ht : t.head? ≠ some c) :
    u.head? ≠ some c := by
  cases h with
  | nil => exact ht
  | same d _ => exact ht
  | escaped _ =>
      intro he
      exact hc (Option.some.inj he).symm

theorem expandNewlines_cons {c : Char} (h : c = '\\' → u.head? ≠ some 'n') :
    Text.expandNewlines (c :: u) = c :: Text.expandNewlines u := by
  cases u with
  | nil => rfl
  | cons d u =>
      refine if_neg ?_
      rintro ⟨hc, rfl⟩
      exact h hc rfl

theorem expandNewlines_of_stored (h : Stored t u) (ht : ¬ ['\\', 'n'] <:+: t) :
    Text.expandNewlines u = t := by
  induction h with
  | nil => rfl
  | @same t u c h ih =>
      have hhead : c = '\\' → u.head? ≠ some 'n' := by
        rintro rfl
        refine h.head?_ne (by decide) ?_
        intro hn
        obtain ⟨t', rfl⟩ := List.head?_eq_some_iff.1 hn
        exact ht ⟨[], t', rfl⟩
      rw [expandNewlines_cons hhead, ih fun hi => ht (hi.trans (List.suffix_cons c t).isInfix)]
  | @escaped t u _ ih =>
      have hrest := ih fun hi => ht (hi.trans (List.suffix_cons '\n' t).isInfix)
      exact (Text.replacePair_pair _ _ _ u).trans (congrArg ('\n' :: ·) hrest)

theorem restoreNewlines_of_stored {key stored : String} (h : Stored key.toList stored.toList)
    (hkey : KeyText key.toList) : restoreNewlines stored = key := by
  rw [restoreNewlines, expandNewlines_of_stored h hkey.no_newline_escape, String.ofList_toList]

/-! ## The bundle with a key in it -/

variable {before after : List (String × Json)} {field key stored : String}

theorem map_fst_around (field : String) (v w : Json) :
    (before ++ (field, v) :: after).map Prod.fst =
      (before ++ (field, w) :: after).map Prod.fst := by
  rw [List.map_append, List.map_append, List.map_cons, List.map_cons]

theorem valueIn_reverse_around {v : Json} {name : String} (h : field ∉ after.map Prod.fst) :
    valueIn (before ++ (field, v) :: after).reverse name =
      if field = name then some v else valueIn (before ++ after).reverse name := by
  have hafter : valueIn after.reverse field = none := valueIn_reverse_eq_none_iff.2 h
  simp only [List.reverse_append, List.reverse_cons, valueIn_append]
  by_cases hname : field = name
  · subst hname
    rw [if_pos rfl, hafter, valueIn_cons, if_pos rfl]
    rfl
  · rw [if_neg hname, valueIn_cons, if_neg hname]
    cases valueIn after.reverse name <;> rfl

theorem settings_insert_around (h : field ∉ after.map Prod.fst) (v : Json) (s : String) :
    (settings (before ++ (field, v) :: after)).insert field s =
      settings (before ++ (field, .string s) :: after) := by
  have hfield : valueIn (before ++ (field, v) :: after).reverse field = some v := by
    rw [valueIn_reverse_around h, if_pos rfl]
  refine OrderedMap.ext_keys_get? ?_ fun name => ?_
  · rw [keys_of_bundle_of_some hfield, keys_settings, map_fst_around]
  · rw [OrderedMap.get?_insert, get?_settings, get?_settings, valueIn_reverse_around h,
      valueIn_reverse_around h]
    split <;> rfl

theorem bundle_of_stored {payload : List UInt8}
    (read : readPayload payload = .ok (before ++ (field, .string stored) :: after))
    (distinct : ((before ++ (field, Json.string stored) :: after).map Prod.fst).Nodup)
    (hkey : KeyText key.toList) (spelling : Stored key.toList stored.toList) (secret : String) :
    bundle secret field payload = .ok (settings (before ++ (field, .string key) :: after)) := by
  have hafter : field ∉ after.map Prod.fst := by
    rw [List.map_append, List.map_cons, List.nodup_append] at distinct
    exact (List.nodup_cons.1 distinct.2.1).1
  have hfield : valueIn (before ++ (field, .string stored) :: after).reverse field =
      some (.string stored) := by
    rw [valueIn_reverse_around hafter, if_pos rfl]
  rw [bundle_of_some read hfield, settingText, restoreNewlines_of_stored spelling hkey,
    settings_insert_around hafter]

theorem entries_settings {ms : List (String × Json)} (h : (ms.map Prod.fst).Nodup) :
    (settings ms).entries = ms.map fun m => (m.1, settingText m.2) := by
  refine OrderedMap.entries_insertAll (m := .empty) ?_
  rw [← map_fst_settings] at h
  exact h

end EnvSync.Secret

namespace EnvSync.Sync

open Dotenv (Escaped IsName)
open Json (NumberText ObjectText maxDepth)
open Secret (KeyText Stored settings settingText)

/-! ## The file with the key in it -/

variable {b : Backend} {o : Options} {t : FileTree} {payload : List UInt8} {r : Report}
  {before after : List (String × Json)} {key stored : String}

/-- Of the spelling of the key nothing is left in the file, and the key is loaded as it was.
The other values may be anything that can be written without hiding where they end. -/
theorem key_of_run {text : String}
    (spelled : ObjectText NumberText maxDepth
      (before ++ (o.keyField, .string stored) :: after) text.toList)
    (bytes : payload.toByteArray = text.toUTF8)
    (distinct : ((before ++ (o.keyField, Json.string stored) :: after).map Prod.fst).Nodup)
    (field : IsName o.keyField.toList) (names : ∀ m ∈ before ++ after, IsName m.1.toList)
    (escaped : ∀ m ∈ before ++ after, Escaped '"' (settingText m.2).toList)
    (last : ∀ m ∈ before ++ after, (settingText m.2).toList.getLast? ≠ some '\\')
    (hkey : KeyText key.toList) (spelling : Stored key.toList stored.toList)
    (fetched : (b.reply o.secret).payload = .ok payload)
    (absent : t.lookUp o.envFile = .error .notFound)
    (device : ∀ d, t.entry? (t.destination o.envFile) ≠ some (.device d))
    (real : o.dryRun = false) (success : (run b o t).result = .ok r) :
    (run b o t).tree.lookUp o.envFile = .ok (.file (Text.Utf8.encode
      (Dotenv.render (settings (before ++ (o.keyField, .string key) :: after)))) 0o600) ∧
    ∃ m, Dotenv.load (run b o t).tree o.envFile = .ok m ∧ m.get? o.keyField = some key := by
  have read := Secret.readPayload_eq_ok_iff.2 ⟨text, bytes, spelled⟩
  have hs : bundleOf b o = .ok (settings (before ++ (o.keyField, .string key) :: after)) :=
    bundleOf_of_payload fetched (Secret.bundle_of_stored read distinct hkey spelling _)
  have hempty (s : Settings) : OrderedMap.empty.merge s = s := OrderedMap.ofList_entries s
  obtain ⟨-, hfile⟩ := lookUp_of_run (.absent absent device) real hs success
  rw [hempty] at hfile
  have hentries := Secret.entries_settings
    (Secret.map_fst_around o.keyField (.string stored) (.string key) ▸ distinct)
  -- What holds of the key and of the other values holds of all settings.
  have hall : ∀ p : String × String → Prop, p (o.keyField, key) →
      (∀ m ∈ before ++ after, p (m.1, settingText m.2)) →
      ∀ e ∈ (settings (before ++ (o.keyField, .string key) :: after)).entries, p e := by
    intro p hp hothers e he
    rw [hentries] at he
    obtain ⟨m, hm, rfl⟩ := List.mem_map.1 he
    rcases List.mem_append.1 hm with hm | hm
    · exact hothers m (List.mem_append_left after hm)
    · rcases List.mem_cons.1 hm with rfl | hm
      · exact hp
      · exact hothers m (List.mem_append_right before hm)
  have hnamed : Dotenv.Named (settings (before ++ (o.keyField, .string key) :: after)) := by
    intro k hk
    obtain ⟨e, he, rfl⟩ := List.mem_map.1 hk
    exact hall (fun e => IsName e.1.toList) field names e he
  have hparse := Dotenv.parse_render_eq_mapValues hnamed
    (hall (fun e => Escaped '"' e.2.toList) (escaped_of_notMem hkey.no_quote) escaped)
    (Dotenv.isChain_keeps (hall (fun e => e.2.toList.getLast? ≠ some '\\') hkey.last last))
  have hload := Dotenv.load_of_lookUp hfile
  rw [hparse] at hload
  refine ⟨hfile, _, hload, ?_⟩
  have hget : (settings (before ++ (o.keyField, .string key) :: after)).get? o.keyField =
      some key := by
    rw [OrderedMap.get?_eq_some_iff, hentries]
    exact List.mem_map.2 ⟨_, List.mem_append_right before List.mem_cons_self, rfl⟩
  rw [OrderedMap.get?_mapValues, hget, Option.map_some,
    Dotenv.reread_eq_self_iff.2 hkey.toSettled]

/-- A key with two line breaks, the first behind a backslash and stored as an escape, between a
value with a carriage return and one that is no string. -/
theorem key_of_run_of_two_breaks :
    let payload := Text.Utf8.encode
      "\x7b\"A\":\"x\\ry\",\"K\":\"a\\\\\\\\nb\\nc\",\"P\":true\x7d"
    let o : Options := ⟨Secret.Id.default, ".env", "K", false⟩
    let b := Backend.fixed "b" (.ok payload)
    let t' := (run b o Dotenv.vacant).tree
    Secret.readPayload payload =
        .ok [("A", .string "x\ry"), ("K", .string "a\\\\nb\nc"), ("P", .bool true)] ∧
      (∃ r, (run b o Dotenv.vacant).result = .ok r) ∧
      t'.lookUp ".env" =
        .ok (.file (Text.Utf8.encode "A=\"x\ry\"\nK=\"a\\\nb\nc\"\nP=\"true\"") 0o600) ∧
      ∃ m, Dotenv.load t' ".env" = .ok m ∧ m.get? "K" = some "a\\\nb\nc" := by
  intro payload o b t'
  have read : Secret.readPayload (Text.Utf8.encode
      "\x7b\"A\":\"x\\ry\",\"K\":\"a\\\\\\\\nb\\nc\",\"P\":true\x7d") =
      .ok ([("A", .string "x\ry")] ++ ("K", .string "a\\\\nb\nc") :: [("P", .bool true)]) := by
    cbv
  obtain ⟨text, bytes, spelled⟩ := Secret.readPayload_eq_ok_iff.1 read
  have spelling : Stored "a\\\nb\nc".toList "a\\\\nb\nc".toList :=
    .same 'a' (.same '\\' (.escaped (.same 'b' (.same '\n' (.same 'c' .nil)))))
  have hkey : KeyText "a\\\nb\nc".toList := by decide
  have hs : bundleOf b o = .ok _ := bundleOf_of_payload rfl
    (Secret.bundle_of_stored read (by decide) hkey spelling _)
  obtain ⟨success, -⟩ := run_vacant (o := o) rfl rfl hs
  obtain ⟨hfile, hload⟩ := key_of_run (o := o) spelled bytes (by decide) (by decide) (by decide)
    (by decide) (by decide) hkey spelling rfl Dotenv.lookUp_vacant Dotenv.not_device_vacant rfl
    success
  exact ⟨read, ⟨_, success⟩, hfile, hload⟩

end EnvSync.Sync
