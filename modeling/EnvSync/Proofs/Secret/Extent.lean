/-
# Where a payload ends

A payload that was cut short, or that goes on behind its end, is never taken for a bundle, and
not for an object that lacks a field either: it is no UTF-8 or no JSON
(`unreadable_of_append`, `unreadable_append`).

What carries this is that the text of an object shows where it ends.  Behind the brace that
closes a list the reader leaves alone what follows.  So of two texts of objects, one of which
begins with the other, the longer one goes on with blanks and nothing else
(`blanks_of_objectText_append`).  That leaves no room for a text that is read as something
other than an object: whatever is cut off, or put behind, the first character that is not
blank is an opening brace.

Bytes come in only at the end.  A cut inside a character leaves no UTF-8, and every other cut
of the bytes is a cut of the text.
-/
import EnvSync.Proofs.Secret.Bundle
import Mathlib

namespace EnvSync.Json

variable {number : Number → List Char → Prop} {depth : Nat} {ms ms' : List (String × Json)}
  {s t : List Char}

/-! ## The end of an object -/

theorem ObjectText.append_blanks (h : ObjectText number depth ms s) (ht : Blanks t) :
    ObjectText number depth ms (s ++ t) := by
  obtain ⟨hw, hv, hw'⟩ := h
  rw [List.append_assoc, List.append_assoc]
  refine .mk hw hv fun c hc => ?_
  rcases List.mem_append.1 hc with hc | hc
  · exact hw' c hc
  · exact ht c hc

theorem ObjectText.skipBlanks_append (h : ObjectText number (depth + 1) ms s) (t : List Char) :
    ∃ r, skipBlanks (s ++ t) = '{' :: r := by
  obtain ⟨w, u, v, rfl, hw, -, -⟩ := objectText_succ_iff.1 h
  refine ⟨u ++ '}' :: v ++ t, ?_⟩
  rw [List.append_assoc, List.cons_append]
  exact Json.skipBlanks_append hw (stops_of_cons _ rfl)

/-- Of two texts of objects, one of which begins with the other, the longer one goes on with
blanks. -/
theorem blanks_of_objectText_append (h : ObjectText NumberText (depth + 1) ms s)
    (h' : ObjectText NumberText (depth + 1) ms' (s ++ t)) : Blanks t := by
  obtain ⟨w, u, v, rfl, hw, hv, hu⟩ := objectText_succ_iff.1 h
  obtain ⟨w', u', v', heq, hw', hv', hu'⟩ := objectText_succ_iff.1 h'
  have hmembers := (reads_value depth).takeMember
  have hassoc : w ++ '{' :: (u ++ '}' :: v) ++ t = w ++ '{' :: (u ++ '}' :: (v ++ t)) := by
    simp only [List.append_assoc, List.cons_append]
  -- Both lists begin behind the same brace, so the reader finds the same rest behind both.
  have hskip : skipBlanks (w ++ '{' :: (u ++ '}' :: (v ++ t))) = '{' :: (u ++ '}' :: (v ++ t)) :=
    skipBlanks_append hw (stops_of_cons _ rfl)
  have hskip' : skipBlanks (w' ++ '{' :: (u' ++ '}' :: v')) = '{' :: (u' ++ '}' :: v') :=
    skipBlanks_append hw' (stops_of_cons _ rfl)
  rw [← hassoc, heq, hskip'] at hskip
  have hlist : u' ++ '}' :: v' = u ++ '}' :: (v ++ t) := (List.cons.inj hskip).2
  have htake := hmembers.takeList_append (.inr rfl) hu (v ++ t)
  rw [← hlist, hmembers.takeList_append (.inr rfl) hu' v'] at htake
  obtain ⟨-, rfl⟩ := Prod.mk.inj (Option.some.inj htake)
  intro c hc
  exact hv' c (List.mem_append_right v hc)

/-! ## Reading a part of an object, and more than one -/

/-- What begins with an opening brace, if with anything, is an object or malformed. -/
theorem readObject_eq_malformed {text : String}
    (opens : ∀ c, (skipBlanks text.toList).head? = some c → c = '{')
    (h : ∀ ms, readObject text ≠ .ok ms) : readObject text = .error .malformed := by
  unfold readObject at h ⊢
  split
  · next r hr =>
    rw [hr] at h
    cases hm : takeMembers r with
    | none => rfl
    | some ms => exact absurd (by simp only [hm]) (h ms)
  · next r hr => exact absurd (opens '[' (by rw [hr]; rfl)) (by decide)
  · next hbrace _ =>
    cases hs : skipBlanks text.toList with
    | nil => rfl
    | cons c r =>
        obtain rfl := opens c (by rw [hs]; rfl)
        exact absurd hs (hbrace r)

theorem readObject_of_append {s v : String} (h : readObject (s ++ v) = .ok ms) :
    Blanks v.toList ∨ readObject s = .error .malformed := by
  rw [readObject_eq_ok_iff, String.toList_append] at h
  by_cases hs : ∃ ms', readObject s = .ok ms'
  · obtain ⟨ms', hs⟩ := hs
    exact .inl (blanks_of_objectText_append (readObject_eq_ok_iff.1 hs) h)
  · refine .inr (readObject_eq_malformed ?_ fun ms' hms => hs ⟨ms', hms⟩)
    intro c hc
    obtain ⟨r, hr⟩ := h.skipBlanks_append []
    obtain ⟨w, hw, hblanks⟩ := exists_skipBlanks s.toList
    obtain ⟨u, hu⟩ := List.head?_eq_some_iff.1 hc
    have hstops : Text.Stops isBlank (c :: (u ++ v.toList)) := by
      refine stops_of_cons _ ?_
      exact Text.stops_dropWhile isBlank s.toList c hc
    rw [List.append_nil, hw, hu, List.append_assoc, List.cons_append,
      skipBlanks_append hblanks hstops] at hr
    exact (List.cons.inj hr).1

theorem readObject_append_blanks {s v : String} (h : readObject s = .ok ms)
    (hv : Blanks v.toList) : readObject (s ++ v) = .ok ms := by
  rw [readObject_eq_ok_iff, String.toList_append]
  exact (readObject_eq_ok_iff.1 h).append_blanks hv

theorem readObject_append_of_not_blanks {s v : String} (h : readObject s = .ok ms)
    (hv : ¬ Blanks v.toList) : readObject (s ++ v) = .error .malformed := by
  rw [readObject_eq_ok_iff] at h
  refine readObject_eq_malformed ?_ fun ms' hms => hv ?_
  · intro c hc
    obtain ⟨r, hr⟩ := h.skipBlanks_append v.toList
    rw [String.toList_append, hr] at hc
    exact (Option.some.inj hc).symm
  · rw [readObject_eq_ok_iff, String.toList_append] at hms
    exact blanks_of_objectText_append h hms

end EnvSync.Json

namespace EnvSync.Secret

open Json (Blanks readObject)

/-! ## Blanks as bytes -/

/-- The bytes of the blanks of JSON: space, tab, LF and CR. -/
def isBlankByte (b : UInt8) : Bool :=
  b = 0x20 || b = 0x09 || b = 0x0A || b = 0x0D

def BlankBytes (w : List UInt8) : Prop :=
  ∀ b ∈ w, isBlankByte b = true

instance (w : List UInt8) : Decidable (BlankBytes w) :=
  List.decidableBAll _ w

/-- A payload up to its last byte that is no blank. -/
def withoutEndBlanks (payload : List UInt8) : List UInt8 :=
  payload.rdropWhile isBlankByte

theorem blankBytes_encode {v : String} (h : Blanks v.toList) : BlankBytes (Text.Utf8.encode v) := by
  intro b hb
  obtain ⟨c, hc, hcb⟩ := List.mem_flatMap.1 hb
  rcases h c hc with rfl | rfl | rfl | rfl <;>
    (obtain rfl := List.mem_singleton.1 hcb; rfl)

theorem exists_of_blankBytes {w : List UInt8} (h : BlankBytes w) :
    ∃ v : String, w = Text.Utf8.encode v ∧ Blanks v.toList := by
  induction w with
  | nil => exact ⟨"", rfl, Json.blanks_nil⟩
  | cons b w ih =>
      obtain ⟨v, rfl, hv⟩ := ih fun b' hb' => h b' (List.mem_cons_of_mem b hb')
      have hb : b = 0x20 ∨ b = 0x09 ∨ b = 0x0A ∨ b = 0x0D := by
        simpa [isBlankByte, or_assoc] using h b List.mem_cons_self
      obtain ⟨c, hc, hbc⟩ : ∃ c, Blanks [c] ∧ [b] = Text.Utf8.encode (.ofList [c]) := by
        rcases hb with rfl | rfl | rfl | rfl
        · exact ⟨' ', by simp [Json.Blanks], rfl⟩
        · exact ⟨'\t', by simp [Json.Blanks], rfl⟩
        · exact ⟨'\n', by simp [Json.Blanks], rfl⟩
        · exact ⟨'\r', by simp [Json.Blanks], rfl⟩
      refine ⟨.ofList [c] ++ v, ?_, ?_⟩
      · rw [Text.Utf8.encode_append, ← hbc]
        rfl
      · rw [String.toList_append, String.toList_ofList]
        intro c' hc'
        rcases List.mem_append.1 hc' with hc' | hc'
        · exact hc c' hc'
        · exact hv c' hc'

/-! ## Payloads -/

variable {secret field : String} {payload : List UInt8} {ms : List (String × Json)}

/-- The payload is not taken for JSON at all. -/
def Unreadable (secret field : String) (payload : List UInt8) : Prop :=
  (∃ fault, bundle secret field payload = .error ⟨secret, .notUtf8 fault⟩) ∨
    bundle secret field payload = .error ⟨secret, .notJson⟩

theorem readPayload_encode (s : String) : readPayload (Text.Utf8.encode s) =
    match readObject s with
    | .error .malformed => .error .notJson
    | .error .notObject => .error .notObject
    | .ok ms => .ok ms := by
  split
  all_goals
    next h => simp only [readPayload, Text.Utf8.decode_encode, h]

theorem exists_of_readPayload (h : readPayload payload = .ok ms) :
    ∃ s, payload = Text.Utf8.encode s ∧ readObject s = .ok ms := by
  obtain ⟨s, hs, hobject⟩ := readPayload_eq_ok_iff.1 h
  exact ⟨s, Text.Utf8.toByteArray_eq_iff.1 hs, Json.readObject_eq_ok_iff.2 hobject⟩

/-- What is no UTF-8 is unreadable, so only texts are left to be looked at. -/
theorem unreadable_of_texts (h : ∀ s, payload = Text.Utf8.encode s →
    readObject s = .error .malformed) : Unreadable secret field payload := by
  cases hd : Text.Utf8.decode payload with
  | error fault =>
      refine .inl ⟨fault, bundle_of_error ?_⟩
      rw [readPayload, hd]
  | ok s =>
      obtain rfl := Text.Utf8.encode_of_decode hd
      refine .inr (bundle_of_error ?_)
      rw [readPayload_encode, h s rfl]

theorem unreadable_of_append {cut rest : List UInt8} (h : readPayload (cut ++ rest) = .ok ms)
    (hrest : ¬ BlankBytes rest) : Unreadable secret field cut := by
  obtain ⟨u, hu, hread⟩ := exists_of_readPayload h
  refine unreadable_of_texts ?_
  rintro s rfl
  obtain ⟨v, rfl, rfl⟩ := Text.Utf8.exists_of_encode_append hu
  rcases Json.readObject_of_append hread with hv | hs
  · exact absurd (blankBytes_encode hv) hrest
  · exact hs

theorem unreadable_append {x : List UInt8} (h : readPayload payload = .ok ms)
    (hx : ¬ BlankBytes x) : Unreadable secret field (payload ++ x) := by
  obtain ⟨s, rfl, hread⟩ := exists_of_readPayload h
  refine unreadable_of_texts ?_
  intro u hu
  obtain ⟨v, rfl, rfl⟩ := Text.Utf8.exists_of_encode_append hu
  exact Json.readObject_append_of_not_blanks hread fun hv => hx (blankBytes_encode hv)

theorem readPayload_append {w : List UInt8} (h : readPayload payload = .ok ms)
    (hw : BlankBytes w) : readPayload (payload ++ w) = .ok ms := by
  obtain ⟨s, rfl, hread⟩ := exists_of_readPayload h
  obtain ⟨v, rfl, hv⟩ := exists_of_blankBytes hw
  rw [← Text.Utf8.encode_append, readPayload_encode, Json.readObject_append_blanks hread hv]

/-- More than blanks has been cut off where the cut is in front of the last byte that is no
blank. -/
theorem not_blankBytes_of_cut {cut rest : List UInt8} (h : cut <+: withoutEndBlanks payload)
    (hne : cut ≠ withoutEndBlanks payload) (hrest : cut ++ rest = payload) : ¬ BlankBytes rest := by
  obtain ⟨c, hc⟩ := h
  have hc0 : c ≠ [] := by
    rintro rfl
    rw [List.append_nil] at hc
    exact hne hc
  have hwhole : withoutEndBlanks payload ≠ [] := by
    rw [← hc]
    exact List.append_ne_nil_of_right_ne_nil cut hc0
  have hlast := List.rdropWhile_last_not isBlankByte payload hwhole
  obtain ⟨w, hw⟩ := List.rdropWhile_prefix isBlankByte payload
  have hcw : rest = c ++ w := by
    have : cut ++ rest = cut ++ (c ++ w) := by
      rw [hrest, ← List.append_assoc, hc]
      exact hw.symm
    exact List.append_cancel_left this
  intro hblank
  refine hlast (hblank _ ?_)
  rw [hcw]
  refine List.mem_append_left w ?_
  have hget : (withoutEndBlanks payload).getLast hwhole = c.getLast hc0 := by
    simp only [← hc, List.getLast_append_of_ne_nil _ hc0]
  exact hget ▸ List.getLast_mem hc0

/-- Of a payload that is not rejected as such, every beginning of what is in front of its end
blanks is unreadable; blanks behind it make no difference; and with anything else behind it
is unreadable. -/
theorem bundle_of_other_extent (accepted : (∃ b, bundle secret field payload = .ok b) ∨
      ∃ s f, bundle secret field payload = .error ⟨s, .missingField f⟩) :
    (∀ cut, cut <+: withoutEndBlanks payload → cut ≠ withoutEndBlanks payload →
      Unreadable secret field cut) ∧
    (∀ w, BlankBytes w → bundle secret field (payload ++ w) = bundle secret field payload) ∧
    (∀ x, ¬ BlankBytes x → Unreadable secret field (payload ++ x)) := by
  obtain ⟨ms, hread⟩ := exists_of_bundle accepted
  refine ⟨?_, ?_, ?_⟩
  · intro cut hcut hne
    obtain ⟨rest, hrest⟩ := hcut.trans (List.rdropWhile_prefix isBlankByte payload)
    refine unreadable_of_append (hrest.symm ▸ hread) ?_
    exact not_blankBytes_of_cut hcut hne hrest
  · intro w hw
    rw [bundle, bundle, decode, decode, readPayload_append hread hw, hread]
  · intro x hx
    exact unreadable_append hread hx

/-- A payload cut behind a brace that stands in a string, and cut inside a character, then with
blanks behind it and with one more brace. -/
theorem bundle_of_other_extent_of_inner_brace :
    let payload := Text.Utf8.encode "\x7b\"k\":\"\x7dé\"\x7d \n"
    (∃ b, bundle "S" "k" payload = .ok b) ∧ withoutEndBlanks payload = payload.take 11 ∧
      Unreadable "S" "k" (payload.take 7) ∧ Unreadable "S" "k" (payload.take 8) ∧
      bundle "S" "k" (payload ++ [0x0D, 0x20]) = bundle "S" "k" payload ∧
      Unreadable "S" "k" (payload ++ [0x7D]) := by
  have decoded : bundle "S" "k" (Text.Utf8.encode "\x7b\"k\":\"\x7dé\"\x7d \n") =
      .ok ⟨[("k", "\x7dé")], by decide⟩ := by cbv
  have whole : withoutEndBlanks (Text.Utf8.encode "\x7b\"k\":\"\x7dé\"\x7d \n") =
      (Text.Utf8.encode "\x7b\"k\":\"\x7dé\"\x7d \n").take 11 := by decide
  obtain ⟨cuts, blanks, others⟩ := bundle_of_other_extent (.inl ⟨_, decoded⟩)
  rw [whole] at cuts
  refine ⟨⟨_, decoded⟩, whole, cuts _ ?_ ?_, cuts _ ?_ ?_, blanks _ ?_, others _ ?_⟩
  · exact List.take_prefix_take_left (by decide)
  · decide
  · exact List.take_prefix_take_left (by decide)
  · decide
  · decide
  · decide

end EnvSync.Secret
