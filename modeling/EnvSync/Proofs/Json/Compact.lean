/-
# The compact form

What the printer writes, said without the printer: no blanks, integers in decimal, and
the members of an object in strictly ascending order of their names, each with the
last of the values that the object has for it (`compact_render`).

Strict order and what is said of each name leave one list of members (`ascending_ext`),
so a value has one compact form, although `Compact` is a relation (`compact_unique`).
Numbers other than integers have none here: how they are written is a matter of their
own.
-/
import Mathlib.Data.List.Sort
import EnvSync.Json.Printer
import EnvSync.OrderedMap.Lemmas
import EnvSync.Proofs.Json.Values
import EnvSync.Proofs.OrderedMap

namespace EnvSync.Json

open OrderedMap (valueIn valueIn_cons valueIn_singleton valueIn_append valueIn_eq_none_iff)

/-! ## The form -/

def memberText (m : String × List Char) : List Char :=
  quote m.1 ++ ':' :: m.2

/-- Members in ascending order of the bytes of their names, none of which occurs twice. -/
def Ascending {α : Type} (ms : List (String × α)) : Prop :=
  ms.Pairwise fun m n => Text.Utf8.encode m.1 < Text.Utf8.encode n.1

mutual

/-- The compact form of a value. -/
inductive Compact : Json → List Char → Prop where
  | null : Compact .null ['n', 'u', 'l', 'l']
  | true : Compact (.bool true) ['t', 'r', 'u', 'e']
  | false : Compact (.bool false) ['f', 'a', 'l', 's', 'e']
  | integer {n : Number} {t : List Char} : IntegerText n t → Compact (.number n) t
  | string {s : String} : Compact (.string s) (quote s)
  | array {vs : List Json} {ts : List (List Char)} :
      CompactItems vs ts → Compact (.array vs) ('[' :: Text.join ',' ts ++ [']'])
  | object {ms : List (String × Json)} {es sorted : List (String × List Char)} :
      CompactMembers ms es → Ascending sorted →
      (∀ name, valueIn sorted name = valueIn es.reverse name) →
      Compact (.object ms) ('{' :: Text.join ',' (sorted.map memberText) ++ ['}'])

inductive CompactItems : List Json → List (List Char) → Prop where
  | nil : CompactItems [] []
  | cons {v : Json} {t : List Char} {vs : List Json} {ts : List (List Char)} :
      Compact v t → CompactItems vs ts → CompactItems (v :: vs) (t :: ts)

inductive CompactMembers : List (String × Json) → List (String × List Char) → Prop where
  | nil : CompactMembers [] []
  | cons {name : String} {v : Json} {t : List Char} {ms : List (String × Json)}
      {es : List (String × List Char)} :
      Compact v t → CompactMembers ms es → CompactMembers ((name, v) :: ms) ((name, t) :: es)

end

/-! ## Members in order -/

section Sorting

variable {α : Type}

theorem mem_placeMember {m x : String × α} {ms : List (String × α)} (h : x ∈ placeMember m ms) :
    x = m ∨ x ∈ ms := by
  induction ms with
  | nil =>
      rw [placeMember, List.mem_singleton] at h
      exact .inl h
  | cons n ns ih =>
      rw [placeMember] at h
      split at h
      · exact List.mem_cons.1 h
      · split at h
        · rcases List.mem_cons.1 h with h | h
          · exact .inl h
          · exact .inr (List.mem_cons_of_mem n h)
        · rcases List.mem_cons.1 h with h | h
          · exact .inr (h ▸ List.mem_cons_self)
          · rcases ih h with h | h
            · exact .inl h
            · exact .inr (List.mem_cons_of_mem n h)

theorem ascending_iff {ms : List (String × α)} :
    Ascending ms ↔ ms.Pairwise fun m n => m.1 < n.1 := by
  simp only [Ascending, Text.Utf8.encode_lt_iff]

theorem ascending_ext {ms ns : List (String × α)} (hm : Ascending ms) (hn : Ascending ns)
    (h : ∀ name, valueIn ms name = valueIn ns name) : ms = ns := by
  have hms : (ms.map Prod.fst).Pairwise (· < ·) := List.pairwise_map.2 (ascending_iff.1 hm)
  have hns : (ns.map Prod.fst).Pairwise (· < ·) := List.pairwise_map.2 (ascending_iff.1 hn)
  have hmem : ∀ name, name ∈ ms.map Prod.fst ↔ name ∈ ns.map Prod.fst := by
    intro name
    rw [← not_iff_not, ← valueIn_eq_none_iff, ← valueIn_eq_none_iff, h]
  have hkeys : ms.map Prod.fst = ns.map Prod.fst := hms.eq_of_mem_iff hns hmem
  exact OrderedMap.entries_ext hms.nodup hkeys h

theorem ascending_placeMember (m : String × α) {ms : List (String × α)} (h : Ascending ms) :
    Ascending (placeMember m ms) := by
  rw [ascending_iff] at h ⊢
  induction ms with
  | nil => exact List.pairwise_singleton _ m
  | cons n ns ih =>
      obtain ⟨hn, hns⟩ := List.pairwise_cons.1 h
      rw [placeMember]
      split
      · next hlt =>
        refine List.pairwise_cons.2 ⟨?_, h⟩
        intro x hx
        rcases List.mem_cons.1 hx with rfl | hx
        · exact hlt
        · exact String.lt_trans hlt (hn x hx)
      · next hge =>
        split
        · next he =>
          refine List.pairwise_cons.2 ⟨?_, hns⟩
          intro x hx
          rw [he]
          exact hn x hx
        · next hne =>
          refine List.pairwise_cons.2 ⟨?_, ih hns⟩
          intro x hx
          rcases mem_placeMember hx with rfl | hx
          · exact Std.lt_of_le_of_ne (String.not_lt.1 hge) (Ne.symm hne)
          · exact hn x hx

theorem valueIn_placeMember (m : String × α) (ms : List (String × α)) (name : String) :
    valueIn (placeMember m ms) name = if m.1 = name then some m.2 else valueIn ms name := by
  induction ms with
  | nil => rw [placeMember, valueIn_cons]
  | cons n ns ih =>
      rw [placeMember]
      split
      · rw [valueIn_cons]
      · split
        · next he =>
          rw [valueIn_cons, valueIn_cons, ← he]
          split <;> rfl
        · next hne =>
          rw [valueIn_cons, valueIn_cons, ih]
          by_cases hn : n.1 = name
          · have hm : ¬ m.1 = name := fun hm => hne (hm.trans hn.symm)
            rw [if_pos hn, if_neg hm, if_pos hn]
          · rw [if_neg hn, if_neg hn]

theorem foldl_placeMember (ms sorted : List (String × α)) (h : Ascending sorted) :
    Ascending (ms.foldl (fun sorted m => placeMember m sorted) sorted) ∧
      ∀ name, valueIn (ms.foldl (fun sorted m => placeMember m sorted) sorted) name =
        (valueIn ms.reverse name).or (valueIn sorted name) := by
  induction ms generalizing sorted with
  | nil => exact ⟨h, fun _ => rfl⟩
  | cons m ms ih =>
      obtain ⟨hsorted, hvalue⟩ := ih (placeMember m sorted) (ascending_placeMember m h)
      refine ⟨hsorted, ?_⟩
      intro name
      rw [List.foldl_cons, hvalue, valueIn_placeMember, List.reverse_cons, valueIn_append,
        valueIn_singleton, Option.or_assoc]
      split <;> rfl

theorem ascending_sortMembers (ms : List (String × α)) : Ascending (sortMembers ms) :=
  (foldl_placeMember ms [] List.Pairwise.nil).1

theorem valueIn_sortMembers (ms : List (String × α)) (name : String) :
    valueIn (sortMembers ms) name = valueIn ms.reverse name := by
  have h := (foldl_placeMember ms [] List.Pairwise.nil).2 name
  rwa [show valueIn ([] : List (String × α)) name = none from rfl, Option.or_none] at h

end Sorting

/-! ## One form for each value -/

theorem integerText_unique {n : Number} {t t' : List Char} (h : IntegerText n t)
    (h' : IntegerText n t') : t = t' := by
  cases h
  cases h'
  rfl

mutual

theorem compact_unique : ∀ {v : Json} {t t' : List Char}, Compact v t → Compact v t' → t = t'
  | .null, _, _, .null, .null => rfl
  | .bool _, _, _, .true, .true => rfl
  | .bool _, _, _, .false, .false => rfl
  | .number _, _, _, .integer h, .integer h' => integerText_unique h h'
  | .string _, _, _, .string, .string => rfl
  | .array _, _, _, .array h, .array h' => by rw [compactItems_unique h h']
  | .object _, _, _, .object h hsorted hvalue, .object h' hsorted' hvalue' => by
      rw [ascending_ext hsorted hsorted']
      intro name
      rw [hvalue, hvalue', compactMembers_unique h h']

theorem compactItems_unique : ∀ {vs : List Json} {ts ts' : List (List Char)},
    CompactItems vs ts → CompactItems vs ts' → ts = ts'
  | [], _, _, .nil, .nil => rfl
  | _ :: _, _, _, .cons h hs, .cons h' hs' => by
      rw [compact_unique h h', compactItems_unique hs hs']

theorem compactMembers_unique : ∀ {ms : List (String × Json)} {es es' : List (String × List Char)},
    CompactMembers ms es → CompactMembers ms es' → es = es'
  | [], _, _, .nil, .nil => rfl
  | _ :: _, _, _, .cons h hs, .cons h' hs' => by
      rw [compact_unique h h', compactMembers_unique hs hs']

end

/-! ## The printer -/

theorem compactItems_render {vs : List Json} (h : ∀ v ∈ vs, Compact v v.render) :
    CompactItems vs (renderItems vs) := by
  induction vs with
  | nil => exact .nil
  | cons v vs ih =>
      refine .cons (h v List.mem_cons_self) (ih ?_)
      intro u hu
      exact h u (List.mem_cons_of_mem v hu)

theorem compactMembers_render {ms : List (String × Json)} (h : ∀ m ∈ ms, Compact m.2 m.2.render) :
    CompactMembers ms (renderMembers ms) := by
  induction ms with
  | nil => exact .nil
  | cons m ms ih =>
      refine .cons (h m List.mem_cons_self) (ih ?_)
      intro n hn
      exact h n (List.mem_cons_of_mem m hn)

theorem render_of_integerText {n : Number} {t : List Char} (h : IntegerText n t) :
    n.render = t := by
  cases h with
  | mk _ _ => rw [Number.render, integerText, toList_toString]

theorem compact_render_of_scalar {v : Json} {t : List Char} (h : ScalarText IntegerText v t) :
    Compact v v.render := by
  cases h with
  | null => exact .null
  | true => exact .true
  | false => exact .false
  | @number n t h =>
      rw [show render (.number n) = t from render_of_integerText h]
      exact .integer h
  | string _ => exact .string

/-- The printer writes a value without other numbers than integers in its compact form. -/
theorem compact_render {depth : Nat} {v : Json} {t : List Char}
    (h : ValueText IntegerText depth v t) : Compact v v.render := by
  induction depth generalizing v t with
  | zero => exact compact_render_of_scalar h
  | succ depth ih =>
      cases h with
      | scalar h => exact compact_render_of_scalar h
      | array h => exact .array (compactItems_render (h.forall_mem fun _ _ hv => ih hv))
      | @object ms _ h =>
          have hms : ∀ m ∈ ms, Compact m.2 m.2.render := by
            refine h.forall_mem ?_
            intro m t hm
            obtain ⟨_, _, _, hv⟩ := hm
            exact ih hv
          exact .object (compactMembers_render hms) (ascending_sortMembers _)
            (valueIn_sortMembers _)

end EnvSync.Json
