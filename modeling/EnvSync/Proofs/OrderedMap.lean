/-
# Ordered maps from lists

What a list of entries amounts to as a map, seen from the list: its keys are the keys
of the list, each where it first stands (`keys_ofList`), and a key has the value of
its last entry (`get?_ofList`).  So the entries of a map amount to the map itself
(`ofList_entries`).

Both views are proved of `insertAll`, where a map is there to begin with; the map made
from a list is the case in which it is empty.  So is the overlay of a map with another
a case, the one in which no key stands twice in the list: the old keys are in front
(`keys_merge`), and a value comes from the overlay if that has the key (`get?_merge`).

Places come from whichever map has a key first, values from whichever has it last.  That
the two never get into each other's way is what makes overlays an action (`merge_action`):
each law is an equation of maps, order included, and is proved for either view by itself.
-/
import EnvSync.OrderedMap.Lemmas

namespace EnvSync.OrderedMap

variable {α β : Type} [DecidableEq α]

/-! ## Keys -/

theorem insertAll_cons (m : OrderedMap α β) (e : α × β) (es : List (α × β)) :
    m.insertAll (e :: es) = (m.insert e.1 e.2).insertAll es := rfl

theorem keys_insertAll (m : OrderedMap α β) (es : List (α × β)) :
    (m.insertAll es).keys = m.keys ++ ((es.map Prod.fst).filter (· ∉ m.keys)).eraseDups := by
  induction es generalizing m with
  | nil => exact (List.append_nil m.keys).symm
  | cons e es ih =>
      rw [insertAll_cons, ih, keys_insert]
      by_cases h : e.1 ∈ m
      · have hk : e.1 ∈ m.keys := h
        rw [if_pos h, List.map_cons, List.filter_cons_of_neg (by simp [hk])]
      · have hk : e.1 ∉ m.keys := h
        have hf : (es.map Prod.fst).filter (· ∉ m.keys ++ [e.1]) =
            ((es.map Prod.fst).filter (· ∉ m.keys)).filter fun k => !k == e.1 := by
          rw [List.filter_filter]
          refine List.filter_congr fun k _ => ?_
          rw [Bool.eq_iff_iff]
          simp [and_comm]
        rw [if_neg h, List.map_cons, List.filter_cons_of_pos (by simp [hk]), List.eraseDups_cons,
          List.append_assoc, hf]
        rfl

theorem keys_ofList (es : List (α × β)) : (ofList es).keys = (es.map Prod.fst).eraseDups := by
  have h : (es.map Prod.fst).filter (· ∉ (empty : OrderedMap α β).keys) = es.map Prod.fst :=
    List.filter_eq_self.2 fun k _ => by simp
  rw [ofList, keys_insertAll, h, keys_empty, List.nil_append]

/-! ## Values -/

theorem valueIn_singleton (e : α × β) (k : α) :
    valueIn [e] k = if e.1 = k then some e.2 else none := by
  rw [valueIn_cons]
  rfl

theorem valueIn_append (es fs : List (α × β)) (k : α) :
    valueIn (es ++ fs) k = (valueIn es k).or (valueIn fs k) := by
  induction es with
  | nil => rfl
  | cons e es ih =>
      rw [List.cons_append, valueIn_cons, valueIn_cons, ih]
      split
      · rfl
      · rfl

theorem valueIn_map {γ : Type} (f : β → γ) (es : List (α × β)) (k : α) :
    valueIn (es.map fun e => (e.1, f e.2)) k = (valueIn es k).map f := by
  induction es with
  | nil => rfl
  | cons e es ih =>
      rw [List.map_cons, valueIn_cons, valueIn_cons, ih]
      split <;> rfl

theorem mem_of_valueIn {es : List (α × β)} {k : α} {v : β} (h : valueIn es k = some v) :
    (k, v) ∈ es := by
  induction es with
  | nil => cases h
  | cons e es ih =>
      rw [valueIn_cons] at h
      split at h
      · next hk =>
        cases h
        rw [← hk]
        exact List.mem_cons_self
      · exact List.mem_cons_of_mem e (ih h)

theorem get?_insertAll (m : OrderedMap α β) (es : List (α × β)) (k : α) :
    (m.insertAll es).get? k = (valueIn es.reverse k).or (m.get? k) := by
  induction es generalizing m with
  | nil => rfl
  | cons e es ih =>
      rw [insertAll_cons, ih, get?_insert, List.reverse_cons, valueIn_append, valueIn_singleton,
        Option.or_assoc]
      split
      · rfl
      · rfl

theorem get?_ofList (es : List (α × β)) (k : α) : (ofList es).get? k = valueIn es.reverse k := by
  rw [ofList, get?_insertAll, get?_empty, Option.or_none]

/-! ## Entries -/

theorem insertEntry_of_notMem {k : α} {es : List (α × β)} (v : β) (h : k ∉ es.map Prod.fst) :
    insertEntry k v es = es ++ [(k, v)] := by
  induction es with
  | nil => rfl
  | cons e es ih =>
      rw [List.map_cons, List.mem_cons, not_or] at h
      rw [insertEntry, if_neg (fun he => h.1 he.symm), ih h.2, List.cons_append]

theorem entries_insertAll {m : OrderedMap α β} {es : List (α × β)}
    (h : ((m.entries ++ es).map Prod.fst).Nodup) : (m.insertAll es).entries = m.entries ++ es := by
  induction es generalizing m with
  | nil => exact (List.append_nil m.entries).symm
  | cons e es ih =>
      have hk : e.1 ∉ m.entries.map Prod.fst := by
        intro hm
        rw [List.map_append, List.nodup_append] at h
        exact h.2.2 e.1 hm e.1 List.mem_cons_self rfl
      have he : (m.insert e.1 e.2).entries = m.entries ++ [e] := insertEntry_of_notMem e.2 hk
      have hassoc : m.entries ++ [e] ++ es = m.entries ++ e :: es := by
        rw [List.append_assoc, List.singleton_append]
      rw [insertAll_cons, ih (by rwa [he, hassoc]), he, hassoc]

omit [DecidableEq α] in
theorem ext_entries {m n : OrderedMap α β} (h : m.entries = n.entries) : m = n := by
  cases m
  cases n
  cases h
  rfl

theorem ofList_entries (m : OrderedMap α β) : ofList m.entries = m :=
  ext_entries (entries_insertAll (m := empty) m.keys_nodup)

theorem valueIn_eq_some_iff {es : List (α × β)} (hes : (es.map Prod.fst).Nodup) {k : α} {v : β} :
    valueIn es k = some v ↔ (k, v) ∈ es := by
  refine ⟨mem_of_valueIn, fun hmem => ?_⟩
  induction es with
  | nil => cases hmem
  | cons e es ih =>
      rw [List.map_cons, List.nodup_cons] at hes
      rw [valueIn_cons]
      rcases List.mem_cons.1 hmem with rfl | hmem
      · exact if_pos rfl
      · have hne : e.1 ≠ k := by
          rintro rfl
          exact hes.1 (List.mem_map.2 ⟨_, hmem, rfl⟩)
        rw [if_neg hne, ih hes.2 hmem]

theorem get?_eq_some_iff {m : OrderedMap α β} {k : α} {v : β} :
    m.get? k = some v ↔ (k, v) ∈ m.entries :=
  valueIn_eq_some_iff m.keys_nodup

theorem mem_of_get? {m : OrderedMap α β} {k : α} {v : β} (h : m.get? k = some v) : k ∈ m :=
  List.mem_map.2 ⟨_, get?_eq_some_iff.1 h, rfl⟩

theorem exists_get?_of_mem {m : OrderedMap α β} {k : α} (h : k ∈ m) : ∃ v, m.get? k = some v := by
  cases hv : m.get? k with
  | none => exact absurd h (get?_eq_none_iff.1 hv)
  | some v => exact ⟨v, rfl⟩

/-! ## Overlays -/

theorem eraseDups_of_nodup {ks : List α} (h : ks.Nodup) : ks.eraseDups = ks := by
  induction ks with
  | nil => rfl
  | cons k ks ih =>
      rw [List.nodup_cons] at h
      have hf : ks.filter (fun l => !l == k) = ks := by
        refine List.filter_eq_self.2 fun l hl => ?_
        have hne : l ≠ k := by
          rintro rfl
          exact h.1 hl
        simp [hne]
      rw [List.eraseDups_cons, hf, ih h.2]

/-- The keys of an overlaid map stay in front, and those that only the overlay has follow. -/
theorem keys_merge (m n : OrderedMap α β) :
    (m.merge n).keys = m.keys ++ n.keys.filter (· ∉ m) := by
  rw [merge, keys_insertAll, eraseDups_of_nodup (List.filter_sublist.nodup n.keys_nodup)]
  rfl

omit [DecidableEq α] in
theorem mem_congr {m m' : OrderedMap α β} (h : m.keys = m'.keys) (k : α) : k ∈ m ↔ k ∈ m' := by
  rw [mem_iff_mem_keys, mem_iff_mem_keys, h]

theorem keys_merge_congr {m m' n n' : OrderedMap α β} (hm : m.keys = m'.keys)
    (hn : n.keys = n'.keys) : (m.merge n).keys = (m'.merge n').keys := by
  simp only [keys_merge, mem_congr hm, hm, hn]

/-- A key has the value of the overlay, or the old one where the overlay lacks it. -/
theorem get?_merge (m n : OrderedMap α β) (k : α) :
    (m.merge n).get? k = (n.get? k).or (m.get? k) := by
  have hrev : (n.entries.reverse.map Prod.fst).Nodup := by
    rw [List.map_reverse]
    exact List.pairwise_reverse.2 (n.keys_nodup.imp Ne.symm)
  have hval : valueIn n.entries.reverse k = n.get? k := by
    refine Option.ext fun v => ?_
    rw [valueIn_eq_some_iff hrev, List.mem_reverse, get?_eq_some_iff]
  rw [merge, get?_insertAll, hval]

theorem get?_merge_of_mem {m n : OrderedMap α β} {k : α} (h : k ∈ n) :
    (m.merge n).get? k = n.get? k := by
  obtain ⟨v, hv⟩ := exists_get?_of_mem h
  rw [get?_merge, hv, Option.some_or]

theorem get?_merge_of_notMem {m n : OrderedMap α β} {k : α} (h : k ∉ n) :
    (m.merge n).get? k = m.get? k := by
  rw [get?_merge, get?_eq_none_iff.2 h, Option.none_or]

theorem mem_merge {m n : OrderedMap α β} {k : α} : k ∈ m.merge n ↔ k ∈ m ∨ k ∈ n := by
  rw [mem_iff_mem_keys, keys_merge, List.mem_append, List.mem_filter, decide_eq_true_eq]
  constructor
  · rintro (hm | ⟨hn, -⟩)
    · exact .inl hm
    · exact .inr hn
  · rintro (hm | hn)
    · exact .inl hm
    · by_cases hm : k ∈ m
      · exact .inl hm
      · exact .inr ⟨hn, hm⟩

theorem mem_entries_merge {m n : OrderedMap α β} {e : α × β} (h : e ∈ (m.merge n).entries) :
    e ∈ n.entries ∨ (e ∈ m.entries ∧ e.1 ∉ n) := by
  have hv : (m.merge n).get? e.1 = some e.2 := get?_eq_some_iff.2 h
  by_cases hn : e.1 ∈ n
  · rw [get?_merge_of_mem hn] at hv
    exact .inl (get?_eq_some_iff.1 hv)
  · rw [get?_merge_of_notMem hn] at hv
    exact .inr ⟨get?_eq_some_iff.1 hv, hn⟩

/-- Overlays never take a key away, and never move one. -/
theorem keys_prefix_foldl_merge (ns : List (OrderedMap α β)) (m : OrderedMap α β) :
    m.keys <+: (ns.foldl merge m).keys := by
  induction ns generalizing m with
  | nil => exact List.prefix_refl m.keys
  | cons n ns ih =>
      have h : m.keys <+: (m.merge n).keys := ⟨_, (keys_merge m n).symm⟩
      exact h.trans (ih (m.merge n))

theorem get?_foldl_merge (ns : List (OrderedMap α β)) (m : OrderedMap α β) (k : α) :
    (ns.foldl merge m).get? k = (ns.reverse.findSome? (·.get? k)).or (m.get? k) := by
  induction ns generalizing m with
  | nil => rfl
  | cons n ns ih =>
      have hn : [n].findSome? (·.get? k) = n.get? k := by
        rw [List.findSome?_cons]
        cases n.get? k <;> rfl
      rw [List.foldl_cons, ih, get?_merge, List.reverse_cons, List.findSome?_append, hn,
        Option.or_assoc]

/-! ## Overlays one after the other -/

theorem empty_merge (a : OrderedMap α β) : empty.merge a = a := ofList_entries a

theorem merge_empty (a : OrderedMap α β) : a.merge empty = a := rfl

/-- An overlay whose keys are all there moves nothing and adds nothing. -/
theorem keys_merge_of_subset {m n : OrderedMap α β} (h : ∀ k ∈ n, k ∈ m) :
    (m.merge n).keys = m.keys := by
  have hnone : n.keys.filter (· ∉ m) = [] :=
    List.filter_eq_nil_iff.2 fun k hk => by simpa using h k hk
  rw [keys_merge, hnone, List.append_nil]

/-- An overlay that says nothing new changes nothing. -/
theorem merge_eq_self {m n : OrderedMap α β} (h : ∀ k ∈ n, m.get? k = n.get? k) :
    m.merge n = m := by
  refine ext_keys_get? (keys_merge_of_subset fun k hk => ?_) fun k => ?_
  · obtain ⟨v, hv⟩ := exists_get?_of_mem hk
    exact mem_of_get? ((h k hk).trans hv)
  · by_cases hk : k ∈ n
    · rw [get?_merge_of_mem hk, h k hk]
    · rw [get?_merge_of_notMem hk]

theorem merge_assoc (e a b : OrderedMap α β) : (e.merge a).merge b = e.merge (a.merge b) := by
  refine ext_keys_get? ?_ fun k => ?_
  · -- The keys that only `b` has are those that are neither in `e` nor in `a`.
    have hnew : b.keys.filter (· ∉ e.merge a) = (b.keys.filter (· ∉ a)).filter (· ∉ e) := by
      rw [List.filter_filter]
      refine List.filter_congr fun k _ => ?_
      rw [Bool.eq_iff_iff]
      simp [mem_merge]
    rw [keys_merge, keys_merge, keys_merge, keys_merge, List.filter_append, List.append_assoc, hnew]
  · rw [get?_merge, get?_merge, get?_merge, get?_merge, Option.or_assoc]

theorem get?_merge_comm {a b : OrderedMap α β}
    (agree : ∀ k, k ∈ a → k ∈ b → a.get? k = b.get? k) (k : α) :
    (a.merge b).get? k = (b.merge a).get? k := by
  by_cases ha : k ∈ a
  · by_cases hb : k ∈ b
    · rw [get?_merge_of_mem ha, get?_merge_of_mem hb, agree k ha hb]
    · rw [get?_merge_of_mem ha, get?_merge_of_notMem hb]
  · rw [get?_merge_of_notMem ha, get?_merge, get?_eq_none_iff.2 ha, Option.or_none]

/-- Overlays act on maps: two of them laid over a map one after the other are one, the empty
one does nothing from either side, and one laid over a map twice does no more than once.
Two that agree on the keys they share give the same values in either order, and the same
map where they bring no key. -/
theorem merge_action (e a b : OrderedMap α β) :
    (e.merge a).merge b = e.merge (a.merge b) ∧
    empty.merge a = a ∧ a.merge empty = a ∧
    (e.merge a).merge a = e.merge a ∧
    ((∀ k, k ∈ a → k ∈ b → a.get? k = b.get? k) →
      (∀ k, ((e.merge a).merge b).get? k = ((e.merge b).merge a).get? k) ∧
      ((∀ k, k ∈ a ∨ k ∈ b → k ∈ e) → (e.merge a).merge b = (e.merge b).merge a)) := by
  refine ⟨merge_assoc e a b, empty_merge a, merge_empty a,
    merge_eq_self fun k hk => get?_merge_of_mem hk, fun agree => ?_⟩
  have hvalues : ∀ k, ((e.merge a).merge b).get? k = ((e.merge b).merge a).get? k := by
    intro k
    rw [merge_assoc, merge_assoc, get?_merge, get?_merge e, get?_merge_comm agree]
  refine ⟨hvalues, fun there => ext_keys_get? ?_ hvalues⟩
  rw [merge_assoc, merge_assoc, keys_merge_of_subset, keys_merge_of_subset]
  · exact fun k hk => there k (mem_merge.1 hk).symm
  · exact fun k hk => there k (mem_merge.1 hk)

/-- Two overlays that share `"C"`: over a map that lacks it the order shows in the order of the
keys, and over one that has all the keys it does not show. -/
theorem merge_action_of_shared_key :
    let a : OrderedMap String Nat := ⟨[("A", 2), ("C", 3)], by decide⟩
    let b : OrderedMap String Nat := ⟨[("B", 4), ("C", 3)], by decide⟩
    let few : OrderedMap String Nat := ⟨[("A", 1)], by decide⟩
    let all : OrderedMap String Nat := ⟨[("C", 0), ("B", 0), ("A", 0)], by decide⟩
    ((few.merge a).merge b).keys = ["A", "C", "B"] ∧ ((few.merge b).merge a).keys = ["A", "B", "C"] ∧
      (∀ k, ((few.merge a).merge b).get? k = ((few.merge b).merge a).get? k) ∧
      (all.merge a).merge b = (all.merge b).merge a ∧
      ((all.merge a).merge b).entries = [("C", 3), ("B", 4), ("A", 2)] := by
  intro a b few all
  have agree : ∀ k ∈ a.keys, k ∈ b → a.get? k = b.get? k := by decide
  have there : ∀ k ∈ a.keys ++ b.keys, k ∈ all := by decide
  obtain ⟨-, -, -, -, hfew⟩ := merge_action few a b
  obtain ⟨-, -, -, -, hall⟩ := merge_action all a b
  refine ⟨by decide, by decide, (hfew agree).1, (hall agree).2 ?_, by decide⟩
  intro k hk
  exact there k (List.mem_append.2 hk)

/-! ## Changed values -/

omit [DecidableEq α] in
theorem keys_mapValues {γ : Type} (f : α → β → γ) (m : OrderedMap α β) :
    (m.mapValues f).keys = m.keys := by
  rw [keys, keys, mapValues, List.map_map]
  rfl

theorem get?_mapValues {γ : Type} (f : β → γ) (m : OrderedMap α β) (k : α) :
    (m.mapValues fun _ => f).get? k = (m.get? k).map f :=
  valueIn_map f m.entries k

omit [DecidableEq α] in
theorem mapValues_eq_self {f : β → β} {m : OrderedMap α β} (h : ∀ e ∈ m.entries, f e.2 = e.2) :
    (m.mapValues fun _ => f) = m := by
  refine ext_entries ?_
  have hmap : ∀ e ∈ m.entries, ((e.1, f e.2) : α × β) = e := by
    intro e he
    rw [h e he]
  exact (List.map_congr_left hmap).trans (List.map_id m.entries)

/-- Where only values changed that an overlay sets again, laying it over once more brings
back what was. -/
theorem mapValues_merge {f : β → β} {m n : OrderedMap α β} (hkeys : ∀ k ∈ n, m.get? k = n.get? k)
    (hvalues : ∀ k v, k ∉ n → m.get? k = some v → f v = v) :
    (m.mapValues fun _ => f).merge n = m := by
  refine ext_keys_get? ?_ fun k => ?_
  · have hthere : ∀ k ∈ n, k ∈ m.mapValues fun _ => f := by
      intro k hk
      obtain ⟨v, hv⟩ := exists_get?_of_mem hk
      rw [mem_iff_mem_keys, keys_mapValues]
      exact mem_of_get? ((hkeys k hk).trans hv)
    rw [keys_merge_of_subset hthere, keys_mapValues]
  · by_cases hk : k ∈ n
    · rw [get?_merge_of_mem hk, hkeys k hk]
    · rw [get?_merge_of_notMem hk, get?_mapValues]
      cases hv : m.get? k with
      | none => rfl
      | some v => exact congrArg some (hvalues k v hk hv)

end EnvSync.OrderedMap
