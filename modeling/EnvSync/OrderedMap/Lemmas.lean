/-
# Ordered maps: keys and values

What each operation does to the two views of a map, `keys` for its order and `get?`
for its values.  The two together determine the map (`ext_keys_get?`).
-/
import EnvSync.OrderedMap.Basic

namespace EnvSync.OrderedMap

variable {α β : Type} [DecidableEq α]

/-! ## Entries -/

/-- What a list of entries says of a key: the value of its first entry. -/
def valueIn (es : List (α × β)) (k : α) : Option β :=
  (es.find? fun e => e.1 = k).map Prod.snd

theorem valueIn_cons (e : α × β) (es : List (α × β)) (k : α) :
    valueIn (e :: es) k = if e.1 = k then some e.2 else valueIn es k := by
  simp only [valueIn, List.find?_cons]
  split <;> simp_all

theorem valueIn_insertEntry (k l : α) (v : β) (es : List (α × β)) :
    valueIn (insertEntry k v es) l = if k = l then some v else valueIn es l := by
  induction es with
  | nil => simp [insertEntry, valueIn]
  | cons e es ih =>
    by_cases h : e.1 = k
    · rw [insertEntry, if_pos h, valueIn_cons, valueIn_cons, h]
      by_cases hl : k = l
      · rw [if_pos hl, if_pos hl]
      · rw [if_neg hl, if_neg hl, if_neg hl]
    · rw [insertEntry, if_neg h, valueIn_cons, valueIn_cons, ih]
      by_cases hl : e.1 = l
      · have hk : ¬ k = l := fun hk => h (hl.trans hk.symm)
        rw [if_pos hl, if_neg hk, if_pos hl]
      · rw [if_neg hl, if_neg hl]

theorem valueIn_eq_none_iff {k : α} {es : List (α × β)} :
    valueIn es k = none ↔ k ∉ es.map Prod.fst := by
  induction es with
  | nil => simp [valueIn]
  | cons e es ih =>
    rw [valueIn_cons, List.map_cons, List.mem_cons, not_or]
    by_cases h : e.1 = k
    · rw [if_pos h]
      exact ⟨fun hn => (Option.some_ne_none _ hn).elim, fun hn => absurd h.symm hn.1⟩
    · rw [if_neg h, ih]
      exact ⟨fun hn => ⟨fun hk => h hk.symm, hn⟩, fun hn => hn.2⟩

/-- Entries without a repeated key are determined by their keys in order and by what they
say of each. -/
theorem entries_ext {es fs : List (α × β)} (hes : (es.map Prod.fst).Nodup)
    (hk : es.map Prod.fst = fs.map Prod.fst) (hv : ∀ k, valueIn es k = valueIn fs k) :
    es = fs := by
  induction es generalizing fs with
  | nil =>
    cases fs with
    | nil => rfl
    | cons f fs => simp at hk
  | cons e es ih =>
    cases fs with
    | nil => simp at hk
    | cons f fs =>
      simp only [List.map_cons, List.cons.injEq] at hk
      obtain ⟨hkey, hrest⟩ := hk
      rw [List.map_cons, List.nodup_cons] at hes
      have hhead := hv e.1
      rw [valueIn_cons, valueIn_cons, if_pos rfl, if_pos hkey.symm, Option.some.injEq] at hhead
      have htail : ∀ k, valueIn es k = valueIn fs k := by
        intro k
        by_cases h : e.1 = k
        · have hn : valueIn es k = none := valueIn_eq_none_iff.2 (h ▸ hes.1)
          have hn' : valueIn fs k = none := valueIn_eq_none_iff.2 (hrest ▸ h ▸ hes.1)
          rw [hn, hn']
        · have hk := hv k
          rwa [valueIn_cons, valueIn_cons, if_neg h, if_neg (hkey ▸ h)] at hk
      rw [ih hes.2 hrest htail, Prod.ext hkey hhead]

/-! ## Maps -/

omit [DecidableEq α] in
theorem mem_iff_mem_keys {m : OrderedMap α β} {k : α} : k ∈ m ↔ k ∈ m.keys := Iff.rfl

theorem get?_eq_none_iff {m : OrderedMap α β} {k : α} : m.get? k = none ↔ k ∉ m :=
  valueIn_eq_none_iff

theorem ext_keys_get? {m n : OrderedMap α β} (hk : m.keys = n.keys)
    (hv : ∀ k, m.get? k = n.get? k) : m = n := by
  have h : m.entries = n.entries := entries_ext m.keys_nodup hk hv
  cases m
  cases n
  cases h
  rfl

omit [DecidableEq α] in
@[simp] theorem keys_empty : (empty : OrderedMap α β).keys = [] := rfl

@[simp] theorem get?_empty (k : α) : (empty : OrderedMap α β).get? k = none := rfl

theorem keys_insert (m : OrderedMap α β) (k : α) (v : β) :
    (m.insert k v).keys = if k ∈ m then m.keys else m.keys ++ [k] :=
  keys_insertEntry k v m.entries

theorem get?_insert (m : OrderedMap α β) (k l : α) (v : β) :
    (m.insert k v).get? l = if k = l then some v else m.get? l :=
  valueIn_insertEntry k l v m.entries

theorem mem_insert {m : OrderedMap α β} {k l : α} {v : β} :
    l ∈ m.insert k v ↔ l = k ∨ l ∈ m := by
  rw [mem_iff_mem_keys, keys_insert]
  by_cases h : k ∈ m
  · rw [if_pos h]
    exact ⟨Or.inr, fun hl => hl.elim (fun e => e ▸ h) id⟩
  · rw [if_neg h, List.mem_append, List.mem_singleton]
    exact or_comm

omit [DecidableEq α] in
theorem size_eq_length_keys (m : OrderedMap α β) : m.size = m.keys.length := by
  simp [size, keys]

end EnvSync.OrderedMap
