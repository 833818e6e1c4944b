/-
# Ordered maps

A map that remembers the order in which its keys first came.  A key that is
inserted again keeps its place and takes the new value.  The entries are a list,
and that no key stands in it twice is part of the type.
-/
namespace EnvSync

/-- Keys with their values, in order of first insertion. -/
structure OrderedMap (α β : Type) where
  entries : List (α × β)
  keys_nodup : (entries.map Prod.fst).Nodup
deriving DecidableEq

namespace OrderedMap

variable {α β : Type} [DecidableEq α]

/-! ## Entries -/

/-- The value in place where the key is there, a new entry at the end where not. -/
def insertEntry (k : α) (v : β) : List (α × β) → List (α × β)
  | [] => [(k, v)]
  | e :: es => if e.1 = k then (k, v) :: es else e :: insertEntry k v es

theorem keys_insertEntry (k : α) (v : β) (es : List (α × β)) :
    (insertEntry k v es).map Prod.fst =
      if k ∈ es.map Prod.fst then es.map Prod.fst else es.map Prod.fst ++ [k] := by
  induction es with
  | nil => simp [insertEntry]
  | cons e es ih =>
    by_cases h : e.1 = k
    · simp [insertEntry, h]
    · have h' : ¬ k = e.1 := fun hk => h hk.symm
      simp only [insertEntry, h, if_false, List.map_cons, ih, List.mem_cons, h', false_or]
      split <;> simp

theorem keys_insertEntry_nodup {k : α} {v : β} {es : List (α × β)}
    (h : (es.map Prod.fst).Nodup) : ((insertEntry k v es).map Prod.fst).Nodup := by
  rw [keys_insertEntry]
  split
  · exact h
  · next hk =>
    rw [List.nodup_append]
    exact ⟨h, by simp, fun a ha b hb => by
      simp only [List.mem_singleton] at hb
      subst hb
      exact fun hab => hk (hab ▸ ha)⟩

/-! ## Maps -/

def empty : OrderedMap α β := ⟨[], by simp⟩

instance : EmptyCollection (OrderedMap α β) := ⟨empty⟩

instance : Inhabited (OrderedMap α β) := ⟨empty⟩

def keys (m : OrderedMap α β) : List α := m.entries.map Prod.fst

def size (m : OrderedMap α β) : Nat := m.entries.length

def get? (m : OrderedMap α β) (k : α) : Option β :=
  (m.entries.find? fun e => e.1 = k).map Prod.snd

/-- A key that is there keeps its place and takes the value; a new one goes to the
end. -/
def insert (m : OrderedMap α β) (k : α) (v : β) : OrderedMap α β :=
  ⟨insertEntry k v m.entries, keys_insertEntry_nodup m.keys_nodup⟩

def erase (m : OrderedMap α β) (k : α) : OrderedMap α β :=
  ⟨m.entries.filter fun e => e.1 ≠ k,
   (List.filter_sublist.map Prod.fst).nodup m.keys_nodup⟩

def insertAll (m : OrderedMap α β) (es : List (α × β)) : OrderedMap α β :=
  es.foldl (fun m e => m.insert e.1 e.2) m

/-- The map of a list of entries: a repeated key keeps its first place and has its
last value. -/
def ofList (es : List (α × β)) : OrderedMap α β := empty.insertAll es

/-- Overlays `m` with `n`: the keys of `m` stay where they are, values come from `n`
where it has the key, and the keys that only `n` has follow in its order. -/
def merge (m n : OrderedMap α β) : OrderedMap α β := m.insertAll n.entries

/-- The map with every value replaced by a function of key and value. -/
def mapValues {γ : Type} (f : α → β → γ) (m : OrderedMap α β) : OrderedMap α γ :=
  ⟨m.entries.map fun e => (e.1, f e.1 e.2), by
    have h : (m.entries.map fun e => (e.1, f e.1 e.2)).map Prod.fst = m.entries.map Prod.fst := by
      simp [List.map_map, Function.comp_def]
    rw [h]
    exact m.keys_nodup⟩

instance : Membership α (OrderedMap α β) := ⟨fun m k => k ∈ m.keys⟩

instance (m : OrderedMap α β) (k : α) : Decidable (k ∈ m) :=
  inferInstanceAs (Decidable (k ∈ m.keys))

end OrderedMap
end EnvSync
