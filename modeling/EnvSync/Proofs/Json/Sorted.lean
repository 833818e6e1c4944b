/-
# Values whose members are in order

An object keeps its members in the order of its text, and the compact form has them in the
order of their names.  So of two values that differ in that order alone the compact form is the
same (`render_eq_of_same`), and what it spells is neither of them but the value in which every
object has its members in order (`valueText_render`).  Nothing else is lost: values that have
one compact form are the same but for the order of members (`render_eq_iff`).

Injectivity comes from the reader.  A text spells one value at most (`valueText_unique`), so two
values with one compact form have one value with members in order between them, and `Same` is an
equivalence.

All this is of values that a text can spell at a given depth with integers for numbers, and in
which no object has a name twice (`Regular`).
-/
import EnvSync.Proofs.Json.Compact
import EnvSync.Proofs.Text.Join
import Mathlib.Data.Char
import Mathlib.Tactic.SplitIfs

namespace EnvSync.Json

open OrderedMap (valueIn valueIn_eq_some_iff)

/-! ## Values -/

/-- A value of integers of 64 bits, strings, and arrays and objects that are nested no deeper than
the number says, where no object has a name twice. -/
inductive Regular : Nat → Json → Prop where
  | null {depth : Nat} : Regular depth .null
  | bool {depth : Nat} {b : Bool} : Regular depth (.bool b)
  | integer {depth : Nat} {i : Int} : -0x8000000000000000 ≤ i → i < 0x10000000000000000 →
      Regular depth (.number (.integer i))
  | string {depth : Nat} {s : String} : Regular depth (.string s)
  | array {depth : Nat} {vs : List Json} : (∀ v ∈ vs, Regular depth v) →
      Regular (depth + 1) (.array vs)
  | object {depth : Nat} {ms : List (String × Json)} : (ms.map Prod.fst).Nodup →
      (∀ m ∈ ms, Regular depth m.2) → Regular (depth + 1) (.object ms)

mutual

/-- The values are equal but for the order in which the members of objects stand. -/
inductive Same : Json → Json → Prop where
  | null : Same .null .null
  | bool {b : Bool} : Same (.bool b) (.bool b)
  | number {n : Number} : Same (.number n) (.number n)
  | string {s : String} : Same (.string s) (.string s)
  | array {vs ws : List Json} : SameItems vs ws → Same (.array vs) (.array ws)
  | object {ms ns ns' : List (String × Json)} : SameMembers ms ns' → ns'.Perm ns →
      Same (.object ms) (.object ns)

inductive SameItems : List Json → List Json → Prop where
  | nil : SameItems [] []
  | cons {v w : Json} {vs ws : List Json} : Same v w → SameItems vs ws →
      SameItems (v :: vs) (w :: ws)

inductive SameMembers : List (String × Json) → List (String × Json) → Prop where
  | nil : SameMembers [] []
  | cons {name : String} {v w : Json} {ms ns : List (String × Json)} : Same v w →
      SameMembers ms ns → SameMembers ((name, v) :: ms) ((name, w) :: ns)

end

mutual

/-- The value with the members of every object in order. -/
def sorted : Json → Json
  | .null => .null
  | .bool b => .bool b
  | .number n => .number n
  | .string s => .string s
  | .array vs => .array (sortedItems vs)
  | .object ms => .object (sortMembers (sortedMembers ms))

def sortedItems : List Json → List Json
  | [] => []
  | v :: vs => sorted v :: sortedItems vs

def sortedMembers : List (String × Json) → List (String × Json)
  | [] => []
  | (name, v) :: ms => (name, sorted v) :: sortedMembers ms

end

/-! ## Sameness -/

/-- Where members of one list are moved about, so can those of the other be. -/
theorem SameMembers.exists_perm {ms ns ps : List (String × Json)} (h : ms.Perm ns)
    (hs : SameMembers ns ps) : ∃ qs, SameMembers ms qs ∧ qs.Perm ps := by
  induction h generalizing ps with
  | nil => exact ⟨ps, hs, .refl ps⟩
  | cons m _ ih =>
      cases hs with
      | cons hv hs =>
          obtain ⟨qs, hqs, hperm⟩ := ih hs
          exact ⟨_, .cons hv hqs, hperm.cons _⟩
  | swap m n l =>
      cases hs with
      | cons hv hs =>
          cases hs with
          | cons hw hs => exact ⟨_, .cons hw (.cons hv hs), .swap _ _ _⟩
  | trans _ _ ih ih' =>
      obtain ⟨qs, hqs, hperm⟩ := ih' hs
      obtain ⟨rs, hrs, hperm'⟩ := ih hqs
      exact ⟨rs, hrs, hperm'.trans hperm⟩

mutual

theorem Same.symm : ∀ {v w : Json}, Same v w → Same w v
  | _, _, .null => .null
  | _, _, .bool => .bool
  | _, _, .number => .number
  | _, _, .string => .string
  | _, _, .array h => .array h.symm
  | _, _, .object h hperm =>
      have ⟨_, hsame, hperm'⟩ := SameMembers.exists_perm hperm.symm h.symm
      .object hsame hperm'

theorem SameItems.symm : ∀ {vs ws : List Json}, SameItems vs ws → SameItems ws vs
  | _, _, .nil => .nil
  | _, _, .cons h hs => .cons h.symm hs.symm

theorem SameMembers.symm : ∀ {ms ns : List (String × Json)}, SameMembers ms ns → SameMembers ns ms
  | _, _, .nil => .nil
  | _, _, .cons h hs => .cons h.symm hs.symm

end

mutual

theorem Same.trans : ∀ {u v w : Json}, Same u v → Same v w → Same u w
  | _, _, _, .null, .null => .null
  | _, _, _, .bool, .bool => .bool
  | _, _, _, .number, .number => .number
  | _, _, _, .string, .string => .string
  | _, _, _, .array h, .array h' => .array (h.trans h')
  | _, _, _, .object h hperm, .object h' hperm' =>
      have ⟨_, hsame, hperm''⟩ := SameMembers.exists_perm hperm h'
      .object (h.trans hsame) (hperm''.trans hperm')

theorem SameItems.trans : ∀ {us vs ws : List Json}, SameItems us vs → SameItems vs ws →
    SameItems us ws
  | _, _, _, .nil, .nil => .nil
  | _, _, _, .cons h hs, .cons h' hs' => .cons (h.trans h') (hs.trans hs')

theorem SameMembers.trans : ∀ {ls ms ns : List (String × Json)}, SameMembers ls ms →
    SameMembers ms ns → SameMembers ls ns
  | _, _, _, .nil, .nil => .nil
  | _, _, _, .cons h hs, .cons h' hs' => .cons (h.trans h') (hs.trans hs')

end

/-! ## Members in order -/

section Sorting

variable {α β : Type}

theorem placeMember_map (f : α → β) (m : String × α) (ms : List (String × α)) :
    placeMember (m.1, f m.2) (ms.map fun n => (n.1, f n.2)) =
      (placeMember m ms).map fun n => (n.1, f n.2) := by
  induction ms with
  | nil => rfl
  | cons n ns ih =>
      rw [List.map_cons, placeMember, placeMember]
      split
      · rfl
      · split
        · rfl
        · rw [ih, List.map_cons]

theorem sortMembers_map (f : α → β) (ms : List (String × α)) :
    sortMembers (ms.map fun m => (m.1, f m.2)) = (sortMembers ms).map fun m => (m.1, f m.2) := by
  have h : ∀ sorted : List (String × α),
      (ms.map fun m => (m.1, f m.2)).foldl (fun sorted m => placeMember m sorted)
          (sorted.map fun m => (m.1, f m.2)) =
        (ms.foldl (fun sorted m => placeMember m sorted) sorted).map fun m => (m.1, f m.2) := by
    induction ms with
    | nil => exact fun _ => rfl
    | cons m ms ih =>
        intro sorted
        rw [List.map_cons, List.foldl_cons, List.foldl_cons, placeMember_map f m sorted, ih]
  exact h []

theorem valueIn_reverse {ms : List (String × α)} (h : (ms.map Prod.fst).Nodup) (name : String) :
    valueIn ms.reverse name = valueIn ms name := by
  have hrev : (ms.reverse.map Prod.fst).Nodup := by
    rw [List.map_reverse]
    exact List.nodup_reverse.2 h
  refine Option.ext fun v => ?_
  rw [valueIn_eq_some_iff hrev, valueIn_eq_some_iff h, List.mem_reverse]

theorem perm_sortMembers {ms : List (String × α)} (h : (ms.map Prod.fst).Nodup) :
    (sortMembers ms).Perm ms := by
  have hsorted : ((sortMembers ms).map Prod.fst).Nodup := by
    have hlt := List.pairwise_map.2 (ascending_iff.1 (ascending_sortMembers ms))
    exact hlt.nodup
  refine (List.perm_ext_iff_of_nodup hsorted.of_map h.of_map).2 fun m => ?_
  rw [← valueIn_eq_some_iff hsorted, ← valueIn_eq_some_iff h, valueIn_sortMembers,
    valueIn_reverse h]

theorem sortMembers_eq_of_perm {ms ns : List (String × α)} (h : ms.Perm ns)
    (hms : (ms.map Prod.fst).Nodup) : sortMembers ms = sortMembers ns := by
  have hns : (ns.map Prod.fst).Nodup := (h.map Prod.fst).nodup_iff.1 hms
  refine ascending_ext (ascending_sortMembers ms) (ascending_sortMembers ns) fun name => ?_
  rw [valueIn_sortMembers, valueIn_sortMembers, valueIn_reverse hms, valueIn_reverse hns]
  refine Option.ext fun v => ?_
  rw [valueIn_eq_some_iff hms, valueIn_eq_some_iff hns, h.mem_iff]

end Sorting

/-! ## Lists of values and of members -/

theorem renderItems_eq_map (vs : List Json) : renderItems vs = vs.map render := by
  induction vs with
  | nil => rfl
  | cons v vs ih => rw [renderItems, ih, List.map_cons]

theorem renderMembers_eq_map (ms : List (String × Json)) :
    renderMembers ms = ms.map fun m => (m.1, render m.2) := by
  induction ms with
  | nil => rfl
  | cons m ms ih => rw [renderMembers, ih, List.map_cons]

theorem map_fst_renderMembers (ms : List (String × Json)) :
    (renderMembers ms).map Prod.fst = ms.map Prod.fst := by
  rw [renderMembers_eq_map, List.map_map]
  rfl

theorem sortedItems_eq_map (vs : List Json) : sortedItems vs = vs.map sorted := by
  induction vs with
  | nil => rfl
  | cons v vs ih => rw [sortedItems, ih, List.map_cons]

theorem sortedMembers_eq_map (ms : List (String × Json)) :
    sortedMembers ms = ms.map fun m => (m.1, sorted m.2) := by
  induction ms with
  | nil => rfl
  | cons m ms ih => rw [sortedMembers, ih, List.map_cons]

theorem map_fst_sortedMembers (ms : List (String × Json)) :
    (sortedMembers ms).map Prod.fst = ms.map Prod.fst := by
  rw [sortedMembers_eq_map, List.map_map]
  rfl

/-! ## One compact form for the same values -/

variable {depth : Nat} {v w : Json}

mutual

/-- Values that are the same but for the order of members have one compact form. -/
theorem render_eq_of_same : ∀ {depth : Nat} {v w : Json}, Same v w → Regular depth v →
    v.render = w.render
  | _, _, _, .null, _ => rfl
  | _, _, _, .bool, _ => rfl
  | _, _, _, .number, _ => rfl
  | _, _, _, .string, _ => rfl
  | _, _, _, .array h, .array hvs => by
      rw [render, render, renderItems_eq_of_same h hvs]
  | _, _, _, @Same.object ms ns _ h hperm, .object hnodup hms => by
      -- Values first, places second: once the compact forms agree, only sorting is left.
      have hmembers : (renderMembers ms).Perm (renderMembers ns) := by
        rw [renderMembers_eq_of_same h hms, renderMembers_eq_map, renderMembers_eq_map]
        exact hperm.map _
      have hnames : ((renderMembers ms).map Prod.fst).Nodup := by
        rwa [map_fst_renderMembers]
      rw [render, render, sortMembers_eq_of_perm hmembers hnames]

theorem renderItems_eq_of_same : ∀ {depth : Nat} {vs ws : List Json}, SameItems vs ws →
    (∀ v ∈ vs, Regular depth v) → renderItems vs = renderItems ws
  | _, _, _, .nil, _ => rfl
  | _, _, _, .cons h hs, hvs => by
      rw [renderItems, renderItems, render_eq_of_same h (hvs _ List.mem_cons_self),
        renderItems_eq_of_same hs fun u hu => hvs u (List.mem_cons_of_mem _ hu)]

theorem renderMembers_eq_of_same : ∀ {depth : Nat} {ms ns : List (String × Json)},
    SameMembers ms ns → (∀ m ∈ ms, Regular depth m.2) → renderMembers ms = renderMembers ns
  | _, _, _, .nil, _ => rfl
  | _, _, _, .cons h hs, hms => by
      rw [renderMembers, renderMembers, render_eq_of_same h (hms _ List.mem_cons_self),
        renderMembers_eq_of_same hs fun m hm => hms m (List.mem_cons_of_mem _ hm)]

end

theorem sameItems_map {f : Json → Json} {vs : List Json} (h : ∀ v ∈ vs, Same v (f v)) :
    SameItems vs (vs.map f) := by
  induction vs with
  | nil => exact .nil
  | cons v vs ih =>
      exact .cons (h v List.mem_cons_self) (ih fun u hu => h u (List.mem_cons_of_mem v hu))

theorem sameMembers_map {f : Json → Json} {ms : List (String × Json)}
    (h : ∀ m ∈ ms, Same m.2 (f m.2)) : SameMembers ms (ms.map fun m => (m.1, f m.2)) := by
  induction ms with
  | nil => exact .nil
  | cons m ms ih =>
      exact .cons (h m List.mem_cons_self) (ih fun n hn => h n (List.mem_cons_of_mem m hn))

theorem same_sorted (h : Regular depth v) : Same v v.sorted := by
  induction h with
  | null => exact .null
  | bool => exact .bool
  | integer _ _ => exact .number
  | string => exact .string
  | array _ ih =>
      rw [sorted, sortedItems_eq_map]
      exact .array (sameItems_map ih)
  | @object _ ms hnodup _ ih =>
      have hnames : ((sortedMembers ms).map Prod.fst).Nodup := by
        rwa [map_fst_sortedMembers]
      rw [sorted]
      refine .object ?_ (perm_sortMembers hnames).symm
      rw [sortedMembers_eq_map]
      exact sameMembers_map ih

theorem render_sorted (h : Regular depth v) : v.sorted.render = v.render :=
  (render_eq_of_same (same_sorted h) h).symm

/-! ## What the compact form spells -/

section Lists

variable {α γ : Type} {item : α → List Char → Prop} {a : γ → α} {t : γ → List Char} {xs : List γ}

theorem furtherText_flatMap (h : ∀ x ∈ xs, item (a x) (t x)) :
    FurtherText item (xs.map a) (xs.flatMap fun x => ',' :: t x) := by
  induction xs with
  | nil => exact .none blanks_nil
  | cons x xs ih =>
      have hxs := ih fun y hy => h y (List.mem_cons_of_mem x hy)
      have hall := FurtherText.some blanks_nil blanks_nil (h x List.mem_cons_self) hxs
      exact hall

theorem listText_join (h : ∀ x ∈ xs, item (a x) (t x)) :
    ListText item (xs.map a) (Text.join ',' (xs.map t)) := by
  cases xs with
  | nil => exact .none blanks_nil
  | cons x xs =>
      have hxs := furtherText_flatMap fun y hy => h y (List.mem_cons_of_mem x hy)
      have hall := ListText.some blanks_nil (h x List.mem_cons_self) hxs
      rw [List.map_cons, List.map_cons, Text.join_cons_eq_append, List.flatMap_map]
      exact hall

end Lists

theorem ScalarText.valueText {number : Number → List Char → Prop} {t : List Char}
    (h : ScalarText number v t) (depth : Nat) : ValueText number depth v t := by
  cases depth with
  | zero => exact h
  | succ depth => exact .scalar h

/-- The compact form spells the value with its members in order. -/
theorem valueText_render (h : Regular depth v) :
    ValueText IntegerText depth v.sorted v.render := by
  induction h with
  | null => exact ScalarText.null.valueText _
  | @bool _ b =>
      cases b with
      | true => exact ScalarText.true.valueText _
      | false => exact ScalarText.false.valueText _
  | integer hlow hhigh =>
      have h := IntegerText.mk hlow hhigh
      rw [render, render_of_integerText h]
      exact (ScalarText.number h).valueText _
  | @string _ s => exact (ScalarText.string (stringText_quote s)).valueText _
  | array _ ih =>
      rw [sorted, sortedItems_eq_map, render, renderItems_eq_map]
      have h := listText_join ih
      exact NestedText.array h
  | @object depth ms hnodup _ ih =>
      have hmembers : ∀ m ∈ sortMembers ms, MemberText (ValueText IntegerText depth)
          (m.1, sorted m.2) (memberText (m.1, render m.2)) := by
        intro m hm
        have hvalue := ih m ((perm_sortMembers hnodup).mem_iff.1 hm)
        have hmember := MemberText.mk (stringText_quote m.1) blanks_nil blanks_nil hvalue
        exact hmember
      have h := listText_join hmembers
      -- Sorting looks at names alone, so values may be rendered before it or after it.
      rw [sorted, sortedMembers_eq_map, sortMembers_map, render, renderMembers_eq_map,
        sortMembers_map, List.map_map]
      exact NestedText.object h

theorem endsNumeral_nil : EndsNumeral [] := by
  refine ⟨?_, ?_, ?_⟩
  · intro c hc
    cases hc
  · exact nofun
  · exact ⟨nofun, nofun⟩

theorem valueText_unique {t : List Char} (h : ValueText NumberText depth v t)
    (h' : ValueText NumberText depth w t) : v = w := by
  have hv := (reads_value depth).take h endsNumeral_nil
  have hw := (reads_value depth).take h' endsNumeral_nil
  exact (Prod.mk.inj (Option.some.inj (hv.symm.trans hw))).1

/-- Values have one compact form if, and only if, they are the same but for the order of
members. -/
theorem render_eq_iff (hv : Regular depth v) (hw : Regular depth w) :
    v.render = w.render ↔ Same v w := by
  constructor
  · intro h
    -- The one text spells both values in order, so in order they are one value.
    have hspelled := valueText_render hv
    rw [h] at hspelled
    have hsorted : v.sorted = w.sorted :=
      valueText_unique (hspelled.mono fun _ _ => numberText_of_integerText)
        ((valueText_render hw).mono fun _ _ => numberText_of_integerText)
    have hsame := same_sorted hv
    rw [hsorted] at hsame
    exact hsame.trans (same_sorted hw).symm
  · intro h
    exact render_eq_of_same h hv

/-! ## Characters of the compact form -/

theorem le_of_isDigit {c : Char} (h : c.isDigit = true) : ' ' ≤ c := by
  simp only [Char.isDigit, Bool.and_eq_true, decide_eq_true_eq] at h
  exact le_trans (by decide : ' ' ≤ '0') h.1

theorem le_digitChar : ∀ v < 16, ' ' ≤ Nat.digitChar v := by decide

theorem le_of_mem_word {t : List Char} (h : t.all (' ' ≤ ·) = true) : ∀ c ∈ t, ' ' ≤ c := by
  intro c hc
  exact of_decide_eq_true (List.all_eq_true.1 h c hc)

theorem le_of_mem_escape (d : Char) : ∀ c ∈ escape d, ' ' ≤ c := by
  unfold escape
  split_ifs with _ _ _ _ _ _ _ hlow
  · exact le_of_mem_word (by decide)
  · exact le_of_mem_word (by decide)
  · exact le_of_mem_word (by decide)
  · exact le_of_mem_word (by decide)
  · exact le_of_mem_word (by decide)
  · exact le_of_mem_word (by decide)
  · exact le_of_mem_word (by decide)
  · have hlt : d.toNat < 0x20 := hlow
    simp only [List.forall_mem_cons]
    exact ⟨by decide, by decide, by decide, by decide, le_digitChar _ (by omega),
      le_digitChar _ (by omega), fun _ hc => nomatch hc⟩
  · intro c hc
    rw [List.mem_singleton.1 hc]
    exact not_lt.1 hlow

theorem le_of_mem_quote (s : String) : ∀ c ∈ quote s, ' ' ≤ c := by
  intro c hc
  rw [quote, List.mem_append, List.mem_cons, List.mem_flatMap, List.mem_singleton] at hc
  rcases hc with (rfl | ⟨d, -, hd⟩) | rfl
  · decide
  · exact le_of_mem_escape d c hd
  · decide

theorem le_of_mem_integerText (i : Int) : ∀ c ∈ integerText i, ' ' ≤ c := by
  intro c hc
  rw [integerText, List.mem_append] at hc
  rcases hc with hc | hc
  · split at hc
    · rw [List.mem_singleton.1 hc]
      decide
    · cases hc
  · exact le_of_isDigit (Nat.isDigit_of_mem_toDigits (by omega) (by omega) hc)

/-- No control character is in a compact form. -/
theorem le_of_mem_render (h : Regular depth v) : ∀ c ∈ v.render, ' ' ≤ c := by
  induction h with
  | null => exact le_of_mem_word (by decide)
  | @bool _ b =>
      cases b with
      | true => exact le_of_mem_word (by decide)
      | false => exact le_of_mem_word (by decide)
  | @integer _ i _ _ => exact le_of_mem_integerText i
  | @string _ s => exact le_of_mem_quote s
  | @array _ vs _ ih =>
      have hitems : ∀ t ∈ renderItems vs, ∀ c ∈ t, ' ' ≤ c := by
        rw [renderItems_eq_map]
        intro t ht
        obtain ⟨v, hv, rfl⟩ := List.mem_map.1 ht
        exact ih v hv
      intro c hc
      rw [render, List.mem_append, List.mem_cons, List.mem_singleton] at hc
      rcases hc with (rfl | hc) | rfl
      · decide
      · exact Text.forall_mem_join (by decide) hitems c hc
      · decide
  | @object _ ms hnodup _ ih =>
      have hmembers : ∀ t ∈ (sortMembers (renderMembers ms)).map memberText,
          ∀ c ∈ t, ' ' ≤ c := by
        rw [renderMembers_eq_map, sortMembers_map]
        intro t ht c hc
        obtain ⟨e, he, rfl⟩ := List.mem_map.1 ht
        obtain ⟨m, hm, rfl⟩ := List.mem_map.1 he
        rw [memberText, List.mem_append, List.mem_cons] at hc
        rcases hc with hc | rfl | hc
        · exact le_of_mem_quote m.1 c hc
        · decide
        · exact ih m ((perm_sortMembers hnodup).mem_iff.1 hm) c hc
      intro c hc
      rw [render, List.mem_append, List.mem_cons, List.mem_singleton] at hc
      rcases hc with (rfl | hc) | rfl
      · decide
      · exact Text.forall_mem_join (by decide) hmembers c hc
      · decide

end EnvSync.Json
