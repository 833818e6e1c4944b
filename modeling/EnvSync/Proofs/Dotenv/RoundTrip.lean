/-
# Writing an env file and reading it back

The writer puts each value between double quotes and escapes nothing.  So which maps
come back is a matter of the reader alone, and the main statement, `parse_render`,
says it of every map whose values meet four conditions:

* no carriage return, since line breaks are made alike before reading;
* neither backslash with `n` nor backslash with `r`, which reading would expand;
* a backslash directly before each double quote, so that none of them ends the value;
* behind a value that ends in a backslash, no value that starts with a line break or
  with `#` (blanks in front not counted).

The last condition is between neighbours.  A closing quote behind a backslash looks
escaped, and the reader goes on to the next double quote, the one that opens the next
entry's value.  It comes back only if no line can end behind that one (`HoldsLine`).

The first two conditions play no part in where entries end, which is why the
assignments of a rendered map are stated without them (`assignments_join`).
-/
import Mathlib.Data.List.Chain
import Mathlib.Data.List.Infix
import EnvSync.Dotenv.Writer
import EnvSync.Proofs.Dotenv.Parts
import EnvSync.Proofs.OrderedMap
import EnvSync.Proofs.Text.Join

namespace EnvSync.Dotenv

open Text

/-! ## Values that can be read back -/

/-- Behind a quote that opens this value no line can end. -/
structure HoldsLine (v : List Char) : Prop where
  no_break : '\n' ∉ v.takeWhile isBlank
  no_comment : (v.dropWhile isBlank).head? ≠ some '#'

instance (v : List Char) : Decidable (HoldsLine v) :=
  decidable_of_iff ('\n' ∉ v.takeWhile isBlank ∧ (v.dropWhile isBlank).head? ≠ some '#')
    ⟨fun h => ⟨h.1, h.2⟩, fun h => ⟨h.no_break, h.no_comment⟩⟩

theorem HoldsLine.takeLineEnd {v : List Char} (h : HoldsLine v) (s : List Char) :
    takeLineEnd (v ++ '"' :: s) = none := by
  obtain ⟨w, t, rfl, hw, ht⟩ := exists_blanks_append v
  have htake := takeWhile_append_of_stops hw ht
  have hdrop := dropWhile_append_of_stops hw ht
  have hbreak : '\n' ∉ w := htake ▸ h.no_break
  have hhash : t.head? ≠ some '#' := hdrop ▸ h.no_comment
  have hhead : ∀ c, (t ++ '"' :: s).head? = some c → isBlank c = false := by
    intro c hc
    cases t with
    | nil => exact Option.some.inj hc ▸ isBlank_of_isQuote (by decide)
    | cons d t => exact ht c hc
  rw [List.append_assoc, Dotenv.takeLineEnd, dropWhile_append_of_stops hw hhead]
  split
  · next h => exact absurd h (by simp)
  · next h =>
    cases t with
    | nil => exact absurd h (by simp)
    | cons c t => exact absurd (congrArg List.head? h) hhash
  · exact toLastBreak_eq_none hbreak hhead

/-! ## The text of entries -/

def entryChars (e : List Char × List Char) : List Char :=
  e.1 ++ '=' :: '"' :: (e.2 ++ ['"'])

/-- What is read of an entry. -/
def entryAssignment (e : List Char × List Char) : Assignment :=
  ⟨e.1, '"' :: (e.2 ++ ['"'])⟩

theorem takeAssignment_entry {e : List Char × List Char} {s rest : List Char} (hn : IsName e.1)
    (hb : takeBody '"' false (e.2 ++ '"' :: s) = some (e.2, rest)) :
    takeAssignment (entryChars e ++ s) = some (entryAssignment e, rest) := by
  have hchars : entryChars e ++ s = e.1 ++ '=' :: '"' :: (e.2 ++ '"' :: s) := by
    simp [entryChars]
  have hends : EndsName ('=' :: '"' :: (e.2 ++ '"' :: s)) :=
    fun c hc => Option.some.inj hc ▸ by decide
  have hsep := dropSeparator_equals blanks_nil ('"' :: (e.2 ++ '"' :: s))
  have hhead := takeHead_of_takeTarget (takeTarget_append hn hends hsep)
  have hval := takeValue_quoted (q := '"') (by decide) blanks_nil hb
  rw [hchars, takeAssignment, dropWhile_of_stops (stops_of_takeHead hhead), hhead,
    Option.map_some]
  rw [List.nil_append, List.nil_append] at hval
  rw [hval]
  rfl

/-- Behind an entry whose value ends in a backslash the search for a closing quote comes to
the quote that opens the next value, and fails there. -/
theorem takeBody_entry {e : List Char × List Char} (hn : IsName e.1) (hv : HoldsLine e.2)
    (s : List Char) : takeBody '"' false ('\n' :: (entryChars e ++ s)) = none := by
  have hchars : '\n' :: (entryChars e ++ s) = ('\n' :: (e.1 ++ ['='])) ++ '"' :: (e.2 ++ '"' :: s) := by
    simp [entryChars]
  have hmem : '"' ∉ '\n' :: (e.1 ++ ['=']) := by
    intro h
    rcases List.mem_cons.1 h with h | h
    · exact absurd h (by decide)
    · rcases List.mem_append.1 h with h | h
      · exact absurd (hn.chars _ h) (by decide)
      · exact absurd (List.mem_singleton.1 h) (by decide)
  have hlast : ('\n' :: (e.1 ++ ['='])).getLast? ≠ some '\\' := by
    rw [← List.cons_append, List.getLast?_concat]
    decide
  rw [hchars]
  exact takeBody_eq_none hmem hlast (hv.takeLineEnd s)

/-- What has to hold between the values of neighbours. -/
def Follows (v v' : List Char) : Prop := v.getLast? = some '\\' → HoldsLine v'

instance (v v' : List Char) : Decidable (Follows v v') :=
  inferInstanceAs (Decidable (v.getLast? = some '\\' → HoldsLine v'))

/-- Entries joined by line breaks are read as what they are, whatever their values hold. -/
theorem assignments_join {es : List (List Char × List Char)} (names : ∀ e ∈ es, IsName e.1)
    (escaped : ∀ e ∈ es, Escaped '"' e.2) (chain : es.IsChain fun e f => Follows e.2 f.2) :
    assignments (join '\n' (es.map entryChars)) = es.map entryAssignment := by
  induction chain with
  | nil => exact assignments_nil
  | singleton e =>
      have hn := names e List.mem_cons_self
      have hbody : takeBody '"' false (e.2 ++ '"' :: []) = some (e.2, []) :=
        takeBody_append (p := '"') (by decide) (escaped e List.mem_cons_self).after rfl fun _ => rfl
      have h := takeAssignment_entry hn hbody
      rw [List.append_nil] at h
      rw [List.map_singleton, join, assignments_of_some h, dropLine_nil, assignments_nil]
      rfl
  | @cons_cons e f es hef _ ih =>
      have hn := names e List.mem_cons_self
      have hf := names f (List.mem_cons_of_mem e List.mem_cons_self)
      have hjoin : ∃ t, join '\n' ((f :: es).map entryChars) = entryChars f ++ t := by
        cases es with
        | nil => exact ⟨[], (List.append_nil _).symm⟩
        | cons g es => exact ⟨_, rfl⟩
      obtain ⟨t, ht⟩ := hjoin
      obtain ⟨rest, hrest, hassign⟩ :=
        takeLineEnd_newline blanks_nil (join '\n' ((f :: es).map entryChars))
      rw [List.nil_append] at hrest
      have hopen : ('"' :: e.2).getLast? = some '\\' →
          takeBody '"' false ('\n' :: join '\n' ((f :: es).map entryChars)) = none := by
        intro h
        have hl : e.2.getLast? = some '\\' := by
          cases hv : e.2 with
          | nil => exact absurd (hv ▸ h) (by decide)
          | cons c v => rwa [hv, List.getLast?_cons_cons] at h
        rw [ht]
        exact takeBody_entry hf (hef hl) t
      have hbody := takeBody_append (p := '"') (by decide) (escaped e List.mem_cons_self).after
        hrest hopen
      have hnames : ∀ g ∈ f :: es, IsName g.1 := by
        intro g hg
        exact names g (List.mem_cons_of_mem e hg)
      have hescaped : ∀ g ∈ f :: es, Escaped '"' g.2 := by
        intro g hg
        exact escaped g (List.mem_cons_of_mem e hg)
      rw [List.map_cons, join_cons _ _ (by simp), assignments_of_some (takeAssignment_entry hn hbody),
        hassign, ih hnames hescaped]
      rfl

/-! ## The round trip -/

/-- A value that reading does not change. -/
structure Readable (v : List Char) : Prop where
  no_return : '\r' ∉ v
  no_newline_escape : ¬ ['\\', 'n'] <:+: v
  no_return_escape : ¬ ['\\', 'r'] <:+: v
  escaped : Escaped '"' v

instance (v : List Char) : Decidable (Readable v) :=
  decidable_of_iff ('\r' ∉ v ∧ ¬ ['\\', 'n'] <:+: v ∧ ¬ ['\\', 'r'] <:+: v ∧ Escaped '"' v)
    ⟨fun h => ⟨h.1, h.2.1, h.2.2.1, h.2.2.2⟩,
     fun h => ⟨h.no_return, h.no_newline_escape, h.no_return_escape, h.escaped⟩⟩

theorem Readable.bodyValue {v : List Char} (h : Readable v) (q : Char) : bodyValue q v = v := by
  rw [Dotenv.bodyValue, expandNewlines, replacePair_of_absent _ h.no_newline_escape, expandReturns,
    replacePair_of_absent _ h.no_return_escape, ite_self]

def settingChars (e : String × String) : List Char × List Char := (e.1.toList, e.2.toList)

theorem toList_entryText (e : String × String) :
    (entryText e).toList = entryChars (settingChars e) := by
  simp [entryText, entryChars, settingChars, String.toList_append]

theorem toList_render (m : Settings) :
    (render m).toList = join '\n' ((m.entries.map settingChars).map entryChars) := by
  have hmap : (m.entries.map entryText).map String.toList =
      (m.entries.map settingChars).map entryChars := by
    rw [List.map_map, List.map_map]
    exact List.map_congr_left fun e _ => toList_entryText e
  rw [render, String.toList_intercalate, hmap, join_eq_intercalate]
  rfl

theorem return_notMem_render {m : Settings} (names : ∀ e ∈ m.entries, IsName e.1.toList)
    (values : ∀ e ∈ m.entries, '\r' ∉ e.2.toList) : '\r' ∉ (render m).toList := by
  rw [toList_render]
  refine notMem_join (by decide) ?_
  intro p hp
  obtain ⟨s, hs, rfl⟩ := List.mem_map.1 hp
  obtain ⟨e, he, rfl⟩ := List.mem_map.1 hs
  have hname : '\r' ∉ e.1.toList := by
    intro h
    exact absurd ((names e he).chars _ h) (by decide)
  simp [entryChars, settingChars, hname, values e he]

/-- A map whose values can be read back is what reading makes of its text: the same names
with the same values, in the same order. -/
theorem parse_render {m : Settings} (names : ∀ k ∈ m.keys, IsName k.toList)
    (values : ∀ e ∈ m.entries, Readable e.2.toList)
    (chain : m.entries.IsChain fun e f => Follows e.2.toList f.2.toList) :
    parse (render m) = m := by
  have names' : ∀ e ∈ m.entries, IsName e.1.toList := by
    intro e he
    exact names e.1 (List.mem_map_of_mem he)
  have hunify : unifyLineBreaks (render m).toList = (render m).toList :=
    unifyLineBreaks_of_no_return
      (return_notMem_render names' fun e he => (values e he).no_return)
  have hassign : assignments (render m).toList =
      (m.entries.map settingChars).map entryAssignment := by
    rw [toList_render]
    refine assignments_join ?_ ?_ ?_
    · intro e he
      obtain ⟨s, hs, rfl⟩ := List.mem_map.1 he
      exact names' s hs
    · intro e he
      obtain ⟨s, hs, rfl⟩ := List.mem_map.1 he
      exact (values s hs).escaped
    · exact (List.isChain_map settingChars).2 chain
  have hvalue : ∀ e ∈ m.entries, (String.ofList (entryAssignment (settingChars e)).name,
      String.ofList (entryAssignment (settingChars e)).value) = e := by
    intro e he
    have hv : (entryAssignment (settingChars e)).value = e.2.toList :=
      (value_quoted (q := '"') (by decide) blanks_nil _ _).trans
        ((values e he).bodyValue '"')
    rw [hv, String.ofList_toList]
    show (String.ofList e.1.toList, e.2) = e
    rw [String.ofList_toList]
  have hentries : ((m.entries.map settingChars).map entryAssignment).map
      (fun a => (String.ofList a.name, String.ofList a.value)) = m.entries := by
    rw [List.map_map, List.map_map]
    exact (List.map_congr_left hvalue).trans (List.map_id m.entries)
  rw [parse, hunify, hassign, hentries, OrderedMap.ofList_entries]

/-- Among the values: an escaped quote in front of a comment mark, a line that looks like an
assignment, a backslash at the end in front of blanks, and nothing at all. -/
theorem parse_render_of_awkward_values :
    let m : Settings := ⟨[("export", "a\\\"  # b\nX=1"), ("K.1", " 'ends\\"), ("L-", "  \t"),
      ("M", "")], by decide⟩
    (∀ k ∈ m.keys, IsName k.toList) ∧ (∀ e ∈ m.entries, Readable e.2.toList) ∧
      (m.entries.IsChain fun e f => Follows e.2.toList f.2.toList) ∧ parse (render m) = m := by
  intro m
  have names : ∀ k ∈ m.keys, IsName k.toList := by
    simp only [m, OrderedMap.keys, List.map_cons, List.map_nil, List.forall_mem_cons,
      String.reduceToList]
    decide
  have values : ∀ e ∈ m.entries, Readable e.2.toList := by
    simp only [m, List.forall_mem_cons, String.reduceToList, String.toList_empty]
    decide
  have chain : m.entries.IsChain fun e f => Follows e.2.toList f.2.toList := by
    simp only [m, List.isChain_cons_cons, String.reduceToList, String.toList_empty]
    decide
  exact ⟨names, values, chain, parse_render names values chain⟩

end EnvSync.Dotenv
