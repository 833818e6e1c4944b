/-
# What comes back of any map

`parse_render` says which maps come back as they were.  Here is what comes back of the
others: the same names in the same order, as long as every double quote in a value has
a backslash before it and no value ends in one that hides its closing quote
(`parse_render_eq_mapValues`).  A value is not the same then.  Its line breaks have
been made alike and its escapes expanded (`reread`), and it survives that only if it
had neither (`reread_eq_self_iff`).

Two things make this more than the round trip again.  Where entries end is decided on
the text whose line breaks have been made alike, and that text is the one of the map
whose values have been made alike one by one (`unifyLineBreaks_join`): a carriage
return at the end of a value has a quote behind it, never a line feed.  And a double
quote keeps its backslash, because no replacement of a line break comes between the
two (`Escaped.unifyLineBreaks`).
-/
import EnvSync.Proofs.Dotenv.RoundTrip
import EnvSync.Proofs.Dotenv.Taken
import EnvSync.Proofs.Text.LineBreaks

namespace EnvSync.Dotenv

open Text

/-! ## Names that are read -/

theorem isName_of_mem_assignments {s : List Char} {a : Assignment} (h : a ∈ assignments s) :
    IsName a.name := by
  fun_induction assignments s with
  | case1 => cases h
  | case2 s _ b rest hb ih =>
      rcases List.mem_cons.1 h with rfl | h
      · obtain ⟨⟨name, t⟩, ht, he⟩ := Option.map_eq_some_iff.1 hb
        obtain ⟨rfl, -⟩ := Prod.mk.inj he
        exact (takeHead_eq_some ht).1
      · exact ih h
  | case3 s _ _ ih => exact ih h

theorem isName_of_mem_keys_parse {text name : String} (h : name ∈ (parse text).keys) :
    IsName name.toList := by
  rw [parse, OrderedMap.keys_ofList, List.mem_eraseDups, List.map_map] at h
  obtain ⟨a, ha, rfl⟩ := List.mem_map.1 h
  show IsName (String.ofList a.name).toList
  rw [String.toList_ofList]
  exact isName_of_mem_assignments ha

/-! ## Values that are read again -/

/-- What a value is read as once it has been written. -/
def reread (v : String) : String := .ofList (bodyValue '"' (unifyLineBreaks v.toList))

/-- A value without carriage returns and without escapes. -/
structure Settled (v : List Char) : Prop where
  no_return : '\r' ∉ v
  no_newline_escape : ¬ ['\\', 'n'] <:+: v
  no_return_escape : ¬ ['\\', 'r'] <:+: v

instance (v : List Char) : Decidable (Settled v) :=
  decidable_of_iff ('\r' ∉ v ∧ ¬ ['\\', 'n'] <:+: v ∧ ¬ ['\\', 'r'] <:+: v)
    ⟨fun h => ⟨h.1, h.2.1, h.2.2⟩, fun h => ⟨h.no_return, h.no_newline_escape, h.no_return_escape⟩⟩

/-- Writing and reading a value changes it unless it is settled: each of the three steps can
only shorten it, and the one that does not shorten it takes the carriage returns away. -/
theorem reread_eq_self_iff {v : String} : reread v = v ↔ Settled v.toList := by
  constructor
  · intro h
    have hv : expandReturns (expandNewlines (unifyLineBreaks v.toList)) = v.toList := by
      rw [← String.toList_ofList (l := expandReturns _)]
      exact congrArg String.toList h
    have hle := length_unifyLineBreaks_le v.toList
    have hle' := length_replacePair_le (a := '\\') (b := 'n') (c := '\n') (unifyLineBreaks v.toList)
    have hlen := congrArg List.length hv
    have hreturn : ¬ ['\\', 'r'] <:+: expandNewlines (unifyLineBreaks v.toList) := by
      intro hi
      have hlt := length_replacePair_lt (c := '\r') hi
      simp only [expandReturns, expandNewlines] at hlen hlt
      omega
    rw [expandReturns, replacePair_of_absent _ hreturn] at hv hlen
    have hnewline : ¬ ['\\', 'n'] <:+: unifyLineBreaks v.toList := by
      intro hi
      have hlt := length_replacePair_lt (c := '\n') hi
      simp only [expandNewlines] at hlen
      omega
    rw [expandNewlines, replacePair_of_absent _ hnewline] at hv hreturn
    rw [hv] at hreturn hnewline
    exact ⟨hv ▸ return_notMem_unifyLineBreaks v.toList, hnewline, hreturn⟩
  · rintro ⟨hr, hn, hr'⟩
    rw [reread, unifyLineBreaks_of_no_return hr, bodyValue, if_pos rfl, expandNewlines,
      replacePair_of_absent _ hn, expandReturns, replacePair_of_absent _ hr', String.ofList_toList]

/-! ## Line breaks and backslashes -/

theorem EscapedAfter.of_ne {q p p' : Char} {s : List Char} (h : EscapedAfter q p s)
    (hp : p ≠ '\\') : EscapedAfter q p' s := by
  cases s with
  | nil => exact escapedAfter_nil q p'
  | cons c s =>
      obtain ⟨hc, h⟩ := escapedAfter_cons.1 h
      exact escapedAfter_cons.2 ⟨fun he => absurd (hc he) hp, h⟩

/-- A replaced pair that does not end in a backslash was not in front of a `q`. -/
theorem EscapedAfter.replacePair {q a b c p : Char} {s : List Char} (hb : b ≠ '\\') (hc : c ≠ q)
    (h : EscapedAfter q p s) : EscapedAfter q p (replacePair a b c s) := by
  fun_induction Text.replacePair a b c s generalizing p with
  | case1 | case2 => exact h
  | case3 y z s hyz ih =>
      obtain ⟨rfl, rfl⟩ := hyz
      exact escapedAfter_cons.2 ⟨fun he => absurd he hc, ih (h.tail.tail.of_ne hb)⟩
  | case4 y z s _ ih =>
      obtain ⟨hy, h⟩ := escapedAfter_cons.1 h
      exact escapedAfter_cons.2 ⟨hy, ih h⟩

theorem EscapedAfter.mapReturn {q p : Char} {s : List Char} (hq : q ≠ '\n')
    (h : EscapedAfter q p s) : EscapedAfter q p (s.map fun c => if c = '\r' then '\n' else c) := by
  induction s generalizing p with
  | nil => exact escapedAfter_nil q p
  | cons c s ih =>
      obtain ⟨hc, hs⟩ := escapedAfter_cons.1 h
      rw [List.map_cons]
      by_cases hr : c = '\r'
      · subst hr
        rw [if_pos rfl]
        exact escapedAfter_cons.2 ⟨fun he => absurd he.symm hq, ih (hs.of_ne (by decide))⟩
      · rw [if_neg hr]
        exact escapedAfter_cons.2 ⟨hc, ih hs⟩

theorem EscapedAfter.unifyLineBreaks {q p : Char} {s : List Char} (hq : q ≠ '\n')
    (h : EscapedAfter q p s) : EscapedAfter q p (unifyLineBreaks s) :=
  (h.replacePair (by decide) hq.symm).mapReturn hq

theorem Escaped.unifyLineBreaks {q : Char} {s : List Char} (hq : q ≠ '\n') (hq' : q ≠ '\\')
    (h : Escaped q s) : Escaped q (unifyLineBreaks s) :=
  .of_after hq' (EscapedAfter.unifyLineBreaks hq h.after)

/-! ## The text of any map -/

/-- An entry whose value has its line breaks made alike. -/
def unifyEntry (e : List Char × List Char) : List Char × List Char :=
  (e.1, unifyLineBreaks e.2)

theorem unifyLineBreaks_entryChars {e : List Char × List Char} (hn : IsName e.1) (s : List Char) :
    unifyLineBreaks (entryChars e ++ s) = entryChars (unifyEntry e) ++ unifyLineBreaks s := by
  have hname : '\r' ∉ e.1 ++ ['=', '"'] := by
    intro h
    rcases List.mem_append.1 h with h | h
    · exact absurd (hn.chars _ h) (by decide)
    · exact absurd h (by decide)
  have hopen : entryChars e ++ s = (e.1 ++ ['=', '"']) ++ (e.2 ++ '"' :: s) := by
    simp [entryChars]
  have hclose : unifyLineBreaks ('"' :: s) = '"' :: unifyLineBreaks s :=
    unifyLineBreaks_append_of_no_return (s := ['"']) (by decide) s
  rw [hopen, unifyLineBreaks_append_of_no_return hname, unifyLineBreaks_append (by decide), hclose]
  simp [entryChars, unifyEntry]

theorem unifyLineBreaks_join {es : List (List Char × List Char)} (names : ∀ e ∈ es, IsName e.1) :
    unifyLineBreaks (join '\n' (es.map entryChars)) =
      join '\n' ((es.map unifyEntry).map entryChars) := by
  induction es with
  | nil => rfl
  | cons e es ih =>
      have hn := names e List.mem_cons_self
      cases es with
      | nil =>
          have h := unifyLineBreaks_entryChars hn []
          rw [List.append_nil] at h
          exact h.trans (List.append_nil _)
      | cons f es =>
          have hnames : ∀ g ∈ f :: es, IsName g.1 := by
            intro g hg
            exact names g (List.mem_cons_of_mem e hg)
          have hbreak : unifyLineBreaks ('\n' :: join '\n' ((f :: es).map entryChars)) =
              '\n' :: unifyLineBreaks (join '\n' ((f :: es).map entryChars)) :=
            unifyLineBreaks_append_of_no_return (s := ['\n']) (by decide) _
          have hjoin : join '\n' ((e :: f :: es).map entryChars) =
              entryChars e ++ '\n' :: join '\n' ((f :: es).map entryChars) :=
            join_cons _ _ (by simp)
          have hjoin' : join '\n' (((e :: f :: es).map unifyEntry).map entryChars) =
              entryChars (unifyEntry e) ++
                '\n' :: join '\n' (((f :: es).map unifyEntry).map entryChars) :=
            join_cons _ _ (by simp)
          rw [hjoin, hjoin', unifyLineBreaks_entryChars hn, hbreak, ih hnames]

/-- What has to hold between the values of neighbours, whatever their line breaks. -/
def Keeps (v v' : String) : Prop :=
  Follows (unifyLineBreaks v.toList) (unifyLineBreaks v'.toList)

instance (v v' : String) : Decidable (Keeps v v') :=
  inferInstanceAs (Decidable (Follows _ _))

theorem keeps_of_getLast? {v : String} (h : v.toList.getLast? ≠ some '\\') (v' : String) :
    Keeps v v' :=
  fun hl => absurd (getLast?_unifyLineBreaks (by decide) hl) h

/-- A map whose entries are told apart comes back with its names in order, and with each
value as it is read again. -/
theorem parse_render_eq_mapValues {m : Settings} (names : ∀ k ∈ m.keys, IsName k.toList)
    (escaped : ∀ e ∈ m.entries, Escaped '"' e.2.toList)
    (chain : m.entries.IsChain fun e f => Keeps e.2 f.2) :
    parse (render m) = m.mapValues fun _ => reread := by
  have names' : ∀ s ∈ m.entries.map settingChars, IsName s.1 := by
    intro s hs
    obtain ⟨e, he, rfl⟩ := List.mem_map.1 hs
    exact names e.1 (List.mem_map_of_mem he)
  have hassign : assignments (unifyLineBreaks (render m).toList) =
      ((m.entries.map settingChars).map unifyEntry).map entryAssignment := by
    rw [toList_render, unifyLineBreaks_join names']
    refine assignments_join ?_ ?_ ?_
    · intro e he
      obtain ⟨s, hs, rfl⟩ := List.mem_map.1 he
      exact names' s hs
    · intro e he
      obtain ⟨s, hs, rfl⟩ := List.mem_map.1 he
      obtain ⟨x, hx, rfl⟩ := List.mem_map.1 hs
      exact (escaped x hx).unifyLineBreaks (by decide) (by decide)
    · rw [List.map_map]
      exact (List.isChain_map (unifyEntry ∘ settingChars)).2 chain
  have hentries : (((m.entries.map settingChars).map unifyEntry).map entryAssignment).map
      (fun a => (String.ofList a.name, String.ofList a.value)) =
      (m.mapValues fun _ => reread).entries := by
    rw [List.map_map, List.map_map, List.map_map]
    refine List.map_congr_left fun e _ => ?_
    have hvalue : (entryAssignment (unifyEntry (settingChars e))).value =
        bodyValue '"' (unifyLineBreaks e.2.toList) :=
      value_quoted (q := '"') (by decide) blanks_nil _ _
    show (String.ofList e.1.toList,
        String.ofList (entryAssignment (unifyEntry (settingChars e))).value) =
      (e.1, reread e.2)
    rw [hvalue, String.ofList_toList]
    rfl
  rw [parse, hassign, hentries, OrderedMap.ofList_entries]

/-! ## Maps that come back -/

/-- Every name of the map can be written and read. -/
def Named (m : Settings) : Prop := ∀ k ∈ m.keys, IsName k.toList

theorem Named.merge {m n : Settings} (hm : Named m) (hn : Named n) : Named (m.merge n) :=
  fun k hk => (OrderedMap.mem_merge.1 hk).elim (hm k) (hn k)

theorem named_parse (text : String) : Named (parse text) := fun _ hk => isName_of_mem_keys_parse hk

/-- A value that comes back whatever stands behind it. -/
structure Plain (v : List Char) : Prop extends Settled v where
  escaped : Escaped '"' v
  last : v.getLast? ≠ some '\\'

instance (v : List Char) : Decidable (Plain v) :=
  decidable_of_iff (Settled v ∧ Escaped '"' v ∧ v.getLast? ≠ some '\\')
    ⟨fun h => ⟨h.1, h.2.1, h.2.2⟩, fun h => ⟨h.toSettled, h.escaped, h.last⟩⟩

/-- Where no value ends in a backslash, entries are told apart. -/
theorem isChain_keeps {m : Settings} (h : ∀ e ∈ m.entries, e.2.toList.getLast? ≠ some '\\') :
    m.entries.IsChain fun e f => Keeps e.2 f.2 := by
  refine (List.isChain_isInfix m.entries).imp fun e f hef => ?_
  exact keeps_of_getLast? (h e (hef.subset List.mem_cons_self)) f.2

theorem parse_render_of_plain {m : Settings} (names : Named m)
    (plain : ∀ e ∈ m.entries, Plain e.2.toList) : parse (render m) = m := by
  have hreload := parse_render_eq_mapValues names (fun e he => (plain e he).escaped)
    (isChain_keeps fun e he => (plain e he).last)
  rw [hreload]
  exact OrderedMap.mapValues_eq_self fun e he => reread_eq_self_iff.2 (plain e he).toSettled

end EnvSync.Dotenv
