/-
# Line endings do not matter

An env file may end its lines in LF, in CR LF or in CR, each line as it likes, and is read as if
it had nothing but LF.  This holds of well-formed files and of any other text, inside quotes and
outside, because line breaks are made of one kind before anything else is looked at.

So no carriage return of the file is left when values are taken, and those of a value come from
its escapes.  They are as many as there are escapes in it as it is written, and there are none
where it does not begin with a double quote (`count_return_unquote`): the quotes that a value loses
belong to no escape, and a line break that takes the place of backslash and `n` puts no backslash
in front of an `r`.
-/
import EnvSync.Proofs.Dotenv.Stretches
import EnvSync.Proofs.Text.Pair
import Mathlib

namespace EnvSync.Dotenv

open Text

/-! ## Carriage returns of a value -/

theorem written_infix {s : List Char} {a : Assignment} (h : a ∈ assignments s) :
    a.written <:+: s := by
  obtain ⟨ps, hps, -, hmap⟩ := foundBehind_assignments (List.nil_append s).symm (.inl rfl)
  rw [← hmap] at h
  obtain ⟨p, hp, rfl⟩ := List.mem_map.1 h
  obtain ⟨-, rest, htext, -⟩ := hps.lines p hp
  refine ⟨p.upToValue, p.stretch.tail.1 ++ rest, ?_⟩
  rw [htext]
  simp only [Placed.through, Placed.upToValue, Stretch.text, Stretch.assignment, List.append_assoc]

/-- The quotes of a value belong to none of its escapes. -/
theorem occurrences_unquoted (s : List Char) :
    occurrences '\\' 'r' (if s.getLast? = some '"' then s.dropLast else '"' :: s) =
      occurrences '\\' 'r' ('"' :: s) := by
  have hfront : occurrences '\\' 'r' ('"' :: s) = occurrences '\\' 'r' s := by
    simp [occurrences_cons]
  split
  · next h =>
    obtain ⟨t, rfl⟩ := List.getLast?_eq_some_iff.1 h
    rw [hfront, List.dropLast_concat, occurrences_append_cons (by decide) t []]
    rfl
  · rfl

/-- Between double quotes each escape becomes a carriage return, and nothing else does. -/
theorem count_return_unquote {v : List Char} (h : '\r' ∉ v) :
    (unquote v).count '\r' = if v.head? = some '"' then occurrences '\\' 'r' v else 0 := by
  cases v with
  | nil => rfl
  | cons q s =>
      have hinner : '\r' ∉ if s.getLast? = some q then s.dropLast else q :: s := by
        split
        · exact fun hm => h (List.mem_cons_of_mem q (List.dropLast_subset s hm))
        · exact h
      rw [unquote]
      by_cases hq : q = '"'
      · subst hq
        have hexpanded : '\r' ∉ expandNewlines
            (if s.getLast? = some '"' then s.dropLast else '"' :: s) :=
          fun hm => hinner (mem_of_mem_replacePair (by decide) hm)
        have hcount := count_replacePair (c := '\r') (a := '\\') (b := 'r') (by decide) (by decide)
          (by decide) (expandNewlines (if s.getLast? = some '"' then s.dropLast else '"' :: s))
        rw [List.count_eq_zero.2 hexpanded, Nat.zero_add, expandNewlines,
          occurrences_replacePair (by decide) (by decide) (by decide) (by decide) (by decide),
          occurrences_unquoted] at hcount
        exact hcount
      · have hhead : ¬ (q :: s).head? = some '"' := fun he => hq (Option.some.inj he)
        rw [if_neg hhead]
        split
        · exact List.count_eq_zero.2 hinner
        · exact List.count_eq_zero.2 h

/-! ## Texts with other line endings -/

theorem exists_assignment_of_get? {text k v : String} (h : (parse text).get? k = some v) :
    ∃ a ∈ assignments (unifyLineBreaks text.toList), .ofList a.name = k ∧ .ofList a.value = v := by
  rw [parse, OrderedMap.get?_ofList] at h
  obtain ⟨a, ha, he⟩ := List.mem_map.1 (List.mem_reverse.1 (OrderedMap.mem_of_valueIn h))
  cases he
  exact ⟨a, ha, rfl, rfl⟩

/-- However the line breaks of a text are rewritten, it is read alike.  And whatever line breaks
it has, each carriage return of a value is from an escape that stands in the text, in a value
that begins with a double quote. -/
theorem parse_of_line_endings (text : String) :
    ('\r' ∉ text.toList →
      (∀ text' : String, Rebroken text.toList text'.toList → parse text' = parse text) ∧
      parse (.ofList (text.toList.map fun c => if c = '\n' then '\r' else c)) = parse text) ∧
    ∀ k v, (parse text).get? k = some v →
      ∃ a ∈ assignments (unifyLineBreaks text.toList), .ofList a.name = k ∧ .ofList a.value = v ∧
        a.written <:+: unifyLineBreaks text.toList ∧
        v.toList.count '\r' = if (trim a.written).head? = some '"'
          then occurrences '\\' 'r' (trim a.written) else 0 := by
  refine ⟨fun hnone => ?_, fun k v hv => ?_⟩
  · have hparse : ∀ text' : String, Rebroken text.toList text'.toList →
        parse text' = parse text := by
      intro text' h
      rw [parse, parse, unifyLineBreaks_of_rebroken h hnone, unifyLineBreaks_of_no_return hnone]
    refine ⟨hparse, hparse _ ?_⟩
    rw [String.toList_ofList]
    exact rebroken_returns text.toList
  · obtain ⟨a, ha, rfl, rfl⟩ := exists_assignment_of_get? hv
    have hwritten := written_infix ha
    have htrim := trim_infix a.written
    refine ⟨a, ha, rfl, rfl, hwritten, ?_⟩
    rw [String.toList_ofList]
    refine count_return_unquote fun hm => return_notMem_unifyLineBreaks text.toList ?_
    exact hwritten.subset (htrim.subset hm)

/-- Three lines that end in CR LF, in CR and in LF, one of the breaks inside quotes; of the two
escapes only the one between double quotes becomes a carriage return. -/
theorem parse_of_line_endings_of_three_kinds :
    '\r' ∉ "A=\"x\ny\\r\"\nB='\\r'\n".toList ∧
      Rebroken "A=\"x\ny\\r\"\nB='\\r'\n".toList "A=\"x\r\ny\\r\"\rB='\\r'\n".toList ∧
      parse "A=\"x\r\ny\\r\"\rB='\\r'\n" = parse "A=\"x\ny\\r\"\nB='\\r'\n" ∧
      (parse "A=\"x\ny\\r\"\nB='\\r'\n").entries = [("A", "x\ny\r"), ("B", "\\r")] := by
  have none : '\r' ∉ "A=\"x\ny\\r\"\nB='\\r'\n".toList := by decide
  have rebroken : Rebroken "A=\"x\ny\\r\"\nB='\\r'\n".toList
      "A=\"x\r\ny\\r\"\rB='\\r'\n".toList :=
    .same 'A' (.same '=' (.same '"' (.same 'x' (.crlf (.same 'y' (.same '\\' (.same 'r' (.same '"'
      (.cr (.same 'B' (.same '=' (.same '\'' (.same '\\' (.same 'r' (.same '\'' (.same '\n'
        .nil))))))) (by decide))))))))))
  refine ⟨none, rebroken, ((parse_of_line_endings _).1 none).1 _ rebroken, ?_⟩
  cbv

end EnvSync.Dotenv
