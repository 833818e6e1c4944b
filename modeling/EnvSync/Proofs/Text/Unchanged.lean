/-
# Texts that reading leaves alone

An env file is given line breaks of one kind before it is read, and a value is
trimmed and has its escapes expanded afterwards.  Each of these is the identity on
the texts it has nothing to do in, and what follows says which those are: no
carriage return, no occurrence of the pair, no blank at either end.
-/
import EnvSync.Proofs.Text.Front
import EnvSync.Text.Blank
import EnvSync.Text.Pair

namespace EnvSync.Text

/-! ## Pairs -/

theorem replacePair_of_absent {a b : Char} (c : Char) :
    ∀ {s : List Char}, ¬ [a, b] <:+: s → replacePair a b c s = s
  | [], _ => rfl
  | [_], _ => rfl
  | x :: y :: s, h => by
      have hxy : ¬ (x = a ∧ y = b) := by
        rintro ⟨rfl, rfl⟩
        exact h ⟨[], s, rfl⟩
      have hs : ¬ [a, b] <:+: y :: s := by
        intro hi
        exact h (hi.trans (List.suffix_cons x _).isInfix)
      rw [replacePair, if_neg hxy, replacePair_of_absent c hs]

theorem unifyLineBreaks_of_no_return {s : List Char} (h : '\r' ∉ s) : unifyLineBreaks s = s := by
  have hp : ¬ ['\r', '\n'] <:+: s := by
    intro hi
    exact h (hi.subset List.mem_cons_self)
  rw [unifyLineBreaks, replacePair_of_absent '\n' hp]
  calc s.map (fun c => if c = '\r' then '\n' else c)
      = s.map id := List.map_congr_left fun c hc => if_neg fun (hr : c = '\r') => h (hr ▸ hc)
    _ = s := List.map_id s

/-! ## Blanks at the ends -/

def Blanks (s : List Char) : Prop := ∀ c ∈ s, isBlank c = true

/-- No blank at either end. -/
structure Tight (s : List Char) : Prop where
  head : ∀ c, s.head? = some c → isBlank c = false
  last : ∀ c, s.getLast? = some c → isBlank c = false

theorem blanks_nil : Blanks [] := by
  intro c hc
  cases hc

theorem blanks_newline : Blanks ['\n'] := by
  intro c hc
  rw [List.mem_singleton.1 hc]
  rfl

theorem Blanks.append {w w' : List Char} (h : Blanks w) (h' : Blanks w') : Blanks (w ++ w') := by
  intro c hc
  rcases List.mem_append.1 hc with hc | hc
  · exact h c hc
  · exact h' c hc

theorem exists_blanks_append (s : List Char) :
    ∃ w t, s = w ++ t ∧ Blanks w ∧ ∀ c, t.head? = some c → isBlank c = false := by
  refine ⟨s.takeWhile isBlank, s.dropWhile isBlank, List.takeWhile_append_dropWhile.symm, ?_, ?_⟩
  · intro c hc
    exact List.all_eq_true.1 List.all_takeWhile c hc
  · exact stops_dropWhile isBlank s

theorem trim_infix (s : List Char) : trim s <:+: s := by
  have hend := List.reverse_prefix.2 (List.dropWhile_suffix (l := (trimStart s).reverse) isBlank)
  rw [List.reverse_reverse] at hend
  exact hend.isInfix.trans (List.dropWhile_suffix isBlank).isInfix

theorem trim_around {w s w' : List Char} (hw : Blanks w) (hs : Tight s) (hw' : Blanks w') :
    trim (w ++ s ++ w') = s := by
  have hend : trimEnd (s ++ w') = s := by
    have hr : Blanks w'.reverse := by
      intro c hc
      exact hw' c (List.mem_reverse.1 hc)
    have hl : s.reverse.dropWhile isBlank = s.reverse :=
      dropWhile_of_stops fun c hc => hs.last c (List.head?_reverse ▸ hc)
    rw [trimEnd, List.reverse_append, List.dropWhile_append_of_pos hr, hl, List.reverse_reverse]
  rw [trim, trimStart, List.append_assoc, List.dropWhile_append_of_pos hw]
  cases s with
  | nil =>
      have hn : ([] ++ w').dropWhile isBlank = [] := dropWhile_of_forall hw'
      rw [hn]
      rfl
  | cons c s =>
      have hh : (c :: s ++ w').dropWhile isBlank = c :: s ++ w' :=
        dropWhile_of_stops fun d hd => hs.head d hd
      rw [hh]
      exact hend

end EnvSync.Text
