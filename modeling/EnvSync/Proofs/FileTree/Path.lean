/-
# Paths and where they lead

A path is followed by its components, and the directories that are made for a file are
those of its ancestors, which are texts cut out of the path.  Here the two are brought
together: the names of a parent are those of its path but for the last
(`names_of_parent?`), so without `..` every ancestor leads to a location that the path
passes (`passes_ancestor`).

Parents are taken on the reversed path.  What is dropped there are slashes, dots and one
name, and a reversed path has the same pieces from the other end, so each of the three is
seen on the pieces alone.
-/
import EnvSync.Proofs.FileTree.Replace
import EnvSync.Proofs.Text.Front
import EnvSync.Proofs.Text.Join

namespace EnvSync.FileTree

open Text

variable {s p : List Char}

/-! ## Names in a text -/

/-- A piece of a path that names something. -/
def IsProper (piece : List Char) : Prop := piece ≠ [] ∧ piece ≠ ['.']

instance (piece : List Char) : Decidable (IsProper piece) :=
  inferInstanceAs (Decidable (_ ∧ _))

def properPieces (s : List Char) : List (List Char) :=
  (split '/' s).filter fun p => IsProper p

theorem properPieces_slash (s : List Char) : properPieces ('/' :: s) = properPieces s := by
  have h : split '/' ('/' :: s) = [[]] ++ split '/' s := split_append '/' [] s
  rw [properPieces, h, List.filter_append]
  rfl

theorem properPieces_dot_slash (s : List Char) :
    properPieces ('.' :: '/' :: s) = properPieces s := by
  have h : split '/' ('.' :: '/' :: s) = [['.']] ++ split '/' s := split_append '/' ['.'] s
  rw [properPieces, h, List.filter_append]
  rfl

theorem properPieces_reverse (s : List Char) :
    properPieces s.reverse = ((properPieces s).map List.reverse).reverse := by
  have h : ∀ p : List Char, IsProper p.reverse ↔ IsProper p := by
    intro p
    rw [IsProper, IsProper, ne_eq, ne_eq, List.reverse_eq_nil_iff, List.reverse_eq_iff]
    rfl
  have hf : ((fun p => decide (IsProper p)) ∘ List.reverse) = fun p => decide (IsProper p) :=
    funext fun p => decide_eq_decide.2 (h p)
  rw [properPieces, properPieces, split_reverse, List.filter_reverse, List.filter_map, hf]

theorem properPieces_dropIdle (s : List Char) : properPieces (dropIdle s) = properPieces s := by
  fun_induction dropIdle s with
  | case1 s ih => rw [ih, properPieces_slash]
  | case2 s ih => rw [ih, properPieces_dot_slash]
  | case3 => rfl
  | case4 => rfl

theorem isProper_of_dropIdle {c : Char} {r : List Char} (h : dropIdle s = c :: r) :
    IsProper ((c :: r).takeWhile (· ≠ '/')) := by
  fun_induction dropIdle s with
  | case1 s ih => exact ih h
  | case2 s ih => exact ih h
  | case3 => cases h
  | case4 s noSlash noDotSlash noDot =>
      subst h
      have hc : c ≠ '/' := by
        rintro rfl
        exact noSlash r rfl
      rw [List.takeWhile_cons_of_pos (by simpa using hc)]
      refine ⟨List.cons_ne_nil _ _, fun hdot => ?_⟩
      obtain ⟨rfl, hr⟩ := List.cons.inj hdot
      cases r with
      | nil => exact noDot rfl
      | cons d r =>
          by_cases hd : d = '/'
          · subst hd
            exact noDotSlash r rfl
          · rw [List.takeWhile_cons_of_pos (by simpa using hd)] at hr
            cases hr

theorem properPieces_eq_cons (h : IsProper (s.takeWhile (· ≠ '/'))) :
    properPieces s = s.takeWhile (· ≠ '/') :: properPieces (dropName s) := by
  have hs := List.takeWhile_append_dropWhile (p := (· ≠ '/')) (l := s)
  have hname : '/' ∉ s.takeWhile (· ≠ '/') := by
    intro hm
    simpa using List.all_eq_true.1 List.all_takeWhile '/' hm
  rw [dropName]
  cases hd : s.dropWhile (· ≠ '/') with
  | nil =>
      rw [hd, List.append_nil] at hs
      rw [hs] at h hname ⊢
      rw [properPieces, split_of_notMem hname, List.filter_cons_of_pos (by simpa using h)]
      rfl
  | cons d b =>
      have hslash : d = '/' := by
        have := stops_dropWhile (· ≠ '/') s d (by rw [hd]; rfl)
        simpa using this
      subst hslash
      have hsplit : split '/' s = s.takeWhile (· ≠ '/') :: split '/' b := by
        have happend := split_append '/' (s.takeWhile (· ≠ '/')) b
        rwa [← hd, hs, split_of_notMem hname] at happend
      rw [properPieces, hsplit, List.filter_cons_of_pos (by simpa using h)]
      rfl

theorem properPieces_of_parentOfReversed (h : parentOfReversed s = some p) :
    ∃ name, properPieces s = name :: properPieces p := by
  rw [parentOfReversed] at h
  split at h
  · cases h
  · next c r hs =>
    cases h
    refine ⟨(c :: r).takeWhile (· ≠ '/'), ?_⟩
    rw [properPieces_dropIdle, ← properPieces_eq_cons (isProper_of_dropIdle hs), ← hs,
      properPieces_dropIdle]

theorem properPieces_of_parentOfReversed_eq_none (h : parentOfReversed s = none) :
    properPieces s = [] := by
  rw [parentOfReversed] at h
  split at h
  · next hs => rw [← properPieces_dropIdle, hs]; rfl
  · cases h

theorem dropIdle_suffix (s : List Char) : dropIdle s <:+ s := by
  fun_induction dropIdle s with
  | case1 s ih => exact ih.trans (List.suffix_cons '/' s)
  | case2 s ih => exact ih.trans ⟨['.', '/'], rfl⟩
  | case3 => exact List.nil_suffix
  | case4 s => exact List.suffix_refl s

theorem suffix_of_parentOfReversed (h : parentOfReversed s = some p) : p <:+ s := by
  rw [parentOfReversed] at h
  split at h
  · cases h
  · next c r hs =>
    cases h
    have hidle : c :: r <:+ s := hs ▸ dropIdle_suffix s
    have hname : dropName (c :: r) <:+ c :: r :=
      (List.tail_suffix _).trans (List.dropWhile_suffix _)
    exact (dropIdle_suffix _).trans (hname.trans hidle)

theorem properPieces_of_parentOfReversed_reverse (h : parentOfReversed s.reverse = some p) :
    ∃ name, properPieces s = properPieces p.reverse ++ [name] := by
  obtain ⟨name, hname⟩ := properPieces_of_parentOfReversed h
  have hs := properPieces_reverse s.reverse
  rw [List.reverse_reverse, hname, List.map_cons, List.reverse_cons, ← properPieces_reverse] at hs
  exact ⟨name.reverse, hs⟩

/-! ## Names of a path -/

/-- The names that a path goes through, each of which leads somewhere else. -/
def names (path : String) : List String := (components path).filter (· ≠ ".")

theorem names_eq (path : String) : names path = (properPieces path.toList).map String.ofList := by
  have hproper : ((((split '/' path.toList).filter (· ≠ [])).map String.ofList).filter
      (· ≠ ".")) = (properPieces path.toList).map String.ofList := by
    rw [List.filter_map, properPieces, List.filter_filter]
    refine congrArg _ (List.filter_congr fun p _ => ?_)
    have hdot : String.ofList p = "." ↔ p = ['.'] := String.ofList_inj
    rw [Bool.eq_iff_iff, Bool.and_eq_true, Function.comp_apply, decide_eq_true_eq,
      decide_eq_true_eq, decide_eq_true_eq, ne_eq, hdot]
    exact and_comm
  rw [names, components]
  split
  · rw [List.filter_append, hproper]
    exact List.append_nil _
  · exact hproper

/-- A parent starts where its path does and has its names but the last.  Only an empty one may be
the parent of a path without names. -/
theorem names_of_parent? {path p : String} (h : parent? path = some p) :
    isAbsolute p = isAbsolute path ∧
      ((∃ name, names path = names p ++ [name]) ∨ p = "" ∧ names path = []) := by
  rw [isAbsolute, isAbsolute, names_eq, names_eq]
  rw [parent?] at h
  split at h
  · next s hs =>
    obtain ⟨q, hq, rfl⟩ := Option.map_eq_some_iff.1 h
    obtain ⟨name, hname⟩ := properPieces_of_parentOfReversed_reverse hq
    rw [hs, String.toList_ofList, properPieces_slash, properPieces_slash, hname, List.map_append]
    exact ⟨rfl, .inl ⟨_, rfl⟩⟩
  · next hs =>
    cases h
    rw [hs]
    exact ⟨rfl, .inr ⟨rfl, rfl⟩⟩
  · next s hs =>
    rw [hs, properPieces_dot_slash]
    split at h
    · next hq =>
      cases h
      have hnone := properPieces_of_parentOfReversed_eq_none hq
      rw [properPieces_reverse, List.reverse_eq_nil_iff, List.map_eq_nil_iff,
        properPieces_slash] at hnone
      rw [hnone]
      exact ⟨rfl, .inr ⟨rfl, rfl⟩⟩
    · next q hq =>
      cases h
      obtain ⟨name, hname⟩ := properPieces_of_parentOfReversed_reverse hq
      rw [properPieces_slash] at hname
      -- What is left of the path is empty or begins with the slash behind the dot.
      obtain ⟨a, ha⟩ := suffix_of_parentOfReversed hq
      have hprefix : q.reverse ++ a.reverse = '/' :: s := by
        rw [← List.reverse_append, ha, List.reverse_reverse]
      have hdot : properPieces ('.' :: q.reverse) = properPieces q.reverse := by
        cases hr : q.reverse with
        | nil => rfl
        | cons c r =>
            rw [hr] at hprefix
            obtain ⟨rfl, -⟩ := List.cons.inj hprefix
            rw [properPieces_dot_slash, properPieces_slash]
      rw [String.toList_ofList, hdot, hname, List.map_append]
      exact ⟨rfl, .inl ⟨_, rfl⟩⟩
  · next noSlash _ _ =>
    obtain ⟨q, hq, rfl⟩ := Option.map_eq_some_iff.1 h
    obtain ⟨name, hname⟩ := properPieces_of_parentOfReversed_reverse hq
    obtain ⟨a, ha⟩ := suffix_of_parentOfReversed hq
    have hprefix : q.reverse ++ a.reverse = path.toList := by
      rw [← List.reverse_append, ha, List.reverse_reverse]
    rw [String.toList_ofList, hname, List.map_append]
    have hpath : path.toList.head? ≠ some '/' := by
      intro hc
      obtain ⟨r, hr⟩ := List.head?_eq_some_iff.1 hc
      exact noSlash r hr
    have hparent : q.reverse.head? ≠ some '/' := by
      intro hc
      obtain ⟨r, hr⟩ := List.head?_eq_some_iff.1 hc
      rw [hr, List.cons_append] at hprefix
      exact noSlash _ hprefix.symm
    rw [decide_eq_decide]
    exact ⟨⟨fun hc => absurd hc hparent, fun hc => absurd hc hpath⟩, .inl ⟨_, rfl⟩⟩

theorem properPieces_dropWhile_slash (s : List Char) :
    properPieces (s.dropWhile (· = '/')) = properPieces s := by
  induction s with
  | nil => rfl
  | cons c s ih =>
      by_cases hc : c = '/'
      · subst hc
        rw [List.dropWhile_cons_of_pos (by simp), ih, properPieces_slash]
      · rw [List.dropWhile_cons_of_neg (by simpa using hc)]

theorem names_withoutEndSlashes (path : String) :
    isAbsolute (withoutEndSlashes path) = isAbsolute path ∧
      names (withoutEndSlashes path) = names path := by
  rw [withoutEndSlashes]
  cases hr : path.toList.reverse.dropWhile (· = '/') with
  | nil => exact ⟨rfl, rfl⟩
  | cons c r =>
      have hpieces : properPieces (c :: r).reverse = properPieces path.toList := by
        rw [properPieces_reverse, ← hr, properPieces_dropWhile_slash, ← properPieces_reverse,
          List.reverse_reverse]
      obtain ⟨a, ha⟩ : c :: r <:+ path.toList.reverse := hr ▸ List.dropWhile_suffix _
      have hprefix : (c :: r).reverse ++ a.reverse = path.toList := by
        rw [← List.reverse_append, ha, List.reverse_reverse]
      have hhead : path.toList.head? = (c :: r).reverse.head? := by
        rw [← hprefix, List.reverse_cons]
        cases r.reverse <;> rfl
      rw [isAbsolute, isAbsolute, names_eq, names_eq, String.toList_ofList, hpieces, hhead]
      exact ⟨rfl, rfl⟩

theorem of_mem_ancestors {path q : String} (h : q ∈ ancestors path) :
    isAbsolute q = isAbsolute path ∧ names q <+: names path := by
  induction path using ancestors.induct with
  | case1 path hnone =>
      rw [ancestors] at h
      split at h
      · rw [List.mem_singleton.1 h]
        exact ⟨rfl, List.prefix_refl _⟩
      · next hp => exact nomatch hnone.symm.trans hp
  | case2 path p hsome ih =>
      rw [ancestors] at h
      split at h
      · next hp => exact nomatch hsome.symm.trans hp
      · next p' hp =>
        obtain rfl := Option.some.inj (hp.symm.trans hsome)
        rcases List.mem_cons.1 h with rfl | h
        · exact ⟨rfl, List.prefix_refl _⟩
        · obtain ⟨hstart, hnames⟩ := ih h
          obtain ⟨hstart', hparent⟩ := names_of_parent? hsome
          refine ⟨hstart.trans hstart', hnames.trans ?_⟩
          rcases hparent with ⟨name, hname⟩ | ⟨rfl, -⟩
          · exact ⟨[name], hname.symm⟩
          · exact List.nil_prefix

/-! ## Where paths lead -/

variable {t t' : FileTree} {path q : String} {l : Location}

theorem destination_eq_foldl (t : FileTree) (path : String) :
    t.destination path = (names path).foldl goTo (if isAbsolute path then [] else t.start) := by
  have hdot : (fun l name => if decide (name ≠ ".") = true then goTo l name else l) = goTo := by
    funext l name
    by_cases hname : name = "."
    · simp [hname, goTo]
    · simp [hname]
  rw [names, List.foldl_filter, hdot, destination]

theorem destination_withoutEndSlashes (t : FileTree) (path : String) :
    t.destination (withoutEndSlashes path) = t.destination path := by
  obtain ⟨habsolute, hnames⟩ := names_withoutEndSlashes path
  rw [destination_eq_foldl, destination_eq_foldl, habsolute, hnames]

theorem foldl_goTo {names : List String} (h : ∀ name ∈ names, name ≠ "." ∧ name ≠ "..")
    (l : Location) : names.foldl goTo l = l ++ names := by
  induction names generalizing l with
  | nil => exact (List.append_nil l).symm
  | cons name names ih =>
      obtain ⟨hname, hnames⟩ := List.forall_mem_cons.1 h
      rw [List.foldl_cons, goTo, if_neg hname.1, if_neg hname.2, ih hnames, List.append_assoc,
        List.singleton_append]

theorem destination_eq_append (up : ".." ∉ names path) (t : FileTree) :
    t.destination path = (if isAbsolute path then [] else t.start) ++ names path := by
  rw [destination_eq_foldl]
  refine foldl_goTo (fun name hname => ⟨?_, ?_⟩) _
  · exact of_decide_eq_true (List.mem_filter.1 hname).2
  · rintro rfl
    exact up hname

/-- A location that a path without `..` passes before the one that it leads to. -/
def Passes (t : FileTree) (path : String) (l : Location) : Prop :=
  l <+: t.destination path ∧ l ≠ t.destination path

theorem passes_ancestor {p : String} (up : ".." ∉ components path) (hp : parent? path = some p)
    (named : p ≠ "") (hq : q ∈ ancestors p) : Passes t path (t.destination q) := by
  obtain ⟨hstart, hnames⟩ := names_of_parent? hp
  obtain ⟨hstart', rest, hrest⟩ := of_mem_ancestors hq
  rcases hnames with ⟨name, hname⟩ | ⟨hempty, -⟩
  · have hpath : ".." ∉ names path := fun h => up (List.mem_filter.1 h).1
    have hsplit : names path = names q ++ (rest ++ [name]) := by
      rw [hname, ← hrest, List.append_assoc]
    have hq : ".." ∉ names q := by
      intro h
      rw [hsplit] at hpath
      exact hpath (List.mem_append_left _ h)
    rw [Passes, destination_eq_append hpath, destination_eq_append hq, hstart', hstart, hsplit,
      ← List.append_assoc]
    refine ⟨List.prefix_append _ _, fun heq => ?_⟩
    have hlength := congrArg List.length heq
    simp at hlength
  · exact absurd hempty named

end EnvSync.FileTree
