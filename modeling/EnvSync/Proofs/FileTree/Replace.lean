/-
# Steps of replacing a file

What a step does is told by what the path names before and after it.  That there is anything
to say of the path after a step rests on two facts.  Following a path asks nothing of a tree
but which locations are directories, so it leads to the same place in a tree that keeps them
(`locate_of_keeps`).  And making directories only adds some where nothing was (`Grown`).

A path may lead through a missing directory and back out of it, as `a/../x` does.  It
then names nothing as long as the directory is missing, and whatever `x` is once the
directory has been made.  Where a path leads in the end is therefore read off its names
alone (`destination`).
-/
import EnvSync.FileTree.Replace
import EnvSync.OrderedMap.Lemmas
import Mathlib.Tactic.SplitIfs

namespace EnvSync.FileTree

/-! ## Entries -/

@[simp] theorem entry?_root (t : FileTree) : t.entry? [] = some (.directory false) := if_pos rfl

theorem entry?_set {l : Location} (hl : l ≠ []) (t : FileTree) (e : Entry) (k : Location) :
    entry? (t.set l e) k = if k = l then some e else t.entry? k := by
  by_cases hk : k = []
  · subst hk
    rw [entry?_root, entry?_root, if_neg hl.symm]
  · rw [ entry?, entry?, if_neg hk, if_neg hk, set, OrderedMap.get?_insert]
    by_cases hkl : k = l
    · rw [if_pos hkl, if_pos hkl.symm]
    · rw [if_neg hkl, if_neg fun h => hkl h.symm]

def NoDirectory (t : FileTree) (l : Location) : Prop :=
  ∀ closed, t.entry? l ≠ some (.directory closed)

theorem NoDirectory.of_none {t : FileTree} {l : Location} (h : t.entry? l = none) :
    NoDirectory t l := by
  intro closed hd
  cases h.symm.trans hd

theorem NoDirectory.of_file {t : FileTree} {l : Location} {content : List UInt8} {mode : Nat}
    (h : t.entry? l = some (.file content mode)) : NoDirectory t l := by
  intro closed hd
  cases h.symm.trans hd

theorem NoDirectory.ne_nil {t : FileTree} {l : Location} (h : NoDirectory t l) : l ≠ [] := by
  rintro rfl
  exact h false (entry?_root t)

/-! ## Following paths -/

/-- Where relative paths start and what is a directory are as they were. -/
structure Keeps (t t' : FileTree) : Prop where
  start : t'.start = t.start
  directory : ∀ l closed, t.entry? l = some (.directory closed) →
    t'.entry? l = some (.directory closed)

/-- Where a name leads, if it leads anywhere. -/
def goTo (l : Location) (name : String) : Location :=
  if name = "." then l else if name = ".." then l.dropLast else l ++ [name]

/-- A name that is short enough, or no name of an entry. -/
def Fits (name : String) : Prop :=
  name = "." ∨ name = ".." ∨ ¬ maxNameSize < name.utf8ByteSize

theorem follow_cons_eq_ok_iff {t : FileTree} {l l' : Location} {name : String}
    {names : List String} :
    t.follow l (name :: names) = .ok l' ↔
      (∃ closed, t.entry? l = some (.directory closed)) ∧ Fits name ∧
        t.follow (goTo l name) names = .ok l' := by
  constructor
  · intro h
    rw [follow] at h
    split at h
    · cases h
    · next closed hd =>
      refine ⟨⟨closed, hd⟩, ?_⟩
      rw [goTo]
      split_ifs at h ⊢ with hdot hup hlong
      · exact ⟨.inl hdot, h⟩
      · exact ⟨.inr (.inl hup), h⟩
      · exact ⟨.inr (.inr hlong), h⟩
    · cases h
  · rintro ⟨⟨closed, hd⟩, hfits, h⟩
    rw [follow, hd]
    dsimp only
    rw [goTo] at h
    split_ifs at h ⊢ with hdot hup hlong
    · exact h
    · exact h
    · rcases hfits with hfits | hfits | hfits
      · exact absurd hfits hdot
      · exact absurd hfits hup
      · exact absurd hlong hfits
    · exact h

theorem follow_of_keeps {t t' : FileTree} (h : Keeps t t') {l l' : Location} {names : List String}
    (hf : t.follow l names = .ok l') : t'.follow l names = .ok l' := by
  induction names generalizing l with
  | nil => exact hf
  | cons name names ih =>
      obtain ⟨⟨closed, hd⟩, hfits, hf⟩ := follow_cons_eq_ok_iff.1 hf
      exact follow_cons_eq_ok_iff.2 ⟨⟨closed, h.directory l closed hd⟩, hfits, ih hf⟩

theorem locate_eq_ok {t : FileTree} {path : String} {l : Location} (h : t.locate path = .ok l) :
    t.follow (if isAbsolute path then [] else t.start) (components path) = .ok l := by
  rw [locate] at h
  split at h
  · cases h
  · split at h
    · cases h
    · split at h
      · cases h
      · exact h

theorem locate_of_keeps {t t' : FileTree} (h : Keeps t t') {path : String} {l : Location}
    (hl : t.locate path = .ok l) : t'.locate path = .ok l := by
  have hf := follow_of_keeps h (locate_eq_ok hl)
  rw [locate] at hl ⊢
  split at hl
  · cases hl
  · next hnul =>
    rw [if_neg hnul]
    split at hl
    · cases hl
    · next hlong =>
      rw [if_neg hlong]
      split at hl
      · cases hl
      · next hempty => rw [if_neg hempty, h.start, hf]

/-- Where a path leads, were there directories all the way. -/
def destination (t : FileTree) (path : String) : Location :=
  (components path).foldl goTo (if isAbsolute path then [] else t.start)

theorem follow_eq_foldl {t : FileTree} {l l' : Location} {names : List String}
    (h : t.follow l names = .ok l') : l' = names.foldl goTo l := by
  induction names generalizing l with
  | nil => exact (Except.ok.inj h).symm
  | cons name names ih =>
      obtain ⟨-, -, h⟩ := follow_cons_eq_ok_iff.1 h
      exact ih h

theorem eq_destination {t : FileTree} {path : String} {l : Location} (h : t.locate path = .ok l) :
    l = t.destination path :=
  follow_eq_foldl (locate_eq_ok h)

theorem lookUp_eq_ok_iff {t : FileTree} {path : String} {e : Entry} :
    t.lookUp path = .ok e ↔ ∃ l, t.locate path = .ok l ∧ t.entry? l = some e := by
  rw [lookUp]
  constructor
  · intro h
    split at h
    · cases h
    · next l hl =>
      split at h
      · cases h
      · next he =>
        cases h
        exact ⟨l, hl, he⟩
  · rintro ⟨l, hl, he⟩
    rw [hl]
    dsimp only
    rw [he]

/-- Putting something where no directory is leaves every path leading where it led. -/
theorem keeps_set {t : FileTree} {l : Location} (h : NoDirectory t l) (e : Entry) :
    Keeps t (t.set l e) := by
  refine ⟨rfl, fun k closed hk => ?_⟩
  have hne : k ≠ l := by
    rintro rfl
    exact h closed hk
  rw [entry?_set h.ne_nil, if_neg hne, hk]

theorem lookUp_set {t : FileTree} {path : String} {l : Location} (hl : t.locate path = .ok l)
    (h : NoDirectory t l) (e : Entry) : (t.set l e).lookUp path = .ok e := by
  refine lookUp_eq_ok_iff.2 ⟨l, locate_of_keeps (keeps_set h e) hl, ?_⟩
  rw [entry?_set h.ne_nil, if_pos rfl]

/-! ## Making directories -/

/-- The same tree, but for directories where nothing was. -/
structure Grown (t t' : FileTree) : Prop where
  start : t'.start = t.start
  entry : ∀ l, t'.entry? l = t.entry? l ∨
    t.entry? l = none ∧ t'.entry? l = some (.directory false)

theorem Grown.refl (t : FileTree) : Grown t t := ⟨rfl, fun _ => .inl rfl⟩

theorem Grown.trans {t t' t'' : FileTree} (h : Grown t t') (h' : Grown t' t'') : Grown t t'' := by
  refine ⟨h'.start.trans h.start, fun l => ?_⟩
  rcases h'.entry l with he' | ⟨hn', hd'⟩
  · rw [he']
    exact h.entry l
  · rcases h.entry l with he | ⟨-, hd⟩
    · exact .inr ⟨he ▸ hn', hd'⟩
    · exact nomatch hd.symm.trans hn'

theorem Grown.entry_eq {t t' : FileTree} (h : Grown t t') {l : Location} {e : Entry}
    (he : t.entry? l = some e) : t'.entry? l = some e := by
  rcases h.entry l with h | ⟨hn, -⟩
  · rw [h, he]
  · exact nomatch hn.symm.trans he

theorem Grown.keeps {t t' : FileTree} (h : Grown t t') : Keeps t t' :=
  ⟨h.start, fun _ _ hl => h.entry_eq hl⟩

theorem Grown.destination {t t' : FileTree} (h : Grown t t') (path : String) :
    t'.destination path = t.destination path := by
  rw [FileTree.destination, FileTree.destination, h.start]

theorem grown_of_create {t t' : FileTree} {l : Location} (hl : t.entry? l = none)
    (h : t.create l (.directory false) = .ok t') : Grown t t' := by
  rw [create] at h
  split at h
  · cases h
    refine ⟨rfl, fun k => ?_⟩
    rw [entry?_set (NoDirectory.of_none hl).ne_nil]
    by_cases hk : k = l
    · subst hk
      exact .inr ⟨hl, if_pos rfl⟩
    · exact .inl (if_neg hk)
  · cases h
  · cases h
  · cases h

theorem grown_of_makeDirectory {t t' : FileTree} {path : String}
    (h : t.makeDirectory path = .ok t') : Grown t t' := by
  rw [makeDirectory] at h
  split at h
  · cases h
  · split at h
    · cases h
    · next hl => exact grown_of_create hl h

theorem grown_makeDirectoryOf (t : FileTree) (paths : List String) :
    Grown t (t.makeDirectoryOf paths).1 := by
  induction paths with
  | nil => exact .refl t
  | cons path outer ih =>
      rw [makeDirectoryOf]
      split
      · exact .refl t
      · split
        · next hm => exact grown_of_makeDirectory hm
        · split
          · next ho => rwa [ho] at ih
          · next u ho =>
            have hu : Grown t u := by rwa [ho] at ih
            split
            · next hm => exact hu.trans (grown_of_makeDirectory hm)
            · exact hu
        · exact .refl t

/-! ## Steps -/

namespace Replacement

variable {r : Replacement} {t t' : FileTree}

theorem exists_of_atFile {act : FileTree → Location → Except Fault FileTree}
    (h : r.atFile t act = (t', none)) : ∃ l, t.locate r.path = .ok l ∧ act t l = .ok t' := by
  rw [atFile] at h
  split at h
  · cases h
  · next l hl =>
    split at h
    · cases h
    · next hact =>
      cases h
      exact ⟨l, hl, hact⟩

theorem exists_of_atFile_of_lookUp {act : FileTree → Location → Except Fault FileTree} {e : Entry}
    (he : t.lookUp r.path = .ok e) (h : r.atFile t act = (t', none)) :
    ∃ l, t.locate r.path = .ok l ∧ t.entry? l = some e ∧ act t l = .ok t' := by
  obtain ⟨l, hl, hact⟩ := exists_of_atFile h
  obtain ⟨k, hk, he⟩ := lookUp_eq_ok_iff.1 he
  obtain rfl : l = k := Except.ok.inj (hl.symm.trans hk)
  exact ⟨l, hl, he, hact⟩

theorem lookUp_of_writeContent {content : List UInt8} {mode : Nat}
    (hfile : t.lookUp r.path = .ok (.file content mode))
    (h : r.perform t .writeContent = (t', none)) :
    t'.lookUp r.path = .ok (.file (content ++ r.content) mode) := by
  rw [perform] at h
  obtain ⟨l, hl, he, hwrite : t.append l r.content = .ok t'⟩ :=
    exists_of_atFile_of_lookUp hfile h
  rw [append] at hwrite
  split at hwrite
  · next hempty =>
    cases hwrite
    rw [hempty, List.append_nil, hfile]
  · rw [he] at hwrite
    cases hwrite
    exact lookUp_set hl (.of_file he) _

theorem lookUp_of_restrict {content : List UInt8} {mode : Nat}
    (hfile : t.lookUp r.path = .ok (.file content mode))
    (h : r.perform t .restrict = (t', none)) :
    t'.lookUp r.path = .ok (.file content ownerOnly) := by
  rw [perform] at h
  obtain ⟨l, hl, he, hmode : t.changeMode l ownerOnly = .ok t'⟩ :=
    exists_of_atFile_of_lookUp hfile h
  rw [changeMode, he] at hmode
  cases hmode
  exact lookUp_set hl (.of_file he) _

end Replacement
end EnvSync.FileTree
