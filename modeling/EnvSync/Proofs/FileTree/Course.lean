/-
# How far a replacement has come

A replacement is four steps, and any of them may fail: because the tree does not allow it,
which `perform` knows, or for a reason that no tree shows.  A `Course` is the part of a
replacement that has been gone through: the steps done, and the one that is under way or was
cut short, with what it may leave then (`Cut`).  So the trees of courses are all that a
replacement passes through and all that it may end in, and a `run` ends in one of them
(`course_of_run`).

Three things hold all along.  Until the file is opened there are new directories at most
(`Course.prepared`).  At no time has anything happened but to the file and on the way to it
(`Course.confined`).  Once it is opened the file holds a front of the new content and keeps the
mode that it was opened with until the last step (`Course.lookUp`).
-/
import EnvSync.Proofs.FileTree.Path
import Mathlib.Tactic.ByContra

namespace EnvSync.FileTree

variable {t t' u : FileTree} {path : String} {l : Location} {content : List UInt8} {mode : Nat}

/-! ## One location -/

/-- All but one location is as it was. -/
structure SameBut (l : Location) (t t' : FileTree) : Prop where
  start : t'.start = t.start
  entry : ∀ k, k ≠ l → t'.entry? k = t.entry? k

theorem SameBut.refl (l : Location) (t : FileTree) : SameBut l t t := ⟨rfl, fun _ _ => rfl⟩

theorem sameBut_set (l : Location) (t : FileTree) (e : Entry) : SameBut l t (t.set l e) := by
  refine ⟨rfl, fun k hk => ?_⟩
  by_cases hroot : k = []
  · subst hroot
    rw [entry?_root, entry?_root]
  · rw [ entry?, entry?, if_neg hroot, if_neg hroot, set, OrderedMap.get?_insert,
      if_neg fun h => hk h.symm]

theorem create_eq_ok {e : Entry} (h : t.create l e = .ok t') : t' = t.set l e := by
  rw [create] at h
  split at h
  · exact (Except.ok.inj h).symm
  · cases h
  · cases h
  · cases h

/-! ## Directories on the way -/

theorem makeDirectory_eq_ok (h : t.makeDirectory path = .ok t') :
    t' = t.set (t.destination path) (.directory false) := by
  rw [makeDirectory] at h
  split at h
  · cases h
  · next l hl =>
    obtain rfl := eq_destination hl
    split at h
    · cases h
    · rw [create_eq_ok h, destination_withoutEndSlashes]

theorem eq_destination_of_makeDirectory_ne (h : t.makeDirectory path = .ok t')
    (hne : t'.entry? l ≠ t.entry? l) : l = t.destination path := by
  rw [makeDirectory_eq_ok h] at hne
  by_contra hl
  exact hne ((sameBut_set _ t _).entry l hl)

/-- Directories are made only where the paths lead. -/
theorem exists_of_makeDirectoryOf_ne {paths : List String}
    (h : entry? (t.makeDirectoryOf paths).1 l ≠ t.entry? l) :
    ∃ q ∈ paths, l = t.destination q := by
  induction paths with
  | nil => exact absurd rfl h
  | cons path outer ih =>
      have grown := grown_makeDirectoryOf t outer
      rw [makeDirectoryOf] at h
      split at h
      · exact absurd rfl h
      · split at h
        · next hm => exact ⟨path, List.mem_cons_self, eq_destination_of_makeDirectory_ne hm h⟩
        · split at h
          · next ho =>
            rw [ho] at ih
            obtain ⟨q, hq, hl⟩ := ih h
            exact ⟨q, List.mem_cons_of_mem path hq, hl⟩
          · next u ho =>
            rw [ho] at ih grown
            dsimp only at ih grown
            by_cases hu : u.entry? l = t.entry? l
            · rw [← hu] at h
              split at h
              · next hm =>
                refine ⟨path, List.mem_cons_self, ?_⟩
                rw [← grown.destination]
                exact eq_destination_of_makeDirectory_ne hm h
              · exact absurd rfl h
            · obtain ⟨q, hq, hl⟩ := ih hu
              exact ⟨q, List.mem_cons_of_mem path hq, hl⟩
        · exact absurd rfl h

/-- The same tree, but for directories that the path passes and where nothing was. -/
structure Prepared (t t' : FileTree) (path : String) : Prop where
  grown : Grown t t'
  passed : ".." ∉ components path → ∀ l, t'.entry? l ≠ t.entry? l → Passes t path l

theorem Prepared.refl (t : FileTree) (path : String) : Prepared t t path :=
  ⟨.refl t, fun _ _ h => absurd rfl h⟩

theorem prepared_makeDirectoryOf {p : String} {outer : List String} (hp : parent? path = some p)
    (named : p ≠ "") (ho : outer <:+ ancestors p) :
    Prepared t (t.makeDirectoryOf outer).1 path := by
  refine ⟨grown_makeDirectoryOf t outer, fun up l hl => ?_⟩
  obtain ⟨q, hq, rfl⟩ := exists_of_makeDirectoryOf_ne hl
  exact passes_ancestor up hp named (ho.subset hq)

theorem Prepared.trans (h : Prepared t u path) (h' : Prepared u t' path) : Prepared t t' path := by
  refine ⟨h.grown.trans h'.grown, fun up l hl => ?_⟩
  by_cases hu : u.entry? l = t.entry? l
  · have hpass := h'.passed up l (hu ▸ hl)
    rwa [Passes, h.grown.destination] at hpass
  · exact h.passed up l hu

/-- What a path leads to is not one of the directories that it passes. -/
theorem Prepared.entry_destination (h : Prepared t t' path) (up : ".." ∉ components path) :
    t'.entry? (t.destination path) = t.entry? (t.destination path) := by
  by_contra hne
  exact (h.passed up _ hne).2 rfl

/-- Nothing has happened but to what the path leads to, and that directories were made. -/
structure Confined (t t' : FileTree) (path : String) : Prop where
  start : t'.start = t.start
  entry : ∀ l, l ≠ t.destination path → t'.entry? l = t.entry? l ∨
    t.entry? l = none ∧ t'.entry? l = some (.directory false) ∧
      (".." ∉ components path → Passes t path l)

theorem Prepared.confined (h : Prepared t t' path) : Confined t t' path := by
  refine ⟨h.grown.start, fun l _ => ?_⟩
  rcases h.grown.entry l with he | ⟨hnone, hdir⟩
  · exact .inl he
  · refine .inr ⟨hnone, hdir, fun up => h.passed up l ?_⟩
    rw [hnone, hdir]
    exact nofun

theorem Confined.sameBut (h : Confined t u path) (h' : SameBut (t.destination path) u t') :
    Confined t t' path := by
  refine ⟨h'.start.trans h.start, fun l hl => ?_⟩
  rw [h'.entry l hl]
  exact h.entry l hl

/-! ## Steps on the file -/

theorem sameBut_of_openAt (h : t.openAt l mode = .ok t') : SameBut l t t' := by
  rw [openAt] at h
  split at h
  · exact create_eq_ok h ▸ sameBut_set l t _
  · cases h
  · split at h
    · cases h
      exact sameBut_set l t _
    · cases h
  · cases h
    exact .refl l t

theorem sameBut_of_append (h : t.append l content = .ok t') : SameBut l t t' := by
  rw [append] at h
  split at h
  · cases h
    exact .refl l t
  · split at h
    · cases h
    · cases h
    · cases h
      exact sameBut_set l t _
    · cases h
      exact .refl l t
    · cases h
    · cases h
      exact sameBut_set l t _

theorem sameBut_of_changeMode (h : t.changeMode l mode = .ok t') : SameBut l t t' := by
  rw [changeMode] at h
  split at h
  · cases h
  · cases h
    exact sameBut_set l t _
  · cases h
  · cases h
    exact .refl l t
  · cases h
    exact .refl l t

/-- The mode that a file is opened with: its own, or the one that it is made with. -/
def startMode (t : FileTree) (path : String) : Nat :=
  match t.entry? (t.destination path) with
  | some (.file _ mode) => mode
  | _ => ownerOnly

namespace Replacement

variable {r : Replacement}

theorem sameBut_of_atFile {act : FileTree → Location → Except Fault FileTree}
    (hact : ∀ {l t t'}, act t l = .ok t' → SameBut l t t') (h : r.atFile t act = (t', none)) :
    SameBut (t.destination r.path) t t' := by
  obtain ⟨l, hl, hok⟩ := exists_of_atFile h
  exact eq_destination hl ▸ hact hok

theorem sameBut_of_perform {s : Step} (hs : s ≠ .createParents)
    (h : r.perform t s = (t', none)) : SameBut (t.destination r.path) t t' := by
  cases s with
  | createParents => exact absurd rfl hs
  | openFile => exact sameBut_of_atFile sameBut_of_openAt h
  | writeContent => exact sameBut_of_atFile sameBut_of_append h
  | restrict => exact sameBut_of_atFile sameBut_of_changeMode h

theorem lookUp_of_openFile
    (device : ∀ d, t.entry? (t.destination r.path) ≠ some (.device d))
    (hu : Prepared t u r.path) (h : r.perform u .openFile = (t', none)) :
    t'.lookUp r.path = .ok (.file [] (t.startMode r.path)) := by
  rw [perform] at h
  obtain ⟨l, hl, hopen : u.openAt l ownerOnly = .ok t'⟩ := exists_of_atFile h
  have hdest : t.destination r.path = l := by rw [eq_destination hl, hu.grown.destination]
  rw [startMode, hdest]
  rw [hdest] at device
  rcases hu.grown.entry l with he | ⟨-, hdir⟩
  · rw [← he] at device ⊢
    rw [openAt] at hopen
    split at hopen
    · next hnone =>
      obtain rfl := create_eq_ok hopen
      rw [hnone]
      exact lookUp_set hl (.of_none hnone) _
    · cases hopen
    · next hfile =>
      split at hopen
      · cases hopen
        rw [hfile]
        exact lookUp_set hl (.of_file hfile) _
      · cases hopen
    · next d hdevice => exact absurd hdevice (device d)
  · rw [openAt, hdir] at hopen
    cases hopen

/-! ## Courses -/

/-- The steps that come before a step. -/
def earlier (s : Step) : List Step := Step.all.takeWhile (· ≠ s)

/-- What a step may leave when it is under way or cut short: nothing done, the outermost of the
missing directories, or a file with a front of the content. -/
inductive Cut (r : Replacement) (t : FileTree) : Step → FileTree → Prop
  | before (s : Step) : Cut r t s t
  | parents {p : String} {outer : List String} (missing : r.missingParent? t = some p)
      (outermost : outer <:+ ancestors p) : Cut r t .createParents (t.makeDirectoryOf outer).1
  | content {front : List UInt8} {t' : FileTree} (part : front <+: r.content)
      (written : perform ⟨r.path, front⟩ t .writeContent = (t', none)) :
      Cut r t .writeContent t'

/-- How far a replacement has come: the steps done, the step that is under way or was cut
short, if any, and the tree. -/
inductive Course (r : Replacement) (start : FileTree) : List Step → Option Step → FileTree → Prop
  | nil : Course r start [] none start
  | step {s : Step} {t t' : FileTree} (before : Course r start (earlier s) none t)
      (performed : r.perform t s = (t', none)) : Course r start (earlier s ++ [s]) none t'
  | cut {s : Step} {t t' : FileTree} (before : Course r start (earlier s) none t)
      (left : Cut r t s t') : Course r start (earlier s) (some s) t'

theorem prepared_of_missingParent? {p : String} {outer : List String}
    (hp : r.missingParent? t = some p) (ho : outer <:+ ancestors p) :
    Prepared t (t.makeDirectoryOf outer).1 r.path := by
  rw [missingParent?] at hp
  split at hp
  · cases hp
  · next hparent =>
    split at hp
    · cases hp
    · next hnot =>
      cases hp
      exact prepared_makeDirectoryOf hparent (fun hempty => hnot (.inl hempty)) ho

theorem prepared_of_createParents {fault : Option Fault}
    (h : r.perform t .createParents = (t', fault)) : Prepared t t' r.path := by
  rw [perform] at h
  split at h
  · cases h
    exact .refl t r.path
  · next p hp =>
    have hprepared := prepared_of_missingParent? hp (List.suffix_refl _)
    rw [makeDirectories] at h
    rwa [h] at hprepared

theorem Course.prepared {done : List Step} {cut : Option Step} (h : Course r t done cut t')
    (hopen : .openFile ∉ done) : Prepared t t' r.path := by
  induction h with
  | nil => exact .refl t r.path
  | @step s _ _ before performed ih =>
      cases s with
      | createParents => exact (ih (by decide)).trans (prepared_of_createParents performed)
      | openFile => exact absurd (by decide) hopen
      | writeContent => exact absurd (by decide) hopen
      | restrict => exact absurd (by decide) hopen
  | cut before left ih =>
      cases left with
      | before => exact ih hopen
      | parents missing outermost =>
          exact (ih hopen).trans (prepared_of_missingParent? missing outermost)
      | content => exact absurd (by decide) hopen

/-- At no time has more happened than to the file and to directories on the way to it. -/
theorem Course.confined {done : List Step} {cut : Option Step} (h : Course r t done cut t') :
    Confined t t' r.path := by
  induction h with
  | nil => exact (Prepared.refl t r.path).confined
  | @step s _ _ before performed ih =>
      by_cases hs : s = .createParents
      · subst hs
        exact (Course.prepared (.step before performed) (by decide)).confined
      · have hsame := sameBut_of_perform hs performed
        rw [destination, ih.start] at hsame
        exact ih.sameBut hsame
  | cut before left ih =>
      cases left with
      | before => exact ih
      | parents missing outermost =>
          exact (Course.prepared (.cut before (.parents missing outermost)) (by decide)).confined
      | content part written =>
          have hsame := sameBut_of_perform (by decide) written
          rw [destination, ih.start] at hsame
          exact ih.sameBut hsame

/-- Once it is opened the file holds a front of the content, all of it when that is written, and
keeps the mode that it was opened with until it is restricted. -/
theorem Course.lookUp {done : List Step} {cut : Option Step}
    (device : ∀ d, t.entry? (t.destination r.path) ≠ some (.device d))
    (h : Course r t done cut t') (hopen : .openFile ∈ done) :
    ∃ front, front <+: r.content ∧ (.writeContent ∈ done → front = r.content) ∧
      (cut = none → .writeContent ∉ done → front = []) ∧
      t'.lookUp r.path = .ok (.file front
        (if .restrict ∈ done then ownerOnly else t.startMode r.path)) := by
  induction h with
  | nil => cases hopen
  | @step s _ _ before performed ih =>
      cases s with
      | createParents => exact absurd hopen (by decide)
      | openFile =>
          refine ⟨[], List.nil_prefix, fun h => absurd h (by decide), fun _ _ => rfl, ?_⟩
          exact lookUp_of_openFile device (before.prepared (by decide)) performed
      | writeContent =>
          obtain ⟨_, -, -, hempty, hu⟩ := ih (by decide)
          obtain rfl := hempty rfl (by decide)
          exact ⟨_, List.prefix_refl _, fun _ => rfl, fun _ h => absurd (by decide) h,
            lookUp_of_writeContent hu performed⟩
      | restrict =>
          obtain ⟨_, -, hfull, -, hu⟩ := ih (by decide)
          obtain rfl := hfull (by decide)
          exact ⟨_, List.prefix_refl _, fun _ => rfl, fun _ h => absurd (by decide) h,
            lookUp_of_restrict hu performed⟩
  | cut before left ih =>
      obtain ⟨front, hfront, hfull, hempty, hu⟩ := ih hopen
      cases left with
      | before => exact ⟨front, hfront, hfull, nofun, hu⟩
      | parents => exact absurd hopen (by decide)
      | @content part _ hpart written =>
          obtain rfl := hempty rfl (by decide)
          have hfile := lookUp_of_writeContent (r := ⟨r.path, part⟩) hu written
          exact ⟨part, hpart, fun h => absurd h (by decide), nofun, hfile⟩

/-- A replacement that has come to its end leaves the file with its content and for its owner
only, whether or not there was one. -/
theorem Course.lookUp_all (device : ∀ d, t.entry? (t.destination r.path) ≠ some (.device d))
    (h : Course r t Step.all none t') : t'.lookUp r.path = .ok (.file r.content ownerOnly) := by
  obtain ⟨front, -, hfull, -, hfile⟩ := h.lookUp device (by decide)
  obtain rfl := hfull (by decide)
  rwa [if_pos (by decide)] at hfile

/-! ## Runs -/

theorem eq_of_atFile_of_fault {act : FileTree → Location → Except Fault FileTree} {fault : Fault}
    (h : r.atFile t act = (t', some fault)) : t' = t := by
  rw [atFile] at h
  split at h
  · cases h
    rfl
  · split at h
    · cases h
      rfl
    · cases h

theorem cut_of_perform {s : Step} {fault : Fault} (h : r.perform t s = (t', some fault)) :
    Cut r t s t' := by
  cases s with
  | createParents =>
      rw [perform] at h
      split at h
      · cases h
      · next p hp =>
        have hcut := Cut.parents hp (List.suffix_refl _)
        rw [makeDirectories] at h
        rwa [h] at hcut
  | openFile =>
      rw [perform] at h
      exact eq_of_atFile_of_fault h ▸ .before _
  | writeContent =>
      rw [perform] at h
      exact eq_of_atFile_of_fault h ▸ .before _
  | restrict =>
      rw [perform] at h
      exact eq_of_atFile_of_fault h ▸ .before _

theorem eq_earlier {done ss : List Step} {s : Step} (h : done ++ s :: ss = Step.all) :
    done = earlier s := by
  have hnodup : (done ++ s :: ss).Nodup := h ▸ by decide
  have hne : ∀ a ∈ done, decide (a ≠ s) = true := by
    intro a ha
    exact decide_eq_true ((List.nodup_append.1 hnodup).2.2 a ha s List.mem_cons_self)
  rw [earlier, ← h, List.takeWhile_append_of_pos hne, List.takeWhile_cons_of_neg (by simp),
    List.append_nil]

theorem course_of_run_from {start : FileTree} {done ss : List Step} {failed : Option Step}
    (before : Course r start done none t) (all : done ++ ss = Step.all)
    (h : r.run t ss = (t', failed)) :
    ∃ done', Course r start done' failed t' ∧ (failed = none → done' = Step.all) := by
  induction ss generalizing done t with
  | nil =>
      cases h
      rw [List.append_nil] at all
      exact ⟨done, before, fun _ => all⟩
  | cons s ss ih =>
      obtain rfl := eq_earlier all
      rw [run] at h
      split at h
      · next u fault hu =>
        cases h
        exact ⟨earlier s, .cut before (cut_of_perform hu), nofun⟩
      · next u hu => exact ih (.step before hu) (by rw [List.append_assoc]; exact all) h

/-- A run ends where one of its courses does: all steps done, or one of them cut short. -/
theorem course_of_run {failed : Option Step} (h : r.run t Step.all = (t', failed)) :
    ∃ done, Course r t done failed t' ∧ (failed = none → done = Step.all) :=
  course_of_run_from .nil rfl h

end Replacement
end EnvSync.FileTree
