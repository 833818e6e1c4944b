/-
# Trees that differ in contents only

Two trees are alike if they have the same directories, files of the same modes and the same
devices at the same places; what a file holds may differ (`Alike`).  Following a path looks at
no content, so of alike trees the same is found out, with the same fault where there is one,
and what is done to both leaves them alike.

Only a write looks at what it writes: no bytes at all can be added to anything.  Two
replacements of one file therefore go alike, up to the step that they fail at, if both have
something to write or neither has (`Alike.run`).
-/
import EnvSync.Proofs.FileTree.Replace

namespace EnvSync.FileTree

variable {t₁ t₂ : FileTree} {l : Location} {e₁ e₂ : Entry} {bytes₁ bytes₂ : List UInt8}

/-- The same is there, but for what it holds. -/
def AlikeEntries (x₁ x₂ : Option Entry) : Prop :=
  x₁ = x₂ ∨
    (∃ content₁ content₂ mode,
      x₁ = some (.file content₁ mode) ∧ x₂ = some (.file content₂ mode)) ∨
    ∃ text₁ text₂, x₁ = some (.device (.label text₁)) ∧ x₂ = some (.device (.label text₂))

/-- The trees differ in contents at most. -/
structure Alike (t₁ t₂ : FileTree) : Prop where
  start : t₁.start = t₂.start
  entry : ∀ l, AlikeEntries ( t₁.entry? l) ( t₂.entry? l)

/-- The same fault, or trees that are alike. -/
def AlikeResults (x₁ x₂ : Except Fault FileTree) : Prop :=
  (∃ fault, x₁ = .error fault ∧ x₂ = .error fault) ∨
    ∃ u₁ u₂, x₁ = .ok u₁ ∧ x₂ = .ok u₂ ∧ Alike u₁ u₂

/-- Trees that are alike, and the same failure if there is one. -/
structure AlikeOutcomes {α : Type} (x₁ x₂ : FileTree × Option α) : Prop where
  tree : Alike x₁.1 x₂.1
  failure : x₁.2 = x₂.2

theorem AlikeResults.error (fault : Fault) : AlikeResults (.error fault) (.error fault) :=
  .inl ⟨fault, rfl, rfl⟩

theorem AlikeResults.ok (h : Alike t₁ t₂) : AlikeResults (.ok t₁) (.ok t₂) :=
  .inr ⟨t₁, t₂, rfl, rfl, h⟩

namespace Alike

/-! ## What is found out -/

theorem follow (h : Alike t₁ t₂) (l : Location) (names : List String) :
    t₁.follow l names = t₂.follow l names := by
  induction names generalizing l with
  | nil => rfl
  | cons name names ih =>
      rw [FileTree.follow, FileTree.follow]
      rcases h.entry l with he | ⟨_, _, _, h₁, h₂⟩ | ⟨_, _, h₁, h₂⟩
      · rw [he]
        simp only [ih]
      · rw [h₁, h₂]
      · rw [h₁, h₂]

theorem locate (h : Alike t₁ t₂) (path : String) : t₁.locate path = t₂.locate path := by
  rw [FileTree.locate, FileTree.locate, h.start, h.follow]

theorem isThere (h : Alike t₁ t₂) (path : String) : t₁.isThere path = t₂.isThere path := by
  rw [FileTree.isThere, FileTree.isThere, lookUp, lookUp, h.locate]
  split
  · rfl
  · next l _ =>
    rcases h.entry l with he | ⟨_, _, _, h₁, h₂⟩ | ⟨_, _, h₁, h₂⟩
    · rw [he]
    · rw [h₁, h₂]
      rfl
    · rw [h₁, h₂]
      rfl

theorem isDirectory (h : Alike t₁ t₂) (path : String) :
    t₁.isDirectory path = t₂.isDirectory path := by
  rw [FileTree.isDirectory, FileTree.isDirectory, lookUp, lookUp, h.locate]
  cases t₂.locate path with
  | error fault => rfl
  | ok l =>
      dsimp only
      rcases h.entry l with he | ⟨_, _, _, h₁, h₂⟩ | ⟨_, _, h₁, h₂⟩
      · rw [he]
      · rw [h₁, h₂]
      · rw [h₁, h₂]

/-! ## What is done -/

theorem set (h : Alike t₁ t₂) (l : Location) (he : AlikeEntries (some e₁) (some e₂)) :
    Alike (t₁.set l e₁) (t₂.set l e₂) := by
  refine ⟨h.start, fun k => ?_⟩
  have hk := h.entry k
  rw [ entry?, entry?] at hk ⊢
  rw [FileTree.set, FileTree.set, OrderedMap.get?_insert, OrderedMap.get?_insert]
  by_cases hroot : k = []
  · rw [if_pos hroot, if_pos hroot]
    exact .inl rfl
  · rw [if_neg hroot, if_neg hroot] at hk ⊢
    by_cases hl : l = k
    · rwa [if_pos hl, if_pos hl]
    · rwa [if_neg hl, if_neg hl]

theorem create (h : Alike t₁ t₂) (l : Location) (e : Entry) :
    AlikeResults (t₁.create l e) (t₂.create l e) := by
  rw [FileTree.create, FileTree.create]
  rcases h.entry l.dropLast with he | ⟨_, _, _, h₁, h₂⟩ | ⟨_, _, h₁, h₂⟩
  · rw [he]
    split
    · exact .ok (h.set l (.inl rfl))
    · exact .error _
    · exact .error _
    · exact .error _
  · rw [h₁, h₂]
    exact .error _
  · rw [h₁, h₂]
    exact .error _

theorem makeDirectory (h : Alike t₁ t₂) (path : String) :
    AlikeResults (t₁.makeDirectory path) (t₂.makeDirectory path) := by
  rw [FileTree.makeDirectory, FileTree.makeDirectory, h.locate]
  cases t₂.locate (withoutEndSlashes path) with
  | error fault => exact .error fault
  | ok l =>
      dsimp only
      rcases h.entry l with he | ⟨_, _, _, h₁, h₂⟩ | ⟨_, _, h₁, h₂⟩
      · rw [he]
        split
        · exact .error _
        · exact h.create l _
      · rw [h₁, h₂]
        exact .error _
      · rw [h₁, h₂]
        exact .error _

theorem makeDirectoryOf (h : Alike t₁ t₂) (paths : List String) :
    AlikeOutcomes (t₁.makeDirectoryOf paths) (t₂.makeDirectoryOf paths) := by
  induction paths with
  | nil => exact ⟨h, rfl⟩
  | cons path outer ih =>
      rw [FileTree.makeDirectoryOf, FileTree.makeDirectoryOf]
      by_cases hpath : path = ""
      · rw [if_pos hpath, if_pos hpath]
        exact ⟨h, rfl⟩
      · rw [if_neg hpath, if_neg hpath]
        rcases h.makeDirectory path with ⟨fault, h₁, h₂⟩ | ⟨u₁, u₂, h₁, h₂, hu⟩
        · rw [h₁, h₂]
          -- The outer directories are looked at only where one of them is missing.
          by_cases hmissing : fault = .notFound
          · subst hmissing
            generalize t₁.makeDirectoryOf outer = x₁ at ih ⊢
            generalize t₂.makeDirectoryOf outer = x₂ at ih ⊢
            obtain ⟨u₁, f₁⟩ := x₁
            obtain ⟨u₂, f₂⟩ := x₂
            obtain ⟨hu, rfl⟩ := ih
            cases f₁ with
            | some fault => exact ⟨hu, rfl⟩
            | none =>
                dsimp only
                rcases hu.makeDirectory path with ⟨fault, h₁, h₂⟩ | ⟨v₁, v₂, h₁, h₂, hv⟩
                · rw [h₁, h₂]
                  exact ⟨hu, by rw [hu.isDirectory]⟩
                · rw [h₁, h₂]
                  exact ⟨hv, rfl⟩
          · cases fault with
            | notFound => exact absurd rfl hmissing
            | _ => exact ⟨h, by rw [h.isDirectory]⟩
        · rw [h₁, h₂]
          exact ⟨hu, rfl⟩

theorem openAt (h : Alike t₁ t₂) (l : Location) (mode : Nat) :
    AlikeResults (t₁.openAt l mode) (t₂.openAt l mode) := by
  rw [FileTree.openAt, FileTree.openAt]
  rcases h.entry l with he | ⟨_, _, mode, h₁, h₂⟩ | ⟨_, _, h₁, h₂⟩
  · rw [he]
    split
    · exact h.create l _
    · exact .error _
    · split
      · exact .ok (h.set l (.inl rfl))
      · exact .error _
    · exact .ok h
  · rw [h₁, h₂]
    dsimp only
    split
    · exact .ok (h.set l (.inl rfl))
    · exact .error _
  · rw [h₁, h₂]
    exact .ok h

theorem append (h : Alike t₁ t₂) (l : Location) (empty : bytes₁ = [] ↔ bytes₂ = []) :
    AlikeResults (t₁.append l bytes₁) (t₂.append l bytes₂) := by
  rw [FileTree.append, FileTree.append]
  by_cases hempty : bytes₁ = []
  · rw [if_pos hempty, if_pos (empty.1 hempty)]
    exact .ok h
  · rw [if_neg hempty, if_neg fun h => hempty (empty.2 h)]
    rcases h.entry l with he | ⟨_, _, _, h₁, h₂⟩ | ⟨_, _, h₁, h₂⟩
    · rw [he]
      split
      · exact .error _
      · exact .error _
      · exact .ok (h.set l (.inr (.inl ⟨_, _, _, rfl, rfl⟩)))
      · exact .ok h
      · exact .error _
      · exact .ok (h.set l (.inr (.inr ⟨_, _, rfl, rfl⟩)))
    · rw [h₁, h₂]
      exact .ok (h.set l (.inr (.inl ⟨_, _, _, rfl, rfl⟩)))
    · rw [h₁, h₂]
      exact .ok (h.set l (.inr (.inr ⟨_, _, rfl, rfl⟩)))

theorem changeMode (h : Alike t₁ t₂) (l : Location) (mode : Nat) :
    AlikeResults (t₁.changeMode l mode) (t₂.changeMode l mode) := by
  rw [FileTree.changeMode, FileTree.changeMode]
  rcases h.entry l with he | ⟨_, _, _, h₁, h₂⟩ | ⟨_, _, h₁, h₂⟩
  · rw [he]
    split
    · exact .error _
    · exact .ok (h.set l (.inl rfl))
    · exact .error _
    · exact .ok h
    · exact .ok h
  · rw [h₁, h₂]
    exact .ok (h.set l (.inr (.inl ⟨_, _, _, rfl, rfl⟩)))
  · rw [h₁, h₂]
    exact .error _

/-! ## Replacements -/

section

variable {r₁ r₂ : Replacement}

theorem missingParent? (h : Alike t₁ t₂) (path : r₁.path = r₂.path) :
    r₁.missingParent? t₁ = r₂.missingParent? t₂ := by
  rw [Replacement.missingParent?, Replacement.missingParent?, path]
  simp only [h.isThere]

theorem atFile (h : Alike t₁ t₂) (path : r₁.path = r₂.path)
    {act₁ act₂ : FileTree → Location → Except Fault FileTree}
    (act : ∀ l, AlikeResults (act₁ t₁ l) (act₂ t₂ l)) :
    AlikeOutcomes (r₁.atFile t₁ act₁) (r₂.atFile t₂ act₂) := by
  rw [Replacement.atFile, Replacement.atFile, path, h.locate]
  cases t₂.locate r₂.path with
  | error fault => exact ⟨h, rfl⟩
  | ok l =>
      dsimp only
      rcases act l with ⟨fault, h₁, h₂⟩ | ⟨u₁, u₂, h₁, h₂, hu⟩
      · rw [h₁, h₂]
        exact ⟨h, rfl⟩
      · rw [h₁, h₂]
        exact ⟨hu, rfl⟩

theorem perform (h : Alike t₁ t₂) (path : r₁.path = r₂.path)
    (empty : r₁.content = [] ↔ r₂.content = []) (s : Step) :
    AlikeOutcomes (r₁.perform t₁ s) (r₂.perform t₂ s) := by
  cases s with
  | createParents =>
      rw [Replacement.perform, Replacement.perform, h.missingParent? path]
      split
      · exact ⟨h, rfl⟩
      · exact h.makeDirectoryOf _
  | openFile =>
      rw [Replacement.perform, Replacement.perform]
      exact h.atFile path fun l => h.openAt l _
  | writeContent =>
      rw [Replacement.perform, Replacement.perform]
      exact h.atFile path fun l => h.append l empty
  | restrict =>
      rw [Replacement.perform, Replacement.perform]
      exact h.atFile path fun l => h.changeMode l _

theorem run (h : Alike t₁ t₂) (path : r₁.path = r₂.path)
    (empty : r₁.content = [] ↔ r₂.content = []) (ss : List Step) :
    AlikeOutcomes (r₁.run t₁ ss) (r₂.run t₂ ss) := by
  induction ss generalizing t₁ t₂ with
  | nil => exact ⟨h, rfl⟩
  | cons s ss ih =>
      rw [Replacement.run, Replacement.run]
      have hs := h.perform path empty s
      generalize r₁.perform t₁ s = x₁ at hs ⊢
      generalize r₂.perform t₂ s = x₂ at hs ⊢
      obtain ⟨u₁, f₁⟩ := x₁
      obtain ⟨u₂, f₂⟩ := x₂
      obtain ⟨hu, rfl⟩ := hs
      cases f₁ with
      | some fault => exact ⟨hu, rfl⟩
      | none => exact ih hu

end

end Alike
end EnvSync.FileTree
