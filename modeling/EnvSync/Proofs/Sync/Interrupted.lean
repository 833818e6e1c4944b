/-
# Runs that end early

The env file is changed in place.  Opening empties it, then the content is written, and the
rights of others are taken away last.  What a run that ends early leaves is therefore told by
the step that it ends at (`LeftBy`, `left_by_failure`): before the file is opened it is spared,
and afterwards its old content is gone while its old mode is still there.

So a file that others may read shows them the new content from the time it is written to the
time it is restricted, and for good if that fails (`Course.private_iff`).  A file that the run
makes is for its owner only at all times.
-/
import EnvSync.FileTree.Standing
import EnvSync.Proofs.Sync.Run

namespace EnvSync

namespace FileTree

variable {t t' : FileTree} {path : String}

/-! ## What is left of a file -/

/-- What the path leads to is still there and no file was made. -/
structure Spared (t t' : FileTree) (path : String) : Prop where
  kept : ∀ e, t.lookUp path = .ok e → t'.lookUp path = .ok e
  unmade : t.entry? (t.destination path) = none →
    ∀ content mode, t'.lookUp path ≠ .ok (.file content mode)
  untouched : ".." ∉ components path →
    t'.entry? (t.destination path) = t.entry? (t.destination path)
  confined : Confined t t' path

theorem Prepared.spared (h : Prepared t t' path) : Spared t t' path := by
  refine ⟨?_, ?_, h.entry_destination, h.confined⟩
  · intro e he
    obtain ⟨l, hl, he⟩ := lookUp_eq_ok_iff.1 he
    exact lookUp_eq_ok_iff.2 ⟨l, locate_of_keeps h.grown.keeps hl, h.grown.entry_eq he⟩
  · intro hnone content mode hfile
    obtain ⟨l, hl, he⟩ := lookUp_eq_ok_iff.1 hfile
    rw [eq_destination hl, h.grown.destination] at he
    rcases h.grown.entry (t.destination path) with hsame | ⟨-, hdir⟩
    · exact nomatch hnone.symm.trans (hsame.symm.trans he)
    · exact nomatch hdir.symm.trans he

/-- The path leads to a file with this content.  It has the mode that the old one had, or is for
its owner only where there was none. -/
structure Overwritten (t t' : FileTree) (path : String) (content : List UInt8) : Prop where
  file : (∀ d, t.entry? (t.destination path) ≠ some (.device d)) →
    t'.lookUp path = .ok (.file content (t.startMode path))
  confined : Confined t t' path

namespace Replacement

variable {r : Replacement} {done : List Step}

/-- What a replacement leaves that ends at a step. -/
def LeftBy (r : Replacement) (t t' : FileTree) : Step → Prop
  | .createParents | .openFile => Spared t t' r.path
  | .writeContent => ∃ front, front <+: r.content ∧ Overwritten t t' r.path front
  | .restrict => Overwritten t t' r.path r.content

theorem Course.eq_earlier {s : Step} (h : Course r t done (some s) t') : done = earlier s := by
  cases h with
  | cut => rfl

theorem Course.leftBy {s : Step} (h : Course r t done (some s) t') : LeftBy r t t' s := by
  obtain rfl := h.eq_earlier
  cases s with
  | createParents => exact (h.prepared (by decide)).spared
  | openFile => exact (h.prepared (by decide)).spared
  | writeContent =>
      -- Of what a device holds nothing is said, so any front will do there.
      by_cases device : ∀ d, t.entry? (t.destination r.path) ≠ some (.device d)
      · obtain ⟨front, hfront, -, -, hfile⟩ := h.lookUp device (by decide)
        exact ⟨front, hfront, fun _ => hfile, h.confined⟩
      · exact ⟨[], List.nil_prefix, fun hd => absurd hd device, h.confined⟩
  | restrict =>
      refine ⟨fun device => ?_, h.confined⟩
      obtain ⟨front, -, hfull, -, hfile⟩ := h.lookUp device (by decide)
      obtain rfl := hfull (by decide)
      exact hfile

/-! ## Who may see the content -/

/-- A mode that gives nothing to anybody but the owner. -/
def Private (mode : Nat) : Prop := mode % 0o100 = 0

instance (mode : Nat) : Decidable (Private mode) := inferInstanceAs (Decidable (_ = _))

theorem private_startMode_iff : Private (t.startMode path) ↔
    ∀ content mode, t.entry? (t.destination path) = some (.file content mode) → Private mode := by
  rw [startMode]
  split
  · next content mode he =>
    refine ⟨fun h c m hm => ?_, fun h => h _ _ he⟩
    cases he.symm.trans hm
    exact h
  · next hno => exact ⟨fun _ c m hm => absurd hm (hno c m), fun _ => by decide⟩

/-- Until the file is opened nothing of the content is in it.  From then on there is a front of
the content in it, and others have rights to it just when it has not been restricted yet and
they had rights to a file that was there. -/
theorem Course.private_iff {cut : Option Step}
    (device : ∀ d, t.entry? (t.destination r.path) ≠ some (.device d))
    (h : Course r t done cut t') :
    (.openFile ∉ done → Spared t t' r.path) ∧
      (.openFile ∈ done → ∃ front mode, front <+: r.content ∧
        (.writeContent ∈ done → front = r.content) ∧
        t'.lookUp r.path = .ok (.file front mode) ∧
        (Private mode ↔ .restrict ∈ done ∨ ∀ c₀ m₀,
          t.entry? (t.destination r.path) = some (.file c₀ m₀) → Private m₀)) := by
  refine ⟨fun hopen => (h.prepared hopen).spared, fun hopen => ?_⟩
  obtain ⟨front, hfront, hfull, -, hfile⟩ := h.lookUp device hopen
  refine ⟨front, _, hfront, hfull, hfile, ?_⟩
  rw [← private_startMode_iff]
  by_cases hrestrict : .restrict ∈ done
  · rw [if_pos hrestrict]
    exact ⟨fun _ => .inl hrestrict, fun _ => by decide⟩
  · rw [if_neg hrestrict]
    exact ⟨.inr, fun h => h.resolve_left hrestrict⟩

/-- A replacement that is to be restricted yet has left a file of mode 0644 with its content, and
one of mode 0700 is closed to others all the same. -/
theorem Course.private_iff_of_two_modes :
    let r := Dotenv.replacement ".env" "A=1"
    let done : List Step := [.createParents, .openFile, .writeContent]
    r.Course (Dotenv.alone [1] 0o644) done none (Dotenv.alone r.content 0o644) ∧
      (∃ mode, (Dotenv.alone r.content 0o644).lookUp ".env" = .ok (.file r.content mode) ∧
        ¬ Private mode) ∧
      r.Course (Dotenv.alone [1] 0o700) done none (Dotenv.alone r.content 0o700) ∧
      ∃ mode, (Dotenv.alone r.content 0o700).lookUp ".env" = .ok (.file r.content mode) ∧
        Private mode := by
  intro r done
  have shared : r.Course (Dotenv.alone [1] 0o644) done none (Dotenv.alone r.content 0o644) :=
    Dotenv.course_writeContent_alone rfl _ _
  have own : r.Course (Dotenv.alone [1] 0o700) done none (Dotenv.alone r.content 0o700) :=
    Dotenv.course_writeContent_alone rfl _ _
  refine ⟨shared, ?_, own, ?_⟩
  · obtain ⟨_, mode, -, hfull, hfile, hprivate⟩ :=
      (shared.private_iff Dotenv.not_device_alone).2 (by decide)
    obtain rfl := hfull (by decide)
    refine ⟨mode, hfile, fun hmode => ?_⟩
    rcases hprivate.1 hmode with hdone | hold
    · exact absurd hdone (by decide)
    · exact absurd (hold _ _ Dotenv.entry?_destination_alone) (by decide)
  · obtain ⟨_, mode, -, hfull, hfile, hprivate⟩ :=
      (own.private_iff Dotenv.not_device_alone).2 (by decide)
    obtain rfl := hfull (by decide)
    refine ⟨mode, hfile, hprivate.2 (.inr fun c m hm => ?_)⟩
    cases Dotenv.entry?_destination_alone.symm.trans hm
    decide

/-- The content stands in a file that others may read, on the way and where restricting fails. -/
theorem content_shown_to_others :
    let r := Dotenv.replacement ".env" "A=1"
    let t := Dotenv.alone [1] 0o644
    let t' := Dotenv.alone r.content 0o644
    r.Course t [.createParents, .openFile, .writeContent] none t' ∧
      r.Course t [.createParents, .openFile, .writeContent] (some .restrict) t' ∧
      r.content ≠ [] ∧ t'.lookUp ".env" = .ok (.file r.content 0o644) ∧ ¬ Private 0o644 := by
  intro r t t'
  have hwritten : r.Course t [.createParents, .openFile, .writeContent] none t' :=
    Dotenv.course_writeContent_alone rfl _ _
  exact ⟨hwritten, .cut (s := .restrict) hwritten (.before _), by decide, Dotenv.lookUp_alone _ _,
    by decide⟩

end Replacement
end FileTree

namespace Sync

open FileTree (Step)

variable {b : Backend} {o : Options} {t : FileTree} {f : Failure}

/-! ## Failing runs -/

/-- A real run that fails has left the tree alone, or has ended at a step of saving. -/
theorem course_of_failed_run (real : o.dryRun = false) (h : (run b o t).result = .error f) :
    (run b o t).tree = t ∨ ∃ s e done step, bundleOf b o = .ok s ∧
      Dotenv.load t o.envFile = .ok e ∧ f = .file ⟨.replace step, o.envFile⟩ ∧
      (Dotenv.replacement o.envFile (Dotenv.render (e.merge s))).Course t done (some step)
        (run b o t).tree := by
  cases hs : bundleOf b o with
  | error g => exact .inl (by rw [run_of_unfetched hs])
  | ok s =>
      cases hl : Dotenv.load t o.envFile with
      | error g => exact .inl (run_of_unloaded hs hl).2
      | ok e =>
          cases hsave : Dotenv.save t o.envFile (Dotenv.render (e.merge s)) with
          | mk t' failed =>
              obtain ⟨done, cut, hcourse, rfl, -⟩ := Dotenv.course_of_save hsave
              cases cut with
              | none => exact nomatch (run_of_saved real hs hl hsave).1.symm.trans h
              | some step =>
                  obtain ⟨hresult, rfl⟩ := run_of_unsaved real hs hl hsave
                  obtain rfl := Except.error.inj (h.symm.trans hresult)
                  exact .inr ⟨s, e, done, step, rfl, rfl, rfl, hcourse⟩

/-- A replacement that ends early spares the file as long as it has not been opened.  Ended later
it leaves a front of the new content, under the old mode where there was a file and
for its owner only where there was none.  Saves that fail, and so real runs that do, leave one or
the other, as the step says that they fail at. -/
theorem left_by_failure :
    (∀ (r : FileTree.Replacement) (t t' : FileTree) (done : List Step) (s : Step),
      r.Course t done (some s) t' → r.LeftBy t t' s) ∧
    (∀ (t t' : FileTree) (path text : String) (f : Dotenv.Failure),
      Dotenv.save t path text = (t', some f) →
        ∃ s, f = ⟨.replace s, path⟩ ∧ (Dotenv.replacement path text).LeftBy t t' s) ∧
    (∀ (b : Backend) (o : Options) (t : FileTree) (f : Failure), o.dryRun = false →
      (run b o t).result = .error f → (run b o t).tree = t ∨
        ∃ s e step, bundleOf b o = .ok s ∧ Dotenv.load t o.envFile = .ok e ∧
          f = .file ⟨.replace step, o.envFile⟩ ∧
          (Dotenv.replacement o.envFile (Dotenv.render (e.merge s))).LeftBy t (run b o t).tree
            step) := by
  refine ⟨fun r t t' done s h => h.leftBy, ?_, ?_⟩
  · intro t t' path text f h
    obtain ⟨done, cut, hcourse, hcut, -⟩ := Dotenv.course_of_save h
    cases cut with
    | none => cases hcut
    | some s => exact ⟨s, Option.some.inj hcut, hcourse.leftBy⟩
  · intro b o t f real h
    rcases course_of_failed_run real h with htree | ⟨s, e, done, step, hs, he, hf, hcourse⟩
    · exact .inl htree
    · exact .inr ⟨s, e, step, hs, he, hf, hcourse.leftBy⟩

/-- The devices and an empty directory. -/
def bare : FileTree := .standing ["work"]

theorem course_openFile_bare (text : String) : (Dotenv.replacement ".env" text).Course bare
    [.createParents, .openFile] none (bare.set ["work", ".env"] (.file [] 0o600)) := by
  have located : bare.locate ".env" = .ok ["work", ".env"] := by rfl
  have opens : bare.openAt ["work", ".env"] FileTree.ownerOnly =
      .ok (bare.set ["work", ".env"] (.file [] 0o600)) := by rfl
  have opened : (Dotenv.replacement ".env" text).perform bare .openFile =
      (bare.set ["work", ".env"] (.file [] 0o600), none) := by
    simp only [FileTree.Replacement.perform, FileTree.Replacement.atFile, Dotenv.replacement,
      located, opens]
  exact .step (s := .openFile)
    (.step (s := .createParents) .nil (Dotenv.perform_createParents_here bare text)) opened

/-- A label takes a text, but its permissions are fixed. -/
theorem save_bare : Dotenv.save bare "/proc/self/comm" "K=\"k\"" =
    (bare.set ["proc", "self", "comm"] (.device (.label (Text.Utf8.encode "K=\"k\""))),
      some ⟨.replace .restrict, "/proc/self/comm"⟩) := by
  rfl

theorem load_bare : Dotenv.load bare "/proc/self/comm" = .ok .empty := by
  have hlabel : bare.lookUp "/proc/self/comm" = .ok (.device (.label [])) := by rfl
  have hparse : Dotenv.parse "\n" = .empty := by cbv
  exact hparse ▸ Dotenv.load_of_label hlabel (by rfl)

/-- A write that is cut short at once leaves an empty file with the rights it had, and a run that
saves to a label fails at its last step. -/
theorem left_by_failure_of_cut_write :
    let r := Dotenv.replacement ".env" "K=\"k\""
    let o : Options := ⟨Secret.Id.default, "/proc/self/comm", "K", false⟩
    let b := Backend.fixed "b" (.ok (Text.Utf8.encode "\x7b\"K\":\"k\"\x7d"))
    r.Course (Dotenv.alone [1] 0o644) [.createParents, .openFile] (some .writeContent)
        (Dotenv.alone [] 0o644) ∧
      r.LeftBy (Dotenv.alone [1] 0o644) (Dotenv.alone [] 0o644) .writeContent ∧
      (run b o bare).result = .error (.file ⟨.replace .restrict, "/proc/self/comm"⟩) ∧
      (Dotenv.replacement "/proc/self/comm" "K=\"k\"").LeftBy bare (run b o bare).tree
        .restrict := by
  intro r o b
  have hcourse : r.Course (Dotenv.alone [1] 0o644) [.createParents, .openFile]
      (some .writeContent) (Dotenv.alone [] 0o644) :=
    .cut (s := .writeContent) (Dotenv.course_openFile_alone rfl _ _) (.before _)
  have hs : bundleOf b o = .ok ⟨[("K", "k")], by decide⟩ := by cbv
  obtain ⟨hresult, htree⟩ := run_of_unsaved (o := o) rfl hs load_bare save_bare
  have changed : (run b o bare).tree ≠ bare := by
    rw [htree]
    decide
  obtain ⟨ended, -, failed⟩ := left_by_failure
  refine ⟨hcourse, ended _ _ _ _ _ hcourse, hresult, ?_⟩
  rcases failed b o bare _ rfl hresult with hsame | ⟨s, e, step, hs', he, hf, hleft⟩
  · exact absurd hsame changed
  · obtain rfl := Except.ok.inj (hs'.symm.trans hs)
    obtain rfl := Except.ok.inj (he.symm.trans load_bare)
    cases hf
    exact hleft

/-- What is in a file, or that there is none, need not outlive a replacement that fails, and a run
that fails may have changed its file. -/
theorem failure_loses_content :
    let r := Dotenv.replacement ".env" "K=\"k\""
    let o : Options := ⟨Secret.Id.default, "/proc/self/comm", "K", false⟩
    let b := Backend.fixed "b" (.ok (Text.Utf8.encode "\x7b\"K\":\"k\"\x7d"))
    (∃ done t', r.Course (Dotenv.alone [1] 0o644) done (some .writeContent) t' ∧
      (Dotenv.alone [1] 0o644).lookUp ".env" = .ok (.file [1] 0o644) ∧
      t'.lookUp ".env" = .ok (.file [] 0o644)) ∧
    (∃ done t', r.Course bare done (some .writeContent) t' ∧
      bare.lookUp ".env" = .error .notFound ∧ t'.lookUp ".env" = .ok (.file [] 0o600)) ∧
    (run b o bare).result = .error (.file ⟨.replace .restrict, "/proc/self/comm"⟩) ∧
    Dotenv.load bare "/proc/self/comm" = .ok .empty ∧
    Dotenv.load (run b o bare).tree "/proc/self/comm" = .ok ⟨[("K", "k")], by decide⟩ := by
  intro r o b
  have hs : bundleOf b o = .ok ⟨[("K", "k")], by decide⟩ := by cbv
  have hparse : Dotenv.parse "K=\"k\"\n" = ⟨[("K", "k")], by decide⟩ := by cbv
  obtain ⟨hresult, htree⟩ := run_of_unsaved (o := o) rfl hs load_bare save_bare
  refine ⟨⟨_, _, .cut (s := .writeContent) (Dotenv.course_openFile_alone rfl _ _) (.before _),
    Dotenv.lookUp_alone _ _, Dotenv.lookUp_alone _ _⟩, ?_, hresult, load_bare, ?_⟩
  · exact ⟨_, _, .cut (s := .writeContent) (course_openFile_bare _) (.before _), by rfl, by rfl⟩
  · have hlabel : (run b o bare).tree.lookUp "/proc/self/comm" =
        .ok (.device (.label (Text.Utf8.encode "K=\"k\""))) := by
      rw [htree]
      rfl
    exact hparse ▸ Dotenv.load_of_label hlabel (by rfl)

end Sync
end EnvSync
