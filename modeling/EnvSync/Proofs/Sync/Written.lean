/-
# What a real run writes

A real run that succeeds leaves the env file with just the text of its settings, for its
owner only, and the rest of the tree as it was; what is new beside the env file are
directories on the way to it (`run_writes`).

What it leaves of the file is known from the last of its steps, and what it leaves of
everything else from the course that the steps are.
-/
import EnvSync.Proofs.Sync.Run

namespace EnvSync.Sync

open FileTree (components)

variable {b : Backend} {o : Options} {t : FileTree} {r : Report}

theorem exists_bundle_of_run (h : (run b o t).result = .ok r) : ∃ s, bundleOf b o = .ok s := by
  cases hs : bundleOf b o with
  | error f =>
      rw [run_of_unfetched hs] at h
      cases h
  | ok s => exact ⟨s, rfl⟩

/-- A real run that succeeds leaves a file with the text of the settings that it loaded overlaid
with the bundle, whatever there was before, and for its owner only.  Everything else is as
it was, but for directories that the path passes and that were missing. -/
theorem run_writes (up : ".." ∉ components o.envFile)
    (device : ∀ d, t.entry? (t.destination o.envFile) ≠ some (.device d))
    (real : o.dryRun = false) (success : (run b o t).result = .ok r) :
    ∃ s e, bundleOf b o = .ok s ∧ Dotenv.Holds t o.envFile e ∧
      r.written = true ∧ r.total = (e.merge s).size ∧
      let t' := (run b o t).tree
      let l := t.destination o.envFile
      t'.locate o.envFile = .ok l ∧
        t'.entry? l = some (.file (Text.Utf8.encode (Dotenv.render (e.merge s))) 0o600) ∧
        t'.start = t.start ∧
        (∀ k x, k ≠ l → t.entry? k = some x → t'.entry? k = some x) ∧
        ∀ k x, k ≠ l → t.entry? k = none → t'.entry? k = some x →
          k <+: l ∧ x = .directory false := by
  obtain ⟨s, hs⟩ := exists_bundle_of_run success
  obtain ⟨e, hload, rfl, hsave⟩ := exists_of_run real hs success
  have hfile := Dotenv.lookUp_of_save device hsave
  obtain ⟨l, hl, he⟩ := FileTree.lookUp_eq_ok_iff.1 hfile
  obtain ⟨done, cut, hcourse, -⟩ := Dotenv.course_of_save hsave
  have hconfined := hcourse.confined
  have hdest : l = t.destination o.envFile := by
    rw [FileTree.eq_destination hl, FileTree.destination, hconfined.start]
    rfl
  subst hdest
  refine ⟨s, e, hs, Dotenv.holds_of_load device hload, ?_, rfl, hl, he, hconfined.start, ?_, ?_⟩
  · rw [Change.report, real]
    rfl
  · intro k x hk hx
    rcases hconfined.entry k hk with h | ⟨hnone, -⟩
    · rw [h, hx]
    · have hsome := hnone.symm.trans hx
      cases hsome
  · intro k x hk hnone hx
    rcases hconfined.entry k hk with h | ⟨-, hdir, hpass⟩
    · have hsome := hx.symm.trans (h.trans hnone)
      cases hsome
    · exact ⟨(hpass up).1, Option.some.inj (hx.symm.trans hdir)⟩

/-- A working directory with a file in it that is no env file. -/
def workplace : FileTree :=
  ⟨.ofList [(["w"], .directory false), (["w", "x"], .file [1] 0o644)], ["w"]⟩

theorem save_workplace :
    Dotenv.save workplace "a/.env" "K=\"k\"" = ((workplace.set ["w", "a"] (.directory false)).set
      ["w", "a", ".env"] (.file (Text.Utf8.encode "K=\"k\"") 0o600), none) := by
  have hparent : FileTree.parent? "a/.env" = some "a" := by rfl
  have hways : FileTree.ancestors "a" = ["a", ""] := by cbv
  have hthere : workplace.isThere "a" = false := by rfl
  have hmissing : (Dotenv.replacement "a/.env" "K=\"k\"").missingParent? workplace =
      some "a" := by
    simp [FileTree.Replacement.missingParent?, Dotenv.replacement, hparent, hthere]
  have made : (Dotenv.replacement "a/.env" "K=\"k\"").perform workplace .createParents =
      (workplace.set ["w", "a"] (.directory false), none) := by
    rw [FileTree.Replacement.perform, hmissing]
    dsimp only
    rw [FileTree.makeDirectories, hways]
    rfl
  have written : (Dotenv.replacement "a/.env" "K=\"k\"").run
      (workplace.set ["w", "a"] (.directory false)) [.openFile, .writeContent, .restrict] =
        ((workplace.set ["w", "a"] (.directory false)).set
          ["w", "a", ".env"] (.file (Text.Utf8.encode "K=\"k\"") 0o600), none) := by rfl
  rw [Dotenv.save, FileTree.Step.all, FileTree.Replacement.run, made]
  dsimp only
  rw [written]
  rfl

/-- A directory is missing on the way, and a file stands beside it. -/
theorem run_writes_into_missing_directory :
    let o : Options := ⟨Secret.Id.default, "a/.env", "K", false⟩
    let b := Backend.fixed "b" (.ok (Text.Utf8.encode "\x7b\"K\":\"k\"\x7d"))
    let t' := (run b o workplace).tree
    (run b o workplace).result = .ok ⟨"a/.env", ["K"], [], 1, true⟩ ∧
      t'.entry? ["w", "a", ".env"] = some (.file (Text.Utf8.encode "K=\"k\"") 0o600) ∧
      t'.entry? ["w", "x"] = some (.file [1] 0o644) ∧
      ∀ k x, k ≠ ["w", "a", ".env"] → workplace.entry? k = none → t'.entry? k = some x →
        k <+: ["w", "a", ".env"] ∧ x = .directory false := by
  intro o b t'
  have hs : bundleOf b o = .ok ⟨[("K", "k")], by decide⟩ := by cbv
  have hload : Dotenv.load workplace "a/.env" = .ok .empty := by rfl
  have hdest : workplace.destination o.envFile = ["w", "a", ".env"] := by
    change workplace.destination "a/.env" = _
    rfl
  have device : ∀ d, workplace.entry? (workplace.destination o.envFile) ≠ some (.device d) := by
    intro d hd
    rw [hdest] at hd
    cases hd
  obtain ⟨success, -⟩ := run_of_saved (o := o) rfl hs hload save_workplace
  obtain ⟨s, e, hs', held, -, -, -, hfile, -, kept, new⟩ :=
    run_writes (by decide) device rfl success
  obtain rfl := Except.ok.inj (hs'.symm.trans hs)
  obtain rfl := held.eq_of_load hload
  rw [hdest] at hfile kept new
  exact ⟨success, hfile, kept ["w", "x"] _ (by decide) rfl, new⟩

end EnvSync.Sync
