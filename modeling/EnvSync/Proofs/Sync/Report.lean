/-
# Reports

A report counts names before anything is overlaid, and the overlay is made without a look at
the report.  That the two agree is `report_tallies`: the names of the merged settings are the
old ones and behind them those reported as added, the reported ones are together the names of
the bundle, and the total is the number of names that are in the one or in the other.

So a report can be had without the change.  A dry run fails as the real one does before it comes
to saving, and reports what the real one reports if that succeeds (`real_run_foretold`).  There
is one way left in which a real run can go wrong that a dry one cannot foretell, a step of saving
that fails.
-/
import EnvSync.Proofs.Sync.Run

namespace EnvSync

/-! ## What is reported -/

/-- What is to be said of settings `e` that are overlaid with `s`: the names that come new, those
whose values are replaced, the settings that come of it, and how many they are. -/
structure Settings.Tallies (e s : Settings) (added updated : List String) (m : Settings)
    (total : Nat) : Prop where
  keys_nodup : m.keys.Nodup
  keys : m.keys = e.keys ++ added
  added_sublist : added.Sublist s.keys
  mem_added : ∀ k, k ∈ added ↔ k ∈ s ∧ k ∉ e
  updated_sublist : updated.Sublist s.keys
  mem_updated : ∀ k, k ∈ updated ↔ k ∈ s ∧ k ∈ e
  disjoint : added.Disjoint updated
  together : (added ++ updated).Perm s.keys
  bundled : ∀ k ∈ s, m.get? k = s.get? k
  kept : ∀ k, k ∉ s → m.get? k = e.get? k
  size : total = m.size
  counted : total = e.size + added.length
  union : total = (e.keys.toFinset ∪ s.keys.toFinset).card

namespace Settings

variable {e s : Settings}

theorem mem_added {k : String} : k ∈ (e.classify s).1 ↔ k ∈ s ∧ k ∉ e := by
  rw [classify, List.mem_filter, decide_eq_true_eq]
  rfl

theorem mem_updated {k : String} : k ∈ (e.classify s).2 ↔ k ∈ s ∧ k ∈ e := by
  rw [classify, List.mem_filter, decide_eq_true_eq]
  rfl

theorem keys_merge_classify (e s : Settings) : (e.merge s).keys = e.keys ++ (e.classify s).1 :=
  OrderedMap.keys_merge e s

theorem size_merge_classify (e s : Settings) :
    (e.merge s).size = e.size + (e.classify s).1.length := by
  rw [OrderedMap.size_eq_length_keys, keys_merge_classify, List.length_append,
    ← OrderedMap.size_eq_length_keys]

theorem card_keys_union (e s : Settings) :
    (e.merge s).size = (e.keys.toFinset ∪ s.keys.toFinset).card := by
  have hkeys : e.keys.toFinset ∪ s.keys.toFinset = (e.merge s).keys.toFinset := by
    ext k
    rw [Finset.mem_union, List.mem_toFinset, List.mem_toFinset, List.mem_toFinset]
    exact OrderedMap.mem_merge.symm
  have hnodup : (e.merge s).keys.Nodup := (e.merge s).keys_nodup
  rw [hkeys, List.toFinset_card_of_nodup hnodup, OrderedMap.size_eq_length_keys]

/-- The names of a bundle are told apart before the overlay, and the overlay bears it out. -/
theorem tallies_classify (e s : Settings) :
    Tallies e s (e.classify s).1 (e.classify s).2 (e.merge s) (e.merge s).size where
  keys_nodup := (e.merge s).keys_nodup
  keys := keys_merge_classify e s
  added_sublist := List.filter_sublist
  mem_added _ := mem_added
  updated_sublist := List.filter_sublist
  mem_updated _ := mem_updated
  disjoint := by
    intro k hadded hupdated
    exact (mem_added.1 hadded).2 (mem_updated.1 hupdated).2
  together := by
    have h := List.filter_append_perm (· ∉ e) s.keys
    simpa only [classify, decide_not, Bool.not_not] using h
  bundled _ hk := OrderedMap.get?_merge_of_mem hk
  kept _ hk := OrderedMap.get?_merge_of_notMem hk
  size := rfl
  counted := size_merge_classify e s
  union := card_keys_union e s

end Settings

namespace Sync

variable {b : Backend} {o : Options} {t : FileTree} {r : Report}

/-! ## Reports of runs -/

/-- A run reports of the file that it loads and the bundle that it gets just what becomes of the
names when the one is overlaid with the other, and a real run saves that overlay. -/
theorem report_tallies :
    (∀ e s : Settings, e.Tallies s (e.classify s).1 (e.classify s).2 (e.merge s)
      (e.merge s).size) ∧
    ∀ (b : Backend) (o : Options) (t : FileTree) (r : Report), (run b o t).result = .ok r →
      ∃ e s, Dotenv.load t o.envFile = .ok e ∧ bundleOf b o = .ok s ∧
        (r.added, r.updated) = e.classify s ∧ r.total = (e.merge s).size ∧
        r.envFile = o.envFile ∧ r.written = !o.dryRun ∧
        (o.dryRun = false →
          Dotenv.save t o.envFile (Dotenv.render (e.merge s)) = ((run b o t).tree, none)) := by
  refine ⟨Settings.tallies_classify, ?_⟩
  intro b o t r success
  obtain ⟨e, s, hload, hs, rfl⟩ := exists_loaded_of_run success
  refine ⟨e, s, hload, hs, rfl, rfl, rfl, rfl, fun real => ?_⟩
  obtain ⟨e', hload', -, hsave⟩ := exists_of_run real hs success
  obtain rfl := Except.ok.inj (hload'.symm.trans hload)
  exact hsave

/-- A name that the file lacks, between two that it has. -/
theorem report_tallies_of_three_names :
    let text := "A=1\nK=old\nB=2"
    let o : Options := ⟨Secret.Id.default, ".env", "K", false⟩
    let b := Backend.fixed "b" (.ok (Text.Utf8.encode "\x7b\"K\":\"k\",\"N\":\"n\",\"A\":\"a\"\x7d"))
    let t := Dotenv.alone (Text.Utf8.encode text) 0o644
    (∃ r, (run b o t).result = .ok r ∧ r.added = ["N"] ∧ r.updated = ["K", "A"] ∧ r.total = 4) ∧
      Dotenv.save t ".env" "A=\"a\"\nK=\"k\"\nB=\"2\"\nN=\"n\"" = ((run b o t).tree, none) := by
  intro text o b t
  have hparse : Dotenv.parse text = ⟨[("A", "1"), ("K", "old"), ("B", "2")], by decide⟩ := by cbv
  have hs : bundleOf b o = .ok ⟨[("K", "k"), ("N", "n"), ("A", "a")], by decide⟩ := by cbv
  obtain ⟨success, -⟩ := run_alone 0o644 rfl rfl rfl rfl hs text
  obtain ⟨e, s, hload, hs', hnames, htotal, -, -, hsave⟩ := report_tallies.2 b o t _ success
  obtain rfl := Except.ok.inj (hs'.symm.trans hs)
  obtain rfl := Except.ok.inj (hload.symm.trans (hparse ▸ Dotenv.load_alone rfl text))
  obtain ⟨hadded, hupdated⟩ := Prod.mk.inj hnames
  exact ⟨⟨_, success, hadded, hupdated, htotal⟩, hsave rfl⟩

/-! ## Dry runs -/

def Options.dry (o : Options) : Options := { o with dryRun := true }

def Options.real (o : Options) : Options := { o with dryRun := false }

def treeAfter (runs : List (Backend × Options)) (t : FileTree) : FileTree :=
  runs.foldl (fun t x => (run x.1 x.2 t).tree) t

theorem treeAfter_of_dryRuns {runs : List (Backend × Options)} (h : ∀ x ∈ runs, x.2.dryRun = true)
    (t : FileTree) : treeAfter runs t = t := by
  induction runs with
  | nil => rfl
  | cons x runs ih =>
      have hx : (run x.1 x.2 t).tree = t := tree_run_of_dryRun (h x List.mem_cons_self)
      rw [treeAfter, List.foldl_cons, hx]
      exact ih fun y hy => h y (List.mem_cons_of_mem x hy)

/-- Either both runs fail, and alike, or the dry one succeeds and the real one comes to saving. -/
theorem dry_and_real (b : Backend) (o : Options) (t : FileTree) :
    (∃ f, (run b o.dry t).result = .error f ∧ (run b o.real t).result = .error f) ∨
    ∃ e s, Dotenv.load t o.envFile = .ok e ∧ bundleOf b o = .ok s ∧
      (run b o.dry t).result = .ok (Change.report ⟨e, s⟩ o.dry) := by
  cases hs : bundleOf b o with
  | error f =>
      left
      refine ⟨.secret f, ?_, ?_⟩
      · rw [run_of_unfetched (o := o.dry) hs]
      · rw [run_of_unfetched (o := o.real) hs]
  | ok s =>
      cases hload : Dotenv.load t o.envFile with
      | error f =>
          left
          exact ⟨.file f, (run_of_unloaded (o := o.dry) hs hload).1,
            (run_of_unloaded (o := o.real) hs hload).1⟩
      | ok e =>
          right
          exact ⟨e, s, rfl, rfl, result_of_dryRun (o := o.dry) rfl hs hload⟩

/-- A real run that has all it needs either succeeds or fails in a step of saving. -/
theorem real_of_loaded {e s : Settings} (hload : Dotenv.load t o.envFile = .ok e)
    (hs : bundleOf b o = .ok s) :
    (run b o.real t).result = .ok (Change.report ⟨e, s⟩ o.real) ∧
        Dotenv.save t o.envFile (Dotenv.render (e.merge s)) = ((run b o.real t).tree, none) ∨
      ∃ step, (run b o.real t).result = .error (.file ⟨.replace step, o.envFile⟩) := by
  cases hsave : Dotenv.save t o.envFile (Dotenv.render (e.merge s)) with
  | mk t' failed =>
      cases failed with
      | none =>
          obtain ⟨hresult, htree⟩ := run_of_saved (o := o.real) rfl hs hload hsave
          exact .inl ⟨hresult, by rw [htree]⟩
      | some f =>
          obtain ⟨hresult, -⟩ := run_of_unsaved (o := o.real) rfl hs hload hsave
          -- Saving knows no failure but that of a step.
          obtain ⟨_, cut, -, hcut, -⟩ := Dotenv.course_of_save hsave
          obtain ⟨step, -, hstep⟩ := Option.map_eq_some_iff.1 hcut.symm
          subst hstep
          exact .inr ⟨step, hresult⟩

/-- What a dry run fails with the real one fails with too, and of a real run that succeeds the dry
one reports everything but that it was written.  A dry run that succeeds names the names that
the merged settings have behind the old ones; then the real one saves those settings or fails
in a step of saving.  Dry runs beforehand, of whatever kind, make no difference. -/
theorem real_run_foretold (b : Backend) (o : Options) (t : FileTree) :
    let dry := run b o.dry t
    let real := run b o.real t
    (∀ f, dry.result = .error f → real.result = .error f) ∧
    (∀ r, real.result = .ok r → r.written = true ∧ dry.result = .ok { r with written := false }) ∧
    (∀ d, dry.result = .ok d → ∃ e s, Dotenv.load t o.envFile = .ok e ∧ bundleOf b o = .ok s ∧
      (e.merge s).keys = e.keys ++ d.added ∧
      (real.result = .ok { d with written := true } ∧
          Dotenv.save t o.envFile (Dotenv.render (e.merge s)) = (real.tree, none) ∨
        ∃ step, real.result = .error (.file ⟨.replace step, o.envFile⟩))) ∧
    (∀ runs : List (Backend × Options), (∀ x ∈ runs, x.2.dryRun = true) →
      run b o.real (treeAfter runs t) = real) := by
  intro dry real
  refine ⟨?_, ?_, ?_, ?_⟩
  · intro f hdry
    rcases dry_and_real b o t with ⟨g, hdry', hreal⟩ | ⟨e, s, -, -, hdry'⟩
    · obtain rfl := Except.error.inj (hdry'.symm.trans hdry)
      exact hreal
    · exact nomatch hdry'.symm.trans hdry
  · intro r hreal
    obtain ⟨e, s, hload, hs, rfl⟩ := exists_loaded_of_run hreal
    exact ⟨rfl, result_of_dryRun (o := o.dry) rfl hs hload⟩
  · intro d hdry
    obtain ⟨e, s, hload, hs, rfl⟩ := exists_loaded_of_run hdry
    exact ⟨e, s, hload, hs, Settings.keys_merge_classify e s, real_of_loaded hload hs⟩
  · intro runs hruns
    rw [treeAfter_of_dryRuns hruns]

/-- A backend that refuses, and one that brings a name that the file lacks, rehearsed before the
real run. -/
theorem real_run_foretold_of_two_rehearsals :
    let text := "A=1\nK=old"
    let o : Options := ⟨Secret.Id.default, ".env", "K", false⟩
    let refused := Backend.fixed "b" (.error (.backend "denied"))
    let b := Backend.fixed "b" (.ok (Text.Utf8.encode "\x7b\"N\":\"n\",\"K\":\"k\"\x7d"))
    let t := Dotenv.alone (Text.Utf8.encode text) 0o644
    (run refused o.dry t).result = .error (.secret ⟨"LAGO_ENV_VARS", .backend "denied"⟩) ∧
      (run refused o.real t).result = .error (.secret ⟨"LAGO_ENV_VARS", .backend "denied"⟩) ∧
      (run b o.dry t).result = .ok ⟨".env", ["N"], ["K"], 3, false⟩ ∧
      (run b o.real (treeAfter [(refused, o.dry), (b, o.dry)] t)).result =
        .ok ⟨".env", ["N"], ["K"], 3, true⟩ ∧
      ∃ e s, Dotenv.load t ".env" = .ok e ∧ bundleOf b o = .ok s ∧
        (e.merge s).keys = e.keys ++ ["N"] := by
  intro text o refused b t
  have hparse : Dotenv.parse text = ⟨[("A", "1"), ("K", "old")], by decide⟩ := by cbv
  have hs : bundleOf b o.real = .ok ⟨[("N", "n"), ("K", "k")], by decide⟩ := by cbv
  have hrefused : (run refused o.dry t).result =
      .error (.secret ⟨"LAGO_ENV_VARS", .backend "denied"⟩) := by
    rw [run_of_unfetched (bundleOf_of_error rfl)]
    rfl
  have success : (run b o.real t).result = .ok ⟨".env", ["N"], ["K"], 3, true⟩ := by
    obtain ⟨h, -⟩ := run_alone (o := o.real) 0o644 rfl rfl rfl rfl hs text
    rw [hparse] at h
    exact h
  obtain ⟨fails, -⟩ := real_run_foretold refused o t
  obtain ⟨-, foretells, names, rehearsed⟩ := real_run_foretold b o t
  have hdry := (foretells _ success).2
  obtain ⟨e, s, hload, hbundle, hkeys, -⟩ := names _ hdry
  refine ⟨hrefused, fails _ hrefused, hdry, ?_, e, s, hload, hbundle, hkeys⟩
  rw [rehearsed [(refused, o.dry), (b, o.dry)] (by decide)]
  exact success

end Sync

end EnvSync
