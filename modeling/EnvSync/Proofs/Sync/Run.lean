/-
# One run

What a run comes to, case by case: no bundle, a file that cannot be loaded, a dry run,
and a real one.  In the first three the tree is the one that the run started from, and
`run_leaves_tree` says so together with what the run fails with.

A run that has no bundle knows nothing of the tree: its result and all that it did are
the same whatever the tree is.  That is how a failing fetch comes before anything local
is looked at, and why no broken env file can hide it.

Of a backend a run knows the name and one answer, the one for the secret that its
options name.
-/
import EnvSync.Proofs.Dotenv.Store
import EnvSync.Sync
import Mathlib

namespace EnvSync.Sync

variable {b : Backend} {o : Options} {t : FileTree} {s e : Settings} {r : Report}

/-! ## The bundle -/

theorem bundleOf_of_error {cause : Secret.Cause} (h : (b.reply o.secret).payload = .error cause) :
    bundleOf b o = .error ⟨o.secret.secret, cause⟩ := by
  rw [bundleOf, Backend.fetch, h]
  rfl

theorem bundleOf_of_ok {payload : List UInt8} (h : (b.reply o.secret).payload = .ok payload) :
    bundleOf b o = Secret.bundle o.secret.secret o.keyField payload := by
  rw [bundleOf, Backend.fetch, h]
  rfl

theorem bundleOf_of_undecoded {payload : List UInt8} {cause : Secret.Cause}
    (fetched : (b.reply o.secret).payload = .ok payload)
    (wrong : Secret.decode o.keyField payload = .error cause) :
    bundleOf b o = .error ⟨o.secret.secret, cause⟩ := by
  rw [bundleOf_of_ok fetched, Secret.bundle, wrong]
  rfl

theorem exists_payload_of_bundleOf (h : bundleOf b o = .ok s) :
    ∃ payload, (b.reply o.secret).payload = .ok payload := by
  cases hp : (b.reply o.secret).payload with
  | error cause => exact nomatch (bundleOf_of_error hp).symm.trans h
  | ok payload => exact ⟨payload, rfl⟩

/-! ## The cases of a run -/

theorem run_of_unfetched {f : Secret.Failure} (h : bundleOf b o = .error f) (t : FileTree) :
    run b o t = ⟨.error (.secret f), t, askActions b o.secret⟩ := by
  rw [run, fetch, h]
  rfl

theorem run_of_bundle (h : bundleOf b o = .ok s) (t : FileTree) :
    run b o t = { overlay o s t with
      actions := askActions b o.secret ++ (overlay o s t).actions } := by
  rw [run, fetch, h]
  rfl

theorem overlay_of_unloaded {f : Dotenv.Failure} (h : Dotenv.load t o.envFile = .error f) :
    overlay o s t = ⟨.error (.file f), t, (Dotenv.loadEvents t o.envFile).map .logged⟩ := by
  rw [overlay, h]

theorem overlay_of_loaded (h : Dotenv.load t o.envFile = .ok e) :
    overlay o s t = { apply o ⟨e, s⟩ t with
      actions := (Dotenv.loadEvents t o.envFile).map .logged ++ (apply o ⟨e, s⟩ t).actions } := by
  rw [overlay, h]

theorem tree_apply_of_dryRun (h : o.dryRun = true) (c : Change) : (apply o c t).tree = t := by
  rw [apply, if_pos h]

theorem tree_run_of_dryRun (h : o.dryRun = true) : (run b o t).tree = t := by
  cases hs : bundleOf b o with
  | error f => rw [run_of_unfetched hs]
  | ok s =>
      rw [run_of_bundle hs]
      cases hl : Dotenv.load t o.envFile with
      | error f => rw [overlay_of_unloaded hl]
      | ok e =>
          rw [overlay_of_loaded hl]
          exact tree_apply_of_dryRun h _

theorem run_of_unloaded {f : Dotenv.Failure} (hs : bundleOf b o = .ok s)
    (hl : Dotenv.load t o.envFile = .error f) :
    (run b o t).result = .error (.file f) ∧ (run b o t).tree = t := by
  rw [run_of_bundle hs, overlay_of_unloaded hl]
  exact ⟨rfl, rfl⟩

/-- A real run that succeeds has loaded the file, and saved what the bundle makes of it. -/
theorem exists_of_run (real : o.dryRun = false) (hs : bundleOf b o = .ok s)
    (h : (run b o t).result = .ok r) :
    ∃ e, Dotenv.load t o.envFile = .ok e ∧ r = Change.report ⟨e, s⟩ o ∧
      Dotenv.save t o.envFile (Dotenv.render (e.merge s)) = ((run b o t).tree, none) := by
  have hdry : ¬ o.dryRun = true := by simp [real]
  rw [run_of_bundle hs] at h ⊢
  cases hl : Dotenv.load t o.envFile with
  | error f =>
      rw [overlay_of_unloaded hl] at h
      cases h
  | ok e =>
      refine ⟨e, rfl, ?_⟩
      rw [overlay_of_loaded hl, apply, if_neg hdry] at h ⊢
      dsimp only [Change.merged] at h ⊢
      cases hsave : Dotenv.save t o.envFile (Dotenv.render (e.merge s)) with
      | mk t' failed =>
          rw [hsave] at h
          cases failed with
          | some f => cases h
          | none =>
              cases h
              exact ⟨rfl, rfl⟩

theorem run_of_saved {t' : FileTree} (real : o.dryRun = false) (hs : bundleOf b o = .ok s)
    (hload : Dotenv.load t o.envFile = .ok e)
    (hsave : Dotenv.save t o.envFile (Dotenv.render (e.merge s)) = (t', none)) :
    (run b o t).result = .ok (Change.report ⟨e, s⟩ o) ∧ (run b o t).tree = t' := by
  have hdry : ¬ o.dryRun = true := by simp [real]
  rw [run_of_bundle hs, overlay_of_loaded hload, apply, if_neg hdry]
  simp [Change.merged, hsave]

theorem run_of_unsaved {t' : FileTree} {g : Dotenv.Failure}
    (real : o.dryRun = false) (hs : bundleOf b o = .ok s) (hload : Dotenv.load t o.envFile = .ok e)
    (hsave : Dotenv.save t o.envFile (Dotenv.render (e.merge s)) = (t', some g)) :
    (run b o t).result = .error (.file g) ∧ (run b o t).tree = t' := by
  have hdry : ¬ o.dryRun = true := by simp [real]
  rw [run_of_bundle hs, overlay_of_loaded hload, apply, if_neg hdry]
  simp [Change.merged, hsave]

/-- After a real run that succeeds the env file is the text of what the bundle makes of it. -/
theorem lookUp_of_run (held : Dotenv.Holds t o.envFile e) (real : o.dryRun = false)
    (hs : bundleOf b o = .ok s) (h : (run b o t).result = .ok r) :
    r = Change.report ⟨e, s⟩ o ∧ (run b o t).tree.lookUp o.envFile =
      .ok (.file (Text.Utf8.encode (Dotenv.render (e.merge s))) FileTree.ownerOnly) := by
  obtain ⟨e', hload, hreport, hsave⟩ := exists_of_run real hs h
  obtain rfl := held.eq_of_load hload
  exact ⟨hreport, Dotenv.lookUp_of_save held.not_device hsave⟩

theorem result_of_dryRun (dry : o.dryRun = true) (hs : bundleOf b o = .ok s)
    (hload : Dotenv.load t o.envFile = .ok e) :
    (run b o t).result = .ok (Change.report ⟨e, s⟩ o) := by
  rw [run_of_bundle hs, overlay_of_loaded hload, apply, if_pos dry]

/-- A run that succeeds, real or dry, has got a bundle and loaded the file, and reports what the
one makes of the other. -/
theorem exists_loaded_of_run (h : (run b o t).result = .ok r) :
    ∃ e s, Dotenv.load t o.envFile = .ok e ∧ bundleOf b o = .ok s ∧
      r = Change.report ⟨e, s⟩ o := by
  cases hs : bundleOf b o with
  | error f =>
      rw [run_of_unfetched hs] at h
      cases h
  | ok s =>
      cases hl : Dotenv.load t o.envFile with
      | error f => exact nomatch (run_of_unloaded hs hl).1.symm.trans h
      | ok e =>
          refine ⟨e, s, rfl, rfl, ?_⟩
          cases hd : o.dryRun with
          | true => exact (Except.ok.inj ((result_of_dryRun hd hs hl).symm.trans h)).symm
          | false =>
              obtain ⟨e', hl', hreport, -⟩ := exists_of_run hd hs h
              obtain rfl := Except.ok.inj (hl'.symm.trans hl)
              exact hreport

/-- Only a real run with a bundle changes anything. -/
theorem exists_bundle_of_tree_ne (h : (run b o t).tree ≠ t) :
    o.dryRun = false ∧ ∃ s, bundleOf b o = .ok s := by
  constructor
  · cases hd : o.dryRun with
    | false => rfl
    | true => exact absurd (tree_run_of_dryRun hd) h
  · cases hs : bundleOf b o with
    | error f =>
        rw [run_of_unfetched hs] at h
        exact absurd rfl h
    | ok s => exact ⟨s, rfl⟩

theorem run_alone (mode : Nat) (reads : FileTree.ownerReads mode = true)
    (writes : FileTree.ownerWrites mode = true) (file : o.envFile = ".env")
    (real : o.dryRun = false) (hs : bundleOf b o = .ok s) (text : String) :
    let t := Dotenv.alone (Text.Utf8.encode text) mode
    (run b o t).result = .ok (Change.report ⟨Dotenv.parse text, s⟩ o) ∧
      (run b o t).tree = Dotenv.alone
        (Text.Utf8.encode (Dotenv.render ((Dotenv.parse text).merge s))) FileTree.ownerOnly := by
  refine run_of_saved real hs ?_ ?_
  · rw [file]
    exact Dotenv.load_alone reads text
  · rw [file]
    exact Dotenv.save_alone writes _

theorem run_vacant (file : o.envFile = ".env") (real : o.dryRun = false)
    (hs : bundleOf b o = .ok s) :
    (run b o Dotenv.vacant).result = .ok (Change.report ⟨.empty, s⟩ o) ∧
      (run b o Dotenv.vacant).tree =
        Dotenv.alone (Text.Utf8.encode (Dotenv.render s)) FileTree.ownerOnly := by
  have hmerge : OrderedMap.empty.merge s = s := OrderedMap.empty_merge s
  refine run_of_saved real hs ?_ ?_
  · rw [file]
    exact Dotenv.load_of_absent Dotenv.lookUp_vacant
  · rw [file, hmerge]
    exact Dotenv.save_vacant _

/-! ## What a backend is asked, and what is started -/

theorem asked_append (as as' : List Action) : asked (as ++ as') = asked as ++ asked as' :=
  List.filterMap_append

@[simp] theorem asked_logged (es : List Log.Event) : asked (es.map .logged) = [] := by
  rw [asked, List.filterMap_map]
  exact List.filterMap_eq_nil_iff.2 fun _ _ => rfl

@[simp] theorem asked_started (ls : List Backend.Launch) : asked (ls.map .started) = [] := by
  rw [asked, List.filterMap_map]
  exact List.filterMap_eq_nil_iff.2 fun _ _ => rfl

theorem asked_askActions (b : Backend) (id : Secret.Id) : asked (askActions b id) = [id] := by
  have h : asked ((b.reply id).events.map .logged ++ (b.reply id).launches.map .started) = [] := by
    rw [asked_append, asked_logged, asked_started, List.append_nil]
  exact congrArg (id :: ·) h

theorem started_append (as as' : List Action) : started (as ++ as') = started as ++ started as' :=
  List.filterMap_append

@[simp] theorem started_logged (es : List Log.Event) : started (es.map .logged) = [] := by
  rw [started, List.filterMap_map]
  exact List.filterMap_eq_nil_iff.2 fun _ _ => rfl

@[simp] theorem started_started (ls : List Backend.Launch) : started (ls.map .started) = ls := by
  rw [started, List.filterMap_map]
  exact List.filterMap_some

theorem started_askActions (b : Backend) (id : Secret.Id) :
    started (askActions b id) = (b.reply id).launches := by
  have h : started ((b.reply id).events.map .logged ++ (b.reply id).launches.map .started) =
      (b.reply id).launches := by
    rw [started_append, started_logged, started_started, List.nil_append]
  exact h

theorem exists_events_of_apply (o : Options) (c : Change) (t : FileTree) :
    ∃ es : List Log.Event, (apply o c t).actions = es.map .logged := by
  rw [apply]
  split
  · exact ⟨[(c.report o).event], rfl⟩
  · dsimp only
    split
    · exact ⟨_, rfl⟩
    · refine ⟨Dotenv.saveEvents t o.envFile (Dotenv.render c.merged) ++ [(c.report o).event], ?_⟩
      rw [List.map_append]
      rfl

theorem exists_events_of_overlay (o : Options) (s : Settings) (t : FileTree) :
    ∃ es : List Log.Event, (overlay o s t).actions = es.map .logged := by
  cases hl : Dotenv.load t o.envFile with
  | error f =>
      rw [overlay_of_unloaded hl]
      exact ⟨_, rfl⟩
  | ok e =>
      obtain ⟨es, hes⟩ := exists_events_of_apply o ⟨e, s⟩ t
      rw [overlay_of_loaded hl]
      exact ⟨Dotenv.loadEvents t o.envFile ++ es, by rw [hes, List.map_append]⟩

/-- Once the backend has been asked, a run does nothing but log and change files. -/
theorem exists_events_of_run (b : Backend) (o : Options) (t : FileTree) :
    ∃ es : List Log.Event, (run b o t).actions = askActions b o.secret ++ es.map .logged := by
  cases hs : bundleOf b o with
  | error f =>
      rw [run_of_unfetched hs]
      exact ⟨[], (List.append_nil _).symm⟩
  | ok s =>
      obtain ⟨es, hes⟩ := exists_events_of_overlay o s t
      rw [run_of_bundle hs]
      exact ⟨es, by rw [hes]⟩

theorem asked_run (b : Backend) (o : Options) (t : FileTree) :
    asked (run b o t).actions = [o.secret] := by
  obtain ⟨es, hes⟩ := exists_events_of_run b o t
  rw [hes, asked_append, asked_askActions, asked_logged, List.append_nil]

theorem started_run (b : Backend) (o : Options) (t : FileTree) :
    started (run b o t).actions = (b.reply o.secret).launches := by
  obtain ⟨es, hes⟩ := exists_events_of_run b o t
  rw [hes, started_append, started_askActions, started_logged, List.append_nil]

/-- A run knows of a backend its name and its answer for one secret. -/
theorem run_congr {b' : Backend} (name : b'.name = b.name)
    (reply : b'.reply o.secret = b.reply o.secret) (t : FileTree) : run b' o t = run b o t := by
  have hask : askActions b' o.secret = askActions b o.secret := by
    rw [askActions, askActions, name, reply]
  have hbundle : bundleOf b' o = bundleOf b o := by
    rw [bundleOf, bundleOf, Backend.fetch, Backend.fetch, reply]
  cases hs : bundleOf b o with
  | error f => rw [run_of_unfetched hs, run_of_unfetched (hbundle.trans hs), hask]
  | ok s => rw [run_of_bundle hs, run_of_bundle (hbundle.trans hs), hask]

/-! ## Runs that must not write -/

/-- A run that failed and left everything as it was. -/
structure FailedWith (f : Failure) (t : FileTree) (outcome : Outcome Report) : Prop where
  result : outcome.result = .error f
  tree : outcome.tree = t

/-- A run that gets no payload, no bundle from it, or no settings from the env file fails
with just that and leaves the tree as it was, and so does a dry run whatever it comes to.
The backend is asked once, for the secret of the options and for nothing else.  Without
a bundle the tree has no part in the outcome. -/
theorem run_leaves_tree (b : Backend) (o : Options) (t : FileTree) :
    (∀ cause, (b.reply o.secret).payload = .error cause →
      FailedWith (.secret ⟨o.secret.secret, cause⟩) t (run b o t)) ∧
    (∀ payload f, (b.reply o.secret).payload = .ok payload →
      Secret.bundle o.secret.secret o.keyField payload = .error f →
      FailedWith (.secret f) t (run b o t)) ∧
    (∀ payload s, (b.reply o.secret).payload = .ok payload →
      Secret.bundle o.secret.secret o.keyField payload = .ok s →
      (∀ f, Dotenv.load t o.envFile = .error f → FailedWith (.file f) t (run b o t)) ∧
      (∀ fault, t.lookUp o.envFile = .error fault → fault ≠ .notFound →
        FailedWith (.file ⟨.check, o.envFile⟩) t (run b o t)) ∧
      (∀ closed, t.lookUp o.envFile = .ok (.directory closed) →
        FailedWith (.file ⟨.read, o.envFile⟩) t (run b o t)) ∧
      (∀ content mode fault, t.lookUp o.envFile = .ok (.file content mode) →
        Text.Utf8.decode content = .error fault →
        FailedWith (.file ⟨.read, o.envFile⟩) t (run b o t))) ∧
    (o.dryRun = true → (run b o t).tree = t) ∧
    asked (run b o t).actions = [o.secret] ∧
    (∀ b' : Backend, b'.name = b.name → b'.reply o.secret = b.reply o.secret →
      run b' o t = run b o t) ∧
    (∀ f, bundleOf b o = .error f → ∀ t',
      (run b o t').result = (run b o t).result ∧ (run b o t').actions = (run b o t).actions) := by
  have hfetch : ∀ f, bundleOf b o = .error f → FailedWith (.secret f) t (run b o t) := by
    intro f hf
    rw [run_of_unfetched hf]
    exact ⟨rfl, rfl⟩
  refine ⟨?_, ?_, ?_, tree_run_of_dryRun, asked_run b o t, ?_, ?_⟩
  · intro cause h
    exact hfetch _ (bundleOf_of_error h)
  · intro payload f h hf
    exact hfetch f ((bundleOf_of_ok h).trans hf)
  · intro payload s h hs
    have hload : ∀ f, Dotenv.load t o.envFile = .error f → FailedWith (.file f) t (run b o t) := by
      intro f hf
      obtain ⟨hresult, htree⟩ := run_of_unloaded ((bundleOf_of_ok h).trans hs) hf
      exact ⟨hresult, htree⟩
    refine ⟨hload, ?_, ?_, ?_⟩
    · intro fault hl hfault
      exact hload _ (Dotenv.load_of_unreachable hl hfault)
    · intro closed hl
      exact hload _ (Dotenv.load_of_directory hl)
    · intro content mode fault hl hd
      exact hload _ (Dotenv.load_of_notUtf8 hl hd)
  · intro b' name reply
    exact run_congr name reply t
  · intro f hf t'
    rw [run_of_unfetched hf, run_of_unfetched hf]
    exact ⟨rfl, rfl⟩

/-- A backend that refuses comes before an env file that is no UTF-8, and so does a payload that
is no object; with a bundle it is the file that the run fails for. -/
theorem run_leaves_tree_of_broken_file :
    let t := Dotenv.alone [0xFF] 0o644
    let o : Options := ⟨Secret.Id.default, ".env", "k", false⟩
    let refused := Backend.fixed "b" (.error (.backend "denied"))
    let array := Backend.fixed "b" (.ok (Text.Utf8.encode "[]"))
    let object := Backend.fixed "b" (.ok (Text.Utf8.encode "\x7b\"k\":\"v\"\x7d"))
    FailedWith (.secret ⟨"LAGO_ENV_VARS", .backend "denied"⟩) t (run refused o t) ∧
      FailedWith (.secret ⟨"LAGO_ENV_VARS", .notObject⟩) t (run array o t) ∧
      FailedWith (.file ⟨.read, ".env"⟩) t (run object o t) ∧
      (run object { o with dryRun := true } t).tree = t ∧
      (run refused o t).result = (run refused o ⟨.empty, []⟩).result ∧
      asked (run object o t).actions = [Secret.Id.default] := by
  intro t o refused array object
  have hrefused : (refused.reply o.secret).payload = .error (.backend "denied") := rfl
  have harray : Secret.bundle o.secret.secret o.keyField (Text.Utf8.encode "[]") =
      .error ⟨"LAGO_ENV_VARS", .notObject⟩ := by cbv
  have hobject : Secret.bundle o.secret.secret o.keyField (Text.Utf8.encode "\x7b\"k\":\"v\"\x7d") =
      .ok ⟨[("k", "v")], by decide⟩ := by cbv
  have hfile : t.lookUp o.envFile = .ok (.file [0xFF] 0o644) := Dotenv.lookUp_alone _ _
  have hutf8 : Text.Utf8.decode [0xFF] = .error ⟨0, some 1⟩ := rfl
  obtain ⟨refuses, -, -, -, -, -, alike⟩ := run_leaves_tree refused o t
  obtain ⟨-, rejects, -⟩ := run_leaves_tree array o t
  obtain ⟨-, -, loads, -, once, -⟩ := run_leaves_tree object o t
  obtain ⟨-, -, -, dry, -⟩ := run_leaves_tree object { o with dryRun := true } t
  refine ⟨refuses _ hrefused, rejects _ _ rfl harray, ?_, dry rfl, ?_, once⟩
  · exact (loads _ _ rfl hobject).2.2.2 _ _ _ hfile hutf8
  · exact (alike _ (bundleOf_of_error hrefused) _).1.symm

end EnvSync.Sync
