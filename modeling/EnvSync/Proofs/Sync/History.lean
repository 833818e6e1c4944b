/-
# Run after run

Between runs nothing is kept but the text of the env file, and that text escapes
nothing.  A `History` is any finite sequence of runs on one file: real ones that
succeed, each with the bundle it brought, and among them dry ones and ones that got no
bundle.  What is loaded at its end is what the bundles make of the settings that were
there at the start, overlaid one after the other (`load_of_history`).

What carries this from run to run is that the file is `Steady`: its names are names and
its values plain, so that writing and reading it again changes nothing.  A real run
keeps that because the bundle's values are plain too (`Steady.real`); the other runs do
not touch the file.
-/
import EnvSync.Proofs.Dotenv.Reload
import EnvSync.Proofs.Sync.Run

namespace EnvSync.Sync

variable {path : String} {t t₀ : FileTree} {b : Backend} {o : Options} {s e : Settings} {r : Report}

/-! ## Histories -/

/-- Runs on the env file at `path`, from the tree `start` on: the bundles of the real ones,
in order, and the tree at the end. -/
inductive History (path : String) (start : FileTree) : List Settings → FileTree → Prop
  | nil : History path start [] start
  | real {bundles : List Settings} {t : FileTree} {b : Backend} {o : Options} {s : Settings}
      {r : Report} (before : History path start bundles t) (file : o.envFile = path)
      (real : o.dryRun = false) (fetched : bundleOf b o = .ok s)
      (success : (run b o t).result = .ok r) :
      History path start (bundles ++ [s]) (run b o t).tree
  | dry {bundles : List Settings} {t : FileTree} {b : Backend} {o : Options}
      (before : History path start bundles t) (dry : o.dryRun = true) :
      History path start bundles (run b o t).tree
  | unfetched {bundles : List Settings} {t : FileTree} {b : Backend} {o : Options}
      {f : Secret.Failure} (before : History path start bundles t)
      (failure : bundleOf b o = .error f) : History path start bundles (run b o t).tree

/-! ## What a run keeps -/

/-- An env file whose settings saving and loading do not change. -/
structure Steady (t : FileTree) (path : String) (m : Settings) : Prop where
  holds : Dotenv.Holds t path m
  named : Dotenv.Named m
  plain : ∀ e ∈ m.entries, Dotenv.Plain e.2.toList

/-- A real run overlays a steady file with its bundle and leaves it steady, as one that can be
loaded. -/
theorem Steady.real (h : Steady t o.envFile e) (real : o.dryRun = false)
    (fetched : bundleOf b o = .ok s) (success : (run b o t).result = .ok r)
    (named : Dotenv.Named s) (plain : ∀ x ∈ s.entries, Dotenv.Plain x.2.toList) :
    Steady (run b o t).tree o.envFile (e.merge s) ∧
      Dotenv.load (run b o t).tree o.envFile = .ok (e.merge s) := by
  have hnamed : Dotenv.Named (e.merge s) := h.named.merge named
  have hplain : ∀ x ∈ (e.merge s).entries, Dotenv.Plain x.2.toList := by
    intro x hx
    rcases OrderedMap.mem_entries_merge hx with hs | ⟨he, -⟩
    · exact plain x hs
    · exact h.plain x he
  obtain ⟨-, hfile⟩ := lookUp_of_run h.holds real fetched success
  have hparse := Dotenv.parse_render_of_plain hnamed hplain
  have hholds := Dotenv.holds_of_lookUp hfile
  have hload := Dotenv.load_of_lookUp hfile
  rw [hparse] at hholds hload
  exact ⟨⟨hholds, hnamed, hplain⟩, hload⟩

/-- The file stays steady through any history, and what it holds is the bundles overlaid on
what it held.  After a real run it can be loaded; before the first one nothing has changed. -/
theorem History.steady {bundles : List Settings} (history : History path t₀ bundles t)
    (start : Steady t₀ path e) (named : ∀ s ∈ bundles, Dotenv.Named s)
    (plain : ∀ s ∈ bundles, ∀ x ∈ s.entries, Dotenv.Plain x.2.toList) :
    Steady t path (bundles.foldl OrderedMap.merge e) ∧
      (bundles = [] ∧ t = t₀ ∨ Dotenv.load t path = .ok (bundles.foldl OrderedMap.merge e)) := by
  induction history with
  | nil => exact ⟨start, .inl ⟨rfl, rfl⟩⟩
  | @real bundles t b o s r before file real fetched success ih =>
      obtain ⟨hbefore, -⟩ := ih (fun s' hs' => named s' (List.mem_append_left [s] hs'))
        (fun s' hs' => plain s' (List.mem_append_left [s] hs'))
      have hs : s ∈ bundles ++ [s] := List.mem_append_right bundles List.mem_cons_self
      subst file
      rw [List.foldl_append, List.foldl_cons, List.foldl_nil]
      obtain ⟨hsteady, hload⟩ := hbefore.real real fetched success (named s hs) (plain s hs)
      exact ⟨hsteady, .inr hload⟩
  | dry before dry ih =>
      rw [tree_run_of_dryRun dry]
      exact ih named plain
  | unfetched before failure ih =>
      rw [run_of_unfetched failure]
      exact ih named plain

/-! ## What a history comes to -/

/-- Whatever runs there were, what is loaded in the end is the bundles of the real ones laid
over what the file held, in order.  So no update is lost: the names that were there at
any time stay, in their order, none comes twice, and each has the value of the last
bundle that has it.  A file that no run has written yet must let its owner read it. -/
theorem load_of_history {bundles : List Settings} (start : Dotenv.Holds t₀ path e)
    (readable : bundles = [] → ∀ content mode, t₀.lookUp path = .ok (.file content mode) →
      FileTree.ownerReads mode = true)
    (plain₀ : ∀ x ∈ e.entries, Dotenv.Plain x.2.toList)
    (history : History path t₀ bundles t)
    (named : ∀ s ∈ bundles, ∀ k ∈ s.keys, Dotenv.IsName k.toList)
    (plain : ∀ s ∈ bundles, ∀ x ∈ s.entries, Dotenv.Plain x.2.toList) :
    ∃ m, Dotenv.load t path = .ok m ∧ m = bundles.foldl OrderedMap.merge e ∧
      (∀ n, ((bundles.take n).foldl OrderedMap.merge e).keys <+: m.keys) ∧ m.keys.Nodup ∧
      ∀ k, m.get? k = (bundles.reverse.findSome? (·.get? k)).or (e.get? k) := by
  obtain ⟨-, hend⟩ := history.steady ⟨start, start.named, plain₀⟩ named plain
  have hload : Dotenv.load t path = .ok (bundles.foldl OrderedMap.merge e) := by
    rcases hend with ⟨rfl, rfl⟩ | h
    · exact start.load_eq (readable rfl)
    · exact h
  refine ⟨_, hload, rfl, ?_, OrderedMap.keys_nodup _, ?_⟩
  · intro n
    have hsplit : bundles.foldl OrderedMap.merge e =
        (bundles.drop n).foldl OrderedMap.merge ((bundles.take n).foldl OrderedMap.merge e) := by
      rw [← List.foldl_append, List.take_append_drop]
    rw [hsplit]
    exact OrderedMap.keys_prefix_foldl_merge _ _
  · exact OrderedMap.get?_foldl_merge bundles e

/-- A local value keeps its place and the last bundle wins, with a refused and a dry run in
between. -/
theorem load_of_history_of_four_runs :
    let text := "A='1' # local\nK=old\n"
    let o : Options := ⟨Secret.Id.default, ".env", "K", false⟩
    let refused := Backend.fixed "b" (.error (.backend "denied"))
    let array := Backend.fixed "b" (.ok (Text.Utf8.encode "[]"))
    let b₁ := Backend.fixed "b"
      (.ok (Text.Utf8.encode "\x7b\"K\":\"l\\\\nm\",\"Q\":\"\\\\\\\"\"\x7d"))
    let b₂ := Backend.fixed "b" (.ok (Text.Utf8.encode "\x7b\"N\":null,\"K\":\"\"\x7d"))
    let s₁ : Settings := ⟨[("K", "l\nm"), ("Q", "\\\"")], by decide⟩
    let s₂ : Settings := ⟨[("N", "null"), ("K", "")], by decide⟩
    let t₀ := Dotenv.alone (Text.Utf8.encode text) 0o644
    let t₁ := (run b₁ o t₀).tree
    let t₂ := (run refused o t₁).tree
    let t₃ := (run array { o with dryRun := true } t₂).tree
    let t₄ := (run b₂ o t₃).tree
    History ".env" t₀ [s₁, s₂] t₄ ∧ ∃ m, Dotenv.load t₄ ".env" = .ok m ∧
      m.entries = [("A", "1"), ("K", ""), ("Q", "\\\""), ("N", "null")] := by
  intro text o refused array b₁ b₂ s₁ s₂ t₀ t₁ t₂ t₃ t₄
  have hparse : Dotenv.parse text = ⟨[("A", "1"), ("K", "old")], by decide⟩ := by cbv
  have h₁ : bundleOf b₁ o = .ok s₁ := by cbv
  have h₂ : bundleOf b₂ o = .ok s₂ := by cbv
  have hrefused : bundleOf refused o = .error ⟨"LAGO_ENV_VARS", .backend "denied"⟩ :=
    bundleOf_of_error rfl
  -- The first run, and the last one on the file that the first one left.
  obtain ⟨first, htree⟩ := run_alone 0o644 rfl rfl rfl rfl h₁ text
  obtain ⟨last, -⟩ := run_alone FileTree.ownerOnly rfl rfl rfl rfl h₂
    (Dotenv.render ((Dotenv.parse text).merge s₁))
  have unchanged : t₃ = (run b₁ o t₀).tree := by
    dsimp only [t₃, t₂, t₁]
    rw [tree_run_of_dryRun rfl, run_of_unfetched hrefused]
  rw [← htree, ← unchanged] at last
  have history : History ".env" t₀ [s₁, s₂] t₄ :=
    .real (.dry (.unfetched (.real .nil rfl rfl h₁ first) hrefused) rfl) rfl rfl h₂ last
  have names : ∀ s ∈ [s₁, s₂], ∀ k ∈ s.keys, Dotenv.IsName k.toList := by
    simp only [s₁, s₂, List.forall_mem_cons, OrderedMap.keys, List.map_cons, List.map_nil,
      String.reduceToList]
    decide
  have values : ∀ s ∈ [s₁, s₂], ∀ x ∈ s.entries, Dotenv.Plain x.2.toList := by
    simp only [s₁, s₂, List.forall_mem_cons, String.reduceToList]
    decide
  have values₀ : ∀ x ∈ (Dotenv.parse text).entries, Dotenv.Plain x.2.toList := by
    rw [hparse]
    simp only [List.forall_mem_cons, String.reduceToList]
    decide
  obtain ⟨m, hload, hm, -⟩ := load_of_history (Dotenv.holds_alone text 0o644)
    (fun h => absurd h (List.cons_ne_nil s₁ [s₂])) values₀ history names values
  refine ⟨history, m, hload, ?_⟩
  rw [hm, hparse]
  rfl

end EnvSync.Sync
