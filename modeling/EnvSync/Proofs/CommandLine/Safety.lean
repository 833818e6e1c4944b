/-
# What a run of the program can do

Whatever its arguments, its log filter and the programs around it are, a run ends with status 0,
1 or 2, starts `gcloud` at most once and with arguments that it keeps apart, and changes the
tree only after `gcloud` has succeeded and printed a bundle (`run_safe`).

There is one exception, and it does nothing at all.  The log filter is read before anything else,
and where its text would have to be cut inside a character the run breaks down with status 101
instead of logging as if there were no filter (`run_breaks_down`).  For that a piece of the text
has to begin with a blank and to hold a character that is not ASCII.

A run goes one of four ways (`Course`), and what is held of it is held of each.  Of the one way
on which something is done nothing has to be known but the backend's answer and what one sync
leaves behind.
-/
import EnvSync.Proofs.CommandLine.Arguments
import EnvSync.Proofs.CommandLine.Secrecy
import EnvSync.Proofs.Log.Cuts
import EnvSync.Proofs.Secret.Bundle

namespace EnvSync.CommandLine

open Backend (accessArguments gcloud)

variable {s : Surroundings} {arguments : List String} {d : Display} {filter : Log.Filter}
  {i : Invocation}

/-! ## The ways of a run -/

/-- The ways that a run of the program can go, with what is seen of it. -/
inductive Course (s : Surroundings) (arguments : List String) : Display → Prop where
  | breakdown (cut : Log.Filter.inForce s.logFilter = none) :
      Course s arguments (s.untouched .breakdown "")
  | help {filter : Log.Filter} (inForce : Log.Filter.inForce s.logFilter = some filter)
      (reading : Reading.ofArguments Given.none arguments = .help) :
      Course s arguments (s.untouched .success helpText)
  | rejected {filter : Log.Filter} (inForce : Log.Filter.inForce s.logFilter = some filter)
      (reading : Reading.ofArguments Given.none arguments = .rejected) :
      Course s arguments (s.untouched .misuse "")
  | sync {filter : Log.Filter} {given : Given}
      (inForce : Log.Filter.inForce s.logFilter = some filter)
      (reading : Reading.ofArguments Given.none arguments = .accepted given) :
      Course s arguments (s.sync filter given.invocation)

theorem course_of_run (s : Surroundings) (arguments : List String) :
    Course s arguments (s.run arguments) := by
  rw [Surroundings.run]
  split
  · next cut => exact .breakdown cut
  · next filter inForce =>
    split
    · next reading => exact .help inForce reading
    · next reading => exact .rejected inForce reading
    · next given reading => exact .sync inForce reading

theorem exists_sync_of_accepted {given : Given}
    (inForce : Log.Filter.inForce s.logFilter ≠ none)
    (reading : Reading.ofArguments Given.none arguments = .accepted given) :
    ∃ filter, s.run arguments = s.sync filter given.invocation := by
  obtain ⟨filter, hfilter⟩ := Option.ne_none_iff_exists'.1 inForce
  refine ⟨filter, ?_⟩
  simp only [Surroundings.run, hfilter, reading]

/-! ## A run with accepted options -/

theorem ending_sync_of_ok {r : Sync.Report}
    (h : (Sync.run (s.backend i) i.options s.tree).result = .ok r) :
    (s.sync filter i).ending = .success ∧ (s.sync filter i).stdout = announcement r := by
  simp only [Surroundings.sync, h, and_self]

/-- A sync either succeeds and announces its report or fails and prints nothing. -/
theorem ending_sync (s : Surroundings) (filter : Log.Filter) (i : Invocation) :
    (∃ r, r.written = !i.options.dryRun ∧ (s.sync filter i).ending = .success ∧
      (s.sync filter i).stdout = announcement r) ∨
    ((s.sync filter i).ending = .failure ∧ (s.sync filter i).stdout = "") := by
  cases h : (Sync.run (s.backend i) i.options s.tree).result with
  | ok r =>
      obtain ⟨e, b, -, -, rfl⟩ := Sync.exists_loaded_of_run h
      exact .inl ⟨_, rfl, ending_sync_of_ok h⟩
  | error f => exact .inr (by simp only [Surroundings.sync, h, and_self])

theorem tree_sync (s : Surroundings) (filter : Log.Filter) (i : Invocation) :
    (s.sync filter i).tree = (Sync.run (s.backend i) i.options s.tree).tree := by
  unfold Surroundings.sync
  dsimp only
  split <;> rfl

theorem launches_sync (s : Surroundings) (filter : Log.Filter) (i : Invocation) :
    (s.sync filter i).launches = ((s.backend i).reply i.options.secret).launches := by
  unfold Surroundings.sync
  dsimp only
  split <;> exact Sync.started_run _ _ _

/-- The program is started once or not at all, and nothing else is. -/
theorem launches_backend (s : Surroundings) (i : Invocation) (id : Secret.Id) :
    ((s.backend i).reply id).launches = [] ∨
      i.provider = .gcp ∧ ((s.backend i).reply id).launches = [⟨gcloud, accessArguments id⟩] := by
  rw [Surroundings.backend]
  cases hp : i.provider with
  | aws => exact .inl rfl
  | gcp =>
      dsimp only [Backend.gcp]
      cases s.programs.run gcloud (accessArguments id) with
      | error e => exact .inl rfl
      | ok c => exact .inr ⟨rfl, rfl⟩

/-- What a backend that hands over a payload has been given: a program that succeeded. -/
theorem exists_gcloud_of_payload
    (refuses : ∀ region request, ∃ detail, s.service region request = .refused detail)
    {id : Secret.Id} {payload : List UInt8} (h : ((s.backend i).reply id).payload = .ok payload) :
    i.provider = .gcp ∧ ∃ program, s.programs gcloud = some program ∧
      (program (accessArguments id)).ending = .exit 0 ∧
      (program (accessArguments id)).stdout = payload := by
  rw [Surroundings.backend] at h
  cases hp : i.provider with
  | aws =>
      rw [hp] at h
      obtain ⟨detail, hdetail⟩ := refuses i.region (Backend.request id)
      change Backend.payloadOfAnswer (s.service i.region (Backend.request id)) = _ at h
      rw [hdetail] at h
      cases h
  | gcp =>
      rw [hp] at h
      obtain ⟨c, hrun, hending, hstdout⟩ := exists_completion_of_gcp h
      rw [Backend.Programs.run] at hrun
      split at hrun
      · cases hrun
      · split at hrun
        · cases hrun
        · next program hprogram =>
          cases hrun
          exact ⟨rfl, program, hprogram, hending, hstdout⟩

/-- Only a real run changes the tree, and only with a bundle from a program that succeeded. -/
theorem of_tree_sync_ne
    (refuses : ∀ region request, ∃ detail, s.service region request = .refused detail)
    (h : (s.sync filter i).tree ≠ s.tree) :
    i.options.dryRun = false ∧ i.provider = .gcp ∧
      ∃ program bundle, s.programs gcloud = some program ∧
        (program (accessArguments i.options.secret)).ending = .exit 0 ∧
        Secret.decode i.options.keyField (program (accessArguments i.options.secret)).stdout =
          .ok bundle ∧ i.options.keyField ∈ bundle := by
  rw [tree_sync] at h
  obtain ⟨hdry, m, hm⟩ := Sync.exists_bundle_of_tree_ne h
  obtain ⟨payload, hpayload⟩ := Sync.exists_payload_of_bundleOf hm
  obtain ⟨hgcp, program, hprogram, hending, rfl⟩ := exists_gcloud_of_payload refuses hpayload
  have hdecode := Secret.bundle_eq_ok_iff.1 ((Sync.bundleOf_of_ok hpayload).symm.trans hm)
  exact ⟨hdry, hgcp, program, m, hprogram, hending, hdecode, Secret.mem_of_decode hdecode⟩

/-! ## Every run -/

theorem announcement_ne_iff {r : Sync.Report} : announcement r ≠ "" ↔ r.written = true := by
  rw [announcement]
  split
  · next h =>
    refine ⟨fun _ => h, fun _ he => ?_⟩
    have hlist := congrArg String.toList he
    simp at hlist
  · next h => exact ⟨fun hne => absurd rfl hne, fun hw => absurd hw h⟩

theorem inForce_ne_none_iff {text : Option String} : Log.Filter.inForce text ≠ none ↔
    ∀ t, text = some t → Log.Filter.ofText t ≠ .error .insideCharacter := by
  rw [Ne, Log.Filter.inForce_eq_none_iff]
  exact ⟨fun hn t ht hcut => hn ⟨t, ht, hcut⟩, fun hall ⟨t, ht, hcut⟩ => hall t ht hcut⟩

/-- Where no piece of a filter has both a blank in front and a character that is not ASCII, it
is cut between characters only. -/
theorem ofText_ne_insideCharacter {text : String}
    (h : ∀ piece ∈ Text.split ',' text.toList,
      (∀ c, piece.head? = some c → Text.isBlank c = false) ∨ ∀ c ∈ piece, c.toNat < 0x80) :
    Log.Filter.ofText text ≠ .error .insideCharacter := by
  refine Log.Filter.clean_ofText fun piece hpiece => ?_
  rcases h piece hpiece with hhead | hascii
  · exact Log.Directive.evenCuts_of_head hhead
  · exact Log.Directive.evenCuts_of_ascii hascii

/-- A run that does not break down has status 0 or 1, or 2 just if its arguments were rejected. -/
theorem Course.cases_status (h : Course s arguments d) :
    (Log.Filter.inForce s.logFilter = none ∧ d = s.untouched .breakdown "") ∨
    (Log.Filter.inForce s.logFilter ≠ none ∧ d.ending.status ∈ [0, 1, 2] ∧
      (d.ending.status = 2 ↔ Reading.ofArguments Given.none arguments = .rejected)) := by
  cases h with
  | breakdown cut => exact .inl ⟨cut, rfl⟩
  | help inForce reading =>
      refine .inr ⟨by simp [inForce], by simp [Surroundings.untouched, Ending.status], ?_⟩
      simp [Surroundings.untouched, Ending.status, reading]
  | rejected inForce reading =>
      refine .inr ⟨by simp [inForce], by simp [Surroundings.untouched, Ending.status], ?_⟩
      simp [Surroundings.untouched, Ending.status, reading]
  | @sync filter given inForce reading =>
      have hending : (s.sync filter given.invocation).ending = .success ∨
          (s.sync filter given.invocation).ending = .failure := by
        rcases ending_sync s filter given.invocation with ⟨_, -, h, -⟩ | ⟨h, -⟩
        · exact .inl h
        · exact .inr h
      refine .inr ⟨by simp [inForce], ?_, ?_⟩
      · rcases hending with h | h <;> simp [h, Ending.status]
      · rcases hending with h | h <;> simp [h, Ending.status, reading]

theorem status_breakdown (s : Surroundings) :
    (s.untouched .breakdown "").ending.status ∉ [0, 1, 2] := by
  simp [Surroundings.untouched, Ending.status]

theorem Course.status_iff (h : Course s arguments d) :
    d.ending.status ∈ [0, 1, 2] ↔ ∀ text, s.logFilter = some text →
      Log.Filter.ofText text ≠ .error .insideCharacter := by
  rw [← inForce_ne_none_iff]
  rcases h.cases_status with ⟨hnone, rfl⟩ | ⟨hsome, hmem, -⟩
  · exact ⟨fun hmem => absurd hmem (status_breakdown s), fun hne => absurd hnone hne⟩
  · exact ⟨fun _ => hsome, fun _ => hmem⟩

theorem Course.brokenDown (h : Course s arguments d) (hstatus : d.ending.status ∉ [0, 1, 2]) :
    d.stdout = "" ∧ d.launches = [] ∧ d.tree = s.tree := by
  rcases h.cases_status with ⟨-, rfl⟩ | ⟨-, hmem, -⟩
  · exact ⟨rfl, rfl, rfl⟩
  · exact absurd hmem hstatus

theorem Course.misuse (h : Course s arguments d) (hstatus : d.ending.status ∈ [0, 1, 2]) :
    d.ending.status = 2 ↔ Reading.ofArguments Given.none arguments = .rejected := by
  rcases h.cases_status with ⟨-, rfl⟩ | ⟨-, -, htwo⟩
  · exact absurd hstatus (status_breakdown s)
  · exact htwo

theorem Course.idle (h : Course s arguments d)
    (hreading : Reading.ofArguments Given.none arguments = .rejected ∨
      Reading.ofArguments Given.none arguments = .help) :
    d.launches = [] ∧ d.tree = s.tree := by
  cases h with
  | breakdown | help | rejected => exact ⟨rfl, rfl⟩
  | sync _ reading =>
      rw [reading] at hreading
      rcases hreading with hreading | hreading
      · cases hreading
      · cases hreading

theorem Course.cases_launches (h : Course s arguments d) : d.launches = [] ∨
    ∃ given, Reading.ofArguments Given.none arguments = .accepted given ∧
      given.invocation.provider = .gcp ∧
      d.launches = [⟨gcloud, accessArguments given.invocation.options.secret⟩] := by
  cases h with
  | breakdown | help | rejected => exact .inl rfl
  | @sync filter given _ reading =>
      rw [launches_sync]
      rcases launches_backend s given.invocation given.invocation.options.secret with h | ⟨hgcp, h⟩
      · exact .inl h
      · exact .inr ⟨given, reading, hgcp, h⟩

theorem Course.once (h : Course s arguments d) : d.launches.length ≤ 1 := by
  rcases h.cases_launches with hnone | ⟨given, -, -, hone⟩
  · rw [hnone]
    exact Nat.zero_le 1
  · rw [hone]
    exact Nat.le_refl 1

theorem Course.launches (h : Course s arguments d) {l : Backend.Launch} (hl : l ∈ d.launches) :
    ∃ given, Reading.ofArguments Given.none arguments = .accepted given ∧
      given.invocation.provider = .gcp ∧
      l = ⟨gcloud, accessArguments given.invocation.options.secret⟩ := by
  rcases h.cases_launches with hnone | ⟨given, hgiven, hgcp, hone⟩
  · rw [hnone] at hl
    cases hl
  · rw [hone] at hl
    exact ⟨given, hgiven, hgcp, List.mem_singleton.1 hl⟩

theorem Course.tree (h : Course s arguments d)
    (refuses : ∀ region request, ∃ detail, s.service region request = .refused detail)
    (changed : d.tree ≠ s.tree) : "--dry-run" ∉ arguments ∧
      ∃ given, Reading.ofArguments Given.none arguments = .accepted given ∧
        given.invocation.provider = .gcp ∧
        ∃ program bundle, s.programs gcloud = some program ∧
          let c := program (accessArguments given.invocation.options.secret)
          c.ending = .exit 0 ∧
            Secret.decode given.invocation.options.keyField c.stdout = .ok bundle ∧
            given.invocation.options.keyField ∈ bundle := by
  cases h with
  | breakdown | help | rejected => exact absurd rfl changed
  | sync _ reading =>
      obtain ⟨hdry, hgcp, program, bundle, found⟩ := of_tree_sync_ne refuses changed
      refine ⟨fun hmem => ?_, _, reading, hgcp, program, bundle, found⟩
      have htrue := (dryRun_iff reading).2 hmem
      exact nomatch htrue.symm.trans hdry

theorem Course.stdout (h : Course s arguments d)
    (hreading : Reading.ofArguments Given.none arguments ≠ .help) :
    d.stdout ≠ "" ↔ d.ending.status = 0 ∧ "--dry-run" ∉ arguments := by
  cases h with
  | breakdown | rejected => simp [Surroundings.untouched, Ending.status]
  | help _ reading => exact absurd reading hreading
  | @sync filter given _ reading =>
      rcases ending_sync s filter given.invocation with
        ⟨r, hwritten, hending, hstdout⟩ | ⟨hending, hstdout⟩
      · rw [hstdout, hending, announcement_ne_iff, hwritten, ← dryRun_iff reading]
        simp [Ending.status, Given.invocation]
      · simp [hstdout, hending, Ending.status]

/-- What is held of every run, where `d` is what is seen of it. -/
structure Safe (s : Surroundings) (arguments : List String) (d : Display) : Prop where
  /-- The status is one of three unless the log filter would be cut inside a character. -/
  status : d.ending.status ∈ [0, 1, 2] ↔ ∀ text, s.logFilter = some text →
    Log.Filter.ofText text ≠ .error .insideCharacter
  /-- With another status nothing is printed, started or changed. -/
  brokenDown : d.ending.status ∉ [0, 1, 2] → d.stdout = "" ∧ d.launches = [] ∧ d.tree = s.tree
  /-- Status 2 tells that the arguments were rejected. -/
  misuse : d.ending.status ∈ [0, 1, 2] →
    (d.ending.status = 2 ↔ Reading.ofArguments Given.none arguments = .rejected)
  /-- With rejected arguments, or for help, nothing is started or changed. -/
  idle : Reading.ofArguments Given.none arguments = .rejected ∨
    Reading.ofArguments Given.none arguments = .help → d.launches = [] ∧ d.tree = s.tree
  once : d.launches.length ≤ 1
  /-- Only `gcloud` is started, for its provider, and each part of the secret's name is an
  argument of its own. -/
  launches : ∀ l ∈ d.launches, ∃ given, Reading.ofArguments Given.none arguments = .accepted given ∧
    given.invocation.provider = .gcp ∧
    let id := given.invocation.options.secret
    l = ⟨"gcloud", ["secrets", "versions", "access", id.version, "--secret", id.secret,
      "--project", id.project]⟩
  /-- The tree is changed only in a run that is not dry, after `gcloud` has succeeded and printed
  a bundle with the field of the private key. -/
  tree : d.tree ≠ s.tree → "--dry-run" ∉ arguments ∧
    ∃ given, Reading.ofArguments Given.none arguments = .accepted given ∧
      given.invocation.provider = .gcp ∧
      ∃ program bundle, s.programs "gcloud" = some program ∧
        let c := program (accessArguments given.invocation.options.secret)
        c.ending = .exit 0 ∧
          Secret.decode given.invocation.options.keyField c.stdout = .ok bundle ∧
          given.invocation.options.keyField ∈ bundle
  /-- Apart from help there is output just where a run that is not dry succeeds. -/
  stdout : Reading.ofArguments Given.none arguments ≠ .help →
    (d.stdout ≠ "" ↔ d.ending.status = 0 ∧ "--dry-run" ∉ arguments)

/-- As long as the other provider refuses every request, every run is safe; and its status is one
of three where no piece of the log filter has both a blank in front and a character that is not
ASCII. -/
theorem run_safe (s : Surroundings) (arguments : List String)
    (refuses : ∀ region request, ∃ detail, s.service region request = .refused detail) :
    Safe s arguments (s.run arguments) ∧
      ((∀ text, s.logFilter = some text → ∀ piece ∈ Text.split ',' text.toList,
          (∀ c, piece.head? = some c → Text.isBlank c = false) ∨ ∀ c ∈ piece, c.toNat < 0x80) →
        (s.run arguments).ending.status ∈ [0, 1, 2]) := by
  have h : Course s arguments (s.run arguments) := course_of_run s arguments
  refine ⟨?_, fun hpieces => h.status_iff.2 fun text htext => ?_⟩
  · exact {
      status := h.status_iff
      brokenDown := h.brokenDown
      misuse := h.misuse
      idle := h.idle
      once := h.once
      launches := fun l hl => h.launches hl
      tree := h.tree refuses
      stdout := h.stdout }
  · exact ofText_ne_insideCharacter (hpieces text htext)

/-- Surroundings whose log filter has a blank in front of one piece and a character that is not
ASCII in another, and whose `gcloud` prints a bundle. -/
def readied : Surroundings :=
  { around "\x7b\"K\":\"k\"\x7d" "" with logFilter := some " off,é=info", tree := Dotenv.vacant }

/-- What is asked for in them: the bundle, and that it is written. -/
def oneBundle : Sync.Options :=
  ⟨⟨"atom-pay-dev-be1b", "LAGO_ENV_VARS", "7"⟩, ".env", "K", false⟩

theorem run_safe_of_one_bundle :
    let arguments := ["--version", "7", "--private-key-field=K"]
    let d := readied.run arguments
    (∀ region request, ∃ detail, readied.service region request = .refused detail) ∧
      Safe readied arguments d ∧ d.ending.status = 0 ∧ d.tree ≠ readied.tree ∧
      d.launches = [⟨"gcloud", ["secrets", "versions", "access", "7", "--secret", "LAGO_ENV_VARS",
        "--project", "atom-pay-dev-be1b"]⟩] := by
  intro arguments d
  have refuses : ∀ region request, ∃ detail, readied.service region request = .refused detail :=
    fun _ _ => ⟨_, rfl⟩
  obtain ⟨safe, status⟩ := run_safe readied arguments refuses
  have reading : Reading.ofArguments Given.none arguments =
      .accepted ⟨[(.version, "7"), (.keyField, "K")], false⟩ := by rfl
  have hstatus : d.ending.status ∈ [0, 1, 2] := by
    have hpieces : Text.split ',' " off,é=info".toList =
        [[' ', 'o', 'f', 'f'], ['é', '=', 'i', 'n', 'f', 'o']] := by rfl
    refine status ?_
    rintro _ ⟨⟩ piece hpiece
    rw [hpieces] at hpiece
    rcases List.mem_cons.1 hpiece with rfl | hpiece
    · exact .inr (by simp)
    · obtain rfl := List.mem_singleton.1 hpiece
      refine .inl ?_
      rintro _ ⟨⟩
      decide
  obtain ⟨filter, hd⟩ := exists_sync_of_accepted
    (inForce_ne_none_iff.2 (safe.status.1 hstatus)) reading
  replace hd : d = readied.sync filter ⟨.gcp, none, oneBundle⟩ := hd
  have hbundle : Sync.bundleOf (readied.backend ⟨.gcp, none, oneBundle⟩) oneBundle =
      .ok ⟨[("K", "k")], by decide⟩ := by
    have decoded : Secret.bundle "LAGO_ENV_VARS" "K" (Text.Utf8.encode "\x7b\"K\":\"k\"\x7d") =
        .ok ⟨[("K", "k")], by decide⟩ := by cbv
    exact (Sync.bundleOf_of_ok rfl).trans decoded
  obtain ⟨hresult, htree⟩ := Sync.run_vacant rfl rfl hbundle
  refine ⟨refuses, safe, ?_, ?_, ?_⟩
  · rw [hd, (ending_sync_of_ok hresult).1]
    rfl
  · intro hsame
    have hfile := Dotenv.lookUp_alone (Text.Utf8.encode (Dotenv.render ⟨[("K", "k")], by decide⟩))
      FileTree.ownerOnly
    have hvacant : d.tree.lookUp ".env" = .error .notFound := by
      rw [hsame]
      exact Dotenv.lookUp_vacant
    rw [hd, tree_sync] at hvacant
    have hfound := (htree ▸ hfile).symm.trans hvacant
    cases hfound
  · rw [hd, launches_sync]
    rfl

/-- Of a filter that begins with a blank of two bytes the first part would end inside that blank,
and the run breaks down instead of going on as without a filter. -/
theorem run_breaks_down :
    let s : Surroundings := ⟨some "\u00a0a=debug", Backend.Programs.system,
      fun _ _ => .refused "no credentials", Dotenv.vacant⟩
    (∀ region request, ∃ detail, s.service region request = .refused detail) ∧
      (s.run []).ending.status = 101 ∧ (s.run []).ending.status ∉ [0, 1, 2] ∧
      ({ s with logFilter := none }.run []).ending.status = 1 := by
  intro s
  have hcut : Log.Filter.ofText "\u00a0a=debug" = .error .insideCharacter := by rfl
  have hstatus : (s.run []).ending.status = 101 := by
    rw [Surroundings.run, Log.Filter.inForce_eq_none_iff.2 ⟨_, rfl, hcut⟩]
    rfl
  refine ⟨fun _ _ => ⟨_, rfl⟩, hstatus, ?_, by rfl⟩
  rw [hstatus]
  decide

end EnvSync.CommandLine
