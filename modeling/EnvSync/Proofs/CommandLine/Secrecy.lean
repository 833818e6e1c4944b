/-
# What the program shows

Of a run everything but its tree is on display: how it ends, what it prints and logs, its
message, and the programs that it starts.  Runs with the same arguments and the same log filter
that differ in values only, or in payloads that are wrong in the same way, have the same on
display (`run_shows_no_values`).

Such runs have been handed payloads, so the backend has done the same in both
(`askActions_eq`), and what the display adds to a run is a function of its actions and of its
result with failures put in words (`sameDisplay_sync`).
-/
import EnvSync.CommandLine.Run
import EnvSync.Proofs.Sync.Secrecy

namespace EnvSync.CommandLine

open Sync (askActions bundleOf)

variable {s₁ s₂ : Surroundings} {i : Invocation} {payload₁ payload₂ : List UInt8}

/-- Only the trees can tell the runs apart. -/
structure SameDisplay (d₁ d₂ : Display) : Prop where
  ending : d₁.ending = d₂.ending
  stdout : d₁.stdout = d₂.stdout
  log : d₁.log = d₂.log
  message : d₁.message = d₂.message
  launches : d₁.launches = d₂.launches

/-- Runs that differ in values only, or that reject their payloads for the same kind of cause. -/
inductive Comparable (s₁ s₂ : Surroundings) (i : Invocation) : Prop
  | decoded {m₁ m₂ : Settings} (first : bundleOf (s₁.backend i) i.options = .ok m₁)
      (second : bundleOf (s₂.backend i) i.options = .ok m₂) (names : m₁.keys = m₂.keys)
      (trees : Dotenv.SameButValues s₁.tree s₂.tree i.options.envFile)
  | rejected {payload₁ payload₂ : List UInt8} {cause₁ cause₂ : Secret.Cause}
      (first : ((s₁.backend i).reply i.options.secret).payload = .ok payload₁)
      (second : ((s₂.backend i).reply i.options.secret).payload = .ok payload₂)
      (wrong₁ : Secret.decode i.options.keyField payload₁ = .error cause₁)
      (wrong₂ : Secret.decode i.options.keyField payload₂ = .error cause₂)
      (kind : cause₁.SameKind cause₂)

/-! ## Backends -/

/-- A program that hands over a payload has been started, and has printed it and succeeded. -/
theorem exists_completion_of_gcp {programs : Backend.Programs} {program : String} {id : Secret.Id}
    (h : ((Backend.gcp programs program).reply id).payload = .ok payload₁) :
    ∃ c, programs.run program (Backend.accessArguments id) = .ok c ∧ c.ending = .exit 0 ∧
      c.stdout = payload₁ := by
  change Backend.payloadOfRun program (programs.run program (Backend.accessArguments id)) = _ at h
  cases hrun : programs.run program (Backend.accessArguments id) with
  | error e =>
      rw [hrun] at h
      cases h
  | ok c =>
      rw [hrun, Backend.payloadOfRun] at h
      split at h
      · next hsucceeded =>
        exact ⟨c, rfl, of_decide_eq_true hsucceeded, Except.ok.inj h⟩
      · cases h

/-- Backends of one kind that hand over payloads do the same for them. -/
theorem askActions_eq {id : Secret.Id} (h₁ : ((s₁.backend i).reply id).payload = .ok payload₁)
    (h₂ : ((s₂.backend i).reply id).payload = .ok payload₂) :
    askActions (s₁.backend i) id = askActions (s₂.backend i) id := by
  rw [Surroundings.backend] at h₁ h₂
  rw [askActions, askActions, Surroundings.backend, Surroundings.backend]
  cases hp : i.provider with
  | aws => rfl
  | gcp =>
      -- A program that was not started would be missing among the launches.
      rw [hp] at h₁ h₂
      obtain ⟨c₁, hc₁, -⟩ := exists_completion_of_gcp h₁
      obtain ⟨c₂, hc₂, -⟩ := exists_completion_of_gcp h₂
      simp only [Backend.gcp, hc₁, hc₂]

/-! ## Displays -/

theorem Comparable.sync (h : Comparable s₁ s₂ i) :
    (Sync.run (s₁.backend i) i.options s₁.tree).result.mapError Sync.Failure.message =
        (Sync.run (s₂.backend i) i.options s₂.tree).result.mapError Sync.Failure.message ∧
      (Sync.run (s₁.backend i) i.options s₁.tree).actions =
        (Sync.run (s₂.backend i) i.options s₂.tree).actions := by
  cases h with
  | decoded first second names trees =>
      obtain ⟨_, hp₁⟩ := Sync.exists_payload_of_bundleOf first
      obtain ⟨_, hp₂⟩ := Sync.exists_payload_of_bundleOf second
      have ask := askActions_eq hp₁ hp₂
      obtain ⟨hresult, hactions, -⟩ := Sync.alike_run ask first second names trees
      exact ⟨congrArg (Except.mapError Sync.Failure.message) hresult, hactions⟩
  | rejected first second wrong₁ wrong₂ kind =>
      have ask := askActions_eq first second
      have message := Sync.message_of_undecoded i.options.secret.secret wrong₁ wrong₂ kind
      rw [Sync.run_of_unfetched (Sync.bundleOf_of_undecoded first wrong₁),
        Sync.run_of_unfetched (Sync.bundleOf_of_undecoded second wrong₂)]
      constructor
      · dsimp only [Except.mapError]
        rw [message]
      · exact ask

theorem sameDisplay_sync (filter : Log.Filter)
    (result : (Sync.run (s₁.backend i) i.options s₁.tree).result.mapError Sync.Failure.message =
      (Sync.run (s₂.backend i) i.options s₂.tree).result.mapError Sync.Failure.message)
    (actions : (Sync.run (s₁.backend i) i.options s₁.tree).actions =
      (Sync.run (s₂.backend i) i.options s₂.tree).actions) :
    SameDisplay (s₁.sync filter i) (s₂.sync filter i) := by
  rw [Surroundings.sync, Surroundings.sync]
  generalize Sync.run (s₁.backend i) i.options s₁.tree = x₁ at result actions ⊢
  generalize Sync.run (s₂.backend i) i.options s₂.tree = x₂ at result actions ⊢
  obtain ⟨result₁, tree₁, actions₁⟩ := x₁
  obtain ⟨result₂, tree₂, actions₂⟩ := x₂
  dsimp only at result actions ⊢
  subst actions
  cases result₁ with
  | ok r₁ =>
      cases result₂ with
      | ok r₂ =>
          cases result
          exact ⟨rfl, rfl, rfl, rfl, rfl⟩
      | error f₂ => cases result
  | error f₁ =>
      cases result₂ with
      | ok r₂ => cases result
      | error f₂ =>
          have hmessage : f₁.message = f₂.message := Except.error.inj result
          exact ⟨rfl, rfl, rfl, congrArg some hmessage, rfl⟩

/-- Runs with the same arguments and the same log filter that differ in the values of the bundle
and of the env file only, or in payloads that are rejected for the same kind of cause, show the
same and log the same events; they have the same report, or messages that are the same. -/
theorem run_shows_no_values (filter : s₁.logFilter = s₂.logFilter) (arguments : List String)
    (comparable : ∀ given, Reading.ofArguments Given.none arguments = .accepted given →
      Comparable s₁ s₂ given.invocation) :
    SameDisplay (s₁.run arguments) (s₂.run arguments) ∧
      ∀ given, Reading.ofArguments Given.none arguments = .accepted given →
        let i := given.invocation
        let x₁ := Sync.run (s₁.backend i) i.options s₁.tree
        let x₂ := Sync.run (s₂.backend i) i.options s₂.tree
        x₁.result.mapError Sync.Failure.message = x₂.result.mapError Sync.Failure.message ∧
          Sync.logged x₁.actions = Sync.logged x₂.actions := by
  constructor
  · rw [Surroundings.run, Surroundings.run, filter]
    split
    · exact ⟨rfl, rfl, rfl, rfl, rfl⟩
    · next filter _ =>
      split
      · exact ⟨rfl, rfl, rfl, rfl, rfl⟩
      · exact ⟨rfl, rfl, rfl, rfl, rfl⟩
      · next given haccepted =>
        obtain ⟨hresult, hactions⟩ := (comparable given haccepted).sync
        exact sameDisplay_sync filter hresult hactions
  · intro given haccepted
    obtain ⟨hresult, hactions⟩ := (comparable given haccepted).sync
    exact ⟨hresult, congrArg Sync.logged hactions⟩

/-- A directory with an env file, and a program that prints a payload. -/
def around (payload text : String) : Surroundings where
  logFilter := none
  programs := Backend.Programs.system.adding [Backend.gcloud] fun _ =>
    ⟨Text.Utf8.encode payload, [], .exit 0⟩
  service _ _ := .refused "no credentials"
  tree := Dotenv.alone (Text.Utf8.encode text) 0o644

theorem payload_around (payload text : String) (o : Sync.Options) :
    (((around payload text).backend ⟨.gcp, none, o⟩).reply Secret.Id.default).payload =
      .ok (Text.Utf8.encode payload) := by
  rfl

/-- Two secrets with two env files, and two payloads of which neither is JSON. -/
theorem run_shows_no_values_of_two_secrets :
    let arguments := ["--private-key-field=K"]
    let s₁ := around "\x7b\"K\":\"first\"\x7d" "A=1"
    let s₂ := around "\x7b\"K\":\"second\"\x7d" "A=2"
    s₁.tree ≠ s₂.tree ∧ SameDisplay (s₁.run arguments) (s₂.run arguments) ∧
      SameDisplay ((around "\x7b" "A=1").run arguments) ((around "?" "A=2").run arguments) := by
  intro arguments s₁ s₂
  have haccepted : Reading.ofArguments Given.none arguments =
      .accepted ⟨[(.keyField, "K")], false⟩ := by rfl
  let o : Sync.Options := ⟨Secret.Id.default, ".env", "K", false⟩
  have hkeys₁ : (Dotenv.parse "A=1").keys = ["A"] := by cbv
  have hkeys₂ : (Dotenv.parse "A=2").keys = ["A"] := by cbv
  have decoded : Comparable s₁ s₂ ⟨.gcp, none, o⟩ := by
    have hm₁ : Secret.bundle "LAGO_ENV_VARS" "K" (Text.Utf8.encode "\x7b\"K\":\"first\"\x7d") =
        .ok ⟨[("K", "first")], by decide⟩ := by cbv
    have hm₂ : Secret.bundle "LAGO_ENV_VARS" "K" (Text.Utf8.encode "\x7b\"K\":\"second\"\x7d") =
        .ok ⟨[("K", "second")], by decide⟩ := by cbv
    refine .decoded ((Sync.bundleOf_of_ok (payload_around _ _ o)).trans hm₁)
      ((Sync.bundleOf_of_ok (payload_around _ _ o)).trans hm₂) rfl ?_
    exact Dotenv.sameButValues_alone 0o644 (hkeys₁.trans hkeys₂.symm)
  have rejected : Comparable (around "\x7b" "A=1") (around "?" "A=2") ⟨.gcp, none, o⟩ := by
    have hbrace : Secret.decode "K" (Text.Utf8.encode "\x7b") = .error .notJson := by cbv
    have hmark : Secret.decode "K" (Text.Utf8.encode "?") = .error .notJson := by cbv
    exact .rejected (payload_around _ _ o) (payload_around _ _ o) hbrace hmark .notJson
  refine ⟨by decide, ?_, ?_⟩
  · have filter : s₁.logFilter = s₂.logFilter := rfl
    refine (run_shows_no_values filter arguments fun given h => ?_).1
    obtain rfl := Reading.accepted.inj (haccepted.symm.trans h)
    exact decoded
  · have filter : (around "\x7b" "A=1").logFilter = (around "?" "A=2").logFilter := rfl
    refine (run_shows_no_values filter arguments fun given h => ?_).1
    obtain rfl := Reading.accepted.inj (haccepted.symm.trans h)
    exact rejected

end EnvSync.CommandLine
