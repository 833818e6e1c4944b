/-
# The program

A run of the program from its arguments on: options are read, the backend is chosen,
and one sync is run with it.  What can be seen of it from outside is its `Display`.
-/
import EnvSync.Backend.Aws
import EnvSync.Backend.Gcp
import EnvSync.CommandLine.Arguments
import EnvSync.CommandLine.Help
import EnvSync.Log.Filter

namespace EnvSync.CommandLine

/-- What a run finds around it. -/
structure Surroundings where
  /-- The written form of the log filter, if one is set. -/
  logFilter : Option String
  programs : Backend.Programs
  /-- The web service, for a region if one is named. -/
  service : Option String → Backend.Request → Backend.Answer
  tree : FileTree

inductive Ending where
  | success
  | failure
  /-- The arguments could not be accepted. -/
  | misuse
  /-- The run broke down before it looked at its arguments. -/
  | breakdown
deriving DecidableEq, Repr

def Ending.status : Ending → Nat
  | success => 0
  | failure => 1
  | misuse => 2
  | breakdown => 101

/-- What can be seen of a run. -/
structure Display where
  ending : Ending
  stdout : String
  /-- The lines of the log. -/
  log : List String
  /-- The message of a failure. -/
  message : Option String
  launches : List Backend.Launch
  tree : FileTree

def Surroundings.backend (s : Surroundings) (i : Invocation) : Backend :=
  match i.provider with
  | .gcp => Backend.gcp s.programs Backend.gcloud
  | .aws => Backend.aws (s.service i.region)

/-- What the user is told of a report. -/
def announcement (r : Sync.Report) : String :=
  if r.written then "Environment file updated: " ++ r.envFile ++ "\n" else ""

/-- A run that touches nothing. -/
def Surroundings.untouched (s : Surroundings) (ending : Ending) (stdout : String) : Display :=
  ⟨ending, stdout, [], none, [], s.tree⟩

/-- A run with accepted options. -/
def Surroundings.sync (s : Surroundings) (filter : Log.Filter) (i : Invocation) : Display :=
  let o := Sync.run (s.backend i) i.options s.tree
  let log := filter.lines (Sync.logged o.actions)
  let launches := Sync.started o.actions
  match o.result with
  | .ok r => ⟨.success, announcement r, log, none, launches, o.tree⟩
  | .error f => ⟨.failure, "", log, some f.message, launches, o.tree⟩

def Surroundings.run (s : Surroundings) (arguments : List String) : Display :=
  match Log.Filter.inForce s.logFilter with
  | none => s.untouched .breakdown ""
  | some filter =>
    match Reading.ofArguments Given.none arguments with
    | .help => s.untouched .success helpText
    | .rejected => s.untouched .misuse ""
    | .accepted given => s.sync filter given.invocation

end EnvSync.CommandLine
