/-
# What is logged

A run logs what it does at a few points, each of which is one `Event`.  An event
holds names, paths and counts, and never the value of a setting.
-/
import EnvSync.Provider
import EnvSync.Secret.Id
import EnvSync.Text.Quoted

namespace EnvSync.Log

/-! ## Levels -/

/-- How much an event matters. -/
inductive Level where
  | error
  | warn
  | info
  | debug
  | trace
deriving DecidableEq, Repr

namespace Level

/-- The levels, from the one that matters most. -/
def all : List Level := [error, warn, info, debug, trace]

/-- Place among the levels, from 1 on. -/
def rank : Level → Nat
  | error => 1
  | warn => 2
  | info => 3
  | debug => 4
  | trace => 5

def name : Level → String
  | error => "ERROR"
  | warn => "WARN"
  | info => "INFO"
  | debug => "DEBUG"
  | trace => "TRACE"

end Level

/-! ## Events -/

/-- Something a run has done or is about to do. -/
inductive Event where
  /-- A secret is about to be fetched from the backend called `provider`. -/
  | fetching (provider : String) (secret : Secret.Id)
  /-- A program is about to be started to read a secret. -/
  | accessing (program : String) (secret : Secret.Id)
  | noEnvFile (path : String)
  | creatingDirectory (path : String)
  /-- The env file has been written, with so many settings. -/
  | written (path : String) (added updated total : Nat)
  /-- The env file would have been written, with these names. -/
  | dryRun (path : String) (added updated : List String)
deriving DecidableEq, Repr

namespace Event

/-- What a run does for its user is information; how it does it is for debugging. -/
def level : Event → Level
  | fetching .. | written .. | dryRun .. => .info
  | accessing .. | noEnvFile .. | creatingDirectory .. => .debug

def target : Event → String
  | fetching .. | written .. | dryRun .. => "secretenv"
  | accessing .. => "secretenv::source"
  | noEnvFile .. | creatingDirectory .. => "secretenv::envfile"

def message : Event → String
  | fetching .. => "fetching secret"
  | accessing program _ => "accessing secret version via " ++ program
  | noEnvFile _ => "no existing env file"
  | creatingDirectory _ => "creating output directory"
  | written .. => "environment file written"
  | dryRun .. => "dry run, env file not written"

/-- The fields of an event: their names, and their values as they are shown. -/
def fields : Event → List (String × String)
  | fetching provider secret =>
    [("provider", Text.showText provider), ("secret", secret.resourceName)]
  | accessing _ secret => [("resource", secret.resourceName)]
  | noEnvFile path => [("path", path)]
  | creatingDirectory path => [("dir", path)]
  | written path added updated total =>
    [("path", path), ("added", toString added), ("updated", toString updated),
     ("total", toString total)]
  | dryRun path added updated =>
    [("path", path), ("added", Text.showTexts added), ("updated", Text.showTexts updated)]

/-- The names of all that an event says; its words are a field too. -/
def fieldNames (e : Event) : List String := "message" :: e.fields.map (·.1)

/-- An event in words, with its fields. -/
def text (e : Event) : String :=
  " ".intercalate (e.message :: e.fields.map fun f => f.1 ++ "=" ++ f.2)

def line (e : Event) : String :=
  e.level.name ++ " " ++ e.target ++ ": " ++ e.text

end Event
end EnvSync.Log
