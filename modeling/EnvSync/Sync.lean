/-
# One run

A run fetches a secret, decodes it to a bundle, overlays the bundle on the settings
of the env file and saves the result.  A dry run stops short of saving.  Nothing in
the tree is touched before all that can be known beforehand has succeeded.
-/
import EnvSync.Backend.Basic
import EnvSync.Dotenv.Store
import EnvSync.Dotenv.Writer
import EnvSync.Secret.Payload

namespace EnvSync.Sync

structure Options where
  secret : Secret.Id
  envFile : String
  /-- The field that holds the private key. -/
  keyField : String
  dryRun : Bool
deriving DecidableEq, Repr

def Options.default : Options :=
  ⟨Secret.Id.default, Dotenv.defaultPath, Secret.defaultKeyField, false⟩

/-- What a run did to the env file. -/
structure Report where
  envFile : String
  /-- The names that the file did not have. -/
  added : List String
  /-- The names that it had, and whose values are now the bundle's. -/
  updated : List String
  /-- The number of settings, old and new. -/
  total : Nat
  written : Bool
deriving DecidableEq, Repr

inductive Failure where
  | secret (failure : Secret.Failure)
  | file (failure : Dotenv.Failure)
deriving DecidableEq, Repr

def Failure.message : Failure → String
  | secret f => f.message
  | file f => f.message

/-! ## What a run leaves behind -/

/-- Something that a run did, besides changing files. -/
inductive Action where
  /-- Asked the backend for a secret version. -/
  | asked (secret : Secret.Id)
  | started (launch : Backend.Launch)
  | logged (event : Log.Event)
deriving DecidableEq, Repr

def asked (actions : List Action) : List Secret.Id :=
  actions.filterMap fun
    | .asked id => some id
    | _ => none

def started (actions : List Action) : List Backend.Launch :=
  actions.filterMap fun
    | .started l => some l
    | _ => none

def logged (actions : List Action) : List Log.Event :=
  actions.filterMap fun
    | .logged e => some e
    | _ => none

/-- A result, with the files that a run leaves and what else it did, in order. -/
structure Outcome (α : Type) where
  result : Except Failure α
  tree : FileTree
  actions : List Action

/-! ## Fetching -/

/-- What asking a backend leaves behind. -/
def askActions (b : Backend) (id : Secret.Id) : List Action :=
  .logged (.fetching b.name id) :: .asked id ::
    ((b.reply id).events.map .logged ++ (b.reply id).launches.map .started)

/-- The bundle of the secret that is wanted. -/
def bundleOf (b : Backend) (o : Options) : Except Secret.Failure Settings :=
  match b.fetch o.secret with
  | .error f => .error f
  | .ok payload => Secret.bundle o.secret.secret o.keyField payload

/-- Fetches and decodes a bundle.  No file takes part in it. -/
def fetch (b : Backend) (o : Options) (t : FileTree) : Outcome Settings :=
  ⟨(bundleOf b o).mapError .secret, t, askActions b o.secret⟩

/-! ## Merging -/

/-- The settings that the env file holds, with what the bundle makes of them. -/
structure Change where
  existing : Settings
  bundle : Settings

def Change.merged (c : Change) : Settings := c.existing.merge c.bundle

def Change.report (c : Change) (o : Options) : Report :=
  let names := c.existing.classify c.bundle
  ⟨o.envFile, names.1, names.2, c.merged.size, !o.dryRun⟩

/-- The event that concludes a run. -/
def Report.event (r : Report) : Log.Event :=
  if r.written then .written r.envFile r.added.length r.updated.length r.total
  else .dryRun r.envFile r.added r.updated

/-- Saves a change, unless the run is dry. -/
def apply (o : Options) (c : Change) (t : FileTree) : Outcome Report :=
  let report := c.report o
  let text := Dotenv.render c.merged
  if o.dryRun then ⟨.ok report, t, [.logged report.event]⟩
  else
    let events := (Dotenv.saveEvents t o.envFile text).map Action.logged
    match Dotenv.save t o.envFile text with
    | (t, some f) => ⟨.error (.file f), t, events⟩
    | (t, none) => ⟨.ok report, t, events ++ [.logged report.event]⟩

/-- Makes the env file hold a bundle too. -/
def overlay (o : Options) (bundle : Settings) (t : FileTree) : Outcome Report :=
  let events := (Dotenv.loadEvents t o.envFile).map Action.logged
  match Dotenv.load t o.envFile with
  | .error f => ⟨.error (.file f), t, events⟩
  | .ok existing =>
    let r := apply o ⟨existing, bundle⟩ t
    { r with actions := events ++ r.actions }

def run (b : Backend) (o : Options) (t : FileTree) : Outcome Report :=
  let fetched := fetch b o t
  match fetched.result with
  | .error f => ⟨.error f, fetched.tree, fetched.actions⟩
  | .ok bundle =>
    let r := overlay o bundle fetched.tree
    { r with actions := fetched.actions ++ r.actions }

end EnvSync.Sync
