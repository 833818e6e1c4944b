/-
# Settings of the command line

Each setting has an option of its own, `--name`, and at most one value.  A setting
without a value has its default.
-/
import EnvSync.Provider
import EnvSync.Sync

namespace EnvSync.CommandLine

/-- What can be set by an option with a value. -/
inductive Setting where
  | project
  | secret
  | version
  | envFile
  | keyField
  | provider
  | region
deriving DecidableEq, Repr

namespace Setting

/-- The settings in the order in which they are explained. -/
def all : List Setting := [project, secret, version, envFile, keyField, provider, region]

/-- The name of the option, without its dashes. -/
def name : Setting → String
  | project => "project"
  | secret => "secret"
  | version => "version"
  | envFile => "env-file"
  | keyField => "private-key-field"
  | provider => "provider"
  | region => "region"

def valueName : Setting → String
  | project => "PROJECT"
  | secret => "SECRET"
  | version => "SECRET_VERSION"
  | envFile => "ENV_FILE"
  | keyField => "PRIVATE_KEY_FIELD"
  | provider => "PROVIDER"
  | region => "REGION"

def purpose : Setting → String
  | project => "Project that owns the secret"
  | secret => "Name of the secret holding the JSON bundle"
  | version => "Secret version to read"
  | envFile => "Env file to merge into and overwrite"
  | keyField => "Field whose `\\n` escapes are turned into real newlines"
  | provider => "Secret backend"
  | region => "AWS region (aws provider only)"

def default? : Setting → Option String
  | project => some Sync.Options.default.secret.project
  | secret => some Sync.Options.default.secret.secret
  | version => some Sync.Options.default.secret.version
  | envFile => some Sync.Options.default.envFile
  | keyField => some Sync.Options.default.keyField
  | provider => some Provider.default.name
  | region => none

/-- The values that a setting is confined to. -/
def choices : Setting → List String
  | provider => Provider.all.map Provider.name
  | _ => []

/-- A setting may have a value.  There has to be a path, and a provider has to exist
under just that name; any other text will do. -/
def admits : Setting → String → Bool
  | envFile, v => v ≠ ""
  | provider, v => (Provider.ofName? false v).isSome
  | _, _ => true

end Setting
end EnvSync.CommandLine
