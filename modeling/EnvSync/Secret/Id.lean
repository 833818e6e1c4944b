/-
# Secrets and their versions

A secret lives in a project and has versions.  An `Id` names one version of one
secret; `latest` is the version that stands for whichever is current.
-/
namespace EnvSync.Secret

/-- One version of one secret. -/
structure Id where
  project : String
  secret : String
  version : String
deriving DecidableEq, Repr

def latest : String := "latest"

def Id.default : Id := ⟨"atom-pay-dev-be1b", "LAGO_ENV_VARS", latest⟩

/-- The full name, by which a version is asked for and shown. -/
def Id.resourceName (id : Id) : String :=
  "projects/" ++ id.project ++ "/secrets/" ++ id.secret ++ "/versions/" ++ id.version

end EnvSync.Secret
