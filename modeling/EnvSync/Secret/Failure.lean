/-
# Why a secret cannot be used

A secret is of no use where its backend does not hand it over, or where what was
handed over is no bundle.  A `Cause` says which of these it is and knows nothing of
the secret; a `Failure` adds the secret's name, so that its message is enough on a
line of its own.
-/
import EnvSync.Text.Utf8

namespace EnvSync.Secret

inductive Cause where
  /-- The backend gave no payload; why, in its own words. -/
  | backend (detail : String)
  | notUtf8 (fault : Text.Utf8.Fault)
  | notJson
  /-- The payload is JSON, but no object. -/
  | notObject
  /-- The bundle lacks the field that every bundle has to have. -/
  | missingField (field : String)
deriving DecidableEq, Repr

def Cause.message : Cause → String
  | backend detail => detail
  | notUtf8 _ => "payload is not valid UTF-8"
  | notJson => "payload is not valid JSON"
  | notObject => "payload must be a JSON object with key-value pairs"
  | missingField field => "payload has no field " ++ field

/-- What went wrong with which secret. -/
structure Failure where
  secret : String
  cause : Cause
deriving DecidableEq, Repr

def Failure.message (f : Failure) : String :=
  "Error setting secret " ++ f.secret ++ ": " ++ f.cause.message

end EnvSync.Secret
