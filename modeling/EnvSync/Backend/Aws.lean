/-
# The backend behind a web service

The service is sent one request and gives one answer.  It knows secrets by name
alone, so the project has no part in the request.  A version is named by its id,
except that the latest one is asked for by its stage.
-/
import EnvSync.Backend.Basic

namespace EnvSync.Backend

/-- How the service is told which version is meant. -/
inductive VersionName where
  | stage (name : String)
  | id (name : String)
deriving DecidableEq, Repr

structure Request where
  secretId : String
  version : VersionName
deriving DecidableEq, Repr

def currentStage : String := "AWSCURRENT"

def request (id : Secret.Id) : Request :=
  ⟨id.secret, if id.version = Secret.latest then .stage currentStage else .id id.version⟩

inductive Answer where
  /-- There is no answer, or none that can be used. -/
  | refused (detail : String)
  /-- The two forms in which a payload may come. -/
  | secretValue (text : Option String) (binary : Option (List UInt8))
deriving DecidableEq, Repr

/-- The payload of an answer; text goes before binary. -/
def payloadOfAnswer : Answer → Except Secret.Cause (List UInt8)
  | .refused detail => .error (.backend ("failed to fetch secret from AWS: " ++ detail))
  | .secretValue (some text) _ => .ok (Text.Utf8.encode text)
  | .secretValue none (some bytes) => .ok bytes
  | .secretValue none none => .error (.backend "secret version has no payload")

/-- The backend that sends requests to `service`. -/
def aws (service : Request → Answer) : Backend where
  name := Provider.aws.name
  reply id := ⟨[], [], payloadOfAnswer (service (request id))⟩

end EnvSync.Backend
