/-
# The backend behind a command line

A program with the command line of `gcloud` is started once.  Its output is the
payload, byte for byte, if it succeeds; if not, its complaint is the cause.
-/
import EnvSync.Backend.Basic
import EnvSync.Backend.Program
import EnvSync.Text.Blank
import EnvSync.Text.Utf8

namespace EnvSync.Backend

/-- The program that is started where no other is named. -/
def gcloud : String := "gcloud"

/-- The arguments that make the program print a secret version.  Each part of the name
is an argument of its own, whatever it holds. -/
def accessArguments (id : Secret.Id) : List String :=
  ["secrets", "versions", "access", id.version, "--secret", id.secret, "--project", id.project]

/-- What a program complained of: its error output without the blanks around it, and with
U+FFFD for what is no UTF-8. -/
def complaint (c : Completion) : String :=
  .ofList (Text.trim (Text.Utf8.decodeLossy c.stderr).toList)

def payloadOfRun (program : String) : Except LaunchError Completion →
    Except Secret.Cause (List UInt8)
  | .error e => .error (.backend ("failed to execute " ++ program ++ ": " ++ e.message))
  | .ok c =>
    if c.succeeded then .ok c.stdout
    else .error (.backend (program ++ " failed: " ++ complaint c))

/-- The backend that starts `program`, found among `programs`. -/
def gcp (programs : Programs) (program : String) : Backend where
  name := Provider.gcp.name
  reply id :=
    let run := programs.run program (accessArguments id)
    { events := [.accessing program id]
      launches := match run with
        | .error _ => []
        | .ok _ => [⟨program, accessArguments id⟩]
      payload := payloadOfRun program run }

end EnvSync.Backend
