/-
# Backends

A backend hands over the payload of a secret version, or says why it does not.
Asking is all that can be done with one; what else came of it (programs started,
events logged) is part of the reply.
-/
import EnvSync.Log.Event
import EnvSync.Secret.Failure

namespace EnvSync

/-- A program with its arguments, as it was started. -/
structure Backend.Launch where
  program : String
  arguments : List String
deriving DecidableEq, Repr

/-- What comes of asking a backend for a secret version. -/
structure Backend.Reply where
  /-- What was logged meanwhile. -/
  events : List Log.Event
  /-- The programs that were started. -/
  launches : List Launch
  payload : Except Secret.Cause (List UInt8)

/-- Somewhere that secrets are kept. -/
structure Backend where
  name : String
  reply : Secret.Id → Backend.Reply

/-- The payload of a secret version; a failure names the secret. -/
def Backend.fetch (b : Backend) (id : Secret.Id) : Except Secret.Failure (List UInt8) :=
  (b.reply id).payload.mapError fun cause => ⟨id.secret, cause⟩

/-- The backend that knows one answer and gives it to everyone. -/
def Backend.fixed (name : String) (payload : Except Secret.Cause (List UInt8)) : Backend :=
  ⟨name, fun _ => ⟨[], [], payload⟩⟩

end EnvSync
