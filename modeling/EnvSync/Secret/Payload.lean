/-
# From payload to bundle

A payload is the UTF-8 text of one JSON object, and a bundle is the settings that
this object spells out: its members in the order of the text, each with a text for
its value.  One member holds a private key.  It has to be there, and its line
breaks, which may be stored as backslash and `n`, are restored.
-/
import EnvSync.Json.Printer
import EnvSync.Json.Reader
import EnvSync.Secret.Failure
import EnvSync.Settings
import EnvSync.Text.Pair

namespace EnvSync.Secret

def defaultKeyField : String := "LAGO_RSA_PRIVATE_KEY"

/-- A text with its line breaks restored. -/
def restoreNewlines (s : String) : String :=
  .ofList (Text.expandNewlines s.toList)

/-- The setting that a value amounts to: a string as it is, anything else in its
compact form. -/
def settingText : Json → String
  | .string s => s
  | v => .ofList v.render

def settings (members : List (String × Json)) : Settings :=
  .ofList (members.map fun m => (m.1, settingText m.2))

/-- The settings with the line breaks of `field` restored, if there is such a field. -/
def restoreField (field : String) (m : Settings) : Except Cause Settings :=
  match m.get? field with
  | none => .error (.missingField field)
  | some v => .ok (m.insert field (restoreNewlines v))

def readPayload (payload : List UInt8) : Except Cause (List (String × Json)) :=
  match Text.Utf8.decode payload with
  | .error fault => .error (.notUtf8 fault)
  | .ok text =>
    match Json.readObject text with
    | .error .malformed => .error .notJson
    | .error .notObject => .error .notObject
    | .ok members => .ok members

/-- The bundle of a payload whose private key is in `field`. -/
def decode (field : String) (payload : List UInt8) : Except Cause Settings :=
  match readPayload payload with
  | .error cause => .error cause
  | .ok members => restoreField field (settings members)

/-- The bundle of a payload of `secret`, or a failure that names the secret. -/
def bundle (secret field : String) (payload : List UInt8) : Except Failure Settings :=
  (decode field payload).mapError fun cause => ⟨secret, cause⟩

end EnvSync.Secret
