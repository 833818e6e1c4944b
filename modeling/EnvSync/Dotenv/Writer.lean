/-
# Writing an env file

Each setting is one entry: its name, `=`, and its value between double quotes.
Values are written as they are.  A quote in a value is not escaped and a line
break makes the entry span lines; which settings survive being read back is a
question to `Dotenv.parse`, not to this writer.
-/
import EnvSync.Settings

namespace EnvSync.Dotenv

def entryText (e : String × String) : String :=
  e.1 ++ "=\"" ++ e.2 ++ "\""

/-- The entries in order, with a line break between each two and none at the end. -/
def render (m : Settings) : String :=
  "\n".intercalate (m.entries.map entryText)

end EnvSync.Dotenv
