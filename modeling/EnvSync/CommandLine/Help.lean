/-
# Help

The text that explains the options, one entry for each.
-/
import EnvSync.CommandLine.Setting

namespace EnvSync.CommandLine

def programName : String := "secretenv"

def summary : String := "Fetch a JSON secret bundle and merge it into a local .env file"

def remark (label value : String) : String := " [" ++ label ++ ": " ++ value ++ "]"

/-- The remarks on a setting: its default and the values to choose from. -/
def remarks (s : Setting) : String :=
  (match s.default? with
    | none => ""
    | some v => remark "default" v) ++
  (match s.choices with
    | [] => ""
    | vs => remark "possible values" (", ".intercalate vs))

/-- The entry of an option: how it is written, and what it is for. -/
def entry (option purpose : String) : List String :=
  [option, "          " ++ purpose]

def settingEntry (s : Setting) : List String :=
  entry ("      --" ++ s.name ++ " <" ++ s.valueName ++ ">") (s.purpose ++ remarks s)

def helpLines : List String :=
  [summary, "", "Usage: " ++ programName ++ " [OPTIONS]", "", "Options:"] ++
  Setting.all.flatMap settingEntry ++
  entry "      --dry-run" "Show which keys would change without writing the env file" ++
  entry "  -h, --help" "Print help"

def helpText : String := "\n".intercalate helpLines ++ "\n"

end EnvSync.CommandLine
