/-
# Programs

A program is what it does when it is started with arguments: what it writes and how
it ends.  Programs are found by name.  Neither a name nor an argument can hold the
character NUL, and that is noticed before the program is looked for.
-/
import EnvSync.Text.Utf8

namespace EnvSync.Backend

inductive Ending where
  | exit (code : Nat)
  /-- A signal ended it. -/
  | signal
deriving DecidableEq, Repr

/-- What a program has written, and how it ended. -/
structure Completion where
  stdout : List UInt8
  stderr : List UInt8
  ending : Ending
deriving DecidableEq, Repr

def Completion.succeeded (c : Completion) : Bool := c.ending = .exit 0

/-- What a program does with its arguments. -/
abbrev Program := List String → Completion

/-- The programs that can be found, by name. -/
abbrev Programs := String → Option Program

inductive LaunchError where
  | nulByte
  | notFound
deriving DecidableEq, Repr

def LaunchError.message : LaunchError → String
  | nulByte => "nul byte found in provided data"
  | notFound => "No such file or directory (os error 2)"

def hasNul (s : String) : Bool := s.toList.contains '\x00'

def Programs.run (ps : Programs) (name : String) (arguments : List String) :
    Except LaunchError Completion :=
  if hasNul name || arguments.any hasNul then .error .nulByte
  else
    match ps name with
    | none => .error .notFound
    | some program => .ok (program arguments)

/-! ## Some programs -/

/-- Writes nothing and ends with a status. -/
def Program.silent (code : Nat) : Program := fun _ => ⟨[], [], .exit code⟩

/-- Writes its arguments with a space between each two and ends the line. -/
def Program.echo : Program := fun arguments =>
  ⟨Text.Utf8.encode (" ".intercalate arguments ++ "\n"), [], .exit 0⟩

/-- The programs that every system has. -/
def Programs.system : Programs := fun name =>
  if name = "echo" then some Program.echo
  else if name = "true" then some (Program.silent 0)
  else if name = "false" then some (Program.silent 1)
  else none

/-- The programs `ps` with one more, found under each of `names`. -/
def Programs.adding (ps : Programs) (names : List String) (program : Program) : Programs :=
  fun name => if name ∈ names then some program else ps name

end EnvSync.Backend
