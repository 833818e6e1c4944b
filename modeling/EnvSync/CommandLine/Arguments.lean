/-
# Arguments

The arguments of a command line are read from the left.  An option has its value
behind an equals sign or in the argument that follows, which then must not look like
an option.  The first argument that cannot be accepted, or that asks for help,
decides; what follows it is not looked at.
-/
import EnvSync.CommandLine.Setting

namespace EnvSync.CommandLine

/-! ## One argument -/

/-- What an argument is by its looks. -/
inductive Argument where
  /-- An option with its value. -/
  | assigned (setting : Setting) (value : String)
  /-- An option whose value follows. -/
  | opening (setting : Setting)
  | dryRun
  | help
  /-- Two dashes: only operands follow. -/
  | terminator
  /-- Anything else.  There are no operands, so none is welcome. -/
  | stray
deriving DecidableEq, Repr

/-- The setting of an option's name; names are not shortened. -/
def settingOf? (name : List Char) : Option Setting :=
  Setting.all.find? fun s => s.name.toList = name

/-- What stands behind two dashes, with a value behind the first equals sign. -/
def longOption (name : List Char) : Option (List Char) → Argument
  | some value =>
    match settingOf? name with
    | some s => .assigned s (.ofList value)
    | none => .stray
  | none =>
    if name = [] then .terminator
    else if name = "dry-run".toList then .dryRun
    else if name = "help".toList then .help
    else
      match settingOf? name with
      | some s => .opening s
      | none => .stray

/-- The text behind the first equals sign. -/
def valuePart (s : List Char) : Option (List Char) :=
  match s.dropWhile (· ≠ '=') with
  | [] => none
  | _ :: value => some value

/-- An argument by its looks.  Of options with one dash there is `-h`, and letters may
follow it. -/
def Argument.ofText (a : String) : Argument :=
  match a.toList with
  | '-' :: '-' :: s => longOption (s.takeWhile (· ≠ '=')) (valuePart s)
  | '-' :: 'h' :: _ => .help
  | _ => .stray

/-- An argument may be the value of the option before it. -/
def isValue (a : String) : Bool := a = "-" || a.toList.head? ≠ some '-'

/-! ## All of them -/

/-- The options that have been given. -/
structure Given where
  values : List (Setting × String)
  dryRun : Bool
deriving DecidableEq, Repr

def Given.none : Given := ⟨[], false⟩

def Given.value? (g : Given) (s : Setting) : Option String :=
  (g.values.find? fun v => v.1 = s).map Prod.snd

/-- Gives a setting a value: one that it may have, and its first. -/
def Given.give (g : Given) (s : Setting) (v : String) : Option Given :=
  if (g.value? s).isNone && s.admits v then some { g with values := g.values ++ [(s, v)] }
  else Option.none

/-- What arguments come to. -/
inductive Reading where
  | help
  | rejected
  | accepted (given : Given)
deriving DecidableEq, Repr

/-- Reads arguments, with some options given already. -/
def Reading.ofArguments (g : Given) : List String → Reading
  | [] => .accepted g
  | a :: rest =>
    match Argument.ofText a with
    | .help => .help
    | .stray => .rejected
    | .terminator => if rest = [] then .accepted g else .rejected
    | .dryRun => if g.dryRun then .rejected else ofArguments { g with dryRun := true } rest
    | .assigned s v =>
      match g.give s v with
      | Option.none => .rejected
      | some g => ofArguments g rest
    | .opening s =>
      match rest with
      | [] => .rejected
      | v :: rest =>
        if isValue v then
          match g.give s v with
          | Option.none => .rejected
          | some g => ofArguments g rest
        else .rejected

/-! ## What is wanted -/

structure Invocation where
  provider : Provider
  region : Option String
  options : Sync.Options
deriving DecidableEq, Repr

/-- The value of a setting, given or not. -/
def Given.valueOf (g : Given) (s : Setting) : String :=
  (g.value? s).getD (s.default?.getD "")

def Given.invocation (g : Given) : Invocation where
  provider := (Provider.ofName? false (g.valueOf .provider)).getD Provider.default
  region := g.value? .region
  options :=
    { secret := ⟨g.valueOf .project, g.valueOf .secret, g.valueOf .version⟩
      envFile := g.valueOf .envFile
      keyField := g.valueOf .keyField
      dryRun := g.dryRun }

end EnvSync.CommandLine
