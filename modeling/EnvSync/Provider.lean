/-
# Providers

The kinds of backend that can be chosen by name.
-/
namespace EnvSync

inductive Provider where
  | gcp
  | aws
deriving DecidableEq, Repr

namespace Provider

/-- The providers in the order in which they are listed. -/
def all : List Provider := [gcp, aws]

def default : Provider := gcp

/-- The name by which a provider is chosen and shown. -/
def name : Provider → String
  | gcp => "gcp"
  | aws => "aws"

/-- The provider of a name.  Names are in lower case; where the case of ASCII letters
is ignored, the name is put in lower case first. -/
def ofName? (ignoreCase : Bool) (s : String) : Option Provider :=
  all.find? fun p => p.name = if ignoreCase then s.map Char.toLower else s

end Provider
end EnvSync
