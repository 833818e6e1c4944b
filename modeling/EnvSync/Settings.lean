/-
# Settings

What an env file and a secret bundle both hold: named texts, in an order that is
kept.  A name occurs once.
-/
import EnvSync.OrderedMap.Basic

namespace EnvSync

/-- Named texts in the order in which the names first came. -/
abbrev Settings := OrderedMap String String

/-- The names of `bundle` that `existing` lacks, and those that it has, each in the
order of `bundle`. -/
def Settings.classify (existing bundle : Settings) : List String × List String :=
  (bundle.keys.filter (· ∉ existing), bundle.keys.filter (· ∈ existing))

end EnvSync
