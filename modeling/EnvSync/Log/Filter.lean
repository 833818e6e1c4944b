/-
# Which events are logged

A filter is a list of directives.  For an event one of those that apply to it counts,
and where none applies nothing is logged.  A filter is written as directives with
commas between them.
-/
import EnvSync.Log.Directive

namespace EnvSync.Log

abbrev Filter := List Directive

namespace Filter

/-- The directive that counts for an event. -/
def directiveFor (f : Filter) (e : Event) : Option Directive :=
  f.foldl (fun best d =>
    if d.applies e then
      match best with
      | none => some d
      | some b => if b.yieldsTo d then some d else some b
    else best) none

def admits (f : Filter) (e : Event) : Bool :=
  match f.directiveFor e with
  | none => false
  | some d => e.level.passes d.threshold

def lines (f : Filter) (es : List Event) : List String :=
  (es.filter f.admits).map Event.line

/-! ## Filters as they are written -/

/-- The filter of a text, if all its pieces are directives.  Empty pieces do not count;
without a piece that does, errors are logged. -/
def ofText (s : String) : Except Fault Filter :=
  let pieces := (Text.split ',' s.toList).filter (· ≠ [])
  if pieces = [] then .ok [.everywhere (some .error)] else pieces.mapM Directive.ofPiece

/-- The filter where none is given: down to information. -/
def default : Filter := [.everywhere (some .info)]

/-- The filter in force for the text that is given, if one is.  A malformed text counts as
none.  With one that would have to be cut inside a character no run can start. -/
def inForce : Option String → Option Filter
  | none => some default
  | some s =>
    match ofText s with
    | .ok f => some f
    | .error .malformed => some default
    | .error .insideCharacter => none

end Filter
end EnvSync.Log
