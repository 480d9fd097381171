import FluentBuilders.Declaration
import FluentBuilders.Failure
import FluentBuilders.Text.Identifier
import FluentBuilders.Text.Normalization

/-!
Which lists of properties a builder can expose. Names count as the same when their normal forms are;
the order stays as it is.

1. Reserved names.
2. `enumerate`: the list itself, or the error of the first property that cannot stand where it does.
-/

namespace FluentBuilders

open Text

/-! ## 1. Reserved names -/

/-- The attribute that holds the values set on a builder. -/
def valueStore : String := "_values"

/-- Whether a builder has a member of its own under the name; all names that start with two
underscores count as taken. -/
def isReserved (name : String) : Bool :=
  name == "build" || name == valueStore || ['_', '_'].isPrefixOf name.toList

/-! ## 2. Enumeration -/

/-- What keeps a property of the declaration `owner` from standing after properties whose normal forms
are `seen`. -/
def propertyError? (owner : String) (seen : List String) (p : Property) : Option GenerationError :=
  let key := normalize p.name
  if !isIdentifier key || isKeyword key then
    some (.invalid owner ("property name " ++ quoted p.name ++ " is not an identifier"))
  else if isReserved key then some (.reserved owner p.name)
  else if seen.contains key then some (.duplicate owner p.name)
  else none

/-- The error of the first property that cannot stand where it does. -/
def firstError? (owner : String) (seen : List String) : List Property → Option GenerationError
  | [] => none
  | p :: rest =>
    match propertyError? owner seen p with
    | some e => some e
    | none => firstError? owner (normalize p.name :: seen) rest

/-- The properties of the declaration `owner` as they are, if a builder can expose all of them. -/
def enumerate (owner : String) (properties : List Property) :
    Except GenerationError (List Property) :=
  match firstError? owner [] properties with
  | some e => .error e
  | none => .ok properties

end FluentBuilders
