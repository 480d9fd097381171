import FluentBuilders.FileTree.Fault
import FluentBuilders.Text.Utf8

/-!
Why something could not be done, as causes; the wording of each is one function.

1. `Reason`: the tags under which reports list causes.
2. `GenerationError`: why one declaration gets no builder.
3. `Failure`: all that a step of generation can end with.
4. `WriteFailure`, `MissingField`: failures of publishing and of finished builders.
-/

namespace FluentBuilders

open Text

/-! ## 1. Tags -/

namespace Reason

def unresolvedSymbol : String := "UNRESOLVED_SYMBOL"
def cancelled : String := "CANCELLED"
def invalidDeclaration : String := "INVALID_DECLARATION"
def markerOnNonClass : String := "MARKER_ON_NON_CLASS"
def nestedDeclaration : String := "NESTED_DECLARATION"
def parseError : String := "DECLARATION_PARSE_ERROR"
def duplicateProperty : String := "DUPLICATE_PROPERTY"
def reservedPropertyName : String := "RESERVED_PROPERTY_NAME"
def nameCollision : String := "BUILDER_NAME_COLLISION"
def writeFailure : String := "ARTIFACT_WRITE_FAILURE"
def internalError : String := "INTERNAL_ERROR"
def generationError : String := "GENERATION_ERROR"

end Reason

/-! ## 2. Errors of one declaration -/

/-- Why a declaration gets no builder, now or ever. -/
inductive GenerationError
  /-- It refers to symbols that nothing supplies yet. -/
  | unresolved (declaration : String) (symbols : List String)
  /-- It is malformed. -/
  | invalid (declaration message : String)
  /-- Two of its properties have the same name once both are normalized. -/
  | duplicate (declaration property : String)
  /-- A property has the name of a member that every builder has. -/
  | reserved (declaration property : String)
  | other (message : String)
  deriving DecidableEq, Repr, Inhabited

namespace GenerationError

/-- The tag of the error. -/
def reason : GenerationError → String
  | unresolved .. => Reason.unresolvedSymbol
  | invalid .. => Reason.invalidDeclaration
  | duplicate .. => Reason.duplicateProperty
  | reserved .. => Reason.reservedPropertyName
  | other _ => Reason.generationError

/-- The error in words. -/
def message : GenerationError → String
  | unresolved declaration symbols =>
    declaration ++ ": unresolved " ++
      if symbols.isEmpty then "unknown symbol" else ", ".intercalate symbols
  | invalid declaration message => declaration ++ ": " ++ message
  | duplicate declaration property => declaration ++ ": duplicate property " ++ quoted property
  | reserved declaration property =>
    declaration ++ ": property name " ++ quoted property ++ " is reserved"
  | other message => message

end GenerationError

/-! ## 3. Failures of a step -/

/-- What a step of generation can end with instead of its result. -/
inductive Failure
  | generation (e : GenerationError)
  /-- A value that the step cannot work with. -/
  | badValue (message : String)
  /-- A file that is no text. -/
  | undecodable (e : Utf8Error)
  /-- The file system refused. -/
  | fileSystem (e : FileFault)
  /-- Anything else, from outside. -/
  | crash (message : String)
  deriving DecidableEq, Repr, Inhabited

/-- The failure in words. -/
def Failure.message : Failure → String
  | .generation e => e.message
  | .badValue message => message
  | .undecodable e => e.message
  | .fileSystem e => e.message
  | .crash message => message

/-! ## 4. Failures elsewhere -/

/-- An artifact could not be published. -/
structure WriteFailure where
  path : String
  cause : String
  deriving DecidableEq, Repr, Inhabited

/-- The failure in words. -/
def WriteFailure.message (f : WriteFailure) : String :=
  "failed to write " ++ f.path ++ ": " ++ f.cause

/-- A finished builder was asked for its object before a field was set. -/
structure MissingField where
  name : String
  deriving DecidableEq, Repr, Inhabited

/-- The failure in words. -/
def MissingField.message (f : MissingField) : String := f.name ++ " must be provided"

end FluentBuilders
