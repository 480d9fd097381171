/-!
What a run works on.

1. `FileHandle`: a source file as it was when it was read.
2. `Property`, `Declaration`: a class that asks for a builder, and the fields of its constructor.
3. `Artifact`: the module of a builder.
-/

namespace FluentBuilders

/-! ## 1. Files -/

/-- A source file, known by its path and the digest of its content. -/
structure FileHandle where
  path : String
  digest : String
  deriving DecidableEq, Repr, Inhabited

/-! ## 2. Declarations -/

/-- A field of a constructor; the type is the annotation as it was written. -/
structure Property where
  name : String
  type : String
  deriving DecidableEq, Repr, Inhabited

/-- What was known about a declaration when it was found. -/
inductive ResolutionState
  | unresolved
  | resolved
  | invalid
  deriving DecidableEq, Repr, Inhabited

/-- The state as one word. -/
def ResolutionState.label : ResolutionState → String
  | .unresolved => "UNRESOLVED"
  | .resolved => "RESOLVED"
  | .invalid => "INVALID"

/-- The state that a word names. -/
def ResolutionState.ofLabel? (s : String) : Option ResolutionState :=
  [ResolutionState.unresolved, .resolved, .invalid].find? fun state => state.label == s

/-- A class that carries the marker. -/
structure Declaration where
  /-- The package that the builder belongs to, empty at the top. -/
  package : String
  name : String
  /-- The module that defines the class. -/
  module : String
  files : List FileHandle
  state : ResolutionState
  /-- Why the class never gets a builder, where that is known. -/
  invalidReasons : List String
  deriving DecidableEq, Repr, Inhabited

/-- The name under which a declaration is known to a whole run. -/
def Declaration.qualifiedName (d : Declaration) : String :=
  if d.module.isEmpty then d.name else d.module ++ "." ++ d.name

/-! ## 3. Artifacts -/

/-- The module of a builder, with the files that it was made from. -/
structure Artifact where
  package : String
  typeName : String
  module : String
  text : String
  /-- The qualified name of the declaration it was made for. -/
  source : String
  dependencies : List FileHandle
  /-- Whether a change of any file at all would make it out of date. -/
  aggregating : Bool
  deriving DecidableEq, Repr, Inhabited

end FluentBuilders
