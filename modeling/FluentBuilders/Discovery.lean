import FluentBuilders.FileTree
import FluentBuilders.Profile
import FluentBuilders.Sorting

/-!
The modules below a directory.

1. `moduleOf?`: the module that a file holds, from its names below the source root.
2. `discover`: the modules of a tree, in the order of their paths.
-/

namespace FluentBuilders

open Text

/-! ## 1. Modules of files -/

/-- The ending of a source file. -/
def sourceEnding : List Char := ['.', 'p', 'y']

/-- The name of a source file without its ending. -/
def stem? (name : String) : Option String :=
  if sourceEnding.isSuffixOf name.toList then
    some (String.ofList (name.toList.take (name.toList.length - sourceEnding.length)))
  else none

/-- The file that makes a directory a package. -/
def packageStem : String := "__init__"

/-- The module at the names below the source root, and whether it is a package. All its names have to
be identifiers. -/
def moduleOf? (below : List String) : Option (String × Bool) :=
  match (below.getLast?).bind stem? with
  | none => none
  | some stem =>
    let isPackage := stem == packageStem
    let parts := if isPackage then below.dropLast else below.dropLast ++ [stem]
    if parts.isEmpty || !parts.all isIdentifier then none else some (joinDotted parts, isPackage)

/-- Whether a directory holds no sources: its name starts with a dot, or the profile says so. -/
def isSkipped (profile : Profile) (directory : String) : Bool :=
  ['.'].isPrefixOf directory.toList || profile.skippedDirectories.contains directory

/-! ## 2. Discovery -/

/-- A module that was found. -/
structure SourceFile where
  /-- The names below the source root. -/
  below : List String
  module : String
  isPackage : Bool
  deriving DecidableEq, Repr, Inhabited

/-- The module of an entry below the source root, unless a directory on the way is skipped. -/
def sourceFile? (profile : Profile) (below : List String) : Option SourceFile :=
  if below.dropLast.any (isSkipped profile) then none
  else (moduleOf? below).map fun (module, isPackage) => ⟨below, module, isPackage⟩

/-- The modules below a source root, in the order of their paths name by name. -/
def discover (t : FileTree) (root : FilePath) (profile : Profile) : List SourceFile :=
  if t.isDirectory root then
    let start := t.locate root
    let found := (t.below start).filterMap fun (l, _) => sourceFile? profile (l.drop start.length)
    sortItems (fun a b => decide (¬ b.below < a.below)) found
  else []

/-- The path of a module below its source root. -/
def SourceFile.path (f : SourceFile) (root : FilePath) : FilePath := ⟨root.absolute, root.parts ++ f.below⟩

end FluentBuilders
