/-!
What is fixed about every run: the names under which the tool signs its output, and the `Profile`.

1. Names and versions.
2. Profiles.
-/

namespace FluentBuilders

/-! ## 1. Names and versions -/

/-- The name under which the tool signs its output. -/
def toolName : String := "builder_gen"

/-- The version of the rules by which builders are written. -/
def generatorVersion : String := "v0"

/-- The version of the layout of manifests and reports. -/
def schemaVersion : String := "0.1"

/-- The qualified name of the decorator that asks for a builder. -/
def marker : String := "builder_gen.marker.builder"

/-- How the first line of every builder starts. -/
def generatedHeader : String := "# Generated by " ++ toolName

/-! ## 2. Profiles -/

/-- The settings of a run that are not its caller's. -/
structure Profile where
  id : String
  marker : String
  /-- After this many rounds a run ends whatever is left. -/
  maxRounds : Int
  /-- The directory for manifest and report below the output directory. -/
  reportDirectory : String
  /-- Directories that hold no sources. -/
  skippedDirectories : List String
  deriving DecidableEq, Repr, Inhabited

/-- The one profile that runs have. -/
def Profile.standard : Profile where
  id := "builder-gen-python-v0"
  marker := FluentBuilders.marker
  maxRounds := 10
  reportDirectory := ".builder_gen"
  skippedDirectories := ["__pycache__", "build", "dist", "node_modules"]

end FluentBuilders
