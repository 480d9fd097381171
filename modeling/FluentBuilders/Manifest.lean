import FluentBuilders.Digest
import FluentBuilders.Json.Printer
import FluentBuilders.Json.Reader
import FluentBuilders.Rounds
import FluentBuilders.Text.Integer
import FluentBuilders.Validation

/-!
The manifest: the builders of a run with the files that they were made from. The next run reads it
back.

1. `ManifestEntry`, `Manifest`.
2. Versions of the layout.
3. Written form.
4. Reading back: a manifest that is missing, broken or too old counts as none.
5. The manifest of a run.
-/

namespace FluentBuilders

open Text

/-! ## 1. Manifests -/

/-- A builder of a run. -/
structure ManifestEntry where
  module : String
  typeName : String
  package : String
  /-- The qualified name of the declaration it was made for. -/
  source : String
  path : Option String
  /-- The digest of its text. -/
  digest : String
  aggregating : Bool
  dependencies : List FileHandle
  deriving DecidableEq, Repr, Inhabited

/-- The builders of a run. -/
structure Manifest where
  toolName : String
  generatorVersion : String
  schemaVersion : String
  profileId : String
  artifacts : List ManifestEntry
  deriving DecidableEq, Repr, Inhabited

/-! ## 2. Versions -/

/-- Why a version of the layout is not accepted. -/
inductive VersionFault
  | malformed (version : String)
  | tooOld (version : String)
  deriving DecidableEq, Repr, Inhabited

/-- The fault in words. -/
def VersionFault.message : VersionFault → String
  | malformed version => "malformed schema_version " ++ quoted version
  | tooOld version => "manifest schema_version " ++ version ++ " is older than 0.1"

/-- The numbers of a version. -/
def versionNumbers? (version : String) : Option (List Int) :=
  (dottedParts version).mapM readInteger

/-- The oldest layout that is read back. -/
def oldestLayout : List Int := [0, 1]

/-- What keeps a version from being accepted. -/
def versionFault? (version : String) : Option VersionFault :=
  match versionNumbers? version with
  | none => some (.malformed version)
  | some numbers => if numbers < oldestLayout then some (.tooOld version) else none

/-! ## 3. Written form -/

/-- A file as a value. -/
def FileHandle.toJson (f : FileHandle) : Json :=
  .object [("path", .text f.path), ("sha256", .text f.digest)]

/-- An entry as a value. -/
def ManifestEntry.toJson (e : ManifestEntry) : Json :=
  .object
    [("module", .text e.module),
      ("type_name", .text e.typeName),
      ("namespace", .text e.package),
      ("source", .text e.source),
      ("path", .ofText? e.path),
      ("sha256", .text e.digest),
      ("aggregating", .bool e.aggregating),
      ("dependencies", .list (e.dependencies.map FileHandle.toJson))]

/-- A manifest as a value. -/
def Manifest.toJson (m : Manifest) : Json :=
  .object
    [("package_name", .text m.toolName),
      ("generator_version", .text m.generatorVersion),
      ("schema_version", .text m.schemaVersion),
      ("profile_id", .text m.profileId),
      ("artifacts", .list (m.artifacts.map ManifestEntry.toJson))]

/-- A manifest as a text. -/
def Manifest.text (m : Manifest) : String := m.toJson.pretty ++ "\n"

/-! ## 4. Reading back -/

/-- A version of the layout that is accepted. -/
def readVersion : FieldReader String
  | .text s => if (versionFault? s).isNone then .ok s else .fault .valueError
  | _ => .fault .stringType

/-- A file. -/
def readFileHandle : FieldReader FileHandle :=
  readObject fun j =>
    FileHandle.mk <$> required j "path" readText <*> withDefault j "sha256" "" readText

/-- An entry of a manifest. -/
def readEntry : FieldReader ManifestEntry :=
  readObject fun j =>
    ManifestEntry.mk <$> required j "module" readText
      <*> required j "type_name" readText
      <*> required j "namespace" readText
      <*> required j "source" readText
      <*> optionalText j "path"
      <*> required j "sha256" readText
      <*> withDefault j "aggregating" false readBool
      <*> withDefault j "dependencies" [] (readList readFileHandle)

/-- A manifest. -/
def readManifest : FieldReader Manifest :=
  readObject fun j =>
    Manifest.mk <$> withDefault j "package_name" FluentBuilders.toolName readText
      <*> withDefault j "generator_version" FluentBuilders.generatorVersion readText
      <*> withDefault j "schema_version" FluentBuilders.schemaVersion readVersion
      <*> required j "profile_id" readText
      <*> withDefault j "artifacts" [] (readList readEntry)

/-- The manifest that a text holds. -/
def Manifest.ofText? (s : String) : Option Manifest :=
  (Json.read? s).bind fun j => (readManifest j).result?

/-- The manifest in a file. -/
def Manifest.load? (t : FileTree) (p : FilePath) : Option Manifest :=
  if t.isFile p then
    match t.readText p with
    | .ok s => Manifest.ofText? s
    | .error _ => none
  else none

/-! ## 5. The manifest of a run -/

/-- The entry of an artifact. -/
def ManifestEntry.ofArtifact (published : Table Published) (a : Artifact) : ManifestEntry where
  module := a.module
  typeName := a.typeName
  package := a.package
  source := a.source
  path := (published.get? a.module).map (·.path)
  digest := Digest.ofText a.text
  aggregating := a.aggregating
  dependencies := a.dependencies

/-- A manifest in the layout of this version. -/
def Manifest.current (profileId : String) (artifacts : List ManifestEntry) : Manifest :=
  ⟨FluentBuilders.toolName, FluentBuilders.generatorVersion, FluentBuilders.schemaVersion, profileId,
    artifacts⟩

/-- The manifest of a run: its artifacts in the order of their modules. -/
def Manifest.ofRun (profile : Profile) (run : Run) : Manifest :=
  .current profile.id
    ((sortByKey (·.module) run.artifacts).map (ManifestEntry.ofArtifact run.published))

end FluentBuilders
