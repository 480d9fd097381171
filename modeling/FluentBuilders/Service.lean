import FluentBuilders.Generation

/-!
The generator as a service.

1. `ServiceError`: what is answered instead of a result.
2. Previews: the builder of one class that is described in the request, with no file involved.
3. Runs over a tree, with the service's own settings where the request leaves something open.
4. Health.
-/

namespace FluentBuilders

namespace Service

/-! ## 1. Errors -/

/-- An answer other than the result. -/
inductive ServiceError
  /-- The request does not have the form asked for. -/
  | malformed (faults : List ValidationFault)
  /-- The request has it and cannot be met, with the status of the answer and its words. -/
  | refused (status : Nat) (message : String)
  deriving DecidableEq, Repr, Inhabited

/-- A request that has the form asked for. -/
def checked {α : Type} (read : FieldReader α) (body : Json) : Except ServiceError α :=
  match read body with
  | .ok a => .ok a
  | .faults all => .error (.malformed all)

/-! ## 2. Previews -/

/-- A class described in a request. -/
structure PreviewRequest where
  name : String
  package : String
  sourceModule : Option String
  properties : List Property
  deriving DecidableEq, Repr, Inhabited

/-- A builder. -/
structure Preview where
  module : String
  typeName : String
  text : String
  deriving DecidableEq, Repr, Inhabited

/-- A property. -/
def readProperty : FieldReader Property :=
  readObject fun j => Property.mk <$> required j "name" readText <*> required j "type" readText

/-- A request for a preview. -/
def readPreviewRequest : FieldReader PreviewRequest :=
  readObject fun j =>
    PreviewRequest.mk <$> required j "name" readText
      <*> withDefault j "namespace" "" readText
      <*> optionalText j "source_module"
      <*> withDefault j "properties" [] (readList readProperty)

/-- The declaration that a request describes. Its module is the package where none is given. -/
def PreviewRequest.declaration (r : PreviewRequest) : Declaration where
  package := r.package
  name := r.name
  module := if (r.sourceModule.getD "").isEmpty then r.package else r.sourceModule.getD ""
  files := []
  state := .resolved
  invalidReasons := []

/-- A resolver that answers for one request whatever it is asked about. -/
def PreviewRequest.resolver (r : PreviewRequest) : Resolver where
  isReady _ := .ok true
  properties _ := .ok r.properties
  originatingFiles _ := .ok []

/-- The builder that a request asks for, or why there is none. -/
def PreviewRequest.render (r : PreviewRequest) : Except Failure Preview :=
  match r.declaration.exposed r.resolver with
  | .error e => .error e
  | .ok properties =>
    match (Blueprint.mk r.name r.package properties r.sourceModule).render with
    | .error fault => .error (.badValue fault.message)
    | .ok text => .ok ⟨builderModule r.package r.name, builderTypeName r.name, text⟩

/-- Answers a request for a preview. -/
def preview (body : Json) : Except ServiceError Preview :=
  match checked readPreviewRequest body with
  | .error e => .error e
  | .ok r =>
    match r.render with
    | .ok p => .ok p
    | .error e => .error (.refused 422 e.message)

/-! ## 3. Runs -/

/-- The service's own settings. -/
structure Settings where
  sourceRoot : String
  outputDirectory : Option String
  reportDirectory : Option String
  workers : Int
  deriving DecidableEq, Repr, Inhabited

/-- A request for a run. -/
structure RunRequest where
  sourceRoot : Option String
  outputDirectory : Option String
  reportDirectory : Option String
  check : Bool
  deriving DecidableEq, Repr, Inhabited

/-- A request for a run. -/
def readRunRequest : FieldReader RunRequest :=
  readObject fun j =>
    RunRequest.mk <$> optionalText j "source_root"
      <*> optionalText j "output_dir"
      <*> optionalText j "report_dir"
      <*> withDefault j "check" false readBool

/-- A text that says something. -/
def given (s : Option String) : Option String := s.filter fun s => !s.isEmpty

/-- What a request asks a run to do. -/
def RunRequest.generation (r : RunRequest) (settings : Settings) (time : String) :
    Generation.Request where
  sourceRoot := .ofText ((given r.sourceRoot).getD settings.sourceRoot)
  outputDirectory := (given (given r.outputDirectory <|> settings.outputDirectory)).map .ofText
  reportDirectory := (given (given r.reportDirectory <|> settings.reportDirectory)).map .ofText
  profile := .standard
  check := r.check
  workers := settings.workers
  time := time

/-- Answers a request for a run. -/
def run (body : Json) (settings : Settings) (time : String) (t : FileTree) :
    Except ServiceError Report × FileTree :=
  match checked readRunRequest body with
  | .error e => (.error e, t)
  | .ok r =>
    let request := r.generation settings time
    if t.isDirectory request.sourceRoot then
      match Generation.run request (fun _ => false) t with
      | (.ok (report, _), t) => (.ok report, t)
      | (.error e, t) => (.error (.refused 500 ("builder_gen failed: " ++ e.message)), t)
    else (.error (.refused 404 ("Source root not found: " ++ request.sourceRoot.text)), t)

/-- The answer to a request for a run. -/
def answer (r : Report) : Json :=
  .object
    [("package_name", .text toolName),
      ("generator_version", .text generatorVersion),
      ("schema_version", .text schemaVersion),
      ("profile_id", .text r.profileId),
      ("source_root", .text r.sourceRoot),
      ("rounds", .nat r.rounds.length),
      ("counts", r.counts.toJson),
      ("declarations", .list (r.declarations.map DeclarationReport.toJson)),
      ("written", .texts r.written),
      ("stale_artifacts", .texts r.staleArtifacts),
      ("removed_orphans", .texts r.removedOrphans),
      ("source_errors", .texts r.sourceErrors)]

/-! ## 4. Health -/

/-- Whether the service is up, and whether its source root is there. -/
def health (settings : Settings) (t : FileTree) : Json :=
  .object
    [("status", .text "healthy"),
      ("generator_version", .text generatorVersion),
      ("marker", .text marker),
      ("source_root", .text settings.sourceRoot),
      ("source_root_present", .bool (t.isDirectory (.ofText settings.sourceRoot)))]

end Service

end FluentBuilders
