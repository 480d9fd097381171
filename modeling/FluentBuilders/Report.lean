import FluentBuilders.Manifest

/-!
The report: what a run did to each declaration.

1. `DeclarationReport`, `Counts`, `Report`.
2. The report of a run.
3. Written form.
-/

namespace FluentBuilders

/-! ## 1. Reports -/

/-- What became of a declaration in the end. -/
structure DeclarationReport where
  qualifiedName : String
  package : String
  name : String
  status : Status
  round : Nat
  reasons : List String
  artifactModule : Option String
  unresolvedSymbols : List String
  error : Option String
  deriving DecidableEq, Repr, Inhabited

/-- How many declarations ended how. -/
structure Counts where
  total : Nat
  generated : Nat
  invalid : Nat
  failed : Nat
  unresolved : Nat
  deriving DecidableEq, Repr, Inhabited

/-- What a run did. -/
structure Report where
  profileId : String
  marker : String
  sourceRoot : String
  outputDirectory : String
  /-- Whether nothing was to be written. -/
  checkOnly : Bool
  rounds : List RoundReport
  declarations : List DeclarationReport
  counts : Counts
  written : List String
  unchanged : List String
  staleArtifacts : List String
  removedOrphans : List String
  sourceErrors : List String
  deriving DecidableEq, Repr, Inhabited

/-! ## 2. The report of a run -/

/-- The report on a declaration; `waiting` holds the names of those that a run left unresolved. -/
def DeclarationReport.ofOutcome (g : Registry) (waiting : List String) (qualifiedName : String)
    (round : Nat) (o : Outcome) : DeclarationReport :=
  let left := waiting.contains qualifiedName || o.status == .deferred
  { qualifiedName := qualifiedName
    package := o.declaration.package
    name := o.declaration.name
    status := if left then .unresolved else o.status
    round := round
    reasons := o.reasons
    artifactModule := o.artifactModule
    unresolvedSymbols := if left then g.unresolvedSymbols o.declaration else []
    error := o.error }

/-- The numbers of a list of declarations. -/
def Counts.ofReports (reports : List DeclarationReport) : Counts where
  total := reports.length
  generated := reports.countP (·.status == .generated)
  invalid := reports.countP (·.status == .invalid)
  failed := reports.countP fun r =>
    !(r.status == .generated || r.status == .invalid || r.status == .unresolved)
  unresolved := reports.countP (·.status == .unresolved)

/-- The reports on the declarations of a run, in the order of their names. -/
def Run.declarationReports (run : Run) (g : Registry) : List DeclarationReport :=
  let waiting := run.unresolved.map (·.qualifiedName)
  (sortByKey (·.1) run.outcomes.entries).map fun (name, round, o) =>
    .ofOutcome g waiting name round o

/-- The paths of published artifacts that were changed, or were not. -/
def Run.publishedPaths (run : Run) (changed : Bool) : List String :=
  sortTexts ((run.published.values.filter (·.changed == changed)).map (·.path))

/-- The report of a run, before orphans are looked for. -/
def Report.ofRun (profile : Profile) (sourceRoot outputDirectory : String) (check : Bool)
    (sourceErrors : List String) (run : Run) (g : Registry) : Report :=
  let declarations := run.declarationReports g
  { profileId := profile.id
    marker := profile.marker
    sourceRoot := sourceRoot
    outputDirectory := outputDirectory
    checkOnly := check
    rounds := run.rounds
    declarations := declarations
    counts := .ofReports declarations
    written := if check then [] else run.publishedPaths true
    unchanged := if check then [] else run.publishedPaths false
    staleArtifacts := if check then run.publishedPaths true else []
    removedOrphans := []
    sourceErrors := sourceErrors }

/-! ## 3. Written form -/

/-- A round as a value. -/
def RoundReport.toJson (r : RoundReport) : Json :=
  .object
    [("round", .nat r.round),
      ("candidates", .nat r.candidates),
      ("generated", .nat r.generated),
      ("deferred", .nat r.deferred),
      ("invalid", .nat r.invalid),
      ("failed", .nat r.failed),
      ("cancelled", .bool r.cancelled)]

/-- A declaration as a value. -/
def DeclarationReport.toJson (r : DeclarationReport) : Json :=
  .object
    [("qualified_name", .text r.qualifiedName),
      ("namespace", .text r.package),
      ("name", .text r.name),
      ("status", .text r.status.label),
      ("round", .nat r.round),
      ("reasons", .texts r.reasons),
      ("artifact_module", .ofText? r.artifactModule),
      ("unresolved_symbols", .texts r.unresolvedSymbols),
      ("error", .ofText? r.error)]

/-- The numbers as a value. -/
def Counts.toJson (c : Counts) : Json :=
  .object
    [("total", .nat c.total),
      ("generated", .nat c.generated),
      ("invalid", .nat c.invalid),
      ("failed", .nat c.failed),
      ("unresolved", .nat c.unresolved)]

/-- The members of a report, the time of the run apart. -/
def Report.members (r : Report) : List (String × Json) :=
  [("package_name", .text toolName),
    ("generator_version", .text generatorVersion),
    ("schema_version", .text schemaVersion),
    ("profile_id", .text r.profileId),
    ("marker", .text r.marker),
    ("source_root", .text r.sourceRoot),
    ("output_dir", .text r.outputDirectory),
    ("check_only", .bool r.checkOnly),
    ("rounds", .list (r.rounds.map RoundReport.toJson)),
    ("declarations", .list (r.declarations.map DeclarationReport.toJson)),
    ("counts", r.counts.toJson),
    ("written", .texts r.written),
    ("unchanged", .texts r.unchanged),
    ("stale_artifacts", .texts r.staleArtifacts),
    ("removed_orphans", .texts r.removedOrphans),
    ("source_errors", .texts r.sourceErrors)]

/-- A report as a text, with the time of the run. -/
def Report.text (r : Report) (time : String) : String :=
  (Json.object (r.members ++ [("timestamp", .text time)])).pretty ++ "\n"

end FluentBuilders
