import FluentBuilders.Discovery
import FluentBuilders.Report

/-!
A run over a tree of sources: their modules are loaded, builders are generated and published, and
manifest and report tell the next run and the reader about it.

1. `Request`: what a run is asked to do.
2. Loading the modules below the source root.
3. Orphans: builders of the run before that have no source any more.
4. Writing manifest and report.
5. `Generation.run`.
-/

namespace FluentBuilders

open Text

namespace Generation

/-! ## 1. Requests -/

/-- What a run is asked to do. -/
structure Request where
  sourceRoot : FilePath
  /-- Where builders go; beside their packages if nothing is said. -/
  outputDirectory : Option FilePath
  /-- Where manifest and report go; below the output directory if nothing is said. -/
  reportDirectory : Option FilePath
  profile : Profile
  /-- Whether nothing is to be written. -/
  check : Bool
  workers : Int
  /-- The time that the report gives. -/
  time : String
  deriving Repr, Inhabited

/-- The source root from the top. -/
def Request.root (r : Request) (t : FileTree) : FilePath := t.resolve r.sourceRoot

/-- The output directory from the top. -/
def Request.output (r : Request) (t : FileTree) : FilePath :=
  t.resolve (r.outputDirectory.getD (r.root t))

/-- The directory of manifest and report. -/
def Request.reports (r : Request) (t : FileTree) : FilePath :=
  r.reportDirectory.getD ((r.output t).child r.profile.reportDirectory)

/-! ## 2. Loading -/

/-- The registry with a module that was found, or why it could not be loaded. -/
def loadOne (t : FileTree) (root : FilePath) (g : Registry) (f : SourceFile) :
    Except Failure Registry :=
  match t.readBytes (f.path root) with
  | .error fault => .error (.fileSystem fault)
  | .ok content => g.addBytes content f.module (f.path root).text f.isPackage

/-- The registry with the modules that were found; builders are passed over. What cannot be loaded is
listed. -/
def loadAll (t : FileTree) (root : FilePath) (g : Registry) :
    List SourceFile → Registry × List String
  | [] => (g, [])
  | f :: rest =>
    if t.isGenerated (f.path root) then loadAll t root g rest
    else
      match loadOne t root g f with
      | .ok g => loadAll t root g rest
      | .error e =>
        let (g, errors) := loadAll t root g rest
        (g, ((f.path root).text ++ ": " ++ e.message) :: errors)

/-- The registry of the modules below a source root, and what could not be loaded. -/
def load (t : FileTree) (root : FilePath) (profile : Profile) : Registry × List String :=
  loadAll t root .empty (discover t root profile)

/-! ## 3. Orphans -/

/-- The digest of the file at a path, if there is one. -/
def digestAt (t : FileTree) (path : String) : Option String :=
  if t.isFile (.ofText path) then
    match t.readBytes (.ofText path) with
    | .ok content => some (Digest.sha256 content)
    | .error _ => none
  else none

/-- Whether a builder of the run before has no source any more. -/
def isOrphan (t : FileTree) (current : List String) (e : ManifestEntry) : Bool :=
  !current.contains e.module && isStale e.dependencies (digestAt t)

/-- Removes the builders of the run before that have no source any more; what does not start as
builders do stays. The answer lists what was removed. -/
def removeOrphans (current : List String) (output : FilePath) :
    List ManifestEntry → FileTree → List String × FileTree
  | [], t => ([], t)
  | e :: rest, t =>
    let p := artifactPath output e.module
    if isOrphan t current e && t.isFile p && t.isGenerated p then
      let (removed, t) := removeOrphans current output rest (t.erase (t.locate p))
      (p.text :: removed, t)
    else removeOrphans current output rest t

/-! ## 4. Outputs -/

/-- The name of the report. -/
def reportName : String := "builder_gen_report.json"

/-- The name of the manifest. -/
def manifestName : String := "builder_gen_manifest.json"

/-- Writes report and manifest into a directory. -/
def writeOutputs (directory : FilePath) (report : Report) (manifest : Manifest) (time : String)
    (t : FileTree) : Option FileFault × FileTree :=
  match t.makeDirectories directory with
  | .error fault => (some fault, t.begunDirectories directory)
  | .ok t =>
    match t.write (directory.child reportName) (encode (report.text time)) with
    | (some fault, t) => (some fault, t)
    | (none, t) => t.write (directory.child manifestName) (encode manifest.text)

/-! ## 5. Whole runs -/

/-- What a run meets: the file system, to which it publishes or with which it compares, and a signal
that does not depend on it. -/
def surroundings (r : Request) (output : FilePath) (cancelled : Moment → Bool) :
    Surroundings FileTree where
  publish := some (if r.check then compare output else publish output)
  cancelled := fun _ m => cancelled m
  workers := r.workers
  order := fun _ artifacts => artifacts

/-- What is left to do after the last round: orphans are removed and the outputs written, unless the
run only checks or was cancelled. -/
def conclude (r : Request) (output reports : FilePath) (cancelled : Bool) (report : Report)
    (manifest : Manifest) (t : FileTree) : Except Failure (Report × Manifest) × FileTree :=
  if r.check || cancelled then (.ok (report, manifest), t)
  else
    let previous := (Manifest.load? t (reports.child manifestName)).map (·.artifacts)
    let current := manifest.artifacts.map (·.module)
    let (removed, t) := removeOrphans current output (previous.getD []) t
    let report := { report with removedOrphans := sortTexts removed }
    match writeOutputs reports report manifest r.time t with
    | (some fault, t) => (.error (.fileSystem fault), t)
    | (none, t) => (.ok (report, manifest), t)

/-- A run over a tree of sources: report and manifest, or what aborted it, and the tree in the end. -/
def run (r : Request) (cancelled : Moment → Bool) (t : FileTree) :
    Except Failure (Report × Manifest) × FileTree :=
  let root := r.root t
  let output := r.output t
  let (registry, errors) := load t root r.profile
  match Rounds.run (surroundings r output cancelled) r.profile registry t with
  | (.error e, t) => (.error e, t)
  | (.ok s, t) =>
    let report := Report.ofRun r.profile root.text output.text r.check errors s.run s.registry
    conclude r output (r.reports t) s.run.cancelled report (.ofRun r.profile s.run) t

end Generation

end FluentBuilders
