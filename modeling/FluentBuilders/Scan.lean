import FluentBuilders.BuilderText
import FluentBuilders.Gate
import FluentBuilders.Provenance
import FluentBuilders.Table

/-!
One round of generation over a list of declarations.

1. `generate`: the builder of one declaration.
2. `Outcome` and `judge`: a declaration that cannot be generated gives an outcome and never stops the
   round.
3. `candidates`, and `Scan.run` over them, which a signal can cut short.
-/

namespace FluentBuilders

/-! ## 1. One builder -/

/-- The blueprint of a declaration with the given properties. -/
def Declaration.blueprint (d : Declaration) (properties : List Property) : Blueprint :=
  ⟨d.name, d.package, properties, some d.module⟩

/-- The artifact of a declaration with the given text, its files still to be recorded. -/
def Declaration.draft (d : Declaration) (text : String) : Artifact where
  package := d.package
  typeName := builderTypeName d.name
  module := builderModule d.package d.name
  text := text
  source := d.qualifiedName
  dependencies := []
  aggregating := false

/-- The properties of a declaration as a builder can expose them. -/
def Declaration.exposed (d : Declaration) (r : Resolver) : Except Failure (List Property) :=
  match r.properties d with
  | .error e => .error e
  | .ok properties =>
    match enumerate d.qualifiedName properties with
    | .error e => .error (.generation e)
    | .ok properties => .ok properties

/-- The builder of a declaration. -/
def generate (r : Resolver) (d : Declaration) : Except Failure Artifact :=
  match d.exposed r with
  | .error e => .error e
  | .ok properties =>
    match (d.blueprint properties).render with
    | .error fault => .error (.badValue fault.message)
    | .ok text => (d.draft text).record d r

/-! ## 2. Outcomes -/

/-- What happened to a declaration in a round. -/
structure Outcome where
  declaration : Declaration
  status : Status
  reasons : List String
  artifactModule : Option String
  error : Option String
  deriving DecidableEq, Repr, Inhabited

namespace Outcome

/-- The qualified name of the declaration. -/
def qualifiedName (o : Outcome) : String := o.declaration.qualifiedName

/-- An outcome without a builder. -/
def without (d : Declaration) (status : Status) (reasons : List String)
    (error : Option String) : Outcome :=
  ⟨d, status, reasons, none, error⟩

/-- A declaration that was put off because the run was cancelled. -/
def cancelled (d : Declaration) : Outcome := without d .deferred [Reason.cancelled] none

/-- What a failure makes of a declaration: it waits for symbols, is discarded for its own sake, or
has failed. -/
def ofFailure (d : Declaration) (e : Failure) : Outcome :=
  match e with
  | .generation g =>
    let status : Status := match g with
      | .unresolved .. => .deferred
      | .invalid .. => .invalid
      | _ => .failed
    without d status [g.reason] (some g.message)
  | other => without d .failed [Reason.internalError] (some other.message)

end Outcome

/-- The outcome of a declaration whose artifact is `a`. A module that another declaration of the round
has claimed is not given a second time. -/
def grant (claimed : Table String) (d : Declaration) (a : Artifact) : Outcome × Option Artifact :=
  match claimed.get? a.module with
  | some owner =>
    (.without d .failed [Reason.nameCollision]
      (some (a.module ++ " already generated for " ++ owner)), none)
  | none => (⟨d, .generated, [], some a.module, none⟩, some a)

/-- What happens to a declaration. `claimed` holds the modules given so far and their owners. -/
def judge (r : Resolver) (claimed : Table String) (d : Declaration) : Outcome × Option Artifact :=
  match d.gate r with
  | .error e => (.without d .failed [Reason.internalError] (some e.message), none)
  | .ok (.invalid, reasons) => (.without d .invalid reasons none, none)
  | .ok (.deferred, reasons) => (.without d .deferred reasons none, none)
  | .ok (.ready, _) =>
    match generate r d with
    | .error e => (.ofFailure d e, none)
    | .ok a => grant claimed d a

/-! ## 3. A round -/

/-- The first declaration of each qualified name that is not among `seen`. -/
def firstOfEach (seen : List String) : List Declaration → List Declaration
  | [] => []
  | d :: rest =>
    if seen.contains d.qualifiedName then firstOfEach seen rest
    else d :: firstOfEach (d.qualifiedName :: seen) rest

/-- The declarations of a round: those that waited, then the new ones, one for each name. -/
def candidates (pending fresh : List Declaration) : List Declaration :=
  firstOfEach [] (pending ++ fresh)

/-- The result of a round. -/
structure Scan where
  artifacts : List Artifact
  pending : List Declaration
  outcomes : List Outcome
  cancelled : Bool
  deriving DecidableEq, Repr, Inhabited

namespace Scan

/-- A round without declarations. -/
def empty : Scan := ⟨[], [], [], false⟩

/-- A round that was cut short before `rest`. -/
def cutShort (rest : List Declaration) : Scan := ⟨[], rest, rest.map Outcome.cancelled, true⟩

/-- A round with one more declaration at its front. -/
def cons (outcome : Outcome) (artifact : Option Artifact) (s : Scan) : Scan where
  artifacts := artifact.toList ++ s.artifacts
  pending := if outcome.status = .deferred then outcome.declaration :: s.pending else s.pending
  outcomes := outcome :: s.outcomes
  cancelled := s.cancelled

/-- A round over `rest`, after the declarations `done`. Before each declaration the signal is read:
once it is set, all that is left waits untouched. -/
def through (r : Resolver) (signal : List Declaration → Bool) (done : List Declaration)
    (claimed : Table String) : List Declaration → Scan
  | [] => empty
  | d :: rest =>
    if signal done then cutShort (d :: rest)
    else
      let (outcome, artifact) := judge r claimed d
      let claimed := match artifact with
        | some a => claimed.insert a.module d.qualifiedName
        | none => claimed
      cons outcome artifact (through r signal (done ++ [d]) claimed rest)

/-- A round over the declarations that waited and the new ones. -/
def run (r : Resolver) (signal : List Declaration → Bool) (pending fresh : List Declaration) :
    Scan :=
  through r signal [] Table.empty (candidates pending fresh)

end Scan

end FluentBuilders
