import FluentBuilders.Publication
import FluentBuilders.Registry.Readiness
import FluentBuilders.Scan

/-!
Rounds of generation until nothing is left or nothing moves. Every published builder becomes a module
of the registry, so that declarations which refer to it are ready in a later round.

1. `Surroundings`: how artifacts leave a run, and when a run learns that it is cancelled.
2. Publishing the artifacts of a round, one after the other or in a pool.
3. `Run`: what a run has done so far, and how a round adds to it.
4. `Rounds.run`: rounds until one of the reasons to stop.
-/

namespace FluentBuilders

/-! ## 1. Surroundings -/

/-- The moments at which a run looks whether it is cancelled. -/
inductive Moment
  /-- In a round, after the declarations `done` and before the next one. -/
  | scanning (round : Nat) (done : List Declaration)
  /-- Right before an artifact is published. -/
  | publishing (round : Nat) (artifact : Artifact)
  /-- At the end of a round. -/
  | closing (round : Nat)
  deriving Repr, Inhabited

/-- What a run meets outside of itself; `σ` is the state of that. -/
structure Surroundings (σ : Type) where
  /-- Publishes an artifact; without it artifacts go no further than the registry. -/
  publish : Option (Artifact → σ → Except PublishFault Published × σ)
  /-- Whether the run is cancelled. -/
  cancelled : σ → Moment → Bool
  /-- How many artifacts of a round may be on their way at once. -/
  workers : Int
  /-- The order in which a pool takes up the artifacts of a round. -/
  order : Nat → List Artifact → List Artifact

/-! ## 2. Publishing a round -/

/-- Why an artifact of a round has no place. -/
inductive Unpublished
  | cancelled
  | failed (f : WriteFailure)
  deriving DecidableEq, Repr, Inhabited

/-- The artifacts of a round by their modules: those that have a place, and those that have none. -/
structure Delivery where
  done : Table Published
  failures : Table Unpublished
  deriving Inhabited

namespace Delivery

/-- Nothing published and nothing failed. -/
def empty : Delivery := ⟨.empty, .empty⟩

/-- The delivery with one more artifact that has a place. -/
def deliver (d : Delivery) (module : String) (p : Published) : Delivery :=
  { d with done := d.done.insert module p }

/-- The delivery with one more artifact that has none. -/
def fail (d : Delivery) (module : String) (u : Unpublished) : Delivery :=
  { d with failures := d.failures.insert module u }

end Delivery

section Publishing

variable {σ : Type}

/-- Publishes one artifact of a round. -/
def publishOne (env : Surroundings σ) (send : Artifact → σ → Except PublishFault Published × σ)
    (round : Nat) (a : Artifact) (d : Delivery) (world : σ) : Except Failure Delivery × σ :=
  if env.cancelled world (.publishing round a) then (.ok (d.fail a.module .cancelled), world)
  else
    match send a world with
    | (.ok p, world) => (.ok (d.deliver a.module p), world)
    | (.error (.refused f), world) => (.ok (d.fail a.module (.failed f)), world)
    | (.error (.aborted e), world) => (.error e, world)

/-- Publishes artifacts one after the other; what aborts the run ends it at once. -/
def publishInTurn (env : Surroundings σ)
    (send : Artifact → σ → Except PublishFault Published × σ) (round : Nat) :
    List Artifact → Delivery → σ → Except Failure Delivery × σ
  | [], d, world => (.ok d, world)
  | a :: rest, d, world =>
    match publishOne env send round a d world with
    | (.ok d, world) => publishInTurn env send round rest d world
    | (.error e, world) => (.error e, world)

/-- Publishes all artifacts; what aborts the run is told after all of them were taken up. -/
def publishAll (env : Surroundings σ)
    (send : Artifact → σ → Except PublishFault Published × σ) (round : Nat) :
    List Artifact → Delivery → σ → Except Failure Delivery × σ
  | [], d, world => (.ok d, world)
  | a :: rest, d, world =>
    match publishOne env send round a d world with
    | (.ok d, world) => publishAll env send round rest d world
    | (.error e, world) => (.error e, (publishAll env send round rest d world).2)

/-- Publishes the artifacts of a round. -/
def publishRound (env : Surroundings σ) (round : Nat) (artifacts : List Artifact) (world : σ) :
    Except Failure Delivery × σ :=
  match env.publish with
  | none => (.ok .empty, world)
  | some send =>
    if env.workers ≤ 1 || artifacts.length ≤ 1 then
      publishInTurn env send round artifacts .empty world
    else publishAll env send round (env.order round artifacts) .empty world

end Publishing

/-! ## 3. Runs -/

/-- What a round did, in numbers. -/
structure RoundReport where
  round : Nat
  candidates : Nat
  generated : Nat
  deferred : Nat
  invalid : Nat
  failed : Nat
  cancelled : Bool
  deriving DecidableEq, Repr, Inhabited

/-- What a run has done so far. -/
structure Run where
  artifacts : List Artifact
  published : Table Published
  /-- The last outcome of each declaration, with the round it comes from. -/
  outcomes : Table (Nat × Outcome)
  rounds : List RoundReport
  unresolved : List Declaration
  cancelled : Bool
  deriving Inhabited

namespace Run

/-- A run that has done nothing. -/
def empty : Run := ⟨[], .empty, .empty, [], [], false⟩

end Run

/-- An outcome after publishing: a builder without a place is put off or has failed. -/
def Outcome.settle (failures : Table Unpublished) (o : Outcome) : Outcome :=
  match o.artifactModule.bind failures.get? with
  | none => o
  | some .cancelled => .cancelled o.declaration
  | some (.failed f) => ⟨o.declaration, .failed, [Reason.writeFailure], o.artifactModule, some f.message⟩

/-- Whether an outcome was put off because its builder was not to be published any more. -/
def Outcome.isPutOff (failures : Table Unpublished) (o : Outcome) : Bool :=
  o.artifactModule.bind failures.get? == some .cancelled

/-- The numbers of a round. -/
def RoundReport.ofOutcomes (round : Nat) (cancelled : Bool) (outcomes : List Outcome) :
    RoundReport where
  round := round
  candidates := outcomes.length
  generated := outcomes.countP (·.status == .generated)
  deferred := outcomes.countP (·.status == .deferred)
  invalid := outcomes.countP (·.status == .invalid)
  failed := outcomes.countP fun o =>
    !(o.status == .generated || o.status == .deferred || o.status == .invalid)
  cancelled := cancelled

/-- The registry with the module of a builder; a name that is taken keeps its module. The answer tells
whether the builder went in. -/
def Registry.feed (g : Registry) (a : Artifact) (place : Option Published) : Registry × Bool :=
  match g.addText a.text a.module ((place.map (·.path)).getD a.module) false with
  | .ok g => (g, true)
  | .error _ => (g, false)

/-- The registry with the builders of a round, and how many of them went in. -/
def Registry.feedAll (g : Registry) (done : Table Published) : List Artifact → Registry × Nat
  | [] => (g, 0)
  | a :: rest =>
    let (g, went) := g.feed a (done.get? a.module)
    let (g, n) := feedAll g done rest
    (g, if went then n + 1 else n)

/-- The run with the places of its newest artifacts. -/
def Run.addArtifacts (run : Run) (done : Table Published) (artifacts : List Artifact) : Run :=
  { run with
    artifacts := run.artifacts ++ artifacts
    published := artifacts.foldl
      (fun table a =>
        match done.get? a.module with
        | some p => table.insert a.module p
        | none => table)
      run.published }

/-- The run with the outcomes of a round. -/
def Run.addOutcomes (run : Run) (round : Nat) (outcomes : List Outcome) : Run :=
  { run with
    outcomes := outcomes.foldl (fun table o => table.insert o.qualifiedName (round, o)) run.outcomes }

/-! ## 4. Rounds -/

namespace Rounds

variable {σ : Type}

/-- Where a run stands between two rounds. -/
structure State (σ : Type) where
  registry : Registry
  world : σ
  pending : List Declaration
  run : Run

/-- Whether another round follows. -/
inductive Next
  | again
  | stop
  | cancelled
  deriving DecidableEq, Repr

/-- The state after the scan `scan` of a round whose artifacts were delivered, and whether the round
moved anything. -/
def close (round : Nat) (waiting : List String) (scan : Scan) (delivery : Delivery)
    (s : State σ) : State σ × Bool :=
  let settled := scan.outcomes.map (Outcome.settle delivery.failures)
  let putOff := (scan.outcomes.filter (Outcome.isPutOff delivery.failures)).map (·.declaration)
  let kept := scan.artifacts.filter fun a => !delivery.failures.contains a.module
  let (registry, fed) := s.registry.feedAll delivery.done kept
  let run := (s.run.addOutcomes round settled).addArtifacts delivery.done kept
  let run := { run with rounds := run.rounds ++ [.ofOutcomes round scan.cancelled settled] }
  let moved := 0 < fed || scan.outcomes.any fun o =>
    waiting.contains o.qualifiedName && o.status != .deferred
  (⟨registry, s.world, scan.pending ++ putOff, run⟩, moved)

/-- What follows a round. -/
def next (env : Surroundings σ) (maxRounds : Int) (round : Nat) (moved : Bool) (s : State σ) :
    Next :=
  if env.cancelled s.world (.closing round) then .cancelled
  else if s.pending.isEmpty || !moved || maxRounds ≤ round then .stop
  else .again

/-- One round. What aborts it leaves the world as it is by then. -/
def once (env : Surroundings σ) (profile : Profile) (round : Nat) (s : State σ) :
    Except Failure (State σ × Next) × σ :=
  let (fresh, registry) := s.registry.report profile.marker
  let scan := Scan.run registry.resolver
    (fun done => env.cancelled s.world (.scanning round done)) s.pending fresh
  match publishRound env round scan.artifacts s.world with
  | (.error e, world) => (.error e, world)
  | (.ok delivery, world) =>
    let waiting := s.pending.map (·.qualifiedName)
    let (s, moved) := close round waiting scan delivery { s with registry := registry, world := world }
    (.ok (s, next env profile.maxRounds round moved s), world)

/-- The run of a last state. -/
def finish (s : State σ) (cancelled : Bool) : State σ :=
  { s with run := { s.run with unresolved := s.pending, cancelled := cancelled } }

/-- Rounds from number `round` on, at most `fuel` of them. -/
def loop (env : Surroundings σ) (profile : Profile) :
    Nat → Nat → State σ → Except Failure (State σ) × σ
  | 0, _, s => (.ok (finish s false), s.world)
  | fuel + 1, round, s =>
    match once env profile round s with
    | (.error e, world) => (.error e, world)
    | (.ok (s, .cancelled), world) => (.ok (finish s true), world)
    | (.ok (s, .stop), world) => (.ok (finish s false), world)
    | (.ok (s, .again), _) => loop env profile fuel (round + 1) s

/-- A run over the modules of a registry: the last state, or what aborted it, and the world in the
end. -/
def run (env : Surroundings σ) (profile : Profile) (registry : Registry) (world : σ) :
    Except Failure (State σ) × σ :=
  loop env profile (max 1 profile.maxRounds.toNat) 1 ⟨registry, world, [], .empty⟩

end Rounds

end FluentBuilders
