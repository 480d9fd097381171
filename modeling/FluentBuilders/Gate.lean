import FluentBuilders.Resolver

/-!
The gate before generation: a declaration passes now, waits, or is discarded.

1. `Readiness`, and the classification.
2. `Status`: what became of a declaration.
-/

namespace FluentBuilders

/-! ## 1. The gate -/

/-- What the gate says. -/
inductive Readiness
  | ready
  | deferred
  | invalid
  deriving DecidableEq, Repr, Inhabited

/-- The word for it. -/
def Readiness.label : Readiness → String
  | .ready => "READY"
  | .deferred => "DEFERRED"
  | .invalid => "INVALID"

/-- Whether a builder can be generated for the declaration now. An invalid declaration never reaches
the resolver. -/
def Declaration.isReady (d : Declaration) (r : Resolver) : Except Failure Bool :=
  if d.state = .invalid then .ok false else r.isReady d

/-- The gate: what is to be done with a declaration, and the tags that say why. -/
def Declaration.gate (d : Declaration) (r : Resolver) : Except Failure (Readiness × List String) :=
  if d.state = .invalid then
    .ok (.invalid,
      if d.invalidReasons.isEmpty then [Reason.invalidDeclaration] else d.invalidReasons)
  else
    match d.isReady r with
    | .error e => .error e
    | .ok true => .ok (.ready, [])
    | .ok false => .ok (.deferred, [Reason.unresolvedSymbol])

/-! ## 2. Outcomes in one word -/

/-- What became of a declaration, in one round or in the end. -/
inductive Status
  | generated
  | deferred
  | invalid
  | failed
  | unresolved
  deriving DecidableEq, Repr, Inhabited

/-- The status as one word. -/
def Status.label : Status → String
  | .generated => "GENERATED"
  | .deferred => "DEFERRED"
  | .invalid => "INVALID"
  | .failed => "FAILED"
  | .unresolved => "UNRESOLVED"

end FluentBuilders
