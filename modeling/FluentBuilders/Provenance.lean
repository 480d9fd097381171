import FluentBuilders.Resolver

/-!
Where builders come from, and when they are out of date.

1. `Artifact.record`: a builder with the files of its declaration attached.
2. `isStale`: whether one of the files is gone or has another content.
-/

namespace FluentBuilders

/-! ## 1. Recording -/

/-- The artifact with the files that its declaration comes from, each once. A builder depends on the
file of its own declaration and on nothing else. -/
def Artifact.record (a : Artifact) (d : Declaration) (r : Resolver) : Except Failure Artifact :=
  if a.source ≠ d.qualifiedName then
    .error (.badValue ("artifact " ++ a.module ++ " comes from " ++ a.source ++ ", not " ++
      d.qualifiedName))
  else
    match r.originatingFiles d with
    | .error e => .error e
    | .ok files => .ok { a with dependencies := files.eraseDups, aggregating := false }

/-! ## 2. Staleness -/

/-- Whether one of the files is gone or has changed; `digest?` gives the digests of the files that
exist. -/
def isStale (dependencies : List FileHandle) (digest? : String → Option String) : Bool :=
  dependencies.any fun f => digest? f.path != some f.digest

end FluentBuilders
