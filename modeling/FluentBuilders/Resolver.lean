import FluentBuilders.Declaration
import FluentBuilders.Failure

/-!
What generation asks of whoever knows the sources.
-/

namespace FluentBuilders

/-- The answers of a host about its declarations. Any of them may fail. -/
structure Resolver where
  /-- Whether all that the declaration refers to is there. -/
  isReady : Declaration → Except Failure Bool
  /-- The properties of the declaration, its own before those it inherits. -/
  properties : Declaration → Except Failure (List Property)
  /-- The files that the declaration comes from. -/
  originatingFiles : Declaration → Except Failure (List FileHandle)

end FluentBuilders
