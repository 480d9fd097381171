import FluentBuilders.Resolver
import FluentBuilders.SymbolTable.OfTree

/-!
The modules that are known so far, and how names are followed from one to another.

1. `Registry`: modules in the order in which they came, and up to where each marker was reported.
2. Following names: `findClass` and `nameExists` go through imports and wildcard imports, at most
   `maxHops` times.
3. `bound`, `checkName`: what a name of a module refers to.
-/

namespace FluentBuilders

open Text Grammar

/-! ## 1. The registry -/

/-- The modules that are known so far. -/
structure Registry where
  modules : Table SymbolTable
  /-- For each marker, how many modules were already searched for it. -/
  cursors : Table Nat
  deriving Inhabited

namespace Registry

/-- The registry without modules. -/
def empty : Registry := ⟨.empty, .empty⟩

/-- The names of the modules in the order in which they came. -/
def names (g : Registry) : List String := g.modules.keys

/-- The symbol table of a module. -/
def module? (g : Registry) (name : String) : Option SymbolTable := g.modules.get? name

/-- The registry with one more module, unless its name is taken. -/
def add (g : Registry) (t : SymbolTable) : Except Failure Registry :=
  if g.modules.contains t.module then
    .error (.badValue ("module " ++ quoted t.module ++ " is already loaded"))
  else .ok { g with modules := g.modules.insert t.module t }

/-- The registry with one more module from its source text. -/
def addBytes (g : Registry) (content : Bytes) (module path : String) (isPackage : Bool) :
    Except Failure Registry :=
  g.add (.ofParsed (.ofBytes content path) module isPackage)

/-- The registry with one more module from its source text. -/
def addText (g : Registry) (content module path : String) (isPackage : Bool) :
    Except Failure Registry :=
  g.addBytes (encode content) module path isPackage

/-! ## 2. Following names -/

/-- The first part of a dotted name. -/
def rootOf (name : String) : String := (splitHead name).1

/-- The top-level packages that modules of the registry belong to. -/
def roots (g : Registry) : List String := g.names.map rootOf

/-- Whether a name leads into a package that the registry knows. -/
def isLocal (g : Registry) (name : String) : Bool := g.roots.contains (rootOf name)

/-- A class of a module. -/
structure ClassKey where
  module : String
  name : String
  deriving DecidableEq, Repr, Inhabited

/-- How many imports a name is followed through. -/
def maxHops : Nat := 8

/-- The class that a qualified name refers to after at most `hops - 1` imports. -/
def findClassWithin (g : Registry) : Nat → String → Option ClassKey
  | 0, _ => none
  | hops + 1, qualified =>
    let (module, name) := splitLast qualified
    match g.module? module with
    | none => none
    | some t =>
      if t.classes.contains name then some ⟨module, name⟩
      else
        match t.imports.get? name with
        | some target => findClassWithin g hops target
        | none => t.wildcards.findSome? fun star => findClassWithin g hops (star ++ "." ++ name)

/-- The class that a qualified name refers to, through imports where need be. -/
def findClass (g : Registry) (qualified : String) : Option ClassKey :=
  g.findClassWithin (maxHops + 1) qualified

/-- A qualified name cut after a known module. -/
structure Member where
  module : String
  table : SymbolTable
  /-- The part right after the module. -/
  head : String
  /-- What follows that part. -/
  rest : List String

/-- The parts of a name cut after the longest known module that leaves something over. `before` holds
the parts before the cut, and `after` those behind it. -/
def memberFrom (g : Registry) (before : List String) : List String → Option Member
  | [] => none
  | head :: rest =>
    match memberFrom g (before ++ [head]) rest with
    | some m => some m
    | none =>
      if before.isEmpty then none
      else (g.module? (joinDotted before)).map fun t => ⟨joinDotted before, t, head, rest⟩

/-- A qualified name cut after the longest known module that leaves something over. -/
def member? (g : Registry) (qualified : String) : Option Member :=
  g.memberFrom [] (dottedParts qualified)

/-- Whether a qualified name names something after at most `hops` imports: a module, or what a module
binds. What comes from a package that is not known is taken on trust. -/
def existsWithin (g : Registry) : Nat → String → Bool
  | 0, qualified => g.modules.contains qualified
  | hops + 1, qualified =>
    g.modules.contains qualified ||
      match g.member? qualified with
      | none => false
      | some m =>
        if m.table.definitions.contains m.head || g.modules.contains (m.module ++ "." ++ m.head) then
          true
        else
          match m.table.imports.get? m.head with
          | some target =>
            !g.isLocal target || existsWithin g hops (extend target (joinDotted m.rest))
          | none =>
            m.table.wildcards.any fun star =>
              !g.isLocal star ||
                existsWithin g hops (star ++ "." ++ joinDotted (m.head :: m.rest))

/-- Whether a qualified name names something. -/
def nameExists (g : Registry) (qualified : String) : Bool := g.existsWithin (maxHops + 1) qualified

/-! ## 3. Names of a module -/

/-- What a dotted name of a module refers to; wildcard imports come last. -/
def bound (g : Registry) (t : SymbolTable) (name : String) : Option String :=
  match t.resolve name with
  | some qualified => some qualified
  | none =>
    let (head, rest) := splitHead name
    t.wildcards.findSome? fun star =>
      let candidate := star ++ "." ++ head
      if !g.isLocal star || g.nameExists candidate then some (extend candidate rest) else none

/-- What a dotted name of a module refers to, if that is there: a name in a known package has to
exist. -/
def checkName (g : Registry) (t : SymbolTable) (name : String) : Option String :=
  match g.bound t name with
  | none => none
  | some qualified =>
    if g.isLocal qualified && !g.nameExists qualified then none else some qualified

end Registry

end FluentBuilders
