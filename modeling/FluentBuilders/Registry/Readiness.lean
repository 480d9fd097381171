import FluentBuilders.Registry

/-!
The registry as a resolver.

1. `unresolved`: the names that keep a class from being ready, its bases included.
2. `collect`: the fields of a class and of its bases.
3. `report`: the marked declarations of the modules that came since the marker was last reported.
4. `Registry.resolver`.
-/

namespace FluentBuilders

open Text

namespace Registry

/-! ## 1. Readiness -/

/-- A class with the table of its module. -/
def classAt? (g : Registry) (key : ClassKey) : Option (SymbolTable × ClassInfo) :=
  match g.module? key.module with
  | none => none
  | some t => (t.classes.get? key.name).map fun info => (t, info)

/-- The number of all classes. -/
def classCount (g : Registry) : Nat := g.modules.values.foldl (fun n t => n + t.classes.size) 0

/-- The annotations of a class that refer to nothing. -/
def unresolvedTypes (g : Registry) (t : SymbolTable) (info : ClassInfo) : List String :=
  (info.fields.flatMap (·.typeNames)).filter fun name => (g.checkName t name).isNone

/-- What keeps a class from being ready, each name once. `visiting` holds the classes that this one is
a base of; a base among them closes a circle. `fuel` is more than the number of classes left. -/
def unresolvedFrom (g : Registry) : Nat → ClassKey → List ClassKey → List String
  | 0, _, _ => []
  | fuel + 1, key, visiting =>
    match g.classAt? key with
    | none => []
    | some (t, info) =>
      let visiting := key :: visiting
      let ofBase (base : String) : List String :=
        match g.checkName t base with
        | none => [base]
        | some qualified =>
          match g.findClass qualified with
          | none => []
          | some baseKey =>
            if visiting.contains baseKey then [base ++ " (cyclic)"]
            else unresolvedFrom g fuel baseKey visiting
      (g.unresolvedTypes t info ++ info.bases.flatMap ofBase).eraseDups

/-- What keeps a class from being ready. -/
def unresolved (g : Registry) (key : ClassKey) : List String :=
  g.unresolvedFrom (g.classCount + 1) key []

/-- The class of a declaration. -/
def keyOf (d : Declaration) : ClassKey := ⟨d.module, d.name⟩

/-- Whether the class of a declaration is known. -/
def knows (g : Registry) (d : Declaration) : Bool := (g.classAt? (keyOf d)).isSome

/-- The names that keep a declaration from being ready. -/
def unresolvedSymbols (g : Registry) (d : Declaration) : List String :=
  if g.knows d then g.unresolved (keyOf d) else [d.qualifiedName]

/-- Whether a builder can be made for the declaration now. -/
def isReady (g : Registry) (d : Declaration) : Bool :=
  g.knows d && (g.unresolved (keyOf d)).isEmpty

/-! ## 2. Properties -/

/-- The properties `own` with those of `inherited` whose names are new. -/
def mergeProperties (own inherited : List Property) : List Property :=
  inherited.foldl
    (fun all p => if all.any (·.name == p.name) then all else all ++ [p]) own

/-- The fields of a class as properties. -/
def ownProperties (info : ClassInfo) : List Property := info.fields.map fun f => ⟨f.name, f.type⟩

/-- The fields of a class and then those of its bases from left to right. A class is entered once:
`visited` holds those that were. `fuel` is more than the number of classes left. -/
def collectFrom (g : Registry) :
    Nat → ClassKey → List ClassKey → List Property × List ClassKey
  | 0, _, visited => ([], visited)
  | fuel + 1, key, visited =>
    match g.classAt? key with
    | none => ([], key :: visited)
    | some (t, info) =>
      info.bases.foldl
        (fun (all, visited) base =>
          match (g.bound t base).bind g.findClass with
          | none => (all, visited)
          | some baseKey =>
            if visited.contains baseKey then (all, visited)
            else
              let (inherited, visited) := collectFrom g fuel baseKey visited
              (mergeProperties all inherited, visited))
        (ownProperties info, key :: visited)

/-- The properties of a class. -/
def collect (g : Registry) (key : ClassKey) : List Property :=
  (g.collectFrom (g.classCount + 1) key []).1

/-- The properties of a declaration that is ready. -/
def properties (g : Registry) (d : Declaration) : Except Failure (List Property) :=
  let missing := g.unresolvedSymbols d
  if missing.isEmpty then .ok (g.collect (keyOf d))
  else .error (.generation (.unresolved d.qualifiedName missing))

/-! ## 3. Declarations -/

/-- The file of a module. -/
def handleOf (t : SymbolTable) : FileHandle := ⟨t.path, t.digest⟩

/-- The files that a declaration comes from. -/
def originatingFiles (g : Registry) (d : Declaration) : List FileHandle :=
  match g.module? d.module with
  | none => d.files
  | some t => [handleOf t]

/-- Why a marked definition never gets a builder. -/
def invalidReasons (info : DecoratedInfo) : List String :=
  if info.kind != .ofClass then [Reason.markerOnNonClass]
  else if !info.topLevel then [Reason.nestedDeclaration]
  else if info.hasError then [Reason.parseError]
  else []

/-- Whether a definition carries the marker. -/
def isMarked (t : SymbolTable) (marker : String) (info : DecoratedInfo) : Bool :=
  info.decorators.any fun d => !d.isEmpty && t.resolve d == some marker

/-- The declaration of a marked definition. -/
def declarationOf (g : Registry) (t : SymbolTable) (info : DecoratedInfo) : Declaration :=
  let reasons := invalidReasons info
  { package := t.package
    name := info.name
    module := t.module
    files := [handleOf t]
    state :=
      if !reasons.isEmpty then .invalid
      else if (g.unresolved ⟨t.module, info.name⟩).isEmpty then .resolved
      else .unresolved
    invalidReasons := reasons }

/-- The declarations of a module that carry the marker. -/
def declarationsOf (g : Registry) (marker : String) (t : SymbolTable) : List Declaration :=
  (t.decorated.filter (isMarked t marker)).map (g.declarationOf t)

/-- How many modules were already searched for the marker. -/
def cursor (g : Registry) (marker : String) : Nat := (g.cursors.get? marker).getD 0

/-- The marked declarations of the modules that came since the marker was last reported, and the
registry in which they are reported. -/
def report (g : Registry) (marker : String) : List Declaration × Registry :=
  ((g.modules.values.drop (g.cursor marker)).flatMap (g.declarationsOf marker),
    { g with cursors := g.cursors.insert marker g.modules.size })

/-! ## 4. The resolver -/

/-- The registry as a resolver: it never fails but for symbols that are missing. -/
def resolver (g : Registry) : Resolver where
  isReady d := .ok (g.isReady d)
  properties d := g.properties d
  originatingFiles d := .ok (g.originatingFiles d)

end Registry

end FluentBuilders
