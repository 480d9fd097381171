import FluentBuilders.SymbolTable
import FluentBuilders.Grammar
import FluentBuilders.Text.Blank
import FluentBuilders.Text.Word

/-!
The symbol table of a module from its syntax tree.

1. Names and annotations: dotted names, the names an annotation looks up, attributes of class
   variables.
2. Classes and decorated definitions, and those nested in a body.
3. Imports, absolute and relative.
4. The walk over module scope: statements of the module and of the branches that still run at its
   level (`if`, `try`, `with`).
-/

namespace FluentBuilders

open Text Grammar

namespace SymbolTable

/-! ## 1. Names and annotations -/

/-- The text of a node without blanks. -/
def dotted (n : Node) : String := dropBlanks n.text

/-- Whether a node is the dot before a member. -/
def isDot : Node → Bool
  | .leaf .mark _ _ text _ => text == "."
  | _ => false

mutual
/-- The names that an expression looks up; a name right after a dot is a member and is not one.
Strings are passed over, and of a keyword argument only its value counts. -/
def lookedUp (afterDot : Bool) : Node → List String
  | .leaf .identifier _ _ text _ => if afterDot then [] else [text]
  | .leaf .. => []
  | .absent .. => []
  | .tree .string _ _ => []
  | .tree .keywordArgument _ children => lookedUpValues children
  | .tree _ _ children => lookedUpAll false children

/-- The names that consecutive nodes look up. -/
def lookedUpAll (afterDot : Bool) : List Node → List String
  | [] => []
  | n :: rest => lookedUp afterDot n ++ lookedUpAll (isDot n) rest

/-- The names that the values among consecutive nodes look up. -/
def lookedUpValues : List Node → List String
  | [] => []
  | n :: rest => (if n.role == .value then lookedUp false n else []) ++ lookedUpValues rest
end

/-- The names that an annotation looks up in its module, each once. -/
def typeNames (hint : Node) : List String := (lookedUp false hint).eraseDups

/-- Whether a text is qualified, or right after a dot, the word that marks a class variable. `cs` is
read from a place where the word may stand; after the start only characters of words and dots may
lie before it. -/
def isClassVariableFrom : List Char → Bool
  | [] => false
  | '.' :: rest => startsWithWord "ClassVar".toList rest || isClassVariableFrom rest
  | c :: rest => isWordChar c && isClassVariableFrom rest

/-- Whether an annotation marks an attribute of the class itself and not of its instances. -/
def isClassVariable (type : String) : Bool :=
  startsWithWord "ClassVar".toList type.toList ||
    match type.toList with
    | [] => false
    | c :: rest => (c.isAlpha || c = '_') && isClassVariableFrom rest

/-! ## 2. Classes and decorated definitions -/

/-- The dotted name of a decorator; for a call, that of the function called. -/
def decoratorName (decorator : Node) : String :=
  match decorator.namedChildren with
  | [] => ""
  | value :: _ =>
    if value.kind == .call then dotted ((value.child? .function).getD value) else dotted value

/-- The field that an expression of a class body declares. -/
def field? (n : Node) : Option FieldInfo :=
  if n.kind != .assignment then none
  else
    match n.child? .left, n.child? .type with
    | some left, some type =>
      if left.kind != .identifier then none
      else
        let text := collapse type.text
        if isClassVariable text then none else some ⟨left.text, text, typeNames type⟩
    | _, _ => none

/-- The fields that a class body declares, in order. -/
def fieldsOf (body : Node) : List FieldInfo :=
  body.namedChildren.flatMap fun statement =>
    if statement.kind == .expressionStatement then statement.namedChildren.filterMap field? else []

/-- The base that an argument of a class names, without its type arguments. -/
def base? (argument : Node) : Option String :=
  let value := if argument.kind == .subscript then argument.child? .value else some argument
  match value with
  | some n => if n.kind == .identifier || n.kind == .attribute then some (dotted n) else none
  | none => none

/-- The name that a definition gives. -/
def definedName (definition : Node) : String :=
  match definition.child? .name with
  | some n => n.text
  | none => ""

/-- The class that a class definition defines. -/
def classOf (definition : Node) (decorators : List String) : ClassInfo where
  name := definedName definition
  line := definition.start.line
  bases :=
    match definition.child? .superclasses with
    | some list => list.namedChildren.filterMap base?
    | none => []
  fields :=
    match definition.child? .body with
    | some body => fieldsOf body
    | none => []
  decorators := decorators
  hasError := definition.hasError

/-- A decorated definition. -/
def decorated? (n : Node) (topLevel : Bool) : Option DecoratedInfo :=
  (n.child? .definition).map fun definition =>
    { name := definedName definition
      kind := if definition.kind == .classDefinition then .ofClass else .ofFunction
      line := definition.start.line
      decorators := (n.children.filter (·.kind == .decorator)).map decoratorName
      topLevel := topLevel
      hasError := n.hasError }

mutual
/-- The decorated definitions below a node, in the order of the text. -/
def nestedIn : Node → List DecoratedInfo
  | .tree _ _ children => nestedInAll children
  | _ => []

/-- The decorated definitions among consecutive nodes and below them. -/
def nestedInAll : List Node → List DecoratedInfo
  | [] => []
  | n :: rest =>
    (if n.kind == .decorated then (decorated? n false).toList else []) ++ nestedIn n ++
      nestedInAll rest
end

/-- The table with the decorated definitions below a node. -/
def addNested (t : SymbolTable) (n : Node) : SymbolTable :=
  (nestedIn n).foldl addDecorated t

/-! ## 3. Imports -/

/-- The module that a relative import names, unless its dots lead out of the outermost package. -/
def relativeBase (package : String) (place : Node) : Option String :=
  let level := (place.children.filter (·.kind == .importPrefix)).foldl
    (fun n c => n + (c.text.toList.count '.')) 0
  let rest := (place.children.filter (·.kind == .dottedName)).map dotted
  let parts := if package.isEmpty then [] else dottedParts package
  if parts.length + 1 < level then none
  else some (joinDotted (parts.take (parts.length - (level - 1)) ++ rest))

/-- The table with the bindings of `import …`: a plain item binds the first part of its name. -/
def addImport (t : SymbolTable) (n : Node) : SymbolTable :=
  (n.childrenIn .item).foldl (fun t item =>
    if item.kind == .aliasedImport then
      match item.child? .name, item.child? .localName with
      | some name, some localName => t.bind localName.text (dotted name)
      | _, _ => t
    else
      let head := (splitHead (dotted item)).1
      t.bind head head) t

/-- The table with the bindings of an import from the module `base`. -/
def addImportFrom (t : SymbolTable) (base : String) (n : Node) : SymbolTable :=
  if n.children.any (·.kind == .wildcard) then { t with wildcards := t.wildcards ++ [base] }
  else
    (n.childrenIn .item).foldl (fun t item =>
      if item.kind == .aliasedImport then
        match item.child? .name, item.child? .localName with
        | some name, some localName => t.bind localName.text (qualify base (dotted name))
        | _, _ => t
      else t.bind (dotted item) (qualify base (dotted item))) t

/-- The table with the bindings of `from … import …`. -/
def addFrom (t : SymbolTable) (n : Node) : SymbolTable :=
  match n.child? .moduleName with
  | none => t
  | some place =>
    if place.kind == .relativeImport then
      match relativeBase t.package place with
      | some base => t.addImportFrom base n
      | none => t
    else t.addImportFrom (dotted place) n

/-! ## 4. Module scope -/

mutual
/-- The table with the names that a target binds. -/
def addTarget (t : SymbolTable) : Node → SymbolTable
  | .leaf .identifier _ _ text _ => t.define text
  | .tree .patternList _ children => addTargets t children
  | .tree .tuplePattern _ children => addTargets t children
  | .tree .listPattern _ children => addTargets t children
  | _ => t

/-- The table with the names that consecutive targets bind. -/
def addTargets (t : SymbolTable) : List Node → SymbolTable
  | [] => t
  | n :: rest => addTargets (addTarget t n) rest
end

/-- The table with the names that an expression statement binds: the targets of its assignment. -/
def addExpressions (t : SymbolTable) (n : Node) : SymbolTable :=
  n.namedChildren.foldl (fun t value =>
    if value.kind == .assignment then
      match value.child? .left with
      | some left => addTarget t left
      | none => t
    else t) t

/-- The table with a class without decorators. -/
def addPlainClass (t : SymbolTable) (n : Node) : SymbolTable :=
  (t.addClass (classOf n [])).addNested n

/-- The table with a function without decorators. -/
def addFunction (t : SymbolTable) (n : Node) : SymbolTable :=
  (match n.child? .name with
    | some name => t.define name.text
    | none => t).addNested n

/-- The table with a decorated definition at module scope. -/
def addDecoratedDefinition (t : SymbolTable) (n : Node) : SymbolTable :=
  match decorated? n true, n.child? .definition with
  | some info, some definition =>
    let t := (t.addDecorated info).define info.name
    let t :=
      if info.kind == .ofClass then
        { t with classes := t.classes.insert info.name (classOf definition info.decorators) }
      else t
    t.addNested definition
  | _, _ => t

/-- The table with the name of a type alias. -/
def addTypeAlias (t : SymbolTable) (n : Node) : SymbolTable :=
  match n.child? .left with
  | some left => t.define (String.ofList ((dotted left).toList.takeWhile (· ≠ '[')))
  | none => t

mutual
/-- The table with what a statement at module scope binds and defines. -/
def addStatement (t : SymbolTable) : Node → SymbolTable
  | .tree kind role children =>
    match kind with
    | .importStatement => t.addImport (.tree kind role children)
    | .importFrom => t.addFrom (.tree kind role children)
    | .classDefinition => t.addPlainClass (.tree kind role children)
    | .functionDefinition => t.addFunction (.tree kind role children)
    | .decorated => t.addDecoratedDefinition (.tree kind role children)
    | .expressionStatement => t.addExpressions (.tree kind role children)
    | .typeAlias => t.addTypeAlias (.tree kind role children)
    | .ifStatement | .tryStatement | .withStatement => addBranches t children
    | _ => t
  | _ => t

/-- The table with what consecutive statements bind and define. -/
def addStatements (t : SymbolTable) : List Node → SymbolTable
  | [] => t
  | n :: rest => addStatements (addStatement t n) rest

/-- The table with the blocks of a compound statement: its own, and those of its clauses. -/
def addBranches (t : SymbolTable) : List Node → SymbolTable
  | [] => t
  | .tree kind _ children :: rest =>
    addBranches (if kind == .block then addStatements t children else addBlocks t children) rest
  | _ :: rest => addBranches t rest

/-- The table with the blocks among consecutive nodes. -/
def addBlocks (t : SymbolTable) : List Node → SymbolTable
  | [] => t
  | .tree kind _ children :: rest =>
    addBlocks (if kind == .block then addStatements t children else t) rest
  | _ :: rest => addBlocks t rest
end

/-- The symbol table of a parsed module under the name `module`. -/
def ofParsed (parsed : Parsed) (module : String) (isPackage : Bool) : SymbolTable :=
  addStatements
    { module := module
      path := parsed.path
      digest := parsed.digest
      isPackage := isPackage
      sound := parsed.isSound
      imports := Table.empty
      wildcards := []
      definitions := []
      classes := Table.empty
      decorated := [] }
    parsed.tree.children

end SymbolTable

end FluentBuilders
