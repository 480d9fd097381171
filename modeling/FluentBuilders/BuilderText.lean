import FluentBuilders.Enumeration
import FluentBuilders.Naming
import FluentBuilders.Profile
import FluentBuilders.Text.Blank

/-!
The text of a builder.

1. `Blueprint`: what the text depends on, and what makes it unusable.
2. The sections of the text, each as lines: header, constructor, setters, `build`.
3. `Blueprint.render`: the lines, each with its line feed.
-/

namespace FluentBuilders

open Text

/-! ## 1. Blueprints -/

/-- All that the text of a builder depends on. -/
structure Blueprint where
  name : String
  package : String
  properties : List Property
  /-- The module that the class is imported from, if it is not the package itself. -/
  sourceModule : Option String
  deriving DecidableEq, Repr, Inhabited

/-- Why there is no text for a blueprint. -/
inductive BlueprintFault
  | badName (s : String)
  | noModule (s : String)
  | badModule (s : String)
  | badPackage (s : String)
  | badProperty (s : String)
  | reservedProperty (s : String)
  | untypedProperty (s : String)
  deriving DecidableEq, Repr, Inhabited

/-- The fault in words. -/
def BlueprintFault.message : BlueprintFault → String
  | badName s => "declaration name " ++ quoted s ++ " is not an identifier"
  | noModule s => "no module to import " ++ quoted s ++ " from"
  | badModule s => "module " ++ quoted s ++ " is not a dotted identifier"
  | badPackage s => "namespace " ++ quoted s ++ " is not a dotted identifier"
  | badProperty s => "property name " ++ quoted s ++ " is not an identifier"
  | reservedProperty s => "property name " ++ quoted s ++ " is reserved"
  | untypedProperty s => "property " ++ quoted s ++ " has no type"

/-- What keeps a property out of a text. -/
def Property.fault? (p : Property) : Option BlueprintFault :=
  if !isIdentifier p.name then some (.badProperty p.name)
  else if isReserved p.name then some (.reservedProperty p.name)
  else if isAllBlank p.type then some (.untypedProperty p.name)
  else none

namespace Blueprint

/-- The module that the class is imported from. -/
def origin (b : Blueprint) : String := b.sourceModule.getD b.package

/-- The first thing that makes the blueprint unusable. -/
def fault? (b : Blueprint) : Option BlueprintFault :=
  if !isIdentifier b.name then some (.badName b.name)
  else if b.origin.isEmpty then some (.noModule b.name)
  else if !isDotted b.origin then some (.badModule b.origin)
  else if !b.package.isEmpty && !isDotted b.package then some (.badPackage b.package)
  else b.properties.findSome? Property.fault?

/-! ## 2. Sections -/

/-- One step of indentation. -/
def step : String := "    "

/-- The comment lines and the imports. -/
def header (b : Blueprint) : List String :=
  [generatedHeader ++ " " ++ generatorVersion ++ " from " ++ b.origin ++ "." ++ b.name ++
      ". Do not edit.",
    "# namespace: " ++ b.package,
    "from __future__ import annotations",
    ""] ++
  (if b.properties.isEmpty then []
    else
      ["from typing import Any, Dict",
        "",
        "from " ++ toolName ++ ".errors import MissingRequiredField"]) ++
  ["from " ++ b.origin ++ " import " ++ b.name]

/-- The head of the class. -/
def classHead (b : Blueprint) : List String :=
  ["class " ++ builderTypeName b.name ++ ":",
    step ++ "\"\"\"Fluent builder for :class:`" ++ b.name ++ "`.\"\"\""]

/-- The constructor. -/
def constructor : List String :=
  [step ++ "def __init__(self) -> None:",
    step ++ step ++ "self." ++ valueStore ++ ": Dict[str, Any] = \x7b\x7d"]

/-- The method that sets a property. -/
def setter (builder : String) (p : Property) : List String :=
  [step ++ "def " ++ p.name ++ "(self, value: " ++ p.type ++ ") -> " ++ builder ++ ":",
    step ++ step ++ "self." ++ valueStore ++ "[\"" ++ p.name ++ "\"] = value",
    step ++ step ++ "return self"]

/-- The check that a property was set. -/
def check (p : Property) : List String :=
  [step ++ step ++ "if self." ++ valueStore ++ ".get(\"" ++ p.name ++ "\") is None:",
    step ++ step ++ step ++ "raise MissingRequiredField(\"" ++ p.name ++ "\")"]

/-- The argument that passes a property on. -/
def argument (p : Property) : String :=
  step ++ step ++ step ++ p.name ++ "=self." ++ valueStore ++ "[\"" ++ p.name ++ "\"],"

/-- The method that makes the object. -/
def build (b : Blueprint) : List String :=
  (step ++ "def build(self) -> " ++ b.name ++ ":") ::
    if b.properties.isEmpty then [step ++ step ++ "return " ++ b.name ++ "()"]
    else
      b.properties.flatMap check ++
        (step ++ step ++ "return " ++ b.name ++ "(") ::
          (b.properties.map argument ++ [step ++ step ++ ")"])

/-- The lines of the text. -/
def lines (b : Blueprint) : List String :=
  b.header ++ ["", ""] ++ b.classHead ++
    (if b.properties.isEmpty then [] else "" :: constructor) ++
    b.properties.flatMap (fun p => "" :: setter (builderTypeName b.name) p) ++
    "" :: b.build

/-! ## 3. The text -/

/-- The text of the builder, one line feed after each line. -/
def text (b : Blueprint) : String := String.join (b.lines.map (· ++ "\n"))

/-- The text of the builder, unless the blueprint is unusable. -/
def render (b : Blueprint) : Except BlueprintFault String :=
  match b.fault? with
  | some fault => .error fault
  | none => .ok b.text

end Blueprint

end FluentBuilders
