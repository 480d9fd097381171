import FluentBuilders.Table
import FluentBuilders.Text.Identifier

/-!
The symbol table of a module: what its names stand for, its classes with their fields, and every
definition that carries decorators.

1. Fields, classes, decorated definitions.
2. `SymbolTable`, and the package that a module belongs to.
3. `resolve`: what a dotted name of the module refers to.
-/

namespace FluentBuilders

open Text

/-! ## 1. What a module defines -/

/-- An annotated attribute of a class. -/
structure FieldInfo where
  name : String
  /-- The annotation on one line. -/
  type : String
  /-- The names that the annotation looks up in its module. -/
  typeNames : List String
  deriving DecidableEq, Repr, Inhabited

/-- A class at module scope. -/
structure ClassInfo where
  name : String
  line : Nat
  bases : List String
  fields : List FieldInfo
  decorators : List String
  hasError : Bool
  deriving DecidableEq, Repr, Inhabited

/-- What a decorated definition defines. -/
inductive DefinitionKind
  | ofClass
  | ofFunction
  deriving DecidableEq, Repr, Inhabited

/-- The kind as one word. -/
def DefinitionKind.label : DefinitionKind → String
  | .ofClass => "class"
  | .ofFunction => "function"

/-- A class or function with decorators, wherever it stands. -/
structure DecoratedInfo where
  name : String
  kind : DefinitionKind
  line : Nat
  decorators : List String
  /-- Whether it stands at module scope. -/
  topLevel : Bool
  hasError : Bool
  deriving DecidableEq, Repr, Inhabited

/-! ## 2. Symbol tables -/

/-- The symbol table of one module. -/
structure SymbolTable where
  module : String
  path : String
  digest : String
  isPackage : Bool
  /-- Whether the module keeps to the grammar. -/
  sound : Bool
  /-- Local names of imports and the qualified names they stand for. -/
  imports : Table String
  /-- Modules all of whose names are imported. -/
  wildcards : List String
  /-- Names bound at module scope, imports apart. -/
  definitions : List String
  classes : Table ClassInfo
  decorated : List DecoratedInfo
  deriving Repr, Inhabited

namespace SymbolTable

/-- The package of the module: itself for a package, else what its name says before the last dot. -/
def package (t : SymbolTable) : String :=
  if t.isPackage then t.module else (splitLast t.module).1

/-- The status of the module in one word. -/
def status (t : SymbolTable) : String := if t.sound then "OK" else "ERROR"

/-- The table with one more definition. -/
def define (t : SymbolTable) (name : String) : SymbolTable :=
  if t.definitions.contains name then t else { t with definitions := t.definitions ++ [name] }

/-- The table with one more import. -/
def bind (t : SymbolTable) (name target : String) : SymbolTable :=
  { t with imports := t.imports.insert name target }

/-- The table with one more class; a later class takes the place of an earlier one. -/
def addClass (t : SymbolTable) (info : ClassInfo) : SymbolTable :=
  { t.define info.name with classes := t.classes.insert info.name info }

/-- The table with one more decorated definition. -/
def addDecorated (t : SymbolTable) (info : DecoratedInfo) : SymbolTable :=
  { t with decorated := t.decorated ++ [info] }

end SymbolTable

/-! ## 3. Resolution inside a module -/

/-- Names that every module can use without binding them. -/
def builtinNames : List String :=
  ["ArithmeticError", "AssertionError", "AttributeError", "BaseException", "BaseExceptionGroup",
   "BlockingIOError", "BrokenPipeError", "BufferError", "BytesWarning", "ChildProcessError",
   "ConnectionAbortedError", "ConnectionError", "ConnectionRefusedError", "ConnectionResetError",
   "DeprecationWarning", "EOFError", "Ellipsis", "EncodingWarning", "EnvironmentError", "Exception",
   "ExceptionGroup", "False", "FileExistsError", "FileNotFoundError", "FloatingPointError",
   "FutureWarning", "GeneratorExit", "IOError", "ImportError", "ImportWarning", "IndentationError",
   "IndexError", "InterruptedError", "IsADirectoryError", "KeyError", "KeyboardInterrupt",
   "LookupError", "MemoryError", "ModuleNotFoundError", "NameError", "None", "NotADirectoryError",
   "NotImplemented", "NotImplementedError", "OSError", "OverflowError", "PendingDeprecationWarning",
   "PermissionError", "ProcessLookupError", "RecursionError", "ReferenceError", "ResourceWarning",
   "RuntimeError", "RuntimeWarning", "StopAsyncIteration", "StopIteration", "SyntaxError",
   "SyntaxWarning", "SystemError", "SystemExit", "TabError", "TimeoutError", "True", "TypeError",
   "UnboundLocalError", "UnicodeDecodeError", "UnicodeEncodeError", "UnicodeError",
   "UnicodeTranslateError", "UnicodeWarning", "UserWarning", "ValueError", "Warning",
   "ZeroDivisionError", "__build_class__", "__debug__", "__doc__", "__import__", "__loader__",
   "__name__", "__package__", "__spec__", "abs", "aiter", "all", "anext", "any", "ascii", "bin",
   "bool", "breakpoint", "bytearray", "bytes", "callable", "chr", "classmethod", "compile", "complex",
   "copyright", "credits", "delattr", "dict", "dir", "divmod", "enumerate", "eval", "exec", "exit",
   "filter", "float", "format", "frozenset", "getattr", "globals", "hasattr", "hash", "help", "hex",
   "id", "input", "int", "isinstance", "issubclass", "iter", "len", "license", "list", "locals",
   "map", "max", "memoryview", "min", "next", "object", "oct", "open", "ord", "pow", "print",
   "property", "quit", "range", "repr", "reversed", "round", "set", "setattr", "slice", "sorted",
   "staticmethod", "str", "sum", "super", "tuple", "type", "vars", "zip"]

/-- A qualified name followed by what is left of a dotted name. -/
def extend (base rest : String) : String :=
  if rest.isEmpty then base else base ++ "." ++ rest

/-- What the first part of a dotted name stands for in the module: an import, else a definition, else
a name that every module has. -/
def SymbolTable.resolveHead (t : SymbolTable) (head : String) : Option String :=
  match t.imports.get? head with
  | some target => some target
  | none =>
    if t.definitions.contains head then some (qualify t.module head)
    else if builtinNames.contains head then some ("builtins." ++ head)
    else none

/-- The qualified name that a dotted name of the module refers to, if its first part is bound. -/
def SymbolTable.resolve (t : SymbolTable) (dotted : String) : Option String :=
  let (head, rest) := splitHead dotted
  (t.resolveHead head).map fun base => extend base rest

end FluentBuilders
