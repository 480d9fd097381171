import FluentBuilders.Text.LowerCase

/-!
Names of builders and of their modules: the class `HTTPServer` of the package `web` gets the builder
`HTTPServerBuilder` in the module `web.http_server_builder`.

1. `snakeCase`, in two passes: one puts a mark before each capitalised word, one before each capital
   that follows a small letter or a digit.
2. Names made from it.
-/

namespace FluentBuilders

open Text

/-! ## 1. Words -/

/-- Whether a character is a capital of ASCII. -/
def isCapital (c : Char) : Bool := 'A' ≤ c && c ≤ 'Z'

/-- Whether a character is a small letter of ASCII. -/
def isSmall (c : Char) : Bool := 'a' ≤ c && c ≤ 'z'

/-- Whether a character is a small letter or a digit of ASCII. -/
def isSmallOrDigit (c : Char) : Bool := isSmall c || ('0' ≤ c && c ≤ '9')

/-- Whether a capitalised word starts here. -/
def startsWord : List Char → Bool
  | u :: l :: _ => isCapital u && isSmall l
  | _ => false

/-- Where a reader of capitalised words stands. -/
inductive WordPlace
  /-- Outside of a marked word. -/
  | outside
  /-- Before the capital of a marked word. -/
  | capital
  /-- Among the small letters of a marked word. -/
  | inside
  deriving DecidableEq, Repr

/-- Marks each capitalised word that follows a character other than a line feed. Words are taken from
the left and whole. -/
def markWords : WordPlace → List Char → List Char
  | _, [] => []
  | .capital, c :: rest => c :: markWords .inside rest
  | .outside, c :: rest =>
    if c ≠ '\n' && startsWord rest then c :: '_' :: markWords .capital rest
    else c :: markWords .outside rest
  | .inside, c :: rest =>
    if isSmall c then c :: markWords .inside rest
    else if c ≠ '\n' && startsWord rest then c :: '_' :: markWords .capital rest
    else c :: markWords .outside rest

/-- Marks each capital that follows a small letter or a digit. -/
def markCapitals : List Char → List Char
  | c :: u :: rest =>
    if isSmallOrDigit c && isCapital u then c :: '_' :: u :: markCapitals rest
    else c :: markCapitals (u :: rest)
  | cs => cs

/-- A name in small letters, its words apart. -/
def snakeCase (name : String) : String :=
  lowerCase (String.ofList (markCapitals (markWords .outside name.toList)))

/-! ## 2. Names of builders -/

/-- The name of the builder of a class. -/
def builderTypeName (name : String) : String := name ++ "Builder"

/-- The module of the builder of a class, in the package that the builder belongs to. -/
def builderModule (package name : String) : String :=
  let leaf := snakeCase name ++ "_builder"
  if package.isEmpty then leaf else package ++ "." ++ leaf

end FluentBuilders
