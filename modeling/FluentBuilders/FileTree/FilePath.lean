import FluentBuilders.Text.Identifier

/-!
Names of files.

1. `FilePath`: a path as it was written, without empty parts and without the part that means "here".
2. `Location`: where a path leads, from the top.
-/

namespace FluentBuilders

open Text

/-! ## 1. Paths -/

/-- A path: its parts, and whether it starts at the top. -/
structure FilePath where
  absolute : Bool
  parts : List String
  deriving DecidableEq, Repr, Inhabited

namespace FilePath

/-- The parts of a path text that count. -/
def partsOf (s : String) : List String :=
  ((splitChars '/' s.toList).map String.ofList).filter fun part => part != "" && part != "."

/-- The path that a text names. -/
def ofText (s : String) : FilePath := ⟨['/'].isPrefixOf s.toList, partsOf s⟩

/-- The text of a path. -/
def text (p : FilePath) : String :=
  let joined := "/".intercalate p.parts
  if p.absolute then "/" ++ joined else if p.parts.isEmpty then "." else joined

/-- A path that starts from another one, unless it starts at the top. -/
def join (base p : FilePath) : FilePath :=
  if p.absolute then p else ⟨base.absolute, base.parts ++ p.parts⟩

/-- The path of an entry of a directory. -/
def child (p : FilePath) (name : String) : FilePath := p.join (ofText name)

/-- The directory of a path. -/
def parent (p : FilePath) : FilePath := ⟨p.absolute, p.parts.dropLast⟩

/-- The last part of a path. -/
def name (p : FilePath) : String := p.parts.getLast?.getD ""

end FilePath

/-! ## 2. Locations -/

/-- The names that lead from the top to a file or directory. -/
abbrev Location := List String

/-- The location that one more part leads to: two dots lead back one step. -/
def Location.step (l : Location) (part : String) : Location :=
  if part = ".." then l.dropLast else l ++ [part]

/-- The location that parts lead to. -/
def Location.follow (start : Location) (parts : List String) : Location :=
  parts.foldl Location.step start

/-- The path of a location. -/
def Location.path (l : Location) : FilePath := ⟨true, l⟩

/-- A location as a text. -/
def Location.text (l : Location) : String := (Location.path l).text

/-- Whether one location lies below another, or is the same. -/
def Location.isWithin (l base : Location) : Bool := base.isPrefixOf l

end FluentBuilders
