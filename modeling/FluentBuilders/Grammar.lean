import FluentBuilders.Grammar.Statement
import FluentBuilders.Digest

/-!
Modules of source text and their syntax trees.

1. `Knot.tied`: the readers closed over a bound on their depth.
2. `parseModule`: the tree of a whole text. Every text has one.
3. `Parsed`: a module as it was read, with its digest and its faults.
-/

namespace FluentBuilders.Grammar

open Text

/-! ## 1. Recursion closed -/

/-- Readers that may call each other `depth` deep. -/
def Knot.tied : Nat → Knot
  | 0 => Knot.none
  | depth + 1 =>
    let inner := Knot.tied depth
    { expression := Grammar.expression inner
      interpolation := Grammar.interpolation inner
      statement := Grammar.statement inner }

/-! ## 2. Modules -/

/-- All statements of a text, with what stands behind the last. -/
def moduleLines (k : Knot) : Reader Fragment := do
  let all ← repeating [] fun sofar => do
    match ← nextIndent with
    | some _ => return some (sofar ++ (← k.statement))
    | none => return none
  let s ← look
  return all ++ s.extras

/-- The syntax tree of a text. -/
def parseModule (source : List Glyph) : Node :=
  let start := Cursor.start source
  match moduleLines (Knot.tied start.budget) start with
  | .ok (fragment, _) => .tree .module .none fragment
  | .error _ => .tree .module .none [errorNode "" start source.length]

/-! ## 3. Parsed modules -/

/-- A module as it was read. -/
structure Parsed where
  path : String
  digest : String
  tree : Node
  deriving Inhabited

/-- Reads the module that stands at `path`. -/
def Parsed.ofBytes (content : Bytes) (path : String) : Parsed :=
  ⟨path, Digest.sha256 content, parseModule (glyphs content)⟩

/-- Reads a module from its text. -/
def Parsed.ofText (content path : String) : Parsed := .ofBytes (encode content) path

/-- Where the module departs from the grammar. -/
def Parsed.faults (p : Parsed) : List Fault := p.tree.faults

/-- Whether the module keeps to the grammar. -/
def Parsed.isSound (p : Parsed) : Bool := p.faults.isEmpty

/-- One word for that. -/
def Parsed.status (p : Parsed) : String := if p.isSound then "OK" else "ERROR"

end FluentBuilders.Grammar
