import FluentBuilders.Json

/-!
Reading structured data from values, with all faults at once.

1. `ValidationFault`: where a value departs from what is asked, and how.
2. `Checked`: a result or all faults, in the order of the fields.
3. Readers of texts, truth values and lists.
4. Readers of fields: needed ones, ones with a default, ones that may be missing.
-/

namespace FluentBuilders

/-! ## 1. Faults -/

/-- How a value departs from what is asked. -/
inductive FaultKind
  | missing
  | stringType
  | listType
  | modelType
  | boolType
  | boolParsing
  | valueError
  deriving DecidableEq, Repr, Inhabited

/-- The name of the kind. -/
def FaultKind.label : FaultKind → String
  | .missing => "missing"
  | .stringType => "string_type"
  | .listType => "list_type"
  | .modelType => "model_type"
  | .boolType => "bool_type"
  | .boolParsing => "bool_parsing"
  | .valueError => "value_error"

/-- A departure, with the keys and positions that lead to it. -/
structure ValidationFault where
  place : List String
  kind : FaultKind
  deriving DecidableEq, Repr, Inhabited

/-- The same fault seen from one step further out. -/
def ValidationFault.under (step : String) (f : ValidationFault) : ValidationFault :=
  { f with place := step :: f.place }

/-! ## 2. Checked results -/

/-- A result, or all faults that stand in its way. -/
inductive Checked (α : Type)
  | ok (a : α)
  | faults (all : List ValidationFault)
  deriving Repr

namespace Checked

variable {α β : Type}

/-- One fault right here. -/
def fault (kind : FaultKind) : Checked α := .faults [⟨[], kind⟩]

/-- The result mapped. -/
def map (f : α → β) : Checked α → Checked β
  | ok a => ok (f a)
  | faults all => faults all

/-- A function and its argument; the faults of both count. -/
def seq (f : Checked (α → β)) (a : Checked α) : Checked β :=
  match f, a with
  | ok f, ok a => ok (f a)
  | ok _, faults all => faults all
  | faults all, ok _ => faults all
  | faults first, faults more => faults (first ++ more)

instance : Applicative Checked where
  pure := ok
  seq f a := seq f (a ())

/-- The same faults seen from one step further out. -/
def under (step : String) : Checked α → Checked α
  | ok a => ok a
  | faults all => faults (all.map (ValidationFault.under step))

/-- The result, if there is one. -/
def result? : Checked α → Option α
  | ok a => some a
  | faults _ => none

end Checked

/-! ## 3. Readers -/

/-- What is read from a value. -/
abbrev FieldReader (α : Type) := Json → Checked α

/-- A text; nothing else counts as one. -/
def readText : FieldReader String
  | .text s => .ok s
  | _ => .fault .stringType

/-- A value that may be null. -/
def readNullable {α : Type} (read : FieldReader α) : FieldReader (Option α)
  | .null => .ok none
  | j => (read j).map some

/-- Words for a truth value. -/
def trueWords : List String := ["1", "t", "y", "on", "yes", "true"]

/-- Words for the other one. -/
def falseWords : List String := ["0", "f", "n", "no", "off", "false"]

/-- The truth value of a word; capitals of ASCII count as small letters. -/
def wordTruth? (s : String) : Option Bool :=
  let word := s.map Char.toLower
  if trueWords.contains word then some true
  else if falseWords.contains word then some false
  else none

/-- The truth value of a whole number: one or zero. Numbers beyond sixty-four bits are not even of the
right type. -/
def numberTruth (n : Int) : Checked Bool :=
  if n = 0 then .ok false
  else if n = 1 then .ok true
  else if -0x8000000000000000 ≤ n ∧ n < 0x8000000000000000 then .fault .boolParsing
  else .fault .boolType

/-- A truth value, as one, as a word or as a number. -/
def readBool : FieldReader Bool
  | .bool b => .ok b
  | .text s =>
    match wordTruth? s with
    | some b => .ok b
    | none => .fault .boolParsing
  | .int n => numberTruth n
  | .decimal d =>
    match d.rounded with
    | .whole n => numberTruth n
    | .broken | .unbounded => .fault .boolType
  | _ => .fault .boolType

/-- The items of a list, the first at position `index`. -/
def readItems {α : Type} (read : FieldReader α) (index : Nat) : List Json → Checked (List α)
  | [] => .ok []
  | j :: rest =>
    (((read j).under (toString index)).map List.cons).seq (readItems read (index + 1) rest)

/-- A list. -/
def readList {α : Type} (read : FieldReader α) : FieldReader (List α)
  | .list items => readItems read 0 items
  | _ => .fault .listType

/-! ## 4. Fields -/

/-- A field that has to be there. -/
def required {α : Type} (j : Json) (key : String) (read : FieldReader α) : Checked α :=
  match j.get? key with
  | some v => (read v).under key
  | none => (Checked.fault .missing).under key

/-- A field with a default. -/
def withDefault {α : Type} (j : Json) (key : String) (default : α) (read : FieldReader α) :
    Checked α :=
  match j.get? key with
  | some v => (read v).under key
  | none => .ok default

/-- A text field that may be missing or null. -/
def optionalText (j : Json) (key : String) : Checked (Option String) :=
  withDefault j key none (readNullable readText)

/-- Reads the fields of an object. -/
def readObject {α : Type} (read : FieldReader α) : FieldReader α
  | .object members => read (.object members)
  | _ => .fault .modelType

end FluentBuilders
