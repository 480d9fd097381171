import FluentBuilders.Json
import FluentBuilders.Sorting

/-!
The printed form of a value: one member or item a line, two blanks deeper at each level, members in
the order of their keys, and nothing but printable ASCII.

1. Texts with their escapes.
2. The order of members.
3. `Json.pretty`, and `Json.compact` on one line.
-/

namespace FluentBuilders

open Text

namespace Json

/-! ## 1. Texts -/

/-- A sixteen-bit unit as an escape. -/
def unitEscape (n : Nat) : List Char := '\\' :: 'u' :: hexDigits 4 n

/-- A character inside a text. One beyond sixteen bits is written as two units. -/
def escapeChar (c : Char) : List Char :=
  if c = '"' ∨ c = '\\' then ['\\', c]
  else if c = '\n' then ['\\', 'n']
  else if c = '\r' then ['\\', 'r']
  else if c = '\t' then ['\\', 't']
  else if c.toNat = 0x0C then ['\\', 'f']
  else if c.toNat = 0x08 then ['\\', 'b']
  else if 0x20 ≤ c.toNat ∧ c.toNat < 0x7F then [c]
  else if c.toNat < 0x10000 then unitEscape c.toNat
  else
    unitEscape (0xD800 + (c.toNat - 0x10000) / 0x400) ++
      unitEscape (0xDC00 + (c.toNat - 0x10000) % 0x400)

/-- A text in its quotation marks. -/
def escapeText (s : String) : List Char := '"' :: (s.toList.flatMap escapeChar ++ ['"'])

/-! ## 2. Members in order -/

/-- Members in the order of their keys. -/
def sortMembers {α : Type} (members : List (String × α)) : List (String × α) :=
  sortByKey (·.1) members

/-! ## 3. Printed forms -/

/-- The decimal digits of a whole number. -/
def intText (n : Int) : List Char := (toString n).toList

/-- Lines that a bracket encloses, the bracket's partner `indent` deep. -/
def bracketLines (opening closing : Char) (indent : Nat) (lines : List (List Char)) : List Char :=
  if lines.isEmpty then [opening, closing]
  else
    opening :: '\n' ::
      (List.intercalate [',', '\n'] (lines.map (List.replicate (indent + 2) ' ' ++ ·)) ++
        '\n' :: (List.replicate indent ' ' ++ [closing]))

mutual
/-- A value that stands `indent` deep. -/
def prettyChars (indent : Nat) : Json → List Char
  | .null => "null".toList
  | .bool true => "true".toList
  | .bool false => "false".toList
  | .int n => intText n
  | .decimal d =>
    (if d.negative then ['-'] else []) ++ intText d.digits ++ 'e' :: intText d.exponent
  | .unbounded => "NaN".toList
  | .text s => escapeText s
  | .list items => bracketLines '[' ']' indent (prettyItems (indent + 2) items)
  | .object members =>
    bracketLines '\x7b' '\x7d' indent
      ((sortMembers (prettyMembers (indent + 2) members)).map fun m =>
        escapeText m.1 ++ ':' :: ' ' :: m.2)

/-- The items of a list, each on its own. -/
def prettyItems (indent : Nat) : List Json → List (List Char)
  | [] => []
  | item :: rest => prettyChars indent item :: prettyItems indent rest

/-- The members of an object, each value on its own. -/
def prettyMembers (indent : Nat) : List (String × Json) → List (String × List Char)
  | [] => []
  | (key, value) :: rest => (key, prettyChars indent value) :: prettyMembers indent rest
end

/-- The printed form of a value. -/
def pretty (j : Json) : String := String.ofList (prettyChars 0 j)

mutual
/-- A value on one line, its members in the order in which they are held. -/
def compactChars : Json → List Char
  | .null => "null".toList
  | .bool true => "true".toList
  | .bool false => "false".toList
  | .int n => intText n
  | .decimal d =>
    (if d.negative then ['-'] else []) ++ intText d.digits ++ 'e' :: intText d.exponent
  | .unbounded => "NaN".toList
  | .text s => escapeText s
  | .list items => '[' :: (compactItems items ++ [']'])
  | .object members => '\x7b' :: (compactMembers members ++ ['\x7d'])

/-- The items of a list with commas between them. -/
def compactItems : List Json → List Char
  | [] => []
  | [item] => compactChars item
  | item :: rest => compactChars item ++ ',' :: compactItems rest

/-- The members of an object with commas between them. -/
def compactMembers : List (String × Json) → List Char
  | [] => []
  | [(key, value)] => escapeText key ++ ':' :: compactChars value
  | (key, value) :: rest => escapeText key ++ ':' :: (compactChars value ++ ',' :: compactMembers rest)
end

/-- A value on one line. -/
def compact (j : Json) : String := String.ofList (compactChars j)

end Json

end FluentBuilders
