import FluentBuilders.Text.Identifier.Table

/-!
Which words are identifiers, and which of those are taken by the language.

1. Characters: `isNameStart`, `isNameChar`.
2. `isIdentifier` on texts, `isDotted` on dotted names.
3. The reserved words of the language (`keywords`).
-/

namespace FluentBuilders.Text

/-! ## 1. Characters of a name -/

/-- Whether a character may start an identifier. -/
def isNameStart (c : Char) : Bool :=
  if c.toNat < 128 then c.isAlpha || c = '_' else startTable.contains c

/-- Whether a character may stand inside an identifier. -/
def isNameChar (c : Char) : Bool :=
  if c.toNat < 128 then c.isAlphanum || c = '_' else continueTable.contains c

/-! ## 2. Identifiers and dotted names -/

/-- A text is an identifier if it starts like a name and goes on like one. -/
def isIdentifier (s : String) : Bool :=
  match s.toList with
  | [] => false
  | c :: rest => isNameStart c && rest.all isNameChar

/-- The empty text is no identifier. -/
@[simp] theorem isIdentifier_empty : isIdentifier "" = false := rfl

/-- The parts of a text between the occurrences of `mark`; there is always at least one. -/
def splitChars (mark : Char) : List Char → List (List Char)
  | [] => [[]]
  | c :: rest =>
    if c = mark then [] :: splitChars mark rest
    else
      match splitChars mark rest with
      | [] => [[c]]
      | part :: parts => (c :: part) :: parts

/-- Splitting never gives the empty list. -/
theorem splitChars_ne_nil (mark : Char) (cs : List Char) : splitChars mark cs ≠ [] := by
  induction cs with
  | nil => simp [splitChars]
  | cons c rest ih =>
    unfold splitChars
    split
    · simp
    · split <;> simp

/-- The parts of a dotted name. -/
def dottedParts (s : String) : List String :=
  (splitChars '.' s.toList).map String.ofList

/-- A dotted name from its parts. -/
def joinDotted (parts : List String) : String :=
  ".".intercalate parts

/-- A dotted name all of whose parts are identifiers. -/
def isDotted (s : String) : Bool :=
  (dottedParts s).all isIdentifier

/-- First part of a dotted name and what follows its dot, empty if nothing does. -/
def splitHead (s : String) : String × String :=
  match dottedParts s with
  | [] => (s, "")
  | head :: rest => (head, joinDotted rest)

/-- What stands before the last dot of a dotted name and what follows it; without a dot the first
part is empty. -/
def splitLast (s : String) : String × String :=
  let parts := dottedParts s
  (joinDotted parts.dropLast, parts.getLast?.getD s)

/-- `base.name`, or `name` alone where there is no base. -/
def qualify (base name : String) : String :=
  if base.isEmpty then name else base ++ "." ++ name

/-! ## 3. Reserved words -/

/-- Words that are identifiers by their letters and never by the grammar. -/
def keywords : List String :=
  ["False", "None", "True", "and", "as", "assert", "async", "await", "break", "class", "continue",
   "def", "del", "elif", "else", "except", "finally", "for", "from", "global", "if", "import", "in",
   "is", "lambda", "nonlocal", "not", "or", "pass", "raise", "return", "try", "while", "with",
   "yield"]

/-- Whether a word is reserved. -/
def isKeyword (s : String) : Bool := keywords.contains s

end FluentBuilders.Text
