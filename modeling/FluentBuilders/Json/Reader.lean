import FluentBuilders.Json
import FluentBuilders.Text.CharSet

/-!
Values from their text. The reader keeps to the grammar: no comment, no comma before a closing
bracket, no bare control character in a text, no half of a pair of sixteen-bit units, no number of
more than `maxDigits` digits and no more than `maxDepth` filled brackets around a value.

1. Texts: `pieces` undoes the escapes, `joinPieces` the pairs of units.
2. Numbers.
3. `Json.read?`: the value that a whole text stands for.
-/

namespace FluentBuilders

open Text

namespace Json

/-- White space between the parts of a value. -/
def isSpace (c : Char) : Bool := c = ' ' || c = '\t' || c = '\n' || c = '\r'

/-- What follows white space. -/
def skipSpace (cs : List Char) : List Char := cs.dropWhile isSpace

/-! ## 1. Texts -/

/-- A part of a text: a character as it is, or a sixteen-bit unit from an escape. -/
inductive Piece
  | plain (c : Char)
  | unit (n : Nat)
  deriving DecidableEq, Repr

/-- The number that four hexadecimal digits write. -/
def fourDigits? (a b c d : Char) : Option Nat :=
  match hexDigit? a, hexDigit? b, hexDigit? c, hexDigit? d with
  | some a, some b, some c, some d => some (((a * 16 + b) * 16 + c) * 16 + d)
  | _, _, _, _ => none

/-- The character that a letter after a backslash stands for. -/
def simpleEscape? (c : Char) : Option Char :=
  if c = '"' ∨ c = '\\' ∨ c = '/' then some c
  else if c = 'b' then some '\x08'
  else if c = 'f' then some '\x0C'
  else if c = 'n' then some '\n'
  else if c = 'r' then some '\r'
  else if c = 't' then some '\t'
  else none

/-- The parts of a text up to its closing mark, and what follows that. -/
def pieces : List Char → Option (List Piece × List Char)
  | [] => none
  | '"' :: rest => some ([], rest)
  | '\\' :: 'u' :: a :: b :: c :: d :: rest =>
    match fourDigits? a b c d, pieces rest with
    | some n, some (ps, after) => some (.unit n :: ps, after)
    | _, _ => none
  | '\\' :: c :: rest =>
    match simpleEscape? c, pieces rest with
    | some e, some (ps, after) => some (.plain e :: ps, after)
    | _, _ => none
  | c :: rest =>
    if c.toNat < 0x20 ∨ c = '\\' then none
    else
      match pieces rest with
      | some (ps, after) => some (.plain c :: ps, after)
      | none => none

/-- Whether a unit is the first half of a pair. -/
def isHighHalf (n : Nat) : Bool := 0xD800 ≤ n && n < 0xDC00

/-- Whether a unit is the second half of a pair. -/
def isLowHalf (n : Nat) : Bool := 0xDC00 ≤ n && n < 0xE000

/-- The characters of the parts of a text: two halves make one character, and none stands alone. -/
def joinPieces : List Piece → Option (List Char)
  | [] => some []
  | .plain c :: rest => (joinPieces rest).map (c :: ·)
  | .unit h :: rest =>
    if isHighHalf h then
      match rest with
      | .unit l :: more =>
        if isLowHalf l then
          (joinPieces more).map (Char.ofNat (0x10000 + (h - 0xD800) * 0x400 + (l - 0xDC00)) :: ·)
        else none
      | _ => none
    else if isLowHalf h then none
    else (joinPieces rest).map (Char.ofNat h :: ·)

/-- A text after its opening mark, and what follows its closing mark. -/
def textBody (cs : List Char) : Option (String × List Char) :=
  match pieces cs with
  | some (ps, rest) => (joinPieces ps).map fun s => (String.ofList s, rest)
  | none => none

/-! ## 2. Numbers -/

/-- The number that decimal digits write. -/
def digitsValue (ds : List Char) : Nat := ds.foldl (fun n c => n * 10 + (c.toNat - 48)) 0

/-- How many digits a whole number may have. -/
def maxDigits : Nat := 4300

/-- The exponent of a number after its mark, and what follows. -/
def exponent? (cs : List Char) : Option (Int × List Char) :=
  let (negative, body) := match cs with
    | '-' :: rest => (true, rest)
    | '+' :: rest => (false, rest)
    | _ => (false, cs)
  let ds := body.takeWhile Char.isDigit
  if ds.isEmpty then none
  else
    let n : Int := digitsValue ds
    some (if negative then -n else n, body.dropWhile Char.isDigit)

/-- The number of the digits `whole`, followed by the text `cs`. -/
def numberTail (negative : Bool) (whole cs : List Char) : Option (Json × List Char) :=
  let (hasPoint, fraction, rest) := match cs with
    | '.' :: rest => (true, rest.takeWhile Char.isDigit, rest.dropWhile Char.isDigit)
    | _ => (false, [], cs)
  if hasPoint && fraction.isEmpty then none
  else
    let decimal (e : Int) : Json :=
      .decimal ⟨negative, digitsValue (whole ++ fraction), e - fraction.length⟩
    match rest with
    | c :: more =>
      if c = 'e' ∨ c = 'E' then (exponent? more).map fun (e, after) => (decimal e, after)
      else if hasPoint then some (decimal 0, rest)
      else if whole.length ≤ maxDigits then
        some (.int (if negative then -(digitsValue whole : Int) else digitsValue whole), rest)
      else none
    | [] =>
      if hasPoint then some (decimal 0, rest)
      else if whole.length ≤ maxDigits then
        some (.int (if negative then -(digitsValue whole : Int) else digitsValue whole), rest)
      else none

/-- An unsigned number. A number of several digits does not start with a zero. -/
def unsigned (negative : Bool) (cs : List Char) : Option (Json × List Char) :=
  match cs with
  | '0' :: rest =>
    match rest with
    | c :: _ => if c.isDigit then none else numberTail negative ['0'] rest
    | [] => numberTail negative ['0'] rest
  | _ =>
    let whole := cs.takeWhile Char.isDigit
    if whole.isEmpty then none else numberTail negative whole (cs.dropWhile Char.isDigit)

/-! ## 3. Values -/

/-- The text after a word that it starts with. -/
def afterWord : List Char → List Char → Option (List Char)
  | [], cs => some cs
  | w :: ws, c :: cs => if w = c then afterWord ws cs else none
  | _ :: _, [] => none

/-- How many filled brackets may stand around a value. -/
def maxDepth : Nat := 200

/-- A value that is not in brackets. -/
def scalar (cs : List Char) : Option (Json × List Char) :=
  match cs with
  | [] => none
  | '"' :: rest => (textBody rest).map fun (s, after) => (.text s, after)
  | '-' :: 'I' :: rest => (afterWord "nfinity".toList rest).map (Json.unbounded, ·)
  | '-' :: rest => unsigned true rest
  | c :: rest =>
    if c = 'n' then (afterWord "ull".toList rest).map (Json.null, ·)
    else if c = 't' then (afterWord "rue".toList rest).map (Json.bool true, ·)
    else if c = 'f' then (afterWord "alse".toList rest).map (Json.bool false, ·)
    else if c = 'N' then (afterWord "aN".toList rest).map (Json.unbounded, ·)
    else if c = 'I' then (afterWord "nfinity".toList rest).map (Json.unbounded, ·)
    else unsigned false cs

mutual
/-- The value that a text starts with, and what follows it. -/
def value : Nat → Nat → List Char → Option (Json × List Char)
  | 0, _, _ => none
  | fuel + 1, depth, cs =>
    match skipSpace cs with
    | '[' :: rest =>
      match skipSpace rest with
      | ']' :: after => some (.list [], after)
      | inner =>
        match depth with
        | 0 => none
        | d + 1 =>
          match items fuel d inner with
          | some (js, after) => some (.list js, after)
          | none => none
    | '\x7b' :: rest =>
      match skipSpace rest with
      | '\x7d' :: after => some (.object [], after)
      | inner =>
        match depth with
        | 0 => none
        | d + 1 =>
          match members fuel d inner with
          | some (ms, after) => some (.object ms, after)
          | none => none
    | start => scalar start

/-- The items of a list up to its closing bracket, and what follows that. -/
def items : Nat → Nat → List Char → Option (List Json × List Char)
  | 0, _, _ => none
  | fuel + 1, depth, cs =>
    match value fuel depth cs with
    | none => none
    | some (j, rest) =>
      match skipSpace rest with
      | ']' :: after => some ([j], after)
      | ',' :: more =>
        match items fuel depth more with
        | some (js, after) => some (j :: js, after)
        | none => none
      | _ => none

/-- The members of an object up to its closing bracket, and what follows that. -/
def members : Nat → Nat → List Char → Option (List (String × Json) × List Char)
  | 0, _, _ => none
  | fuel + 1, depth, cs =>
    match skipSpace cs with
    | '"' :: rest =>
      match textBody rest with
      | none => none
      | some (key, afterKey) =>
        match skipSpace afterKey with
        | ':' :: body =>
          match value fuel depth body with
          | none => none
          | some (j, rest) =>
            match skipSpace rest with
            | '\x7d' :: after => some ([(key, j)], after)
            | ',' :: more =>
              match members fuel depth more with
              | some (ms, after) => some ((key, j) :: ms, after)
              | none => none
            | _ => none
        | _ => none
    | _ => none
end

/-- The value that a whole text stands for, with at most `depth` filled brackets around a value. -/
def readWithin (depth : Nat) (s : String) : Option Json :=
  let cs := s.toList
  match value (2 * cs.length + 1) depth cs with
  | some (j, rest) => if (skipSpace rest).isEmpty then some j else none
  | none => none

/-- The value that a whole text stands for. -/
def read? (s : String) : Option Json := readWithin maxDepth s

end Json

end FluentBuilders
