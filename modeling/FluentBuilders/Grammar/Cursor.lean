import FluentBuilders.Grammar.Node
import FluentBuilders.Text.Identifier
import FluentBuilders.Text.Utf8

/-!
Tokens of a source text, read where they are needed. What ends a line, and whether it counts at all,
depends on the place: a `Cursor` therefore carries the open indentations, the open brackets and
whether the clause in progress ends with its line.

1. `Cursor`, and moving it.
2. `Gap`: blanks, comments and joined lines before a token.
3. Lengths of names, numbers and marks.
4. `Token` and `Cursor.look`: the next token, not yet taken.
-/

namespace FluentBuilders.Grammar

open Text

/-! ## 1. The cursor -/

/-- A change to the text that makes a broken statement readable. -/
inductive Repair
  /-- Pass over `count` characters that start at `offset`. -/
  | drop (offset count : Nat)
  /-- Read a token at `offset` that the text lacks. -/
  | supply (offset : Nat) (token : String)
  deriving DecidableEq, Repr

/-- A place in a source text with all that decides what the next token is. -/
structure Cursor where
  rest : List Glyph
  /-- How many characters lie before. -/
  offset : Nat
  position : Position
  /-- Widths of the open blocks, innermost first; the outermost is zero. -/
  indents : List Nat
  /-- How many brackets are open in the clause. -/
  brackets : Nat
  /-- Whether the clause in progress ends with its line. -/
  ends : Bool
  /-- A change still to come. -/
  repair : Option Repair
  /-- Offset and length of each token of the statement so far, last first. -/
  trail : List (Nat × Nat)
  /-- More than the number of steps that reading the text can take. -/
  budget : Nat

/-- The cursor at the start of a text. -/
def Cursor.start (source : List Glyph) : Cursor :=
  ⟨source, 0, ⟨0, 0⟩, [0], 0, false, none, [], source.length + 2⟩

/-- The place after a character. -/
def Position.after (p : Position) (g : Glyph) : Position :=
  if g.char = '\n' then ⟨p.line + 1, 0⟩ else ⟨p.line, p.column + g.width⟩

/-- The cursor `count` characters further on. -/
def Cursor.advance (c : Cursor) : Nat → Cursor
  | 0 => c
  | count + 1 =>
    match c.rest with
    | [] => c
    | g :: rest =>
      Cursor.advance { c with rest := rest, offset := c.offset + 1, position := c.position.after g }
        count

/-- The width of the innermost open block. -/
def Cursor.indent (c : Cursor) : Nat := c.indents.headD 0

/-- Whether a line end ends the clause at the cursor. -/
def Cursor.lineBound (c : Cursor) : Bool := c.ends && c.brackets == 0

/-- The next `count` characters as a text. -/
def Cursor.spell (c : Cursor) (count : Nat) : String :=
  String.ofList ((c.rest.take count).map (·.char))

/-! ## 2. Gaps -/

/-- What lies before a token: the comments and joined lines (last first), the blanks after the last
of them (last first), whether a line ended, and the width of the indentation since. -/
structure Gap where
  cursor : Cursor
  extras : List Node
  blanks : List Char
  crossed : Bool
  indent : Nat

/-- The gap as a text. -/
def Gap.spelled (g : Gap) : String := String.ofList g.blanks.reverse

/-- The gap with the next `count` characters read as one comment or joined line. -/
def Gap.extra (g : Gap) (kind : Kind) (count : Nat) : Gap :=
  { g with
    cursor := g.cursor.advance count
    extras := .leaf kind .none g.spelled (g.cursor.spell count) g.cursor.position :: g.extras
    blanks := [] }

/-- The gap with the next character read as a blank that leaves the indentation at `indent`. -/
def Gap.blank (g : Gap) (c : Char) (indent : Nat) : Gap :=
  { g with cursor := g.cursor.advance 1, blanks := c :: g.blanks, indent := indent }

/-- The number of characters up to the line end. -/
def lineLength : List Glyph → Nat
  | [] => 0
  | g :: rest => if g.char = '\n' then 0 else lineLength rest + 1

/-- The number of characters of a joined line: a backslash and the line end right after it. -/
def joinLength : List Glyph → Option Nat
  | [_] => some 1
  | _ :: b :: rest =>
    if b.char = '\n' then some 2
    else if b.char = '\r' then
      match rest with
      | n :: _ => if n.char = '\n' then some 3 else none
      | [] => none
    else none
  | [] => none

/-- Reads the gap at the cursor. With `stop` it ends before the first line end. A tab is eight
columns wide; a return or a form feed starts the count again. -/
def Gap.read (stop : Bool) : Nat → Gap → Gap
  | 0, g => g
  | fuel + 1, g =>
    match g.cursor.rest with
    | [] => g
    | next :: _ =>
      let c := next.char
      if c = ' ' then Gap.read stop fuel (g.blank c (g.indent + 1))
      else if c = '\t' then Gap.read stop fuel (g.blank c (g.indent + 8))
      else if c = '\r' ∨ c = '\x0c' then Gap.read stop fuel (g.blank c 0)
      else if c = '\n' then
        if stop then g else Gap.read stop fuel { g.blank c 0 with crossed := true }
      else if c = '#' then Gap.read stop fuel (g.extra .comment (lineLength g.cursor.rest))
      else if c = '\\' then
        match joinLength g.cursor.rest with
        | some count => Gap.read stop fuel (g.extra .continuation count)
        | none => g
      else if c = '\x0b' ∨ c = '\uFEFF' ∨ c = '\u2060' ∨ c = '\u200B' then
        Gap.read stop fuel (g.blank c g.indent)
      else g

/-- The gap at a cursor. -/
def Cursor.gap (c : Cursor) (stop : Bool) : Gap :=
  Gap.read stop c.budget ⟨c, [], [], false, 0⟩

/-! ## 3. Lengths of tokens -/

/-- The number of characters at the front that satisfy `p`. -/
def runLength (p : Char → Bool) : List Glyph → Nat
  | [] => 0
  | g :: rest => if p g.char then runLength p rest + 1 else 0

/-- The number of characters of decimal digits with single underscores after digits. -/
def decimalLength (afterDigit : Bool) : List Glyph → Nat
  | [] => 0
  | g :: rest =>
    if g.char.isDigit then decimalLength true rest + 1
    else if g.char = '_' && afterDigit then decimalLength false rest + 1
    else 0

/-- The number of characters of digits of one base with single underscores before digits. -/
def basedLength (isDigit : Char → Bool) : List Glyph → Nat
  | [] => 0
  | g :: rest =>
    if isDigit g.char then basedLength isDigit rest + 1
    else if g.char = '_' then
      match rest with
      | d :: _ => if isDigit d.char then basedLength isDigit rest + 1 else 0
      | [] => 0
    else 0

/-- One if the next character is one of `cs`, else zero. -/
def oneOf (cs : List Char) : List Glyph → Nat
  | [] => 0
  | g :: _ => if cs.contains g.char then 1 else 0

/-- The number of characters of an exponent: the letter, a sign and digits. -/
def exponentLength (gs : List Glyph) : Nat :=
  let letter := oneOf ['e', 'E'] gs
  if letter = 0 then 0
  else
    let sign := oneOf ['+', '-'] (gs.drop 1)
    let digits := decimalLength false (gs.drop (1 + sign))
    if digits = 0 then 0 else 1 + sign + digits

/-- Whether a character is a digit of base sixteen. -/
def isHexDigit (c : Char) : Bool := (hexDigit? c).isSome

/-- The number of characters of a number at the front; zero if none starts there. -/
def numberLength (gs : List Glyph) : Nat :=
  let based (letters : List Char) (isDigit : Char → Bool) : Nat :=
    if oneOf ['0'] gs = 1 && oneOf letters (gs.drop 1) = 1 then basedLength isDigit (gs.drop 2) else 0
  let hex := based ['x', 'X'] isHexDigit
  let octal := based ['o', 'O'] fun c => '0' ≤ c && c ≤ '7'
  let binary := based ['b', 'B'] fun c => c = '0' || c = '1'
  let other := hex + octal + binary
  if other > 0 then 2 + other + oneOf ['l', 'L'] (gs.drop (2 + other))
  else
    let whole := decimalLength false gs
    let point := oneOf ['.'] (gs.drop whole)
    let fraction := if point = 1 then decimalLength false (gs.drop (whole + 1)) else 0
    if whole + fraction = 0 then 0
    else
      let digits := whole + point + fraction
      let exponent := exponentLength (gs.drop digits)
      let length := digits + exponent
      if point = 1 || exponent > 0 then length + oneOf ['j', 'J'] (gs.drop length)
      else length + oneOf ['j', 'J', 'l', 'L'] (gs.drop length)

/-- The marks of the grammar, longest first. -/
def marks : List String :=
  ["**=", "//=", ">>=", "<<=", "...",
   "**", "//", ">>", "<<", "<=", ">=", "==", "!=", "<>", "->", ":=", "+=", "-=", "*=", "/=", "%=",
   "@=", "&=", "|=", "^=",
   "+", "-", "*", "/", "%", "@", "&", "|", "^", "~", "<", ">", "(", ")", "[", "]", "\x7b", "\x7d", ",",
   ":", ".", ";", "="]

/-- Whether the text starts with the given characters. -/
def startsWithChars : List Char → List Glyph → Bool
  | [], _ => true
  | _ :: _, [] => false
  | c :: cs, g :: gs => c == g.char && startsWithChars cs gs

/-- Whether a character opens and closes strings. -/
def isQuote (c : Char) : Bool := c = '"' || c = '\'' || c = '`'

/-- Whether a letter may stand before the quote of a string. -/
def isStringLetter (c : Char) : Bool :=
  ['r', 'R', 'b', 'B', 'u', 'U', 'f', 'F', 't', 'T'].contains c

/-- The letters and the quote that open a string: their number with a tripled quote counted whole;
zero if no string starts here. -/
def quoteLength (gs : List Glyph) : Nat :=
  let letters := runLength isStringLetter gs
  match gs.drop letters with
  | q :: rest =>
    if isQuote q.char then
      letters + (if q.char ≠ '`' && startsWithChars [q.char, q.char] rest then 3 else 1)
    else 0
  | [] => 0

/-! ## 4. The next token -/

/-- What the next token is. -/
inductive Token
  | word (text : String)
  | number
  /-- The letters and the quote that open a string. -/
  | quote
  | mark (text : String)
  /-- The line, or the text, ends here. -/
  | lineEnd
  /-- The next line stands left of the open block. -/
  | dedent
  /-- A character that starts no token. -/
  | other
  deriving DecidableEq, Repr

/-- The token at the front of a non-empty text, with its length. -/
def tokenAt (gs : List Glyph) : Token × Nat :=
  match gs with
  | [] => (.lineEnd, 0)
  | g :: _ =>
    let quote := quoteLength gs
    if quote > 0 then (.quote, quote)
    else if isNameStart g.char then
      let length := runLength isNameChar gs
      (.word (String.ofList ((gs.take length).map (·.char))), length)
    else
      let number := numberLength gs
      if number > 0 then (.number, number)
      else
        match marks.find? fun m => startsWithChars m.toList gs with
        | some m => (.mark m, m.length)
        | none => (.other, 1)

/-- The next token, not yet taken: what lies before it, the cursor at its first character, what it
is and how long it is. `supplied` holds the name of a token that the text lacks. -/
structure Sight where
  extras : List Node
  gap : String
  cursor : Cursor
  token : Token
  length : Nat
  supplied : Option String

/-- The token that a supplied name stands for. -/
def suppliedToken (name : String) : Token :=
  if name = "identifier" then .word "" else .mark name

/-- What a gap leads to. -/
def Gap.sight (before : Cursor) (stop : Bool) (g : Gap) : Sight :=
  let extras := g.extras.reverse
  let plain (token : Token) (length : Nat) : Sight :=
    ⟨extras, g.spelled, g.cursor, token, length, none⟩
  match g.cursor.repair with
  | some (.supply offset name) =>
    if offset = g.cursor.offset then
      ⟨[], "", { before with repair := none }, suppliedToken name, 0, some name⟩
    else ordinary plain
  | _ => ordinary plain
where
  ordinary (plain : Token → Nat → Sight) : Sight :=
    match g.cursor.rest with
    | [] => plain .lineEnd 0
    | next :: _ =>
      if stop && next.char = '\n' then plain .lineEnd 0
      else if g.crossed && before.brackets == 0 && g.indent < before.indent then plain .dedent 0
      else
        let t := tokenAt g.cursor.rest
        plain t.1 t.2

/-- Characters that were passed over, as an error between tokens. -/
def errorNode (gap : String) (c : Cursor) (count : Nat) : Node :=
  .tree .error .none [.leaf .stray .none gap (c.spell count) c.position]

/-- The next token at a cursor; with `stop`, a line end is one. Text that a repair drops becomes an
error before the token. -/
def Cursor.look (c : Cursor) (stop : Bool) : Sight :=
  let g := c.gap stop
  match g.cursor.repair with
  | some (.drop offset count) =>
    if offset = g.cursor.offset then
      let node := errorNode g.spelled g.cursor count
      let beyond := { g.cursor.advance count with repair := none }
      let s := (beyond.gap stop).sight beyond stop
      { s with extras := g.extras.reverse ++ node :: s.extras }
    else g.sight c stop
  | _ => g.sight c stop

end FluentBuilders.Grammar
