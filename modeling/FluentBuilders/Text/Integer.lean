import FluentBuilders.Text.Blank

/-!
Whole numbers as people write them in settings: blanks around, a sign, decimal digits of any script,
and single underscores between digits. A number of more than `maxDigits` digits is refused.
-/

namespace FluentBuilders.Text

/-- The zeros of the scripts that have decimal digits; the other nine follow each of them. -/
def zeroDigits : List Nat :=
  [0x30, 0x660, 0x6F0, 0x7C0, 0x966, 0x9E6, 0xA66, 0xAE6, 0xB66, 0xBE6, 0xC66, 0xCE6, 0xD66, 0xDE6,
   0xE50, 0xED0, 0xF20, 0x1040, 0x1090, 0x17E0, 0x1810, 0x1946, 0x19D0, 0x1A80, 0x1A90, 0x1B50,
   0x1BB0, 0x1C40, 0x1C50, 0xA620, 0xA8D0, 0xA900, 0xA9D0, 0xA9F0, 0xAA50, 0xABF0, 0xFF10, 0x104A0,
   0x10D30, 0x11066, 0x110F0, 0x11136, 0x111D0, 0x112F0, 0x11450, 0x114D0, 0x11650, 0x116C0, 0x11730,
   0x118E0, 0x11950, 0x11C50, 0x11D50, 0x11DA0, 0x16A60, 0x16AC0, 0x16B50, 0x1D7CE, 0x1D7D8, 0x1D7E2,
   0x1D7EC, 0x1D7F6, 0x1E140, 0x1E2F0, 0x1E950, 0x1FBF0]

/-- The value of a decimal digit of any script. -/
def digitValue? (c : Char) : Option Nat :=
  match zeroDigits.find? fun z => z ≤ c.toNat && c.toNat ≤ z + 9 with
  | some z => some (c.toNat - z)
  | none => none

/-- How many digits a number may have. -/
def maxDigits : Nat := 4300

/-- Digits with single underscores between them: their number and their value. `afterDigit` says
that the character before was a digit. -/
def readDigits (afterDigit : Bool) (count value : Nat) : List Char → Option (Nat × Nat)
  | [] => if afterDigit then some (count, value) else none
  | c :: rest =>
    if c = '_' then
      if afterDigit then readDigits false count value rest else none
    else
      match digitValue? c with
      | some d => readDigits true (count + 1) (value * 10 + d) rest
      | none => none

/-- The unsigned number that a text of digits stands for. -/
def readUnsigned (cs : List Char) : Option Nat :=
  match readDigits false 0 0 cs with
  | some (count, value) => if count ≤ maxDigits then some value else none
  | none => none

/-- The blanks that may stand around a number: all but the four separators of ASCII. -/
def isMargin (c : Char) : Bool := isBlank c && !(0x1C ≤ c.toNat && c.toNat ≤ 0x1F)

/-- The whole number that a text stands for. -/
def readInteger (s : String) : Option Int :=
  match trimWhile isMargin s.toList with
  | '-' :: digits => (readUnsigned digits).map fun n => -(n : Int)
  | '+' :: digits => (readUnsigned digits).map Int.ofNat
  | digits => (readUnsigned digits).map Int.ofNat

end FluentBuilders.Text
