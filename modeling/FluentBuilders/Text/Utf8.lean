import FluentBuilders.Text.Quoted

/-!
Texts as bytes.

1. `encode`: the UTF-8 bytes of a text.
2. `decodeFirst`: the character that a list of bytes starts with, or the fault that it starts with
   and how many bytes the fault takes.
3. `decodeLossy`, where each fault becomes the replacement character, and `decode?`, where the first
   fault ends the reading.
4. `unifyLines`: the three ways to end a line become one.
-/

namespace FluentBuilders.Text

/-- The content of a file. -/
abbrev Bytes := List UInt8

/-! ## 1. Encoding -/

/-- The UTF-8 bytes of a text. -/
def encode (s : String) : Bytes := s.toList.flatMap String.utf8EncodeChar

/-! ## 2. The first character -/

/-- Why bytes are not UTF-8. -/
inductive Utf8Fault
  | invalidStart
  | invalidContinuation
  | unexpectedEnd
  deriving DecidableEq, Repr

/-- The fault in words. -/
def Utf8Fault.message : Utf8Fault → String
  | .invalidStart => "invalid start byte"
  | .invalidContinuation => "invalid continuation byte"
  | .unexpectedEnd => "unexpected end of data"

/-- One character or one fault, with the number of bytes it takes. -/
structure Decoded where
  value : Except Utf8Fault Char
  width : Nat

/-- Whether a byte goes on a character that another byte started. -/
def isContinuation (b : UInt8) : Bool := 0x80 ≤ b && b < 0xC0

/-- The least second byte that may follow a first byte: no longer form than needed. -/
def leastSecond (b : UInt8) : UInt8 :=
  if b = 0xE0 then 0xA0 else if b = 0xF0 then 0x90 else 0x80

/-- The bound below which a second byte stays: no surrogate and nothing past the last character. -/
def secondBound (b : UInt8) : UInt8 :=
  if b = 0xED then 0xA0 else if b = 0xF4 then 0x90 else 0xC0

/-- How many bytes a character has that starts with this byte; zero if none does. -/
def lengthOfFirst (b : UInt8) : Nat :=
  if b < 0x80 then 1 else if b < 0xC2 then 0 else if b < 0xE0 then 2
  else if b < 0xF0 then 3 else if b < 0xF5 then 4 else 0

/-- The low six bits of a byte. -/
def lowSix (b : UInt8) : Nat := b.toNat % 64

/-- The first character of `b :: rest`. A fault takes the bytes that could still have been the start
of a character. -/
def decodeFirst (b : UInt8) (rest : Bytes) : Decoded :=
  let secondOk (c : UInt8) : Bool := leastSecond b ≤ c && c < secondBound b
  match lengthOfFirst b, rest with
  | 1, _ => ⟨.ok (Char.ofNat b.toNat), 1⟩
  | 2, [] => ⟨.error .unexpectedEnd, 1⟩
  | 2, c :: _ =>
    if isContinuation c then ⟨.ok (Char.ofNat (b.toNat % 32 * 64 + lowSix c)), 2⟩
    else ⟨.error .invalidContinuation, 1⟩
  | 3, [] => ⟨.error .unexpectedEnd, 1⟩
  | 3, [c] => if secondOk c then ⟨.error .unexpectedEnd, 2⟩ else ⟨.error .invalidContinuation, 1⟩
  | 3, c :: d :: _ =>
    if !secondOk c then ⟨.error .invalidContinuation, 1⟩
    else if !isContinuation d then ⟨.error .invalidContinuation, 2⟩
    else ⟨.ok (Char.ofNat ((b.toNat % 16 * 64 + lowSix c) * 64 + lowSix d)), 3⟩
  | 4, [] => ⟨.error .unexpectedEnd, 1⟩
  | 4, c :: more =>
    if !secondOk c then ⟨.error .invalidContinuation, 1⟩
    else
      match more with
      | [] => ⟨.error .unexpectedEnd, 2⟩
      | d :: last =>
        if !isContinuation d then ⟨.error .invalidContinuation, 2⟩
        else
          match last with
          | [] => ⟨.error .unexpectedEnd, 3⟩
          | e :: _ =>
            if !isContinuation e then ⟨.error .invalidContinuation, 3⟩
            else ⟨.ok (Char.ofNat
              (((b.toNat % 8 * 64 + lowSix c) * 64 + lowSix d) * 64 + lowSix e)), 4⟩
  | _, _ => ⟨.error .invalidStart, 1⟩

/-! ## 3. Whole texts -/

/-- The replacement character, which stands for bytes that are no character. -/
def replacement : Char := Char.ofNat 0xFFFD

/-- A character of a source text with the number of bytes it came from. -/
structure Glyph where
  char : Char
  width : Nat
  deriving DecidableEq, Repr

/-- The characters of a list of bytes; `skip` bytes belong to the character before. -/
def glyphsFrom (skip : Nat) : Bytes → List Glyph
  | [] => []
  | b :: rest =>
    match skip with
    | k + 1 => glyphsFrom k rest
    | 0 =>
      let first := decodeFirst b rest
      let char := match first.value with
        | .ok c => c
        | .error _ => replacement
      ⟨char, first.width⟩ :: glyphsFrom (first.width - 1) rest

/-- The characters of a list of bytes, each fault as the replacement character. -/
def glyphs (bytes : Bytes) : List Glyph := glyphsFrom 0 bytes

/-- The text of a list of bytes, each fault as the replacement character. -/
def decodeLossy (bytes : Bytes) : String := String.ofList ((glyphs bytes).map (·.char))

/-- Where reading stopped, and why. -/
structure Utf8Error where
  fault : Utf8Fault
  /-- First byte of the fault. -/
  start : Nat
  /-- How many bytes the fault takes. -/
  width : Nat
  /-- The byte at `start`. -/
  byte : UInt8
  deriving DecidableEq, Repr

/-- The error in words. -/
def Utf8Error.message (e : Utf8Error) : String :=
  let place :=
    if e.width = 1 then
      "byte 0x" ++ String.ofList (hexDigits 2 e.byte.toNat) ++ " in position " ++ toString e.start
    else "bytes in position " ++ toString e.start ++ "-" ++ toString (e.start + e.width - 1)
  "'utf-8' codec can't decode " ++ place ++ ": " ++ e.fault.message

/-- The characters of a list of bytes up to its first fault; `position` counts the bytes before. -/
def decodeFrom (position skip : Nat) : Bytes → Except Utf8Error (List Char)
  | [] => .ok []
  | b :: rest =>
    match skip with
    | k + 1 => decodeFrom (position + 1) k rest
    | 0 =>
      let first := decodeFirst b rest
      match first.value with
      | .error fault => .error ⟨fault, position, first.width, b⟩
      | .ok c =>
        match decodeFrom (position + 1) (first.width - 1) rest with
        | .error e => .error e
        | .ok cs => .ok (c :: cs)

/-- The text of a list of bytes that is UTF-8. -/
def decode? (bytes : Bytes) : Except Utf8Error String :=
  (decodeFrom 0 0 bytes).map String.ofList

/-! ## 4. Line ends -/

/-- A return, alone or before a line feed, becomes a line feed. -/
def unifyLineChars : List Char → List Char
  | [] => []
  | '\r' :: '\n' :: rest => '\n' :: unifyLineChars rest
  | '\r' :: rest => '\n' :: unifyLineChars rest
  | c :: rest => c :: unifyLineChars rest

/-- A text whose lines all end in a line feed. -/
def unifyLines (s : String) : String := String.ofList (unifyLineChars s.toList)

end FluentBuilders.Text
