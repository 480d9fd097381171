import FluentBuilders.Text.Quoted

/-!
Values of the data format in which manifests, reports and requests are written.

1. `Json`, and the members of an object.
2. Numbers with a fraction or an exponent (`Decimal`), and the whole number nearest to one.
-/

namespace FluentBuilders

/-! ## 1. Values -/

/-- A number as it was written with a fraction or an exponent: `digits · 10 ^ exponent`. -/
structure Decimal where
  negative : Bool
  digits : Nat
  exponent : Int
  deriving DecidableEq, Repr, Inhabited

/-- A value of the data format. -/
inductive Json
  | null
  | bool (b : Bool)
  | int (n : Int)
  | decimal (d : Decimal)
  /-- A number that is no finite one. -/
  | unbounded
  | text (s : String)
  | list (items : List Json)
  | object (members : List (String × Json))
  deriving Repr, Inhabited

namespace Json

/-- The value of a key among members: of several the last one counts. -/
def lookup (key : String) : List (String × Json) → Option Json
  | [] => none
  | (k, v) :: rest =>
    match lookup key rest with
    | some w => some w
    | none => if k = key then some v else none

/-- The member of an object under a key. -/
def get? (j : Json) (key : String) : Option Json :=
  match j with
  | .object members => lookup key members
  | _ => none

/-- A text, or nothing. -/
def ofText? : Option String → Json
  | some s => .text s
  | none => .null

/-- A list of texts. -/
def texts (items : List String) : Json := .list (items.map .text)

/-- A natural number. -/
def nat (n : Nat) : Json := .int n

end Json

/-! ## 2. Numbers with a fraction -/

/-- A magnitude as a quotient of two naturals, unless it is too far from one to be held in sixty-four
bits: then it is zero or has no finite value. -/
inductive Magnitude
  | quotient (num den : Nat)
  | tooSmall
  | tooLarge

/-- The magnitude of a decimal. Its decimal digits are about three tenths of its binary ones: more than
that, and less than a third. -/
def Decimal.magnitude (d : Decimal) : Magnitude :=
  let bits := Nat.log2 d.digits
  if d.digits = 0 ∨ (bits + 1) / 3 + d.exponent < -500 then .tooSmall
  else if 1000 < bits * 3 / 10 + d.exponent then .tooLarge
  else if d.exponent < 0 then .quotient d.digits (Nat.pow 10 d.exponent.natAbs)
  else .quotient (d.digits * Nat.pow 10 d.exponent.natAbs) 1

/-- What a decimal is once it is rounded to fifty-three binary digits. -/
inductive Rounded
  | whole (n : Int)
  | broken
  | unbounded
  deriving DecidableEq, Repr

/-- A quotient of naturals rounded to the nearest whole number, a half to the even neighbour. -/
def nearest (num den : Nat) : Nat :=
  let q := num / den
  let twice := 2 * (num % den)
  if twice < den then q else if den < twice then q + 1 else q + q % 2

/-- The decimal rounded to fifty-three binary digits, if that is a whole number. Below `2 ^ 53` a
number is whole when its nearest neighbour among the multiples of the last binary digit is. -/
def Decimal.rounded (d : Decimal) : Rounded :=
  let signed (n : Nat) : Int := if d.negative then -(n : Int) else n
  match d.magnitude with
  | .tooSmall => .whole 0
  | .tooLarge => .unbounded
  | .quotient num den =>
    if num <<< 1075 ≤ den then .whole 0
    else
      -- the exponent of the last of fifty-three digits
      let top : Int := (Nat.log2 num : Int) - Nat.log2 den
      let least : Int := if num <<< (-top).toNat < den <<< top.toNat then top - 53 else top - 52
      let last : Int := max least (-1074)
      let steps := nearest (num <<< (-last).toNat) (den <<< last.toNat)
      if 0 ≤ last then
        let n := steps <<< last.toNat
        if Nat.log2 n < 1024 then .whole (signed n) else .unbounded
      else if (steps >>> (-last).toNat) <<< (-last).toNat = steps then
        .whole (signed (steps >>> (-last).toNat))
      else .broken

end FluentBuilders
