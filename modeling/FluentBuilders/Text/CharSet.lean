/-!
Sets of characters as ranges of code points, and the text form in which the tables of this library
are written.

1. `CharSet` and membership: a set is a list of closed ranges in increasing order.
2. `tableRows`: a table is a text of rows between blanks; a row is a list of hexadecimal numbers with
   one mark between neighbours, such as `41-5A` or `130:69,307`.
-/

namespace FluentBuilders.Text

/-! ## 1. Sets of characters -/

/-- Closed ranges of code points, in increasing order and apart from each other. -/
structure CharSet where
  /-- First and last code point of each range. -/
  ranges : List (Nat × Nat)

/-- Whether `n` lies in one of the ranges; it stops at the first range beyond `n`. -/
def CharSet.inRanges (n : Nat) : List (Nat × Nat) → Bool
  | [] => false
  | (lo, hi) :: rest => if n < lo then false else if n ≤ hi then true else inRanges n rest

/-- Whether a character belongs to the set. -/
def CharSet.contains (s : CharSet) (c : Char) : Bool :=
  CharSet.inRanges c.toNat s.ranges

/-- A set without ranges has no members. -/
@[simp] theorem CharSet.contains_nil (c : Char) : CharSet.contains ⟨[]⟩ c = false := rfl

/-! ## 2. Tables as text -/

/-- The value of a hexadecimal digit. -/
def hexDigit? (c : Char) : Option Nat :=
  if '0' ≤ c ∧ c ≤ '9' then some (c.toNat - '0'.toNat)
  else if 'A' ≤ c ∧ c ≤ 'F' then some (c.toNat - 'A'.toNat + 10)
  else if 'a' ≤ c ∧ c ≤ 'f' then some (c.toNat - 'a'.toNat + 10)
  else none

/-- Reads rows off the characters of a table: `number` is the number being read, `row` the finished
numbers of its row, last first. A blank ends a row, any other mark ends a number. -/
def tableRowsFrom (number : Option Nat) (row : List Nat) : List Char → List (List Nat)
  | [] => if number.isSome || !row.isEmpty then [(number.toList ++ row).reverse] else []
  | c :: rest =>
    match hexDigit? c with
    | some d => tableRowsFrom (some (number.getD 0 * 16 + d)) row rest
    | none =>
      if c = ' ' ∨ c = '\n' then
        if number.isSome || !row.isEmpty then
          (number.toList ++ row).reverse :: tableRowsFrom none [] rest
        else tableRowsFrom none [] rest
      else tableRowsFrom none (number.toList ++ row) rest

/-- The rows of a table. -/
def tableRows (text : String) : List (List Nat) :=
  tableRowsFrom none [] text.toList

/-- The set whose table gives one range a row, or one code point. -/
def CharSet.ofTable (text : String) : CharSet :=
  ⟨(tableRows text).filterMap fun
    | [a] => some (a, a)
    | [a, b] => some (a, b)
    | _ => none⟩

end FluentBuilders.Text
