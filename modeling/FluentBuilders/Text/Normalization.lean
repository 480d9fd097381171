import FluentBuilders.Text.Normalization.Table

/-!
Compatibility normalization with composition (NFKC), the form in which identifiers are compared.

1. Look-ups in the tables, and the arithmetic of Hangul syllables.
2. `decomposeAll`: full decomposition in canonical order.
3. `composeAll`: composition of each starter with what follows it.
-/

namespace FluentBuilders.Text

/-! ## 1. Data of single characters -/

/-- The combining class of a code point, zero for most. -/
def combiningClass (n : Nat) : Nat :=
  if n < 0x300 then 0
  else
    let hit := classTable.find? fun
      | [lo, hi, _] => lo ≤ n && n ≤ hi
      | _ => false
    match hit with
    | some [_, _, k] => k
    | _ => 0

/-- The full compatibility decomposition of a code point. -/
def decompose (n : Nat) : List Nat :=
  if n < 0xA0 then [n]
  else if 0xAC00 ≤ n ∧ n ≤ 0xD7A3 then
    let i := n - 0xAC00
    let tail := i % 28
    [0x1100 + i / 588, 0x1161 + i % 588 / 28] ++ (if tail = 0 then [] else [0x11A7 + tail])
  else
    match decompositionTable.find? fun row => row.head? == some n with
    | some (_ :: parts) => parts
    | _ => [n]

/-- The code point that two code points compose to. -/
def composePair (a b : Nat) : Option Nat :=
  if 0x1100 ≤ a ∧ a ≤ 0x1112 ∧ 0x1161 ≤ b ∧ b ≤ 0x1175 then
    some (0xAC00 + ((a - 0x1100) * 21 + (b - 0x1161)) * 28)
  else if 0xAC00 ≤ a ∧ a ≤ 0xD7A3 ∧ (a - 0xAC00) % 28 = 0 ∧ 0x11A7 < b ∧ b ≤ 0x11C2 then
    some (a + (b - 0x11A7))
  else
    let hit := compositionTable.find? fun
      | [x, y, _] => x == a && y == b
      | _ => false
    match hit with
    | some [_, _, c] => some c
    | _ => none

/-! ## 2. Decomposition -/

/-- Puts a code point behind those already placed (last first), before every mark of a higher
class that directly precedes it; a code point of class zero is never moved. -/
def placeMark (n : Nat) : List Nat → List Nat
  | [] => [n]
  | m :: rest =>
    if combiningClass n ≠ 0 ∧ combiningClass n < combiningClass m then m :: placeMark n rest
    else n :: m :: rest

/-- Marks in canonical order: within a run of marks by class, equal classes as they stood. -/
def canonicalOrder (codes : List Nat) : List Nat :=
  (codes.foldl (fun placed n => placeMark n placed) []).reverse

/-- The full compatibility decomposition of a text in canonical order. -/
def decomposeAll (codes : List Nat) : List Nat :=
  canonicalOrder (codes.flatMap decompose)

/-! ## 3. Composition -/

/-- Composes from left to right. `starter` is the last code point that others may join, `marks` are
those after it that did not (last first). A code point is kept from the starter by a mark of its own
class or higher, and one of class zero by any mark. -/
def composeFrom (starter : Option Nat) (marks : List Nat) : List Nat → List Nat
  | [] => starter.toList ++ marks.reverse
  | n :: rest =>
    let k := combiningClass n
    let joined :=
      match starter, marks with
      | some s, [] => composePair s n
      | some s, m :: _ => if combiningClass m < k then composePair s n else none
      | none, _ => none
    match joined with
    | some c => composeFrom (some c) marks rest
    | none =>
      if k = 0 then starter.toList ++ marks.reverse ++ composeFrom (some n) [] rest
      else composeFrom starter (n :: marks) rest

/-- The composition of a decomposed text. -/
def composeAll (codes : List Nat) : List Nat := composeFrom none [] codes

/-- The compatibility normal form of a text; a text of ASCII is its own. -/
def normalize (s : String) : String :=
  if s.toList.all fun c => c.toNat < 128 then s
  else String.ofList ((composeAll (decomposeAll (s.toList.map Char.toNat))).map Char.ofNat)

/-- A text of ASCII is in normal form. -/
theorem normalize_ascii {s : String} (h : (s.toList.all fun c => c.toNat < 128) = true) :
    normalize s = s := by
  simp only [normalize, h, if_true]

end FluentBuilders.Text
