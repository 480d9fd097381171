/-!
Moments in time as texts: the day, the time of the day in universal time, and the offset from it.

1. `civilDate`: the date of a day that is counted from the first of January 1970.
2. `timestamp`.
-/

namespace FluentBuilders.Text

/-! ## 1. Dates -/

/-- A day of the calendar. -/
structure CivilDate where
  year : Nat
  month : Nat
  day : Nat
  deriving DecidableEq, Repr

/-- The date of a day that is counted from the first of January 1970. Years are taken to start in
March, so that the day that is sometimes left out is the last one; 146097 days make 400 years. -/
def civilDate (days : Nat) : CivilDate :=
  let shifted := days + 719468
  let ofEra := shifted % 146097
  let yearOfEra := (ofEra - ofEra / 1460 + ofEra / 36524 - ofEra / 146096) / 365
  let ofYear := ofEra - (365 * yearOfEra + yearOfEra / 4 - yearOfEra / 100)
  let shiftedMonth := (5 * ofYear + 2) / 153
  let month := if shiftedMonth < 10 then shiftedMonth + 3 else shiftedMonth - 9
  { year := yearOfEra + shifted / 146097 * 400 + if month ≤ 2 then 1 else 0
    month := month
    day := ofYear - (153 * shiftedMonth + 2) / 5 + 1 }

example : civilDate 0 = ⟨1970, 1, 1⟩ := by decide
example : civilDate 11016 = ⟨2000, 2, 29⟩ := by decide
example : civilDate 20088 = ⟨2024, 12, 31⟩ := by decide

/-! ## 2. Texts -/

/-- The last `width` decimal digits of a number. -/
def decimalDigits : Nat → Nat → List Char
  | 0, _ => []
  | width + 1, n => decimalDigits width (n / 10) ++ [Char.ofNat (0x30 + n % 10)]

/-- A number with at least `width` digits. -/
def padded (width n : Nat) : String := String.ofList (decimalDigits width n)

/-- The moment so many seconds and microseconds after the first of January 1970. -/
def timestamp (seconds micros : Nat) : String :=
  let date := civilDate (seconds / 86400)
  let second := seconds % 86400
  padded 4 date.year ++ "-" ++ padded 2 date.month ++ "-" ++ padded 2 date.day ++ "T" ++
    padded 2 (second / 3600) ++ ":" ++ padded 2 (second / 60 % 60) ++ ":" ++ padded 2 (second % 60) ++
    (if micros = 0 then "" else "." ++ padded 6 micros) ++ "+00:00"

end FluentBuilders.Text
