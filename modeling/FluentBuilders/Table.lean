/-!
Tables: finite maps from texts in the order in which their keys first came.

1. `Table`, its look-up and its insertion.
2. What an insertion does to look-ups and to the keys.
-/

namespace FluentBuilders

/-! ## 1. Tables -/

/-- A finite map from texts; a key stands where it first came. -/
structure Table (α : Type) where
  entries : List (String × α)
  deriving Repr

namespace Table

variable {α : Type}

/-- The table without entries. -/
def empty : Table α := ⟨[]⟩

instance : Inhabited (Table α) := ⟨empty⟩

/-- The value of a key in a list of entries: the first one counts. -/
def find (key : String) : List (String × α) → Option α
  | [] => none
  | (k, a) :: rest => if k = key then some a else find key rest

/-- The value of a key. -/
def get? (t : Table α) (key : String) : Option α := find key t.entries

/-- Whether the key has a value. -/
def contains (t : Table α) (key : String) : Bool := (t.get? key).isSome

/-- Puts a value into a list of entries, in the place of the one its key had. -/
def put (key : String) (a : α) : List (String × α) → List (String × α)
  | [] => [(key, a)]
  | (k, b) :: rest => if k = key then (k, a) :: rest else (k, b) :: put key a rest

/-- The table with a value for the key, in the place of the one it had. -/
def insert (t : Table α) (key : String) (a : α) : Table α := ⟨put key a t.entries⟩

/-- The keys in order. -/
def keys (t : Table α) : List String := t.entries.map (·.1)

/-- The values in order of their keys. -/
def values (t : Table α) : List α := t.entries.map (·.2)

/-- The number of entries. -/
def size (t : Table α) : Nat := t.entries.length

/-! ## 2. Look-ups after an insertion -/

@[simp] theorem get?_empty (key : String) : (empty : Table α).get? key = none := rfl

theorem find_put (key other : String) (a : α) (es : List (String × α)) :
    find other (put key a es) = if key = other then some a else find other es := by
  induction es with
  | nil => simp [put, find]
  | cons e rest ih =>
    obtain ⟨k, b⟩ := e
    by_cases hk : k = key
    · subst hk
      by_cases ho : k = other <;> simp [put, find, ho]
    · by_cases ho : k = other
      · subst ho
        simp [put, find, hk, Ne.symm hk]
      · simp [put, find, hk, ho, ih]

/-- An insertion is seen at its key and nowhere else. -/
theorem get?_insert (t : Table α) (key other : String) (a : α) :
    (t.insert key a).get? other = if key = other then some a else t.get? other :=
  find_put key other a t.entries

theorem keys_put (key : String) (a : α) (es : List (String × α)) :
    (put key a es).map (·.1) =
      if key ∈ es.map (·.1) then es.map (·.1) else es.map (·.1) ++ [key] := by
  induction es with
  | nil => simp [put]
  | cons e rest ih =>
    obtain ⟨k, b⟩ := e
    by_cases hk : k = key
    · simp [put, hk]
    · have hk' : key ≠ k := Ne.symm hk
      by_cases hm : key ∈ rest.map (·.1)
      · simp [put, hk, hk', ih, hm]
      · simp [put, hk, hk', ih, hm]

/-- An insertion keeps the keys in their places and adds a new one at the end. -/
theorem keys_insert (t : Table α) (key : String) (a : α) :
    (t.insert key a).keys = if key ∈ t.keys then t.keys else t.keys ++ [key] :=
  keys_put key a t.entries

end Table

end FluentBuilders
