/-!
Sorting that keeps equal items in their order, by putting one item after the other into its place.
-/

namespace FluentBuilders

variable {α : Type}

/-- Puts an item before the first one that it may stand before. -/
def placeItem (before : α → α → Bool) (a : α) : List α → List α
  | [] => [a]
  | b :: rest => if before a b then a :: b :: rest else b :: placeItem before a rest

/-- The items in order. -/
def sortItems (before : α → α → Bool) : List α → List α
  | [] => []
  | a :: rest => placeItem before a (sortItems before rest)

/-- Texts in the order of their characters. -/
def sortTexts (texts : List String) : List String := sortItems (fun s t => decide (s ≤ t)) texts

/-- Items in the order of their keys. -/
def sortByKey (key : α → String) (items : List α) : List α :=
  sortItems (fun a b => decide (key a ≤ key b)) items

theorem placeItem_perm (before : α → α → Bool) (a : α) (l : List α) :
    (placeItem before a l).Perm (a :: l) := by
  induction l with
  | nil => exact .refl _
  | cons b rest ih =>
    unfold placeItem
    split
    · exact .refl _
    · exact (ih.cons b).trans (.swap a b rest)

/-- Sorting loses nothing and adds nothing. -/
theorem sortItems_perm (before : α → α → Bool) (l : List α) : (sortItems before l).Perm l := by
  induction l with
  | nil => exact .refl _
  | cons a rest ih => exact (placeItem_perm before a _).trans (ih.cons a)

theorem sortByKey_perm (key : α → String) (items : List α) : (sortByKey key items).Perm items :=
  sortItems_perm _ items

end FluentBuilders
