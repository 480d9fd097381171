import Mathlib.Data.List.Basic
import FluentBuilders.Text.Identifier

/-!
Dotted names and their parts.

1. Splitting at a mark and putting the parts together again undo each other.
2. The same for dotted names, and what stands before the last dot.
-/

namespace FluentBuilders.Text

/-! ## 1. Parts between marks -/

section Marks

variable {mark : Char} {cs : List Char}

theorem splitChars_append (mark : Char) (before after : List Char) :
    splitChars mark (before ++ mark :: after) = splitChars mark before ++ splitChars mark after := by
  induction before with
  | nil => simp [splitChars]
  | cons c rest ih =>
    rw [List.cons_append, splitChars, splitChars, ih]
    split
    · rfl
    · cases hrest : splitChars mark rest with
      | nil => exact absurd hrest (splitChars_ne_nil mark rest)
      | cons part parts => rfl

theorem splitChars_of_not_mem (h : mark ∉ cs) : splitChars mark cs = [cs] := by
  induction cs with
  | nil => rfl
  | cons c rest ih =>
    obtain ⟨hc, hrest⟩ := List.ne_and_not_mem_of_not_mem_cons h
    rw [splitChars, if_neg (Ne.symm hc), ih hrest]

/-- The mark is in none of the parts. -/
theorem not_mem_of_mem_splitChars {part : List Char} (h : part ∈ splitChars mark cs) :
    mark ∉ part := by
  induction cs generalizing part with
  | nil =>
    rw [List.mem_singleton.mp h]
    exact List.not_mem_nil
  | cons c rest ih =>
    unfold splitChars at h
    split at h
    · rcases List.mem_cons.mp h with rfl | h
      · exact List.not_mem_nil
      · exact ih h
    · next hc =>
      cases hrest : splitChars mark rest with
      | nil => exact absurd hrest (splitChars_ne_nil mark rest)
      | cons first parts =>
        rw [hrest] at h ih
        rcases List.mem_cons.mp h with rfl | h
        · exact List.not_mem_cons_of_ne_of_not_mem (Ne.symm hc) (ih List.mem_cons_self)
        · exact ih (List.mem_cons_of_mem _ h)

/-- The parts of a text with the mark between them are the text. -/
theorem intercalate_splitChars (mark : Char) (cs : List Char) :
    [mark].intercalate (splitChars mark cs) = cs := by
  induction cs with
  | nil => rfl
  | cons c rest ih =>
    unfold splitChars
    split
    · next h =>
      subst h
      cases hrest : splitChars c rest with
      | nil => exact absurd hrest (splitChars_ne_nil c rest)
      | cons part parts =>
        rw [hrest] at ih
        simpa [List.intercalate] using ih
    · cases hrest : splitChars mark rest with
      | nil => exact absurd hrest (splitChars_ne_nil mark rest)
      | cons part parts =>
        rw [hrest] at ih
        cases parts <;> simpa [List.intercalate] using ih

/-- Parts without the mark are found again. -/
theorem splitChars_intercalate {parts : List (List Char)} (hne : parts ≠ [])
    (h : ∀ part ∈ parts, mark ∉ part) : splitChars mark ([mark].intercalate parts) = parts := by
  induction parts with
  | nil => exact absurd rfl hne
  | cons part rest ih =>
    have hpart := splitChars_of_not_mem (h part List.mem_cons_self)
    cases rest with
    | nil =>
      rw [List.intercalate_singleton]
      exact hpart
    | cons next rest =>
      rw [List.intercalate_cons_cons, List.append_assoc, List.singleton_append, splitChars_append,
        hpart, ih (List.cons_ne_nil _ _) fun p hp => h p (List.mem_cons_of_mem _ hp)]
      rfl

end Marks

/-! ## 2. Dotted names -/

section Dotted

variable {s name : String} {parts : List String}

theorem dottedParts_ne_nil (s : String) : dottedParts s ≠ [] := by
  unfold dottedParts
  exact fun h => splitChars_ne_nil '.' s.toList (List.map_eq_nil_iff.mp h)

/-- There are no dots in the parts. -/
theorem plain_of_mem_dottedParts {part : String} (h : part ∈ dottedParts s) :
    '.' ∉ part.toList := by
  obtain ⟨cs, hcs, rfl⟩ := List.mem_map.mp h
  rw [String.toList_ofList]
  exact not_mem_of_mem_splitChars hcs

theorem dottedParts_plain (h : '.' ∉ name.toList) : dottedParts name = [name] := by
  unfold dottedParts
  rw [splitChars_of_not_mem h, List.map_singleton, String.ofList_toList]

theorem dottedParts_append (s t : String) :
    dottedParts (s ++ "." ++ t) = dottedParts s ++ dottedParts t := by
  unfold dottedParts
  rw [← List.map_append, ← splitChars_append]
  simp

/-- A dotted name is put together from its parts. -/
theorem joinDotted_dottedParts (s : String) : joinDotted (dottedParts s) = s := by
  have hchars := intercalate_splitChars '.' s.toList
  refine String.toList_injective ?_
  unfold joinDotted dottedParts
  rw [String.toList_intercalate, List.map_map]
  simpa [Function.comp_def] using hchars

/-- Parts without dots are found again. -/
theorem dottedParts_joinDotted (hne : parts ≠ []) (h : ∀ part ∈ parts, '.' ∉ part.toList) :
    dottedParts (joinDotted parts) = parts := by
  have hchars : splitChars '.' (['.'].intercalate (parts.map String.toList)) =
      parts.map String.toList :=
    splitChars_intercalate (by simpa using hne) (by simpa using h)
  unfold dottedParts joinDotted
  rw [String.toList_intercalate, show ".".toList = ['.'] from rfl, hchars, List.map_map]
  simp [Function.comp_def]

/-- What follows the last dot is a name without dots, and the rest stands before it. -/
theorem splitLast_append (h : '.' ∉ name.toList) : splitLast (s ++ "." ++ name) = (s, name) := by
  unfold splitLast
  dsimp only
  rw [dottedParts_append, dottedParts_plain h, List.dropLast_concat, List.getLast?_concat,
    joinDotted_dottedParts]
  rfl

/-- Nothing stands before the last of the parts but the other ones. -/
theorem splitLast_joinDotted (h : ∀ part ∈ parts, '.' ∉ part.toList) (hname : '.' ∉ name.toList) :
    splitLast (joinDotted (parts ++ [name])) = (joinDotted parts, name) := by
  have hparts : dottedParts (joinDotted (parts ++ [name])) = parts ++ [name] := by
    refine dottedParts_joinDotted (by simp) fun part hpart => ?_
    rcases List.mem_append.mp hpart with hpart | hpart
    · exact h part hpart
    · rw [List.mem_singleton.mp hpart]
      exact hname
  unfold splitLast
  dsimp only
  rw [hparts, List.dropLast_concat, List.getLast?_concat]
  rfl

theorem dottedParts_injective {s t : String} (h : dottedParts s = dottedParts t) : s = t := by
  rw [← joinDotted_dottedParts s, h, joinDotted_dottedParts]

/-- What is split at its last dot is put together again. -/
theorem eq_of_splitLast {base : String} (h : splitLast s = (base, name)) (hbase : base ≠ "") :
    s = base ++ "." ++ name ∧ '.' ∉ name.toList := by
  unfold splitLast at h
  rw [Prod.mk.injEq] at h
  obtain ⟨rfl, hname⟩ := h
  have hparts := List.dropLast_concat_getLast (dottedParts_ne_nil s)
  rw [List.getLast?_eq_some_getLast (dottedParts_ne_nil s), Option.getD_some] at hname
  rw [hname] at hparts
  have hplain : ∀ part ∈ dottedParts s, '.' ∉ part.toList := fun _ => plain_of_mem_dottedParts
  have hdot : '.' ∉ name.toList := hplain name (hparts ▸ List.mem_concat_self)
  have hne : (dottedParts s).dropLast ≠ [] := by
    intro hnil
    rw [hnil] at hbase
    exact hbase rfl
  refine ⟨dottedParts_injective ?_, hdot⟩
  rw [dottedParts_append, dottedParts_plain hdot, dottedParts_joinDotted hne fun part hpart =>
    hplain part (List.dropLast_subset _ hpart)]
  exact hparts.symm

end Dotted

end FluentBuilders.Text
