import FluentBuilders.Proofs.BuilderText
import FluentBuilders.Proofs.Text.Dotted
import FluentBuilders.Proofs.Text.LowerCase

/-!
Names of modules as names of files.

1. `IsModuleName`: the parts of a dotted name that can each name a file.
2. `isIdentifier_snakeCase`: marks between words and small letters make identifiers of identifiers.
3. `dottedParts_builderModule`: the parts of a builder's module are those of its package and one
   identifier more.
-/

namespace FluentBuilders

open Text

/-! ## 1. Names of modules -/

/-- A character that does not part a name or a path. -/
def IsPlain (c : Char) : Prop := c ≠ '.' ∧ c ≠ '/'

instance (c : Char) : Decidable (IsPlain c) := inferInstanceAs (Decidable (_ ∧ _))

/-- A name that stands for itself in a dotted name and in a path. -/
def IsPart (s : String) : Prop := s ≠ "" ∧ ∀ c ∈ s.toList, IsPlain c

/-- A dotted name all of whose parts stand for themselves in a path. -/
def IsModuleName (m : String) : Prop := ∀ part ∈ dottedParts m, IsPart part

theorem IsPart.ne_dots {s : String} (h : IsPart s) : s ≠ ".." := by
  rintro rfl
  exact (h.2 '.' (by decide)).1 rfl

theorem IsPart.dot_not_mem {s : String} (h : IsPart s) : '.' ∉ s.toList := fun hmem =>
  (h.2 '.' hmem).1 rfl

theorem IsModuleName.ne_empty {m : String} (h : IsModuleName m) : m ≠ "" := by
  rintro rfl
  exact (h "" (by decide)).1 rfl

/-- Identifiers stand for themselves. -/
theorem isPart_of_isIdentifier {s : String} (h : isIdentifier s = true) : IsPart s := by
  refine ⟨?_, fun c hc => ?_⟩
  · rintro rfl
    cases h
  · have hchar := isNameChar_of_isIdentifier h c hc
    constructor <;> rintro rfl <;> revert hchar <;> decide

/-- Dotted names whose parts are identifiers are names of modules. -/
theorem isModuleName_of_isDotted {m : String} (h : isDotted m = true) : IsModuleName m := by
  intro part hpart
  exact isPart_of_isIdentifier (List.all_eq_true.mp h part hpart)

/-! ## 2. Words -/

theorem mem_markWords {place : WordPlace} {cs : List Char} {d : Char}
    (h : d ∈ markWords place cs) : d = '_' ∨ d ∈ cs := by
  induction cs generalizing place with
  | nil => cases place <;> cases h
  | cons c rest ih =>
    have hrest : ∀ place, d ∈ c :: markWords place rest → d = '_' ∨ d ∈ c :: rest := by
      intro place h
      rcases List.mem_cons.mp h with rfl | h
      · exact .inr List.mem_cons_self
      · exact (ih h).imp_right (List.mem_cons_of_mem _)
    have hmark : d ∈ c :: '_' :: markWords .capital rest → d = '_' ∨ d ∈ c :: rest := by
      intro h
      rcases List.mem_cons.mp h with rfl | h
      · exact .inr List.mem_cons_self
      · rcases List.mem_cons.mp h with rfl | h
        · exact .inl rfl
        · exact (ih h).imp_right (List.mem_cons_of_mem _)
    cases place with
    | capital => exact hrest _ h
    | outside =>
      unfold markWords at h
      split at h
      · exact hmark h
      · exact hrest _ h
    | inside =>
      unfold markWords at h
      split at h
      · exact hrest _ h
      split at h
      · exact hmark h
      · exact hrest _ h

theorem mem_markCapitals {cs : List Char} {d : Char} (h : d ∈ markCapitals cs) :
    d = '_' ∨ d ∈ cs := by
  fun_induction markCapitals cs with
  | case1 c u rest hmark ih =>
    rcases List.mem_cons.mp h with rfl | h
    · exact .inr List.mem_cons_self
    rcases List.mem_cons.mp h with rfl | h
    · exact .inl rfl
    rcases List.mem_cons.mp h with rfl | h
    · simp
    · exact (ih h).imp_right fun h => List.mem_cons_of_mem _ (List.mem_cons_of_mem _ h)
  | case2 c u rest hmark ih =>
    rcases List.mem_cons.mp h with rfl | h
    · exact .inr List.mem_cons_self
    · exact (ih h).imp_right (List.mem_cons_of_mem _)
  | case3 cs hne => exact .inr h

theorem markWords_cons (place : WordPlace) (c : Char) (rest : List Char) :
    ∃ more, markWords place (c :: rest) = c :: more := by
  cases place with
  | capital => exact ⟨_, rfl⟩
  | outside =>
    unfold markWords
    split
    · exact ⟨_, rfl⟩
    · exact ⟨_, rfl⟩
  | inside =>
    unfold markWords
    split
    · exact ⟨_, rfl⟩
    split
    · exact ⟨_, rfl⟩
    · exact ⟨_, rfl⟩

theorem markCapitals_cons (c : Char) (rest : List Char) :
    ∃ more, markCapitals (c :: rest) = c :: more := by
  cases rest with
  | nil => exact ⟨[], rfl⟩
  | cons u rest =>
    rw [markCapitals]
    split
    · exact ⟨_, rfl⟩
    · exact ⟨_, rfl⟩

/-- An identifier with its words apart is one. -/
theorem isIdentifier_snakeCase {name : String} (h : isIdentifier name = true) :
    isIdentifier (snakeCase name) = true := by
  obtain ⟨c, rest, hname, hc, -⟩ := isIdentifier_iff.mp h
  have hchars := isNameChar_of_isIdentifier h
  rw [hname] at hchars
  obtain ⟨words, hwords⟩ := markWords_cons .outside c rest
  obtain ⟨marked, hmarked⟩ := markCapitals_cons c words
  refine isIdentifier_lowerCase (isIdentifier_iff.mpr ⟨c, marked, ?_, hc, fun d hd => ?_⟩)
  · rw [String.toList_ofList, hname, hwords, hmarked]
  · -- a mark, or a character of the name
    have hmark : isNameChar '_' = true := by decide
    have hd : d ∈ markCapitals (markWords .outside (c :: rest)) := by
      rw [hwords, hmarked]
      exact List.mem_cons_of_mem _ hd
    rcases mem_markCapitals hd with rfl | hd
    · exact hmark
    rcases mem_markWords hd with rfl | hd
    · exact hmark
    · exact hchars d hd

/-! ## 3. Modules of builders -/

/-- The last part of a builder's module. -/
def builderLeaf (name : String) : String := snakeCase name ++ "_builder"

theorem isIdentifier_builderLeaf {name : String} (h : isIdentifier name = true) :
    isIdentifier (builderLeaf name) = true := by
  have hending : "_builder".toList.all isNameChar = true := by decide
  exact isIdentifier_append (isIdentifier_snakeCase h) (List.all_eq_true.mp hending)

/-- A package as its parts: at the top there is none. -/
def packageParts (package : String) : List String :=
  if package.isEmpty then [] else dottedParts package

theorem dottedParts_builderModule {package name : String} (h : isIdentifier name = true) :
    dottedParts (builderModule package name) = packageParts package ++ [builderLeaf name] := by
  have hleaf := dottedParts_plain (isPart_of_isIdentifier (isIdentifier_builderLeaf h)).dot_not_mem
  unfold builderModule packageParts
  dsimp only
  split
  · exact hleaf
  · exact (dottedParts_append package (builderLeaf name)).trans (by rw [hleaf])

/-- A usable blueprint stands in a module whose parts are identifiers. -/
theorem isDotted_builderModule {b : Blueprint} (h : b.Usable) :
    isDotted (builderModule b.package b.name) = true := by
  unfold isDotted
  rw [dottedParts_builderModule h.name, List.all_append, Bool.and_eq_true]
  refine ⟨?_, List.all_eq_true.mpr (List.forall_mem_singleton.mpr (isIdentifier_builderLeaf h.name))⟩
  unfold packageParts
  split
  · rfl
  · next hfull => exact h.package.resolve_left hfull

/-- A usable blueprint stands in a module whose name names a file. -/
theorem builderModule_isModuleName {b : Blueprint} (h : b.Usable) :
    IsModuleName (builderModule b.package b.name) :=
  isModuleName_of_isDotted (isDotted_builderModule h)

end FluentBuilders
