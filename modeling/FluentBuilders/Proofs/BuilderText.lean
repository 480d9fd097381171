import FluentBuilders.BuilderText
import FluentBuilders.Proofs.Text.Utf8

/-!
What a usable blueprint promises of its names, and of the text made of them.

1. `Blueprint.Usable`: the names of a blueprint without fault. `Blueprint.settled`: its module in full.
2. `Lacks`: characters that are in no line of a text, if they are not in its types.
3. The lines of a text; `header_first`: how every text starts.
-/

namespace FluentBuilders

open Text

/-! ## 1. Usable blueprints -/

/-- Every name of the blueprint can stand where the text puts it, and every property has a type. -/
structure Blueprint.Usable (b : Blueprint) : Prop where
  name : isIdentifier b.name = true
  module : isDotted b.origin = true
  package : b.package.isEmpty = true ∨ isDotted b.package = true
  properties : ∀ p ∈ b.properties,
    isIdentifier p.name = true ∧ isReserved p.name = false ∧ isAllBlank p.type = false

theorem Blueprint.usable {b : Blueprint} (h : b.fault? = none) : b.Usable := by
  unfold fault? at h
  split at h
  · cases h
  next hname =>
  split at h
  · cases h
  split at h
  · cases h
  next hmodule =>
  split at h
  · cases h
  next hpackage =>
  refine ⟨by simpa using hname, by simpa using hmodule, by grind, fun p hp => ?_⟩
  have hp := List.findSome?_eq_none_iff.mp h p hp
  unfold Property.fault? at hp
  grind

/-- The blueprint with its module written out. -/
def Blueprint.settled (b : Blueprint) : Blueprint := { b with sourceModule := some b.origin }

/-- Whether the module is written out makes no difference. -/
theorem Blueprint.render_settled (b : Blueprint) : b.settled.render = b.render := rfl

/-! ## 2. The text -/

theorem mem_splitChars (mark : Char) {c : Char} {cs : List Char} (h : c ∈ cs) :
    c = mark ∨ ∃ part ∈ splitChars mark cs, c ∈ part := by
  induction cs with
  | nil => cases h
  | cons d rest ih =>
    unfold splitChars
    split
    · next hd =>
      rcases List.mem_cons.mp h with rfl | h
      · exact .inl hd
      · rcases ih h with heq | ⟨part, hpart, hc⟩
        · exact .inl heq
        · exact .inr ⟨part, List.mem_cons_of_mem _ hpart, hc⟩
    · cases hrest : splitChars mark rest with
      | nil => exact absurd hrest (splitChars_ne_nil mark rest)
      | cons part parts =>
        rcases List.mem_cons.mp h with rfl | h
        · exact .inr ⟨_, List.mem_cons_self, List.mem_cons_self⟩
        · rw [hrest] at ih
          rcases ih h with heq | ⟨p, hp, hc⟩
          · exact .inl heq
          rcases List.mem_cons.mp hp with rfl | hp
          · exact .inr ⟨_, List.mem_cons_self, List.mem_cons_of_mem _ hc⟩
          · exact .inr ⟨p, List.mem_cons_of_mem _ hp, hc⟩

/-- A text without the character. -/
def Lacks (c : Char) (s : String) : Prop := c ∉ s.toList

@[simp] theorem lacks_append (c : Char) (s s' : String) :
    Lacks c (s ++ s') ↔ Lacks c s ∧ Lacks c s' := by
  unfold Lacks
  rw [String.toList_append, List.mem_append, not_or]

instance (c : Char) (s : String) : Decidable (Lacks c s) := inferInstanceAs (Decidable (¬ _))

/-- The words that texts of builders are made of, apart from names and types. -/
def textWords : List String :=
  [generatedHeader, generatorVersion, toolName, valueStore, Blueprint.step, "", " ", " from ", ".",
    ". Do not edit.", "# namespace: ", "from __future__ import annotations",
    "from typing import Any, Dict", "from ", ".errors import MissingRequiredField", " import ",
    "class ", ":", "\"\"\"Fluent builder for :class:`", "`.\"\"\"", "Builder",
    "def __init__(self) -> None:", "self.", ": Dict[str, Any] = \x7b\x7d", "def ",
    "(self, value: ", ") -> ", "[\"", "\"] = value", "return self", "def build(self) -> ",
    "return ", "()", "(", ")", "if self.", ".get(\"", "\") is None:",
    "raise MissingRequiredField(\"", "\")", "=self.", "\"],"]

/-- A character that is in no name and in none of the words. -/
structure Foreign (c : Char) : Prop where
  start : isNameStart c = false
  char : isNameChar c = false
  dot : c ≠ '.'
  words : ∀ s ∈ textWords, Lacks c s

theorem foreign_return : Foreign '\r' := ⟨by decide, by decide, by decide, by decide⟩

theorem foreign_lineFeed : Foreign '\n' := ⟨by decide, by decide, by decide, by decide⟩

theorem foreign_at : Foreign '@' := ⟨by decide, by decide, by decide, by decide⟩

section Foreign

variable {c : Char} {s : String}

theorem Foreign.identifier (hc : Foreign c) (h : isIdentifier s = true) : Lacks c s := by
  unfold isIdentifier at h
  unfold Lacks
  split at h
  · cases h
  · next first rest hs =>
    rw [hs]
    rw [Bool.and_eq_true] at h
    intro hmem
    rcases List.mem_cons.mp hmem with rfl | hmem
    · rw [hc.start] at h
      cases h.1
    · have hchar := List.all_eq_true.mp h.2 _ hmem
      rw [hc.char] at hchar
      cases hchar

theorem Foreign.dotted (hc : Foreign c) (h : isDotted s = true) : Lacks c s := by
  intro hmem
  rcases mem_splitChars '.' hmem with hmark | ⟨part, hpart, hmem⟩
  · exact absurd hmark hc.dot
  · have hidentifier := List.all_eq_true.mp h (String.ofList part) (List.mem_map_of_mem hpart)
    refine hc.identifier hidentifier ?_
    rwa [String.toList_ofList]

end Foreign

/-- The characters of lines, each with its line feed. -/
def spread (lines : List String) : List Char := lines.flatMap fun line => line.toList ++ ['\n']

namespace Blueprint

variable {b : Blueprint} {c : Char}

/-- No name of the blueprint has the character. -/
structure Lack (c : Char) (b : Blueprint) : Prop where
  name : Lacks c b.name
  module : Lacks c b.origin
  package : Lacks c b.package
  properties : ∀ p ∈ b.properties, Lacks c p.name

theorem Usable.lack (h : b.Usable) (hc : Foreign c) : b.Lack c where
  name := hc.identifier h.name
  module := hc.dotted h.module
  package := by
    rcases h.package with hempty | hdotted
    · rw [String.isEmpty_iff.mp hempty]
      exact List.not_mem_nil
    · exact hc.dotted hdotted
  properties p hp := hc.identifier (h.properties p hp).1

theorem lacks_header (hc : Foreign c) (h : b.Lack c) : ∀ line ∈ b.header, Lacks c line := by
  have hwords := hc.words
  simp only [textWords, List.forall_mem_cons] at hwords
  unfold header
  split <;> simp [h.name, h.module, h.package, hwords]

theorem lacks_classHead (hc : Foreign c) (h : b.Lack c) : ∀ line ∈ b.classHead, Lacks c line := by
  have hwords := hc.words
  simp only [textWords, List.forall_mem_cons] at hwords
  simp [classHead, builderTypeName, h.name, hwords]

theorem lacks_constructor (hc : Foreign c) : ∀ line ∈ constructor, Lacks c line := by
  have hwords := hc.words
  simp only [textWords, List.forall_mem_cons] at hwords
  simp [constructor, hwords]

theorem lacks_setter (hc : Foreign c) (h : b.Lack c) {p : Property} (hp : p ∈ b.properties)
    (htype : Lacks c p.type) : ∀ line ∈ setter (builderTypeName b.name) p, Lacks c line := by
  have hwords := hc.words
  simp only [textWords, List.forall_mem_cons] at hwords
  simp [setter, builderTypeName, h.name, h.properties p hp, htype, hwords]

theorem lacks_check (hc : Foreign c) (h : b.Lack c) {p : Property} (hp : p ∈ b.properties) :
    ∀ line ∈ check p, Lacks c line := by
  have hwords := hc.words
  simp only [textWords, List.forall_mem_cons] at hwords
  simp [check, h.properties p hp, hwords]

theorem lacks_argument (hc : Foreign c) (h : b.Lack c) {p : Property} (hp : p ∈ b.properties) :
    Lacks c (argument p) := by
  have hwords := hc.words
  simp only [textWords, List.forall_mem_cons] at hwords
  simp [argument, h.properties p hp, hwords]

theorem lacks_build (hc : Foreign c) (h : b.Lack c) : ∀ line ∈ b.build, Lacks c line := by
  have hwords := hc.words
  simp only [textWords, List.forall_mem_cons] at hwords
  unfold build
  split
  · simp [h.name, hwords]
  · simp only [List.forall_mem_cons, List.forall_mem_append, List.forall_mem_flatMap,
      List.forall_mem_map]
    refine ⟨by simp [h.name, hwords], fun p hp => lacks_check hc h hp, by simp [h.name, hwords],
      fun p hp => lacks_argument hc h hp, by simp [hwords]⟩

/-- The lines up to the first setter. -/
def opening (b : Blueprint) : List String :=
  b.header ++ ["", ""] ++ b.classHead ++ if b.properties.isEmpty then [] else "" :: constructor

/-- The lines from the first setter on. -/
def methods (b : Blueprint) : List String :=
  b.properties.flatMap (fun p => "" :: setter (builderTypeName b.name) p) ++ "" :: b.build

theorem lines_eq (b : Blueprint) : b.lines = b.opening ++ b.methods := by
  unfold lines opening methods
  rw [List.append_assoc]

theorem lacks_opening (hc : Foreign c) (h : b.Lack c) : ∀ line ∈ b.opening, Lacks c line := by
  have hempty : Lacks c "" := List.not_mem_nil
  unfold opening
  simp only [List.forall_mem_append, List.forall_mem_cons]
  refine ⟨⟨⟨lacks_header hc h, hempty, hempty, by simp⟩, lacks_classHead hc h⟩, ?_⟩
  split
  · simp
  · exact List.forall_mem_cons.mpr ⟨hempty, lacks_constructor hc⟩

theorem lacks_methods (hc : Foreign c) (h : b.Lack c) (htypes : ∀ p ∈ b.properties, Lacks c p.type) :
    ∀ line ∈ b.methods, Lacks c line := by
  have hempty : Lacks c "" := List.not_mem_nil
  unfold methods
  simp only [List.forall_mem_append, List.forall_mem_cons, List.forall_mem_flatMap]
  exact ⟨fun p hp => ⟨hempty, lacks_setter hc h hp (htypes p hp)⟩, hempty, lacks_build hc h⟩

theorem text_toList (b : Blueprint) : b.text.toList = spread b.lines := by
  unfold text spread
  simp [String.toList_join, List.flatMap_map]

/-- The text of a usable blueprint holds no return, if the types of its properties hold none. -/
theorem lacks_text (h : b.Usable) (htypes : ∀ p ∈ b.properties, Lacks '\r' p.type) :
    Lacks '\r' b.text := by
  have hlack := h.lack foreign_return
  have hlines : ∀ line ∈ b.lines, Lacks '\r' line := by
    rw [lines_eq]
    exact List.forall_mem_append.mpr
      ⟨lacks_opening foreign_return hlack, lacks_methods foreign_return hlack htypes⟩
  unfold Lacks
  rw [text_toList]
  intro hmem
  obtain ⟨line, hline, hmem⟩ := List.mem_flatMap.mp hmem
  rcases List.mem_append.mp hmem with hmem | hmem
  · exact hlines line hline hmem
  · exact absurd (List.mem_singleton.mp hmem) (by decide)

/-- Every text starts with the line by which builders are known. -/
theorem header_first (b : Blueprint) : generatedHeader.toList <+: b.text.toList := by
  unfold text lines header
  rw [String.toList_join]
  simp only [List.cons_append, List.map_cons, List.flatMap_cons, String.toList_append,
    List.append_assoc]
  exact List.prefix_append ..

end Blueprint

end FluentBuilders
