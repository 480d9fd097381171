import FluentBuilders.Proofs.Text.Identifier
import FluentBuilders.Text.LowerCase

/-!
Small letters make identifiers of identifiers.

1. Where the ranges of the table lead: to letters, but for those that are no letters of names
   themselves.
2. `lowerChar` on the characters of names.
3. `isIdentifier_lowerCase`.
-/

namespace FluentBuilders.Text

/-! ## 1. Ranges -/

namespace CaseRange

variable {r : CaseRange}

/-- What the first character of the range becomes. -/
def least (r : CaseRange) : Nat := (r.first + r.shift).toNat

/-- What the last character of the range becomes. -/
def greatest (r : CaseRange) : Nat := (r.last + r.shift).toNat

/-- Whether all that the range leads to are characters beyond ASCII. -/
def isBeyond (r : CaseRange) : Bool :=
  128 ≤ r.least && (r.greatest < 0xD800 || 0xDFFF < r.least && r.greatest < 0x110000)

/-- The sign of the kelvin: its range alone leads to a letter of ASCII. -/
def kelvin : CaseRange := ⟨0x212A, 0x212A, 1, -8383⟩

/-- The letters in circles, which stand in no name. -/
def circled : CaseRange := ⟨0x24B6, 0x24CF, 1, 26⟩

theorem contains_iff {n : Nat} : r.contains n = true ↔
    r.first ≤ n ∧ n ≤ r.last ∧ (n - r.first) % r.step = 0 := by
  unfold contains
  rw [Bool.and_eq_true, Bool.and_eq_true, decide_eq_true_eq, decide_eq_true_eq, decide_eq_true_eq,
    and_assoc]

end CaseRange

/-- Two ranges apart, small letters may start a name. -/
theorem lowerRanges_start : ∀ r ∈ lowerRanges, r = .kelvin ∨ r = .circled ∨
    r.isBeyond = true ∧ CharSet.covers startTable.ranges r.least r.greatest = true := by
  unfold startTable CharSet.ofTable tableRows
  rw [String.toList_ofList]
  decide +kernel

/-- No letter in a circle stands in a name, and the dot that a small i keeps apart does. -/
theorem continueTable_marks :
    (∀ k < 26, CharSet.inRanges (0x24B6 + k) continueTable.ranges = false) ∧
      CharSet.inRanges 0x307 continueTable.ranges = true := by
  unfold continueTable CharSet.ofTable tableRows
  rw [String.toList_ofList]
  decide +kernel

theorem isNameChar_circled {c : Char} (h : CaseRange.circled.contains c.toNat = true) :
    isNameChar c = false := by
  obtain ⟨hlo, hhi, -⟩ := CaseRange.contains_iff.mp h
  unfold CaseRange.circled at hlo hhi
  dsimp only at hlo hhi
  have hnone := continueTable_marks.1 (c.toNat - 0x24B6) (by omega)
  rw [show 0x24B6 + (c.toNat - 0x24B6) = c.toNat by omega] at hnone
  unfold isNameChar
  rw [if_neg (by omega)]
  exact hnone

/-! ## 2. Characters -/

/-- The dot that a small i keeps apart stands inside of names. -/
theorem isNameChar_dotAbove : isNameChar (Char.ofNat 0x307) = true := by
  unfold isNameChar
  rw [if_neg (by decide)]
  exact continueTable_marks.2

/-- Both forms of the small sigma may start a name. -/
theorem isNameStart_sigma : isNameStart 'ς' = true ∧ isNameStart 'σ' = true := by
  unfold isNameStart startTable CharSet.ofTable tableRows
  rw [String.toList_ofList]
  decide +kernel

/-- What a character becomes lies between what the ends of its range become. -/
theorem toNat_shifted {c : Char} {r : CaseRange} (hbeyond : r.isBeyond = true)
    (hcontains : r.contains c.toNat = true) :
    ((Char.ofNat (c.toNat + r.shift).toNat).toNat : Int) = c.toNat + r.shift ∧
      r.least ≤ (Char.ofNat (c.toNat + r.shift).toNat).toNat ∧
      (Char.ofNat (c.toNat + r.shift).toNat).toNat ≤ r.greatest ∧ 128 ≤ r.least := by
  obtain ⟨hlo, hhi, -⟩ := CaseRange.contains_iff.mp hcontains
  unfold CaseRange.isBeyond at hbeyond
  simp only [Bool.and_eq_true, Bool.or_eq_true, decide_eq_true_eq] at hbeyond
  unfold CaseRange.least CaseRange.greatest at hbeyond ⊢
  have hvalid : ((c.toNat + r.shift).toNat).isValidChar := by
    unfold Nat.isValidChar
    omega
  have hn : (Char.ofNat (c.toNat + r.shift).toNat).toNat = (c.toNat + r.shift).toNat := by
    unfold Char.ofNat
    rw [dif_pos hvalid]
    rfl
  rw [hn]
  omega

/-- A character of a range becomes one that may start a name, unless it stands in no name. -/
theorem isNameStart_shifted {c : Char} {r : CaseRange} (hr : r ∈ lowerRanges)
    (hcontains : r.contains c.toNat = true) (hc : isNameChar c = true) :
    isNameStart (Char.ofNat (c.toNat + r.shift).toNat) = true := by
  obtain ⟨hlo, hhi, -⟩ := CaseRange.contains_iff.mp hcontains
  rcases lowerRanges_start r hr with rfl | rfl | ⟨hbeyond, hcovers⟩
  · unfold CaseRange.kelvin at hlo hhi ⊢
    dsimp only at hlo hhi ⊢
    rw [show c.toNat = 0x212A by omega]
    decide
  · rw [isNameChar_circled hcontains] at hc
    cases hc
  · obtain ⟨-, hleast, hgreatest, hbeyond⟩ := toNat_shifted hbeyond hcontains
    unfold isNameStart
    rw [if_neg (by omega)]
    exact CharSet.inRanges_of_covers startTable_increasing hcovers hleast hgreatest

/-- The first character of a small form may start a name wherever the character may. -/
theorem lowerChar_start {c : Char} (h : isNameStart c = true) :
    ∃ d rest, lowerChar c = d :: rest ∧ isNameStart d = true := by
  unfold lowerChar
  split
  · next hascii =>
    have hlower : ∀ c : Char, c.toNat < 128 → isNameStart c = true → isNameStart c.toLower = true :=
      forall_ascii (by decide +kernel)
    exact ⟨_, _, rfl, hlower c hascii h⟩
  split
  · exact ⟨_, _, rfl, by decide⟩
  split
  · next r hr =>
    have hcontains := List.find?_some hr
    exact ⟨_, _, rfl, isNameStart_shifted (List.mem_of_find?_eq_some hr) hcontains
      (isNameChar_of_isNameStart h)⟩
  · exact ⟨_, _, rfl, h⟩

/-- The small form of a character of a name has characters of names. -/
theorem lowerChar_inside {c : Char} (h : isNameChar c = true) :
    ∀ d ∈ lowerChar c, isNameChar d = true := by
  unfold lowerChar
  split
  · next hascii =>
    have hlower : ∀ c : Char, c.toNat < 128 → isNameChar c = true → isNameChar c.toLower = true :=
      forall_ascii (by decide +kernel)
    exact List.forall_mem_singleton.mpr (hlower c hascii h)
  split
  · exact List.forall_mem_cons.mpr ⟨by decide, List.forall_mem_singleton.mpr isNameChar_dotAbove⟩
  split
  · next r hr =>
    have hcontains := List.find?_some hr
    exact List.forall_mem_singleton.mpr (isNameChar_of_isNameStart
      (isNameStart_shifted (List.mem_of_find?_eq_some hr) hcontains h))
  · exact List.forall_mem_singleton.mpr h

/-! ## 3. Identifiers -/

/-- Each character has its small form, or it is a capital sigma. -/
theorem lowerFrom_cons (before : List Char) (c : Char) (rest : List Char) :
    (∃ d, isNameStart d = true ∧ lowerFrom before (c :: rest) = d :: lowerFrom (c :: before) rest) ∨
      lowerFrom before (c :: rest) = lowerChar c ++ lowerFrom (c :: before) rest := by
  rw [lowerFrom]
  split
  · left
    split
    · exact ⟨'ς', isNameStart_sigma.1, rfl⟩
    · exact ⟨'σ', isNameStart_sigma.2, rfl⟩
  · exact .inr rfl

theorem lowerFrom_inside {before cs : List Char} (h : ∀ c ∈ cs, isNameChar c = true) :
    ∀ d ∈ lowerFrom before cs, isNameChar d = true := by
  induction cs generalizing before with
  | nil => exact fun d hd => absurd hd List.not_mem_nil
  | cons c rest ih =>
    obtain ⟨hc, hrest⟩ := List.forall_mem_cons.mp h
    rcases lowerFrom_cons before c rest with ⟨d, hd, hsigma⟩ | hform
    · rw [hsigma]
      exact List.forall_mem_cons.mpr ⟨isNameChar_of_isNameStart hd, ih hrest⟩
    · rw [hform]
      exact List.forall_mem_append.mpr ⟨lowerChar_inside hc, ih hrest⟩

/-- An identifier in small letters is one. -/
theorem isIdentifier_lowerCase {s : String} (h : isIdentifier s = true) :
    isIdentifier (lowerCase s) = true := by
  obtain ⟨c, rest, hs, hc, hrest⟩ := isIdentifier_iff.mp h
  have hinside : ∀ before, ∀ d ∈ lowerFrom before rest, isNameChar d = true := fun _ =>
    lowerFrom_inside hrest
  refine isIdentifier_iff.mpr ?_
  unfold lowerCase
  rw [String.toList_ofList, hs]
  rcases lowerFrom_cons [] c rest with ⟨d, hd, hsigma⟩ | hform
  · exact ⟨d, _, hsigma, hd, hinside _⟩
  · obtain ⟨d, more, hlower, hd⟩ := lowerChar_start hc
    have hmore := lowerChar_inside (isNameChar_of_isNameStart hc)
    rw [hlower] at hmore hform
    exact ⟨d, _, hform, hd, List.forall_mem_append.mpr
      ⟨(List.forall_mem_cons.mp hmore).2, hinside _⟩⟩

end FluentBuilders.Text
