import FluentBuilders.Proofs.Text.LowerCase

/-!
Texts that lower-casing leaves as they are.

1. `CaseRange.misses`: no range of the table leads into a range of the table.
2. `IsLowered`: the characters that stay; whatever a character becomes stays.
3. `lowerCase_lowerCase`: lower-casing twice is lower-casing once.
-/

namespace FluentBuilders.Text

/-! ## 1. Ranges -/

namespace CaseRange

variable {r s : CaseRange}

/-- Whether nothing that the range leads to lies in the other one: it ends before the other, begins
behind it, or falls between its steps. -/
def misses (r s : CaseRange) : Bool :=
  r.greatest < s.first || s.last < r.least ||
    s.step = 2 && (r.step = 2 || r.first = r.last) && (r.least - s.first) % 2 = 1

theorem not_contains_of_misses (h : r.misses s = true) {n k : Nat} (hn : r.contains n = true)
    (hk : (k : Int) = n + r.shift) : s.contains k = false := by
  obtain ⟨hlo, hhi, hstep⟩ := contains_iff.mp hn
  rw [← Bool.not_eq_true, contains_iff]
  rintro ⟨hfirst, hlast, hmod⟩
  unfold misses at h
  simp only [Bool.or_eq_true, Bool.and_eq_true, decide_eq_true_eq] at h
  unfold least greatest at h
  rcases h with (h | h) | ⟨⟨hs, h⟩, hodd⟩
  · omega
  · omega
  · rw [hs] at hmod
    rcases h with hr | hr
    · rw [hr] at hstep
      omega
    · omega

/-- The capital sigma and the capital i with a dot, which do not change by a shift. -/
def unshifted : List CaseRange := [⟨0x130, 0x130, 1, 0⟩, ⟨0x3A3, 0x3A3, 1, 0⟩]

end CaseRange

/-- Ranges lead beyond ASCII, the sign of the kelvin apart, and none leads to a character that
changes. -/
theorem lowerRanges_miss : ∀ r ∈ lowerRanges, (r = .kelvin ∨ r.isBeyond = true) ∧
    (CaseRange.unshifted ++ lowerRanges).all r.misses = true := by
  decide +kernel

/-! ## 2. Characters -/

/-- Lower-casing leaves the character as it is. -/
def IsLowered (c : Char) : Prop := c ≠ 'Σ' ∧ lowerChar c = [c]

instance (c : Char) : Decidable (IsLowered c) := inferInstanceAs (Decidable (_ ∧ _))

/-- A character that is in no range, and no capital sigma or capital i with a dot, stays. -/
theorem isLowered_of_missed {c : Char} (hascii : 128 ≤ c.toNat)
    (h : ∀ r ∈ CaseRange.unshifted ++ lowerRanges, r.contains c.toNat = false) : IsLowered c := by
  have hi : CaseRange.contains ⟨0x130, 0x130, 1, 0⟩ c.toNat = false := h _ (by decide)
  have hsigma : CaseRange.contains ⟨0x3A3, 0x3A3, 1, 0⟩ c.toNat = false := h _ (by decide)
  refine ⟨?_, ?_⟩
  · rintro rfl
    revert hsigma
    decide
  · have hnone : lowerRanges.find? (fun r => r.contains c.toNat) = none :=
      List.find?_eq_none.mpr fun r hr => by
        rw [h r (List.mem_append_right _ hr)]
        exact Bool.false_ne_true
    unfold lowerChar
    rw [if_neg (by omega), if_neg, hnone]
    rintro rfl
    revert hi
    decide

/-- What a character of ASCII becomes stays. -/
theorem isLowered_ascii : ∀ c : Char, c.toNat < 128 → IsLowered c.toLower :=
  forall_ascii (by decide +kernel)

theorem isLowered_marks : IsLowered 'ς' ∧ IsLowered 'σ' ∧ IsLowered (Char.ofNat 0x307) := by
  decide +kernel

/-- What a character of a range becomes stays. -/
theorem isLowered_shifted {c : Char} {r : CaseRange} (hr : r ∈ lowerRanges)
    (hcontains : r.contains c.toNat = true) :
    IsLowered (Char.ofNat (c.toNat + r.shift).toNat) := by
  obtain ⟨rfl | hbeyond, hmisses⟩ := lowerRanges_miss r hr
  · obtain ⟨hlo, hhi, -⟩ := CaseRange.contains_iff.mp hcontains
    unfold CaseRange.kelvin at hlo hhi ⊢
    dsimp only at hlo hhi ⊢
    rw [show c.toNat = 0x212A by omega]
    decide +kernel
  · obtain ⟨hshift, hleast, -, hbeyond⟩ := toNat_shifted hbeyond hcontains
    exact isLowered_of_missed (by omega) fun s hs =>
      CaseRange.not_contains_of_misses (List.all_eq_true.mp hmisses s hs) hcontains hshift

theorem isLowered_of_mem_lowerChar {c d : Char} (hc : c ≠ 'Σ') (hd : d ∈ lowerChar c) :
    IsLowered d := by
  unfold lowerChar at hd
  split at hd
  · next hascii =>
    rw [List.mem_singleton.mp hd]
    exact isLowered_ascii c hascii
  split at hd
  · rcases List.mem_cons.mp hd with rfl | hd
    · decide
    · rw [List.mem_singleton.mp hd]
      exact isLowered_marks.2.2
  split at hd
  · next r hr =>
    have hcontains := List.find?_some hr
    rw [List.mem_singleton.mp hd]
    exact isLowered_shifted (List.mem_of_find?_eq_some hr) hcontains
  · next hascii hi _ hnone =>
    rw [List.mem_singleton.mp hd]
    refine ⟨hc, ?_⟩
    unfold lowerChar
    rw [if_neg hascii, if_neg hi, hnone]

/-- No capital of ASCII stays. -/
theorem IsLowered.toLower {c : Char} (h : IsLowered c) (hascii : c.toNat < 128) :
    c.toLower = c := by
  have hform := h.2
  unfold lowerChar at hform
  rw [if_pos hascii] at hform
  exact List.singleton_inj.mp hform

/-! ## 3. Texts -/

theorem isLowered_of_mem_lowerFrom {before cs : List Char} {d : Char}
    (hd : d ∈ lowerFrom before cs) : IsLowered d := by
  induction cs generalizing before with
  | nil => cases hd
  | cons c rest ih =>
    rw [lowerFrom, List.mem_append] at hd
    rcases hd with hd | hd
    · split at hd
      · split at hd
        · rw [List.mem_singleton.mp hd]
          exact isLowered_marks.1
        · rw [List.mem_singleton.mp hd]
          exact isLowered_marks.2.1
      · next hc => exact isLowered_of_mem_lowerChar hc hd
    · exact ih hd

theorem lowerFrom_of_lowered {before cs : List Char} (h : ∀ c ∈ cs, IsLowered c) :
    lowerFrom before cs = cs := by
  induction cs generalizing before with
  | nil => rfl
  | cons c rest ih =>
    obtain ⟨hc, hrest⟩ := List.forall_mem_cons.mp h
    rw [lowerFrom, if_neg hc.1, hc.2, ih hrest, List.singleton_append]

theorem isLowered_of_mem_lowerCase {s : String} {c : Char} (hc : c ∈ (lowerCase s).toList) :
    IsLowered c := by
  unfold lowerCase at hc
  rw [String.toList_ofList] at hc
  exact isLowered_of_mem_lowerFrom hc

/-- Lower-casing a second time changes nothing. -/
theorem lowerCase_lowerCase (s : String) : lowerCase (lowerCase s) = lowerCase s := by
  have hlowered : lowerFrom [] (lowerCase s).toList = (lowerCase s).toList :=
    lowerFrom_of_lowered fun _ => isLowered_of_mem_lowerCase
  rw [lowerCase, hlowered, String.ofList_toList]

end FluentBuilders.Text
