import Mathlib.Data.List.TakeWhile
import FluentBuilders.Text.Blank
import FluentBuilders.Text.Identifier

/-!
The characters of identifiers.

1. Ranges: which characters a table of them holds.
2. `isNameChar_of_isNameStart`: a character that may start an identifier may stand inside one.
   No blank may (`isNameChar_of_isBlank`).
3. Identifiers that are put together.
-/

namespace FluentBuilders.Text

/-! ## 1. Ranges -/

namespace CharSet

variable {n lo hi : Nat} {ranges : List (Nat × Nat)}

/-- Whether ranges are in increasing order and apart from each other. -/
def isIncreasing : List (Nat × Nat) → Bool
  | [] => true
  | [r] => r.1.ble r.2
  | r :: next :: rest => r.1.ble r.2 && r.2.blt next.1 && isIncreasing (next :: rest)

/-- Whether one of the ranges has all numbers from `lo` to `hi`. -/
def covers (ranges : List (Nat × Nat)) (lo hi : Nat) : Bool :=
  ranges.any fun r => r.1.ble lo && hi.ble r.2

/-- Whether each of the ranges `inner` lies in one of the others; both are passed through once. -/
def within : List (Nat × Nat) → List (Nat × Nat) → Bool
  | inner, [] => inner.isEmpty
  | inner, r :: rest => within (inner.dropWhile fun s => r.1.ble s.1 && s.2.ble r.2) rest

/-- In increasing ranges, a number is found wherever it is. -/
theorem inRanges_of_mem (hranges : isIncreasing ranges = true) {r : Nat × Nat} (hr : r ∈ ranges)
    (hlo : r.1 ≤ n) (hhi : n ≤ r.2) : inRanges n ranges = true := by
  induction ranges with
  | nil => cases hr
  | cons s rest ih =>
    rw [inRanges]
    cases rest with
    | nil =>
      rw [List.mem_singleton.mp hr] at hlo hhi
      rw [if_neg (by omega), if_pos hhi]
    | cons next rest =>
      rw [isIncreasing, Bool.and_eq_true, Bool.and_eq_true, Nat.ble_eq, Nat.blt_eq] at hranges
      rcases List.mem_cons.mp hr with rfl | hr
      · rw [if_neg (by omega), if_pos hhi]
      · have hnext := ih hranges.2 hr
        -- a number in a later range is not before the next one
        have hbehind : next.1 ≤ n := by
          rw [inRanges] at hnext
          split at hnext
          · cases hnext
          · omega
        rw [if_neg (by omega), if_neg (by omega)]
        exact hnext

theorem mem_of_inRanges (h : inRanges n ranges = true) :
    ∃ r ∈ ranges, r.1 ≤ n ∧ n ≤ r.2 := by
  induction ranges with
  | nil => cases h
  | cons r rest ih =>
    rw [inRanges] at h
    split at h
    · cases h
    split at h
    · exact ⟨r, List.mem_cons_self, by omega, by omega⟩
    · obtain ⟨s, hs, hn⟩ := ih h
      exact ⟨s, List.mem_cons_of_mem _ hs, hn⟩

theorem inRanges_of_covers (hranges : isIncreasing ranges = true)
    (h : covers ranges lo hi = true) (hlo : lo ≤ n) (hhi : n ≤ hi) : inRanges n ranges = true := by
  obtain ⟨r, hr, hcovers⟩ := List.any_eq_true.mp h
  rw [Bool.and_eq_true, Nat.ble_eq, Nat.ble_eq] at hcovers
  exact inRanges_of_mem hranges hr (by omega) (by omega)

theorem inRanges_of_within {inner : List (Nat × Nat)} (hranges : isIncreasing ranges = true)
    (h : within inner ranges = true) (hn : inRanges n inner = true) : inRanges n ranges = true := by
  obtain ⟨s, hs, hlo, hhi⟩ := mem_of_inRanges hn
  have hcovers : ∃ r ∈ ranges, r.1 ≤ s.1 ∧ s.2 ≤ r.2 := by
    clear hranges hn
    induction ranges generalizing inner with
    | nil =>
      rw [within, List.isEmpty_iff] at h
      rw [h] at hs
      cases hs
    | cons r rest ih =>
      rw [within] at h
      rw [← List.takeWhile_append_dropWhile
        (p := fun s : Nat × Nat => r.1.ble s.1 && s.2.ble r.2) (l := inner), List.mem_append] at hs
      rcases hs with hs | hs
      · have hr := List.mem_takeWhile_imp hs
        rw [Bool.and_eq_true, Nat.ble_eq, Nat.ble_eq] at hr
        exact ⟨r, List.mem_cons_self, hr⟩
      · obtain ⟨r', hr', hin⟩ := ih h hs
        exact ⟨r', List.mem_cons_of_mem _ hr', hin⟩
  obtain ⟨r, hr, hrlo, hrhi⟩ := hcovers
  exact inRanges_of_mem hranges hr (by omega) (by omega)

end CharSet

/-! ## 2. The two tables -/

/-- The table of characters that start a name is in order. -/
theorem startTable_increasing : CharSet.isIncreasing startTable.ranges = true := by
  unfold startTable CharSet.ofTable tableRows
  rw [String.toList_ofList]
  decide +kernel

/-- The blanks beyond ASCII, and three characters that take no room. -/
def wideBlanks : List Nat :=
  [0x85, 0xA0, 0x1680, 0x2000, 0x2001, 0x2002, 0x2003, 0x2004, 0x2005, 0x2006, 0x2007, 0x2008, 0x2009,
   0x200A, 0x200B, 0x2028, 0x2029, 0x202F, 0x205F, 0x2060, 0x3000, 0xFEFF]

/-- The table of characters inside of names is in order and holds the other one, but no blank. -/
theorem continueTable_holds : CharSet.isIncreasing continueTable.ranges = true ∧
    CharSet.within startTable.ranges continueTable.ranges = true ∧
    ∀ n ∈ wideBlanks, CharSet.inRanges n continueTable.ranges = false := by
  unfold startTable continueTable CharSet.ofTable tableRows
  rw [String.toList_ofList, String.toList_ofList]
  decide +kernel

theorem isNameChar_of_isNameStart {c : Char} (h : isNameStart c = true) : isNameChar c = true := by
  unfold isNameStart at h
  unfold isNameChar
  split
  · next hascii =>
    rw [if_pos hascii, Bool.or_eq_true] at h
    rw [Bool.or_eq_true]
    refine h.imp_left fun h => ?_
    unfold Char.isAlphanum
    rw [h, Bool.true_or]
  · next hascii =>
    rw [if_neg hascii] at h
    exact CharSet.inRanges_of_within continueTable_holds.1 continueTable_holds.2.1 h

theorem isNameChar_of_wideBlank {c : Char} (h : c.toNat ∈ wideBlanks) : isNameChar c = false := by
  have hwide : ∀ n ∈ wideBlanks, ¬ n < 128 := by decide
  unfold isNameChar
  rw [if_neg (hwide _ h)]
  exact continueTable_holds.2.2 _ h

/-- What holds of the characters of ASCII one by one. -/
theorem forall_ascii {P : Char → Prop} (h : ∀ n < 128, P (Char.ofNat n)) (c : Char)
    (hc : c.toNat < 128) : P c := by
  have hchar := h c.toNat hc
  rwa [Char.ofNat_toNat] at hchar

theorem isNameChar_of_isBlank {c : Char} (h : isBlank c = true) : isNameChar c = false := by
  have hascii : ∀ c : Char, c.toNat < 128 → isBlank c = true → isNameChar c = false :=
    forall_ascii (by decide +kernel)
  by_cases hc : c.toNat < 128
  · exact hascii c hc h
  · unfold isBlank at h
    simp only [Bool.or_eq_true, Bool.and_eq_true, decide_eq_true_eq] at h
    refine isNameChar_of_wideBlank ?_
    unfold wideBlanks
    simp only [List.mem_cons, List.not_mem_nil, or_false]
    omega

/-! ## 3. Identifiers -/

variable {s : String}

theorem isIdentifier_iff : isIdentifier s = true ↔
    ∃ c rest, s.toList = c :: rest ∧ isNameStart c = true ∧ ∀ d ∈ rest, isNameChar d = true := by
  unfold isIdentifier
  cases s.toList with
  | nil => simp
  | cons c rest =>
    rw [Bool.and_eq_true, List.all_eq_true]
    constructor
    · rintro ⟨hc, hrest⟩
      exact ⟨c, rest, rfl, hc, hrest⟩
    · rintro ⟨c', rest', heq, hc, hrest⟩
      obtain ⟨rfl, rfl⟩ := List.cons.inj heq
      exact ⟨hc, hrest⟩

theorem isNameChar_of_isIdentifier (h : isIdentifier s = true) :
    ∀ c ∈ s.toList, isNameChar c = true := by
  obtain ⟨c, rest, hs, hc, hrest⟩ := isIdentifier_iff.mp h
  rw [hs]
  exact List.forall_mem_cons.mpr ⟨isNameChar_of_isNameStart hc, hrest⟩

/-- An identifier that goes on with such characters is one. -/
theorem isIdentifier_append {t : String} (h : isIdentifier s = true)
    (ht : ∀ c ∈ t.toList, isNameChar c = true) : isIdentifier (s ++ t) = true := by
  obtain ⟨c, rest, hs, hc, hrest⟩ := isIdentifier_iff.mp h
  refine isIdentifier_iff.mpr ⟨c, rest ++ t.toList, ?_, hc, ?_⟩
  · rw [String.toList_append, hs, List.cons_append]
  · exact List.forall_mem_append.mpr ⟨hrest, ht⟩

end FluentBuilders.Text
