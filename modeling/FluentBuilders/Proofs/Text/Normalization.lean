import FluentBuilders.Enumeration

/-!
Names and their normal forms.

1. `composePair_underscore`, `composePair_low`: an underscore composes with nothing behind it, and nothing
   composes with a character below U+0300 behind it.
2. `normalize_underscores`: two underscores in front stay where they are.
3. Normal forms of characters that are written otherwise.
4. `isTaken_normalize`: a name that is taken as it was written is taken in its normal form.
-/

namespace FluentBuilders.Text

/-! ## 1. What composes with nothing -/

/-- The code point of an underscore. -/
def underscore : Nat := 0x5F

theorem underscore_low : underscore < 0x300 := by decide

/-- The first character of the pair is no underscore, and the second one is above those of all but the
oldest alphabets. -/
def isMarkedPair (row : List Nat) : Bool :=
  row.head? != some underscore && row[1]?.any (0x300 ≤ ·)

theorem compositionTable_marked {row : List Nat} (h : row ∈ compositionTable) :
    isMarkedPair row = true := by
  have hlow : lowCompositionTable.all isMarkedPair = true := by
    unfold lowCompositionTable tableRows
    rw [String.toList_ofList]
    decide +kernel
  have hhigh : (compositionTable.drop lowCompositionTable.length).all isMarkedPair = true := by
    unfold compositionTable tableRows
    rw [List.drop_left, String.toList_ofList]
    decide +kernel
  rw [compositionTable, List.drop_left] at hhigh
  rcases List.mem_append.mp h with h | h
  · exact List.all_eq_true.mp hlow row h
  · exact List.all_eq_true.mp hhigh row h

/-- Apart from Hangul, only pairs of the table compose. -/
theorem composePair_cases {a b c : Nat} (h : composePair a b = some c) :
    0x1100 ≤ a ∧ 0x1161 ≤ b ∨ isMarkedPair [a, b, c] = true := by
  unfold composePair at h
  split at h
  · next hhangul => exact .inl ⟨hhangul.1, hhangul.2.2.1⟩
  split at h
  · next hhangul => exact .inl ⟨by omega, by omega⟩
  dsimp only at h
  split at h
  · next x y z hhit =>
    have hpair := List.find?_some hhit
    dsimp only at hpair
    rw [Bool.and_eq_true, beq_iff_eq, beq_iff_eq] at hpair
    obtain ⟨rfl, rfl⟩ := hpair
    cases h
    exact .inr (compositionTable_marked (List.mem_of_find?_eq_some hhit))
  · cases h

theorem composePair_underscore (b : Nat) : composePair underscore b = none := by
  refine Option.eq_none_iff_forall_ne_some.mpr fun c h => ?_
  rcases composePair_cases h with ⟨ha, -⟩ | hmarked
  · exact absurd ha (by decide)
  · simp [isMarkedPair] at hmarked

theorem composePair_low (a : Nat) {b : Nat} (hb : b < 0x300) : composePair a b = none := by
  refine Option.eq_none_iff_forall_ne_some.mpr fun c h => ?_
  rcases composePair_cases h with ⟨-, hb'⟩ | hmarked
  · omega
  · simp [isMarkedPair] at hmarked
    omega

/-! ## 2. Underscores in front -/

theorem combiningClass_low {n : Nat} (hn : n < 0x300) : combiningClass n = 0 := if_pos hn

/-- A code point of class zero stays where it is when one more is placed. -/
theorem placeMark_append {m : Nat} (hm : combiningClass m = 0) (n : Nat) (front back : List Nat) :
    ∃ front', placeMark n (front ++ m :: back) = front' ++ m :: back := by
  induction front with
  | nil =>
    refine ⟨[n], ?_⟩
    rw [List.nil_append, placeMark, if_neg]
    · rfl
    · rw [hm]
      exact fun h => Nat.not_lt_zero _ h.2
  | cons k front ih =>
    rw [List.cons_append, placeMark]
    split
    · obtain ⟨front', hfront'⟩ := ih
      exact ⟨k :: front', by rw [hfront']; rfl⟩
    · exact ⟨n :: k :: front, rfl⟩

theorem foldl_placeMark_append {m : Nat} (hm : combiningClass m = 0) (codes front back : List Nat) :
    ∃ front', codes.foldl (fun placed n => placeMark n placed) (front ++ m :: back) =
      front' ++ m :: back := by
  induction codes generalizing front with
  | nil => exact ⟨front, rfl⟩
  | cons n rest ih =>
    obtain ⟨front', hfront'⟩ := placeMark_append hm n front back
    rw [List.foldl_cons, hfront']
    exact ih front'

theorem decomposeAll_underscores (codes : List Nat) :
    ∃ rest, decomposeAll (underscore :: underscore :: codes) = underscore :: underscore :: rest := by
  obtain ⟨front, hfront⟩ := foldl_placeMark_append (combiningClass_low underscore_low)
    (codes.flatMap decompose) [] [underscore]
  refine ⟨front.reverse, ?_⟩
  change ((codes.flatMap decompose).foldl (fun placed n => placeMark n placed)
    ([] ++ underscore :: [underscore])).reverse = _
  rw [hfront, List.reverse_append]
  rfl

/-- A code point of class zero that does not compose with the starter is the next starter. -/
theorem composeFrom_starter {s n : Nat} (hn : combiningClass n = 0) (hpair : composePair s n = none)
    (marks codes : List Nat) :
    composeFrom (some s) marks (n :: codes) =
      s :: (marks.reverse ++ composeFrom (some n) [] codes) := by
  cases marks with
  | nil => simp [composeFrom, hn, hpair]
  | cons m marks => simp [composeFrom, hn]

/-- A mark that does not compose with the starter is kept behind it. -/
theorem composeFrom_mark {s n : Nat} (hn : combiningClass n ≠ 0) (hpair : composePair s n = none)
    (marks codes : List Nat) :
    composeFrom (some s) marks (n :: codes) = composeFrom (some s) (n :: marks) codes := by
  cases marks <;> simp [composeFrom, hn, hpair]

theorem composeAll_cons {n : Nat} (hn : combiningClass n = 0) (codes : List Nat) :
    composeAll (n :: codes) = composeFrom (some n) [] codes := by
  rw [composeAll, composeFrom]
  simp [hn]

/-- An underscore that is the starter is kept as it is. -/
theorem composeFrom_underscore (marks codes : List Nat) :
    ∃ rest, composeFrom (some underscore) marks codes = underscore :: rest := by
  induction codes generalizing marks with
  | nil => exact ⟨marks.reverse, rfl⟩
  | cons n codes ih =>
    by_cases hn : combiningClass n = 0
    · exact ⟨_, composeFrom_starter hn (composePair_underscore n) marks codes⟩
    · obtain ⟨rest, hrest⟩ := ih (n :: marks)
      refine ⟨rest, ?_⟩
      rw [composeFrom_mark hn (composePair_underscore n), hrest]

/-- Normalization leaves two underscores in front where they are. -/
theorem normalize_underscores (rest : String) : ∃ rest', normalize ("__" ++ rest) = "__" ++ rest' := by
  unfold normalize
  split
  · exact ⟨rest, rfl⟩
  · obtain ⟨codes, hcodes⟩ := decomposeAll_underscores (rest.toList.map Char.toNat)
    obtain ⟨more, hmore⟩ := composeFrom_underscore [] codes
    have hcomposed : composeAll (underscore :: underscore :: codes) =
        underscore :: underscore :: more := by
      rw [composeAll_cons (combiningClass_low underscore_low),
        composeFrom_starter (combiningClass_low underscore_low) (composePair_underscore _), hmore,
        List.reverse_nil, List.nil_append]
    have hletters : ("__" ++ rest).toList.map Char.toNat =
        underscore :: underscore :: rest.toList.map Char.toNat := by simp [underscore]
    refine ⟨String.ofList (more.map Char.ofNat), String.toList_injective ?_⟩
    rw [hletters, hcodes, hcomposed]
    simp [underscore]

/-! ## 3. Other ways to write a character -/

theorem normalize_eq {s : String} (h : (s.toList.all fun c => c.toNat < 128) = false) :
    normalize s =
      String.ofList ((composeAll (decomposeAll (s.toList.map Char.toNat))).map Char.ofNat) := by
  rw [normalize, h]
  rfl

theorem decompositionTable_latin {p : List Nat → Bool} {row : List Nat}
    (h : latinDecompositionTable.find? p = some row) : decompositionTable.find? p = some row := by
  rw [decompositionTable, List.find?_append, h, Option.some_or]

/-- A character below U+0100 with a row in the table. -/
theorem decompose_latin {n : Nat} {parts : List Nat} (hlow : 0xA0 ≤ n) (hhigh : n < 0x100)
    (h : latinDecompositionTable.find? (fun row => row.head? == some n) = some (n :: parts)) :
    decompose n = parts := by
  unfold decompose
  rw [if_neg (by omega), if_neg (by omega), decompositionTable_latin h]

/-- A raised `a` is an `a`, and a raised `2` is a `2`. -/
theorem decompose_raised : decompose 0xAA = [0x61] ∧ decompose 0xB2 = [0x32] := by
  have hrows : latinDecompositionTable.find? (fun row => row.head? == some 0xAA) = some [0xAA, 0x61] ∧
      latinDecompositionTable.find? (fun row => row.head? == some 0xB2) = some [0xB2, 0x32] := by
    unfold latinDecompositionTable tableRows
    rw [String.toList_ofList]
    decide +kernel
  exact ⟨decompose_latin (by decide) (by decide) hrows.1, decompose_latin (by decide) (by decide) hrows.2⟩

theorem normalize_raised : normalize "ª" = "a" := by
  have hletters : "ª".toList.map Char.toNat = [0xAA] := by decide
  have hdecomposed : decomposeAll [0xAA] = [0x61] := by
    rw [decomposeAll, List.flatMap_singleton, decompose_raised.1]
    decide
  rw [normalize_eq (by decide), hletters, hdecomposed, composeAll_cons (combiningClass_low (by decide))]
  decide

theorem normalize_square : normalize "x²" = "x2" := by
  have hletters : "x²".toList.map Char.toNat = [0x78, 0xB2] := by decide
  have hdecomposed : decomposeAll [0x78, 0xB2] = [0x78, 0x32] := by
    rw [decomposeAll, List.flatMap_cons, List.flatMap_singleton, decompose_raised.2]
    decide
  rw [normalize_eq (by decide), hletters, hdecomposed, composeAll_cons (combiningClass_low (by decide)),
    composeFrom_starter (combiningClass_low (by decide)) (composePair_low _ (by decide))]
  decide

end FluentBuilders.Text

namespace FluentBuilders

open Text

/-! ## 4. Names that are taken -/

/-- A word that a builder needs for itself, or that starts like one which the language does. -/
def IsTaken (s : String) : Prop := s = "build" ∨ s = valueStore ∨ ∃ rest, s = "__" ++ rest

theorem isReserved_iff {s : String} : isReserved s = true ↔ IsTaken s := by
  have hunderscores : ['_', '_'].isPrefixOf s.toList = true ↔ ∃ rest, s = "__" ++ rest := by
    rw [List.isPrefixOf_iff_prefix]
    constructor
    · rintro ⟨rest, hrest⟩
      exact ⟨String.ofList rest, String.toList_injective (by simp [← hrest])⟩
    · rintro ⟨rest, rfl⟩
      exact ⟨rest.toList, by simp⟩
  unfold isReserved IsTaken
  rw [Bool.or_eq_true, Bool.or_eq_true, beq_iff_eq, beq_iff_eq, hunderscores, or_assoc]

/-- A name that is taken as it was written is taken in its normal form. -/
theorem isTaken_normalize {s : String} (h : IsTaken s) : IsTaken (normalize s) := by
  rcases h with rfl | rfl | ⟨rest, rfl⟩
  · exact .inl (normalize_ascii (by decide))
  · exact .inr (.inl (normalize_ascii (by decide)))
  · exact .inr (.inr (normalize_underscores rest))

end FluentBuilders
