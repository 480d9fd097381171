import FluentBuilders.Proofs.Grammar.Sight
import FluentBuilders.Proofs.Text.Identifier

/-!
How far a token depends on the text behind it.

1. `Agrees`: two texts with the same characters in front, of which the second then has a blank or ends.
2. The lengths of names, numbers, quotes and marks are the same in both.
3. `Agrees.tokenAt`: so is the token.
4. `tokenAt_solid`: no token has a blank in it, and none starts with what a gap passes over.
-/

namespace FluentBuilders.Grammar

open Text

/-! ## 1. Texts with the same characters in front -/

/-- The characters are none, or start with a blank. -/
def Ends (cs : List Char) : Prop := ∀ c ∈ cs.head?, isBlank c = true

/-- Both texts start with `w`, which the second text ends after, unless a blank follows. -/
structure Agrees (w : List Char) (gs gs' : List Glyph) : Prop where
  left : w <+: chars gs
  right : ∃ r, chars gs' = w ++ r ∧ Ends r

/-- The number of characters in front of the first blank. -/
def solidLength (gs : List Glyph) : Nat := runLength (fun c => !isBlank c) gs

/-! Blanks are none of the characters that tokens are made of. -/

/-- An underscore counts only before a digit. -/
theorem basedLength_cons (isDigit : Char → Bool) (g : Glyph) (rest : List Glyph) :
    basedLength isDigit (g :: rest) =
      if isDigit g.char = true ∨ g.char = '_' ∧ rest.head?.any (isDigit ·.char) = true then
        basedLength isDigit rest + 1
      else 0 := by
  rw [basedLength.eq_def]
  cases rest <;> simp only [List.head?_nil, List.head?_cons, Option.any_none, Option.any_some] <;>
    grind

theorem solid_of_all {cs : List Char} (h : cs.all (!isBlank ·) = true) :
    ∀ c ∈ cs, isBlank c = false := by
  simpa using h

theorem isDigit_of_isBlank {c : Char} (h : isBlank c = true) : c.isDigit = false := by
  have hrange : ¬ (48 ≤ c.toNat ∧ c.toNat ≤ 57) := by
    simp only [isBlank, Bool.or_eq_true, Bool.and_eq_true, decide_eq_true_eq] at h
    omega
  rw [Bool.eq_false_iff]
  intro hdigit
  refine hrange ?_
  simpa [Char.isDigit, UInt32.le_iff_toNat_le] using hdigit

theorem ne_of_isBlank {c : Char} (d : Char) (hd : isBlank d = false) (h : isBlank c = true) :
    c ≠ d := by
  rintro rfl
  rw [h] at hd
  cases hd

theorem isHexDigit_of_isBlank {c : Char} (h : isBlank c = true) : isHexDigit c = false := by
  have hrange : ¬ (48 ≤ c.toNat ∧ c.toNat ≤ 57 ∨ 65 ≤ c.toNat ∧ c.toNat ≤ 70 ∨
      97 ≤ c.toNat ∧ c.toNat ≤ 102) := by
    simp only [isBlank, Bool.or_eq_true, Bool.and_eq_true, decide_eq_true_eq] at h
    omega
  rw [Bool.eq_false_iff]
  refine fun hdigit => hrange ?_
  unfold isHexDigit hexDigit? at hdigit
  simp only [Char.le_def, UInt32.le_iff_toNat_le] at hdigit
  split at hdigit
  · next hd => exact .inl hd
  split at hdigit
  · next hd => exact .inr (.inl hd)
  split at hdigit
  · next hd => exact .inr (.inr hd)
  · cases hdigit

theorem isOctal_of_isBlank {c : Char} (h : isBlank c = true) : ('0' ≤ c && c ≤ '7') = false := by
  have hdigit := isDigit_of_isBlank h
  simp only [Char.isDigit, Bool.and_eq_false_iff, decide_eq_false_iff_not, Char.le_def,
    UInt32.le_iff_toNat_le, ge_iff_le] at hdigit ⊢
  exact hdigit.imp_right fun hd hc => hd (Nat.le_trans hc (by decide))

theorem isBinary_of_isBlank {c : Char} (h : isBlank c = true) :
    (c = '0' || c = '1' : Bool) = false := by
  simp [ne_of_isBlank '0' rfl h, ne_of_isBlank '1' rfl h]

theorem isStringLetter_of_isBlank {c : Char} (h : isBlank c = true) : isStringLetter c = false := by
  have hcs : ∀ d ∈ ['r', 'R', 'b', 'B', 'u', 'U', 'f', 'F', 't', 'T'], isBlank d = false :=
    solid_of_all (by decide)
  rw [isStringLetter, List.contains_eq_mem, decide_eq_false_iff_not]
  exact fun hmem => absurd h (by simp [hcs c hmem])

theorem isBlank_of_isQuote {c : Char} (h : isQuote c = true) : isBlank c = false := by
  simp only [isQuote, Bool.or_eq_true, decide_eq_true_eq] at h
  rcases h with (rfl | rfl) | rfl <;> rfl

namespace Agrees

variable {w : List Char} {c : Char} {gs gs' : List Glyph}

theorem cons (h : Agrees (c :: w) gs gs') : ∃ g rest g' rest', gs = g :: rest ∧ g.char = c ∧
    gs' = g' :: rest' ∧ g'.char = c ∧ Agrees w rest rest' := by
  obtain ⟨⟨t, hleft⟩, r, hright, hends⟩ := h
  cases gs with
  | nil => cases hleft
  | cons g rest =>
    cases gs' with
    | nil => cases hright
    | cons g' rest' =>
      simp only [chars, List.map_cons, List.cons_append, List.cons.injEq] at hleft hright
      exact ⟨g, rest, g', rest', rfl, hleft.1.symm, rfl, hright.1, ⟨t, hleft.2⟩, r, hright.2, hends⟩

/-- Behind the characters that both have, the second text ends or has a blank. -/
theorem nil (h : Agrees [] gs gs') : gs' = [] ∨ ∃ g rest, gs' = g :: rest ∧ isBlank g.char = true := by
  obtain ⟨-, r, hright, hends⟩ := h
  rw [List.nil_append] at hright
  subst hright
  cases gs' with
  | nil => exact .inl rfl
  | cons g rest => exact .inr ⟨g, rest, rfl, hends g.char rfl⟩

theorem drop (h : Agrees w gs gs') {n : Nat} (hn : n ≤ w.length) :
    Agrees (w.drop n) (gs.drop n) (gs'.drop n) := by
  induction n generalizing w gs gs' with
  | zero => exact h
  | succ n ih =>
    cases w with
    | nil => cases hn
    | cons c w =>
      obtain ⟨g, rest, g', rest', rfl, -, rfl, -, hrest⟩ := h.cons
      exact ih hrest (Nat.le_of_succ_le_succ hn)

theorem take (h : Agrees w gs gs') {n : Nat} (hn : n ≤ w.length) :
    chars (gs'.take n) = chars (gs.take n) := by
  obtain ⟨⟨t, hleft⟩, r, hright, -⟩ := h
  unfold chars at *
  rw [List.map_take, List.map_take, hright, ← hleft, List.take_append_of_le_length hn,
    List.take_append_of_le_length hn]

/-! ## 2. Lengths -/

theorem runLength {p : Char → Bool} (hp : ∀ c, isBlank c = true → p c = false)
    (h : Agrees w gs gs') : runLength p gs' = min (Grammar.runLength p gs) w.length := by
  induction w generalizing gs gs' with
  | nil =>
    obtain rfl | ⟨g, rest, rfl, hblank⟩ := h.nil
    · simp [Grammar.runLength]
    · simp [Grammar.runLength, hp _ hblank]
  | cons c w ih =>
    obtain ⟨g, rest, g', rest', rfl, hg, rfl, hg', hrest⟩ := h.cons
    have := ih hrest
    simp only [Grammar.runLength, hg, hg', List.length_cons]
    split <;> omega

theorem decimalLength {afterDigit : Bool} (h : Agrees w gs gs') :
    decimalLength afterDigit gs' = min (Grammar.decimalLength afterDigit gs) w.length := by
  induction w generalizing gs gs' afterDigit with
  | nil =>
    obtain rfl | ⟨g, rest, rfl, hblank⟩ := h.nil
    · simp [Grammar.decimalLength]
    · simp [Grammar.decimalLength, isDigit_of_isBlank hblank, ne_of_isBlank '_' rfl hblank]
  | cons c w ih =>
    obtain ⟨g, rest, g', rest', rfl, hg, rfl, hg', hrest⟩ := h.cons
    simp only [Grammar.decimalLength, hg, hg', List.length_cons, ih hrest]
    split
    · omega
    · split <;> omega

theorem basedLength {isDigit : Char → Bool} (hdigit : ∀ c, isBlank c = true → isDigit c = false)
    (h : Agrees w gs gs') (hlength : Grammar.basedLength isDigit gs ≤ w.length) :
    Grammar.basedLength isDigit gs' = Grammar.basedLength isDigit gs := by
  induction w generalizing gs gs' with
  | nil =>
    rw [Nat.le_zero.mp hlength]
    obtain rfl | ⟨g, rest, rfl, hblank⟩ := h.nil
    · rfl
    · simp [basedLength_cons, hdigit _ hblank, ne_of_isBlank '_' rfl hblank]
  | cons c w ih =>
    obtain ⟨g, rest, g', rest', rfl, hg, rfl, hg', hrest⟩ := h.cons
    -- a digit that follows in the second text follows in the first
    have hnext : rest'.head?.any (isDigit ·.char) = true → rest.head?.any (isDigit ·.char) = true := by
      cases w with
      | cons d w =>
        obtain ⟨_, _, _, _, rfl, hd, rfl, hd', -⟩ := hrest.cons
        simp [hd, hd']
      | nil =>
        obtain rfl | ⟨d, more, rfl, hblank⟩ := hrest.nil
        · simp
        · simp [hdigit _ hblank]
    rw [basedLength_cons, hg, List.length_cons] at hlength
    rw [basedLength_cons, basedLength_cons, hg, hg']
    by_cases hgo : isDigit c = true ∨ c = '_' ∧ rest.head?.any (isDigit ·.char) = true
    · rw [if_pos hgo] at hlength ⊢
      rw [ih hrest (by omega), if_pos]
      refine hgo.imp_right fun ⟨hline, hany⟩ => ⟨hline, ?_⟩
      cases w with
      | cons d w =>
        obtain ⟨_, _, _, _, rfl, hd, rfl, hd', -⟩ := hrest.cons
        simpa [hd, hd'] using hany
      | nil =>
        cases rest with
        | nil => cases hany
        | cons d more =>
          have hd : isDigit d.char = true := hany
          rw [basedLength_cons, if_pos (.inl hd), List.length_nil] at hlength
          omega
    · rw [if_neg hgo, if_neg fun hgo' => hgo (hgo'.imp_right (.imp_right hnext))]

theorem oneOf {cs : List Char} (h : Agrees w gs gs') (hw : w ≠ []) :
    Grammar.oneOf cs gs' = Grammar.oneOf cs gs := by
  obtain ⟨c, w, rfl⟩ := List.exists_cons_of_ne_nil hw
  obtain ⟨g, rest, g', rest', rfl, hg, rfl, hg', -⟩ := h.cons
  rw [Grammar.oneOf, Grammar.oneOf, hg, hg']

/-- Where nothing is left that both have, none of the characters follows. -/
theorem oneOf_nil {cs : List Char} (hcs : ∀ c ∈ cs, isBlank c = false) (h : Agrees [] gs gs') :
    Grammar.oneOf cs gs' = 0 := by
  obtain rfl | ⟨g, rest, rfl, hblank⟩ := h.nil
  · rfl
  · have hnot : g.char ∉ cs := fun hmem => by
      rw [hcs _ hmem] at hblank
      cases hblank
    simp [Grammar.oneOf, hnot]

theorem oneOf_le (cs : List Char) (gs : List Glyph) : Grammar.oneOf cs gs ≤ 1 := by
  cases gs with
  | nil => exact Nat.zero_le 1
  | cons g rest =>
    rw [Grammar.oneOf]
    split <;> omega

/-- A character that fits into what both have is there in both or in none. -/
theorem oneOf_of_le (cs : List Char) (hcs : ∀ c ∈ cs, isBlank c = false) (h : Agrees w gs gs')
    (hlength : Grammar.oneOf cs gs ≤ w.length) : Grammar.oneOf cs gs' = Grammar.oneOf cs gs := by
  cases w with
  | cons c w => exact h.oneOf (List.cons_ne_nil c w)
  | nil => rw [h.oneOf_nil hcs, Nat.le_zero.mp hlength]

theorem exponentLength (h : Agrees w gs gs') (hlength : Grammar.exponentLength gs ≤ w.length) :
    Grammar.exponentLength gs' = Grammar.exponentLength gs := by
  unfold Grammar.exponentLength at hlength ⊢
  dsimp only at hlength ⊢
  rcases w with _ | ⟨c, _ | ⟨d, w⟩⟩
  · -- nothing is left for the letter
    rw [h.oneOf_nil (solid_of_all (by decide)), if_pos rfl, Nat.le_zero.mp hlength]
  · -- nothing is left behind the letter
    have hrest : Agrees [] (gs.drop 1) (gs'.drop 1) := h.drop (n := 1) (by simp)
    have hsign : Grammar.oneOf ['+', '-'] (gs'.drop 1) = 0 := hrest.oneOf_nil (solid_of_all (by decide))
    have hdigits : Grammar.decimalLength false (gs'.drop (1 + 0)) = 0 := by
      rw [Nat.add_zero, hrest.decimalLength, List.length_nil, Nat.min_zero]
    rw [hsign, hdigits, if_pos rfl, ite_self]
    split at hlength
    · next hletter => rw [if_pos hletter]
    · split at hlength
      · next hletter hnone => rw [if_neg hletter, if_pos hnone]
      · rw [List.length_singleton] at hlength
        omega
  · have hle := oneOf_le ['+', '-'] (gs.drop 1)
    rw [h.oneOf (List.cons_ne_nil _ _), (h.drop (n := 1) (by simp)).oneOf (by simp)]
    have hdigits : Grammar.decimalLength false _ = _ :=
      (h.drop (n := 1 + Grammar.oneOf ['+', '-'] (gs.drop 1))
        (by simp only [List.length_cons]; omega)).decimalLength
    rw [hdigits, List.length_drop]
    split at hlength
    · next hletter => rw [if_pos hletter, if_pos hletter]
    · next hletter =>
      rw [if_neg hletter, if_neg hletter]
      split at hlength <;> split <;> simp only [List.length_cons] at * <;> omega

end Agrees

/-- The number of digits behind the sign of a base. -/
def prefixedLength (letters : List Char) (isDigit : Char → Bool) (gs : List Glyph) : Nat :=
  if oneOf ['0'] gs = 1 && oneOf letters (gs.drop 1) = 1 then basedLength isDigit (gs.drop 2) else 0

/-- The number of digits of a number in another base than ten. -/
def otherLength (gs : List Glyph) : Nat :=
  prefixedLength ['x', 'X'] isHexDigit gs +
    prefixedLength ['o', 'O'] (fun c => '0' ≤ c && c ≤ '7') gs +
      prefixedLength ['b', 'B'] (fun c => c = '0' || c = '1') gs

/-- The number of digits behind a point. -/
def fractionLength (whole : Nat) (gs : List Glyph) : Nat :=
  if oneOf ['.'] (gs.drop whole) = 1 then decimalLength false (gs.drop (whole + 1)) else 0

/-- The number of characters of what may end a number: an exponent and a letter. -/
def endingLength (pointed : Bool) (gs : List Glyph) : Nat :=
  let exponent := exponentLength gs
  exponent + oneOf (if pointed || exponent > 0 then ['j', 'J'] else ['j', 'J', 'l', 'L'])
    (gs.drop exponent)

/-- The number of characters of a number in base ten. -/
def plainLength (gs : List Glyph) : Nat :=
  let whole := decimalLength false gs
  let point := oneOf ['.'] (gs.drop whole)
  let digits := whole + point + fractionLength whole gs
  if whole + fractionLength whole gs = 0 then 0
  else digits + endingLength (point = 1) (gs.drop digits)

/-- The number of characters of the quote that opens a string; zero if there is none. -/
def openLength : List Glyph → Nat
  | [] => 0
  | q :: rest =>
    if isQuote q.char then
      if q.char ≠ '`' && startsWithChars [q.char, q.char] rest then 3 else 1
    else 0

theorem quoteLength_eq (gs : List Glyph) : quoteLength gs =
    if openLength (gs.drop (runLength isStringLetter gs)) = 0 then 0
    else runLength isStringLetter gs + openLength (gs.drop (runLength isStringLetter gs)) := by
  unfold quoteLength
  dsimp only
  cases gs.drop (runLength isStringLetter gs) with
  | nil => rfl
  | cons q rest =>
    unfold openLength
    dsimp only
    split
    · split <;> rfl
    · rfl

/-- No mark has a blank in it. -/
theorem marks_solid : ∀ m ∈ marks, ∀ c ∈ m.toList, isBlank c = false := fun m hm =>
  have hall : ∀ m ∈ marks, m.toList.all (!isBlank ·) = true := by decide +kernel
  solid_of_all (hall m hm)

theorem numberLength_eq (gs : List Glyph) : numberLength gs =
    if otherLength gs > 0 then
      2 + otherLength gs + oneOf ['l', 'L'] (gs.drop (2 + otherLength gs))
    else plainLength gs := by
  have hother : numberLength gs = if otherLength gs > 0 then
      2 + otherLength gs + oneOf ['l', 'L'] (gs.drop (2 + otherLength gs)) else _ := rfl
  rw [hother]
  refine congrArg _ ?_
  unfold plainLength endingLength
  dsimp only
  rw [List.drop_drop, ← fractionLength]
  generalize fractionLength _ gs = fraction
  split
  · rfl
  · split <;> omega

namespace Agrees

variable {w : List Char} {gs gs' : List Glyph}

theorem prefixedLength {letters : List Char} {isDigit : Char → Bool}
    (hletters : ∀ c ∈ letters, isBlank c = false)
    (hdigit : ∀ c, isBlank c = true → isDigit c = false) (h : Agrees w gs gs')
    (hlength : Grammar.prefixedLength letters isDigit gs ≤ w.length - 2) :
    Grammar.prefixedLength letters isDigit gs' = Grammar.prefixedLength letters isDigit gs := by
  unfold Grammar.prefixedLength at hlength ⊢
  rcases w with _ | ⟨c, _ | ⟨d, w⟩⟩
  · rw [h.oneOf_nil (solid_of_all (by decide)), Nat.le_zero.mp hlength]
    rfl
  · have hrest : Agrees [] (gs.drop 1) (gs'.drop 1) := h.drop (n := 1) (by simp)
    rw [hrest.oneOf_nil hletters, Nat.le_zero.mp hlength, if_neg (by simp)]
  · rw [h.oneOf (List.cons_ne_nil _ _), (h.drop (n := 1) (by simp)).oneOf (by simp)]
    split
    · next hbase =>
      rw [if_pos hbase] at hlength
      exact (h.drop (n := 2) (by simp)).basedLength hdigit (by simpa using hlength)
    · rfl

theorem otherLength (h : Agrees w gs gs') (hlength : Grammar.otherLength gs ≤ w.length - 2) :
    Grammar.otherLength gs' = Grammar.otherLength gs := by
  unfold Grammar.otherLength at hlength ⊢
  rw [h.prefixedLength (solid_of_all (by decide)) (fun _ => isHexDigit_of_isBlank) (by omega),
    h.prefixedLength (solid_of_all (by decide)) (fun _ => isOctal_of_isBlank) (by omega),
    h.prefixedLength (solid_of_all (by decide)) (fun _ => isBinary_of_isBlank) (by omega)]

theorem fractionLength {whole : Nat} (h : Agrees w gs gs') (hwhole : whole ≤ w.length)
    (hlength : Grammar.fractionLength whole gs ≠ 0 →
      whole + 1 + Grammar.fractionLength whole gs ≤ w.length) :
    Grammar.fractionLength whole gs' = Grammar.fractionLength whole gs := by
  have hrest := h.drop hwhole
  by_cases hend : w.length = whole
  · -- nothing is left for the point
    have hnone : Grammar.fractionLength whole gs = 0 := by
      by_contra hsome
      have := hlength hsome
      omega
    rw [List.drop_of_length_le (by omega)] at hrest
    rw [hnone, Grammar.fractionLength, hrest.oneOf_nil (solid_of_all (by decide)), if_neg (by simp)]
  · have hpoint : Grammar.oneOf ['.'] _ = Grammar.oneOf ['.'] _ :=
      hrest.oneOf (by rw [ne_eq, List.drop_eq_nil_iff]; omega)
    unfold Grammar.fractionLength at hlength ⊢
    rw [hpoint]
    split
    · next hone =>
      rw [if_pos hone] at hlength
      rw [(h.drop (n := whole + 1) (by omega)).decimalLength, List.length_drop]
      omega
    · rfl

theorem endingLength {pointed : Bool} (h : Agrees w gs gs')
    (hlength : Grammar.endingLength pointed gs ≤ w.length) :
    Grammar.endingLength pointed gs' = Grammar.endingLength pointed gs := by
  unfold Grammar.endingLength at hlength ⊢
  dsimp only at hlength ⊢
  have hexponent := h.exponentLength (by omega)
  rw [hexponent]
  refine congrArg _ ((h.drop (n := Grammar.exponentLength gs) (by omega)).oneOf_of_le _ ?_ ?_)
  · split <;> exact solid_of_all (by decide)
  · rw [List.length_drop]
    omega

theorem plainLength (h : Agrees w gs gs') (hlength : Grammar.plainLength gs ≤ w.length) :
    Grammar.plainLength gs' = Grammar.plainLength gs := by
  unfold Grammar.plainLength at hlength ⊢
  dsimp only at hlength ⊢
  have hwhole : Grammar.decimalLength false gs' = Grammar.decimalLength false gs := by
    rw [h.decimalLength]
    split at hlength <;> omega
  have hle : Grammar.decimalLength false gs ≤ w.length := by
    split at hlength <;> omega
  rw [hwhole]
  generalize Grammar.decimalLength false gs = whole at *
  have hfraction : Grammar.fractionLength whole gs' = Grammar.fractionLength whole gs := by
    refine h.fractionLength hle fun hsome => ?_
    have hpoint : Grammar.oneOf ['.'] (gs.drop whole) = 1 := by
      by_contra hnone
      rw [Grammar.fractionLength, if_neg hnone] at hsome
      exact hsome rfl
    rw [if_neg (by omega)] at hlength
    omega
  rw [hfraction]
  split
  · rfl
  · next hsome =>
    rw [if_neg hsome] at hlength
    have hpoint := (h.drop hle).oneOf_of_le ['.'] (solid_of_all (by decide))
      (by rw [List.length_drop]; omega)
    rw [hpoint]
    refine congrArg _ ((h.drop (by omega)).endingLength ?_)
    rw [List.length_drop]
    omega

theorem numberLength (h : Agrees w gs gs') (hlength : Grammar.numberLength gs ≤ w.length) :
    Grammar.numberLength gs' = Grammar.numberLength gs := by
  rw [numberLength_eq] at hlength
  rw [numberLength_eq, numberLength_eq]
  split at hlength
  · next hother =>
    rw [h.otherLength (by omega), if_pos hother, if_pos hother,
      (h.drop (n := 2 + Grammar.otherLength gs) (by omega)).oneOf_of_le _ (solid_of_all (by decide))]
    rw [List.length_drop]
    omega
  · next hother =>
    rw [h.otherLength (by omega), if_neg hother, if_neg hother, h.plainLength hlength]

/-- Characters without blanks that stand in front of the second text stand in front of the first. -/
theorem startsWithChars_of {cs : List Char} (hcs : ∀ c ∈ cs, isBlank c = false) (h : Agrees w gs gs')
    (hstarts : startsWithChars cs gs' = true) : startsWithChars cs gs = true := by
  induction cs generalizing w gs gs' with
  | nil => rfl
  | cons c cs ih =>
    rw [List.forall_mem_cons] at hcs
    cases w with
    | nil =>
      obtain rfl | ⟨g, rest, rfl, hblank⟩ := h.nil
      · cases hstarts
      · rw [startsWithChars, Bool.and_eq_true, beq_iff_eq] at hstarts
        rw [← hstarts.1, hcs.1] at hblank
        cases hblank
    | cons d w =>
      obtain ⟨g, rest, g', rest', rfl, hg, rfl, hg', hrest⟩ := h.cons
      rw [startsWithChars, Bool.and_eq_true, hg'] at hstarts
      rw [startsWithChars, hg, hstarts.1, ih hcs.2 hrest hstarts.2]
      rfl

theorem startsWithChars_iff (cs : List Char) (hcs : ∀ c ∈ cs, isBlank c = false)
    (h : Agrees w gs gs') (hlength : startsWithChars cs gs = true → cs.length ≤ w.length) :
    startsWithChars cs gs' = startsWithChars cs gs := by
  rw [Bool.eq_iff_iff]
  refine ⟨h.startsWithChars_of hcs, fun hstarts => ?_⟩
  have hle := hlength hstarts
  clear hcs hlength
  induction cs generalizing w gs gs' with
  | nil => rfl
  | cons c cs ih =>
    cases w with
    | nil => cases hle
    | cons d w =>
      obtain ⟨g, rest, g', rest', rfl, hg, rfl, hg', hrest⟩ := h.cons
      rw [startsWithChars, Bool.and_eq_true, hg] at hstarts
      rw [startsWithChars, hg', hstarts.1, ih hrest hstarts.2 (Nat.le_of_succ_le_succ hle)]
      rfl

theorem openLength (h : Agrees w gs gs') (hlength : Grammar.openLength gs ≤ w.length) :
    Grammar.openLength gs' = Grammar.openLength gs := by
  cases w with
  | nil =>
    rw [Nat.le_zero.mp hlength]
    obtain rfl | ⟨g, rest, rfl, hblank⟩ := h.nil
    · rfl
    · have hquote : isQuote g.char ≠ true := fun hq => by
        rw [isBlank_of_isQuote hq] at hblank
        cases hblank
      simp [Grammar.openLength, hquote]
  | cons q w =>
    obtain ⟨g, rest, g', rest', rfl, hg, rfl, hg', hrest⟩ := h.cons
    rw [Grammar.openLength, hg] at hlength
    rw [Grammar.openLength, Grammar.openLength, hg, hg']
    split
    · next hquote =>
      rw [if_pos hquote] at hlength
      have hblank := isBlank_of_isQuote hquote
      by_cases hback : q = '`'
      · simp [hback]
      · rw [hrest.startsWithChars_iff [q, q] (by simp [hblank])]
        intro htripled
        rw [htripled, if_pos (by simpa using hback)] at hlength
        exact Nat.le_of_succ_le_succ hlength
    · rfl

theorem quoteLength (h : Agrees w gs gs') (hlength : Grammar.quoteLength gs ≤ w.length) :
    Grammar.quoteLength gs' = Grammar.quoteLength gs := by
  have hrun := h.runLength fun _ => isStringLetter_of_isBlank
  rw [quoteLength_eq] at hlength
  rw [quoteLength_eq, quoteLength_eq]
  generalize Grammar.runLength isStringLetter gs = letters at *
  rcases Nat.le_total letters w.length with hle | hge
  · rw [hrun, Nat.min_eq_left hle, (h.drop hle).openLength]
    rw [List.length_drop]
    split at hlength <;> omega
  · -- both have letters only
    have hrest := h.drop (Nat.le_refl w.length)
    rw [List.drop_length] at hrest
    have hnone : Grammar.openLength (gs.drop letters) = 0 := by
      by_contra hsome
      rw [if_neg hsome] at hlength
      omega
    have hnone' : Grammar.openLength (gs'.drop w.length) = 0 := by
      obtain hnil | ⟨g, rest, hcons, hblank⟩ := hrest.nil
      · rw [hnil]
        rfl
      · have hquote : isQuote g.char ≠ true := fun hq => by
          rw [isBlank_of_isQuote hq] at hblank
          cases hblank
        simp [hcons, Grammar.openLength, hquote]
    rw [hrun, Nat.min_eq_right hge, hnone, hnone', if_pos rfl, if_pos rfl]

/-! ## 3. Tokens -/

theorem tokenAt (h : Agrees w gs gs') (hw : w ≠ []) (hlength : (Grammar.tokenAt gs).2 ≤ w.length) :
    Grammar.tokenAt gs' = Grammar.tokenAt gs := by
  have hquote := h.quoteLength
  have hrun := h.runLength (p := isNameChar) fun _ => isNameChar_of_isBlank
  have hnumber := h.numberLength
  have hmark : ∀ m ∈ marks, startsWithChars m.toList gs' = true → startsWithChars m.toList gs = true :=
    fun m hm => h.startsWithChars_of (marks_solid m hm)
  have hfits : ∀ m ∈ marks, m.length ≤ w.length →
      startsWithChars m.toList gs' = startsWithChars m.toList gs := fun m hm hle =>
    h.startsWithChars_iff _ (marks_solid m hm) fun _ => by rwa [String.length_toList]
  have htake := fun n => h.take (n := n)
  obtain ⟨c, w, rfl⟩ := List.exists_cons_of_ne_nil hw
  obtain ⟨g, rest, g', rest', rfl, hg, rfl, hg', hrest⟩ := h.cons
  unfold Grammar.tokenAt at hlength ⊢
  dsimp only at hlength ⊢
  by_cases hq : Grammar.quoteLength (g :: rest) > 0
  · rw [if_pos hq] at hlength ⊢
    rw [hquote hlength, if_pos hq]
  rw [if_neg hq] at hlength ⊢
  rw [hquote (by omega), if_neg hq, hg, hg']
  rw [hg] at hlength
  by_cases hname : isNameStart c = true
  · rw [if_pos hname] at hlength ⊢
    rw [if_pos hname, hrun, Nat.min_eq_left hlength]
    exact congrArg (fun cs => (Token.word (String.ofList cs), _)) (htake _ hlength)
  rw [if_neg hname] at hlength ⊢
  rw [if_neg hname]
  by_cases hn : Grammar.numberLength (g :: rest) > 0
  · rw [if_pos hn] at hlength ⊢
    rw [hnumber hlength, if_pos hn]
  rw [if_neg hn] at hlength ⊢
  rw [hnumber (by omega), if_neg hn]
  cases hfind : marks.find? fun m => startsWithChars m.toList (g :: rest) with
  | none =>
    have hnone : (marks.find? fun m => startsWithChars m.toList (g' :: rest')) = none := by
      rw [List.find?_eq_none] at hfind ⊢
      exact fun m hm hstarts => hfind m hm (hmark m hm hstarts)
    rw [hnone]
  | some m =>
    rw [hfind] at hlength
    have hsome : (marks.find? fun m => startsWithChars m.toList (g' :: rest')) = some m := by
      have hmem := List.mem_of_find?_eq_some hfind
      rw [List.find?_eq_some_iff_append] at hfind ⊢
      obtain ⟨hm, before, after, hmarks, hbefore⟩ := hfind
      refine ⟨(hfits m hmem hlength).trans hm, before, after, hmarks, fun a ha => ?_⟩
      rw [Bool.not_eq_true', Bool.eq_false_iff]
      intro hstarts
      have hpos := hmark a (by rw [hmarks]; exact List.mem_append_left _ ha) hstarts
      simpa [hpos] using hbefore a ha
    rw [hsome]

end Agrees

/-! ## 4. No token has a blank in it -/

section Solid

variable {gs rest : List Glyph} {m n : Nat}

theorem solidLength_cons (g : Glyph) (rest : List Glyph) :
    solidLength (g :: rest) = if isBlank g.char then 0 else solidLength rest + 1 := by
  rw [solidLength, runLength]
  cases isBlank g.char <;> rfl

theorem solidLength_add (hm : m ≤ solidLength gs) (hn : n ≤ solidLength (gs.drop m)) :
    m + n ≤ solidLength gs := by
  induction m generalizing gs with
  | zero => rwa [Nat.zero_add]
  | succ m ih =>
    cases gs with
    | nil => exact absurd hm (by simp [solidLength, runLength])
    | cons g rest =>
      rw [List.drop_succ_cons] at hn
      rw [solidLength_cons] at hm ⊢
      split at hm
      · cases hm
      · next hblank =>
        rw [if_neg hblank]
        have := ih (Nat.le_of_succ_le_succ hm) hn
        omega

theorem runLength_solid {p : Char → Bool} (hp : ∀ c, isBlank c = true → p c = false) :
    runLength p gs ≤ solidLength gs := by
  induction gs with
  | nil => exact Nat.le_refl 0
  | cons g rest ih =>
    rw [solidLength_cons, runLength]
    cases hblank : isBlank g.char with
    | true => simp [hp _ hblank]
    | false => split <;> simp only [Bool.false_eq_true, if_false] <;> omega

theorem decimalLength_solid (afterDigit : Bool) : decimalLength afterDigit gs ≤ solidLength gs := by
  induction gs generalizing afterDigit with
  | nil => exact Nat.le_refl 0
  | cons g rest ih =>
    have h₁ := ih true
    have h₂ := ih false
    rw [solidLength_cons, decimalLength]
    cases hblank : isBlank g.char with
    | true => simp [isDigit_of_isBlank hblank, ne_of_isBlank '_' rfl hblank]
    | false => split <;> [skip; split] <;> simp only [Bool.false_eq_true, if_false] <;> omega

theorem basedLength_solid {isDigit : Char → Bool}
    (hdigit : ∀ c, isBlank c = true → isDigit c = false) :
    basedLength isDigit gs ≤ solidLength gs := by
  induction gs with
  | nil => exact Nat.le_refl 0
  | cons g rest ih =>
    rw [solidLength_cons, basedLength_cons]
    cases hblank : isBlank g.char with
    | true => simp [hdigit _ hblank, ne_of_isBlank '_' rfl hblank]
    | false => split <;> simp only [Bool.false_eq_true, if_false] <;> omega

theorem oneOf_solid (cs : List Char) (hcs : ∀ c ∈ cs, isBlank c = false) :
    oneOf cs gs ≤ solidLength gs := by
  cases gs with
  | nil => exact Nat.le_refl 0
  | cons g rest =>
    rw [solidLength_cons, oneOf]
    by_cases hmem : g.char ∈ cs
    · simp [hmem, hcs _ hmem]
    · simp [hmem]

theorem startsWithChars_solid (cs : List Char) (hcs : ∀ c ∈ cs, isBlank c = false)
    (h : startsWithChars cs gs = true) : cs.length ≤ solidLength gs := by
  induction cs generalizing gs with
  | nil => exact Nat.zero_le _
  | cons c cs ih =>
    rw [List.forall_mem_cons] at hcs
    cases gs with
    | nil => cases h
    | cons g rest =>
      rw [startsWithChars, Bool.and_eq_true, beq_iff_eq] at h
      rw [solidLength_cons, ← h.1, hcs.1]
      exact Nat.succ_le_succ (ih hcs.2 h.2)

theorem exponentLength_solid : exponentLength gs ≤ solidLength gs := by
  have hletter : oneOf ['e', 'E'] gs ≤ solidLength gs := oneOf_solid _ (solid_of_all (by decide))
  unfold exponentLength
  dsimp only
  split
  · exact Nat.zero_le _
  · next hsome =>
    have hone : oneOf ['e', 'E'] gs = 1 := by
      have := Agrees.oneOf_le ['e', 'E'] gs
      omega
    rw [hone] at hletter
    have hsign := solidLength_add hletter (oneOf_solid ['+', '-'] (solid_of_all (by decide)))
    have hdigits := solidLength_add hsign (decimalLength_solid false)
    split
    · exact Nat.zero_le _
    · exact hdigits

theorem endingLength_solid (pointed : Bool) : endingLength pointed gs ≤ solidLength gs := by
  refine solidLength_add exponentLength_solid (oneOf_solid _ ?_)
  split <;> exact solid_of_all (by decide)

theorem plainLength_solid : plainLength gs ≤ solidLength gs := by
  unfold plainLength
  dsimp only
  split
  · exact Nat.zero_le _
  · have hwhole : decimalLength false gs ≤ solidLength gs := decimalLength_solid false
    have hpoint := solidLength_add hwhole (oneOf_solid ['.'] (solid_of_all (by decide)))
    have hdigits : decimalLength false gs + oneOf ['.'] (gs.drop (decimalLength false gs)) +
        fractionLength (decimalLength false gs) gs ≤ solidLength gs := by
      refine solidLength_add hpoint ?_
      unfold fractionLength
      split
      · next hone =>
        rw [hone]
        exact decimalLength_solid false
      · exact Nat.zero_le _
    exact solidLength_add hdigits (endingLength_solid _)

theorem otherLength_solid (h : otherLength gs > 0) : 2 + otherLength gs ≤ solidLength gs := by
  rcases gs with _ | ⟨g, _ | ⟨d, rest⟩⟩
  · exact absurd h (Nat.lt_irrefl 0)
  · have hnone : ∀ letters isDigit, prefixedLength letters isDigit [g] = 0 := fun _ _ =>
      if_neg (by simp [oneOf])
    simp [otherLength, hnone] at h
  have hprefixed : ∀ letters isDigit, prefixedLength letters isDigit (g :: d :: rest) =
      if g.char = '0' ∧ d.char ∈ letters then basedLength isDigit rest else 0 := by
    intro letters isDigit
    unfold prefixedLength
    by_cases hg : g.char = '0' <;> by_cases hd : d.char ∈ letters <;> simp [oneOf, hg, hd]
  have hg : g.char = '0' := by
    by_contra hg
    simp [otherLength, hprefixed, hg] at h
  have hsolid : ∀ n, isBlank d.char = false → n ≤ solidLength rest →
      2 + n ≤ solidLength (g :: d :: rest) := by
    intro n hd hn
    have hg : isBlank g.char = false := hg ▸ rfl
    simp only [solidLength_cons, hg, hd, Bool.false_eq_true, if_false]
    omega
  unfold otherLength at h ⊢
  simp only [hprefixed, hg, true_and] at h ⊢
  -- the letter tells the base
  by_cases hx : d.char ∈ ['x', 'X']
  · have ho : d.char ∉ ['o', 'O'] ∧ d.char ∉ ['b', 'B'] ∧ isBlank d.char = false := by
      simp only [List.mem_cons, List.not_mem_nil, or_false] at hx
      rcases hx with hx | hx <;> rw [hx] <;> decide
    rw [if_pos hx, if_neg ho.1, if_neg ho.2.1]
    exact hsolid _ ho.2.2 (basedLength_solid fun _ => isHexDigit_of_isBlank)
  by_cases ho : d.char ∈ ['o', 'O']
  · have hb : d.char ∉ ['b', 'B'] ∧ isBlank d.char = false := by
      simp only [List.mem_cons, List.not_mem_nil, or_false] at ho
      rcases ho with ho | ho <;> rw [ho] <;> decide
    rw [if_neg hx, if_pos ho, if_neg hb.1, Nat.zero_add]
    exact hsolid _ hb.2 (basedLength_solid fun _ => isOctal_of_isBlank)
  by_cases hb : d.char ∈ ['b', 'B']
  · have hd : isBlank d.char = false := by
      simp only [List.mem_cons, List.not_mem_nil, or_false] at hb
      rcases hb with hb | hb <;> rw [hb] <;> decide
    rw [if_neg hx, if_neg ho, if_pos hb, Nat.zero_add]
    exact hsolid _ hd (basedLength_solid fun _ => isBinary_of_isBlank)
  · rw [if_neg hx, if_neg ho, if_neg hb] at h
    omega

theorem numberLength_solid : numberLength gs ≤ solidLength gs := by
  rw [numberLength_eq]
  split
  · next hother => exact solidLength_add (otherLength_solid hother) (oneOf_solid _ (solid_of_all (by decide)))
  · exact plainLength_solid

theorem openLength_solid : openLength gs ≤ solidLength gs := by
  cases gs with
  | nil => exact Nat.le_refl 0
  | cons q rest =>
    rw [openLength, solidLength_cons]
    split
    · next hquote =>
      have hblank := isBlank_of_isQuote hquote
      rw [hblank]
      split
      · next htripled =>
        have := startsWithChars_solid [q.char, q.char] (by simp [hblank])
          (Bool.and_eq_true_iff.mp htripled).2
        simp only [Bool.false_eq_true, if_false, List.length_cons, List.length_nil] at this ⊢
        omega
      · simp
    · exact Nat.zero_le _

theorem quoteLength_solid : quoteLength gs ≤ solidLength gs := by
  rw [quoteLength_eq]
  split
  · exact Nat.zero_le _
  · exact solidLength_add (runLength_solid fun _ => isStringLetter_of_isBlank) openLength_solid

theorem tokenAt_solid (h : (tokenAt gs).1 ≠ .other) : (tokenAt gs).2 ≤ solidLength gs := by
  unfold tokenAt at h ⊢
  split
  · exact Nat.zero_le _
  · dsimp only at h ⊢
    split
    · exact quoteLength_solid
    · next hquote =>
      rw [if_neg hquote] at h
      split
      · exact runLength_solid fun _ => isNameChar_of_isBlank
      · next hname =>
        rw [if_neg hname] at h
        split
        · exact numberLength_solid
        · next hnumber =>
          rw [if_neg hnumber] at h
          split
          · next m hfind =>
            rw [← String.length_toList]
            exact startsWithChars_solid _ (marks_solid m (List.mem_of_find?_eq_some hfind))
              (List.find?_some (p := fun m : String => startsWithChars m.toList _) hfind)
          · next hfind =>
            rw [hfind] at h
            exact absurd rfl h

theorem tokenAt_pos (h : gs ≠ []) : 0 < (tokenAt gs).2 := by
  unfold tokenAt
  split
  · exact absurd rfl h
  · next g rest =>
    dsimp only
    split
    · next hquote => exact hquote
    split
    · next hname =>
      have hchar := isNameChar_of_isNameStart hname
      simp [runLength, hchar]
    split
    · next hnumber => exact hnumber
    split
    · next m hfind =>
      have hlong : ∀ m ∈ marks, 0 < m.length := by decide +kernel
      exact hlong m (List.mem_of_find?_eq_some hfind)
    · exact Nat.zero_lt_one

/-- The characters that a gap passes over, and those before a comment or a joined line. -/
def passedChars : List Char :=
  [' ', '\n', '\t', '\r', '\x0c', '\x0b', '\uFEFF', '\u2060', '\u200B', '#', '\\']

/-- Whether a gap goes on at a character. -/
def isPassed (c : Char) : Bool := passedChars.contains c

theorem isPassed_of_isGapBlank {c : Char} (h : isGapBlank c = true) : isPassed c = true := by
  have hall : [' ', '\n', '\t', '\r', '\x0c', '\x0b', '\uFEFF', '\u2060', '\u200B'].all
      isPassed = true := by decide
  exact List.all_eq_true.mp hall c (by simpa [isGapBlank] using h)

theorem isNameChar_of_isPassed {c : Char} (h : isPassed c = true) : isNameChar c = false := by
  have hascii : ∀ c : Char, c.toNat < 128 → isPassed c = true → isNameChar c = false :=
    forall_ascii (by decide +kernel)
  by_cases hc : c.toNat < 128
  · exact hascii c hc h
  · refine isNameChar_of_wideBlank ?_
    have hwide : passedChars.all (fun d => d.toNat < 128 || wideBlanks.contains d.toNat) = true := by
      decide
    have hmem := List.all_eq_true.mp hwide c (by simpa [isPassed] using h)
    simpa [hc] using hmem

theorem passedChars_none : ∀ c ∈ passedChars, isStringLetter c = false ∧ isQuote c = false ∧
    c.isDigit = false ∧ c ≠ '0' ∧ c ≠ '.' ∧
      ∀ m ∈ marks, m.toList.head? ≠ some c ∧ m.toList ≠ [] := by
  have hall : passedChars.all (fun c => isStringLetter c = false ∧ isQuote c = false ∧
      c.isDigit = false ∧ c ≠ '0' ∧ c ≠ '.' ∧
        ∀ m ∈ marks, m.toList.head? ≠ some c ∧ m.toList ≠ []) = true := by
    decide +kernel
  exact fun c hc => of_decide_eq_true (List.all_eq_true.mp hall c hc)

/-- No token starts with what a gap passes over. -/
theorem tokenAt_passed {g : Glyph} (h : isPassed g.char = true) :
    (tokenAt (g :: rest)).1 = .other := by
  obtain ⟨hletter, hquote, hdigit, hzero, hpoint, hmarks⟩ := passedChars_none g.char
    (by simpa [isPassed] using h)
  have hname : isNameStart g.char = false := by
    by_contra hstart
    have hchar := isNameChar_of_isNameStart (by simpa using hstart)
    rw [isNameChar_of_isPassed h] at hchar
    cases hchar
  have hno : quoteLength (g :: rest) = 0 := by
    simp [quoteLength, runLength, hletter, hquote]
  have hnumber : numberLength (g :: rest) = 0 := by
    simp [numberLength, oneOf, hzero, decimalLength, hdigit, hpoint]
  have hmark : (marks.find? fun m => startsWithChars m.toList (g :: rest)) = none := by
    rw [List.find?_eq_none]
    intro m hm hstarts
    obtain ⟨hhead, hne⟩ := hmarks m hm
    obtain ⟨c, cs, hcs⟩ := List.exists_cons_of_ne_nil hne
    rw [hcs, startsWithChars, Bool.and_eq_true, beq_iff_eq] at hstarts
    rw [hcs, hstarts.1] at hhead
    exact hhead rfl
  simp [tokenAt, hno, hname, hnumber, hmark]

end Solid

end FluentBuilders.Grammar
