import FluentBuilders.Text.Utf8

/-!
Texts that are written and read back.

1. `decodeFirst_encode`: the bytes of a character give the character.
2. `decode?_encode`: a text is read back from its bytes.
3. `encode_of_decode?`: whatever bytes are read as a text are the bytes of the text.
4. `unifyLines_eq`: a text without returns keeps its lines, and no return is left in unified ones.
-/

namespace FluentBuilders.Text

/-! ## 1. One character -/

section Bytes

variable {n : Nat}

theorem ofNat_lt_iff (hn : n < 256) (b : UInt8) : UInt8.ofNat n < b ↔ n < b.toNat := by
  rw [UInt8.lt_iff_toNat_lt, UInt8.toNat_ofNat_of_lt' hn]

theorem le_ofNat_iff (hn : n < 256) (b : UInt8) : b ≤ UInt8.ofNat n ↔ b.toNat ≤ n := by
  rw [UInt8.le_iff_toNat_le, UInt8.toNat_ofNat_of_lt' hn]

theorem ofNat_eq_iff (hn : n < 256) (b : UInt8) : UInt8.ofNat n = b ↔ n = b.toNat := by
  rw [← UInt8.toNat_inj, UInt8.toNat_ofNat_of_lt' hn]

theorem lengthOfFirst_ofNat (hn : n < 256) :
    lengthOfFirst (UInt8.ofNat n) =
      if n < 0x80 then 1 else if n < 0xC2 then 0 else if n < 0xE0 then 2
      else if n < 0xF0 then 3 else if n < 0xF5 then 4 else 0 := by
  unfold lengthOfFirst
  simp only [ofNat_lt_iff hn]
  rfl

theorem isContinuation_ofNat (h : n < 64) : isContinuation (UInt8.ofNat (n + 0x80)) = true := by
  have hn : n + 0x80 < 256 := by omega
  unfold isContinuation
  rw [Bool.and_eq_true, decide_eq_true_eq, decide_eq_true_eq, le_ofNat_iff hn, ofNat_lt_iff hn]
  constructor
  · show 0x80 ≤ n + 0x80
    omega
  · show n + 0x80 < 0xC0
    omega

theorem lowSix_ofNat (h : n < 64) : lowSix (UInt8.ofNat (n + 0x80)) = n := by
  unfold lowSix
  rw [UInt8.toNat_ofNat_of_lt' (show n + 0x80 < 256 by omega)]
  omega

end Bytes

/-- Whether the second byte of a longer character is one that may follow its first. -/
theorem second_ofNat {first second : Nat} (hfirst : first < 256) (hsecond : second < 64)
    (hE0 : first = 0xE0 → 0x20 ≤ second) (hED : first = 0xED → second < 0x20)
    (hF0 : first = 0xF0 → 0x10 ≤ second) (hF4 : first = 0xF4 → second < 0x10) :
    (leastSecond (UInt8.ofNat first) ≤ UInt8.ofNat (second + 0x80) &&
      UInt8.ofNat (second + 0x80) < secondBound (UInt8.ofNat first) : Bool) = true := by
  have hn : second + 0x80 < 256 := by omega
  rw [Bool.and_eq_true, decide_eq_true_eq, decide_eq_true_eq, le_ofNat_iff hn, ofNat_lt_iff hn]
  unfold leastSecond secondBound
  simp only [ofNat_eq_iff hfirst]
  constructor
  · split
    · next h =>
      have hleast := hE0 h
      show 0xA0 ≤ second + 0x80
      omega
    split
    · next h =>
      have hleast := hF0 h
      show 0x90 ≤ second + 0x80
      omega
    · show 0x80 ≤ second + 0x80
      omega
  · split
    · next h =>
      have hmost := hED h
      show second + 0x80 < 0xA0
      omega
    split
    · next h =>
      have hmost := hF4 h
      show second + 0x80 < 0x90
      omega
    · show second + 0x80 < 0xC0
      omega

section First

variable {a b c d : UInt8} (rest : Bytes)

theorem decodeFirst_one (ha : lengthOfFirst a = 1) :
    decodeFirst a rest = ⟨.ok (Char.ofNat a.toNat), 1⟩ := by
  unfold decodeFirst
  rw [ha]
  rfl

theorem decodeFirst_two (ha : lengthOfFirst a = 2) (hb : isContinuation b = true) :
    decodeFirst a (b :: rest) = ⟨.ok (Char.ofNat (a.toNat % 32 * 64 + lowSix b)), 2⟩ := by
  unfold decodeFirst
  rw [ha]
  exact if_pos hb

theorem decodeFirst_three (ha : lengthOfFirst a = 3)
    (hb : (leastSecond a ≤ b && b < secondBound a : Bool) = true) (hc : isContinuation c = true) :
    decodeFirst a (b :: c :: rest) =
      ⟨.ok (Char.ofNat ((a.toNat % 16 * 64 + lowSix b) * 64 + lowSix c)), 3⟩ := by
  unfold decodeFirst
  rw [ha]
  show (if !(leastSecond a ≤ b && b < secondBound a : Bool) then _
    else if !isContinuation c then _ else _) = _
  rw [hb, hc]
  rfl

theorem decodeFirst_four (ha : lengthOfFirst a = 4)
    (hb : (leastSecond a ≤ b && b < secondBound a : Bool) = true) (hc : isContinuation c = true)
    (hd : isContinuation d = true) :
    decodeFirst a (b :: c :: d :: rest) =
      ⟨.ok (Char.ofNat (((a.toNat % 8 * 64 + lowSix b) * 64 + lowSix c) * 64 + lowSix d)), 4⟩ := by
  unfold decodeFirst
  rw [ha]
  show (if !(leastSecond a ≤ b && b < secondBound a : Bool) then _
    else if !isContinuation c then _ else if !isContinuation d then _ else _) = _
  rw [hb, hc, hd]
  rfl

end First

/-- The bytes of a character, whatever follows, give the character. -/
theorem decodeFirst_encode (c : Char) (rest : Bytes) :
    ∃ b more, String.utf8EncodeChar c = b :: more ∧
      decodeFirst b (more ++ rest) = ⟨.ok c, more.length + 1⟩ := by
  have hvalid : c.val.toNat < 0xD800 ∨ 0xDFFF < c.val.toNat ∧ c.val.toNat < 0x110000 := c.valid
  have hc : Char.ofNat c.val.toNat = c := Char.ofNat_toNat c
  unfold String.utf8EncodeChar
  dsimp only
  generalize c.val.toNat = v at hc hvalid
  subst hc
  split
  · next h =>
    refine ⟨_, _, rfl, ?_⟩
    have hv : v < 256 := by omega
    rw [List.nil_append, decodeFirst_one, UInt8.toNat_ofNat_of_lt' hv]
    · rfl
    · rw [lengthOfFirst_ofNat hv, if_pos (by omega)]
  split
  · next h =>
    refine ⟨_, _, rfl, ?_⟩
    have hfirst : v / 64 % 0x20 + 0xc0 < 256 := by omega
    have hlast : v % 0x40 < 64 := by omega
    rw [List.singleton_append, decodeFirst_two _ _ (isContinuation_ofNat hlast),
      lowSix_ofNat hlast, UInt8.toNat_ofNat_of_lt' hfirst]
    · congr 3
      omega
    · rw [lengthOfFirst_ofNat hfirst, if_neg (by omega), if_neg (by omega), if_pos (by omega)]
  split
  · next h =>
    refine ⟨_, _, rfl, ?_⟩
    have hfirst : v / 4096 % 0x10 + 0xe0 < 256 := by omega
    have hsecond : v / 64 % 0x40 < 64 := by omega
    have hlast : v % 0x40 < 64 := by omega
    rw [List.cons_append, List.singleton_append,
      decodeFirst_three _ _ (second_ofNat hfirst hsecond _ _ _ _) (isContinuation_ofNat hlast),
      lowSix_ofNat hsecond, lowSix_ofNat hlast, UInt8.toNat_ofNat_of_lt' hfirst]
    · congr 3
      omega
    · rw [lengthOfFirst_ofNat hfirst, if_neg (by omega), if_neg (by omega), if_neg (by omega),
        if_pos (by omega)]
    all_goals omega
  · next h =>
    refine ⟨_, _, rfl, ?_⟩
    have hfirst : v / 262144 % 0x08 + 0xf0 < 256 := by omega
    have hsecond : v / 4096 % 0x40 < 64 := by omega
    have hthird : v / 64 % 0x40 < 64 := by omega
    have hlast : v % 0x40 < 64 := by omega
    rw [List.cons_append, List.cons_append, List.singleton_append,
      decodeFirst_four _ _ (second_ofNat hfirst hsecond _ _ _ _) (isContinuation_ofNat hthird)
        (isContinuation_ofNat hlast),
      lowSix_ofNat hsecond, lowSix_ofNat hthird, lowSix_ofNat hlast,
      UInt8.toNat_ofNat_of_lt' hfirst]
    · congr 3
      omega
    · rw [lengthOfFirst_ofNat hfirst, if_neg (by omega), if_neg (by omega), if_neg (by omega),
        if_neg (by omega), if_pos (by omega)]
    all_goals omega

/-! ## 2. Whole texts -/

/-- The bytes that belong to the character before are passed over. -/
theorem decodeFrom_skip (position : Nat) (skipped rest : Bytes) :
    decodeFrom position skipped.length (skipped ++ rest) =
      decodeFrom (position + skipped.length) 0 rest := by
  induction skipped generalizing position with
  | nil => rfl
  | cons b more ih =>
    rw [List.cons_append, List.length_cons, decodeFrom, ih, Nat.add_assoc, Nat.add_comm 1]

theorem decodeFrom_encode (position : Nat) (cs : List Char) :
    decodeFrom position 0 (cs.flatMap String.utf8EncodeChar) = .ok cs := by
  induction cs generalizing position with
  | nil => rfl
  | cons c rest ih =>
    obtain ⟨b, more, hencode, hdecode⟩ :=
      decodeFirst_encode c (rest.flatMap String.utf8EncodeChar)
    rw [List.flatMap_cons, hencode, List.cons_append, decodeFrom]
    rw [hdecode]
    dsimp only
    rw [Nat.add_sub_cancel, decodeFrom_skip, ih]

/-- A text is read back from its bytes. -/
theorem decode?_encode (s : String) : decode? (encode s) = .ok s := by
  unfold decode? encode
  rw [decodeFrom_encode]
  exact congrArg Except.ok String.ofList_toList

/-- The bytes that belong to the character before are passed over. -/
theorem glyphsFrom_skip (skipped rest : Bytes) :
    glyphsFrom skipped.length (skipped ++ rest) = glyphsFrom 0 rest := by
  induction skipped with
  | nil => rfl
  | cons b more ih => rw [List.cons_append, List.length_cons, glyphsFrom, ih]

/-- A text is read from its bytes, character by character. -/
theorem glyphs_encode (s : String) : (glyphs (encode s)).map (·.char) = s.toList := by
  unfold glyphs encode
  induction s.toList with
  | nil => rfl
  | cons c rest ih =>
    obtain ⟨b, more, hencode, hdecode⟩ :=
      decodeFirst_encode c (rest.flatMap String.utf8EncodeChar)
    rw [List.flatMap_cons, hencode, List.cons_append, glyphsFrom, hdecode]
    dsimp only
    rw [Nat.add_sub_cancel, glyphsFrom_skip, List.map_cons, ih]

/-! ## 3. The bytes of a text -/

section Encode

variable {a b c d : UInt8}

/-- The bytes of the character with a number. -/
theorem utf8EncodeChar_ofNat {n : Nat} (h : n.isValidChar) :
    String.utf8EncodeChar (Char.ofNat n) =
      if n ≤ 0x7f then [UInt8.ofNat n]
      else if n ≤ 0x7ff then [UInt8.ofNat (n / 64 % 0x20 + 0xc0), UInt8.ofNat (n % 0x40 + 0x80)]
      else if n ≤ 0xffff then
        [UInt8.ofNat (n / 4096 % 0x10 + 0xe0), UInt8.ofNat (n / 64 % 0x40 + 0x80),
          UInt8.ofNat (n % 0x40 + 0x80)]
      else
        [UInt8.ofNat (n / 262144 % 0x08 + 0xf0), UInt8.ofNat (n / 4096 % 0x40 + 0x80),
          UInt8.ofNat (n / 64 % 0x40 + 0x80), UInt8.ofNat (n % 0x40 + 0x80)] := by
  have hn : (Char.ofNat n).val.toNat = n := by
    rw [Char.ofNat, dif_pos h]
    rfl
  unfold String.utf8EncodeChar
  rw [hn]

/-- First bytes by the length of their characters. -/
theorem lengthOfFirst_ranges (b : UInt8) :
    (lengthOfFirst b = 1 → b.toNat < 0x80) ∧
      (lengthOfFirst b = 2 → 0xC2 ≤ b.toNat ∧ b.toNat < 0xE0) ∧
      (lengthOfFirst b = 3 → 0xE0 ≤ b.toNat ∧ b.toNat < 0xF0) ∧
      (lengthOfFirst b = 4 → 0xF0 ≤ b.toNat ∧ b.toNat < 0xF5) := by
  have h := lengthOfFirst_ofNat b.toNat_lt
  rw [UInt8.ofNat_toNat] at h
  grind

theorem isContinuation_iff : isContinuation b = true ↔ 0x80 ≤ b.toNat ∧ b.toNat < 0xC0 := by
  unfold isContinuation
  rw [Bool.and_eq_true, decide_eq_true_eq, decide_eq_true_eq, UInt8.le_iff_toNat_le,
    UInt8.lt_iff_toNat_lt]
  rfl

/-- What second bytes there are in longer characters. -/
theorem second_range (h : (leastSecond a ≤ b && b < secondBound a : Bool) = true) :
    0x80 ≤ b.toNat ∧ b.toNat < 0xC0 ∧ (a.toNat = 0xE0 → 0xA0 ≤ b.toNat) ∧
      (a.toNat = 0xED → b.toNat < 0xA0) ∧ (a.toNat = 0xF0 → 0x90 ≤ b.toNat) ∧
      (a.toNat = 0xF4 → b.toNat < 0x90) := by
  rw [Bool.and_eq_true, decide_eq_true_eq, decide_eq_true_eq, UInt8.le_iff_toNat_le,
    UInt8.lt_iff_toNat_lt] at h
  unfold leastSecond secondBound at h
  simp only [← UInt8.toNat_inj, apply_ite UInt8.toNat, UInt8.reduceToNat] at h
  grind

theorem utf8EncodeChar_one (ha : lengthOfFirst a = 1) :
    String.utf8EncodeChar (Char.ofNat a.toNat) = [a] := by
  have hrange := (lengthOfFirst_ranges a).1 ha
  rw [utf8EncodeChar_ofNat (.inl (by omega)), if_pos (by omega), UInt8.ofNat_toNat]

theorem utf8EncodeChar_two (ha : lengthOfFirst a = 2) (hb : isContinuation b = true) :
    String.utf8EncodeChar (Char.ofNat (a.toNat % 32 * 64 + lowSix b)) = [a, b] := by
  have hrange := (lengthOfFirst_ranges a).2.1 ha
  have hrange' := isContinuation_iff.mp hb
  unfold lowSix
  rw [utf8EncodeChar_ofNat (.inl (by omega)), if_neg (by omega), if_pos (by omega),
    (ofNat_eq_iff (by omega) a).mpr (by omega), (ofNat_eq_iff (by omega) b).mpr (by omega)]

theorem utf8EncodeChar_three (ha : lengthOfFirst a = 3)
    (hb : (leastSecond a ≤ b && b < secondBound a : Bool) = true) (hc : isContinuation c = true) :
    String.utf8EncodeChar (Char.ofNat ((a.toNat % 16 * 64 + lowSix b) * 64 + lowSix c)) =
      [a, b, c] := by
  have hrange := (lengthOfFirst_ranges a).2.2.1 ha
  have hsecond := second_range hb
  have hlast := isContinuation_iff.mp hc
  unfold lowSix
  rw [utf8EncodeChar_ofNat (by unfold Nat.isValidChar; omega), if_neg (by omega), if_neg (by omega),
    if_pos (by omega), (ofNat_eq_iff (by omega) a).mpr (by omega), (ofNat_eq_iff (by omega) b).mpr (by omega),
    (ofNat_eq_iff (by omega) c).mpr (by omega)]

theorem utf8EncodeChar_four (ha : lengthOfFirst a = 4)
    (hb : (leastSecond a ≤ b && b < secondBound a : Bool) = true) (hc : isContinuation c = true)
    (hd : isContinuation d = true) :
    String.utf8EncodeChar
        (Char.ofNat (((a.toNat % 8 * 64 + lowSix b) * 64 + lowSix c) * 64 + lowSix d)) =
      [a, b, c, d] := by
  have hrange := (lengthOfFirst_ranges a).2.2.2 ha
  have hsecond := second_range hb
  have hthird := isContinuation_iff.mp hc
  have hlast := isContinuation_iff.mp hd
  unfold lowSix
  rw [utf8EncodeChar_ofNat (by unfold Nat.isValidChar; omega), if_neg (by omega), if_neg (by omega),
    if_neg (by omega), (ofNat_eq_iff (by omega) a).mpr (by omega),
    (ofNat_eq_iff (by omega) b).mpr (by omega), (ofNat_eq_iff (by omega) c).mpr (by omega),
    (ofNat_eq_iff (by omega) d).mpr (by omega)]

theorem lengthOfFirst_le (b : UInt8) : lengthOfFirst b ≤ 4 := by
  unfold lengthOfFirst
  grind

section Decode

variable {rest : Bytes} {ch : Char}

theorem bytes_of_two (ha : lengthOfFirst a = 2) (h : (decodeFirst a rest).value = .ok ch) :
    ∃ b last, rest = b :: last ∧ isContinuation b = true := by
  unfold decodeFirst at h
  rw [ha] at h
  cases rest with
  | nil => cases h
  | cons b last =>
    refine ⟨b, last, rfl, Classical.byContradiction fun hb => ?_⟩
    change (if isContinuation b then _ else _ : Decoded).value = _ at h
    rw [if_neg hb] at h
    cases h

theorem bytes_of_three (ha : lengthOfFirst a = 3) (h : (decodeFirst a rest).value = .ok ch) :
    ∃ b c last, rest = b :: c :: last ∧
      (leastSecond a ≤ b && b < secondBound a : Bool) = true ∧ isContinuation c = true := by
  unfold decodeFirst at h
  rw [ha] at h
  rcases rest with _ | ⟨b, _ | ⟨c, last⟩⟩
  · cases h
  · change (if (leastSecond a ≤ b && b < secondBound a : Bool) then _ else _ : Decoded).value = _ at h
    split at h <;> cases h
  · change (if !(leastSecond a ≤ b && b < secondBound a : Bool) then _ else
      if !isContinuation c then _ else _ : Decoded).value = _ at h
    split at h
    · cases h
    next hb =>
    split at h
    · cases h
    next hc =>
    rw [Bool.not_eq_true', Bool.not_eq_false] at hb hc
    exact ⟨b, c, last, rfl, hb, hc⟩

theorem bytes_of_four (ha : lengthOfFirst a = 4) (h : (decodeFirst a rest).value = .ok ch) :
    ∃ b c d last, rest = b :: c :: d :: last ∧
      (leastSecond a ≤ b && b < secondBound a : Bool) = true ∧ isContinuation c = true ∧
        isContinuation d = true := by
  unfold decodeFirst at h
  rw [ha] at h
  rcases rest with _ | ⟨b, _ | ⟨c, _ | ⟨d, last⟩⟩⟩
  · cases h
  · change (if !(leastSecond a ≤ b && b < secondBound a : Bool) then _ else _ : Decoded).value = _ at h
    split at h <;> cases h
  · change (if !(leastSecond a ≤ b && b < secondBound a : Bool) then _ else
      if !isContinuation c then _ else _ : Decoded).value = _ at h
    split at h
    · cases h
    · split at h <;> cases h
  · change (if !(leastSecond a ≤ b && b < secondBound a : Bool) then _ else
      if !isContinuation c then _ else if !isContinuation d then _ else _ : Decoded).value = _ at h
    split at h
    · cases h
    next hb =>
    split at h
    · cases h
    next hc =>
    split at h
    · cases h
    next hd =>
    rw [Bool.not_eq_true', Bool.not_eq_false] at hb hc hd
    exact ⟨b, c, d, last, rfl, hb, hc, hd⟩

/-- A character is read from its own bytes, and from no others. -/
theorem decodeFirst_ok (h : (decodeFirst a rest).value = .ok ch) :
    ∃ more last, rest = more ++ last ∧ (decodeFirst a rest).width = more.length + 1 ∧
      String.utf8EncodeChar ch = a :: more := by
  have hlength := lengthOfFirst_le a
  obtain ha | ha | ha | ha | ha : lengthOfFirst a = 0 ∨ lengthOfFirst a = 1 ∨ lengthOfFirst a = 2 ∨
      lengthOfFirst a = 3 ∨ lengthOfFirst a = 4 := by omega
  · unfold decodeFirst at h
    rw [ha] at h
    cases h
  · rw [decodeFirst_one rest ha] at h ⊢
    cases h
    exact ⟨[], rest, rfl, rfl, utf8EncodeChar_one ha⟩
  · obtain ⟨b, last, rfl, hb⟩ := bytes_of_two ha h
    rw [decodeFirst_two last ha hb] at h ⊢
    cases h
    exact ⟨[b], last, rfl, rfl, utf8EncodeChar_two ha hb⟩
  · obtain ⟨b, c, last, rfl, hb, hc⟩ := bytes_of_three ha h
    rw [decodeFirst_three last ha hb hc] at h ⊢
    cases h
    exact ⟨[b, c], last, rfl, rfl, utf8EncodeChar_three ha hb hc⟩
  · obtain ⟨b, c, d, last, rfl, hb, hc, hd⟩ := bytes_of_four ha h
    rw [decodeFirst_four last ha hb hc hd] at h ⊢
    cases h
    exact ⟨[b, c, d], last, rfl, rfl, utf8EncodeChar_four ha hb hc hd⟩

end Decode

end Encode

theorem encode_of_decodeFrom {position : Nat} {bytes : Bytes} {cs : List Char}
    (h : decodeFrom position 0 bytes = .ok cs) : cs.flatMap String.utf8EncodeChar = bytes := by
  induction cs generalizing position bytes with
  | nil =>
    cases bytes with
    | nil => rfl
    | cons b rest =>
      rw [decodeFrom] at h
      split at h
      · cases h
      · split at h <;> cases h
  | cons c cs ih =>
    cases bytes with
    | nil => cases h
    | cons b rest =>
      rw [decodeFrom] at h
      split at h
      · cases h
      next hfirst =>
      obtain ⟨more, last, rfl, hwidth, hencode⟩ := decodeFirst_ok hfirst
      rw [hwidth, Nat.add_sub_cancel, decodeFrom_skip] at h
      split at h
      · cases h
      next hrest =>
      cases h
      rw [List.flatMap_cons, hencode, ih hrest, List.cons_append]

/-- The bytes that are read as a text are its bytes. -/
theorem encode_of_decode? {bytes : Bytes} {s : String} (h : decode? bytes = .ok s) :
    encode s = bytes := by
  unfold decode? at h
  cases hcs : decodeFrom 0 0 bytes with
  | error e =>
    rw [hcs] at h
    cases h
  | ok cs =>
    rw [hcs] at h
    cases h
    unfold encode
    rw [String.toList_ofList, encode_of_decodeFrom hcs]

/-! ## 4. Line ends -/

/-- A text without returns keeps its lines. -/
theorem unifyLines_eq {s : String} (h : '\r' ∉ s.toList) : unifyLines s = s := by
  have hchars : ∀ cs : List Char, '\r' ∉ cs → unifyLineChars cs = cs := by
    intro cs hcs
    induction cs with
    | nil => rfl
    | cons c rest ih =>
      obtain ⟨hc, hrest⟩ := List.ne_and_not_mem_of_not_mem_cons hcs
      unfold unifyLineChars
      split
      · next heq => cases heq
      · next heq =>
        cases heq
        exact absurd rfl hc
      · next heq =>
        cases heq
        exact absurd rfl hc
      · next heq =>
        cases heq
        rw [ih hrest]
  unfold unifyLines
  rw [hchars _ h, String.ofList_toList]

/-- No return is left where lines were unified. -/
theorem return_not_mem_unifyLines (s : String) : '\r' ∉ (unifyLines s).toList := by
  unfold unifyLines
  rw [String.toList_ofList]
  fun_induction unifyLineChars s.toList with
  | case1 => exact List.not_mem_nil
  | case2 rest ih => exact List.not_mem_cons_of_ne_of_not_mem (by decide) ih
  | case3 rest _ ih => exact List.not_mem_cons_of_ne_of_not_mem (by decide) ih
  | case4 c rest _ hc ih =>
    refine List.not_mem_cons_of_ne_of_not_mem (fun heq => ?_) ih
    exact hc heq.symm

theorem mem_encode_return {s : String} (h : '\r' ∈ s.toList) : 0x0D ∈ encode s :=
  List.mem_flatMap.mpr ⟨'\r', h, by decide⟩

end FluentBuilders.Text
