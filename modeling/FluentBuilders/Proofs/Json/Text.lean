import FluentBuilders.Json.Printer
import FluentBuilders.Json.Reader

/-!
Texts that are written as values and read back.

1. Four hexadecimal digits.
2. `piecesOf`: what the escapes of a character are read as.
3. `textBody_escape`: every text is read back as it was written.
4. What is written holds no line end.
-/

namespace FluentBuilders

open Text

namespace Json

/-! ## 1. Hexadecimal digits -/

theorem hexDigit?_hexChar {n : Nat} (h : n < 16) : hexDigit? (hexChar n) = some n := by
  have hall : ∀ n < 16, hexDigit? (hexChar n) = some n := by decide
  exact hall n h

theorem hexDigits_four (n : Nat) :
    hexDigits 4 n = [hexChar (n / 16 / 16 / 16 % 16), hexChar (n / 16 / 16 % 16),
      hexChar (n / 16 % 16), hexChar (n % 16)] := rfl

theorem fourDigits?_hexDigits {n : Nat} (h : n < 0x10000) :
    fourDigits? (hexChar (n / 16 / 16 / 16 % 16)) (hexChar (n / 16 / 16 % 16))
      (hexChar (n / 16 % 16)) (hexChar (n % 16)) = some n := by
  unfold fourDigits?
  rw [hexDigit?_hexChar (Nat.mod_lt _ (by decide)), hexDigit?_hexChar (Nat.mod_lt _ (by decide)),
    hexDigit?_hexChar (Nat.mod_lt _ (by decide)), hexDigit?_hexChar (Nat.mod_lt _ (by decide))]
  dsimp only
  congr 1
  omega

/-! ## 2. Pieces -/

/-- What the written form of a character is read as. -/
def piecesOf (c : Char) : List Piece :=
  if (0x20 ≤ c.toNat ∧ c.toNat < 0x7F) ∨ c = '\n' ∨ c = '\r' ∨ c = '\t' ∨ c.toNat = 0x0C ∨
      c.toNat = 0x08 then [.plain c]
  else if c.toNat < 0x10000 then [.unit c.toNat]
  else [.unit (0xD800 + (c.toNat - 0x10000) / 0x400), .unit (0xDC00 + (c.toNat - 0x10000) % 0x400)]

variable {c : Char} {rest after : List Char} {ps : List Piece}

theorem pieces_unit {n : Nat} (hn : n < 0x10000) (h : pieces rest = some (ps, after)) :
    pieces (unitEscape n ++ rest) = some (.unit n :: ps, after) := by
  unfold unitEscape
  rw [hexDigits_four]
  simp only [List.cons_append, List.nil_append]
  rw [pieces, fourDigits?_hexDigits hn, h]

theorem pieces_simple {e : Char} (hu : c ≠ 'u') (hc : simpleEscape? c = some e)
    (h : pieces rest = some (ps, after)) :
    pieces ('\\' :: c :: rest) = some (.plain e :: ps, after) := by
  rw [pieces, hc, h]
  intro a b c' d more hrest
  exact fun hmore => hu hrest

theorem pieces_plain (hlow : 0x20 ≤ c.toNat) (hquote : c ≠ '"') (hslash : c ≠ '\\')
    (h : pieces rest = some (ps, after)) : pieces (c :: rest) = some (.plain c :: ps, after) := by
  rw [pieces, h]
  all_goals grind

theorem pieces_escapeChar (c : Char) (h : pieces rest = some (ps, after)) :
    pieces (escapeChar c ++ rest) = some (piecesOf c ++ ps, after) := by
  have hsame : ∀ d : Char, c.toNat = d.toNat → c = d := fun d hd => by
    rw [← Char.ofNat_toNat c, hd, Char.ofNat_toNat]
  unfold escapeChar
  split
  · next hc =>
    have hpieces : piecesOf c = [.plain c] := by
      rcases hc with rfl | rfl <;> rfl
    rw [hpieces]
    exact pieces_simple (by rcases hc with rfl | rfl <;> decide)
      (by rcases hc with rfl | rfl <;> rfl) h
  next hquote =>
  rw [not_or] at hquote
  split
  · next hc =>
    subst hc
    exact pieces_simple (by decide) rfl h
  split
  · next hc =>
    subst hc
    exact pieces_simple (by decide) rfl h
  split
  · next hc =>
    subst hc
    exact pieces_simple (by decide) rfl h
  split
  · next hc =>
    rw [hsame '\x0C' hc]
    exact pieces_simple (by decide) rfl h
  split
  · next hc =>
    rw [hsame '\x08' hc]
    exact pieces_simple (by decide) rfl h
  next hn hr ht hf hb =>
  split
  · next hc =>
    unfold piecesOf
    rw [if_pos (.inl hc)]
    exact pieces_plain hc.1 hquote.1 hquote.2 h
  next hc =>
  have hescaped : ¬ ((0x20 ≤ c.toNat ∧ c.toNat < 0x7F) ∨ c = '\n' ∨ c = '\r' ∨ c = '\t' ∨
      c.toNat = 0x0C ∨ c.toNat = 0x08) := by
    simp only [not_or]
    exact ⟨hc, hn, hr, ht, hf, hb⟩
  unfold piecesOf
  rw [if_neg hescaped]
  split
  · next hc => exact pieces_unit hc h
  · next hc =>
    have hvalid : c.toNat < 0x110000 := by
      have hc := c.valid
      unfold UInt32.isValidChar Nat.isValidChar at hc
      show c.val.toNat < 0x110000
      omega
    rw [List.append_assoc]
    exact pieces_unit (by omega) (pieces_unit (by omega) h)

theorem pieces_escape (cs rest : List Char) :
    pieces (cs.flatMap escapeChar ++ '"' :: rest) = some (cs.flatMap piecesOf, rest) := by
  induction cs with
  | nil => rfl
  | cons c more ih =>
    rw [List.flatMap_cons, List.flatMap_cons, List.append_assoc]
    exact pieces_escapeChar c ih

/-! ## 3. Texts -/

theorem joinPieces_piecesOf (c : Char) {cs : List Char} (h : joinPieces ps = some cs) :
    joinPieces (piecesOf c ++ ps) = some (c :: cs) := by
  have hvalid : c.toNat < 0xD800 ∨ 0xDFFF < c.toNat ∧ c.toNat < 0x110000 := c.valid
  unfold piecesOf
  split
  · rw [List.singleton_append, joinPieces, h]
    rfl
  split
  · next hc =>
    have hhigh : isHighHalf c.toNat = false := by
      unfold isHighHalf
      rw [Bool.and_eq_false_iff, decide_eq_false_iff_not, decide_eq_false_iff_not]
      omega
    have hlow : isLowHalf c.toNat = false := by
      unfold isLowHalf
      rw [Bool.and_eq_false_iff, decide_eq_false_iff_not, decide_eq_false_iff_not]
      omega
    unfold joinPieces
    dsimp only [List.singleton_append]
    rw [if_neg (by simp [hhigh]), if_neg (by simp [hlow]), h, Char.ofNat_toNat]
    rfl
  · next hc =>
    have hhigh : isHighHalf (0xD800 + (c.toNat - 0x10000) / 0x400) = true := by
      unfold isHighHalf
      rw [Bool.and_eq_true, decide_eq_true_eq, decide_eq_true_eq]
      omega
    have hlow : isLowHalf (0xDC00 + (c.toNat - 0x10000) % 0x400) = true := by
      unfold isLowHalf
      rw [Bool.and_eq_true, decide_eq_true_eq, decide_eq_true_eq]
      omega
    have hvalue : 0x10000 + (0xD800 + (c.toNat - 0x10000) / 0x400 - 0xD800) * 0x400 +
        (0xDC00 + (c.toNat - 0x10000) % 0x400 - 0xDC00) = c.toNat := by
      omega
    unfold joinPieces
    dsimp only [List.cons_append, List.nil_append]
    rw [if_pos hhigh, if_pos hlow, h, hvalue, Char.ofNat_toNat]
    rfl

theorem joinPieces_escape (cs : List Char) : joinPieces (cs.flatMap piecesOf) = some cs := by
  induction cs with
  | nil => rfl
  | cons c more ih => exact joinPieces_piecesOf c ih

/-- A text is read back as it was written. -/
theorem textBody_escape (s : String) (rest : List Char) :
    textBody (s.toList.flatMap escapeChar ++ '"' :: rest) = some (s, rest) := by
  unfold textBody
  rw [pieces_escape]
  dsimp only
  rw [joinPieces_escape]
  exact congrArg (fun s => some (s, rest)) String.ofList_toList

/-! ## 4. Line ends -/

theorem return_not_mem_unitEscape (n : Nat) : '\r' ∉ unitEscape n := by
  have hhex : ∀ n, hexChar (n % 16) ≠ '\r' := by
    intro n
    have hall : ∀ n < 16, hexChar n ≠ '\r' := by decide
    exact hall _ (Nat.mod_lt _ (by decide))
  unfold unitEscape
  rw [hexDigits_four]
  simp [Ne.symm (hhex _)]

theorem return_not_mem_escapeChar (c : Char) : '\r' ∉ escapeChar c := by
  unfold escapeChar
  split
  · next hc => rcases hc with rfl | rfl <;> decide
  next hquote =>
  split
  · decide
  split
  · decide
  next hreturn =>
  split
  · decide
  split
  · decide
  split
  · decide
  split
  · simpa using Ne.symm hreturn
  split
  · exact return_not_mem_unitEscape _
  · rw [List.mem_append, not_or]
    exact ⟨return_not_mem_unitEscape _, return_not_mem_unitEscape _⟩

theorem return_not_mem_escapeText (s : String) : '\r' ∉ escapeText s := by
  unfold escapeText
  rw [List.mem_cons, List.mem_append, List.mem_flatMap]
  rintro (h | ⟨c, -, h⟩ | h)
  · exact absurd h (by decide)
  · exact return_not_mem_escapeChar c h
  · exact absurd h (by decide)

end Json

end FluentBuilders
