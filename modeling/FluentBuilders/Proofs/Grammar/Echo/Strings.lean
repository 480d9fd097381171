import FluentBuilders.Proofs.Grammar.Echo

/-!
Strings of a text whose blanks are closed up.

1. How far the end of string content depends on the text behind it.
2. Pieces of strings.
3. Strings, and their replacement fields.
-/

namespace FluentBuilders.Grammar

open Text

/-! ## 1. The end of string content -/

section Content

variable {l r r' : List Char} {gs gs' : List Glyph}

/-- A text that goes on with given characters starts with the first of them. -/
theorem chars_cons {c : Char} {cs : List Char} (h : chars gs = c :: cs) :
    ∃ g rest, gs = g :: rest ∧ g.char = c ∧ chars rest = cs := by
  cases gs with
  | nil => cases h
  | cons g rest => exact ⟨g, rest, rfl, (List.cons.inj h).1, (List.cons.inj h).2⟩

theorem runLength_congr {p : Char → Bool} (h : chars gs = l ++ r) (h' : chars gs' = l ++ r')
    (hlength : runLength p gs < l.length) : runLength p gs' = runLength p gs := by
  induction l generalizing gs gs' with
  | nil => exact absurd hlength (Nat.not_lt_zero _)
  | cons c l ih =>
    obtain ⟨g, rest, rfl, rfl, hrest⟩ := chars_cons h
    obtain ⟨g', rest', rfl, hg, hrest'⟩ := chars_cons h'
    rw [runLength] at hlength ⊢
    rw [runLength, hg]
    split
    · next hp =>
      rw [if_pos hp, List.length_cons] at hlength
      rw [ih hrest hrest' (by omega)]
    · rfl

theorem startsWithChars_congr {cs : List Char} (h : chars gs = l ++ r) (h' : chars gs' = l ++ r')
    (hl : cs.length ≤ l.length ∨ ∃ b ∈ l, b ∉ cs) :
    startsWithChars cs gs' = startsWithChars cs gs := by
  induction cs generalizing l gs gs' with
  | nil => rw [startsWithChars, startsWithChars]
  | cons c cs ih =>
    cases l with
    | nil => simp at hl
    | cons d l =>
      obtain ⟨g, rest, rfl, rfl, hrest⟩ := chars_cons h
      obtain ⟨g', rest', rfl, hg, hrest'⟩ := chars_cons h'
      rw [startsWithChars, startsWithChars, hg]
      by_cases hc : c = g.char
      · rw [ih hrest hrest']
        refine hl.imp Nat.le_of_succ_le_succ ?_
        rintro ⟨b, hb, hnot⟩
        rw [List.mem_cons, not_or] at hnot
        rcases List.mem_cons.mp hb with rfl | hb
        · exact absurd hc.symm hnot.1
        · exact ⟨b, hb, hnot.2⟩
      · rw [beq_false_of_ne hc, Bool.false_and, Bool.false_and]

variable {form : StringForm}

/-- What a backslash takes with it is told by the characters that it takes. -/
theorem escapeLength_congr (h : chars gs = l ++ r) (h' : chars gs' = l ++ r') (hne : l ≠ [])
    (hname : l ≠ ['N']) (hlength : escapeLength form gs ≤ l.length) :
    escapeLength form gs' = escapeLength form gs := by
  obtain ⟨c, l, rfl⟩ := List.exists_cons_of_ne_nil hne
  obtain ⟨g, rest, rfl, rfl, hrest⟩ := chars_cons h
  obtain ⟨g', rest', rfl, hg, hrest'⟩ := chars_cons h'
  have hsecond : ∀ d, l ≠ [] → startsWithChars [d] rest' = startsWithChars [d] rest :=
    fun d hl => startsWithChars_congr hrest hrest' (.inl (List.length_pos_iff.mpr hl))
  rw [escapeLength] at hlength ⊢
  rw [escapeLength, hg]
  split
  · rfl
  split
  · next hplain hreturn =>
    have hl : l ≠ [] := by
      rintro rfl
      rw [if_neg hplain, if_pos hreturn] at hlength
      split at hlength <;> simp at hlength
    rw [hsecond '\n' hl]
  split
  · rfl
  · next hplain hreturn hquote =>
    rw [if_neg hplain, if_neg hreturn, if_neg hquote] at hlength
    by_cases hn : (g.char = 'N' && !form.raw && !form.bytes : Bool) = true
    · have hl : l ≠ [] := by
        rintro rfl
        simp only [Bool.and_eq_true, decide_eq_true_eq] at hn
        exact hname (by rw [hn.1.1])
      rw [hn, Bool.true_and] at hlength ⊢
      rw [Bool.true_and, hsecond '\x7b' hl]
      split
      · next hopen =>
        rw [if_pos hopen, List.length_cons] at hlength
        rw [runLength_congr hrest hrest' (by omega)]
      · rfl
    · simp only [Bool.not_eq_true] at hn
      simp only [hn, Bool.false_and, Bool.false_eq_true, if_false]

theorem skip_le_contentLength {skip n : Nat} {empty : Bool} {e : ContentEnd} (he : e ≠ .broken)
    (h : contentLength form skip empty gs = (n, e)) : skip ≤ n := by
  induction gs generalizing skip empty n with
  | nil =>
    cases h
    exact absurd rfl he
  | cons g rest ih =>
    cases skip with
    | zero => exact Nat.zero_le n
    | succ skip =>
      rw [contentLength] at h
      dsimp only at h
      have hrest : skip ≤ _ := @ih skip _ false (Prod.ext rfl (Prod.mk.inj h).2)
      rw [← (Prod.mk.inj h).1]
      exact Nat.succ_le_succ hrest

/-- The characters that tell why a run of string content ends. -/
def ContentEnd.delimiter (form : StringForm) : ContentEnd → List Char
  | .closed => form.closing
  | _ => ['\x7b']

theorem closing_cases (form : StringForm) :
    form.closing = [form.quote] ∨ form.closing = [form.quote, form.quote, form.quote] := by
  unfold StringForm.closing
  cases form.tripled with
  | false => exact .inl rfl
  | true => exact .inr rfl

/-- A delimiter ends with a character that is no blank and no letter, and starts with it. -/
theorem ContentEnd.delimiter_spec (hquote : isQuote form.quote = true) (e : ContentEnd) :
    ∃ b, e.delimiter form ≠ [] ∧ (∀ ch ∈ e.delimiter form, ch = b) ∧ isBlank b = false ∧ b ≠ 'N' ∧
      (e = .field → b ∉ form.closing) := by
  have hnot : form.quote ≠ 'N' ∧ form.quote ≠ '\x7b' := by
    constructor <;> intro h <;> rw [h] at hquote <;> cases hquote
  have hbrace : '\x7b' ∉ form.closing := by
    rcases closing_cases form with h | h <;> simp [h, hnot.2.symm]
  cases e with
  | closed =>
    refine ⟨form.quote, ?_, ?_, isBlank_of_isQuote hquote, hnot.1, nofun⟩
    all_goals rcases closing_cases form with h | h <;> simp [ContentEnd.delimiter, h]
  | field => exact ⟨'\x7b', by simp [ContentEnd.delimiter], by simp [ContentEnd.delimiter],
      by decide, by decide, fun _ => hbrace⟩
  | broken => exact ⟨'\x7b', by simp [ContentEnd.delimiter], by simp [ContentEnd.delimiter],
      by decide, by decide, fun _ => hbrace⟩

/-- Where content ends for a reason, the reason stands there. -/
theorem contentLength_end {skip n : Nat} {empty : Bool} {e : ContentEnd} (he : e ≠ .broken)
    (h : contentLength form skip empty gs = (n, e)) :
    startsWithChars (e.delimiter form) (gs.drop n) = true ∧
      (e = .field → startsWithChars ['\x7b'] (gs.drop (n + 1)) = false) := by
  induction gs generalizing skip empty n with
  | nil =>
    cases h
    exact absurd rfl he
  | cons g rest ih =>
    have hmore : ∀ skip, ((contentLength form skip false rest).1 + 1,
        (contentLength form skip false rest).2) = (n, e) →
        startsWithChars (e.delimiter form) ((g :: rest).drop n) = true ∧
          (e = .field → startsWithChars ['\x7b'] ((g :: rest).drop (n + 1)) = false) := by
      intro skip hs
      cases hs
      exact @ih skip _ false rfl
    unfold contentLength at h
    dsimp only at h
    split at h
    · exact hmore _ h
    split at h
    · exact hmore _ h
    split at h
    · next hclosing =>
      cases h
      exact ⟨hclosing, nofun⟩
    split at h
    · cases h
      exact absurd rfl he
    split at h
    · next hopen =>
      split at h
      · exact hmore _ h
      · next hsingle =>
        cases h
        simp only [Bool.and_eq_true, decide_eq_true_eq] at hopen
        refine ⟨?_, fun _ => by simpa using hsingle⟩
        simp [ContentEnd.delimiter, startsWithChars, hopen.2]
    split at h
    · split at h
      · exact hmore _ h
      · cases h
        exact absurd rfl he
    · exact hmore _ h

/-- Where content ends is told by it and by what ends it. -/
theorem contentLength_congr {skip n : Nat} {empty : Bool} {e : ContentEnd} (he : e ≠ .broken)
    (h : chars gs = l ++ r) (h' : chars gs' = l ++ r')
    (hl : l.length = n + (e.delimiter form).length) (hpos : 0 < (e.delimiter form).length)
    (hlast : ∃ b, l.getLast? = some b ∧ b ≠ 'N' ∧ (e = .field → b ∉ form.closing))
    (hnext : e = .field → r'.head? ≠ some '\x7b')
    (hlength : contentLength form skip empty gs = (n, e)) :
    contentLength form skip empty gs' = (n, e) := by
  induction gs generalizing skip empty n l gs' with
  | nil =>
    cases hlength
    exact absurd rfl he
  | cons g rest ih =>
    cases l with
    | nil =>
      rw [List.length_nil] at hl
      omega
    | cons c l =>
      obtain ⟨rfl, hrest⟩ : g.char = c ∧ chars rest = l ++ r := List.cons.inj h
      obtain ⟨g', rest', rfl, hg, hrest'⟩ := chars_cons h'
      rw [List.length_cons] at hl
      have hmore : ∀ skip, ((contentLength form skip false rest).1 + 1,
          (contentLength form skip false rest).2) = (n, e) →
          ((contentLength form skip false rest').1 + 1,
            (contentLength form skip false rest').2) = (n, e) := by
        intro skip hs
        cases hs
        have hne : l ≠ [] := List.length_pos_iff.mp (by omega)
        obtain ⟨b, hb, hnot⟩ := hlast
        obtain ⟨d, l, rfl⟩ := List.exists_cons_of_ne_nil hne
        rw [List.getLast?_cons_cons] at hb
        rw [ih hrest hrest' (by omega) ⟨b, hb, hnot⟩ rfl]
      have hskip : ∀ skip, ((contentLength form skip false rest).1 + 1,
          (contentLength form skip false rest).2) = (n, e) → skip < n := by
        intro skip hs
        cases hs
        exact Nat.lt_succ_of_le (skip_le_contentLength he rfl)
      have hclosing : startsWithChars form.closing (g' :: rest') =
          startsWithChars form.closing (g :: rest) := by
        refine startsWithChars_congr h h' ?_
        cases e with
        | closed =>
          refine .inl ?_
          rw [List.length_cons, hl]
          exact Nat.le_add_left ..
        | field =>
          obtain ⟨b, hb, -, hnot⟩ := hlast
          exact .inr ⟨b, List.mem_of_getLast? hb, hnot rfl⟩
        | broken => exact absurd rfl he
      have hsecond : ∀ d, 1 < n + (e.delimiter form).length →
          startsWithChars [d] rest' = startsWithChars [d] rest := fun d hn =>
        startsWithChars_congr hrest hrest' (.inl (by rw [List.length_singleton]; omega))
      unfold contentLength at hlength ⊢
      dsimp only at hlength ⊢
      rw [hg, hclosing]
      split at hlength
      · exact hmore _ hlength
      split at hlength
      · next hescape =>
        have hlt := hskip _ hlength
        have hne : l ≠ [] := List.length_pos_iff.mp (by omega)
        have hname : l ≠ ['N'] := by
          rintro rfl
          obtain ⟨b, hb, hnot, -⟩ := hlast
          exact hnot (Option.some.inj hb).symm
        rw [if_pos hescape, escapeLength_congr hrest hrest' hne hname (by omega)]
        exact hmore _ hlength
      rw [if_neg ‹_›]
      split at hlength
      · rw [if_pos ‹_›]
        exact hlength
      rw [if_neg ‹_›]
      split at hlength
      · rw [if_pos ‹_›]
        exact hlength
      rw [if_neg ‹_›]
      split at hlength
      · rw [if_pos ‹_›]
        split at hlength
        · next hdouble =>
          have hlt := hskip _ hlength
          rw [hsecond _ (by omega), if_pos hdouble]
          exact hmore _ hlength
        · cases hlength
          obtain rfl : l = [] := List.length_eq_zero_iff.mp (Nat.succ.inj hl)
          have hrest' : chars rest' = r' := hrest'
          rw [if_neg]
          intro hdouble
          refine hnext rfl ?_
          cases rest' with
          | nil => cases hdouble
          | cons d rest' =>
            simp only [startsWithChars, Bool.and_true, beq_iff_eq] at hdouble
            rw [← hrest', chars, List.map_cons, ← hdouble]
            rfl
      rw [if_neg ‹_›]
      split at hlength
      · rw [if_pos ‹_›]
        split at hlength
        · next hdouble =>
          have hlt := hskip _ hlength
          rw [hsecond _ (by omega), if_pos hdouble]
          exact hmore _ hlength
        · cases hlength
          exact absurd rfl he
      rw [if_neg ‹_›]
      exact hmore _ hlength

end Content

/-! ## 2. Pieces of strings -/

/-- The next characters stay as they are, and `T` is behind them. -/
structure Cursor.Piece (T : List Char) (count : Nat) (c : Cursor) : Prop where
  behind : T <:+ (chars c.rest).drop count
  stays : collapseChars false ((chars c.rest).take count) = (chars c.rest).take count

/-- What follows, if anything does before `T`, is no blank. -/
def Cursor.Solid (T : List Char) (c : Cursor) : Prop :=
  ∃ u, chars c.rest = u ++ T ∧ ∀ ch ∈ u.head?, isBlank ch = false

variable {whole T : List Char} {c c' : Cursor} {exact ended : Bool} {form : StringForm}

theorem Cursor.Solid.within (h : c.Solid T) : c.Within T := by
  obtain ⟨u, hu, -⟩ := h
  exact ⟨u, hu.symm⟩

/-- What starts with characters that are no blanks is solid if `T` is behind them. -/
theorem solid_of_startsWith {cs : List Char} (hne : cs ≠ []) (hcs : ∀ ch ∈ cs, isBlank ch = false)
    (hstarts : startsWithChars cs c.rest = true) (hT : T <:+ (chars c.rest).drop cs.length) :
    c.Solid T := by
  obtain ⟨v, hv⟩ := hT
  obtain ⟨d, rest, rfl⟩ := List.exists_cons_of_ne_nil hne
  refine ⟨d :: rest ++ v, ?_, fun ch hch => hcs ch ?_⟩
  · calc chars c.rest
        = (chars c.rest).take (d :: rest).length ++ (chars c.rest).drop (d :: rest).length :=
          (List.take_append_drop ..).symm
      _ = d :: rest ++ v ++ T := by rw [List.append_assoc, hv, startsWithChars_take hstarts]
  · rw [← Option.some.inj hch]
    exact List.mem_cons_self

theorem stringPiece_place (count : Nat) :
    Ensures (stringPiece count) c fun _ d => d = c.advance count := by
  unfold stringPiece
  exact .get (.set (.pure rfl))

/-- A piece of a string, of which the last character or the next one is no blank. -/
theorem stringPiece_echoes (count : Nat) (ended' : Bool)
    (hended : ended' = true → ∃ ch ∈ ((chars c.rest).take count).getLast?, isBlank ch = false) :
    Echoes (Mirrors whole T true ended) (stringPiece count) (stringPiece count) c
      (fun f d => f.Stays ∧ d.Within T ∧ (ended' = true ∨ d.Solid T)) (c.Piece T count)
      (Mirrors whole T true ended') := by
  intro f d hc e
  have hrest : ∀ d : Cursor, chars (d.advance count).rest = (chars d.rest).drop count := fun d => by
    rw [Cursor.advance_rest, chars, chars, List.map_drop]
  have hpiece : ∀ c : Cursor, stringPiece count c = .ok (if count = 0 then []
    else [.leaf .stringPart .none "" (c.spell count) c.position], c.advance count) := fun _ => rfl
  cases (hpiece c).symm.trans e
  refine ⟨hc.forward (.of_advance ..) (c.advance_budget count) (c.advance_repair count),
    fun hF => ?_⟩
  obtain ⟨hstays, hwithin, hsolid⟩ := hF
  rw [Cursor.Within, hrest] at hwithin
  have hclosed : collapseChars false ((chars c.rest).take count) = (chars c.rest).take count := by
    split at hstays
    · next hzero => rw [hzero, List.take_zero, collapseChars]
    · have hleaf := (Node.everywhereIn_iff.mp hstays _ List.mem_cons_self).here
      simp only [Node.stays, Node.isClosedUp, Bool.and_eq_true, beq_iff_eq, c.spell_toList] at hleaf
      exact hleaf.2.1
  refine ⟨⟨hwithin, hclosed⟩, fun c' hc' => ?_⟩
  obtain ⟨more, hmore⟩ := hwithin
  have hboundary : (∀ ch ∈ more.head?, isBlank ch = false) ∨
      ∀ ch ∈ ((chars c.rest).take count).getLast?, isBlank ch = false := by
    rcases hsolid with h | ⟨u, hu, hhead⟩
    · obtain ⟨b, hb, hblank⟩ := hended h
      exact .inr fun ch hch => by rwa [← Option.some.inj (hb.symm.trans hch)]
    · rw [hrest, ← hmore] at hu
      exact .inl (List.append_cancel_right hu ▸ hhead)
  obtain ⟨hsame, hmirrors⟩ : _ ∧ Mirrors whole T true ended' _ _ :=
    hc'.advance hmore.symm hclosed (fun _ => hboundary) hended
  refine ⟨_, _, hpiece c', ?_, hmirrors⟩
  have hspell : c'.spell count = c.spell count := by
    rw [← String.toList_inj, c.spell_toList, c'.spell_toList, hsame]
  rw [hspell]
  split <;> rfl

/-! ## 3. Strings -/

/-- String content that stays ends at the same place in the closed-up text. -/
theorem Mirrors.contentLength {count : Nat} {ending : ContentEnd} (hquote : isQuote form.quote = true)
    (h : Mirrors whole T true ended c c') (he : ending ≠ .broken)
    (hlength : contentLength form 0 true c.rest = (count, ending)) (hpiece : c.Piece T count)
    (hbehind : T <:+ (chars c.rest).drop (count + (ending.delimiter form).length)) :
    Grammar.contentLength form 0 true c'.rest = (count, ending) := by
  obtain ⟨b, hne, hall, hblank, hletter, hfield⟩ := ending.delimiter_spec hquote
  obtain ⟨hend, hnext⟩ := contentLength_end he hlength
  obtain ⟨v, hv⟩ := hbehind
  obtain ⟨left, hleft, hright⟩ := h.exactly
  have hdelimiter := startsWithChars_take hend
  rw [chars, List.map_drop, ← chars] at hdelimiter
  have hparts : chars c.rest = (chars c.rest).take count ++ ending.delimiter form ++ (v ++ T) := by
    have hrest := List.take_append_drop (ending.delimiter form).length ((chars c.rest).drop count)
    rw [hdelimiter, List.drop_drop, ← hv] at hrest
    rw [List.append_assoc, hrest, List.take_append_drop]
  have hcount : ((chars c.rest).take count).length = count := by
    rw [List.length_take]
    refine Nat.min_eq_left (Nat.le_of_not_lt fun hlt => hne ?_)
    rw [← hdelimiter, List.drop_eq_nil_of_le hlt.le, List.take_nil]
  have hright' : chars c'.rest =
      (chars c.rest).take count ++ ending.delimiter form ++ collapseChars false v := by
    have hleft' : left = (chars c.rest).take count ++ (ending.delimiter form ++ v) := by
      have hsame := hleft.symm.trans hparts
      rw [← List.append_assoc] at hsame
      simpa only [List.append_assoc] using List.append_cancel_right hsame
    rw [hright, hleft', collapseChars_parts, hpiece.stays, List.append_assoc]
    congr 1
    obtain ⟨d, rest, hcons⟩ := List.exists_cons_of_ne_nil hne
    rw [hcons] at hall ⊢
    rw [List.forall_mem_cons] at hall
    rw [List.cons_append, collapseChars_solid _ (hall.1 ▸ hblank),
      collapseChars_plain fun ch hch => hall.2 ch hch ▸ hblank]
    rfl
  refine contentLength_congr he hparts hright' (by rw [List.length_append, hcount])
    (List.length_pos_iff.mpr hne) ⟨b, ?_, hletter, hfield⟩ (fun hf hbrace => ?_) hlength
  · rw [List.getLast?_append, List.getLast?_eq_some_getLast hne, hall _ (List.getLast_mem hne)]
    rfl
  · have hnone := hnext hf
    have hafter : chars (c.rest.drop (count + 1)) = v ++ T := by
      rw [hv, hf, chars, List.map_drop]
      rfl
    cases v with
    | nil => cases hbrace
    | cons d v =>
      obtain ⟨g, rest, hrest, hg, -⟩ := chars_cons hafter
      rw [hrest, startsWithChars, startsWithChars, Bool.and_true, beq_eq_false_iff_ne, hg] at hnone
      rw [collapseChars] at hbrace
      split at hbrace
      · cases hbrace
      · exact hnone (Option.some.inj hbrace).symm

/-- Tokens that may follow an expression on a later line. -/
def stops : List Token := [.mark ")", .mark "]", .mark "\x7d", .mark ":", .mark "=", .word "else", .other]

/-- The readers that are called through any depth echo. -/
structure Knot.Echoes (whole T : List Char) (k : Knot) : Prop where
  expression : ∀ conditions c, Echo whole T (k.expression conditions) (k.expression conditions) c
    (Fine T stops) (c.Next T)
  interpolation : ∀ c, startsWithChars ['\x7b'] c.rest = true →
    Grammar.Echoes (Mirrors whole T true false) k.interpolation k.interpolation c (Taken T)
      (T <:+ (chars c.rest).drop 1) (Mirrors whole T true true)

variable {k : Knot} {idle : List Token}

theorem stringContent_echo (hk : k.Echoes whole T) (hquote : isQuote form.quote = true) :
    Echoes (Mirrors whole T true true) (stringContent k form) (stringContent k form) c (Taken T)
      (c.Within T) (Mirrors whole T true true) := by
  unfold stringContent
  refine Echoes.bind (.repeating (F := fun (r : Fragment × Bool) d => Taken T r.1 d)
    (fun _ _ h => h.budget) (fun r r' c₁ hr => ?_) (.refl _)) fun r r' c₂ hr => ?_
  · obtain ⟨sofar, done⟩ := r
    obtain ⟨sofar', done'⟩ := r'
    simp only [alike_prod, alike_bool] at hr
    obtain ⟨hsofar, rfl⟩ := hr
    dsimp only
    split
    · exact .pure rfl id fun _ => id
    rcases hlength : contentLength form 0 true c₁.rest with ⟨count, ending⟩
    by_cases he : ending = .broken
    · intro a d hc e
      simp only [Bind.bind, StateT.bind, Pure.pure, get, getThe, MonadStateOf.get, StateT.get,
        Except.bind, Except.pure, hlength, he] at e
      cases e
    obtain ⟨hend, -⟩ := contentLength_end he hlength
    obtain ⟨b, hne, hall, hblank, -⟩ := ending.delimiter_spec hquote
    have hsolid : ∀ ch ∈ ending.delimiter form, isBlank ch = false := fun ch hch =>
      hall ch hch ▸ hblank
    refine Echoes.weaken (H := Taken T sofar c₁ ∧ c₁.Piece T count ∧
      T <:+ (chars c₁.rest).drop (count + (ending.delimiter form).length))
      (.get ?_ fun c' hc hc' hH => ?_) (fun _ _ => id) fun _ _ _ h => h.1
    · simp only [hlength]
      have hstarts : ∀ d : Cursor, d = c₁.advance count →
          startsWithChars (ending.delimiter form) d.rest = true := by
        rintro d rfl
        rwa [Cursor.advance_rest]
      have hbehind : ∀ d : Cursor, d = c₁.advance count →
          T <:+ (chars d.rest).drop (ending.delimiter form).length → c₁.Within T ∧ d.Solid T ∧
            T <:+ (chars c₁.rest).drop (count + (ending.delimiter form).length) := by
        rintro d hd hT
        have hrest : chars d.rest = (chars c₁.rest).drop count := by
          rw [hd, Cursor.advance_rest, chars, chars, List.map_drop]
        have hT' := hT
        rw [hrest, List.drop_drop] at hT'
        exact ⟨hT'.trans (List.drop_suffix ..), solid_of_startsWith hne hsolid (hstarts d hd) hT, hT'⟩
      cases ending with
      | broken => exact absurd rfl he
      | closed =>
        refine .bindOf (stringPiece_place count)
          (stringPiece_echoes count false (absurd · Bool.false_ne_true))
          fun content content' c₂ hcontent hplace => ?_
        refine (stringPiece_echoes _ true fun _ => ?_).bind
          fun closing closing' c₃ hclosing => .pure (alike_some.mpr (alike_prod.mpr
            ⟨(hsofar.append hcontent).append hclosing, rfl⟩)) (fun hF => ?_) fun _ => id
        · have htake : (chars c₂.rest).take form.closing.length = form.closing :=
            startsWithChars_take (hstarts c₂ hplace)
          rw [htake]
          exact ⟨_, List.getLast?_eq_some_getLast hne, hsolid _ (List.getLast_mem hne)⟩
        · obtain ⟨hstays, hwithin⟩ := hF
          simp only [Option.getD_some, stays_append] at hstays
          refine ⟨⟨hstays.2, hwithin, .inl rfl⟩, fun h₂ => ?_⟩
          obtain ⟨hstart, hsolid, hT⟩ := hbehind c₂ hplace h₂.behind
          exact ⟨⟨hstays.1.2, hsolid.within, .inr hsolid⟩, fun h₁ => ⟨⟨hstays.1.1, hstart⟩, h₁, hT⟩⟩
      | field =>
        refine .bindOf (stringPiece_place count)
          (stringPiece_echoes count false (absurd · Bool.false_ne_true))
          fun content content' c₂ hcontent hplace => ?_
        refine (hk.interpolation c₂ (hstarts c₂ hplace)).bind
          fun field field' c₃ hfield => .pure (alike_some.mpr (alike_prod.mpr
            ⟨(hsofar.append hcontent).append hfield, rfl⟩)) (fun hF => ?_) fun _ => id
        obtain ⟨hstays, hwithin⟩ := hF
        simp only [Option.getD_some, stays_append] at hstays
        refine ⟨⟨hstays.2, hwithin⟩, fun h₂ => ?_⟩
        obtain ⟨hstart, hsolid, hT⟩ := hbehind c₂ hplace h₂
        exact ⟨⟨hstays.1.2, hsolid.within, .inr hsolid⟩, fun h₁ => ⟨⟨hstays.1.1, hstart⟩, h₁, hT⟩⟩
    · simp only [hlength, hc'.contentLength hquote he hlength hH.2.1 hH.2.2]
      cases ending with
      | closed => rfl
      | field => rfl
      | broken => exact absurd rfl he
  · exact .pure (alike_prod.mp hr).1 (fun hF => ⟨hF, fun h => h.2⟩) fun _ => id

theorem quoteLength_last {gs : List Glyph} (h : 0 < quoteLength gs) :
    ∃ q, ((chars gs).take (quoteLength gs)).getLast? = some q ∧ isQuote q = true := by
  rw [quoteLength_eq] at h ⊢
  split at h
  · exact absurd h (Nat.lt_irrefl 0)
  · next hopen =>
    rw [if_neg hopen, List.take_add, List.getLast?_append, chars, ← List.map_drop, ← chars]
    generalize gs.drop (runLength isStringLetter gs) = rest at hopen ⊢
    cases rest with
    | nil => exact absurd rfl hopen
    | cons q rest =>
      unfold openLength at hopen ⊢
      dsimp only at hopen ⊢
      split
      · next hquote =>
        refine ⟨q.char, ?_, hquote⟩
        split
        · next htripled =>
          have htake : (chars rest).take 2 = [q.char, q.char] :=
            startsWithChars_take (Bool.and_eq_true_iff.mp htripled).2
          rw [chars, List.map_cons, List.take_succ_cons, ← chars, htake]
          rfl
        · rfl
      · next hquote => exact absurd (if_neg hquote) hopen

/-- The token that opens a string ends with a quote. -/
theorem tokenAt_quote {gs : List Glyph} {n : Nat} (h : tokenAt gs = (.quote, n)) :
    isQuote (StringForm.ofOpening (chars (gs.take n))).quote = true := by
  unfold tokenAt at h
  split at h
  · cases h
  · dsimp only at h
    split at h
    · next hpos =>
      obtain ⟨q, hlast, hquote⟩ := quoteLength_last hpos
      cases h
      rw [StringForm.ofOpening, chars, List.map_take, ← chars, hlast]
      exact hquote
    split at h
    · cases h
    split at h
    · cases h
    split at h <;> cases h

/-- One string or several. -/
theorem string_echo (hk : k.Echoes whole T) (hidle : ∀ t ∈ idle, (t == .quote) = false)
    (hquote : (c.look false).token = .quote) :
    Echo whole T (string k) (string k) c (Fine T idle) (c.Next T) := by
  have hone : ∀ (c : Cursor) (s s' : Sight), c.look false = s → s.token = .quote →
      Echoes (Looks (Mirrors whole T false true) s')
        (do
          let opening := ((s.cursor.rest.take s.length).map (·.char))
          let first ← take s .stringPart
          return branch .string (first ++ (← stringContent k (.ofOpening opening))))
        (do
          let opening := ((s'.cursor.rest.take s'.length).map (·.char))
          let first ← take s' .stringPart
          return branch .string (first ++ (← stringContent k (.ofOpening opening))))
        c (Taken T) (c.Next T) (Mirrors whole T false true) := by
    intro c s s' hs hquote
    refine .plain fun hc => ?_
    refine Echoes.congr (p := _) (q := do
      let first ← take s' .stringPart
      return branch .string (first ++ (← stringContent k (.ofOpening (chars (s.cursor.rest.take s.length))))))
      ?_ fun c' hc hc' hnext => ?_
    · refine (Echoes.takeExact hs (hquote ▸ rfl)).bind fun first first' c₁ hfirst => ?_
      have htoken := (Cursor.look_sees hc.repair false).token (by rw [hs, hquote]; rfl)
      rw [hs, hquote] at htoken
      refine (stringContent_echo hk (tokenAt_quote htoken)).bind fun content content' c₂ hcontent =>
        .pure ((hfirst.append hcontent).branch _) (fun hF => ?_) fun _ h => h.mono nofun id
      obtain ⟨hstays, hd⟩ := hF
      have hstays := stays_of_branch hstays
      rw [stays_append] at hstays
      exact ⟨⟨hstays.2, hd⟩, fun h₁ => ⟨⟨hstays.1, h₁⟩, id⟩⟩
    · obtain ⟨hmirrors, stop, rfl⟩ := hc'
      subst hs
      have hsame := (hnext.look hc.repair hc.fed hmirrors stop).1.text
      unfold chars at hsame ⊢
      rw [hsame]
  unfold string
  refine .look_next fun s s' hs hs' => ?_
  dsimp only
  refine (hone c s s' hs (hs ▸ hquote)).bind fun first first' c₁ hfirst => ?_
  refine Echoes.bind (.repeating (F := fun (r : Fragment × Bool) d => Fine T idle r.1 d)
    (fun _ _ h => h.budget) (fun r r' c₂ hr => ?_) (alike_prod.mpr ⟨hfirst, rfl⟩))
      fun r r' c₂ hr => ?_
  · obtain ⟨sofar, several⟩ := r
    obtain ⟨sofar', several'⟩ := r'
    simp only [alike_prod, alike_bool] at hr
    obtain ⟨hsofar, rfl⟩ := hr
    refine .lookOn idle (· == .quote) rfl hidle (fun t ht => by rw [eq_of_beq ht]; rfl) ?_ ?_
    · intro s s' hs hline hs' hactive
      rw [if_pos hactive, if_pos (by rw [hs']; exact hactive)]
      refine (hone c₂ s s' hs (eq_of_beq hactive)).bind fun f f' c₃ hf =>
        .pure (alike_some.mpr (alike_prod.mpr ⟨hsofar.append hf, rfl⟩)) (fun hF => ?_) fun _ => id
      obtain ⟨hstays, hd⟩ := hF
      simp only [Option.getD_some, stays_append] at hstays
      exact ⟨⟨hstays.2, hd.within⟩, fun h => ⟨h, hstays.1, h.settledOn hline⟩⟩
    · intro s s' hno hno'
      rw [if_neg (by simp [hno]), if_neg (by simp [hno'])]
      exact .pure rfl (fun hF => ⟨hF.2, hF⟩) fun _ => id
  · obtain ⟨all, several⟩ := r
    obtain ⟨all', several'⟩ := r'
    simp only [alike_prod, alike_bool] at hr
    obtain ⟨hall, rfl⟩ := hr
    dsimp only
    split
    · refine .pure (hall.branch _) (fun hF => ?_) fun _ => id
      exact ⟨⟨stays_of_branch hF.1, hF.2⟩, fun h => ⟨⟨h.1, h.2.within⟩, fun hnext => ⟨hnext, hnext⟩⟩⟩
    · exact .pure hall
        (fun hF => ⟨hF, fun h => ⟨⟨h.1, h.2.within⟩, fun hnext => ⟨hnext, hnext⟩⟩⟩) fun _ => id

end FluentBuilders.Grammar
