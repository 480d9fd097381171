import Mathlib.Data.List.Find
import FluentBuilders.Proofs.Grammar.Echo.Strings

/-!
What readers make of a text that is known up to its names.

1. `Opens`: characters that are read as one token, whatever the text behind them looks like.
2. `Place`: the text ahead, and what decides how it is read. `Gap.read` over spaces and line ends.
3. `Sight.Tells`, `Sight.Shows`, `Place.Ahead`: the token that is seen from a place.
4. `Gives`: from every cursor at one place a reader succeeds and stops at another place.
5. `GivesOn`: the same for a step that is repeated.
-/

namespace FluentBuilders.Grammar

open Text

/-! ## 1. Tokens -/

/-- Before `behind`, the characters `w` are read as the token `t`, and no gap passes over them. -/
structure Opens (t : Token) (w behind : List Char) : Prop where
  reads : ∀ gs, chars gs = w ++ behind → tokenAt gs = (t, w.length)
  solid : ∃ c cs, w = c :: cs ∧ isPassed c = false

theorem length_chars (gs : List Glyph) : (chars gs).length = gs.length := List.length_map _

/-- A run ends before the first character that is not part of it. -/
theorem runLength_append {p : Char → Bool} {gs : List Glyph} {w behind : List Char}
    (h : chars gs = w ++ behind) (hw : ∀ c ∈ w, p c = true)
    (hbehind : ∀ c ∈ behind.head?, p c = false) :
    runLength p gs = w.length := by
  induction w generalizing gs with
  | nil =>
    cases gs with
    | nil => rfl
    | cons g rest =>
      have hg : p g.char = false := hbehind g.char (by rw [← List.nil_append behind, ← h]; rfl)
      simp [runLength, hg]
  | cons c w ih =>
    obtain ⟨g, rest, rfl, rfl, hrest⟩ := chars_cons h
    rw [List.forall_mem_cons] at hw
    simp [runLength, hw.1, ih hrest hw.2]

/-- Whether a name ends before the characters. -/
def endsName : List Char → Bool
  | [] => true
  | c :: _ => !isNameChar c && !isQuote c

theorem endsName_iff {behind : List Char} : endsName behind = true ↔
    ∀ c ∈ behind.head?, isNameChar c = false ∧ isQuote c = false := by
  cases behind <;> simp [endsName]

/-- No quote stands behind the letters that a name starts with. -/
theorem quoteLength_name {gs : List Glyph} {w behind : List Char} (h : chars gs = w ++ behind)
    (hw : ∀ c ∈ w, isNameChar c = true)
    (hbehind : ∀ c ∈ behind.head?, isNameChar c = false ∧ isQuote c = false) :
    quoteLength gs = 0 := by
  have hquote : ∀ c, isNameChar c = true → isQuote c = false := by
    intro c hc
    rw [Bool.eq_false_iff]
    intro hquote
    simp only [isQuote, Bool.or_eq_true, decide_eq_true_eq] at hquote
    rcases hquote with (rfl | rfl) | rfl <;> exact absurd hc (by decide)
  have hletters : ∀ c, isStringLetter c = true → isNameChar c = true := by
    intro c hc
    have hall : ['r', 'R', 'b', 'B', 'u', 'U', 'f', 'F', 't', 'T'].all isNameChar =
      true := by decide
    exact List.all_eq_true.mp hall c (by simpa [isStringLetter] using hc)
  rw [quoteLength_eq, if_pos]
  have hdrop := runLength_drop isStringLetter gs
  generalize gs.drop (runLength isStringLetter gs) = left at hdrop
  cases left with
  | nil => rfl
  | cons q rest =>
    have hq : isQuote q.char = false := by
      have hhead : ((w ++ behind).dropWhile isStringLetter).head? = some q.char := by
        rw [← h, ← hdrop]
        rfl
      rw [List.dropWhile_append] at hhead
      split at hhead
      · -- the whole name consists of such letters
        cases behind with
        | nil => cases hhead
        | cons d behind =>
          have hd := hbehind d rfl
          rw [List.dropWhile_cons_of_neg
            (fun hletter => by rw [hletters d hletter] at hd; cases hd.1)] at hhead
          cases hhead
          exact hd.2
      · have hmem : q.char ∈ w.dropWhile isStringLetter := by
          cases hw' : w.dropWhile isStringLetter with
          | nil => simp_all
          | cons d ds =>
            rw [hw'] at hhead
            cases hhead
            exact List.mem_cons_self
        exact hquote _ (hw _ ((List.dropWhile_sublist _).subset hmem))
    simp [openLength, hq]

/-- A name is read as such before anything that does not go on with it. -/
theorem Opens.word {w : String} {behind : List Char} (hw : isIdentifier w = true)
    (hends : endsName behind = true) : Opens (.word w) w.toList behind where
  reads gs h := by
    have hbehind := endsName_iff.mp hends
    have hchars := isNameChar_of_isIdentifier hw
    have hlength := runLength_append h hchars fun c hc => (hbehind c hc).1
    have hquote := quoteLength_name h hchars hbehind
    obtain ⟨c, rest, hcons, hstart, -⟩ := isIdentifier_iff.mp hw
    have htake : chars (gs.take w.toList.length) = w.toList := by
      unfold chars at h ⊢
      rw [List.map_take, h, List.take_left]
    rw [hcons, List.cons_append] at h
    obtain ⟨g, more, rfl, rfl, -⟩ := chars_cons h
    unfold tokenAt
    dsimp only
    rw [if_neg (by omega), if_pos hstart, hlength]
    rw [← chars, htake, String.ofList_toList]
  solid := by
    obtain ⟨c, rest, hcons, hstart, -⟩ := isIdentifier_iff.mp hw
    refine ⟨c, rest, hcons, ?_⟩
    rw [Bool.eq_false_iff]
    intro hpassed
    have hchar := isNameChar_of_isNameStart hstart
    rw [isNameChar_of_isPassed hpassed] at hchar
    cases hchar

/-- The characters that make a longer mark of a mark. -/
def longer (m : String) : List Char :=
  marks.filterMap fun m' =>
    if m.toList.isPrefixOf m'.toList then (m'.toList.drop m.length).head? else none

/-- The marks stand in such an order that none is missed for a shorter one, and start with characters
that no other token starts with; the digit after a point is another matter. -/
theorem marks_ordered : ∀ m ∈ marks,
    (marks.find? fun m' => m'.toList.isPrefixOf m.toList) = some m ∧
      (m.toList.head?.any fun c => !isPassed c && !isStringLetter c && !isQuote c &&
      !isNameStart c &&
        !c.isDigit && c != '0') = true ∧
      (m.toList.head? = some '.' → m = "." ∨ m.toList.tail.head? = some '.') := by
  decide +kernel

theorem startsWithChars_iff {cs : List Char} {gs : List Glyph} :
    startsWithChars cs gs = true ↔ cs <+: chars gs := by
  induction cs generalizing gs with
  | nil => simp [startsWithChars]
  | cons c cs ih =>
    cases gs with
    | nil => simp [startsWithChars, chars]
    | cons g gs =>
      rw [startsWithChars, Bool.and_eq_true, beq_iff_eq, ih]
      rw [show chars (g :: gs) = g.char :: chars gs from rfl, List.cons_prefix_cons]

/-- Of all marks, the text starts with `m` before any other that could be meant. -/
theorem find_mark {m : String} {behind : List Char} (hm : m ∈ marks)
    (hbehind : ∀ d ∈ behind.head?, d ∉ longer m) {gs : List Glyph}
    (h : chars gs = m.toList ++ behind) :
    (marks.find? fun m' => startsWithChars m'.toList gs) = some m := by
  rw [← (marks_ordered m hm).1]
  refine List.find?_congr fun m' hm' => ?_
  rw [Bool.eq_iff_iff, startsWithChars_iff, List.isPrefixOf_iff_prefix, h]
  refine ⟨fun hpre => ?_, fun hpre => hpre.trans (List.prefix_append ..)⟩
  rcases List.prefix_or_prefix_of_prefix hpre (List.prefix_append m.toList behind) with
    hshort | ⟨t, ht⟩
  · exact hshort
  cases t with
  | nil => exact ⟨[], by rw [← ht]; simp⟩
  | cons d t =>
    -- `m'` goes on with the first character behind `m`
    rw [← ht, List.prefix_append_right_inj] at hpre
    obtain ⟨left, rfl⟩ := hpre
    refine absurd (List.mem_filterMap.mpr ⟨m', hm', ?_⟩) (hbehind d rfl)
    rw [if_pos (List.isPrefixOf_iff_prefix.mpr ⟨_, ht⟩), ← ht, ← String.length_toList,
      List.drop_left]
    rfl

/-- No number starts with a character that is no digit, nor with a point before one. -/
theorem numberLength_none {g : Glyph} {rest : List Glyph} (hdigit : g.char.isDigit = false)
    (hzero : g.char ≠ '0')
    (hpoint : g.char = '.' → ∀ d ∈ (chars rest).head?, d.isDigit = false) :
    numberLength (g :: rest) = 0 := by
  by_cases hdot : g.char = '.'
  · have hnext : decimalLength false rest = 0 := by
      cases rest with
      | nil => rfl
      | cons d more => simp [decimalLength, hpoint hdot d.char rfl]
    simp [numberLength, oneOf, decimalLength, hdot, hnext]
  · simp [numberLength, oneOf, hzero, decimalLength, hdigit, hdot]

/-- A mark is read whole where the text behind it makes no longer one of it. -/
theorem Opens.mark {m : String} {behind : List Char} (hm : m ∈ marks)
    (hbehind : ∀ d ∈ behind.head?, d ∉ longer m ∧ (m = "." → d.isDigit = false)) :
    Opens (.mark m) m.toList behind := by
  obtain ⟨-, hhead, hpoint⟩ := marks_ordered m hm
  obtain ⟨c, cs, hcons⟩ : ∃ c cs, m.toList = c :: cs := by
    cases h : m.toList with
    | nil => simp [h] at hhead
    | cons c cs => exact ⟨c, cs, rfl⟩
  simp only [hcons, List.head?_cons, Option.any_some, Bool.and_eq_true, Bool.not_eq_true',
    bne_iff_ne] at hhead
  obtain ⟨⟨⟨⟨⟨hpassed, hletter⟩, hquote⟩, hname⟩, hdigit⟩, hzero⟩ := hhead
  refine ⟨fun gs h => ?_, c, cs, hcons, hpassed⟩
  have hfind := find_mark hm (fun d hd => (hbehind d hd).1) h
  rw [hcons] at h
  obtain ⟨g, rest, rfl, rfl, hrest⟩ := chars_cons h
  have hno : quoteLength (g :: rest) = 0 := by simp [quoteLength, runLength, hletter, hquote]
  have hnumber : numberLength (g :: rest) = 0 := by
    refine numberLength_none hdigit hzero fun hdot d hd => ?_
    rw [hrest] at hd
    rcases hpoint (by rw [hcons, hdot]; rfl) with rfl | htail
    · obtain rfl : cs = [] := (List.cons.inj hcons).2.symm
      exact (hbehind d hd).2 rfl
    · rw [hcons, List.tail_cons] at htail
      obtain ⟨e, cs, rfl⟩ := List.exists_cons_of_ne_nil (l := cs) (by rintro rfl; cases htail)
      cases htail
      cases hd
      rfl
  have hlength : m.length = m.toList.length := (String.length_toList).symm
  simp [tokenAt, hno, hname, hnumber, hfind, hlength]

/-- The marks that no other mark starts with. -/
def signs : List String := ["(", ")", "[", "]", "\x7b", "\x7d", ",", "->", "..."]

theorem Opens.sign {m : String} (hm : m ∈ signs) (behind : List Char) :
    Opens (.mark m) m.toList behind := by
  have hall : ∀ m ∈ signs, m ∈ marks ∧ longer m = [] ∧ m ≠ "." := by decide +kernel
  obtain ⟨hmark, hlonger, hdot⟩ := hall m hm
  exact .mark hmark fun d _ => ⟨by rw [hlonger]; exact List.not_mem_nil, fun h => absurd h hdot⟩

/-- Whether a point, a colon, a bar or an equals sign ends before the characters. -/
def endsPoint : List Char → Bool
  | [] => true
  | c :: _ => c != '=' && c != '.' && !c.isDigit

theorem Opens.point {m : String} {behind : List Char} (hm : m ∈ [":", "=", ".", "|"])
    (hends : endsPoint behind = true) : Opens (.mark m) m.toList behind := by
  have hall : ∀ m ∈ [":", "=", ".", "|"], m ∈ marks ∧
      (longer m).all (fun d => d == '=' || d == '.') = true := by decide +kernel
  obtain ⟨hmark, hlonger⟩ := hall m hm
  refine .mark hmark fun d hd => ?_
  cases behind with
  | nil => cases hd
  | cons c behind =>
    cases hd
    simp only [endsPoint, Bool.and_eq_true, bne_iff_ne, Bool.not_eq_true'] at hends
    refine ⟨fun h => ?_, fun _ => hends.2⟩
    have hequals := List.all_eq_true.mp hlonger d h
    simp [hends.1.1, hends.1.2] at hequals

/-- A quote that stands alone opens a string. -/
theorem Opens.quote {q : Char} {behind : List Char} (hq : q = '"' ∨ q = '\'')
    (h : behind.head? ≠ some q) : Opens .quote [q] behind where
  reads gs hgs := by
    obtain ⟨g, rest, rfl, hg, hrest⟩ := chars_cons hgs
    have hone : startsWithChars [q, q] rest = false := by
      cases rest with
      | nil => rfl
      | cons d more =>
        have hd : d.char ≠ q := fun hd => h (by
          rw [← List.nil_append behind, ← show chars (d :: more) = [] ++ behind from hrest, chars,
            List.map_cons, hd]
          rfl)
        simp [startsWithChars, Ne.symm hd]
    have hquote : quoteLength (g :: rest) = 1 := by
      rcases hq with rfl | rfl <;>
        simp [quoteLength, runLength, hg, hone, isStringLetter, isQuote]
    simp [tokenAt, hquote]
  solid := ⟨q, [], rfl, by rcases hq with rfl | rfl <;> rfl⟩

/-- Three quotes open a string that may hold line ends. -/
theorem Opens.quotes (behind : List Char) : Opens .quote ['"', '"', '"'] behind where
  reads gs hgs := by
    obtain ⟨g, rest, rfl, hg, hrest⟩ := chars_cons hgs
    have htwo : startsWithChars ['"', '"'] rest = true :=
      startsWithChars_iff.mpr ⟨behind, hrest.symm⟩
    have hquote : quoteLength (g :: rest) = 3 := by
      simp [quoteLength, runLength, hg, htwo, isStringLetter, isQuote]
    simp [tokenAt, hquote]
  solid := ⟨'"', ['"', '"'], rfl, rfl⟩

/-! ## 2. Places -/

/-- The text ahead, and what decides how it is read. -/
structure Place where
  text : List Char
  indents : List Nat
  brackets : Nat
  ends : Bool

/-- The place with another text ahead. -/
def Place.at (s : Place) (text : List Char) : Place := { s with text := text }

/-- The place with one more bracket open. -/
def Place.inside (s : Place) : Place := { s with brackets := s.brackets + 1 }

/-- The place in a clause with another rule on line ends. -/
def Place.ending (s : Place) (ends : Bool) : Place := { s with ends := ends }

/-- Whether a line end ends the clause there. -/
def Place.lineBound (s : Place) : Bool := s.ends && s.brackets == 0

/-- Where a cursor stands. -/
def Cursor.place (c : Cursor) : Place := ⟨chars c.rest, c.indents, c.brackets, c.ends⟩

theorem Cursor.place_advance {c : Cursor} {s : Place} {w behind : List Char} (hc : c.place = s)
    (htext : s.text = w ++ behind) : (c.advance w.length).place = s.at behind := by
  subst hc
  have hrest : chars (c.rest.drop w.length) = behind := by
    unfold Cursor.place at htext
    dsimp only at htext
    unfold chars at htext ⊢
    rw [List.map_drop, htext, List.drop_left]
  simp [Cursor.place, Place.at, hrest]

theorem Cursor.Plain.advance {c : Cursor} (hc : c.Plain) (n : Nat) : (c.advance n).Plain :=
  hc.forward (Forward.of_advance c n) (by simp) (by simp)

theorem Cursor.place_inside {c : Cursor} {s : Place} (hc : c.place = s) :
    Cursor.place { c with brackets := c.brackets + 1 } = s.inside := by
  subst hc
  rfl

theorem Cursor.place_outside {c : Cursor} {s : Place} {behind : List Char}
    (hc : c.place = s.inside.at behind) :
    Cursor.place { c with brackets := c.brackets - 1 } = s.at behind := by
  simp only [Cursor.place, Place.inside, Place.at, Place.mk.injEq] at hc
  simp [Cursor.place, Place.at, hc]

/-- The width of the line that spaces and line ends lead to. -/
def indentation (n : Nat) : List Char → Nat
  | [] => n
  | c :: cs => indentation (if c = '\n' then 0 else n + 1) cs

/-- Nothing is passed over before a token, or before the line end that the gap is to end with. -/
theorem Gap.read_here {stop : Bool} (fuel : Nat) (g : Gap)
    (hhead : ∀ c ∈ (chars g.cursor.rest).head?, isPassed c = false ∨ stop = true ∧ c = '\n') :
    Gap.read stop fuel g = g := by
  cases hrest : g.cursor.rest with
  | nil => exact Gap.read_nil fuel hrest
  | cons next rest =>
    rcases hhead next.char (by rw [hrest]; rfl) with hno | ⟨rfl, hline⟩
    · exact Gap.read_stop fuel hrest hno
    · cases fuel with
      | zero => rfl
      | succ fuel =>
        rw [Gap.read, hrest]
        simp [hline]

/-- Spaces, and line ends where they count for nothing, are passed over up to what is none of them. -/
theorem Gap.read_spacing {stop : Bool} (fuel : Nat) (g : Gap) {passed behind : List Char}
    (hfuel : passed.length < fuel) (htext : chars g.cursor.rest = passed ++ behind)
    (hpassed : ∀ c ∈ passed, c = ' ' ∨ stop = false ∧ c = '\n')
    (hbehind : ∀ c ∈ behind.head?, isPassed c = false ∨ stop = true ∧ c = '\n') :
    Gap.read stop fuel g = ⟨g.cursor.advance passed.length, g.extras, passed.reverse ++ g.blanks,
      g.crossed || passed.contains '\n', indentation g.indent passed⟩ := by
  induction passed generalizing fuel g with
  | nil =>
    rw [Gap.read_here fuel g (htext ▸ hbehind)]
    simp [indentation, Cursor.advance]
  | cons c passed ih =>
    cases fuel with
    | zero => exact absurd hfuel (Nat.not_lt_zero _)
    | succ fuel =>
      rw [List.forall_mem_cons] at hpassed
      obtain ⟨next, rest, hrest, rfl, hmore⟩ := chars_cons htext
      have hfuel' := Nat.lt_of_succ_lt_succ hfuel
      have hgo : ∀ g' : Gap, g'.cursor = g.cursor.advance 1 →
          chars g'.cursor.rest = passed ++ behind :=
        fun g' h => by rw [h]; simp [hrest, hmore]
      rcases hpassed.1 with hspace | ⟨rfl, hline⟩
      · have hread : Gap.read stop (fuel + 1) g =
            Gap.read stop fuel (g.blank ' ' (g.indent + 1)) := by
          rw [Gap.read, hrest]
          simp [hspace]
        rw [hread, ih fuel _ hfuel' (hgo _ rfl) hpassed.2, hspace]
        simp [Gap.blank, Cursor.advance_add, indentation, Nat.add_comm]
      · have hread : Gap.read false (fuel + 1) g =
            Gap.read false fuel { g.blank '\n' 0 with crossed := true } := by
          rw [Gap.read, hrest]
          simp [hline]
        rw [hread, ih fuel _ hfuel' (hgo _ rfl) hpassed.2, hline]
        simp [Gap.blank, Cursor.advance_add, indentation, Nat.add_comm]

/-- The gap at a place whose text starts with spacing. -/
theorem Cursor.gap_spacing (stop : Bool) (passed : List Char) {c : Cursor} {s : Place}
    {behind : List Char} (hc : c.Plain) (hs : c.place = s) (htext : s.text = passed ++ behind)
    (hpassed : ∀ c ∈ passed, c = ' ' ∨ stop = false ∧ c = '\n')
    (hbehind : ∀ c ∈ behind.head?, isPassed c = false ∨ stop = true ∧ c = '\n') :
    c.gap stop = ⟨c.advance passed.length, [], passed.reverse, passed.contains '\n',
      indentation 0 passed⟩ := by
  subst hs
  have hlength := congrArg List.length htext
  have hfed := hc.fed
  unfold Cursor.Fed at hfed
  rw [Cursor.place, length_chars, List.length_append] at hlength
  rw [Cursor.gap, Gap.read_spacing c.budget ⟨c, [], [], false, 0⟩ (by omega) htext hpassed hbehind]
  simp

/-! ## 3. The token ahead -/

/-- What is seen of a token `t` with the characters `w` before `behind`, whatever was passed over. -/
structure Sight.Tells (σ : Sight) (s : Place) (t : Token) (w behind : List Char) : Prop where
  supplied : σ.supplied = none
  token : σ.token = t
  length : σ.length = w.length
  gap : isAllBlank σ.gap = true
  place : σ.cursor.place = s.at (w ++ behind)
  plain : σ.cursor.Plain

/-- The same, and nothing but spacing was passed over. -/
structure Sight.Shows (σ : Sight) (s : Place) (t : Token) (w behind : List Char) : Prop extends
    Sight.Tells σ s t w behind where
  extras : σ.extras = []

/-- From every cursor at the place the token `t` is seen, with the characters `w` before `behind`. -/
def Place.Ahead (s : Place) (stop : Bool) (t : Token) (w behind : List Char) : Prop :=
  ∀ c : Cursor, c.Plain → c.place = s → (c.look stop).Shows s t w behind

section Ahead

variable {s : Place} {stop : Bool} {t : Token} {passed w behind : List Char}

/-- The token behind spacing, unless it stands left of the open block. -/
theorem Place.ahead (htext : s.text = passed ++ (w ++ behind))
    (hpassed : ∀ c ∈ passed, c = ' ' ∨ stop = false ∧ c = '\n') (hopens : Opens t w behind)
    (hindent : '\n' ∈ passed → s.brackets = 0 → s.indents.headD 0 ≤ indentation 0 passed) :
    s.Ahead stop t w behind := by
  intro c hc hs
  obtain ⟨first, more, rfl, hfirst⟩ := hopens.solid
  have hgap := Cursor.gap_spacing stop passed hc hs htext hpassed fun d hd => .inl (by
    cases hd
    exact hfirst)
  have hplace : (c.advance passed.length).place = s.at (first :: more ++ behind) :=
    Cursor.place_advance hs htext
  have htoken := hopens.reads _ (congrArg Place.text hplace)
  rw [Cursor.look_plain hc.repair, hgap]
  unfold Gap.sight.ordinary
  obtain ⟨g, rest, hrest, hg, -⟩ := chars_cons (congrArg Place.text hplace)
  have hno : g.char ≠ '\n' := by
    rintro heq
    rw [← hg, heq] at hfirst
    cases hfirst
  have hin : ¬ ((passed.contains '\n' && c.brackets == 0 &&
      decide (indentation 0 passed < c.indent)) = true) := by
    subst hs
    simp only [Bool.and_eq_true, List.contains_eq_mem, decide_eq_true_eq, beq_iff_eq, not_and]
    intro hmem
    exact Nat.not_lt.mpr (hindent hmem.1 hmem.2)
  simp only [hrest, hno, decide_false, Bool.and_false, Bool.false_eq_true, if_false, if_neg hin]
  rw [← hrest, htoken]
  refine ⟨⟨rfl, rfl, rfl, ?_, hplace, hc.advance _⟩, rfl⟩
  simp only [isAllBlank, Gap.spelled, List.reverse_reverse, String.toList_ofList, List.all_eq_true]
  intro d hd
  rcases hpassed d hd with rfl | ⟨-, rfl⟩ <;> rfl

/-- The token behind spaces on the same line. -/
theorem Place.ahead_near (passed : List Char) (htext : s.text = passed ++ (w ++ behind))
    (hpassed : ∀ c ∈ passed, c = ' ')
    (hopens : Opens t w behind) : s.Ahead stop t w behind :=
  Place.ahead htext (fun c hc => .inl (hpassed c hc)) hopens fun hmem =>
    absurd (hpassed _ hmem) (by decide)

theorem Place.ahead_here (htext : s.text = w ++ behind) (hopens : Opens t w behind) :
    s.Ahead stop t w behind :=
  Place.ahead_near [] htext (List.forall_mem_nil _) hopens

theorem Place.ahead_spaced (htext : s.text = ' ' :: (w ++ behind)) (hopens : Opens t w behind) :
    s.Ahead stop t w behind :=
  Place.ahead_near [' '] htext (List.forall_mem_singleton.mpr rfl) hopens

/-- The line ends at the place. -/
theorem Place.ahead_lineEnd (htext : ∀ c ∈ s.text.head?, c = '\n') :
    s.Ahead true .lineEnd [] s.text := by
  intro c hc hs
  have hgap : c.gap true = ⟨c, [], [], false, 0⟩ :=
    Cursor.gap_spacing true [] hc hs rfl (List.forall_mem_nil _) fun d hd => .inr ⟨rfl, htext d hd⟩
  have hlook : c.look true = ⟨[], "", c, .lineEnd, 0, none⟩ := by
    rw [Cursor.look_plain hc.repair, hgap]
    unfold Gap.sight.ordinary
    cases hrest : c.rest with
    | nil => rfl
    | cons g rest =>
      have hline : g.char = '\n' := htext g.char (by rw [← hs, Cursor.place, hrest]; rfl)
      simp [hline, Gap.spelled]
  rw [hlook]
  exact ⟨⟨rfl, rfl, rfl, rfl, hs, hc⟩, rfl⟩

/-- Nothing but spacing is left. -/
theorem Place.ahead_end (hpassed : ∀ c ∈ s.text, c = ' ' ∨ c = '\n') :
    s.Ahead false .lineEnd [] [] := by
  intro c hc hs
  have htext : s.text = s.text ++ [] := (List.append_nil _).symm
  have hgap := Cursor.gap_spacing false s.text hc hs htext
    (fun d hd => (hpassed d hd).imp_right fun h => ⟨rfl, h⟩) (by simp)
  have hplace : (c.advance s.text.length).place = s.at [] := Cursor.place_advance hs htext
  have hnil : (c.advance s.text.length).rest = [] :=
    List.map_eq_nil_iff.mp (congrArg Place.text hplace)
  rw [Cursor.look_plain hc.repair, hgap]
  unfold Gap.sight.ordinary
  simp only [hnil]
  refine ⟨⟨rfl, rfl, rfl, ?_, hplace, hc.advance _⟩, rfl⟩
  simp only [isAllBlank, Gap.spelled, List.reverse_reverse, String.toList_ofList, List.all_eq_true]
  intro d hd
  rcases hpassed d hd with rfl | rfl <;> rfl

end Ahead

/-! ## 4. Readers at a place -/

/-- From every cursor at the place `s` the reader gives something with the property `Q`, and stops at
the place `s'`. -/
def Gives {α : Type} (p : Reader α) (s : Place) (Q : α → Prop) (s' : Place) : Prop :=
  ∀ c : Cursor, c.Plain → c.place = s →
    ∃ a c', p c = .ok (a, c') ∧ c'.Plain ∧ c'.place = s' ∧ Q a

/-! What readers give. -/

/-- No node is an error, holds one, or stands between tokens. -/
def Clean (f : Fragment) : Prop := ∀ n ∈ f, n.isExtra = false ∧ n.hasError = false

/-- One node over clean ones. -/
def IsTree (kind : Kind) (f : Fragment) : Prop :=
  ∃ children, f = [.tree kind .none children] ∧ Clean children

/-- The token `w` as a leaf of its own. -/
def IsLeaf (kind : Kind) (w : List Char) (f : Fragment) : Prop :=
  ∃ gap position, isAllBlank gap = true ∧ f = [.leaf kind .none gap (String.ofList w) position]

/-- Whether nodes of the kind belong to the grammar. -/
def Kind.isProper (kind : Kind) : Bool := !(Node.tree kind .none []).isExtra

section Fragments

variable {f g : Fragment} {kind : Kind} {w : List Char}

theorem Clean.nil : Clean [] := List.forall_mem_nil _

theorem Clean.append (hf : Clean f) (hg : Clean g) : Clean (f ++ g) :=
  List.forall_mem_append.mpr ⟨hf, hg⟩

theorem Clean.withRole (hf : Clean f) (r : Role) : Clean (Fragment.withRole r f) := by
  intro n hn
  obtain ⟨m, hm, rfl⟩ := List.mem_map.mp hn
  split
  · exact hf m hm
  · exact ⟨by cases m <;> exact (hf _ hm).1, (Node.hasError_withRole m r).trans (hf m hm).2⟩

theorem Clean.anyHasError (hf : Clean f) : Node.anyHasError f = false := by
  rw [Bool.eq_false_iff, ne_eq, Node.anyHasError_eq_true]
  rintro ⟨n, hn, herror⟩
  rw [(hf n hn).2] at herror
  cases herror

/-- Clean nodes go under one node as they are. -/
theorem Clean.enclose_eq {loose : Node → Bool} (hloose : ∀ n, loose n = true → n.isExtra = true)
    (hf : Clean f) : enclose loose kind f = [.tree kind .none f] := by
  have hnone : ∀ l : List Node, (∀ n ∈ l, n.isExtra = false) →
      l.takeWhile loose = [] ∧ l.dropWhile loose = l := by
    intro l hl
    cases l with
    | nil => exact ⟨rfl, rfl⟩
    | cons n l =>
      have hn : ¬ loose n = true := fun h => by
        have hextra := hloose n h
        rw [hl n List.mem_cons_self] at hextra
        cases hextra
      simp [hn]
  have hfirst := hnone f fun n hn => (hf n hn).1
  have hlast := hnone f.reverse fun n hn => (hf n (List.mem_reverse.mp hn)).1
  simp [enclose, hfirst, hlast]

theorem Clean.branch_eq (hf : Clean f) : branch kind f = [.tree kind .none f] :=
  hf.enclose_eq fun _ h => h

theorem Clean.block_eq (hf : Clean f) : block f = [.tree .block .none f] :=
  hf.enclose_eq fun _ h => (Bool.and_eq_true_iff.mp h).1

theorem Clean.branch (hf : Clean f) (kind : Kind) : IsTree kind (branch kind f) :=
  ⟨f, hf.branch_eq, hf⟩

theorem Kind.isExtra_of_isProper (h : kind.isProper = true) :
    (Node.tree kind .none []).isExtra = false := Bool.not_eq_true' .. ▸ h

theorem IsTree.clean (h : IsTree kind f) (hkind : kind.isProper = true) : Clean f := by
  obtain ⟨children, rfl, hchildren⟩ := h
  refine List.forall_mem_singleton.mpr ⟨Kind.isExtra_of_isProper hkind, ?_⟩
  rw [Node.hasError, hchildren.anyHasError]
  cases kind <;> first | rfl | cases hkind

theorem IsLeaf.clean (h : IsLeaf kind w f) (hkind : kind.isProper = true) : Clean f := by
  obtain ⟨gap, position, -, rfl⟩ := h
  refine List.forall_mem_singleton.mpr ⟨Kind.isExtra_of_isProper hkind, ?_⟩
  rw [Node.hasError]
  cases kind <;> first | rfl | cases hkind

end Fragments

namespace Gives

variable {α β : Type} {p : Reader α} {s m s' : Place} {Q R : α → Prop} {S : β → Prop}

theorem mono (h : Gives p s Q s') (hQ : ∀ a, Q a → R a) : Gives p s R s' := by
  intro c hc hs
  obtain ⟨a, c', hp, hc', hs', ha⟩ := h c hc hs
  exact ⟨a, c', hp, hc', hs', hQ a ha⟩

theorem ofLeaf {p : Reader Fragment} {kind : Kind} {w : List Char} (h : Gives p s (IsLeaf kind w) s')
    (hkind : kind.isProper = true) : Gives p s Clean s' :=
  h.mono fun _ hf => hf.clean hkind

theorem ofTree {p : Reader Fragment} {kind : Kind} (h : Gives p s (IsTree kind) s')
    (hkind : kind.isProper = true) : Gives p s Clean s' :=
  h.mono fun _ hf => hf.clean hkind

theorem pure {a : α} (h : Q a) : Gives (Pure.pure a) s Q s :=
  fun c hc hs => ⟨a, c, rfl, hc, hs, h⟩

theorem bind {f : α → Reader β} (hp : Gives p s Q m) (hf : ∀ a, Q a → Gives (f a) m S s') :
    Gives (p >>= f) s S s' := by
  intro c hc hs
  obtain ⟨a, c', hpc, hc', hm, ha⟩ := hp c hc hs
  obtain ⟨b, c'', hfa, hrest⟩ := hf a ha c' hc' hm
  refine ⟨b, c'', ?_, hrest⟩
  rw [← hfa]
  show (p c >>= fun r => f r.1 r.2) = f a c'
  rw [hpc]
  rfl

/-- What a reader looks up in the cursor. -/
theorem get {f : Cursor → Reader β}
    (hf : ∀ c : Cursor, c.Plain → c.place = s → Gives (f c) s S s') :
    Gives (MonadState.get >>= f) s S s' := fun c hc hs => hf c hc hs c hc hs

theorem set {f : PUnit → Reader β} {c : Cursor} (hc : c.Plain) (hs : c.place = m)
    (hf : Gives (f ⟨⟩) m S s') : Gives (MonadState.set c >>= f) s S s' :=
  fun _ _ _ => hf c hc hs

/-- A change of the cursor that leaves its text as it is. -/
theorem modify {f : PUnit → Reader β} {g : Cursor → Cursor} (hg : Still g)
    (hs : ∀ c : Cursor, c.place = s → (g c).place = m) (hf : Gives (f ⟨⟩) m S s') :
    Gives (modify g >>= f) s S s' := by
  intro c hc hplace
  obtain ⟨hrest, hbudget, hrepair⟩ := hg c
  refine hf (g c) ⟨hrepair.trans hc.repair, ?_⟩ (hs c hplace)
  have hfed := hc.fed
  unfold Cursor.Fed at hfed ⊢
  rwa [hrest, hbudget]

variable {t : Token} {w behind : List Char} {σ : Sight}

/-- What is known of the token ahead from every cursor at the place. -/
theorem looked {f : Sight → Reader β} (P : Sight → Prop)
    (h : ∀ c : Cursor, c.Plain → c.place = s → P (c.look false))
    (hf : ∀ σ : Sight, P σ → Gives (f σ) s S s') : Gives (Grammar.look >>= f) s S s' :=
  fun c hc hs => hf _ (h c hc hs) c hc hs

theorem look {f : Sight → Reader β} (h : s.Ahead false t w behind)
    (hf : ∀ σ : Sight, σ.Shows s t w behind → Gives (f σ) s S s') :
    Gives (Grammar.look >>= f) s S s' :=
  looked (·.Shows s t w behind) h hf

theorem lookOn {f : Sight → Reader β} (h : s.Ahead s.lineBound t w behind)
    (hf : ∀ σ : Sight, σ.Shows s t w behind → Gives (f σ) s S s') :
    Gives (lookOn >>= f) s S s' := by
  intro c hc hs
  have hline : c.lineBound = s.lineBound := by subst hs; rfl
  exact hf (c.look c.lineBound) (hline ▸ h c hc hs) c hc hs

/-- A token is taken with what was passed over before it. -/
theorem take_behind {s₀ : Place} (hσ : σ.Tells s t w behind) (kind : Kind) :
    Gives (take σ kind) s₀ (fun f => ∃ leaf, f = σ.extras ++ leaf ∧ IsLeaf kind w leaf)
    (s.at behind) := by
  intro c hc hs
  have htext : chars σ.cursor.rest = w ++ behind := congrArg Place.text hσ.place
  have hplace : (σ.cursor.advance σ.length).place = s.at behind := by
    have htaken : (s.at (w ++ behind)).text = w ++ behind := rfl
    rw [hσ.length, Cursor.place_advance hσ.place htaken]
    rfl
  have hspell : σ.cursor.spell σ.length = String.ofList w := by
    rw [Cursor.spell, hσ.length, List.map_take, ← chars, htext, List.take_left]
  refine ⟨_, { σ.cursor.advance σ.length with trail := (σ.cursor.offset, σ.length) :: c.trail },
    ?_, ⟨(hσ.plain.advance _).repair, (hσ.plain.advance _).fed⟩, hplace, _, rfl, σ.gap,
    σ.cursor.position,
    hσ.gap, rfl⟩
  unfold Grammar.take takeLength
  rw [hσ.supplied, hspell]
  rfl

theorem take {s₀ : Place} (hσ : σ.Shows s t w behind) (kind : Kind) :
    Gives (take σ kind) s₀ (IsLeaf kind w) (s.at behind) := by
  refine (take_behind hσ.toTells kind).mono ?_
  rintro f ⟨leaf, rfl, hleaf⟩
  rw [hσ.extras]
  exact hleaf

/-! Single tokens. -/

theorem word {v : String} (h : s.Ahead false (.word v) w behind) :
    Gives (Grammar.word v) s (IsLeaf .keyword w) (s.at behind) := by
  refine look h fun σ hσ => ?_
  rw [show σ.isWord v = true by simp [Sight.isWord, hσ.token]]
  exact take hσ .keyword

theorem mark {m : String} (h : s.Ahead false (.mark m) w behind) :
    Gives (Grammar.mark m) s (IsLeaf .mark w) (s.at behind) := by
  refine look h fun σ hσ => ?_
  rw [show σ.isMark m = true by simp [Sight.isMark, hσ.token]]
  exact take hσ .mark

theorem identifier {v : String} (h : s.Ahead false (.word v) w behind) (hv : v ≠ "") :
    Gives Grammar.identifier s (IsLeaf .identifier w) (s.at behind) := by
  refine look h fun σ hσ => ?_
  have hempty : v.isEmpty = false := by simpa using hv
  simp only [hσ.token, hempty, Bool.false_eq_true, if_false]
  exact take hσ .identifier

/-- A clause may have its own rule on line ends. -/
theorem withEnds {ends : Bool} {p : Reader Fragment} {Q : Fragment → Prop} {behind : List Char}
    (h : Gives p (s.ending ends) Q ((s.at behind).ending ends)) :
    Gives (Grammar.withEnds ends p) s Q (s.at behind) := by
  refine get fun c _ hc => ?_
  have houter : c.ends = s.ends := by rw [← hc]; rfl
  refine modify (fun _ => ⟨rfl, rfl, rfl⟩) (m := s.ending ends) (fun d hd => by rw [← hd]; rfl) ?_
  refine h.bind fun f hf => ?_
  refine modify (fun _ => ⟨rfl, rfl, rfl⟩) (m := s.at behind) (fun d hd => ?_) (.pure hf)
  simp only [Cursor.place, Place.ending, Place.at, Place.mk.injEq] at hd
  simp [Cursor.place, Place.at, hd, houter]

end Gives

section Brackets

variable {s s' : Place} {Q : Fragment → Prop} {w behind w' behind' : List Char}

/-- A bracket that opens. -/
theorem opening_gives {m : String} {p : Fragment → PUnit → Reader Fragment}
    (h : s.Ahead false (.mark m) w behind)
    (hinner : ∀ f, Clean f → Gives (p f ⟨⟩) (s.at behind).inside Q s') :
    Gives (mark m >>= fun opening =>
      (modify fun c => { c with brackets := c.brackets + 1 }) >>= p opening) s Q s' := by
  refine (Gives.mark h).bind fun opening hopening => ?_
  exact .modify (fun _ => ⟨rfl, rfl, rfl⟩) (fun c hc => Cursor.place_inside hc)
    (hinner opening (hopening.clean rfl))

/-- The bracket that closes. -/
theorem closing_gives {m : String} {p : Fragment → Fragment}
    (h : (s.at behind).inside.Ahead false (.mark m) w' behind')
    (hp : ∀ f, Clean f → Q (p f)) :
    Gives (mark m >>= fun closing =>
      (modify fun c => { c with brackets := c.brackets - 1 }) >>= fun _ => pure (p closing))
      (s.at behind).inside Q (s.at behind') := by
  refine (Gives.mark h).bind fun closing hclosing => ?_
  exact .modify (fun _ => ⟨rfl, rfl, rfl⟩) (fun c hc => Cursor.place_outside hc)
    (.pure (hp closing (hclosing.clean rfl)))

theorem Gives.bracketed {opening closing : String} {inner : Reader Fragment} {m : List Char}
    (hopening : s.Ahead false (.mark opening) w behind)
    (hinner : Gives inner (s.at behind).inside Clean (s.at m).inside)
    (hclosing : (s.at m).inside.Ahead false (.mark closing) w' behind') :
    Gives (Grammar.bracketed opening closing inner) s Clean (s.at behind') := by
  refine opening_gives hopening fun first hfirst => hinner.bind fun middle hmiddle => ?_
  exact closing_gives hclosing fun last hlast => (hfirst.append hmiddle).append hlast

end Brackets

/-! ## 5. Repetition -/

/-- From the place `s`, with anything that satisfies `A`, the repetition gives something with the
property `Q` and stops at `s'`. -/
def GivesOn {α : Type} (step : α → Reader (Option α)) (A : α → Prop) (s : Place) (Q : α → Prop)
    (s' : Place) : Prop :=
  ∀ fuel a, s.text.length < fuel → A a → Gives (repeatFrom step fuel a) s Q s'

section Repetition

variable {α : Type} {step : α → Reader (Option α)} {A B Q : α → Prop} {s m s' : Place}

theorem GivesOn.stop (h : ∀ a, A a → Gives (step a) s (· = none) s) : GivesOn step A s A s := by
  intro fuel a hfuel ha
  cases fuel with
  | zero => exact .pure ha
  | succ fuel =>
    refine (h a ha).bind fun r hr => ?_
    subst hr
    exact .pure ha

theorem GivesOn.more (h : ∀ a, A a → Gives (step a) s (fun r => ∃ b, r = some b ∧ B b) m)
    (hless : m.text.length < s.text.length) (hrest : GivesOn step B m Q s') :
    GivesOn step A s Q s' := by
  intro fuel a hfuel ha
  cases fuel with
  | zero => exact absurd hfuel (Nat.not_lt_zero _)
  | succ fuel =>
    refine (h a ha).bind fun r hr => ?_
    obtain ⟨b, rfl, hb⟩ := hr
    exact hrest fuel b (by omega) hb

theorem GivesOn.weaken (h : GivesOn step A s Q s') (hQ : ∀ a, Q a → B a) : GivesOn step A s B s' :=
  fun fuel a hfuel ha => (h fuel a hfuel ha).mono hQ

/-- There is a step for every character. -/
theorem Gives.repeating {a : α} (h : GivesOn step A s Q m) (ha : A a) :
    Gives (Grammar.repeating a step) s Q m := by
  refine .get fun c hc hs => h _ a ?_ ha
  have hfed := hc.fed
  unfold Cursor.Fed at hfed
  rw [← hs, Cursor.place, length_chars]
  exact hfed

end Repetition

/-! Items with commas between them. -/

section Commas

variable {starts : Token → Bool} {item : Reader Fragment} {s s' : Place}

/-- What may follow an item of a list from `s` to `s'`: nothing, a last comma, or a comma with the
next item. -/
inductive Items (starts : Token → Bool) (item : Reader Fragment) : Place → Place → Prop
  | nil {s : Place} {t : Token} {w behind : List Char} (hend : s.Ahead s.lineBound t w behind)
      (ht : t ≠ .mark ",") : Items starts item s s
  | last {s : Place} {t : Token} {w behind w' behind' : List Char}
      (hcomma : s.Ahead s.lineBound (.mark ",") w behind)
      (hnext : (s.at behind).Ahead s.lineBound t w' behind') (ht : starts t = false)
      (hless : behind.length < s.text.length) : Items starts item s (s.at behind)
  | cons {s s₁ s' : Place} {t : Token} {w behind w' behind' : List Char}
      (hcomma : s.Ahead s.lineBound (.mark ",") w behind)
      (hnext : (s.at behind).Ahead s.lineBound t w' behind') (ht : starts t = true)
      (hitem : Gives item (s.at behind) Clean s₁) (hless : s₁.text.length < s.text.length)
      (hrest : Items starts item s₁ s') : Items starts item s s'

theorem Gives.commaList {s₁ : Place} (hitem : Gives item s Clean s₁)
    (hrest : Items starts item s₁ s') :
    Gives (Grammar.commaList starts item) s (fun r => Clean r.1) s' := by
  refine hitem.bind fun first hfirst => ?_
  refine (Gives.repeating (A := fun r => Clean r.1 ∧ r.2.2 = false) (Q := fun r => Clean r.1) ?_
    ⟨hfirst, rfl⟩).bind fun r hr => .pure hr
  clear hitem hfirst
  induction hrest with
  | nil hend ht =>
    refine GivesOn.weaken (.stop ?_) fun r hr => hr.1
    rintro ⟨sofar, several, ended⟩ ⟨-, rfl⟩
    refine .lookOn hend fun σ hσ => ?_
    rw [show σ.isMark "," = false by simpa [Sight.isMark, hσ.token] using ht]
    exact .pure rfl
  | last hcomma hnext ht hless =>
    refine .more (B := fun r => Clean r.1 ∧ r.2.2 = true) ?_ hless
      (GivesOn.weaken (.stop ?_) fun r hr => hr.1)
    · rintro ⟨sofar, several, ended⟩ ⟨hsofar, rfl⟩
      refine .lookOn hcomma fun σ hσ => ?_
      rw [show σ.isMark "," = true by simp [Sight.isMark, hσ.token]]
      refine (Gives.take hσ .mark).bind fun comma hleaf => ?_
      refine .lookOn hnext fun σ' hσ' => ?_
      rw [hσ'.token, ht]
      exact .pure ⟨_, rfl, hsofar.append (hleaf.clean rfl), rfl⟩
    · rintro ⟨sofar, several, ended⟩ ⟨-, rfl⟩
      exact .pure rfl
  | cons hcomma hnext ht hitem hless _ ih =>
    refine .more ?_ hless ih
    rintro ⟨sofar, several, ended⟩ ⟨hsofar, rfl⟩
    refine .lookOn hcomma fun σ hσ => ?_
    rw [show σ.isMark "," = true by simp [Sight.isMark, hσ.token]]
    refine (Gives.take hσ .mark).bind fun comma hleaf => ?_
    refine .lookOn hnext fun σ' hσ' => ?_
    rw [hσ'.token, ht]
    refine hitem.bind fun f hf => ?_
    exact .pure ⟨_, rfl, (hsofar.append (hleaf.clean rfl)).append hf, rfl⟩

/-- A single item with no comma behind it. -/
theorem Gives.single {Q : Fragment → Prop} {s₁ : Place} {t : Token} {w behind : List Char}
    (hitem : Gives item s Q s₁) (hend : s₁.Ahead s₁.lineBound t w behind) (ht : t ≠ .mark ",") :
    Gives (Grammar.commaList starts item) s (fun r => Q r.1 ∧ r.2 = false) s₁ := by
  refine hitem.bind fun first hfirst => ?_
  refine (Gives.repeating (A := fun r => Q r.1 ∧ r.2 = (false, false)) (.stop ?_)
    ⟨hfirst, rfl⟩).bind
    fun r hr => .pure ⟨hr.1, congrArg Prod.fst hr.2⟩
  rintro ⟨sofar, several, ended⟩ ⟨-, hflags⟩
  obtain ⟨rfl, rfl⟩ := Prod.mk.inj hflags
  refine .lookOn hend fun σ hσ => ?_
  rw [show σ.isMark "," = false by simpa [Sight.isMark, hσ.token] using ht]
  exact .pure rfl

end Commas

end FluentBuilders.Grammar
