import FluentBuilders.Proofs.Grammar.Lexing
import FluentBuilders.Proofs.Grammar.Reading
import FluentBuilders.Proofs.Text.Blank

/-!
One text read twice: as it stands, and with its blanks closed up.

1. `Gap.read` over blanks alone.
2. `Cursor.Next`: the token ahead stands in the text before a tail `T`, with blanks alone before it.
3. `Mirrors`: a cursor in front of a text that ends with `T`, and one in front of that text closed up
   and without `T`.
4. What is seen there: the same token, or the end of the text.
5. It does not matter whether line ends count where one looks beyond them.
-/

namespace FluentBuilders.Grammar

open Text

/-! ## 1. Gaps of blanks -/

section Gap

variable {stop : Bool} {g : Gap} {next : Glyph} {rest : List Glyph}

/-- A blank takes one step; nothing but a line end is noted. -/
theorem Gap.read_blank (fuel : Nat) (hrest : g.cursor.rest = next :: rest)
    (hblank : isGapBlank next.char = true) (hline : ¬ (stop = true ∧ next.char = '\n')) :
    ∃ g' : Gap, Gap.read stop (fuel + 1) g = Gap.read stop fuel g' ∧
      g'.cursor = g.cursor.advance 1 ∧ g'.extras = g.extras ∧ g'.blanks = next.char :: g.blanks ∧
        (next.char ≠ '\n' → g'.crossed = g.crossed) := by
  rw [Gap.read, hrest]
  dsimp only
  split
  · exact ⟨_, rfl, rfl, rfl, rfl, fun _ => rfl⟩
  split
  · exact ⟨_, rfl, rfl, rfl, rfl, fun _ => rfl⟩
  split
  · exact ⟨_, rfl, rfl, rfl, rfl, fun _ => rfl⟩
  split
  · next hchar =>
    rw [if_neg fun hstop => hline ⟨hstop, hchar⟩]
    exact ⟨_, rfl, rfl, rfl, rfl, fun hne => absurd hchar hne⟩
  · have hwide : next.char = '\x0b' ∨ next.char = '\uFEFF' ∨ next.char = '\u2060' ∨
        next.char = '\u200B' := by
      simp only [isGapBlank, List.contains_eq_mem, List.mem_cons, List.not_mem_nil, or_false,
        decide_eq_true_eq] at hblank
      simp_all
    rw [if_neg (by rcases hwide with h | h | h | h <;> simp [h]),
      if_neg (by rcases hwide with h | h | h | h <;> simp [h]), if_pos hwide]
    exact ⟨_, rfl, rfl, rfl, rfl, fun _ => rfl⟩

/-- A gap ends before a character that it does not pass over. -/
theorem Gap.read_stop (fuel : Nat) (hrest : g.cursor.rest = next :: rest)
    (hpassed : isPassed next.char = false) : Gap.read stop fuel g = g := by
  cases fuel with
  | zero => rfl
  | succ fuel =>
    rw [Gap.read, hrest]
    dsimp only
    simp only [isPassed, passedChars, List.contains_eq_mem, List.mem_cons, List.not_mem_nil, or_false,
      decide_eq_false_iff_not, not_or] at hpassed
    simp [hpassed]

theorem Gap.read_nil (fuel : Nat) (hrest : g.cursor.rest = []) : Gap.read stop fuel g = g := by
  cases fuel with
  | zero => rfl
  | succ fuel => rw [Gap.read, hrest]

/-- Extras are only added. -/
theorem Gap.read_extras (fuel : Nat) (g : Gap) : g.extras <:+ (Gap.read stop fuel g).extras := by
  induction fuel generalizing g with
  | zero => exact List.suffix_rfl
  | succ fuel ih =>
    unfold Gap.read
    split
    · exact List.suffix_rfl
    · dsimp only
      split
      · exact ih (g.blank _ _)
      split
      · exact ih (g.blank _ _)
      split
      · exact ih (g.blank _ _)
      split
      · split
        · exact List.suffix_rfl
        · exact ih { g.blank _ 0 with crossed := true }
      split
      · exact (List.suffix_cons ..).trans (ih (g.extra _ _))
      split
      · split
        · exact (List.suffix_cons ..).trans (ih (g.extra _ _))
        · exact List.suffix_rfl
      split
      · exact ih (g.blank _ _)
      · exact List.suffix_rfl

/-- A gap without extras consists of blanks, and ends at a character that is none, unless it was to
end with its line. -/
theorem Gap.read_plain (fuel : Nat) (g : Gap) (hfuel : g.cursor.rest.length < fuel)
    (h : (Gap.read stop fuel g).extras = []) : ∃ passed,
      chars g.cursor.rest = passed ++ chars (Gap.read stop fuel g).cursor.rest ∧
      (Gap.read stop fuel g).cursor = g.cursor.advance passed.length ∧
      (Gap.read stop fuel g).blanks = passed.reverse ++ g.blanks ∧
      (∀ c ∈ passed, isGapBlank c = true) ∧
      ∀ c ∈ (chars (Gap.read stop fuel g).cursor.rest).head?,
        stop = true ∧ c = '\n' ∨ isGapBlank c = false ∧ c ≠ '#' := by
  induction fuel generalizing g with
  | zero => exact absurd hfuel (Nat.not_lt_zero _)
  | succ fuel ih =>
    cases hrest : g.cursor.rest with
    | nil =>
      rw [Gap.read_nil _ hrest]
      exact ⟨[], by simp [hrest], rfl, rfl, by simp, by simp [hrest, chars]⟩
    | cons next rest =>
      have hhere : ∀ P : Char → Prop, P next.char → Gap.read stop (fuel + 1) g = g → ∃ passed,
          chars (next :: rest) = passed ++ chars (Gap.read stop (fuel + 1) g).cursor.rest ∧
          (Gap.read stop (fuel + 1) g).cursor = g.cursor.advance passed.length ∧
          (Gap.read stop (fuel + 1) g).blanks = passed.reverse ++ g.blanks ∧
          (∀ c ∈ passed, isGapBlank c = true) ∧
          ∀ c ∈ (chars (Gap.read stop (fuel + 1) g).cursor.rest).head?, P c := fun P hP e => by
        rw [e]
        exact ⟨[], by simp [hrest], rfl, rfl, by simp, by simpa [hrest, chars] using hP⟩
      by_cases hline : stop = true ∧ next.char = '\n'
      · refine hhere _ (.inl hline) ?_
        simp [Gap.read, hrest, hline]
      by_cases hblank : isGapBlank next.char = true
      · obtain ⟨g', hread, hcursor, hextras, hblanks, -⟩ := Gap.read_blank fuel hrest hblank hline
        rw [hread] at h ⊢
        have hrest' : g'.cursor.rest = rest := by simp [hcursor, hrest]
        rw [hrest, List.length_cons] at hfuel
        obtain ⟨passed, htext, hplace, hpassed, hall, hend⟩ := ih g' (by rw [hrest']; omega) h
        refine ⟨next.char :: passed, ?_, ?_, ?_, ?_, hend⟩
        · rw [hrest'] at htext
          rw [chars, List.map_cons, List.cons_append]
          exact congrArg _ htext
        · rw [hplace, hcursor, Cursor.advance_add, List.length_cons, Nat.add_comm]
        · rw [hpassed, hblanks, List.reverse_cons, List.append_assoc, List.singleton_append]
        · exact List.forall_mem_cons.mpr ⟨hblank, hall⟩
      by_cases hpassed : isPassed next.char = true
      · -- a comment or a joined line would be an extra
        have hcases : next.char = '#' ∨ next.char = '\\' := by
          simp only [isPassed, passedChars, List.contains_eq_mem, List.mem_cons, List.not_mem_nil,
            or_false, decide_eq_true_eq] at hpassed
          simp only [isGapBlank, List.contains_eq_mem, List.mem_cons, List.not_mem_nil, or_false,
            decide_eq_true_eq] at hblank
          simp_all
        have hextra : ∀ kind count, (Gap.read stop fuel (g.extra kind count)).extras ≠ [] :=
          fun kind count hnone => by
            have hsuffix := @Gap.read_extras stop fuel (g.extra kind count)
            rw [hnone] at hsuffix
            cases List.suffix_nil.mp hsuffix
        rcases hcases with hchar | hchar
        · rw [Gap.read, hrest] at h
          simp only [hchar] at h
          exact absurd h (hextra _ _)
        · refine hhere _ (.inr ⟨by simpa using hblank, by simp [hchar]⟩) ?_
          rw [Gap.read, hrest] at h ⊢
          simp only [hchar] at h ⊢
          cases hjoin : joinLength (next :: rest) with
          | some count =>
            rw [hjoin] at h
            exact absurd h (hextra _ _)
          | none => rfl
      · refine hhere _ (.inr ⟨by simpa using hblank, fun hchar => ?_⟩)
          (Gap.read_stop _ hrest (by simpa using hpassed))
        rw [hchar] at hpassed
        exact hpassed rfl

/-- Blanks on one line are passed over up to what is none. -/
theorem Gap.read_over (fuel : Nat) (g : Gap) {passed behind : List Char} (hfuel : passed.length < fuel)
    (htext : chars g.cursor.rest = passed ++ behind)
    (hpassed : ∀ c ∈ passed, isGapBlank c = true ∧ c ≠ '\n')
    (hbehind : ∀ c ∈ behind.head?, isPassed c = false) :
    (Gap.read stop fuel g).cursor = g.cursor.advance passed.length ∧
      (Gap.read stop fuel g).extras = g.extras ∧ (Gap.read stop fuel g).crossed = g.crossed := by
  induction passed generalizing fuel g with
  | nil =>
    have hsame : Gap.read stop fuel g = g := by
      cases hrest : g.cursor.rest with
      | nil => exact Gap.read_nil fuel hrest
      | cons next rest =>
        refine Gap.read_stop fuel hrest (hbehind _ ?_)
        rw [hrest] at htext
        rw [← List.nil_append behind, ← htext]
        rfl
    rw [hsame]
    exact ⟨rfl, rfl, rfl⟩
  | cons c passed ih =>
    cases fuel with
    | zero => exact absurd hfuel (Nat.not_lt_zero _)
    | succ fuel =>
      rw [List.forall_mem_cons] at hpassed
      cases hrest : g.cursor.rest with
      | nil =>
        rw [hrest] at htext
        cases htext
      | cons next rest =>
        rw [hrest] at htext
        obtain ⟨rfl, hbehind'⟩ : next.char = c ∧ chars rest = passed ++ behind := List.cons.inj htext
        obtain ⟨g', hread, hcursor, hextras, -, hcrossed⟩ :=
          @Gap.read_blank stop _ _ _ fuel hrest hpassed.1.1 fun h => hpassed.1.2 h.2
        have hrest' : g'.cursor.rest = rest := by simp [hcursor, hrest]
        obtain ⟨hplace, hextras', hcrossed'⟩ :=
          ih fuel g' (Nat.lt_of_succ_lt_succ hfuel) (by rw [hrest', hbehind']) hpassed.2
        rw [hread]
        refine ⟨?_, hextras'.trans hextras, hcrossed'.trans (hcrossed hpassed.1.2)⟩
        rw [hplace, hcursor, Cursor.advance_add, List.length_cons, Nat.add_comm]

/-- Anywhere but at a line end, it does not matter whether the gap is to end with its line. -/
theorem Gap.read_step (fuel : Nat) (g : Gap) (hline : (chars g.cursor.rest).head? ≠ some '\n') :
    (∀ stop, Gap.read stop (fuel + 1) g = g) ∨
      ∃ g', ∀ stop, Gap.read stop (fuel + 1) g = Gap.read stop fuel g' := by
  cases hrest : g.cursor.rest with
  | nil => exact .inl fun stop => Gap.read_nil _ hrest
  | cons next rest =>
    have hno : next.char ≠ '\n' := fun h => hline (by rw [hrest, chars, List.map_cons, h]; rfl)
    simp only [Gap.read, hrest, if_neg hno]
    split
    · exact .inr ⟨_, fun _ => rfl⟩
    split
    · exact .inr ⟨_, fun _ => rfl⟩
    split
    · exact .inr ⟨_, fun _ => rfl⟩
    split
    · exact .inr ⟨_, fun _ => rfl⟩
    split
    · split
      · exact .inr ⟨_, fun _ => rfl⟩
      · exact .inl fun _ => rfl
    split
    · exact .inr ⟨_, fun _ => rfl⟩
    · exact .inl fun _ => rfl

/-- A gap that was to end with its line and met no line end is the gap that was not. -/
theorem Gap.read_onLine (fuel : Nat) (g : Gap)
    (h : (chars (Gap.read true fuel g).cursor.rest).head? ≠ some '\n') :
    Gap.read false fuel g = Gap.read true fuel g := by
  induction fuel generalizing g with
  | zero => rfl
  | succ fuel ih =>
    by_cases hline : (chars g.cursor.rest).head? = some '\n'
    · have hstop : Gap.read true (fuel + 1) g = g := by
        unfold Gap.read
        split
        · rfl
        · next next rest hrest =>
          rw [hrest] at hline
          simp [show next.char = '\n' from Option.some.inj hline]
      rw [hstop] at h
      exact absurd hline h
    · rcases Gap.read_step fuel g hline with hend | ⟨g', hstep⟩
      · rw [hend, hend]
      · rw [hstep] at h
        rw [hstep, hstep, ih g' h]

end Gap

/-! ## 2. The token ahead -/

/-- Where no repair is to come, what is seen is what the gap leads to. -/
theorem Cursor.look_plain {c : Cursor} (hc : c.repair = none) (stop : Bool) :
    c.look stop = Gap.sight.ordinary c stop (c.gap stop) fun token length =>
      ⟨(c.gap stop).extras.reverse, (c.gap stop).spelled, (c.gap stop).cursor, token, length, none⟩ := by
  have hrepair : (c.gap stop).cursor.repair = none := by
    obtain ⟨n, hn⟩ := (c.gap_sound stop).advanced
    rw [hn, Cursor.advance_repair, hc]
  unfold Cursor.look Gap.sight
  simp only [hrepair]

/-- Tokens that stand in the text with characters of their own. -/
def Token.isText : Token → Bool
  | .word _ | .number | .quote | .mark _ => true
  | _ => false

/-- What is seen from a cursor without repair. -/
structure Cursor.Sees (c : Cursor) (stop : Bool) (s : Sight) : Prop where
  supplied : s.supplied = none
  cursor : s.cursor = (c.gap stop).cursor
  extras : s.extras = (c.gap stop).extras.reverse
  gap : s.gap = (c.gap stop).spelled
  /-- A token with characters is the one at the front of the text. -/
  token : s.token.isText = true → tokenAt s.cursor.rest = (s.token, s.length)
  other : s.token = .other → tokenAt s.cursor.rest = (s.token, s.length)
  /-- No token with characters is seen where the line ends and the gap was to end there. -/
  ends : s.token.isText = true → stop = true → (chars s.cursor.rest).head? ≠ some '\n'

theorem Cursor.look_sees {c : Cursor} (hc : c.repair = none) (stop : Bool) :
    c.Sees stop (c.look stop) := by
  have hplain : ∀ t l, (t.isText = true ∨ t = .other → tokenAt (c.gap stop).cursor.rest = (t, l) ∧
      (stop = true → (chars (c.gap stop).cursor.rest).head? ≠ some '\n')) →
      c.Sees stop ⟨(c.gap stop).extras.reverse, (c.gap stop).spelled, (c.gap stop).cursor, t, l, none⟩ :=
    fun t l h => ⟨rfl, rfl, rfl, rfl, fun ht => (h (.inl ht)).1, fun ht => (h (.inr ht)).1,
      fun ht => (h (.inl ht)).2⟩
  rw [Cursor.look_plain hc]
  unfold Gap.sight.ordinary
  split
  · exact hplain _ _ nofun
  · next next rest hrest =>
    split
    · exact hplain _ _ nofun
    split
    · exact hplain _ _ nofun
    · next hline _ =>
      refine hplain _ _ fun _ => ⟨by rw [hrest], fun hstop => ?_⟩
      rw [hrest, chars, List.map_cons]
      simpa [hstop] using hline

/-- Where a token with characters is seen, it does not matter whether the gap was to end with its
line. -/
theorem Cursor.look_onLine {c : Cursor} (hc : c.repair = none) {stop : Bool}
    (h : (c.look stop).token.isText = true) : c.look false = c.look stop := by
  cases stop with
  | false => rfl
  | true =>
    have hs := Cursor.look_sees hc true
    have hline := hs.ends h rfl
    rw [hs.cursor] at hline
    have hgap : c.gap false = c.gap true := Gap.read_onLine _ _ hline
    rw [Cursor.look_plain hc, Cursor.look_plain hc, hgap]
    unfold Gap.sight.ordinary
    split
    · rfl
    · next next rest hrest =>
      have hno : next.char ≠ '\n' := fun hchar => hline (by rw [hrest, chars, List.map_cons, hchar]; rfl)
      simp [hno]

theorem runLength_le (p : Char → Bool) (gs : List Glyph) : runLength p gs ≤ gs.length := by
  induction gs with
  | nil => exact Nat.le_refl 0
  | cons g rest ih =>
    rw [runLength]
    split
    · exact Nat.succ_le_succ ih
    · exact Nat.zero_le _

/-- The characters of a token: no blanks, and the first is none that a gap passes over. -/
theorem tokenAt_text {gs : List Glyph} {t : Token} {n : Nat} (h : tokenAt gs = (t, n))
    (ht : t.isText = true) : ∃ first more behind, chars gs = first :: more ++ behind ∧
      (first :: more).length = n ∧ (∀ ch ∈ first :: more, isBlank ch = false) ∧
        isPassed first = false := by
  have hother : (tokenAt gs).1 ≠ .other := fun hother => by
    rw [← show (tokenAt gs).1 = t from congrArg Prod.fst h, hother] at ht
    cases ht
  have hsolid := tokenAt_solid hother
  rw [h] at hsolid
  cases gs with
  | nil =>
    cases h
    cases ht
  | cons g rest =>
    have hpos := tokenAt_pos (List.cons_ne_nil g rest)
    rw [h] at hpos
    obtain ⟨m, rfl⟩ := Nat.exists_eq_succ_of_ne_zero hpos.ne'
    have hfront : ∀ ch ∈ (chars (g :: rest)).take (m + 1), isBlank ch = false := by
      intro ch hch
      have hmem : ch ∈ (chars (g :: rest)).takeWhile fun c => !isBlank c := by
        rw [← runLength_take, chars, List.map_take]
        exact (List.take_subset_take_left _ hsolid) hch
      simpa using List.mem_takeWhile_imp hmem
    refine ⟨g.char, (chars rest).take m, (chars rest).drop m, ?_, ?_, hfront, ?_⟩
    · rw [List.cons_append, List.take_append_drop]
      rfl
    · have hle := hsolid.trans (runLength_le _ _)
      rw [List.length_cons] at hle
      rw [List.length_cons, List.length_take, chars, List.length_map]
      omega
    · refine Bool.eq_false_iff.mpr fun hpassed => hother ?_
      exact tokenAt_passed hpassed

variable {T : List Char} {c c' : Cursor}

/-- The next token stands right behind blanks, and the text that starts with it ends with `T` and has
all of it before that. -/
structure Cursor.Next (T : List Char) (c : Cursor) : Prop where
  extras : (c.look false).extras = []
  token : tokenAt (c.look false).cursor.rest = ((c.look false).token, (c.look false).length)
  text : ∃ first more, chars (c.look false).cursor.rest = first :: more ++ T ∧
    (c.look false).length ≤ (first :: more).length ∧ isBlank first = false ∧ isPassed first = false

/-- The rest of the text ends with `T`. -/
def Cursor.Within (T : List Char) (c : Cursor) : Prop := T <:+ chars c.rest

theorem Cursor.Next.within (h : c.Next T) : c.Within T := by
  obtain ⟨first, more, htext, -⟩ := h.text
  have hseen := (c.look_seen false).forward.suffix
  exact (htext ▸ List.suffix_append (first :: more) T).trans (hseen.map _)

/-- The blanks that a gap without extras passes over. -/
theorem Cursor.look_passed (hc : c.repair = none) (hfed : c.Fed) {stop : Bool}
    (h : (c.look stop).extras = []) : ∃ passed,
    chars c.rest = passed ++ chars (c.look stop).cursor.rest ∧
      (∀ ch ∈ passed, isGapBlank ch = true) ∧ (c.look stop).gap = String.ofList passed := by
  have hs := Cursor.look_sees hc stop
  have hextras : (c.gap stop).extras = [] := by
    rw [← List.reverse_eq_nil_iff, ← hs.extras, h]
  obtain ⟨passed, htext, -, hblanks, hall, -⟩ :=
    @Gap.read_plain stop c.budget ⟨c, [], [], false, 0⟩ hfed hextras
  refine ⟨passed, by rw [hs.cursor]; exact htext, hall, ?_⟩
  rw [hs.gap, Gap.spelled, Cursor.gap, hblanks, List.append_nil, List.reverse_reverse]

theorem Cursor.Next.passed (hc : c.repair = none) (hfed : c.Fed) (h : c.Next T) : ∃ passed,
    chars c.rest = passed ++ chars (c.look false).cursor.rest ∧
      (∀ ch ∈ passed, isGapBlank ch = true) ∧ (c.look false).gap = String.ofList passed :=
  Cursor.look_passed hc hfed h.extras

/-- A character that starts no token is one character long. -/
theorem tokenAt_other {gs : List Glyph} (h : (tokenAt gs).1 = .other) : (tokenAt gs).2 = 1 := by
  unfold tokenAt at h ⊢
  split at h
  · cases h
  · dsimp only at h ⊢
    split at h
    · cases h
    · next h₁ =>
      split at h
      · cases h
      · next h₂ =>
        split at h
        · cases h
        · next h₃ =>
          rw [if_neg h₁, if_neg h₂, if_neg h₃]
          split at h
          · cases h
          · rfl

/-- The characters in front of the first blank, or of the tail. -/
def solidFront (u : List Char) : List Char := u.takeWhile fun c => !isBlank c

theorem solidFront_solid (u : List Char) : ∀ c ∈ solidFront u, isBlank c = false := fun c hc => by
  simpa using List.mem_takeWhile_imp hc

/-- No token goes on behind the first blank. -/
theorem length_le_solidFront {gs : List Glyph} {u : List Char} (htext : chars gs = u ++ T)
    (hlength : (tokenAt gs).2 ≤ u.length) (hfirst : ∀ c ∈ u.head?, isBlank c = false) :
    (tokenAt gs).2 ≤ (solidFront u).length := by
  by_cases hother : (tokenAt gs).1 = .other
  · rw [tokenAt_other hother] at hlength ⊢
    cases u with
    | nil => exact hlength
    | cons c u =>
      rw [solidFront, List.takeWhile_cons_of_pos (by simpa using hfirst c rfl)]
      exact Nat.le_add_left ..
  · have hsolid := tokenAt_solid hother
    have hfront : solidLength gs = ((chars gs).takeWhile fun c => !isBlank c).length := by
      rw [← runLength_take, chars, List.length_map, List.length_take]
      exact (Nat.min_eq_left (runLength_le _ gs)).symm
    rw [hfront, htext, List.takeWhile_append] at hsolid
    split at hsolid
    · next hall => exact hlength.trans_eq hall.symm
    · exact hsolid

/-! ## 3. Two cursors -/

/-- The second cursor stands in front of the text that is left before `T` from the first on, closed up;
unless this is to be `exact`, blanks may be skipped, and it may stand as if behind one. What of `whole`
lies before the first may have to be `ended`: its last character is no blank. No repair is to come for the
second, and as many steps are allowed. -/
structure Mirrors (whole T : List Char) (exact ended : Bool) (c c' : Cursor) : Prop where
  repair : c'.repair = none
  budget : c'.budget = c.budget
  text : ∃ skipped left inRun, chars c.rest = skipped ++ left ++ T ∧
    chars c'.rest = collapseChars inRun left ∧ (∀ ch ∈ skipped, isGapBlank ch = true) ∧
      (exact = true → skipped = [] ∧ inRun = false)
  read : ∃ read, whole = read ++ chars c.rest ∧
    (ended = true → ∀ ch ∈ read.getLast?, isBlank ch = false)

variable {whole : List Char} {exact ended : Bool}

theorem Mirrors.mono {exact' ended' : Bool} (h : Mirrors whole T exact ended c c')
    (hexact : exact' = true → exact = true) (hended : ended' = true → ended = true) :
    Mirrors whole T exact' ended' c c' := by
  obtain ⟨skipped, left, inRun, hleft, hright, hskipped, he⟩ := h.text
  obtain ⟨read, hread, hlast⟩ := h.read
  exact ⟨h.repair, h.budget, ⟨skipped, left, inRun, hleft, hright, hskipped, fun h => he (hexact h)⟩,
    read, hread, fun h => hlast (hended h)⟩

theorem Mirrors.exactly (h : Mirrors whole T true ended c c') :
    ∃ left, chars c.rest = left ++ T ∧ chars c'.rest = collapseChars false left := by
  obtain ⟨skipped, left, inRun, hleft, hright, -, he⟩ := h.text
  obtain ⟨rfl, rfl⟩ := he rfl
  exact ⟨left, hleft, hright⟩

theorem Mirrors.fed (h : Mirrors whole T exact ended c c') (hfed : c.Fed) : c'.Fed := by
  obtain ⟨skipped, left, inRun, hleft, hright, -⟩ := h.text
  have hlength := congrArg List.length hleft
  have hlength' := congrArg List.length hright
  have hle := length_collapseChars_le inRun left
  simp only [chars, List.length_map, List.length_append] at hlength hlength'
  unfold Cursor.Fed at hfed ⊢
  rw [h.budget]
  omega

/-! ## 4. What is seen -/

/-- Both cursors see the end of the text, or the tail, at once. -/
theorem Mirrors.look_end (h : Mirrors whole T exact ended c c') (hend : chars c.rest = T)
    (stop : Bool) : (c'.look stop).token = .lineEnd := by
  obtain ⟨skipped, left, inRun, hleft, hright, -⟩ := h.text
  have hnil : left = [] := by
    have hnone := List.self_eq_append_left.mp (hend.symm.trans hleft)
    exact (List.append_eq_nil_iff.mp hnone).2
  have hrest : c'.rest = [] := by simpa [hnil, collapseChars, chars] using hright
  have hgap : c'.gap stop = ⟨c', [], [], false, 0⟩ := Gap.read_nil _ hrest
  rw [Cursor.look_plain h.repair, hgap]
  simp [Gap.sight.ordinary, hrest]

/-- The same token is seen from both cursors. -/
structure Sight.Same (s s' : Sight) : Prop where
  token : s'.token = s.token
  length : s'.length = s.length
  text : chars (s'.cursor.rest.take s'.length) = chars (s.cursor.rest.take s.length)

theorem Sight.Same.refl (s : Sight) : s.Same s := ⟨rfl, rfl, rfl⟩

/-- What is ahead before `T` is seen in the closed-up text, however the gap there is to end. -/
theorem Cursor.Next.look (hc : c.repair = none) (hfed : c.Fed) (hnext : c.Next T)
    (h : Mirrors whole T exact ended c c') (stop : Bool) :
    (c.look false).Same (c'.look stop) ∧ (c'.look stop).extras = [] ∧
      (c'.look stop).supplied = none ∧
      ∀ u, chars (c.look false).cursor.rest = u ++ T →
        chars (c'.look stop).cursor.rest = collapseChars false u := by
  obtain ⟨before, hbefore, hblank, -⟩ := hnext.passed hc hfed
  obtain ⟨first, more, htext, hlength, hsolid, hfirst⟩ := hnext.text
  obtain ⟨skipped, left, inRun, hleft, hright, hskipped, -⟩ := h.text
  -- blanks alone were skipped, so the token was not
  obtain ⟨passed, hsplit, hall⟩ : ∃ passed, left = passed ++ first :: more ∧
      ∀ ch ∈ passed, isGapBlank ch = true := by
    rw [hleft, htext, ← List.append_assoc] at hbefore
    rcases List.append_eq_append_iff.mp (List.append_cancel_right hbefore) with
      ⟨passed, rfl, hleft'⟩ | ⟨_ | ⟨ch, more⟩, hskip, hleft'⟩
    · exact ⟨passed, hleft', fun ch hch => hblank ch (List.mem_append_right _ hch)⟩
    · exact ⟨[], hleft'.symm, nofun⟩
    · have hgap : isGapBlank first = true := hskipped first (by
        rw [hskip, (List.cons.inj hleft').1]
        simp)
      rw [isPassed_of_isGapBlank hgap] at hfirst
      cases hfirst
  have hfed' := h.fed hfed
  rw [hsplit, collapseChars_append inRun hsolid] at hright
  -- what is left of the blanks is passed over there, too
  have hblanks : ∀ ch ∈ collapseChars inRun passed, isGapBlank ch = true ∧ ch ≠ '\n' := by
    intro ch hch
    rcases mem_collapseChars hch with rfl | hno
    · exact ⟨rfl, by decide⟩
    · refine ⟨hall ch (mem_of_mem_collapseChars hch hno), ?_⟩
      rintro rfl
      cases hno
  have hfuel : (collapseChars inRun passed).length < c'.budget := by
    have hlen := congrArg List.length hright
    simp only [chars, List.length_map, List.length_append, List.length_cons] at hlen
    unfold Cursor.Fed at hfed'
    omega
  obtain ⟨hcursor, hextras, hcrossed⟩ := @Gap.read_over stop c'.budget
    ⟨c', [], [], false, 0⟩ _ _ hfuel hright hblanks (by simpa using hfirst)
  have hgap : Gap.read stop c'.budget ⟨c', [], [], false, 0⟩ = c'.gap stop := rfl
  rw [hgap] at hcursor hextras hcrossed
  have hrest : chars (c'.gap stop).cursor.rest = first :: collapseChars false more := by
    rw [hcursor, Cursor.advance_rest, chars, List.map_drop]
    exact (congrArg _ hright).trans (List.drop_left ..)
  -- the token does not go on behind the blank that follows it
  have hagrees : Agrees (solidFront (first :: more)) (c.look false).cursor.rest
      (c'.gap stop).cursor.rest := by
    have hparts : first :: more = solidFront (first :: more) ++
        (first :: more).dropWhile fun c => !isBlank c := List.takeWhile_append_dropWhile.symm
    refine ⟨?_, collapseChars false ((first :: more).dropWhile fun c => !isBlank c), ?_, ?_⟩
    · rw [htext]
      exact (List.takeWhile_prefix _).trans (List.prefix_append ..)
    · rw [hrest, ← collapseChars_solid false hsolid, ← collapseChars_plain (solidFront_solid _),
        ← hparts]
    · cases hdrop : (first :: more).dropWhile fun c => !isBlank c with
      | nil => exact fun _ h => by cases h
      | cons ch rest =>
        have hhead : isBlank ch = true := by
          have hnot := List.head_dropWhile_not (p := fun c => !isBlank c) (l := first :: more)
            (by simp [hdrop])
          simpa [hdrop] using hnot
        intro d hd
        rw [collapseChars, if_pos hhead, if_neg (by decide)] at hd
        rw [← Option.some.inj hd]
        rfl
  have hle : (tokenAt (c.look false).cursor.rest).2 ≤ (solidFront (first :: more)).length := by
    refine length_le_solidFront htext ?_ (by simpa using hsolid)
    rw [hnext.token]
    exact hlength
  have hfront : solidFront (first :: more) ≠ [] := by
    rw [solidFront, List.takeWhile_cons_of_pos (by simpa using hsolid)]
    exact List.cons_ne_nil _ _
  have htoken := hagrees.tokenAt hfront hle
  have hsame : c'.look stop = ⟨(c'.gap stop).extras.reverse, (c'.gap stop).spelled,
      (c'.gap stop).cursor, (c.look false).token, (c.look false).length, none⟩ := by
    rw [Cursor.look_plain h.repair, Gap.sight.ordinary]
    cases hglyphs : (c'.gap stop).cursor.rest with
    | nil =>
      rw [hglyphs] at hrest
      cases hrest
    | cons g rest =>
      have hg : g.char = first := by
        rw [hglyphs] at hrest
        exact (List.cons.inj hrest).1
      have hno : first ≠ '\n' := by
        rintro rfl
        cases hfirst
      rw [hglyphs, hnext.token] at htoken
      simp [hg, hno, hcrossed, htoken]
  rw [hnext.token] at hle
  rw [hsame]
  refine ⟨⟨rfl, rfl, hagrees.take hle⟩, by simp [hextras], rfl, fun u hu => ?_⟩
  rw [htext] at hu
  rw [← List.append_cancel_right hu, hrest, collapseChars_solid false hsolid]

/-- The cursor behind a token that was looked at. -/
def Sight.behind (s : Sight) (c : Cursor) : Cursor :=
  { s.cursor.advance s.length with trail := (s.cursor.offset, s.length) :: c.trail }

@[simp] theorem Sight.chars_behind (s : Sight) (c : Cursor) :
    chars (s.behind c).rest = (chars s.cursor.rest).drop s.length := by
  unfold Sight.behind chars
  rw [Cursor.advance_rest, List.map_drop]

theorem Cursor.look_budget {c : Cursor} (stop : Bool) :
    (c.look stop).cursor.budget = c.budget := (c.look_seen stop).budget

theorem Cursor.look_repair {c : Cursor} (hc : c.repair = none) (stop : Bool) :
    (c.look stop).cursor.repair = none := by
  rcases (c.look_seen stop).repair with h | h
  · exact h.trans hc
  · exact h.1

/-- A piece that closing up leaves as it is stands in both texts. -/
theorem Mirrors.advance {exact' ended' : Bool} {more : List Char} {count : Nat}
    (h : Mirrors whole T true ended c c') (htext : (chars c.rest).drop count = more ++ T)
    (hpiece : collapseChars false ((chars c.rest).take count) = (chars c.rest).take count)
    (hexact : exact' = true → (∀ ch ∈ more.head?, isBlank ch = false) ∨
      ∀ ch ∈ ((chars c.rest).take count).getLast?, isBlank ch = false)
    (hended : ended' = true →
      ∃ ch ∈ ((chars c.rest).take count).getLast?, isBlank ch = false) :
    (chars c'.rest).take count = (chars c.rest).take count ∧
      Mirrors whole T exact' ended' (c.advance count) (c'.advance count) := by
  obtain ⟨left, hleft, hright⟩ := h.exactly
  have hwhole : (chars c.rest).take count ++ (more ++ T) = chars c.rest := by
    rw [← htext, List.take_append_drop]
  have hparts : left = (chars c.rest).take count ++ more := by
    have hsame := hwhole.trans hleft
    rw [← List.append_assoc] at hsame
    exact (List.append_cancel_right hsame).symm
  rw [hparts, collapseChars_parts, hpiece] at hright
  -- where there are fewer characters than that, nothing follows
  have hshort : ((chars c.rest).take count).length = count ∨
      ((chars c.rest).take count).length < count ∧ more = [] := by
    rcases Nat.lt_or_ge (chars c.rest).length count with hlt | hle
    · rw [List.drop_eq_nil_of_le hlt.le] at htext
      exact .inr ⟨by rw [List.length_take]; omega, (List.append_eq_nil_iff.mp htext.symm).1⟩
    · exact .inl (by rw [List.length_take]; omega)
  generalize hrun : ((chars c.rest).take count).getLast?.elim false isBlank = run at hright
  have htake : (chars c'.rest).take count = (chars c.rest).take count := by
    rcases hshort with hfull | ⟨hlt, rfl⟩
    · rw [hright]
      exact List.take_left' hfull
    · rw [hright, collapseChars, List.append_nil]
      exact List.take_of_length_le hlt.le
  have hdrop : (chars c'.rest).drop count = collapseChars run more := by
    rcases hshort with hfull | ⟨hlt, rfl⟩
    · rw [hright]
      exact List.drop_left' hfull
    · rw [hright, collapseChars, List.append_nil]
      exact List.drop_eq_nil_of_le hlt.le
  refine ⟨htake, ?_⟩
  have hrest : ∀ d : Cursor, chars (d.advance count).rest = (chars d.rest).drop count := fun d => by
    rw [Cursor.advance_rest, chars, chars, List.map_drop]
  refine
    { repair := (Cursor.advance_repair ..).trans h.repair
      budget := (Cursor.advance_budget ..).trans (h.budget.trans (Cursor.advance_budget ..).symm)
      text := ?_
      read := ?_ }
  · cases exact' with
    | false => exact ⟨[], more, run, (hrest c).trans htext, (hrest c').trans hdrop,
        List.forall_mem_nil _, (absurd · Bool.false_ne_true)⟩
    | true =>
      refine ⟨[], more, false, (hrest c).trans htext, ((hrest c').trans hdrop).trans ?_,
        List.forall_mem_nil _, fun _ => ⟨rfl, rfl⟩⟩
      rcases hexact rfl with hsolid | hsolid
      · cases more with
        | nil => rfl
        | cons ch more =>
          have hch := hsolid ch rfl
          rw [collapseChars_solid run hch, collapseChars_solid false hch]
      · have hfalse : run = false := by
          rw [← hrun]
          cases hlast : ((chars c.rest).take count).getLast? with
          | none => rfl
          | some ch => exact hsolid ch hlast
        rw [hfalse]
  · obtain ⟨read, hread, -⟩ := h.read
    refine ⟨read ++ (chars c.rest).take count, ?_, fun he ch hch => ?_⟩
    · rw [hrest, List.append_assoc, List.take_append_drop]
      exact hread
    · obtain ⟨d, hd, hsolid⟩ := hended he
      rw [List.getLast?_append, hd] at hch
      rw [← Option.some.inj hch]
      exact hsolid

/-- At the token itself both texts go on from its first character. -/
theorem Cursor.Next.here (hc : c.repair = none) (hfed : c.Fed) (hnext : c.Next T)
    (h : Mirrors whole T exact ended c c') (stop : Bool) :
    Mirrors whole T true false (c.look false).cursor (c'.look stop).cursor := by
  obtain ⟨first, more, htext, -⟩ := hnext.text
  obtain ⟨-, -, -, hrest⟩ := hnext.look hc hfed h stop
  obtain ⟨read, hread, -⟩ := h.read
  obtain ⟨passed, hpassed, -⟩ := hnext.passed hc hfed
  exact
    { repair := Cursor.look_repair h.repair stop
      budget := by rw [Cursor.look_budget, Cursor.look_budget, h.budget]
      text := ⟨[], first :: more, false, htext, hrest _ htext, nofun, fun _ => ⟨rfl, rfl⟩⟩
      read := ⟨read ++ passed, by rw [List.append_assoc, ← hpassed, hread], nofun⟩ }

/-- Behind the token, the closed-up text goes on with what is left, closed up. -/
theorem Cursor.Next.behind (hc : c.repair = none) (hfed : c.Fed) (hnext : c.Next T)
    (h : Mirrors whole T exact ended c c') (stop : Bool) :
    Mirrors whole T true true ((c.look false).behind c) ((c'.look stop).behind c') := by
  obtain ⟨first, more, htext, hlength, hsolid, -⟩ := hnext.text
  obtain ⟨hsame, -⟩ := hnext.look hc hfed h stop
  have hle : (c.look false).length ≤ (solidFront (first :: more)).length := by
    have hle := length_le_solidFront htext (by rw [hnext.token]; exact hlength) (by simpa using hsolid)
    rwa [hnext.token] at hle
  have htake : (chars (c.look false).cursor.rest).take (c.look false).length =
      (first :: more).take (c.look false).length := by
    rw [htext, List.take_append_of_le_length hlength]
  have hfront : ∀ ch ∈ (first :: more).take (c.look false).length, isBlank ch = false := by
    intro ch hch
    refine solidFront_solid (first :: more) ch ?_
    have hprefix := List.prefix_of_prefix_length_le (List.take_prefix _ (first :: more))
      (List.takeWhile_prefix fun c => !isBlank c) (by
        rw [List.length_take]
        exact (Nat.min_le_left ..).trans hle)
    exact hprefix.subset hch
  have hne : (first :: more).take (c.look false).length ≠ [] := by
    have hne : (c.look false).cursor.rest ≠ [] := fun hnil => by
      rw [hnil] at htext
      cases htext
    have hpos := tokenAt_pos hne
    rw [hnext.token] at hpos
    rw [Ne, List.take_eq_nil_iff]
    simp [hpos.ne']
  have hlast : ∃ ch ∈ ((chars (c.look false).cursor.rest).take (c.look false).length).getLast?,
      isBlank ch = false := by
    rw [htake, List.getLast?_eq_some_getLast hne]
    exact ⟨_, rfl, hfront _ (List.getLast_mem hne)⟩
  have hdrop : (chars (c.look false).cursor.rest).drop (c.look false).length =
      (first :: more).drop (c.look false).length ++ T := by
    rw [htext]
    exact List.drop_append_of_le_length hlength
  have hadvance : _ ∧ Mirrors whole T true true _ _ := (hnext.here hc hfed h stop).advance hdrop
    (by rw [htake]; simpa [collapseChars] using @collapseChars_plain _ [] hfront)
    (fun _ => .inr fun ch hch => hfront ch (htake ▸ List.mem_of_getLast? hch)) fun _ => hlast
  unfold Sight.behind
  rw [hsame.length]
  exact ⟨hadvance.2.repair, hadvance.2.budget, hadvance.2.text, hadvance.2.read⟩

/-! ## 5. Line ends that count or do not -/

/-- The gap where line ends count or do not. -/
def Gap.withEnds (ends : Bool) (g : Gap) : Gap := { g with cursor := { g.cursor with ends := ends } }

theorem Cursor.advance_withEnds (c : Cursor) (ends : Bool) (n : Nat) :
    ({ c with ends := ends } : Cursor).advance n = { c.advance n with ends := ends } := by
  induction n generalizing c with
  | zero => rfl
  | succ n ih =>
    obtain ⟨_ | ⟨g, rest⟩, offset, position, indents, brackets, _, repair, trail, budget⟩ := c
    · rfl
    · exact ih ⟨rest, offset + 1, position.after g, indents, brackets, _, repair, trail, budget⟩

theorem Gap.blank_withEnds (ends : Bool) (g : Gap) (ch : Char) (i : Nat) :
    (g.withEnds ends).blank ch i = (g.blank ch i).withEnds ends := by
  simp only [Gap.blank, Gap.withEnds, Cursor.advance_withEnds]

theorem Gap.extra_withEnds (ends : Bool) (g : Gap) (kind : Kind) (count : Nat) :
    (g.withEnds ends).extra kind count = (g.extra kind count).withEnds ends := by
  simp only [Gap.extra, Gap.withEnds, Cursor.advance_withEnds]
  rfl

theorem Gap.read_withEnds (ends stop : Bool) (fuel : Nat) (g : Gap) :
    Gap.read stop fuel (g.withEnds ends) = (Gap.read stop fuel g).withEnds ends := by
  induction fuel generalizing g with
  | zero => rfl
  | succ fuel ih =>
    unfold Gap.read
    have hrest : (g.withEnds ends).cursor.rest = g.cursor.rest := rfl
    rw [hrest]
    cases g.cursor.rest with
    | nil => rfl
    | cons next rest =>
      dsimp only
      simp only [Gap.blank_withEnds, Gap.extra_withEnds, ih]
      split
      · rfl
      split
      · rfl
      split
      · rfl
      split
      · split
        · rfl
        · exact ih { g.blank next.char 0 with crossed := true }
      split
      · rfl
      split
      · split <;> rfl
      split <;> rfl

/-- Whether line ends count does not change what is seen where they do not. -/
theorem Cursor.look_withEnds (hc : c.repair = none) (ends stop : Bool) :
    ({ c with ends := ends } : Cursor).look stop =
      { c.look stop with cursor := { (c.look stop).cursor with ends := ends } } := by
  have hgap : ({ c with ends := ends } : Cursor).gap stop = (c.gap stop).withEnds ends :=
    Gap.read_withEnds ends stop c.budget ⟨c, [], [], false, 0⟩
  rw [Cursor.look_plain hc, Cursor.look_plain (c := { c with ends := ends }) hc, hgap]
  unfold Gap.sight.ordinary
  have hrest : ((c.gap stop).withEnds ends).cursor.rest = (c.gap stop).cursor.rest := rfl
  rw [hrest]
  cases (c.gap stop).cursor.rest with
  | nil => rfl
  | cons next rest =>
    dsimp only
    split
    · rfl
    · change (if (c.gap stop).crossed && c.brackets == 0 && decide ((c.gap stop).indent < c.indent)
        then _ else _) = _
      split <;> rfl

theorem Cursor.Next.withEnds (hc : c.repair = none) (h : c.Next T) (ends : Bool) :
    Cursor.Next T { c with ends := ends } := by
  have hlook := Cursor.look_withEnds hc ends false
  refine ⟨?_, ?_, ?_⟩
  · rw [hlook]
    exact h.extras
  · rw [hlook]
    exact h.token
  · rw [hlook]
    exact h.text

end FluentBuilders.Grammar
