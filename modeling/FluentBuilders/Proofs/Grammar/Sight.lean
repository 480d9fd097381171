import FluentBuilders.Grammar.Reader

/-!
What looking at the next token does to a cursor: it goes forward over blanks and extras, and changes
nothing else but a repair that it meets.

1. `Cursor.advance` field by field, and `Forward`: how far one cursor lies behind another.
2. `Gap.read` only advances, and what it collects are extras.
3. `opensClass`: what the text behind a gap is, if the token there is the word for a class.
4. `Cursor.Seen`: all that holds of a token that was looked at.
5. The characters of a word.
-/

namespace FluentBuilders.Grammar

open Text

/-! ## 1. Going forward -/

/-- Advancing changes the place in the text and nothing else. -/
theorem Cursor.advance_eq (c : Cursor) (n : Nat) :
    ∃ p, c.advance n =
      { c with
        rest := c.rest.drop n, offset := c.offset + (c.rest.take n).length, position := p } := by
  induction n generalizing c with
  | zero => exact ⟨c.position, rfl⟩
  | succ n ih =>
    unfold Cursor.advance
    split
    · next h => exact ⟨c.position, by cases c; simp_all⟩
    · next g rest h =>
      obtain ⟨p, hp⟩ := ih { c with
        rest := rest, offset := c.offset + 1, position := c.position.after g }
      refine ⟨p, hp.trans ?_⟩
      simp only [h, List.drop_succ_cons, List.take_succ_cons, List.length_cons]
      congr 1
      omega

@[simp] theorem Cursor.advance_indents (c : Cursor) (n : Nat) :
    (c.advance n).indents = c.indents := by
  obtain ⟨p, h⟩ := c.advance_eq n
  rw [h]

@[simp] theorem Cursor.advance_brackets (c : Cursor) (n : Nat) :
    (c.advance n).brackets = c.brackets := by
  obtain ⟨p, h⟩ := c.advance_eq n
  rw [h]

@[simp] theorem Cursor.advance_ends (c : Cursor) (n : Nat) : (c.advance n).ends = c.ends := by
  obtain ⟨p, h⟩ := c.advance_eq n
  rw [h]

@[simp] theorem Cursor.advance_repair (c : Cursor) (n : Nat) :
    (c.advance n).repair = c.repair := by
  obtain ⟨p, h⟩ := c.advance_eq n
  rw [h]

@[simp] theorem Cursor.advance_budget (c : Cursor) (n : Nat) :
    (c.advance n).budget = c.budget := by
  obtain ⟨p, h⟩ := c.advance_eq n
  rw [h]

@[simp] theorem Cursor.advance_rest (c : Cursor) (n : Nat) :
    (c.advance n).rest = c.rest.drop n := by
  obtain ⟨p, h⟩ := c.advance_eq n
  rw [h]

theorem Cursor.advance_offset (c : Cursor) (n : Nat) :
    (c.advance n).offset = c.offset + (c.rest.take n).length := by
  obtain ⟨p, h⟩ := c.advance_eq n
  rw [h]

theorem Cursor.advance_add (c : Cursor) (m n : Nat) :
    (c.advance m).advance n = c.advance (m + n) := by
  induction m generalizing c with
  | zero => rw [Nat.zero_add]; rfl
  | succ m ih =>
    rw [Nat.succ_add]
    cases h : c.rest with
    | nil =>
      have hstop : ∀ k, c.advance k = c := by
        intro k
        cases k with
        | zero => rfl
        | succ k => simp [Cursor.advance, h]
      rw [hstop, hstop, hstop]
    | cons g rest =>
      simp only [Cursor.advance, h]
      exact ih _

/-- The cursor `d` lies at `c` or behind it in the same text. -/
def Forward (c d : Cursor) : Prop :=
  ∃ read, c.rest = read ++ d.rest ∧ d.offset = c.offset + read.length

namespace Forward

theorem refl (c : Cursor) : Forward c c := ⟨[], rfl, rfl⟩

theorem trans {c d e : Cursor} (h₁ : Forward c d) (h₂ : Forward d e) : Forward c e := by
  obtain ⟨r₁, t₁, o₁⟩ := h₁
  obtain ⟨r₂, t₂, o₂⟩ := h₂
  refine ⟨r₁ ++ r₂, ?_, ?_⟩
  · rw [t₁, t₂, List.append_assoc]
  · rw [o₂, o₁, List.length_append, Nat.add_assoc]

theorem of_advance (c : Cursor) (n : Nat) : Forward c (c.advance n) :=
  ⟨c.rest.take n, by simp, c.advance_offset n⟩

theorem suffix {c d : Cursor} (h : Forward c d) : d.rest <:+ c.rest := by
  obtain ⟨read, t, -⟩ := h
  exact ⟨read, t.symm⟩

end Forward

/-! ## 2. Gaps -/

/-- A node that may stand between tokens: a comment, a joined line, or text that was passed over. -/
inductive Between : Node → Prop
  | comment (gap text : String) (p : Position) : Between (.leaf .comment .none gap text p)
  | joined (gap text : String) (p : Position) : Between (.leaf .continuation .none gap text p)
  | passed (gap : String) (c : Cursor) (count : Nat) : Between (errorNode gap c count)

/-- What reading a gap keeps: the cursor has only advanced, and comments and joined lines are all
that was collected. -/
structure Gap.Sound (c : Cursor) (g : Gap) : Prop where
  advanced : ∃ n, g.cursor = c.advance n
  extras : ∀ n ∈ g.extras, Between n

theorem Gap.Sound.blank {c : Cursor} {g : Gap} (h : g.Sound c) (ch : Char) (i : Nat) :
    (g.blank ch i).Sound c := by
  obtain ⟨n, hn⟩ := h.advanced
  exact ⟨⟨n + 1, by rw [← Cursor.advance_add, ← hn]; rfl⟩, h.extras⟩

theorem Gap.Sound.extra {c : Cursor} {g : Gap} (h : g.Sound c) {kind : Kind}
    (hkind : kind = .comment ∨ kind = .continuation) (count : Nat) :
    (g.extra kind count).Sound c := by
  obtain ⟨n, hn⟩ := h.advanced
  refine ⟨⟨n + count, by rw [← Cursor.advance_add, ← hn]; rfl⟩, fun m hm => ?_⟩
  rcases List.mem_cons.mp hm with rfl | hm
  · rcases hkind with rfl | rfl
    · exact .comment ..
    · exact .joined ..
  · exact h.extras m hm

theorem Gap.Sound.read {c : Cursor} (stop : Bool) (fuel : Nat) {g : Gap} (h : g.Sound c) :
    (Gap.read stop fuel g).Sound c := by
  induction fuel generalizing g with
  | zero => exact h
  | succ fuel ih =>
    unfold Gap.read
    split
    · exact h
    · dsimp only
      split
      · exact ih (h.blank ..)
      split
      · exact ih (h.blank ..)
      split
      · exact ih (h.blank ..)
      split
      · split
        · exact h
        · exact ih ⟨(h.blank ' ' 0).advanced, h.extras⟩
      split
      · exact ih (h.extra (.inl rfl) _)
      split
      · split
        · exact ih (h.extra (.inr rfl) _)
        · exact h
      split
      · exact ih (h.blank ..)
      · exact h

theorem Cursor.gap_sound (c : Cursor) (stop : Bool) : (c.gap stop).Sound c :=
  .read stop _ ⟨⟨0, rfl⟩, by simp⟩

/-! ## 3. Classes behind a gap -/

/-- The characters of a text. -/
def chars (gs : List Glyph) : List Char := gs.map (·.char)

/-- Whether a gap passes over a character by itself. -/
def isGapBlank (c : Char) : Bool :=
  [' ', '\n', '\t', '\r', '\x0c', '\x0b', '\uFEFF', '\u2060', '\u200B'].contains c

/-- Whether the characters start with the word for a class, and it is not given a value. -/
def startsClass (cs : List Char) : Bool :=
  cs.takeWhile isNameChar == "class".toList && (cs.dropWhile isNameChar).head? != some '='

/-- Whether the word for a class may be the first behind a gap. Comments and joined lines count as if
it were. -/
def opensClass : List Char → Bool
  | [] => false
  | c :: rest =>
    if isGapBlank c then opensClass rest
    else c == '#' || c == '\\' || startsClass (c :: rest)

theorem opensClass_of_startsClass {cs : List Char} (h : startsClass cs = true) :
    opensClass cs = true := by
  cases cs with
  | nil => cases h
  | cons c rest =>
    have hfirst : c = 'c' := by
      unfold startsClass at h
      rw [Bool.and_eq_true, beq_iff_eq, List.takeWhile_cons] at h
      split at h
      · exact (List.cons.inj h.1).1
      · cases h.1
    unfold opensClass
    rw [h, hfirst]
    simp [isGapBlank]

theorem runLength_drop (p : Char → Bool) (gs : List Glyph) :
    chars (gs.drop (runLength p gs)) = (chars gs).dropWhile p := by
  induction gs with
  | nil => rfl
  | cons g rest ih =>
    unfold runLength
    split
    · next h =>
      rw [List.drop_succ_cons, ih]
      exact (List.dropWhile_cons_of_pos (l := chars rest) h).symm
    · next h => exact (List.dropWhile_cons_of_neg (l := chars rest) h).symm

theorem runLength_take (p : Char → Bool) (gs : List Glyph) :
    chars (gs.take (runLength p gs)) = (chars gs).takeWhile p := by
  induction gs with
  | nil => rfl
  | cons g rest ih =>
    unfold runLength
    split
    · next h =>
      rw [List.take_succ_cons, chars, List.map_cons, chars, List.map_cons,
        List.takeWhile_cons_of_pos h]
      exact congrArg _ ih
    · next h => exact (List.takeWhile_cons_of_neg (l := chars rest) h).symm

theorem tokenAt_word {gs : List Glyph} {w : String} (h : (tokenAt gs).1 = .word w) :
    (tokenAt gs).2 = runLength isNameChar gs ∧ (chars gs).takeWhile isNameChar = w.toList ∧
      (chars gs).head? ≠ some '=' := by
  unfold tokenAt at h ⊢
  split at h
  · cases h
  · next g _ =>
    dsimp only at h ⊢
    split at h
    · cases h
    · split at h
      · next h₁ h₂ =>
        rw [if_neg h₁, if_pos h₂]
        injection h with h
        refine ⟨rfl, ?_, fun hhead => ?_⟩
        · rw [← h, String.toList_ofList]
          exact (runLength_take isNameChar _).symm
        · rw [show g.char = '=' from Option.some.inj hhead] at h₂
          exact absurd h₂ (by decide)
      · split at h
        · cases h
        · split at h <;> cases h

/-- Text that starts with characters has them in front. -/
theorem startsWithChars_take {cs : List Char} {gs : List Glyph} (h : startsWithChars cs gs = true) :
    (chars gs).take cs.length = cs := by
  induction cs generalizing gs with
  | nil => rfl
  | cons c cs ih =>
    cases gs with
    | nil => cases h
    | cons g gs =>
      rw [startsWithChars, Bool.and_eq_true, beq_iff_eq] at h
      rw [chars, List.map_cons, List.length_cons, List.take_succ_cons, ← h.1]
      exact congrArg _ (ih h.2)

/-- A mark stands where it was seen. -/
theorem tokenAt_mark {gs : List Glyph} {m : String} (h : (tokenAt gs).1 = .mark m) :
    (tokenAt gs).2 = m.length ∧ (chars gs).take m.length = m.toList := by
  unfold tokenAt at h ⊢
  split at h
  · cases h
  · dsimp only at h ⊢
    split at h
    · cases h
    · next h₁ =>
      split at h
      · cases h
      · next h₂ =>
        split at h
        · cases h
        · next h₃ =>
          rw [if_neg h₁, if_neg h₂, if_neg h₃]
          split at h
          · next hfind =>
            cases h
            refine ⟨rfl, ?_⟩
            rw [← String.length_toList]
            exact startsWithChars_take
              (List.find?_some (p := fun s : String => startsWithChars s.toList _) hfind)
          · cases h

theorem tokenAt_lineEnd {gs : List Glyph} (h : (tokenAt gs).1 = .lineEnd) : gs = [] := by
  unfold tokenAt at h
  split at h
  · rfl
  · dsimp only at h
    split at h
    · cases h
    · split at h
      · cases h
      · split at h
        · cases h
        · split at h <;> cases h

@[simp] theorem Gap.chars_blank (g : Gap) (c : Char) (i : Nat) :
    chars (g.blank c i).cursor.rest = (chars g.cursor.rest).drop 1 := by
  unfold Gap.blank chars
  rw [Cursor.advance_rest, List.map_drop]

/-- A gap that leads to the word for a class starts where one may open. -/
theorem Gap.read_opens (stop : Bool) (fuel : Nat) (g : Gap)
    (h : startsClass (chars (Gap.read stop fuel g).cursor.rest) = true) :
    opensClass (chars g.cursor.rest) = true := by
  induction fuel generalizing g with
  | zero => exact opensClass_of_startsClass h
  | succ fuel ih =>
    unfold Gap.read at h
    split at h
    · exact opensClass_of_startsClass h
    · next next rest hrest =>
      have hchars : chars g.cursor.rest = next.char :: chars rest := by rw [hrest]; rfl
      have hblank : ∀ ch i, opensClass (chars (g.blank ch i).cursor.rest) = true →
          isGapBlank next.char = true → opensClass (chars g.cursor.rest) = true := by
        intro ch i hopens hc
        rw [Gap.chars_blank, hchars, List.drop_one, List.tail_cons] at hopens
        rw [hchars, opensClass, if_pos hc, hopens]
      have hextra : next.char = '#' ∨ next.char = '\\' → opensClass (chars g.cursor.rest) = true := by
        intro hc
        rw [hchars, opensClass]
        rcases hc with hc | hc <;> rw [hc] <;> rfl
      dsimp only at h
      split at h
      · next hc => exact hblank _ _ (ih _ h) (by rw [hc]; rfl)
      split at h
      · next hc => exact hblank _ _ (ih _ h) (by rw [hc]; rfl)
      split at h
      · next hc => exact hblank _ _ (ih _ h) (by rcases hc with hc | hc <;> rw [hc] <;> rfl)
      split at h
      · next hc =>
        split at h
        · exact opensClass_of_startsClass h
        · exact hblank next.char 0 (ih { g.blank next.char 0 with crossed := true } h)
            (by rw [hc]; rfl)
      split at h
      · next hc => exact hextra (.inl hc)
      split at h
      · next hc => exact hextra (.inr hc)
      split at h
      · next hc =>
        refine hblank _ _ (ih _ h) ?_
        rcases hc with hc | hc | hc | hc <;> rw [hc] <;> rfl
      · exact opensClass_of_startsClass h

/-- No gap passes over an equals sign. -/
theorem Gap.read_equals (stop : Bool) (fuel : Nat) (g : Gap)
    (h : (chars g.cursor.rest).head? = some '=') : Gap.read stop fuel g = g := by
  cases fuel with
  | zero => rfl
  | succ fuel =>
    unfold Gap.read
    split
    · rfl
    · next next rest hrest =>
      have hchar : next.char = '=' := by
        rw [hrest] at h
        exact Option.some.inj h
      simp [hchar]

/-! ## 4. Tokens that were looked at -/

/-- The token stands in the text as it is: it was not supplied, and nothing was passed over before
it. -/
structure Sight.Untouched (s : Sight) : Prop where
  supplied : s.supplied = none
  extras : ∀ n ∈ s.extras, n.kind ≠ .error

/-- What holds of a token that was looked at from the cursor `c`. -/
structure Cursor.Seen (c : Cursor) (s : Sight) : Prop where
  forward : Forward c s.cursor
  budget : s.cursor.budget = c.budget
  extras : ∀ n ∈ s.extras, Between n
  /-- A repair is met or stays; one that is met shows in the tree. -/
  repair : s.cursor.repair = c.repair ∨
    s.cursor.repair = none ∧ (s.supplied.isSome ∨ ∃ n ∈ s.extras, n.kind = .error)
  /-- A word of the text consists of its characters. -/
  word : ∀ w, s.token = .word w → s.supplied = none →
    s.length = runLength isNameChar s.cursor.rest ∧
      (chars s.cursor.rest).takeWhile isNameChar = w.toList
  /-- The end of a line is never supplied. -/
  ends : s.token = .lineEnd → s.supplied = none ∧ (s.cursor.rest = [] ∨
    (chars s.cursor.rest).head? = some '\n')
  /-- A mark stands in the text, unless it was supplied. -/
  mark : ∀ m, s.token = .mark m → s.supplied = none →
    s.length = m.length ∧ (chars s.cursor.rest).take m.length = m.toList
  /-- Where the word for a class was seen behind a gap, a class may open. -/
  opens : s.token = .word "class" → s.Untouched →
    ((chars s.cursor.rest).dropWhile isNameChar).head? ≠ some '=' →
      opensClass (chars c.rest) = true
  /-- No word is seen in the place of an equals sign. -/
  equals : ∀ w, s.token = .word w → s.Untouched → (chars c.rest).head? ≠ some '='

/-- What a token that stands in the text tells of the text behind it. -/
structure Stands (gs : List Glyph) (t : Token) (length : Nat) : Prop where
  word : ∀ w, t = .word w →
    length = runLength isNameChar gs ∧ (chars gs).takeWhile isNameChar = w.toList ∧
      (chars gs).head? ≠ some '='
  ends : t = .lineEnd → gs = [] ∨ (chars gs).head? = some '\n'
  mark : ∀ m, t = .mark m → length = m.length ∧ (chars gs).take m.length = m.toList

theorem Stands.lineEnd {gs : List Glyph} (h : gs = [] ∨ (chars gs).head? = some '\n') :
    Stands gs .lineEnd 0 := ⟨fun w hw => (by cases hw), fun _ => h, fun _ h => by cases h⟩

theorem Stands.dedent (gs : List Glyph) : Stands gs .dedent 0 :=
  ⟨fun w hw => (by cases hw), fun h => (by cases h), fun _ h => by cases h⟩

theorem stands_tokenAt (gs : List Glyph) : Stands gs (tokenAt gs).1 (tokenAt gs).2 where
  word _ h := tokenAt_word h
  ends h := .inl (tokenAt_lineEnd h)
  mark _ h := tokenAt_mark h

/-- What a gap leads to, told from the cursor `c` where the gap starts. -/
theorem Gap.Sound.sight {c : Cursor} {g : Gap} (h : g.Sound c) (stop : Bool)
    (hopens : startsClass (chars g.cursor.rest) = true → opensClass (chars c.rest) = true)
    (hequals : (chars c.rest).head? = some '=' → g.cursor = c) : c.Seen (g.sight c stop) := by
  obtain ⟨n, hn⟩ := h.advanced
  have hplain : ∀ t l, Stands g.cursor.rest t l →
      c.Seen ⟨g.extras.reverse, g.spelled, g.cursor, t, l, none⟩ := fun t l ht =>
    { forward := hn ▸ .of_advance c n
      budget := by simp [hn]
      extras := fun m hm => h.extras m (List.mem_reverse.mp hm)
      repair := .inl (by simp [hn])
      word := fun w hw _ => ⟨(ht.word w hw).1, (ht.word w hw).2.1⟩
      ends := fun hend => ⟨rfl, ht.ends hend⟩
      mark := fun m hm _ => ht.mark m hm
      opens := fun hclass _ hvalue => hopens (by
        unfold startsClass
        rw [(ht.word _ hclass).2.1]
        simpa using hvalue)
      equals := fun w hw _ hhead => (ht.word w hw).2.2 (by rw [hequals hhead]; exact hhead) }
  have hordinary : c.Seen (Gap.sight.ordinary c stop g fun t l =>
      ⟨g.extras.reverse, g.spelled, g.cursor, t, l, none⟩) := by
    unfold Gap.sight.ordinary
    split
    · next hrest => exact hplain _ _ (.lineEnd (.inl hrest))
    · next next rest hrest =>
      split
      · next hstop =>
        rw [Bool.and_eq_true, decide_eq_true_eq] at hstop
        refine hplain _ _ (.lineEnd (.inr ?_))
        rw [hrest, chars, List.map_cons, hstop.2]
        rfl
      split
      · exact hplain _ _ (.dedent _)
      · exact hplain _ _ (stands_tokenAt _)
  unfold Gap.sight
  dsimp only
  split
  · split
    · exact
        { forward := .refl c
          budget := rfl
          extras := by simp
          repair := .inr ⟨rfl, .inl rfl⟩
          word := fun w _ hs => by cases hs
          ends := fun h => by
            unfold suppliedToken at h
            split at h <;> cases h
          mark := fun _ _ hs => by cases hs
          opens := fun _ hs => (by cases hs.supplied)
          equals := fun _ _ hs => by cases hs.supplied }
    · exact hordinary
  · exact hordinary

/-- What the gap at a cursor leads to. -/
theorem Cursor.gap_sight (c : Cursor) (stop : Bool) : c.Seen ((c.gap stop).sight c stop) :=
  (c.gap_sound stop).sight stop (fun h => Gap.read_opens stop _ _ h) fun h => by
    unfold Cursor.gap
    rw [Gap.read_equals stop _ _ h]

theorem Cursor.look_seen (c : Cursor) (stop : Bool) : c.Seen (c.look stop) := by
  unfold Cursor.look
  dsimp only
  split
  · next offset count _ =>
    split
    · obtain ⟨n, hn⟩ := (c.gap_sound stop).advanced
      -- the sight behind the text that was dropped, told from there
      have hb := ({ (c.gap stop).cursor.advance count with repair := none } : Cursor).gap_sight stop
      have hgap : Forward c { (c.gap stop).cursor.advance count with repair := none } := by
        have h := Forward.of_advance c (n + count)
        rw [← Cursor.advance_add, ← hn] at h
        exact h
      refine
        { forward := hgap.trans hb.forward
          budget := ?_
          extras := fun m hm => ?_
          repair := .inr ⟨?_, .inr ⟨_, List.mem_append_right _ List.mem_cons_self, rfl⟩⟩
          word := hb.word
          ends := hb.ends
          mark := hb.mark
          opens := fun _ hs =>
            absurd rfl (hs.extras _ (List.mem_append_right _ List.mem_cons_self))
          equals := fun _ _ hs =>
            absurd rfl (hs.extras _ (List.mem_append_right _ List.mem_cons_self)) }
      · exact hb.budget.trans (by simp [hn])
      · rcases List.mem_append.mp hm with hm | hm
        · exact (c.gap_sound stop).extras m (List.mem_reverse.mp hm)
        rcases List.mem_cons.mp hm with rfl | hm
        · exact .passed ..
        · exact hb.extras m hm
      · rcases hb.repair with h | h
        · exact h
        · exact h.1
    · exact c.gap_sight stop
  · exact c.gap_sight stop

/-- The sign of a decorator stands in the text, unless it was supplied. -/
theorem Cursor.Seen.sign {c : Cursor} {s : Sight} (hs : c.Seen s) (h : s.token = .mark "@")
    (hsupplied : s.supplied = none) : (chars s.cursor.rest).head? = some '@' := by
  have hfirst := congrArg List.head? (hs.mark "@" h hsupplied).2
  rwa [List.head?_take, if_neg (by decide)] at hfirst

/-! ## 5. Words -/

/-- As many characters as satisfy `p` are spelled, and all of them do. -/
theorem runLength_spell (p : Char → Bool) (c : Cursor) :
    ∀ ch ∈ (c.spell (runLength p c.rest)).toList, p ch = true := by
  unfold Cursor.spell
  rw [String.toList_ofList]
  induction c.rest with
  | nil => simp [runLength]
  | cons g rest ih =>
    unfold runLength
    split
    · next h =>
      intro ch hch
      rw [List.take_succ_cons, List.map_cons, List.mem_cons] at hch
      rcases hch with rfl | hch
      · exact h
      · exact ih ch hch
    · simp

/-- No character of a name is a dot. -/
theorem isNameChar_dot : isNameChar '.' = false := by decide

end FluentBuilders.Grammar
