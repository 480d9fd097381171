import FluentBuilders.Proofs.Grammar.Echo.Operators

/-!
Replacement fields of strings, and with them whole annotations, of a text whose blanks are closed up.

1. The format of a field.
2. The conversion of its value.
3. Fields.
4. All depths.
-/

namespace FluentBuilders.Grammar

open Text

variable {whole T : List Char} {exact ended : Bool} {c c' : Cursor} {k : Knot}

/-! ## 1. Formats -/

/-- What follows is no blank, and `T` is behind it. -/
def Cursor.Firm (T : List Char) (c : Cursor) : Prop :=
  ∃ x v, chars c.rest = x :: (v ++ T) ∧ isBlank x = false

theorem Cursor.Firm.solid (h : c.Firm T) : c.Solid T := by
  obtain ⟨x, v, htext, hx⟩ := h
  exact ⟨x :: v, htext, fun ch hch => by rwa [← Option.some.inj hch]⟩

/-- Whether a character belongs to the format of a field as it is. -/
def isFormat (x : Char) : Bool := x ≠ '\x7b' && x ≠ '\x7d' && x ≠ '\n'

/-- A piece of a format is as long in the closed-up text, and a field follows it there, too. -/
theorem Mirrors.formatLength (h : Mirrors whole T true ended c c')
    (hpiece : collapseChars false ((chars c.rest).take (runLength isFormat c.rest)) =
      (chars c.rest).take (runLength isFormat c.rest))
    (hfirm : (c.advance (runLength isFormat c.rest)).Firm T) :
    runLength isFormat c'.rest = runLength isFormat c.rest ∧
      startsWithChars ['\x7b'] c'.rest = startsWithChars ['\x7b'] c.rest := by
  generalize hcount : runLength isFormat c.rest = count at hpiece hfirm ⊢
  obtain ⟨x, v, htext, hx⟩ := hfirm
  rw [Cursor.advance_rest, chars, List.map_drop, ← chars] at htext
  obtain ⟨left, hleft, hright⟩ := h.exactly
  have hparts : chars c.rest = (chars c.rest).take count ++ [x] ++ (v ++ T) := by
    rw [List.append_assoc, List.singleton_append, ← htext, List.take_append_drop]
  have hright' : chars c'.rest = (chars c.rest).take count ++ [x] ++ collapseChars false v := by
    have hleft' : left = (chars c.rest).take count ++ x :: v := by
      have hsame := hleft.symm.trans hparts
      rw [← List.append_assoc] at hsame
      simpa using List.append_cancel_right hsame
    rw [hright, hleft', collapseChars_append _ hx, hpiece, List.append_assoc, List.singleton_append]
  have hlength : ((chars c.rest).take count).length = count := by
    rw [List.length_take, chars, List.length_map, ← hcount]
    exact Nat.min_eq_left (runLength_le _ _)
  constructor
  · rw [runLength_congr hparts hright' (by rw [hcount]; simp [hlength]), hcount]
  · exact startsWithChars_congr hparts hright' (.inl (by simp))

/-- What a field starts with is firm if `T` is behind it. -/
theorem firm_of_startsWith (hstarts : startsWithChars ['\x7b'] c.rest = true)
    (hT : T <:+ (chars c.rest).drop 1) : c.Firm T := by
  obtain ⟨v, hv⟩ := hT
  have htake : (chars c.rest).take 1 = ['\x7b'] := startsWithChars_take hstarts
  refine ⟨'\x7b', v, ?_, by decide⟩
  rw [hv, ← List.singleton_append, ← htake, List.take_append_drop]

/-- What holds in the middle of a format: unless more of it follows, what follows is firm. -/
def Formats (T : List Char) (f : Fragment) (c : Cursor) : Prop :=
  f.Stays ∧ c.Within T ∧ (runLength isFormat c.rest = 0 → c.Firm T)

theorem formatSpecification_eq (k : Knot) : formatSpecification k = repeating [] fun sofar => do
    let c ← get
    let count := runLength isFormat c.rest
    if count > 0 then return some (sofar ++ (← stringPiece count))
    else if startsWithChars ['\x7b'] c.rest then return some (sofar ++ (← k.interpolation))
    else return none := rfl

/-- Behind a run of characters no other is left to it. -/
theorem runLength_behind (p : Char → Bool) (gs : List Glyph) :
    runLength p (gs.drop (runLength p gs)) = 0 := by
  induction gs with
  | nil => rfl
  | cons g rest ih =>
    by_cases h : p g.char = true
    · rw [show runLength p (g :: rest) = runLength p rest + 1 from if_pos h, List.drop_succ_cons, ih]
    · rw [show runLength p (g :: rest) = 0 from if_neg h, List.drop_zero]
      exact if_neg h

/-- The format of a field, up to what is no blank. -/
theorem formatSpecification_echo (hk : k.Echoes whole T) :
    Echoes (Mirrors whole T true false) (formatSpecification k) (formatSpecification k) c
      (Formats T) (c.Within T) (Mirrors whole T true false) := by
  rw [formatSpecification_eq]
  refine Echoes.weaken (.repeating (F := Formats T) (fun _ _ h => h.budget)
    (fun sofar sofar' c₁ hsofar => ?_) (.refl _)) (fun _ _ => id) fun _ _ _ h => h.2.1
  generalize hcount : runLength isFormat c₁.rest = count
  refine Echoes.weaken (H := Formats T sofar c₁ ∧
      collapseChars false ((chars c₁.rest).take count) = (chars c₁.rest).take count ∧
        (c₁.advance count).Firm T)
    (.get ?_ fun c' hc hc' hH => ?_) (fun _ _ => id) fun _ _ _ h => h.1
  · dsimp only
    rw [hcount]
    split
    · refine .bindOf (stringPiece_place count) (stringPiece_echoes count false nofun)
        fun f f' c₂ hf hplace => .pure (alike_some.mpr (hsofar.append hf)) (fun hF => ?_) fun _ => id
      obtain ⟨hstays, hwithin, hfirm⟩ := hF
      rw [Option.getD_some, stays_append] at hstays
      have hfirm := hfirm (by rw [hplace, Cursor.advance_rest, ← hcount, runLength_behind])
      refine ⟨⟨hstays.2, hwithin, .inr hfirm.solid⟩, fun h => ⟨⟨hstays.1, ?_, fun hzero => ?_⟩, h.2, ?_⟩⟩
      · exact h.1.trans (List.drop_suffix ..)
      · omega
      · exact hplace ▸ hfirm
    split
    · next hzero hopen =>
      have hnone : count = 0 := by omega
      refine (hk.interpolation c₁ hopen).bind fun f f' c₂ hf =>
        .pure (alike_some.mpr (hsofar.append hf)) (fun hF => ?_) fun _ h => h.mono id nofun
      obtain ⟨hstays, hwithin, -⟩ := hF
      rw [Option.getD_some, stays_append] at hstays
      refine ⟨⟨hstays.2, hwithin⟩, fun h => ?_⟩
      have hfirm := firm_of_startsWith hopen h
      exact ⟨⟨hstays.1, hfirm.solid.within, fun _ => hfirm⟩, by simp [hnone, collapseChars],
        hnone ▸ hfirm⟩
    · next hzero hopen =>
      have hnone : count = 0 := by omega
      exact .pure rfl (fun hF => ⟨hF, by simp [hnone, collapseChars], hnone ▸ hF.2.2 (hnone ▸ hcount)⟩)
        fun _ => id
  · subst hcount
    obtain ⟨hlength, hfield⟩ := hc'.formatLength hH.2.1 hH.2.2
    dsimp only
    rw [hlength, hfield]

/-! ## 2. Conversions -/

/-- A character that starts no token is taken together with the one behind it. -/
theorem conversion_echo {s s' : Sight} (hs : c.look false = s) (htoken : s.token = .other)
    (hmark : s.cursor.spell 1 = "!") :
    Echoes (Looks (Mirrors whole T exact ended) s') (takeLength s .stringPart 2)
      (takeLength s' .stringPart 2) c (Taken T) (c.Next T) (Mirrors whole T false false) := by
  subst hs
  intro f d hc e
  have hsees := Cursor.look_sees hc.repair false
  have hseen := c.look_seen false
  have htake : ∀ (c : Cursor) (s : Sight), s.supplied = none → takeLength s .stringPart 2 c =
      .ok (s.extras ++ [.leaf .stringPart .none s.gap (s.cursor.spell 2) s.cursor.position],
        { s.cursor.advance 2 with trail := (s.cursor.offset, 2) :: c.trail }) := by
    intro c s hs
    unfold takeLength
    rw [hs]
    rfl
  cases (htake c _ hsees.supplied).symm.trans e
  have hplain : ({ (c.look false).cursor.advance 2 with
      trail := ((c.look false).cursor.offset, 2) :: c.trail } : Cursor).Plain :=
    ⟨(Cursor.advance_repair ..).trans (Cursor.look_repair hc.repair false),
      hc.fed.forward (d := (c.look false).cursor.advance 2) (hseen.forward.trans (.of_advance ..))
        ((Cursor.advance_budget ..).trans hseen.budget)⟩
  refine ⟨hplain, fun hF => ?_⟩
  obtain ⟨hstays, more, hmore⟩ := hF
  rw [stays_append] at hstays
  have hextras : (c.look false).extras = [] := by
    cases hcons : (c.look false).extras with
    | nil => rfl
    | cons n rest =>
      have hn := Node.isExtra_of_stays (Node.everywhereIn_iff.mp hstays.1 n (by simp [hcons])).here
      rw [(hseen.extras n (by simp [hcons])).isExtra] at hn
      cases hn
  have hbehind : (chars (c.look false).cursor.rest).drop 2 = more ++ T := by
    rw [hmore]
    change _ = chars ((c.look false).cursor.advance 2).rest
    rw [Cursor.advance_rest, chars, chars, List.map_drop]
  have hone : (chars (c.look false).cursor.rest).take 1 = ['!'] := by
    rw [← Cursor.spell_toList, hmark]
    rfl
  have htext : chars (c.look false).cursor.rest =
      '!' :: (((chars (c.look false).cursor.rest).take 2).drop 1 ++ more) ++ T := by
    have hfront := List.take_append_drop 1 ((chars (c.look false).cursor.rest).take 2)
    rw [List.take_take, Nat.min_eq_left (by decide), hone] at hfront
    have hall := List.take_append_drop 2 (chars (c.look false).cursor.rest)
    rw [hbehind, ← hfront] at hall
    exact hall.symm.trans (List.append_assoc ..).symm
  have hlength : (c.look false).length = 1 := by
    have h := hsees.other htoken
    rw [← show (tokenAt (c.look false).cursor.rest).2 = (c.look false).length from congrArg Prod.snd h]
    exact tokenAt_other (by rw [h]; exact htoken)
  have hnext : c.Next T :=
    { extras := hextras
      token := hsees.other htoken
      text := ⟨_, _, htext, by simp [hlength], by decide, by decide⟩ }
  refine ⟨hnext, fun c' hc' => ?_⟩
  obtain ⟨hmirrors, stop, rfl⟩ := hc'
  obtain ⟨hsame, hextras', hsupplied, -⟩ := hnext.look hc.repair hc.fed hmirrors stop
  have hleaf := (Node.everywhereIn_iff.mp hstays.2 _ List.mem_cons_self).here
  simp only [Node.stays, Node.isClosedUp, Bool.and_eq_true, beq_iff_eq, Cursor.spell_toList] at hleaf
  have hadvance : _ ∧ Mirrors whole T false false _ _ :=
    (hnext.here hc.repair hc.fed hmirrors stop).advance hbehind hleaf.2.1
      (absurd · Bool.false_ne_true) (absurd · Bool.false_ne_true)
  refine ⟨_, _, htake c' _ hsupplied, ?_, ?_⟩
  · have hspell : (c'.look stop).cursor.spell 2 = (c.look false).cursor.spell 2 := by
      rw [← String.toList_inj, Cursor.spell_toList, Cursor.spell_toList, hadvance.1]
    rw [hextras, hextras', hspell]
    rfl
  · exact ⟨hadvance.2.repair, hadvance.2.budget, hadvance.2.text, hadvance.2.read⟩

/-! ## 3. Fields -/

/-- The leaf of a mark that was taken has the blanks before it. -/
theorem mark_shape (m : String) (hc : c.repair = none) : Ensures (mark m) c fun f _ => ∃ text p,
    f = (c.look false).extras ++ [.leaf .mark .none (c.look false).gap text p] := by
  unfold mark
  refine Ensures.get (f := fun c => if (c.look false).isMark m then take (c.look false) .mark
    else failAt (c.look false)) ?_
  split
  · unfold take takeLength
    refine .get ?_
    rw [(Cursor.look_sees hc false).supplied]
    exact .set (.pure ⟨_, _, rfl⟩)
  · exact .failAt _

/-- In a field that stays no line ends right before the closing brace. -/
theorem startsLine_of_field {f : Fragment} {n : Node} (hn : n.isExtra = false)
    (h : Fragment.Stays (branch .interpolation (f ++ [n]))) : n.startsLine = false := by
  obtain ⟨before, inner, after, e, hbranch, hends⟩ :=
    enclose_parts Node.isExtra .interpolation (f ++ [n])
  have hlast : inner.getLast? = some n := by
    have hall := congrArg List.getLast? e
    rw [List.getLast?_concat, List.getLast?_append, List.getLast?_append] at hall
    have hloose : ∀ l : List Node, (∀ m ∈ l, m.isExtra = true) → l.getLast? ≠ some n := by
      intro l hl hsome
      rw [hl n (List.mem_of_getLast? hsome)] at hn
      cases hn
    have hafter := hloose after fun m hm => hends m (List.mem_append_right _ hm)
    have hbefore := hloose before fun m hm => hends m (List.mem_append_left _ hm)
    cases ha : after.getLast? with
    | some m => rw [ha] at hall hafter; exact absurd hall.symm hafter
    | none =>
      rw [ha, Option.none_or] at hall
      cases hi : inner.getLast? with
      | some m => rw [hi] at hall; exact hall.symm
      | none => rw [hi, Option.none_or] at hall; exact absurd hall.symm hbefore
  have h : Fragment.Stays (before ++ .tree .interpolation .none inner :: after) := hbranch ▸ h
  have hnode := (Node.everywhereIn_iff.mp h (.tree .interpolation .none inner) (by simp)).here
  simp only [Node.stays, Node.isClosedUp, hlast, Bool.and_eq_true, Bool.or_eq_true] at hnode
  simpa using hnode.2

/-- Where no line ends before a token, either more of a format follows or the token itself. -/
theorem Cursor.Next.firm (hc : c.Plain) (h : c.Next T) (hgap : '\n' ∉ (c.look false).gap.toList)
    (hzero : runLength isFormat c.rest = 0) : c.Firm T := by
  obtain ⟨passed, htext, hblank, hspelled⟩ := h.passed hc.repair hc.fed
  obtain ⟨first, more, hfirst, -, hsolid, -⟩ := h.text
  rw [hspelled, String.toList_ofList] at hgap
  cases passed with
  | nil => exact ⟨first, more, htext.trans hfirst, hsolid⟩
  | cons b passed =>
    have hb := hblank b List.mem_cons_self
    have hformat : isFormat b = false := by
      obtain ⟨g, rest, hrest, rfl, -⟩ := chars_cons htext
      rw [hrest, runLength] at hzero
      split at hzero
      · exact absurd hzero (Nat.succ_ne_zero _)
      · next hno => exact Bool.eq_false_iff.mpr hno
    have hline : b ≠ '\n' := fun hline => hgap (hline ▸ List.mem_cons_self)
    have hbrace : b = '\x7b' ∨ b = '\x7d' := by
      simpa [isFormat, hline, Decidable.or_iff_not_imp_left] using hformat
    rcases hbrace with rfl | rfl <;> cases hb

variable {before before' : Fragment}

/-- The end of a field: its closing brace, with no line end before it. -/
theorem fieldEnd_echo (hbefore : Alike before before') :
    Echoes (Mirrors whole T false false)
      (do
        let closing ← mark "\x7d"
        modify fun c => { c with brackets := c.brackets - 1 }
        return branch .interpolation (before ++ closing))
      (do
        let closing ← mark "\x7d"
        modify fun c => { c with brackets := c.brackets - 1 }
        return branch .interpolation (before' ++ closing)) c (Taken T)
      (before.Stays ∧ c.Next T ∧ (c.look false).token = .mark "\x7d" ∧
        '\n' ∉ (c.look false).gap.toList) (Mirrors whole T true true) := by
  refine .plain fun hc => ?_
  refine .bindOf (mark_shape "\x7d" hc.repair) (mark_echoes "\x7d")
    fun closing closing' c₁ hclosing hshape => .modify (fun _ => ⟨rfl, rfl, rfl⟩) ?_
  refine .pure ((hbefore.append hclosing).branch _) (fun hF => ?_) fun _ => id
  obtain ⟨text, p, rfl⟩ := hshape
  have hstays := stays_append.mp (stays_of_branch hF.1)
  refine ⟨⟨hstays.2, hF.2⟩, fun h => ⟨hstays.1, h.1, h.2, fun hline => ?_⟩⟩
  have hstarts := startsLine_of_field rfl (List.append_assoc .. ▸ hF.1)
  simp [Node.startsLine, hline] at hstarts

/-- The format of a field with its colon, if there is one, and the end of the field. -/
theorem fieldFormat_echo (hk : k.Echoes whole T) (hbefore : Alike before before') :
    let rest (before : Fragment) : Reader Fragment := do
      let s ← look
      let specification ←
        if s.isMark ":" then do
          let colon ← take s .mark
          pure (colon ++ (← formatSpecification k))
        else pure []
      let closing ← mark "\x7d"
      modify fun c => { c with brackets := c.brackets - 1 }
      return branch .interpolation (before ++ specification ++ closing)
    Echoes (Mirrors whole T false false) (rest before) (rest before') c (Taken T)
      (before.Stays ∧ c.Ahead T stops) (Mirrors whole T true true) := by
  refine .look_next fun s s' hs hs' => ?_
  rw [isMark_same hs'.token]
  split
  · next hcolon =>
    have htoken := token_of_isMark hcolon
    refine (Echoes.takeExact hs (htoken ▸ rfl)).bind fun colon colon' c₁ hcolon => ?_
    refine ((formatSpecification_echo hk).mono (fun _ _ => id) (fun _ _ _ => id)
      (fun _ h => h.mono id nofun) fun _ _ => id).bind fun f f' c₂ hf => .plain fun hc₂ => ?_
    refine (fieldEnd_echo (hbefore.append (hcolon.append hf))).mono (fun _ _ => id)
      (fun _ _ _ h => ?_) (fun _ h => h.mono nofun id) fun _ _ => id
    obtain ⟨hstays, hnext, -, hgap⟩ := h
    simp only [stays_append] at hstays
    refine ⟨⟨hstays.2.2, hnext.within, hnext.firm hc₂ hgap⟩, fun h₁ => ⟨⟨hstays.2.1, h₁⟩,
      fun h => ⟨h, hstays.1, h.ahead ?_⟩⟩⟩
    rw [hs, htoken]
    decide
  · refine Echoes.looked ((fieldEnd_echo (hbefore.append (.refl []))).weaken (fun _ _ => id)
      fun _ _ _ h => ⟨h.2.1, (stays_append.mp h.1).1, h.2.1.ahead ?_⟩)
    rw [h.2.2.1]
    decide

/-- A conversion is seen in both texts. -/
theorem conversion_same {s s' : Sight} (hc : c.repair = none) (hs : c.look false = s)
    (hs' : s.Same s') : (s'.token == .other && s'.cursor.spell 1 == "!") =
      (s.token == .other && s.cursor.spell 1 == "!") := by
  rw [hs'.token]
  by_cases htoken : s.token = .other
  · subst hs
    have h := (Cursor.look_sees hc false).other htoken
    have hlength : (c.look false).length = 1 := by
      rw [← show (tokenAt (c.look false).cursor.rest).2 = (c.look false).length from
        congrArg Prod.snd h]
      exact tokenAt_other (by rw [h]; exact htoken)
    have hspell := hs'.text
    rw [hs'.length, hlength] at hspell
    unfold Cursor.spell
    unfold chars at hspell
    rw [hspell]
  · rw [beq_false_of_ne htoken, Bool.false_and, Bool.false_and]

/-- A replacement field of a string. -/
theorem interpolation_echo (hk : k.Echoes whole T)
    (hopen : startsWithChars ['\x7b'] c.rest = true) :
    Echoes (Mirrors whole T true false) (interpolation k) (interpolation k) c (Taken T)
      (T <:+ (chars c.rest).drop 1) (Mirrors whole T true true) := by
  unfold interpolation
  refine (stringPiece_echoes 1 true fun _ => ?_).bind
    fun opening opening' c₁ hopening => .modify (fun _ => ⟨rfl, rfl, rfl⟩) ?_
  · rw [show (chars c.rest).take 1 = ['\x7b'] from startsWithChars_take hopen]
    exact ⟨_, rfl, by decide⟩
  refine ((members_echo hk true).mono (fun _ _ => id) (fun _ _ _ => id)
    (fun _ h => h.mono nofun id) fun _ _ => id).bind fun r r' c₂ hr => ?_
  obtain ⟨value, several⟩ := r
  obtain ⟨value', _⟩ := r'
  obtain ⟨hvalue, -⟩ := alike_prod.mp hr
  refine .look_next fun s s' hs hs' => ?_
  extract_lets afterEquals afterEquals'
  have hafterEquals : ∀ (equals equals' : Fragment) (c₃ : Cursor), Alike equals equals' →
      Echoes (Mirrors whole T false false) (afterEquals equals) (afterEquals' equals') c₃ (Taken T)
        ((opening.Stays ∧ Fragment.Stays value ∧ equals.Stays) ∧ c₃.Ahead T stops)
        (Mirrors whole T true true) := by
    intro equals equals' c₃ hequals
    refine .plain fun hc₃ => .look_next fun s s' hs hs' => ?_
    rw [conversion_same hc₃.repair hs hs']
    have hall := (hopening.append hvalue).append hequals
    split
    · next hconversion =>
      obtain ⟨hother, hmark⟩ := Bool.and_eq_true_iff.mp hconversion
      refine (conversion_echo hs (eq_of_beq hother) (eq_of_beq hmark)).bind
        fun conversion conversion' c₄ hconversion =>
          (fieldFormat_echo hk (hall.append hconversion)).weaken (fun _ _ => id) fun _ _ _ h => ?_
      obtain ⟨hstays, hahead⟩ := h
      simp only [stays_append] at hstays
      refine ⟨⟨hstays.2, hahead.within⟩, fun h => ⟨h, ⟨hstays.1.1.1, hstays.1.1.2, hstays.1.2⟩,
        h.ahead ?_⟩⟩
      rw [hs, eq_of_beq hother]
      decide
    · refine Echoes.looked ((fieldFormat_echo hk (hall.append (.refl []))).weaken (fun _ _ => id)
        fun _ _ _ h => ?_)
      obtain ⟨hstays, hahead⟩ := h
      simp only [stays_append] at hstays
      exact ⟨hahead.1, ⟨hstays.1.1.1, hstays.1.1.2, hstays.1.2⟩, hahead⟩
  have hstart : Cursor.Next T { c₁ with brackets := c₁.brackets + 1 } → opening.Stays →
      (opening.Stays ∧ c₁.Within T ∧ (true = true ∨ c₁.Solid T)) ∧
        (c.Piece T 1 → T <:+ (chars c.rest).drop 1) := fun h hstays =>
    ⟨⟨hstays, h.within, .inl rfl⟩, Cursor.Piece.behind⟩
  rw [isMark_same hs'.token]
  split
  · next hequals =>
    have htoken := token_of_isMark hequals
    refine (Echoes.take hs (htoken ▸ rfl)).bind fun equals equals' c₃ hequals =>
      (hafterEquals equals equals' c₃ hequals).mono (fun _ _ => id) (fun _ _ _ h => ?_)
        (fun _ h => h.mono id nofun) fun _ _ => id
    obtain ⟨⟨hfirst, hstays, hlast⟩, hahead⟩ := h
    refine ⟨⟨hlast, hahead.within⟩, fun h => ⟨h, ⟨hstays, .inr (h.ahead ?_)⟩, fun h => hstart h hfirst⟩⟩
    rw [hs, htoken]
    decide
  · refine (hafterEquals [] [] c₂ (.refl [])).mono (fun _ _ => id) (fun _ _ _ h => ?_)
      (fun _ h => h.1.mono id nofun) fun _ _ => id
    obtain ⟨⟨hfirst, hstays, -⟩, hahead⟩ := h
    exact ⟨hahead.1, ⟨hstays, .inr hahead⟩, fun h => hstart h hfirst⟩

/-! ## 4. All depths -/

/-- Through any depth, a text that stays reads like the same text with its blanks closed up. -/
theorem Knot.tied_echoes (whole T : List Char) (depth : Nat) : (Knot.tied depth).Echoes whole T := by
  induction depth with
  | zero =>
    exact
      { expression := fun _ c => .look_next fun s _ _ _ => .failAt s
        interpolation := fun c _ => .never fun a d _ e => by cases e }
  | succ depth ih =>
    exact
      { expression := fun conditions _ => expression_echo ih conditions
        interpolation := fun _ hopen => interpolation_echo ih hopen }

end FluentBuilders.Grammar
