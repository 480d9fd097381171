import FluentBuilders.Proofs.Grammar.Echo.Strings

/-!
Displays of a text whose blanks are closed up, and the primaries that they stand in.

1. Expressions with commas between them.
2. Comprehensions.
3. Displays.
4. Arguments, subscripts and members.
-/

namespace FluentBuilders.Grammar

open Text

variable {whole T : List Char} {idle : List Token} {c : Cursor} {k : Knot} {target : Reader Fragment}

/-! ## 1. Expressions -/

theorem Cursor.Ahead.mono {more : List Token} (h : c.Ahead T idle) (hidle : ∀ t ∈ idle, t ∈ more) :
    c.Ahead T more :=
  ⟨h.1, h.2.imp_right (hidle _)⟩

theorem Cursor.Ahead.within (h : c.Ahead T idle) : c.Within T := h.1.within

/-- Before a token that is idle. -/
theorem Cursor.Next.ahead (h : c.Next T) (hidle : (c.look false).token ∈ idle) : c.Ahead T idle :=
  ⟨h, .inr hidle⟩

theorem isMark_same {s s' : Sight} (h : s'.token = s.token) (m : String) :
    s'.isMark m = s.isMark m := by
  rw [Sight.isMark, h, Sight.isMark]

theorem isWord_same {s s' : Sight} (h : s'.token = s.token) (w : String) :
    s'.isWord w = s.isWord w := by
  rw [Sight.isWord, h, Sight.isWord]

theorem token_of_isMark {s : Sight} {m : String} (h : s.isMark m = true) : s.token = .mark m :=
  eq_of_beq h

theorem token_of_isWord {s : Sight} {w : String} (h : s.isWord w = true) : s.token = .word w :=
  eq_of_beq h

theorem startsExpression_isText {t : Token} (h : t.startsExpression = true) : t.isText = true := by
  cases t <;> first | rfl | cases h

theorem startsElement_isText {t : Token} (h : t.startsElement = true) : t.isText = true := by
  cases t <;> first | rfl | cases h

theorem startsSubscript_isText {t : Token} (h : t.startsSubscript = true) : t.isText = true := by
  cases t <;> first | rfl | cases h

/-- What may follow an expression on a later line starts no other. -/
theorem stops_start_nothing : ∀ t ∈ stops, t.startsElement = false ∧ (t == .mark ",") = false := by
  decide

theorem stops_no_expression : ∀ t ∈ stops, t.startsExpression = false ∧ (t == .mark ",") = false := by
  decide

/-- Expressions with commas between them. -/
theorem members_echo (hk : k.Echoes whole T) (conditions : Bool) :
    Echo whole T (commaList Token.startsExpression (k.expression conditions))
      (commaList Token.startsExpression (k.expression conditions)) c
      (fun r d => Fine T stops r.1 d) (c.Next T) :=
  commaList_echo (E := Cursor.Settled T stops) (hk.expression conditions) (fun _ => id)
    (fun _ h => .inr (h.mono nofun)) (fun _ => startsExpression_isText) stops_no_expression

/-- Elements with commas between them, before a token that is idle. -/
theorem elements_echo {item : Reader Fragment}
    (hitem : ∀ c, Echo whole T item item c (fun f d => f.Stays ∧ d.Ahead T stops) (c.Next T)) :
    Echo whole T (commaList Token.startsElement item) (commaList Token.startsElement item) c
      (fun r d => r.1.Stays ∧ d.Ahead T stops) (c.Next T) :=
  commaList_echo hitem (fun _ => .inr) (fun _ h => h.mono nofun) (fun _ => startsElement_isText)
    stops_start_nothing

theorem element_echo (hk : k.Echoes whole T) :
    Echo whole T (element k) (element k) c (Fine T stops) (c.Next T) := by
  unfold element
  refine .look (· == .mark "**") rfl (fun s s' hs hs' hstars => ?_) fun s s' hno hno' => ?_
  · have hmark : s.isMark "**" = true := hstars
    have hmark' : s'.isMark "**" = true := by rw [Sight.isMark, hs', hstars]
    rw [if_pos hmark, if_pos hmark']
    refine (Echoes.take hs (by rw [eq_of_beq hstars]; rfl)).bind fun stars stars' c₁ hstars => ?_
    refine (hk.expression true c₁).bind fun value value' c₂ hvalue =>
      .pure ((hstars.append hvalue).branch _) (fun hF => ?_) fun _ => id
    have hstays := stays_of_branch hF.1
    rw [stays_append] at hstays
    exact ⟨⟨hstays.2, hF.2⟩, fun h₁ => ⟨⟨hstays.1, h₁.within⟩, fun h => ⟨h, h⟩⟩⟩
  · have hnone : s.isMark "**" = false := hno
    have hnone' : s'.isMark "**" = false := hno'
    rw [hnone, hnone', if_neg Bool.false_ne_true, if_neg Bool.false_ne_true]
    exact (hk.expression true c).weaken (fun _ _ => id) fun _ _ _ h => ⟨.inr h, h⟩

/-! ## 2. Comprehensions -/

/-- The targets of a comprehension, which `in` may follow on a later line. -/
theorem forTargets_echo (ht : ∀ c, Echo whole T target target c (Fine T [.word "in"]) (c.Next T)) :
    Echo whole T (forTargets target) (forTargets target) c (Fine T [.word "in"]) (c.Next T) := by
  unfold forTargets
  refine Echoes.bind (commaList_echo (E := Cursor.Settled T [.word "in"]) ht (fun _ => id)
    (fun _ h => .inr (h.mono nofun)) ?_ ?_) fun r r' c₁ hr => ?_
  · intro t h
    cases t <;> first | rfl | cases h
  · intro t h
    rw [List.mem_singleton.mp h]
    exact ⟨rfl, rfl⟩
  · obtain ⟨all, several⟩ := r
    obtain ⟨all', several'⟩ := r'
    simp only [alike_prod, alike_bool] at hr
    obtain ⟨hall, rfl⟩ := hr
    dsimp only
    split
    · exact .pure ((hall.branch _).withRole _)
        (fun hF => ⟨⟨stays_of_branch (stays_of_withRole hF.1), hF.2⟩, id⟩) fun _ => id
    · exact .pure (hall.withRole _) (fun hF => ⟨⟨stays_of_withRole hF.1, hF.2⟩, id⟩) fun _ => id

theorem comprehensionClauses_echo (hk : k.Echoes whole T)
    (ht : ∀ c, Echo whole T target target c (Fine T [.word "in"]) (c.Next T)) :
    Echo whole T (comprehensionClauses k target) (comprehensionClauses k target) c
      (fun f d => f.Stays ∧ d.Ahead T stops) (c.Ahead T stops) := by
  unfold comprehensionClauses
  refine Echoes.weaken (.repeating (F := fun f d => f.Stays ∧ d.Ahead T stops)
    (fun _ _ h => h.budget) (fun sofar sofar' c₁ hsofar => ?_) (.refl _)) (fun _ _ => id)
      fun _ _ _ h => h.2
  refine .lookOn stops (fun t => t == .word "async" || t == .word "for" || t == .word "if")
    rfl (by decide) ?_ ?_ ?_
  · intro t ht
    cases t <;> first | rfl | cases ht
  · intro s s' hs hline hs' hactive
    rw [hs']
    split
    · next htoken =>
      refine (Echoes.take hs (htoken ▸ rfl)).bind fun f f' c₂ hf =>
        .pure (alike_some.mpr (hsofar.append hf)) (fun hF => ?_) fun _ => id
      obtain ⟨hstays, hahead⟩ := hF
      simp only [Option.getD_some, stays_append] at hstays
      exact ⟨⟨hstays.2, hahead.within⟩, fun h => ⟨h, hstays.1, h, .inl hline⟩⟩
    · next htoken =>
      refine (Echoes.take hs (htoken ▸ rfl)).bind fun keyword keyword' c₂ hkeyword => ?_
      refine (forTargets_echo ht).bind fun targets targets' c₃ htargets => ?_
      refine (word_echo "in").bind fun member member' c₄ hmember => ?_
      refine (members_echo hk false).bind fun r r' c₅ hr => .pure (alike_some.mpr (hsofar.append
        ((((hkeyword.append htargets).append hmember).append
          ((alike_prod.mp hr).1.withRole _)).branch _))) (fun hF => ?_) fun _ => id
      obtain ⟨hstays, hahead⟩ := hF
      rw [Option.getD_some, stays_append] at hstays
      obtain ⟨hbefore, hclause⟩ := hstays
      have hclause := stays_of_branch hclause
      simp only [stays_append] at hclause
      refine ⟨⟨stays_of_withRole hclause.2, .inr hahead⟩, fun h₄ => ⟨⟨hclause.1.2, h₄.within⟩,
        fun h₃ => ⟨⟨hclause.1.1.2, .inr (h₃.1.ahead (by simp [h₃.2]))⟩,
          fun h₂ => ⟨⟨hclause.1.1.1, h₂.within⟩, fun h => ⟨h, hbefore, h, .inl hline⟩⟩⟩⟩⟩
    · next htoken =>
      refine (Echoes.take hs (htoken ▸ rfl)).bind fun keyword keyword' c₂ hkeyword => ?_
      refine (hk.expression false c₂).bind fun test test' c₃ htest =>
        .pure (alike_some.mpr (hsofar.append ((hkeyword.append htest).branch _))) (fun hF => ?_)
          fun _ => id
      obtain ⟨hstays, hahead⟩ := hF
      rw [Option.getD_some, stays_append] at hstays
      obtain ⟨hbefore, hclause⟩ := hstays
      have hclause := stays_of_branch hclause
      rw [stays_append] at hclause
      exact ⟨⟨hclause.2, .inr hahead⟩, fun h₂ => ⟨⟨hclause.1, h₂.within⟩,
        fun h => ⟨h, hbefore, h, .inl hline⟩⟩⟩
    · next hasync hfor hif =>
      simp_all
  · intro s s' hno hno'
    simp only [Bool.or_eq_false_iff, beq_eq_false_iff_ne] at hno hno'
    split
    · next h => exact absurd h hno.1.1
    · next h => exact absurd h hno.1.2
    · next h => exact absurd h hno.2
    split
    · next h => exact absurd h hno'.1.1
    · next h => exact absurd h hno'.1.2
    · next h => exact absurd h hno'.2
    exact .pure rfl (fun hF => ⟨.inr hF.2, hF⟩) fun _ => id

/-! ## 3. Displays -/

section Close

variable {opening opening' inner inner' : Fragment} {kind : Kind} {closing : String}

/-- What a display has read before its closing bracket becomes a node with it. -/
theorem close_echo (hopening : Alike opening opening') (hinner : Alike inner inner')
    (hclosing : .mark closing ∈ stops) :
    Echo whole T
      (do
        let last ← mark closing
        modify fun c => { c with brackets := c.brackets - 1 }
        return branch kind (opening ++ inner ++ last))
      (do
        let last ← mark closing
        modify fun c => { c with brackets := c.brackets - 1 }
        return branch kind (opening' ++ inner' ++ last)) c
      (Taken T) (opening.Stays ∧ inner.Stays ∧ c.Ahead T stops) := by
  refine (mark_echo closing).bind fun last last' c₁ hlast => .modify (fun _ => ⟨rfl, rfl, rfl⟩) ?_
  refine .pure (((hopening.append hinner).append hlast).branch _) (fun hF => ?_) fun _ => id
  have hstays := stays_of_branch hF.1
  simp only [stays_append] at hstays
  exact ⟨⟨hstays.2, hF.2⟩,
    fun h => ⟨hstays.1.1, hstays.1.2, h.1.ahead (by rw [h.2]; exact hclosing)⟩⟩

theorem closeClauses_echo (hk : k.Echoes whole T)
    (ht : ∀ c, Echo whole T target target c (Fine T [.word "in"]) (c.Next T))
    (hopening : Alike opening opening') (hinner : Alike inner inner')
    (hclosing : .mark closing ∈ stops) :
    Echo whole T
      (do
        let clauses ← comprehensionClauses k target
        let last ← mark closing
        modify fun c => { c with brackets := c.brackets - 1 }
        return branch kind (opening ++ (inner ++ clauses) ++ last))
      (do
        let clauses ← comprehensionClauses k target
        let last ← mark closing
        modify fun c => { c with brackets := c.brackets - 1 }
        return branch kind (opening' ++ (inner' ++ clauses) ++ last)) c
      (Taken T) (opening.Stays ∧ inner.Stays ∧ c.Ahead T stops) := by
  refine (comprehensionClauses_echo hk ht).bind fun clauses clauses' c₁ hclauses => ?_
  refine (close_echo hopening (hinner.append hclauses) hclosing).weaken (fun _ _ => id) fun _ _ _ h => ?_
  obtain ⟨hfirst, hstays, hahead⟩ := h
  rw [stays_append] at hstays
  exact ⟨⟨hstays.2, hahead⟩, fun h => ⟨hfirst, hstays.1, h⟩⟩

/-- What stands between an opening bracket and its display. -/
theorem opened_echo {p p' : Fragment → Reader Fragment} {m : String}
    (h : ∀ opening opening' c, Alike opening opening' →
      Echo whole T (p opening) (p' opening') c (Taken T) (opening.Stays ∧ c.Next T)) :
    Echo whole T
      (do
        let opening ← mark m
        modify fun c => { c with brackets := c.brackets + 1 }
        p opening)
      (do
        let opening ← mark m
        modify fun c => { c with brackets := c.brackets + 1 }
        p' opening) c (Taken T) (c.Next T) := by
  refine (mark_echo m).bind fun opening opening' c₁ hopening => .modify (fun _ => ⟨rfl, rfl, rfl⟩) ?_
  exact (h opening opening' _ hopening).weaken (fun _ _ => id) fun _ _ _ h =>
    ⟨⟨h.1, h.2.within⟩, And.left⟩

end Close

theorem roundDisplay_echo (hk : k.Echoes whole T)
    (ht : ∀ c, Echo whole T target target c (Fine T [.word "in"]) (c.Next T)) :
    Echo whole T (roundDisplay k target) (roundDisplay k target) c (Taken T) (c.Next T) := by
  unfold roundDisplay
  refine opened_echo fun opening opening' c hopening => .look_next fun s s' hs hs' => ?_
  dsimp only
  rw [isMark_same hs'.token]
  split
  · exact (close_echo hopening (.refl []) (by decide)).looked.weaken (fun _ _ => id)
      fun _ _ _ h => ⟨h.2.2.1, h.1, h.2.2.1⟩
  refine (elements_echo fun c => (element_echo hk).weaken (fun _ _ h => ⟨h.1, .inr h.2⟩)
    fun _ _ _ => id).looked.bind fun r r' c₂ hr => ?_
  obtain ⟨elements, several⟩ := r
  obtain ⟨elements', several'⟩ := r'
  simp only [alike_prod, alike_bool] at hr
  obtain ⟨helements, rfl⟩ := hr
  refine .look_next fun s s' hs hs' => ?_
  dsimp only
  rw [hs'.token]
  have hH : opening.Stays ∧ elements.Stays ∧ c₂.Ahead T stops → c₂.Next T ∧
      (elements.Stays ∧ c₂.Ahead T stops) ∧ (c.Next T → c.Next T ∧ opening.Stays ∧ c.Next T) :=
    fun h => ⟨h.2.2.1, h.2, fun hnext => ⟨hnext, h.1, hnext⟩⟩
  split
  · exact (close_echo hopening helements (by decide)).looked.weaken (fun _ _ => id) fun _ _ _ => hH
  split
  · exact (closeClauses_echo hk ht hopening helements (by decide)).looked.weaken (fun _ _ => id)
      fun _ _ _ => hH
  · exact (close_echo hopening helements (by decide)).looked.weaken (fun _ _ => id) fun _ _ _ => hH

/-- What stands between square or curly brackets. -/
theorem display_echo (hk : k.Echoes whole T)
    (ht : ∀ c, Echo whole T target target c (Fine T [.word "in"]) (c.Next T)) {item : Reader Fragment}
    (hitem : ∀ c, Echo whole T item item c (Fine T stops) (c.Next T)) {kind : Kind} {m closing : String}
    (hclosing : .mark closing ∈ stops) :
    let display : Reader Fragment := do
      let opening ← mark m
      modify fun c => { c with brackets := c.brackets + 1 }
      let close (kind : Kind) (inner : Fragment) : Reader Fragment := do
        let last ← mark closing
        modify fun c => { c with brackets := c.brackets - 1 }
        return branch kind (opening ++ inner ++ last)
      let s ← look
      if s.isMark closing then close kind []
      else
        let (elements, several) ← commaList Token.startsElement item
        let s ← look
        if !several && s.token.startsClauses then
          close .comprehension (elements ++ (← comprehensionClauses k target))
        else close kind elements
    Echo whole T display display c (Taken T) (c.Next T) := by
  refine opened_echo fun opening opening' c hopening => .look_next fun s s' hs hs' => ?_
  dsimp only
  rw [isMark_same hs'.token]
  split
  · exact (close_echo hopening (.refl []) hclosing).looked.weaken (fun _ _ => id)
      fun _ _ _ h => ⟨h.2.2.1, h.1, h.2.2.1⟩
  refine (elements_echo fun c => (hitem c).weaken (fun _ _ h => ⟨h.1, .inr h.2⟩)
    fun _ _ _ => id).looked.bind fun r r' c₂ hr => ?_
  obtain ⟨elements, several⟩ := r
  obtain ⟨elements', several'⟩ := r'
  simp only [alike_prod, alike_bool] at hr
  obtain ⟨helements, rfl⟩ := hr
  refine .look_next fun s s' hs hs' => ?_
  dsimp only
  rw [hs'.token]
  have hH : opening.Stays ∧ elements.Stays ∧ c₂.Ahead T stops → c₂.Next T ∧
      (elements.Stays ∧ c₂.Ahead T stops) ∧ (c.Next T → c.Next T ∧ opening.Stays ∧ c.Next T) :=
    fun h => ⟨h.2.2.1, h.2, fun hnext => ⟨hnext, h.1, hnext⟩⟩
  split
  · exact (closeClauses_echo hk ht hopening helements hclosing).looked.weaken (fun _ _ => id)
      fun _ _ _ => hH
  · exact (close_echo hopening helements hclosing).looked.weaken (fun _ _ => id) fun _ _ _ => hH

theorem squareDisplay_echo (hk : k.Echoes whole T)
    (ht : ∀ c, Echo whole T target target c (Fine T [.word "in"]) (c.Next T)) :
    Echo whole T (squareDisplay k target) (squareDisplay k target) c (Taken T) (c.Next T) :=
  display_echo hk ht (fun _ => element_echo hk) (by decide)

/-- An element of a set or an entry of a dictionary. -/
theorem entry_echo (hk : k.Echoes whole T) :
    Echo whole T (entry k) (entry k) c (Fine T stops) (c.Next T) := by
  unfold entry
  refine (element_echo hk).bind fun key key' c₁ hkey => ?_
  refine .look (· == .mark ":") rfl (fun s s' hs hs' hcolon => ?_) fun s s' hno hno' => ?_
  · have hmark : s.isMark ":" = true := hcolon
    have hmark' : s'.isMark ":" = true := (isMark_same hs' _).trans hcolon
    rw [if_pos hmark, if_pos hmark']
    refine (Echoes.take hs (by rw [eq_of_beq hcolon]; rfl)).bind fun colon colon' c₂ hcolon' => ?_
    refine (hk.expression true c₂).bind fun value value' c₃ hvalue =>
      .pure (((hkey.append hcolon').append (hvalue.withRole _)).branch _) (fun hF => ?_) fun _ => id
    have hstays := stays_of_branch hF.1
    simp only [stays_append] at hstays
    refine ⟨⟨stays_of_withRole hstays.2, hF.2⟩, fun h₂ => ⟨⟨hstays.1.2, h₂.within⟩,
      fun h₁ => ⟨h₁, ⟨hstays.1.1, .inr (h₁.ahead ?_)⟩, id⟩⟩⟩
    rw [hs, eq_of_beq hcolon]
    decide
  · have hnone : s.isMark ":" = false := hno
    have hnone' : s'.isMark ":" = false := hno'
    rw [hnone, hnone', if_neg Bool.false_ne_true, if_neg Bool.false_ne_true]
    exact .pure hkey (fun hF => ⟨hF.2.next, hF, id⟩) fun _ => id

theorem curlyDisplay_echo (hk : k.Echoes whole T)
    (ht : ∀ c, Echo whole T target target c (Fine T [.word "in"]) (c.Next T)) :
    Echo whole T (curlyDisplay k target) (curlyDisplay k target) c (Taken T) (c.Next T) :=
  display_echo hk ht (fun _ => entry_echo hk) (by decide)

/-! ## 4. Arguments and subscripts -/

theorem argument_echo (hk : k.Echoes whole T)
    (ht : ∀ c, Echo whole T target target c (Fine T [.word "in"]) (c.Next T)) :
    Echo whole T (argument k target) (argument k target) c
      (fun f d => f.Stays ∧ d.Ahead T stops) (c.Next T) := by
  unfold argument
  refine (element_echo hk).bind fun value value' c₁ hvalue => .look_next fun s s' hs hs' => ?_
  rw [isMark_same hs'.token, hvalue.isName, hs'.token]
  split
  · next hequals =>
    have htoken := token_of_isMark (Bool.and_eq_true_iff.mp hequals).1
    refine (Echoes.take hs (htoken ▸ rfl)).bind fun equals equals' c₂ hequals => ?_
    refine (hk.expression true c₂).bind fun f f' c₃ hf =>
      .pure ((((hvalue.withRole _).append hequals).append (hf.withRole _)).branch _) (fun hF => ?_)
        fun _ => id
    have hstays := stays_of_branch hF.1
    simp only [stays_append] at hstays
    refine ⟨⟨stays_of_withRole hstays.2, .inr hF.2⟩, fun h₂ => ⟨⟨hstays.1.2, h₂.within⟩,
      fun h₁ => ⟨h₁, ⟨stays_of_withRole hstays.1.1, .inr (h₁.ahead ?_)⟩, id⟩⟩⟩
    rw [hs, htoken]
    decide
  split
  · refine (comprehensionClauses_echo hk ht).looked.bind fun f f' c₂ hf =>
      .pure ((hvalue.append hf).branch _) (fun hF => ?_) fun _ => id
    have hstays := stays_of_branch hF.1
    rw [stays_append] at hstays
    exact ⟨⟨hstays.2, hF.2⟩, fun h => ⟨h.1, ⟨hstays.1, .inr h⟩, id⟩⟩
  · exact .looked (.pure hvalue (fun hF => ⟨hF.2.1, ⟨hF.1, .inr hF.2⟩, id⟩) fun _ => id)

theorem argumentList_echo (hk : k.Echoes whole T)
    (ht : ∀ c, Echo whole T target target c (Fine T [.word "in"]) (c.Next T)) :
    Echo whole T (argumentList k target) (argumentList k target) c (Taken T) (c.Next T) := by
  unfold argumentList
  refine (bracketed_echo fun c => ?_).bind fun f f' c₁ hf =>
    .pure (hf.branch _) (fun hF => ⟨⟨stays_of_branch hF.1, hF.2⟩, id⟩) fun _ => id
  refine .look_next fun s s' hs hs' => ?_
  rw [isMark_same hs'.token]
  split
  · exact .looked (.pure (.refl []) (fun hF => ⟨hF.2.1, hF.2.1.within⟩) fun _ => id)
  · refine (elements_echo fun c => argument_echo hk ht).looked.bind fun r r' c₁ hr =>
      .pure (alike_prod.mp hr).1 (fun hF => ?_) fun _ => id
    exact ⟨⟨hF.1, hF.2.1.ahead (by rw [hF.2.2]; decide)⟩, fun h => ⟨h, h.within⟩⟩

/-- One subscript: an expression or a slice. -/
theorem subscript_echo (hk : k.Echoes whole T) :
    Echo whole T (subscript k) (subscript k) c (fun f d => f.Stays ∧ d.Ahead T stops) (c.Next T) := by
  unfold subscript
  refine .look_next fun s s' hs hs' => ?_
  extract_lets afterFirst
  have hafter : ∀ (first first' : Fragment) (c₁ : Cursor), Alike first first' →
      Echo whole T (afterFirst first) (afterFirst first') c₁
        (fun f d => Fragment.Stays f ∧ d.Ahead T stops)
        (first.Stays ∧ c₁.Ahead T stops) := by
    intro first first' c₁ hfirst
    refine .look_next fun s s' hs hs' => ?_
    rw [isMark_same hs'.token]
    split
    · exact .looked (.pure hfirst (fun hF => ⟨hF.2.1, hF⟩) fun _ => id)
    refine (Echoes.repeating (F := fun f d => Fragment.Stays f ∧ d.Ahead T stops) (fun _ _ h => h.budget)
      (fun sofar sofar' c₂ hsofar => ?_) (.refl [])).looked.bind fun rest rest' c₂ hrest =>
        .pure ((hfirst.append hrest).branch _) (fun hF => ?_) fun _ => id
    · refine .look_next fun s s' hs hs' => ?_
      rw [isMark_same hs'.token]
      split
      · exact .looked (.pure rfl (fun hF => ⟨hF.2.1, hF⟩) fun _ => id)
      next hcolon =>
      have htoken : s.token = .mark ":" := token_of_isMark (by simpa using hcolon)
      have hbefore : c₂.Next T → c₂.Ahead T stops := fun h => h.ahead (by rw [hs, htoken]; decide)
      refine (Echoes.take hs (htoken ▸ rfl)).bind fun colon colon' c₃ hcolon => ?_
      refine .look_next fun next next' hnext hnext' => ?_
      rw [hnext'.token]
      split
      · refine (hk.expression true c₃).looked.bind fun f f' c₄ hf =>
          .pure (alike_some.mpr ((hsofar.append hcolon).append hf)) (fun hF => ?_) fun _ => id
        obtain ⟨hstays, hahead⟩ := hF
        simp only [Option.getD_some, stays_append] at hstays
        exact ⟨⟨hstays.2, .inr hahead⟩, fun h₃ => ⟨h₃, ⟨hstays.1.2, h₃.within⟩,
          fun h₂ => ⟨h₂, hstays.1.1, hbefore h₂⟩⟩⟩
      · refine .looked (.pure (alike_some.mpr (hsofar.append hcolon)) (fun hF => ?_) fun _ => id)
        obtain ⟨hstays, hahead⟩ := hF
        simp only [Option.getD_some, stays_append] at hstays
        exact ⟨hahead.1, ⟨hstays.2, hahead.within⟩, fun h₂ => ⟨h₂, hstays.1, hbefore h₂⟩⟩
    · have hstays := stays_of_branch hF.1
      rw [stays_append] at hstays
      exact ⟨⟨hstays.2, hF.2⟩, fun h => ⟨h.2.1, hstays.1, h.2⟩⟩
  rw [isMark_same hs'.token]
  split
  · exact (Echoes.looked (.pure (.refl []) id fun _ => id)).bind fun first first' c₁ hfirst =>
      (hafter first first' c₁ hfirst).weaken (fun _ _ => id) fun _ _ _ h => ⟨h, fun h => ⟨h.2.1, h.2.1⟩⟩
  · exact (element_echo hk).looked.bind fun first first' c₁ hfirst =>
      (hafter first first' c₁ hfirst).weaken (fun _ _ => id)
        fun _ _ _ h => ⟨⟨h.1, .inr h.2⟩, fun h => ⟨h, h⟩⟩

/-! ## 5. Primaries -/

/-- Tokens that may follow a primary on a later line. -/
def rests : List Token := .word "in" :: stops

theorem trailers_echo (hk : k.Echoes whole T)
    (ht : ∀ c, Echo whole T target target c (Fine T [.word "in"]) (c.Next T)) {head head' : Fragment}
    (hhead : Alike head head') :
    Echo whole T (trailers k target head) (trailers k target head') c (Fine T rests)
      (Fine T rests head c) := by
  unfold trailers
  refine .repeating (F := Fine T rests) (fun _ _ h => h.budget) (fun sofar sofar' c₁ hsofar => ?_) hhead
  refine .lookOn rests
    (fun t => t == .mark "." || t == .mark "[" || t == .mark "(") rfl (by decide) ?_ ?_ ?_
  · intro t ht
    cases t <;> first | rfl | cases ht
  · intro s s' hs hline hs' hactive
    have hbefore : c₁.Next T → c₁.Settled T rests := fun h => h.settledOn hline
    rw [hs']
    split
    · next htoken =>
      refine (Echoes.take hs (htoken ▸ rfl)).bind fun dot dot' c₂ hdot => ?_
      refine identifier_echo.bind fun name name' c₃ hname =>
        .pure (alike_some.mpr (((hsofar.append hdot).append hname).branch _)) (fun hF => ?_) fun _ => id
      have hstays := stays_of_branch hF.1
      simp only [stays_append] at hstays
      exact ⟨⟨hstays.2, hF.2.within⟩, fun h₂ => ⟨⟨hstays.1.2, h₂.within⟩,
        fun h₁ => ⟨h₁, hstays.1.1, hbefore h₁⟩⟩⟩
    · refine (bracketed_echo fun c => ?_).looked.bind fun f f' c₂ hf =>
        .pure (alike_some.mpr (((hsofar.withRole _).append hf).branch _)) (fun hF => ?_) fun _ => id
      · refine (commaList_echo (E := Cursor.Ahead T [.mark "]"]) (fun _ => (subscript_echo hk).weaken
          (fun _ _ h => ⟨h.1, h.2.mono (by decide)⟩) fun _ _ _ => id) (fun _ => .inr)
            (fun _ h => h.mono (List.forall_mem_nil _)) (fun _ => startsSubscript_isText)
              (by decide)).bind
              fun r r' c₁ hr => .pure (alike_prod.mp hr).1 (fun hF => ?_) fun _ => id
        exact ⟨⟨hF.1, hF.2.1.ahead (by rw [hF.2.2]; decide)⟩, fun h => h.within⟩
      · have hstays := stays_of_branch hF.1
        rw [stays_append] at hstays
        exact ⟨⟨hstays.2, hF.2.within⟩, fun h₁ => ⟨h₁, stays_of_withRole hstays.1, hbefore h₁⟩⟩
    · refine (argumentList_echo hk ht).looked.bind fun f f' c₂ hf => .pure (alike_some.mpr
        (((hsofar.withRole _).append (hf.withRole _)).branch _)) (fun hF => ?_) fun _ => id
      have hstays := stays_of_branch hF.1
      rw [stays_append] at hstays
      exact ⟨⟨stays_of_withRole hstays.2, hF.2.within⟩,
        fun h₁ => ⟨h₁, stays_of_withRole hstays.1, hbefore h₁⟩⟩
    · simp_all
  · intro s s' hno hno'
    simp only [Bool.or_eq_false_iff, beq_eq_false_iff_ne] at hno hno'
    split
    · next h => exact absurd h hno.1.1
    · next h => exact absurd h hno.1.2
    · next h => exact absurd h hno.2
    split
    · next h => exact absurd h hno'.1.1
    · next h => exact absurd h hno'.1.2
    · next h => exact absurd h hno'.2
    exact .pure rfl (fun hF => ⟨hF.2, hF⟩) fun _ => id

/-- A name that stays is not `await`. -/
theorem take_name {w : String} (hc : c.repair = none) (hw : (c.look false).token = .word w) :
    Ensures (take (c.look false) .identifier) c fun f _ => f.Stays → w ≠ "await" := by
  unfold take takeLength
  refine .get ?_
  rw [(Cursor.look_sees hc false).supplied]
  refine .set (.pure fun hstays => ?_)
  rintro rfl
  rw [stays_append] at hstays
  have hleaf := hstays.2.1
  obtain ⟨hlength, hword⟩ := (c.look_seen false).word _ hw (Cursor.look_sees hc false).supplied
  have htext : (c.look false).cursor.spell (c.look false).length = "await" := by
    rw [← String.toList_inj, Cursor.spell_toList, hlength, ← hword, ← runLength_take, chars, chars,
      List.map_take]
  rw [htext] at hleaf
  simp [Node.Everywhere, Node.stays, Node.isClosedUp] at hleaf

theorem atom_echo (hk : k.Echoes whole T)
    (ht : ∀ c, Echo whole T target target c (Fine T [.word "in"]) (c.Next T)) :
    Echo whole T (atom k target) (atom k target) c (Fine T rests)
      (c.Next T ∧ (c.look false).token ≠ .word "await") := by
  unfold atom
  refine .plain fun hc => .look_next fun s s' hs hs' => ?_
  subst hs
  rw [hs'.token]
  have htake : ∀ (t : Token) (kind : Kind), (c.look false).token = t → t.isText = true →
      t ≠ .word "await" → Echoes (Looks (Mirrors whole T false true) s')
        (take (c.look false) kind) (take s' kind) c (Fine T rests)
        (c.Next T ∧ c.Next T ∧ (c.look false).token ≠ .word "await") (Mirrors whole T false true) :=
    fun t kind htoken htext hne => (Echoes.take rfl (htoken ▸ htext)).weaken
      (fun _ _ h => ⟨h.1, h.2.within⟩) fun _ _ _ h => ⟨h, h, htoken ▸ hne⟩
  have hdisplay : ∀ {p : Reader Fragment} (t : Token), (c.look false).token = t →
      t ≠ .word "await" → Echo whole T p p c (Taken T) (c.Next T) →
        Echoes (Looks (Mirrors whole T false true) s') p p c (Fine T rests)
          (c.Next T ∧ c.Next T ∧ (c.look false).token ≠ .word "await") (Mirrors whole T false true) :=
    fun t htoken hne h => h.looked.weaken (fun _ _ h => ⟨h.1, h.2.within⟩)
      fun _ _ _ h => ⟨h, h, htoken ▸ hne⟩
  split
  · next w htoken =>
    split
    · next hconstant =>
      refine htake _ _ htoken rfl fun he => ?_
      cases he
      simp at hconstant
    · refine Echoes.given (take_name hc.repair htoken) (Echoes.weaken (Echoes.take rfl (htoken ▸ rfl))
        (E := fun f d => Taken T f d ∧ w ≠ "await") (fun _ _ => And.left) fun f d hF h => ?_)
          fun f d hF hname => ⟨⟨hF.1, hF.2.within⟩, hname hF.1⟩
      exact ⟨h, h, by simpa [htoken] using hF.2⟩
  · next htoken => exact htake _ _ htoken rfl nofun
  · next htoken =>
    exact (string_echo hk (by decide) htoken).looked.weaken (fun _ _ => id)
      fun _ _ _ h => ⟨h, h, htoken ▸ nofun⟩
  · next htoken => exact hdisplay _ htoken nofun (roundDisplay_echo hk ht)
  · next htoken => exact hdisplay _ htoken nofun (squareDisplay_echo hk ht)
  · next htoken => exact hdisplay _ htoken nofun (curlyDisplay_echo hk ht)
  · next htoken => exact htake _ _ htoken rfl nofun
  · exact .failAt _

theorem primary_echo (hk : k.Echoes whole T)
    (ht : ∀ c, Echo whole T target target c (Fine T [.word "in"]) (c.Next T)) :
    Echo whole T (primary k target) (primary k target) c (Fine T rests)
      (c.Next T ∧ (c.look false).token ≠ .word "await") := by
  unfold primary
  exact (atom_echo hk ht).bind fun head head' c₁ hhead =>
    (trailers_echo hk ht hhead).weaken (fun _ _ => id) fun _ _ _ h => ⟨h, id⟩

/-- A target of a loop or of a comprehension. -/
theorem loopTarget_echo (hk : k.Echoes whole T) :
    Echo whole T (loopTarget k) (loopTarget k) c (Fine T [.word "in"]) (c.Next T) := by
  have hfail : ∀ c, Echo whole T (do failAt (← look)) (do failAt (← look)) c
      (Fine T [.word "in"]) (c.Next T) := fun c => .look_next fun s _ _ _ => .failAt s
  unfold loopTarget
  refine .look_next fun s s' hs hs' => ?_
  rw [isMark_same hs'.token]
  extract_lets afterStar afterStar'
  have hafter : ∀ star star' c₁, Alike star star' →
      Echo whole T (afterStar star) (afterStar' star') c₁ (Fine T [.word "in"])
        (star.Stays ∧ c₁.Next T) := by
    intro star star' c₁ hstar
    refine (primary_echo hk hfail).bind fun inner inner' c₂ hinner => ?_
    dsimp only
    rw [hstar.isEmpty]
    have hall : Alike (if star.isEmpty then inner else branch .splat (star ++ inner))
        (if star.isEmpty then inner' else branch .splat (star' ++ inner')) := by
      split
      · exact hinner
      · exact (hstar.append hinner).branch _
    have hstays : ∀ all : Fragment, all = (if star.isEmpty then inner else branch .splat (star ++ inner)) →
        all.Stays → star.Stays ∧ inner.Stays := by
      rintro _ rfl h
      split at h
      · next hempty => exact ⟨by rw [List.isEmpty_iff.mp hempty]; trivial, h⟩
      · exact stays_append.mp (stays_of_branch h)
    generalize (if star.isEmpty then inner else branch .splat (star ++ inner)) = all at hall hstays ⊢
    generalize (if star.isEmpty then inner' else branch .splat (star' ++ inner')) = all' at hall ⊢
    refine .get ?_ fun c' _ hc' _ => by rw [hc'.budget]
    have htargets := hall.asTargets? c₂.budget
    split
    · next targets hsome =>
      rw [hsome] at htargets
      obtain ⟨targets', hsome', hlike⟩ : ∃ targets', all'.asTargets? c₂.budget = some targets' ∧
          Alike targets targets' := by
        cases hsome' : all'.asTargets? c₂.budget with
        | none => rw [hsome'] at htargets; cases htargets
        | some targets' => rw [hsome'] at htargets; exact ⟨targets', rfl, alike_some.mp htargets⟩
      rw [hsome']
      refine .pure hlike (fun hF => ?_) fun _ => id
      obtain ⟨hfirst, hlast⟩ := hstays all rfl (stays_of_asTargets hsome hF.1)
      exact ⟨⟨hlast, hF.2.mono (by decide)⟩, fun h => ⟨hfirst, h.1⟩⟩
    · exact .failAt s
  split
  · next hmark =>
    exact (Echoes.take hs (token_of_isMark hmark ▸ rfl)).bind fun star star' c₁ hstar =>
      (hafter star star' c₁ hstar).weaken (fun _ _ => id)
        fun _ _ _ h => ⟨⟨h.1, h.2.within⟩, fun h => ⟨h, h⟩⟩
  · exact (Echoes.looked (.pure (.refl []) id fun _ => id)).bind fun star star' c₁ hstar =>
      (hafter star star' c₁ hstar).weaken (fun _ _ => id) fun _ _ _ h => ⟨h, fun h => ⟨h.2, h.2⟩⟩

end FluentBuilders.Grammar
