import FluentBuilders.Proofs.Grammar.Echo.Displays

/-!
Expressions of a text whose blanks are closed up.

1. Signs, and the operand of `await`.
2. Arithmetic, comparisons and what combines them.
3. Anonymous functions and generators.
4. Whole expressions and annotations.
-/

namespace FluentBuilders.Grammar

open Text

variable {whole T : List Char} {idle : List Token} {c : Cursor} {k : Knot} {target : Reader Fragment}

/-! ## 1. Signs -/

theorem startsAwaited_isText {t : Token} (h : t.startsAwaited = true) : t.isText = true := by
  cases t <;> first | rfl | cases h

/-- A sequence of signs before an operand. -/
theorem signed_echo (hk : k.Echoes whole T) :
    Echo whole T (signed k) (signed k) c (Fine T stops) (c.Next T) := by
  unfold signed
  refine Echoes.bind (.repeatingTo (I := fun f d => Fragment.Stays f ∧ d.Next T)
    (F := fun f d => (Fragment.Stays f ∧ d.Next T) ∧ (d.look false).token ≠ .word "await")
    (fun _ _ h => h.budget) (fun _ _ => And.left) (fun sofar sofar' c₁ hsofar => ?_) (.refl _))
    fun signs signs' c₁ hsigns => ?_
  · refine .plain fun hc₁ => .look_next fun s s' hs hs' => ?_
    subst hs
    rw [hs'.token]
    have hsign : (c₁.look false).token.isText = true →
        Echoes (Looks (Mirrors whole T false true) s')
          (do return some (sofar ++ (← take (c₁.look false) .mark)))
          (do return some (sofar' ++ (← take s' .mark))) c₁
          (fun r d => r.elim ((Fragment.Stays sofar ∧ d.Next T) ∧ (d.look false).token ≠ .word "await")
            fun f => Fragment.Stays f ∧ d.Next T)
          (c₁.Next T ∧ Fragment.Stays sofar ∧ c₁.Next T) (Mirrors whole T false true) := fun htext =>
      (Echoes.take rfl htext).bind fun f f' c₂ hf =>
        .pure (alike_some.mpr (hsofar.append hf)) (fun hF => by
          obtain ⟨hstays, hnext⟩ := hF
          rw [stays_append] at hstays
          exact ⟨⟨hstays.2, hnext.within⟩, fun h => ⟨h, hstays.1, h⟩⟩) fun _ => id
    split
    · next htoken => exact hsign (htoken ▸ rfl)
    · next htoken => exact hsign (htoken ▸ rfl)
    · next htoken => exact hsign (htoken ▸ rfl)
    · next htoken =>
      refine .get_both fun c' => ?_
      refine (Echoes.take rfl (htoken ▸ rfl)).bind fun keyword keyword' c₂ hkeyword => ?_
      refine .lookOn [] Token.startsAwaited rfl nofun (fun _ => startsAwaited_isText) ?_ ?_
      · intro next next' hnext hline hnext' hactive
        rw [hnext', if_pos hactive, if_pos hactive]
        refine .looked (.pure (alike_some.mpr (hsofar.append hkeyword)) (fun hF => ?_) fun _ => id)
        obtain ⟨hstays, hahead⟩ := hF
        rw [stays_append] at hstays
        exact ⟨hahead, ⟨hstays.2, hahead.within⟩, fun h => ⟨h, hstays.1, h⟩⟩
      · intro next next' hno hno'
        rw [if_neg (by simp [hno]), if_neg (by simp [hno'])]
        refine .never fun a d _ e => ?_
        cases e
        exact ⟨hc₁, fun hF => hF.2 htoken⟩
    · next hawait => exact .looked (.pure rfl (fun hF => ⟨hF.1.2, hF.1⟩) fun _ => id)
  · refine (primary_echo hk fun c => loopTarget_echo hk).bind fun operand operand' c₂ hoperand => ?_
    rw [hsigns.isEmpty]
    split
    · next hempty =>
      refine .pure hoperand (fun hF => ⟨⟨hF.1, hF.2.mono (by decide)⟩, fun h => ⟨?_, And.right⟩⟩)
        fun _ => id
      rw [List.isEmpty_iff.mp hempty]
      exact ⟨⟨trivial, h.1⟩, h.2⟩
    · refine .pure ((hsigns.append hoperand).branch _) (fun hF => ?_) fun _ => id
      have hstays := stays_append.mp (stays_of_branch hF.1)
      exact ⟨⟨hstays.2, hF.2.mono (by decide)⟩, fun h => ⟨⟨⟨hstays.1, h.1⟩, h.2⟩, And.right⟩⟩

/-! ## 2. Operators -/

/-- Whether a token is a mark of arithmetic. -/
def Token.isArithmetic : Token → Bool
  | .mark m => arithmeticMarks.contains m
  | _ => false

/-- Operands with arithmetic between them. -/
theorem arithmetic_echo (hk : k.Echoes whole T) :
    Echo whole T (arithmetic k) (arithmetic k) c (Fine T stops) (c.Next T) := by
  unfold arithmetic
  refine (signed_echo hk).bind fun first first' c₁ hfirst => ?_
  refine Echoes.weaken (.repeating (F := Fine T stops) (fun _ _ h => h.budget)
    (fun sofar sofar' c₂ hsofar => ?_) hfirst) (fun _ _ => id) fun _ _ _ h => ⟨h, id⟩
  refine .lookOn stops Token.isArithmetic rfl (by decide) ?_ ?_ ?_
  · intro t ht
    cases t <;> first | rfl | cases ht
  · intro s s' hs hline hs' hactive
    rw [hs']
    split
    · next m htoken =>
      rw [htoken] at hactive
      have hmark : arithmeticMarks.contains m = true := hactive
      rw [if_pos hmark, if_pos hmark]
      refine (Echoes.take hs (htoken ▸ rfl)).bind fun operator operator' c₃ hoperator => ?_
      refine (signed_echo hk).bind fun f f' c₄ hf => .pure (alike_some.mpr
        (((hsofar.append hoperator).append hf).branch _)) (fun hF => ?_) fun _ => id
      have hstays := stays_of_branch hF.1
      simp only [stays_append] at hstays
      exact ⟨⟨hstays.2, hF.2⟩, fun h₃ => ⟨⟨hstays.1.2, h₃.within⟩,
        fun h₂ => ⟨h₂, hstays.1.1, h₂.settledOn hline⟩⟩⟩
    · next hmark =>
      cases htoken : s.token with
      | mark m => exact absurd htoken (hmark m)
      | _ => rw [htoken] at hactive; cases hactive
  · intro s s' hno hno'
    refine .nothing ?_ ?_ fun hF => ⟨hF.2, hF⟩
    all_goals
      split
      · simp_all [Token.isArithmetic]
      · rfl

/-- Whether a token can compare. -/
def Token.compares : Token → Bool
  | .mark m => comparisonMarks.contains m
  | .word w => w == "in" || w == "not" || w == "is"
  | _ => false

/-- Operands with comparisons between them. -/
theorem comparison_echo (hk : k.Echoes whole T) :
    Echo whole T (comparison k) (comparison k) c (Fine T stops) (c.Next T) := by
  unfold comparison
  refine (arithmetic_echo hk).bind fun first first' c₁ hfirst => ?_
  refine Echoes.weaken (.repeating (F := Fine T stops) (fun _ _ h => h.budget)
    (fun sofar sofar' c₂ hsofar => ?_) hfirst) (fun _ _ => id) fun _ _ _ h => ⟨h, id⟩
  have hjoin : ∀ operator operator' c₃, Alike operator operator' → Echo whole T
      (do return some (branch .comparison (sofar ++ operator ++ (← arithmetic k))))
      (do return some (branch .comparison (sofar' ++ operator' ++ (← arithmetic k)))) c₃
      (fun r d => Fine T stops (r.getD sofar) d)
      (Fragment.Stays sofar ∧ Fragment.Stays operator ∧ c₃.Next T) := by
    intro operator operator' c₃ hoperator
    refine (arithmetic_echo hk).bind fun f f' c₄ hf => .pure (alike_some.mpr
      (((hsofar.append hoperator).append hf).branch _)) (fun hF => ?_) fun _ => id
    have hstays := stays_of_branch hF.1
    simp only [stays_append] at hstays
    exact ⟨⟨hstays.2, hF.2⟩, fun h => ⟨hstays.1.1, hstays.1.2, h⟩⟩
  refine .lookOn stops Token.compares rfl (by decide) ?_ ?_ ?_
  · intro t ht
    cases t <;> first | rfl | cases ht
  · intro s s' hs hline hs' hactive
    have hbefore : Fragment.Stays sofar → c₂.Next T → c₂.Next T ∧ Fine T stops sofar c₂ :=
      fun hstays h => ⟨h, hstays, h.settledOn hline⟩
    dsimp only
    rw [hs']
    split
    · next m htoken =>
      rw [htoken] at hactive
      have hmark : comparisonMarks.contains m = true := hactive
      rw [if_pos hmark, if_pos hmark]
      refine (Echoes.take hs (htoken ▸ rfl)).bind fun operator operator' c₃ hoperator => ?_
      exact (hjoin _ _ c₃ hoperator).weaken (fun _ _ => id) fun _ _ _ h =>
        ⟨⟨h.2.1, h.2.2.within⟩, hbefore h.1⟩
    · next htoken =>
      refine (Echoes.take hs (htoken ▸ rfl)).bind fun operator operator' c₃ hoperator => ?_
      exact (hjoin _ _ c₃ hoperator).weaken (fun _ _ => id) fun _ _ _ h =>
        ⟨⟨h.2.1, h.2.2.within⟩, hbefore h.1⟩
    · next htoken =>
      refine (Echoes.take hs (htoken ▸ rfl)).bind fun negation negation' c₃ hnegation => ?_
      refine (word_echo "in").bind fun member member' c₄ hmember => ?_
      refine (hjoin _ _ c₄ (hnegation.append hmember)).weaken (fun _ _ => id) fun _ _ _ h => ?_
      obtain ⟨hfirst, hoperator, hnext⟩ := h
      rw [stays_append] at hoperator
      exact ⟨⟨hoperator.2, hnext.within⟩, fun h₃ => ⟨⟨hoperator.1, h₃.1.within⟩, hbefore hfirst⟩⟩
    · next htoken =>
      refine (Echoes.take hs (htoken ▸ rfl)).bind fun operator operator' c₃ hoperator => ?_
      refine .look_next fun next next' hnext hnext' => ?_
      rw [isWord_same hnext'.token]
      split
      · next hnot =>
        refine (Echoes.take hnext (token_of_isWord hnot ▸ rfl)).bind
          fun negation negation' c₄ hnegation => ?_
        refine (hjoin _ _ c₄ (hoperator.append hnegation)).weaken (fun _ _ => id) fun _ _ _ h => ?_
        obtain ⟨hfirst, hboth, hlast⟩ := h
        rw [stays_append] at hboth
        exact ⟨⟨hboth.2, hlast.within⟩, fun h₃ => ⟨h₃, ⟨hboth.1, h₃.within⟩, hbefore hfirst⟩⟩
      · exact (hjoin _ _ c₃ hoperator).looked.weaken (fun _ _ => id) fun _ _ _ h =>
          ⟨h.2.2, ⟨h.2.1, h.2.2.within⟩, hbefore h.1⟩
    · next hmark hin hnot his =>
      cases htoken : s.token with
      | mark m => exact absurd htoken (hmark m)
      | word w =>
        rw [htoken] at hactive
        simp only [Token.compares, Bool.or_eq_true, beq_iff_eq] at hactive
        rcases hactive with (rfl | rfl) | rfl
        · exact absurd htoken hin
        · exact absurd htoken hnot
        · exact absurd htoken his
      | _ => rw [htoken] at hactive; cases hactive
  · intro s s' hno hno'
    refine .nothing ?_ ?_ fun hF => ⟨hF.2, hF⟩
    all_goals
      dsimp only
      split
      · simp_all [Token.compares]
      · simp_all [Token.compares]
      · simp_all [Token.compares]
      · simp_all [Token.compares]
      · rfl

/-- A comparison with the negations before it. -/
theorem negated_echo (hk : k.Echoes whole T) :
    Echo whole T (negated k) (negated k) c (Fine T stops) (c.Next T) := by
  unfold negated
  refine Echoes.bind (.repeating (F := fun f d => Fragment.Stays f ∧ d.Next T) (fun _ _ h => h.budget)
    (fun sofar sofar' c₁ hsofar => ?_) (.refl _)) fun negations negations' c₁ hnegations => ?_
  · refine .look_next fun s s' hs hs' => ?_
    rw [isWord_same hs'.token]
    split
    · next hnot =>
      refine (Echoes.take hs (token_of_isWord hnot ▸ rfl)).bind fun f f' c₂ hf =>
        .pure (alike_some.mpr (hsofar.append hf)) (fun hF => ?_) fun _ => id
      obtain ⟨hstays, hnext⟩ := hF
      rw [Option.getD_some, stays_append] at hstays
      exact ⟨⟨hstays.2, hnext.within⟩, fun h => ⟨h, hstays.1, h⟩⟩
    · exact .looked (.pure rfl (fun hF => ⟨hF.2, hF⟩) fun _ => id)
  · refine (comparison_echo hk).bind fun operand operand' c₂ hoperand => ?_
    rw [hnegations.isEmpty]
    split
    · next hempty =>
      refine .pure hoperand (fun hF => ⟨hF, fun h => ⟨⟨?_, h⟩, And.right⟩⟩) fun _ => id
      rw [List.isEmpty_iff.mp hempty]
      trivial
    · refine .pure ((hnegations.append hoperand).branch _) (fun hF => ?_) fun _ => id
      have hstays := stays_append.mp (stays_of_branch hF.1)
      exact ⟨⟨hstays.2, hF.2⟩, fun h => ⟨⟨hstays.1, h⟩, And.right⟩⟩

/-- Operands with `and` and `or` between them. -/
theorem disjunction_echo (hk : k.Echoes whole T) :
    Echo whole T (disjunction k) (disjunction k) c (Fine T stops) (c.Next T) := by
  unfold disjunction
  refine (negated_echo hk).bind fun first first' c₁ hfirst => ?_
  refine Echoes.weaken (.repeating (F := Fine T stops) (fun _ _ h => h.budget)
    (fun sofar sofar' c₂ hsofar => ?_) hfirst) (fun _ _ => id) fun _ _ _ h => ⟨h, id⟩
  refine .lookOn stops (fun t => t == .word "and" || t == .word "or") rfl (by decide) ?_ ?_ ?_
  · intro t ht
    cases t <;> first | rfl | cases ht
  · intro s s' hs hline hs' hactive
    have hword : (s.isWord "and" || s.isWord "or") = true := hactive
    have htext : s.token.isText = true := by
      rcases (Bool.or_eq_true _ _).mp hword with h | h <;> rw [token_of_isWord h] <;> rfl
    rw [isWord_same hs', isWord_same hs', if_pos hword, if_pos hword]
    refine (Echoes.take hs htext).bind fun operator operator' c₃ hoperator => ?_
    refine (negated_echo hk).bind fun f f' c₄ hf => .pure (alike_some.mpr
      (((hsofar.append hoperator).append hf).branch _)) (fun hF => ?_) fun _ => id
    have hstays := stays_of_branch hF.1
    simp only [stays_append] at hstays
    exact ⟨⟨hstays.2, hF.2⟩, fun h₃ => ⟨⟨hstays.1.2, h₃.within⟩,
      fun h₂ => ⟨h₂, hstays.1.1, h₂.settledOn hline⟩⟩⟩
  · intro s s' hno hno'
    exact .nothing (if_neg (Bool.eq_false_iff.mp hno)) (if_neg (Bool.eq_false_iff.mp hno'))
      fun hF => ⟨hF.2, hF⟩

/-! ## 3. Anonymous functions and generators -/

/-- A parameter of an anonymous function, before a comma or the colon. -/
theorem lambdaParameter_echo (hk : k.Echoes whole T) :
    Echo whole T (lambdaParameter k) (lambdaParameter k) c
      (fun f d => f.Stays ∧ d.Ahead T [.mark ":"]) (c.Next T) := by
  have hnamed : ∀ (stars stars' : Fragment) (c : Cursor), Alike stars stars' → Echo whole T
      (do return branch .parameter (stars ++ (← identifier)))
      (do return branch .parameter (stars' ++ (← identifier))) c
      (fun f d => Fragment.Stays f ∧ d.Ahead T [.mark ":"]) (Fragment.Stays stars ∧ c.Next T) := by
    intro stars stars' c hstars
    refine identifier_echo.bind fun name name' c₁ hname => .pure ((hstars.append hname).branch _)
      (fun hF => ?_) fun _ => id
    have hstays := stays_append.mp (stays_of_branch hF.1)
    exact ⟨⟨hstays.2, hF.2.within⟩, fun h => ⟨hstays.1, h⟩⟩
  unfold lambdaParameter
  refine .look_next fun s s' hs hs' => ?_
  rw [hs'.token]
  split
  · next htoken =>
    refine (Echoes.take hs (htoken ▸ rfl)).bind fun star star' c₁ hstar => ?_
    refine .look_next fun next next' hnext hnext' => ?_
    rw [hnext'.token]
    split
    · exact (hnamed star star' c₁ hstar).looked.weaken (fun _ _ => id) fun _ _ _ h =>
        ⟨h.2, ⟨h.1, h.2.within⟩, fun h => ⟨h, h⟩⟩
    · exact .looked (.pure hstar (fun hF => ⟨hF.2.1, ⟨hF.1, hF.2.within⟩, fun h => ⟨h, h⟩⟩) fun _ => id)
  · next htoken =>
    refine (Echoes.take hs (htoken ▸ rfl)).bind fun stars stars' c₁ hstars => ?_
    exact (hnamed stars stars' c₁ hstars).weaken (fun _ _ => id) fun _ _ _ h =>
      ⟨⟨h.1, h.2.within⟩, fun h => ⟨h, h⟩⟩
  · next htoken =>
    exact (Echoes.take hs (htoken ▸ rfl)).weaken (fun _ _ h => ⟨h.1, h.2.within⟩)
      fun _ _ _ h => ⟨h, h⟩
  · refine identifier_echo.looked.bind fun name name' c₁ hname => ?_
    refine .look_next fun next next' hnext hnext' => ?_
    rw [isMark_same hnext'.token]
    split
    · next hequals =>
      refine (Echoes.take hnext (token_of_isMark hequals ▸ rfl)).bind
        fun equals equals' c₂ hequals => ?_
      refine (hk.expression true c₂).bind fun value value' c₃ hvalue =>
        .pure (((hname.append hequals).append (hvalue.withRole _)).branch _) (fun hF => ?_) fun _ => id
      have hstays := stays_of_branch hF.1
      simp only [stays_append] at hstays
      exact ⟨⟨stays_of_withRole hstays.2, .inr (hF.2.mono (by decide))⟩,
        fun h₂ => ⟨⟨hstays.1.2, h₂.within⟩, fun h₁ => ⟨h₁, ⟨hstays.1.1, h₁.within⟩, fun h => ⟨h, h⟩⟩⟩⟩
    · exact .looked (.pure hname (fun hF => ⟨hF.2.1, ⟨hF.1, hF.2.within⟩, fun h => ⟨h, h⟩⟩) fun _ => id)

theorem lambda_echo (hk : k.Echoes whole T) (conditions : Bool) {s s' : Sight} (hs : c.look false = s)
    (htext : s.token.isText = true) :
    Echoes (Looks (Mirrors whole T false true) s') (lambda k conditions s) (lambda k conditions s') c
      (Fine T stops) (c.Next T) (Mirrors whole T false true) := by
  unfold lambda
  refine (Echoes.take hs htext).bind fun keyword keyword' c₁ hkeyword => ?_
  refine .look_next fun next next' hnext hnext' => ?_
  rw [isMark_same hnext'.token]
  extract_lets afterParameters afterParameters'
  have hafter : ∀ (parameters parameters' : Fragment) (c₂ : Cursor), Alike parameters parameters' →
      Echo whole T (afterParameters parameters) (afterParameters' parameters') c₂ (Fine T stops)
        (keyword.Stays ∧ parameters.Stays ∧ c₂.Next T ∧ (c₂.look false).token = .mark ":") := by
    intro parameters parameters' c₂ hparameters
    refine (mark_echo ":").bind fun colon colon' c₃ hcolon => ?_
    refine (hk.expression conditions c₃).bind fun f f' c₄ hf =>
      .pure ((((hkeyword.append hparameters).append hcolon).append hf).branch _) (fun hF => ?_)
        fun _ => id
    have hstays := stays_of_branch hF.1
    simp only [stays_append] at hstays
    exact ⟨⟨hstays.2, hF.2⟩, fun h₃ => ⟨⟨hstays.1.2, h₃.within⟩,
      fun h₂ => ⟨hstays.1.1.1, hstays.1.1.2, h₂⟩⟩⟩
  split
  · exact (Echoes.looked (.pure (.refl []) id fun _ => id)).bind fun parameters parameters' c₂ hp =>
      (hafter parameters parameters' c₂ hp).weaken (fun _ _ => id) fun _ _ _ h =>
        ⟨h, fun h => ⟨h.2.2.1, ⟨h.1, h.2.2.1.within⟩, id⟩⟩
  · refine (commaList_echo (E := Cursor.Ahead T [.mark ":"]) (fun _ => lambdaParameter_echo hk)
      (fun _ => .inr) (fun _ h => h.mono (List.forall_mem_nil _)) ?_ (by decide)).looked.bind fun r r' c₂ hr => ?_
    · intro t ht
      cases t <;> first | rfl | cases ht
    refine (hafter _ _ c₂ ((alike_prod.mp hr).1.branch _)).weaken (fun _ _ => id) fun _ _ _ h => ?_
    obtain ⟨hkeyword, hparameters, hcolon⟩ := h
    exact ⟨⟨stays_of_branch hparameters, hcolon.1.ahead (by simp [hcolon.2])⟩,
      fun h₁ => ⟨h₁, ⟨hkeyword, h₁.within⟩, id⟩⟩

/-- What a generator gives to its caller. -/
theorem yielded_echo (hk : k.Echoes whole T) {s s' : Sight} (hs : c.look false = s)
    (htext : s.token.isText = true) :
    Echoes (Looks (Mirrors whole T false true) s') (yielded k s) (yielded k s') c
      (Fine T stops) (c.Next T) (Mirrors whole T false true) := by
  unfold yielded
  refine (Echoes.take hs htext).bind fun keyword keyword' c₁ hkeyword => ?_
  refine .lookOn stops (fun t => t == .word "from" || t.startsExpression) rfl (by decide)
    ?_ ?_ ?_
  · intro t ht
    cases t <;> first | rfl | cases ht
  · intro next next' hnext hline hnext' hactive
    rw [isWord_same hnext', hnext']
    split
    · next hfrom =>
      refine (Echoes.take hnext (token_of_isWord hfrom ▸ rfl)).bind fun source source' c₂ hsource => ?_
      refine (hk.expression true c₂).bind fun f f' c₃ hf =>
        .pure (((hkeyword.append hsource).append hf).branch _) (fun hF => ?_) fun _ => id
      have hstays := stays_of_branch hF.1
      simp only [stays_append] at hstays
      exact ⟨⟨hstays.2, hF.2⟩, fun h₂ => ⟨⟨hstays.1.2, h₂.within⟩,
        fun h₁ => ⟨h₁, ⟨hstays.1.1, h₁.within⟩, id⟩⟩⟩
    split
    · refine (members_echo hk true).looked.bind fun r r' c₂ hr =>
        .pure ((hkeyword.append (alike_prod.mp hr).1).branch _) (fun hF => ?_) fun _ => id
      have hstays := stays_append.mp (stays_of_branch hF.1)
      exact ⟨⟨hstays.2, hF.2⟩, fun h₁ => ⟨h₁, ⟨hstays.1, h₁.within⟩, id⟩⟩
    · simp_all [Sight.isWord]
  · intro next next' hno hno'
    simp only [Bool.or_eq_false_iff] at hno hno'
    have hfrom : next.isWord "from" = false := hno.1
    have hfrom' : next'.isWord "from" = false := hno'.1
    rw [hfrom, hfrom', hno.2, hno'.2]
    simp only [Bool.false_eq_true, if_false]
    exact .pure (hkeyword.branch _) (fun hF => ⟨hF.2, ⟨stays_of_branch hF.1, hF.2.within⟩, id⟩)
      fun _ => id

/-! ## 4. Whole expressions -/

theorem expression_echo (hk : k.Echoes whole T) (conditions : Bool) :
    Echo whole T (expression k conditions) (expression k conditions) c (Fine T stops) (c.Next T) := by
  unfold expression
  refine .look_next fun s s' hs hs' => ?_
  rw [hs'.token]
  extract_lets afterValue afterHead
  have hafterValue : ∀ (value value' : Fragment) (c₁ : Cursor), Alike value value' →
      Echo whole T (afterValue value) (afterValue value') c₁ (Fine T stops) (Fine T stops value c₁) := by
    intro value value' c₁ hvalue
    refine .lookOn stops (· == .word "as") rfl (by decide)
      (fun t ht => by rw [eq_of_beq ht]; rfl) ?_ ?_
    · intro next next' hnext hline hnext' hactive
      have has : next.isWord "as" = true := hactive
      rw [isWord_same hnext', if_pos has, if_pos has]
      refine (Echoes.take hnext (token_of_isWord has ▸ rfl)).bind fun keyword keyword' c₂ hkeyword => ?_
      refine (hk.expression conditions c₂).bind fun f f' c₃ hf =>
        .pure (((hvalue.append hkeyword).append hf).branch _) (fun hF => ?_) fun _ => id
      have hstays := stays_of_branch hF.1
      simp only [stays_append] at hstays
      exact ⟨⟨hstays.2, hF.2⟩, fun h₂ => ⟨⟨hstays.1.2, h₂.within⟩,
        fun h₁ => ⟨h₁, hstays.1.1, h₁.settledOn hline⟩⟩⟩
    · intro next next' hno hno'
      have hnone : next.isWord "as" = false := hno
      have hnone' : next'.isWord "as" = false := hno'
      rw [hnone, hnone', if_neg Bool.false_ne_true, if_neg Bool.false_ne_true]
      exact .pure hvalue (fun hF => ⟨hF.2, hF⟩) fun _ => id
  have hafterHead : ∀ (head head' : Fragment) (c₁ : Cursor), Alike head head' →
      Echo whole T (afterHead head) (afterHead head') c₁ (Fine T stops) (Fine T stops head c₁) := by
    intro head head' c₁ hhead
    refine .lookOn stops
      (fun t => t == .mark ":=" && head.isName || conditions && t == .word "if") (by simp) ?_ ?_ ?_ ?_
    · intro t ht
      have hno : (t == .mark ":=") = false ∧ (t == .word "if") = false := by
        revert t
        decide
      rw [hno.1, hno.2, Bool.false_and, Bool.and_false, Bool.or_false]
    · intro t ht
      rcases (Bool.or_eq_true _ _).mp ht with h | h
      · rw [eq_of_beq (Bool.and_eq_true_iff.mp h).1]
        rfl
      · rw [eq_of_beq (Bool.and_eq_true_iff.mp h).2]
        rfl
    · intro next next' hnext hline hnext' hactive
      have hbefore : c₁.Next T → c₁.Settled T stops := fun h => h.settledOn hline
      rw [isMark_same hnext', isWord_same hnext', hhead.isName]
      split
      · next hbecomes =>
        have htext := token_of_isMark (Bool.and_eq_true_iff.mp hbecomes).1
        refine (Echoes.take hnext (htext ▸ rfl)).bind fun becomes becomes' c₂ hbecomes => ?_
        refine (hk.expression conditions c₂).bind fun f f' c₃ hf =>
          (hafterValue _ _ c₃ (((hhead.append hbecomes).append hf).branch _)).weaken (fun _ _ => id)
            fun _ _ _ h => ?_
        have hstays := stays_of_branch h.1
        simp only [stays_append] at hstays
        exact ⟨⟨hstays.2, h.2⟩, fun h₂ => ⟨⟨hstays.1.2, h₂.within⟩,
          fun h₁ => ⟨h₁, hstays.1.1, hbefore h₁⟩⟩⟩
      split
      · next hif =>
        have htext := token_of_isWord (Bool.and_eq_true_iff.mp hif).2
        refine (Echoes.take hnext (htext ▸ rfl)).bind fun condition condition' c₂ hcondition => ?_
        refine (withEnds_echo (hk.expression true)).bind fun test test' c₃ htest => ?_
        refine (word_echo "else").bind fun otherwise otherwise' c₄ hotherwise => ?_
        refine (hk.expression true c₄).bind fun f f' c₅ hf =>
          (hafterValue _ _ c₅ (((((hhead.append hcondition).append htest).append hotherwise).append
            hf).branch _)).weaken (fun _ _ => id) fun _ _ _ h => ?_
        have hstays := stays_of_branch h.1
        simp only [stays_append] at hstays
        exact ⟨⟨hstays.2, h.2⟩, fun h₄ => ⟨⟨hstays.1.2, h₄.within⟩,
          fun h₃ => ⟨⟨hstays.1.1.2, h₃.1, by rw [h₃.2]; decide⟩,
            fun h₂ => ⟨⟨hstays.1.1.1.2, h₂.within⟩,
              fun h₁ => ⟨h₁, hstays.1.1.1.1, hbefore h₁⟩⟩⟩⟩⟩
      · next hname hif =>
        rcases (Bool.or_eq_true _ _).mp hactive with h | h
        · exact absurd h hname
        · exact absurd h hif
    · intro next next' hno hno'
      obtain ⟨hname, hif⟩ := Bool.or_eq_false_iff.mp hno
      obtain ⟨hname', hif'⟩ := Bool.or_eq_false_iff.mp hno'
      have hparts : (next.isMark ":=" && head.isName) = false ∧ (conditions && next.isWord "if") = false :=
        ⟨hname, hif⟩
      have hparts' : (next'.isMark ":=" && head.isName) = false ∧
          (conditions && next'.isWord "if") = false := ⟨hname', hif'⟩
      rw [hhead.isName, hparts.1, hparts.2, hparts'.1, hparts'.2]
      simp only [Bool.false_eq_true, if_false]
      exact (hafterValue _ _ c₁ hhead).weaken (fun _ _ => id) fun _ _ _ h => ⟨h.2, h⟩
  split
  · next htoken =>
    exact (lambda_echo hk conditions hs (htoken ▸ rfl)).bind fun head head' c₁ hhead =>
      (hafterHead head head' c₁ hhead).weaken (fun _ _ => id) fun _ _ _ h => ⟨h, fun h => ⟨h, h⟩⟩
  · next htoken =>
    exact (yielded_echo hk hs (htoken ▸ rfl)).bind fun head head' c₁ hhead =>
      (hafterHead head head' c₁ hhead).weaken (fun _ _ => id) fun _ _ _ h => ⟨h, fun h => ⟨h, h⟩⟩
  · next htoken =>
    refine (Echoes.take hs (htoken ▸ rfl)).bind fun star star' c₁ hstar => ?_
    refine (hk.expression conditions c₁).bind fun f f' c₂ hf =>
      (hafterHead _ _ c₂ ((hstar.append hf).branch _)).weaken (fun _ _ => id) fun _ _ _ h => ?_
    have hstays := stays_append.mp (stays_of_branch h.1)
    exact ⟨⟨hstays.2, h.2⟩, fun h₁ => ⟨⟨hstays.1, h₁.within⟩, fun h => ⟨h, h⟩⟩⟩
  · exact (disjunction_echo hk).looked.bind fun head head' c₁ hhead =>
      (hafterHead head head' c₁ hhead).weaken (fun _ _ => id) fun _ _ _ h => ⟨h, fun h => ⟨h, h⟩⟩

/-- An annotation at the end of the text that is looked at. -/
theorem typeHint_echo (hk : k.Echoes whole T) (bounds : Bool) :
    Echo whole T (typeHint k bounds) (typeHint k bounds) c (Fine T []) (c.Next T) := by
  unfold typeHint
  refine (element_echo hk).bind fun first first' c₁ hfirst => ?_
  refine .lookOn [] (fun t => bounds && t == .mark ":") (by simp) nofun ?_ ?_ ?_
  · intro t ht
    rw [eq_of_beq (Bool.and_eq_true_iff.mp ht).2]
    rfl
  · intro s s' hs hline hs' hactive
    have hcolon : (bounds && s.isMark ":") = true := hactive
    rw [isMark_same hs', if_pos hcolon, if_pos hcolon]
    refine (Echoes.take hs (token_of_isMark (Bool.and_eq_true_iff.mp hcolon).2 ▸ rfl)).bind
      fun colon colon' c₂ hcolon => ?_
    refine (element_echo hk).bind fun f f' c₃ hf =>
      .pure (((hfirst.append hcolon).append hf).branch _) (fun hF => ?_) fun _ => id
    have hstays := stays_of_branch hF.1
    simp only [stays_append] at hstays
    exact ⟨⟨hstays.2, hF.2.mono nofun⟩, fun h₂ => ⟨⟨hstays.1.2, h₂.within⟩,
      fun h₁ => ⟨h₁, ⟨hstays.1.1, h₁.settledOn hline⟩, id⟩⟩⟩
  · intro s s' hno hno'
    have hnone : (bounds && s.isMark ":") = false := hno
    have hnone' : (bounds && s'.isMark ":") = false := hno'
    rw [hnone, hnone', if_neg Bool.false_ne_true, if_neg Bool.false_ne_true]
    exact .pure (hfirst.branch _)
      (fun hF => ⟨hF.2, ⟨stays_of_branch hF.1, hF.2.mono nofun⟩, id⟩) fun _ => id

end FluentBuilders.Grammar
