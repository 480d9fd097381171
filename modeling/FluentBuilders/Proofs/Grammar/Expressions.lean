import FluentBuilders.Proofs.Grammar.Passage

/-!
Readers of expressions: each gives a fragment that was read in a passage between its cursors.

1. `Knot.Passes`: the same of the readers that are called through any depth.
2. Strings.
3. Displays and comprehensions.
4. Primaries and targets.
5. Operators.
6. Whole expressions and annotations.
7. Any depth.
-/

namespace FluentBuilders.Grammar

open Text

/-! ## 1. Recursion -/

/-- The readers of expressions that are called through any depth read in passages. -/
structure Knot.Passes (k : Knot) : Prop where
  expression : ∀ conditions c, Ensures (k.expression conditions) c (Passage c)
  interpolation : ∀ c, Ensures k.interpolation c (Passage c)

variable {k : Knot} {c : Cursor} {target : Reader Fragment}

/-! ## 2. Strings -/

theorem stringContent_passes (hk : k.Passes) (form : StringForm) :
    Ensures (stringContent k form) c (Passage c) := by
  unfold stringContent
  refine (Ensures.repeating (Q := fun r c' => Passage c r.1 c') (.nil c) ?_).bind
    fun r c₂ h₂ => .pure h₂
  rintro ⟨sofar, done⟩ c₁ h₁
  dsimp only
  split
  · exact .pure h₁
  refine .get ?_
  split
  · intro a c' e
    cases e
  · refine (stringPiece_passes _).bind fun content c₂ h₂ => ?_
    refine (stringPiece_passes _).bind fun closing c₃ h₃ => .pure ?_
    exact (h₁.append h₂).append h₃
  · refine (stringPiece_passes _).bind fun content c₂ h₂ => ?_
    refine (hk.interpolation _).bind fun field c₃ h₃ => .pure ?_
    exact (h₁.append h₂).append h₃

theorem string_passes (hk : k.Passes) : Ensures (string k) c (Passage c) := by
  have hone : ∀ (c : Cursor) (s : Sight), c.Saw s → Ensures (do
      let opening := ((s.cursor.rest.take s.length).map (·.char))
      let first ← take s .stringPart
      return branch .string (first ++ (← stringContent k (.ofOpening opening)))) c (Passage c) := by
    intro c s hs
    refine (take_passes hs (by decide)).bind fun first c₁ h₁ => ?_
    exact (stringContent_passes hk _).bind fun content c₂ h₂ => .pure
      ((h₁.append h₂).branch (by decide))
  unfold string
  refine .see fun s hs => (hone c s hs).bind fun first c₁ h₁ => ?_
  refine (Ensures.repeating (Q := fun r c' => Passage c r.1 c') h₁ ?_).bind fun r c₂ h₂ => ?_
  · rintro ⟨sofar, several⟩ c₂ h₂
    refine .seeOn fun s hs => ?_
    split
    · exact (hone _ s hs).bind fun f c₃ h₃ => .pure (h₂.append h₃)
    · exact .pure h₂
  · obtain ⟨all, several⟩ := r
    refine .pure ?_
    split
    · exact h₂.branch (by decide)
    · exact h₂

theorem formatSpecification_passes (hk : k.Passes) :
    Ensures (formatSpecification k) c (Passage c) := by
  unfold formatSpecification
  refine .repeating (.nil c) fun sofar c₁ h₁ => .get ?_
  dsimp only
  split
  · exact (stringPiece_passes _).bind fun f c₂ h₂ => .pure (h₁.append h₂)
  split
  · exact (hk.interpolation _).bind fun f c₂ h₂ => .pure (h₁.append h₂)
  · exact .pure h₁

theorem interpolation_passes (hk : k.Passes) :
    Ensures (interpolation k) c (Passage c) := by
  unfold interpolation
  refine (stringPiece_passes _).bind fun opening c₁ h₁ => .modify ?_
  refine (commaList_passes (hk.expression true)).bind fun r c₂ h₂ => ?_
  obtain ⟨value, several⟩ := r
  have h₁₂ := h₁.append (h₂.before rfl rfl rfl rfl)
  refine .see fun s hs => ?_
  extract_lets afterEquals
  have hafterEquals : ∀ equals c₃, Passage c₂ equals c₃ →
      Ensures (afterEquals equals) c₃ (Passage c) := by
    intro equals c₃ h₃
    refine .see fun s hs => ?_
    extract_lets afterConversion
    have hafterConversion : ∀ conversion c₄, Passage c₃ conversion c₄ →
        Ensures (afterConversion conversion) c₄ (Passage c) := by
      intro conversion c₄ h₄
      refine .see fun s hs => ?_
      extract_lets afterAll
      have hafterAll : ∀ specification c₅, Passage c₄ specification c₅ →
          Ensures (afterAll specification) c₅ (Passage c) := by
        intro specification c₅ h₅
        refine (mark_passes _).bind fun closing c₆ h₆ => .modify (.pure ?_)
        refine Passage.behind ?_ rfl rfl rfl rfl (d := c₆)
        exact ((((h₁₂.append h₃).append h₄).append h₅).append h₆).branch (by decide)
      split
      · refine (take_passes hs (by decide)).bind fun colon c₅ h₅ => ?_
        refine (formatSpecification_passes hk).bind fun f c₆ h₆ => ?_
        exact hafterAll _ _ (h₅.append h₆)
      · exact hafterAll _ _ (.nil _)
    split
    · exact (takeLength_passes hs (by decide) _).bind hafterConversion
    · exact hafterConversion _ _ (.nil _)
  split
  · exact (take_passes hs (by decide)).bind hafterEquals
  · exact hafterEquals _ _ (.nil _)

/-! ## 3. Displays -/

theorem forTargets_passes (ht : ∀ c, Ensures target c (Passage c)) :
    Ensures (forTargets target) c (Passage c) := by
  unfold forTargets
  refine (commaList_passes ht).bind fun r c₁ h₁ => .pure ?_
  obtain ⟨all, several⟩ := r
  refine Passage.withRole ?_ (by decide)
  split
  · exact h₁.branch (by decide)
  · exact h₁

theorem comprehensionClauses_passes (hk : k.Passes)
    (ht : ∀ c, Ensures target c (Passage c)) :
    Ensures (comprehensionClauses k target) c (Passage c) := by
  unfold comprehensionClauses
  refine .repeating (.nil c) fun sofar c₁ h₁ => .seeOn fun s hs => ?_
  split
  · exact (take_passes hs (by decide)).bind fun f c₂ h₂ => .pure (h₁.append h₂)
  · refine (take_passes hs (by decide)).bind fun keyword c₂ h₂ => ?_
    refine (forTargets_passes ht).bind fun targets c₃ h₃ => ?_
    refine (word_passes _).bind fun member c₄ h₄ => ?_
    refine (commaList_passes (hk.expression false)).bind fun r c₅ h₅ => .pure ?_
    have h₆ := h₅.withRole (r := .right) (by decide)
    exact h₁.append ((((h₂.append h₃).append h₄).append h₆).branch (by decide))
  · refine (take_passes hs (by decide)).bind fun keyword c₂ h₂ => ?_
    exact (hk.expression false _).bind fun f c₃ h₃ => .pure
      (h₁.append ((h₂.append h₃).branch (by decide)))
  · exact .pure h₁

theorem element_passes (hk : k.Passes) :
    Ensures (element k) c (Passage c) := by
  unfold element
  refine .see fun s hs => ?_
  split
  · refine (take_passes hs (by decide)).bind fun stars c₁ h₁ => ?_
    exact (hk.expression true _).bind fun f c₂ h₂ => .pure ((h₁.append h₂).branch (by decide))
  · exact hk.expression true c

/-- What a display has read before its closing bracket becomes a node with it. -/
theorem close_passes {opening inner : Fragment} {kind : Kind} {closing : String}
    {c₁ : Cursor} (h : Passage c (opening ++ inner) c₁)
    (hkind : kind.isOpen = true) :
    Ensures (do
      let last ← mark closing
      modify fun c => { c with brackets := c.brackets - 1 }
      return branch kind (opening ++ inner ++ last)) c₁ (Passage c) := by
  refine (mark_passes _).bind fun last c₂ h₂ => .modify (.pure ?_)
  have h₃ := (h.append h₂).branch hkind
  exact h₃.behind rfl rfl rfl rfl

theorem roundDisplay_passes (hk : k.Passes)
    (ht : ∀ c, Ensures target c (Passage c)) :
    Ensures (roundDisplay k target) c (Passage c) := by
  unfold roundDisplay
  refine (mark_passes _).bind fun opening c₁ h₁ => .modify (.see fun s hs => ?_)
  have h₁ : Passage c opening { c₁ with brackets := c₁.brackets + 1 } :=
    h₁.behind rfl rfl rfl rfl
  split
  · exact close_passes (h₁.append (.nil _)) (by decide)
  refine (commaList_passes fun c => element_passes hk).bind fun r c₂ h₂ => ?_
  obtain ⟨elements, several⟩ := r
  refine .see fun s hs => ?_
  dsimp only
  split
  · exact close_passes (h₁.append h₂) (by decide)
  split
  · refine (comprehensionClauses_passes hk ht).bind fun f c₃ h₃ => ?_
    exact close_passes (h₁.append (h₂.append h₃)) (by decide)
  · exact close_passes (h₁.append h₂) (by decide)

theorem squareDisplay_passes (hk : k.Passes)
    (ht : ∀ c, Ensures target c (Passage c)) :
    Ensures (squareDisplay k target) c (Passage c) := by
  unfold squareDisplay
  refine (mark_passes _).bind fun opening c₁ h₁ => .modify (.see fun s hs => ?_)
  have h₁ : Passage c opening { c₁ with brackets := c₁.brackets + 1 } :=
    h₁.behind rfl rfl rfl rfl
  split
  · exact close_passes (h₁.append (.nil _)) (by decide)
  refine (commaList_passes fun c => element_passes hk).bind fun r c₂ h₂ => ?_
  obtain ⟨elements, several⟩ := r
  refine .see fun s hs => ?_
  dsimp only
  split
  · refine (comprehensionClauses_passes hk ht).bind fun f c₃ h₃ => ?_
    exact close_passes (h₁.append (h₂.append h₃)) (by decide)
  · exact close_passes (h₁.append h₂) (by decide)

theorem entry_passes (hk : k.Passes) : Ensures (entry k) c (Passage c) := by
  unfold entry
  refine (element_passes hk).bind fun key c₁ h₁ => .see fun s hs => ?_
  split
  · refine (take_passes hs (by decide)).bind fun colon c₂ h₂ => ?_
    refine (hk.expression true _).bind fun f c₃ h₃ => .pure ?_
    exact ((h₁.append h₂).append (h₃.withRole (by decide))).branch (by decide)
  · exact .pure h₁

theorem curlyDisplay_passes (hk : k.Passes)
    (ht : ∀ c, Ensures target c (Passage c)) :
    Ensures (curlyDisplay k target) c (Passage c) := by
  unfold curlyDisplay
  refine (mark_passes _).bind fun opening c₁ h₁ => .modify (.see fun s hs => ?_)
  have h₁ : Passage c opening { c₁ with brackets := c₁.brackets + 1 } :=
    h₁.behind rfl rfl rfl rfl
  split
  · exact close_passes (h₁.append (.nil _)) (by decide)
  refine (commaList_passes fun c => entry_passes hk).bind fun r c₂ h₂ => ?_
  obtain ⟨entries, several⟩ := r
  refine .see fun s hs => ?_
  dsimp only
  split
  · refine (comprehensionClauses_passes hk ht).bind fun f c₃ h₃ => ?_
    exact close_passes (h₁.append (h₂.append h₃)) (by decide)
  · exact close_passes (h₁.append h₂) (by decide)

/-! ## 4. Primaries and targets -/

theorem argument_passes (hk : k.Passes)
    (ht : ∀ c, Ensures target c (Passage c)) : Ensures (argument k target) c (Passage c) := by
  unfold argument
  refine (element_passes hk).bind fun value c₁ h₁ => .see fun s hs => ?_
  split
  · refine (take_passes hs (by decide)).bind fun equals c₂ h₂ => ?_
    refine (hk.expression true _).bind fun f c₃ h₃ => .pure ?_
    have h₄ := (h₁.withRole (r := .name) (by decide)).append h₂
    exact (h₄.append (h₃.withRole (by decide))).branch (by decide)
  split
  · exact (comprehensionClauses_passes hk ht).bind fun f c₂ h₂ => .pure
      ((h₁.append h₂).branch (by decide))
  · exact .pure h₁

theorem argumentList_passes (hk : k.Passes)
    (ht : ∀ c, Ensures target c (Passage c)) : Ensures (argumentList k target) c (Passage c) := by
  unfold argumentList
  refine (bracketed_passes fun c => .see fun s hs => ?_).bind fun f c₁ h₁ => .pure
    (h₁.branch (by decide))
  split
  · exact .pure (.nil c)
  · exact (commaList_passes fun c => argument_passes hk ht).bind fun r c₁ h₁ => .pure h₁

theorem subscript_passes (hk : k.Passes) :
    Ensures (subscript k) c (Passage c) := by
  unfold subscript
  refine .see fun s hs => ?_
  extract_lets afterFirst
  have hafterFirst : ∀ first c₁, Passage c first c₁ →
      Ensures (afterFirst first) c₁ (Passage c) := by
    intro first c₁ h₁
    refine .see fun s hs => ?_
    split
    · exact .pure h₁
    refine (Ensures.repeating (.nil c₁) fun sofar c₂ h₂ => .see fun s hs => ?_).bind
      fun rest c₂ h₂ => .pure ((h₁.append h₂).branch (by decide))
    split
    · exact .pure h₂
    refine (take_passes hs (by decide)).bind fun colon c₃ h₃ => .see fun next hn => ?_
    split
    · exact (hk.expression true _).bind fun f c₄ h₄ => .pure ((h₂.append h₃).append h₄)
    · exact .pure (h₂.append h₃)
  split
  · exact hafterFirst _ _ (.nil c)
  · exact (element_passes hk).bind hafterFirst

theorem trailers_passes (hk : k.Passes) (ht : ∀ c, Ensures target c (Passage c))
    {head : Fragment} {c₁ : Cursor} (h : Passage c head c₁) :
    Ensures (trailers k target head) c₁ (Passage c) := by
  unfold trailers
  refine .repeating h fun sofar c₂ h₂ => .seeOn fun s hs => ?_
  split
  · refine (take_passes hs (by decide)).bind fun dot c₃ h₃ => ?_
    refine (identifier_passes).bind fun f c₄ h₄ => .pure ?_
    exact ((h₂.append h₃).append h₄).branch (by decide)
  · refine (bracketed_passes fun c => ?_).bind fun f c₃ h₃ => .pure ?_
    · exact (commaList_passes fun c => subscript_passes hk).bind fun r c₁ h₁ => .pure h₁
    · exact ((h₂.withRole (by decide)).append h₃).branch (by decide)
  · refine (argumentList_passes hk ht).bind fun f c₃ h₃ => .pure ?_
    exact ((h₂.withRole (by decide)).append (h₃.withRole (by decide))).branch (by decide)
  · exact .pure h₂

theorem atom_passes (hk : k.Passes) (ht : ∀ c, Ensures target c (Passage c)) :
    Ensures (atom k target) c (Passage c) := by
  unfold atom
  refine .see fun s hs => ?_
  split
  · split
    · exact take_passes hs (by decide)
    · exact take_passes hs (by decide)
  · exact take_passes hs (by decide)
  · exact string_passes hk
  · exact roundDisplay_passes hk ht
  · exact squareDisplay_passes hk ht
  · exact curlyDisplay_passes hk ht
  · exact take_passes hs (by decide)
  · exact .failAt s

theorem primary_passes (hk : k.Passes)
    (ht : ∀ c, Ensures target c (Passage c)) : Ensures (primary k target) c (Passage c) := by
  unfold primary
  exact (atom_passes hk ht).bind fun f c₁ h₁ => trailers_passes hk ht h₁

theorem loopTarget_passes (hk : k.Passes) :
    Ensures (loopTarget k) c (Passage c) := by
  unfold loopTarget
  refine .see fun s hs => ?_
  extract_lets afterStar
  have hafterStar : ∀ star c₁, Passage c star c₁ → Ensures (afterStar star) c₁ (Passage c) := by
    intro star c₁ h₁
    have hfail : ∀ c, Ensures (do failAt (← look)) c (Passage c) := fun c =>
      .see fun s _ => .failAt s
    refine (primary_passes hk hfail).bind fun inner c₂ h₂ => .get ?_
    split
    · next targets htargets =>
      refine .pure (Passage.targets (f := if star.isEmpty then inner else _) ?_ htargets)
      split
      · next hstar =>
        rw [List.isEmpty_iff.mp hstar] at h₁
        exact h₁.append h₂
      · exact (h₁.append h₂).branch (by decide)
    · exact .failAt s
  split
  · exact (take_passes hs (by decide)).bind hafterStar
  · exact hafterStar _ _ (.nil c)

/-! ## 5. Operators -/

theorem signed_passes (hk : k.Passes) : Ensures (signed k) c (Passage c) := by
  unfold signed
  refine (Ensures.repeating (Q := Passage c) (.nil c) fun sofar c₁ h₁ => .see fun s hs => ?_).bind
    fun signs c₁ h₁ => ?_
  · have hsign : Ensures (do return some (sofar ++ (← take s .mark))) c₁
        fun r c' => Passage c (r.getD sofar) c' :=
      (take_passes hs (by decide)).bind fun f c₂ h₂ => .pure (h₁.append h₂)
    split
    · exact hsign
    · exact hsign
    · exact hsign
    · refine .get ((take_passes hs (by decide)).bind fun keyword c₂ h₂ => .seeOn fun next hn => ?_)
      split
      · exact .pure (h₁.append h₂)
      · exact .set (.pure h₁)
    · exact .pure h₁
  · refine (primary_passes hk fun c => loopTarget_passes hk).bind fun operand c₂ h₂ => .pure ?_
    split
    · next hsigns =>
      rw [List.isEmpty_iff.mp hsigns] at h₁
      exact h₁.append h₂
    · exact (h₁.append h₂).branch (by decide)

theorem arithmetic_passes (hk : k.Passes) :
    Ensures (arithmetic k) c (Passage c) := by
  unfold arithmetic
  refine (signed_passes hk).bind fun first c₁ h₁ => ?_
  refine .repeating h₁ fun sofar c₂ h₂ => .seeOn fun s hs => ?_
  split
  · split
    · refine (take_passes hs (by decide)).bind fun operator c₃ h₃ => ?_
      exact (signed_passes hk).bind fun f c₄ h₄ => .pure
        (((h₂.append h₃).append h₄).branch (by decide))
    · exact .pure h₂
  · exact .pure h₂

theorem comparison_passes (hk : k.Passes) :
    Ensures (comparison k) c (Passage c) := by
  unfold comparison
  refine (arithmetic_passes hk).bind fun first c₁ h₁ => ?_
  refine .repeating h₁ fun sofar c₂ h₂ => .seeOn fun s hs => ?_
  have hjoin : ∀ operator c₃, Passage c₂ operator c₃ → Ensures (do
      return some (branch .comparison (sofar ++ operator ++ (← arithmetic k)))) c₃
        fun r c' => Passage c (r.getD sofar) c' := fun operator c₃ h₃ =>
    (arithmetic_passes hk).bind fun f c₄ h₄ => .pure
      (((h₂.append h₃).append h₄).branch (by decide))
  dsimp only
  split
  · split
    · exact (take_passes hs (by decide)).bind hjoin
    · exact .pure h₂
  · exact (take_passes hs (by decide)).bind hjoin
  · refine (take_passes hs (by decide)).bind fun negation c₃ h₃ => ?_
    exact (word_passes _).bind fun member c₄ h₄ => hjoin _ _ (h₃.append h₄)
  · refine (take_passes hs (by decide)).bind fun operator c₃ h₃ => .see fun next hn => ?_
    split
    · exact (take_passes hn (by decide)).bind fun negation c₄ h₄ => hjoin _ _ (h₃.append h₄)
    · exact hjoin _ _ h₃
  · exact .pure h₂

theorem negated_passes (hk : k.Passes) : Ensures (negated k) c (Passage c) := by
  unfold negated
  refine (Ensures.repeating (Q := Passage c) (.nil c) fun sofar c₁ h₁ => .see fun s hs => ?_).bind
    fun negations c₁ h₁ => ?_
  · split
    · exact (take_passes hs (by decide)).bind fun f c₂ h₂ => .pure (h₁.append h₂)
    · exact .pure h₁
  · refine (comparison_passes hk).bind fun operand c₂ h₂ => .pure ?_
    split
    · next hnegations =>
      rw [List.isEmpty_iff.mp hnegations] at h₁
      exact h₁.append h₂
    · exact (h₁.append h₂).branch (by decide)

theorem disjunction_passes (hk : k.Passes) :
    Ensures (disjunction k) c (Passage c) := by
  unfold disjunction
  refine (negated_passes hk).bind fun first c₁ h₁ => ?_
  refine .repeating h₁ fun sofar c₂ h₂ => .seeOn fun s hs => ?_
  split
  · refine (take_passes hs (by decide)).bind fun operator c₃ h₃ => ?_
    exact (negated_passes hk).bind fun f c₄ h₄ => .pure
      (((h₂.append h₃).append h₄).branch (by decide))
  · exact .pure h₂

/-! ## 6. Whole expressions -/

theorem lambdaParameter_passes (hk : k.Passes) :
    Ensures (lambdaParameter k) c (Passage c) := by
  unfold lambdaParameter
  refine .see fun s hs => ?_
  split
  · refine (take_passes hs (by decide)).bind fun star c₁ h₁ => .see fun next hn => ?_
    split
    · exact (identifier_passes).bind fun f c₂ h₂ => .pure ((h₁.append h₂).branch (by decide))
    · exact .pure h₁
  · refine (take_passes hs (by decide)).bind fun stars c₁ h₁ => ?_
    exact (identifier_passes).bind fun f c₂ h₂ => .pure ((h₁.append h₂).branch (by decide))
  · exact take_passes hs (by decide)
  · refine (identifier_passes).bind fun name c₁ h₁ => .see fun next hn => ?_
    split
    · refine (take_passes hn (by decide)).bind fun equals c₂ h₂ => ?_
      refine (hk.expression true _).bind fun f c₃ h₃ => .pure ?_
      exact ((h₁.append h₂).append (h₃.withRole (by decide))).branch (by decide)
    · exact .pure h₁

theorem lambda_passes (hk : k.Passes) {s : Sight} (hs : c.Saw s)
    (conditions : Bool) : Ensures (lambda k conditions s) c (Passage c) := by
  unfold lambda
  refine (take_passes hs (by decide)).bind fun keyword c₁ h₁ => .see fun next hn => ?_
  extract_lets afterParameters
  have hafter : ∀ parameters c₂, Passage c₁ parameters c₂ →
      Ensures (afterParameters parameters) c₂ (Passage c) := by
    intro parameters c₂ h₂
    refine (mark_passes _).bind fun colon c₃ h₃ => ?_
    refine (hk.expression conditions _).bind fun f c₄ h₄ => .pure ?_
    exact (((h₁.append h₂).append h₃).append h₄).branch (by decide)
  split
  · exact hafter _ _ (.nil _)
  · refine (commaList_passes fun c => lambdaParameter_passes hk).bind fun r c₂ h₂ => ?_
    exact hafter _ _ (h₂.branch (by decide))

theorem yielded_passes (hk : k.Passes) {s : Sight} (hs : c.Saw s) :
    Ensures (yielded k s) c (Passage c) := by
  unfold yielded
  refine (take_passes hs (by decide)).bind fun keyword c₁ h₁ => .seeOn fun next hn => ?_
  split
  · refine (take_passes hn (by decide)).bind fun source c₂ h₂ => ?_
    refine (hk.expression true _).bind fun f c₃ h₃ => .pure ?_
    exact ((h₁.append h₂).append h₃).branch (by decide)
  split
  · refine (commaList_passes (hk.expression true)).bind fun r c₂ h₂ => .pure ?_
    exact (h₁.append h₂).branch (by decide)
  · exact .pure (h₁.branch (by decide))

theorem expression_passes (hk : k.Passes) (conditions : Bool) :
    Ensures (expression k conditions) c (Passage c) := by
  unfold expression
  refine .see fun s hs => ?_
  extract_lets afterValue afterHead
  have hafterValue : ∀ value c₁, Passage c value c₁ →
      Ensures (afterValue value) c₁ (Passage c) := by
    intro value c₁ h₁
    refine .seeOn fun next hn => ?_
    split
    · refine (take_passes hn (by decide)).bind fun keyword c₂ h₂ => ?_
      refine (hk.expression conditions _).bind fun f c₃ h₃ => .pure ?_
      exact ((h₁.append h₂).append h₃).branch (by decide)
    · exact .pure h₁
  have hafterHead : ∀ head c₁, Passage c head c₁ → Ensures (afterHead head) c₁ (Passage c) := by
    intro head c₁ h₁
    refine .seeOn fun next hn => ?_
    split
    · refine (take_passes hn (by decide)).bind fun becomes c₂ h₂ => ?_
      refine (hk.expression conditions _).bind fun f c₃ h₃ => ?_
      exact hafterValue _ _ (((h₁.append h₂).append h₃).branch (by decide))
    split
    · refine (take_passes hn (by decide)).bind fun condition c₂ h₂ => ?_
      refine (withEnds_passes (hk.expression true)).bind fun test c₃ h₃ => ?_
      refine (word_passes _).bind fun otherwise c₄ h₄ => ?_
      refine (hk.expression true _).bind fun f c₅ h₅ => ?_
      have h := (((h₁.append h₂).append h₃).append h₄).append h₅
      exact hafterValue _ _ (h.branch (by decide))
    · exact hafterValue _ _ h₁
  split
  · exact (lambda_passes hk hs conditions).bind hafterHead
  · exact (yielded_passes hk hs).bind hafterHead
  · refine (take_passes hs (by decide)).bind fun star c₁ h₁ => ?_
    refine (hk.expression conditions _).bind fun f c₂ h₂ => ?_
    exact hafterHead _ _ ((h₁.append h₂).branch (by decide))
  · exact (disjunction_passes hk).bind hafterHead

theorem expressions_passes (hk : k.Passes) :
    Ensures (expressions k) c fun r c' => Passage c r.1 c' :=
  commaList_passes (hk.expression true)

theorem typeHint_passes (hk : k.Passes) (bounds : Bool) :
    Ensures (typeHint k bounds) c (Passage c) := by
  unfold typeHint
  refine (element_passes hk).bind fun first c₁ h₁ => .seeOn fun s hs => ?_
  split
  · refine (take_passes hs (by decide)).bind fun colon c₂ h₂ => ?_
    refine (element_passes hk).bind fun f c₃ h₃ => .pure ?_
    exact ((h₁.append h₂).append h₃).branch (by decide)
  · exact .pure (h₁.branch (by decide))

theorem typeParameters_passes (hk : k.Passes) :
    Ensures (typeParameters k) c (Passage c) := by
  have hitem : ∀ c, Ensures (do
      let bound ← typeHint k true
      let s ← look
      if s.isMark "=" then
        let equals ← take s .mark
        return bound ++ equals ++ (← typeHint k false)
      else return bound) c (Passage c) := by
    intro c
    refine (typeHint_passes hk true).bind fun bound c₁ h₁ => .see fun s hs => ?_
    split
    · refine (take_passes hs (by decide)).bind fun equals c₂ h₂ => ?_
      exact (typeHint_passes hk false).bind fun f c₃ h₃ => .pure ((h₁.append h₂).append h₃)
    · exact .pure h₁
  unfold typeParameters
  refine .see fun s hs => ?_
  split
  · exact .pure (.nil c)
  refine (bracketed_passes fun c => ?_).bind fun f c₁ h₁ => .pure (h₁.branch (by decide))
  exact (commaList_passes hitem).bind fun r c₁ h₁ => .pure h₁

/-! ## 7. Any depth -/

theorem Knot.tied_passes (depth : Nat) : (Knot.tied depth).Passes := by
  induction depth with
  | zero =>
    have hgive : ∀ c Q, Ensures (do failAt (← look) : Reader Fragment) c Q := fun c Q =>
      .look fun s _ => .failAt s
    exact ⟨fun _ c => hgive c _, fun c => hgive c _⟩
  | succ depth ih =>
    exact
      { expression := fun conditions c => expression_passes ih conditions
        interpolation := fun c => interpolation_passes ih }

end FluentBuilders.Grammar
