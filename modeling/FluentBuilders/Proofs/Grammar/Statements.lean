import FluentBuilders.Proofs.Grammar.Expressions

/-!
Readers of statements: each gives a fragment that covers the text between its cursors, with statements
below it only where they may stand, and so the tree of a whole text satisfies every property that
building keeps.

1. `Fragment.Free`: fragments without nodes in a role.
2. Imports.
3. Assignments and other simple statements.
4. Lines and blocks.
5. Definitions: the name of a class or a function has no dot.
6. Compound statements.
7. Repair.
8. Whole texts.
-/

namespace FluentBuilders.Grammar

open Text

variable {P : Cursor → Node → Prop} {K : Node → Prop} {k : Knot} {c : Cursor}

/-! ## 1. Fragments without a role -/

/-- No node of the fragment is in the role. -/
def Fragment.Free (r : Role) (f : Fragment) : Prop := ∀ n ∈ f, n.role ≠ r

namespace Fragment.Free

variable {r r' : Role} {f g : Fragment}

theorem nil : Fragment.Free r [] := by
  intro n hn
  cases hn

theorem append (hf : Fragment.Free r f) (hg : Fragment.Free r g) : Fragment.Free r (f ++ g) :=
  fun n hn => (List.mem_append.mp hn).elim (hf n) (hg n)

/-- A fragment in one role has no node in another. -/
theorem of_withRole {c' : Cursor} (h : Covers P K c f c') (hne : r' ≠ r) (hr : r ≠ .none) :
    Fragment.Free r (f.withRole r') := by
  intro n hn
  obtain ⟨m, hm, rfl⟩ := List.mem_map.mp hn
  split
  · next hloose =>
    rw [h.loose m hm (by simpa using hloose)]
    exact hr.symm
  · cases m with
    | absent => exact hr.symm
    | leaf => exact hne
    | tree => exact hne

/-- A new node is in no role. -/
theorem of_branch {c' : Cursor} {kind : Kind} (h : Covers P K c f c') (hr : r ≠ .none) :
    Fragment.Free r (branch kind f) := by
  obtain ⟨before, inner, after, rfl, e, hends⟩ := enclose_parts Node.isExtra kind f
  have hextra : ∀ n ∈ before ++ after, n.role ≠ r := by
    intro n hn
    have hmem : n ∈ before ++ inner ++ after := by
      rcases List.mem_append.mp hn with hn | hn <;> simp [hn]
    rw [h.loose n hmem (.inl (hends n hn))]
    exact hr.symm
  intro n hn
  have hn : n ∈ before ++ .tree kind .none inner :: after := e ▸ hn
  rcases List.mem_append.mp hn with hn | hn
  · exact hextra n (List.mem_append_left _ hn)
  rcases List.mem_cons.mp hn with rfl | hn
  · exact hr.symm
  · exact hextra n (List.mem_append_right _ hn)

end Fragment.Free

/-- A token is in no role. -/
theorem takeLength_free {s : Sight} (hs : c.Seen s) (kind : Kind) (n : Nat) {r : Role}
    (hr : r ≠ .none) : Ensures (takeLength s kind n) c fun f _ => Fragment.Free r f := by
  have hextras : Fragment.Free r s.extras := fun m hm => by
    rw [(hs.extras m hm).role]
    exact hr.symm
  unfold takeLength
  refine .get ?_
  split
  all_goals
    refine .set (.pure (hextras.append fun m hm => ?_))
    rw [List.mem_singleton.mp hm]
    exact hr.symm

/-! ## 2. Imports -/

theorem dottedName_spans (hP : Buildable P) : Ensures dottedName c (Spans P c) := by
  unfold dottedName
  refine (identifier_spans hP).bind fun first c₁ h₁ => ?_
  refine (Ensures.repeating h₁.1 fun sofar c₂ h₂ => .lookOn fun s hs => ?_).bind
    fun all c₂ h₂ => .pure (h₂.branch hP (by decide))
  split
  · refine (take_spans hP hs _).bind fun dot c₃ h₃ => ?_
    exact (identifier_spans hP).bind fun f c₄ h₄ => .pure ((h₂.append h₃).append h₄.1)
  · exact .pure h₂

theorem importItem_spans (hP : Buildable P) : Ensures importItem c (Spans P c) := by
  unfold importItem
  refine (dottedName_spans hP).bind fun name c₁ h₁ => .lookOn fun s hs => ?_
  split
  · refine (take_spans hP hs _).bind fun keyword c₂ h₂ => ?_
    refine (identifier_spans hP).bind fun f c₃ h₃ => .pure ?_
    have h := ((h₁.withRole hP (r := .name) (by decide)).append h₂).append
      (h₃.1.withRole hP (r := .localName) (by decide))
    exact h.branch hP (by decide)
  · exact .pure h₁

theorem importItems_spans (hP : Buildable P) : Ensures importItems c (Spans P c) :=
  (commaList_spans hP fun _ => importItem_spans hP).bind fun _ _ h =>
    .pure (h.withRole hP (by decide))

theorem importedNames_spans (hP : Buildable P) (wildcard : Bool) :
    Ensures (importedNames wildcard) c (Spans P c) := by
  unfold importedNames
  refine .look fun s hs => ?_
  split
  · exact take_spans hP hs _
  split
  · exact bracketed_spans hP fun c => importItems_spans hP
  · exact importItems_spans hP

theorem importDots_spans (hP : Buildable P) : Ensures importDots c (Spans P c) := by
  unfold importDots
  refine (Ensures.repeating (Q := Spans P c) (.nil c) fun sofar c₁ h₁ => .look fun s hs => ?_).bind
    fun dots c₁ h₁ => .pure (h₁.branch hP (by decide))
  split
  · exact (take_spans hP hs _).bind fun f c₂ h₂ => .pure (h₁.append h₂)
  · exact (takeLength_spans hP hs _ _).bind fun f c₂ h₂ => .pure (h₁.append h₂)
  · exact .pure h₁

/-- Dots are all that stands in the place of dots. -/
theorem importDots_core : Ensures importDots c fun f _ => ∃ dots,
    f.core = [.tree .importPrefix .none dots] ∧
      ∀ n ∈ Fragment.core dots, n.IsToken (· = ".") := by
  unfold importDots
  refine (Ensures.repeating (Q := fun f _ => ∀ n ∈ Fragment.core f, n.IsToken (· = "."))
    (fun n hn => by cases hn) fun sofar c₁ h₁ => .look fun s hs => ?_).bind fun all c₁ h₁ => .pure ?_
  · have hstep : ∀ n, (s.supplied = none → s.cursor.spell n = ".") → Ensures (do
        return some (sofar ++ (← takeLength s .mark n))) c₁ fun r _ =>
          ∀ n ∈ Fragment.core (r.getD sofar), n.IsToken (· = ".") := by
      intro n hspell
      refine (takeLength_core hs n rfl (· = ".") hspell).bind fun f c₂ h₂ => .pure fun m hm => ?_
      obtain ⟨dot, hcore, hdot⟩ := h₂
      rw [Option.getD_some, Fragment.core_append, hcore, List.mem_append] at hm
      rcases hm with hm | hm
      · exact h₁ m hm
      · rwa [List.mem_singleton.mp hm]
    split
    · next hdot =>
      refine hstep _ fun hnone => String.toList_inj.mp ?_
      obtain ⟨hlength, htake⟩ := hs.mark _ hdot hnone
      rw [s.cursor.spell_toList, hlength, htake]
    · next hdots =>
      refine hstep _ fun hnone => String.toList_inj.mp ?_
      rw [s.cursor.spell_toList, ← (by decide : min 1 ("...".length) = 1), ← List.take_take,
        (hs.mark _ hdots hnone).2]
      rfl
    · exact .pure h₁
  · obtain ⟨dots, hbranch, hcore⟩ := core_branch .importPrefix rfl all
    exact ⟨dots, hbranch, hcore ▸ h₁⟩

/-- Names with dots between them are all that stands in the place of a dotted name. -/
theorem dottedName_core : Ensures dottedName c fun f _ => ∃ parts,
    f.core = [.tree .dottedName .none parts] ∧ NamesDotted (Fragment.core parts) := by
  unfold dottedName
  refine identifier_core.bind fun first c₁ h₁ => ?_
  have hfirst : NamesDotted (Fragment.core first) := by
    obtain ⟨name, hcore, hname⟩ := h₁
    exact hcore ▸ .one hname
  refine (Ensures.repeating (Q := fun f _ => NamesDotted (Fragment.core f)) hfirst
    fun sofar c₂ h₂ => .lookOn fun s hs => ?_).bind fun all c₂ h₂ => .pure ?_
  · split
    · next hdot =>
      have hmark : s.token = .mark "." := by simpa [Sight.isMark] using hdot
      have hspell : s.supplied = none → s.cursor.spell s.length = "." := fun hnone => by
        obtain ⟨hlength, htake⟩ := hs.mark _ hmark hnone
        exact String.toList_inj.mp (by rw [s.cursor.spell_toList, hlength, htake])
      refine (takeLength_core hs _ rfl (· = ".") hspell).bind fun dot c₃ h₃ => ?_
      refine identifier_core.bind fun name c₄ h₄ => .pure ?_
      obtain ⟨d, hd, hdot⟩ := h₃
      obtain ⟨n, hn, hname⟩ := h₄
      rw [Option.getD_some, List.append_assoc, Fragment.core_append, Fragment.core_append, hd, hn]
      exact .more h₂ hdot hname
    · exact .pure h₂
  · obtain ⟨parts, hbranch, hcore⟩ := core_branch .dottedName rfl all
    exact ⟨parts, hbranch, hcore ▸ h₂⟩

theorem importFrom_spans (hP : Buildable P) {s : Sight} (hs : c.Seen s) :
    Ensures (importFrom s) c (Spans P c) := by
  -- what follows the place that is imported from
  have htail : ∀ {keyword place : Fragment} {c₁ c₂ : Cursor}, Spans P c keyword c₁ →
      Spans P c₁ place c₂ → Ensures (do
        let next ← word "import"
        return branch .importFrom
          (keyword ++ place.withRole .moduleName ++ next ++ (← importedNames true))) c₂
          (Spans P c) := by
    intro keyword place c₁ c₂ h₁ h₂
    refine (word_spans hP _).bind fun next c₃ h₃ => ?_
    refine (importedNames_spans hP true).bind fun names c₄ h₄ => .pure ?_
    exact (((h₁.append (h₂.withRole hP (by decide))).append h₃).append h₄).branch hP (by decide)
  unfold importFrom
  refine (take_spans hP hs _).bind fun keyword c₁ h₁ => .look fun s hs => ?_
  have hdots : Ensures (do
      let dots ← importDots
      let next ← look
      let source ← if next.isWord "import" then pure dots else pure (dots ++ (← dottedName))
      let place := (branch .relativeImport source).withRole .moduleName
      let next ← word "import"
      return branch .importFrom (keyword ++ place ++ next ++ (← importedNames true))) c₁
        (Spans P c) := by
    refine ((importDots_spans hP).and importDots_core).bind fun dots c₂ h₂ => ?_
    obtain ⟨h₂, prefixed, hcore, hdots⟩ := h₂
    refine .look fun next hn => ?_
    extract_lets afterSource
    have hafter : ∀ source c₃, Spans P c₁ source c₃ → IsPlace source →
        Ensures (afterSource source) c₃ (Spans P c) :=
      fun source c₃ h₃ hplace => htail h₁ (h₃.branch_place hP hplace)
    split
    · exact hafter _ _ h₂ ⟨prefixed, [], hcore, hdots, .inl rfl⟩
    · refine ((dottedName_spans hP).and dottedName_core).bind fun name c₃ h₃ => ?_
      obtain ⟨h₃, parts, hname, hparts⟩ := h₃
      refine hafter _ _ (h₂.append h₃) ⟨prefixed, _, ?_, hdots, .inr ⟨parts, rfl, hparts⟩⟩
      rw [Fragment.core_append, hcore, hname]
      rfl
  split
  · refine (take_spans hP hs _).bind fun future c₂ h₂ => ?_
    refine (word_spans hP _).bind fun next c₃ h₃ => ?_
    refine (importedNames_spans hP false).bind fun names c₄ h₄ => .pure ?_
    exact (((h₁.append h₂).append h₃).append h₄).branch hP (by decide)
  · exact hdots
  · exact hdots
  · exact (dottedName_spans hP).bind fun place c₂ h₂ => htail h₁ h₂

/-! ## 3. Simple statements -/

/-- The readers that are called through any depth keep what building keeps. -/
structure Knot.Keeps (P : Cursor → Node → Prop) (k : Knot) : Prop where
  passes : k.Passes
  statement : ∀ c, Ensures k.statement c (Covers P Node.IsCompound c)

theorem Knot.Keeps.expression (hk : k.Keeps P) (hP : Buildable P) (conditions : Bool) (c : Cursor) :
    Ensures (k.expression conditions) c (Spans P c) := (hk.passes.expression conditions c).spans hP

theorem expressions_spans (hP : Buildable P) (hk : k.Keeps P) :
    Ensures (expressions k) c fun r c' => Spans P c r.1 c' :=
  (expressions_passes hk.passes).mono fun _ _ h => h.spans hP

/-- The readers below a statement: closed over a depth, so that annotations are read as such. -/
structure Knot.Closed (P : Cursor → Node → Prop) (k : Knot) : Prop extends k.Keeps P where
  tied : ∃ depth, k = Knot.tied depth

theorem targetsOf_spans (hP : Buildable P) {c₁ : Cursor} (s : Sight) {left : Fragment × Bool}
    (h : Spans P c left.1 c₁) : Ensures (targetsOf s left) c₁ fun f c' =>
      c' = c₁ ∧ Spans P c f c₁ ∧ f.Free .type := by
  unfold targetsOf
  refine .get ?_
  split
  · next targets htargets =>
    have hspans : Spans P c (if left.2 then branch .patternList targets else targets) c₁ := by
      have ht := asTargets_spans hP h htargets
      split
      · exact ht.branch hP (by decide)
      · exact ht
    exact .pure ⟨rfl, hspans.withRole hP (by decide), .of_withRole hspans (by decide) (by decide)⟩
  · exact .failAt s

/-- A token, which is in no role. -/
theorem take_spans_free (hP : Buildable P) {s : Sight} (hs : c.Seen s) (kind : Kind) {r : Role}
    (hr : r ≠ .none) : Ensures (take s kind) c fun f c' => Spans P c f c' ∧ f.Free r :=
  (take_spans hP hs kind).and (takeLength_free hs kind _ hr)

/-- An assignment without an annotation. -/
theorem Spans.assignment (hP : Buildable P) {left equals value : Fragment} {c₁ c₂ c₃ : Cursor}
    (h₁ : Spans P c left c₁ ∧ left.Free .type) (h₂ : Spans P c₁ equals c₂ ∧ equals.Free .type)
    (h₃ : Spans P c₂ value c₃) :
    Spans P c (Grammar.branch .assignment (left ++ equals ++ value.withRole .right)) c₃ := by
  have hright : Fragment.Free .type (value.withRole .right) :=
    .of_withRole h₃ (by decide) (by decide)
  have hfree := (h₁.2.append h₂.2).append hright
  have h := (h₁.1.append h₂.1).append (h₃.withRole hP (r := .right) (by decide))
  refine h.branch_hints hP fun _ _ before inner after e _ _ n hn htype => ?_
  exact absurd htype (hfree n (e ▸ List.mem_append_left _ (List.mem_append_right _ hn)))

theorem assigned_spans (hP : Buildable P) (hk : k.Keeps P) (fuel : Nat) :
    Ensures (assigned k fuel) c (Spans P c) := by
  induction fuel generalizing c with
  | zero => exact .look fun s _ => .failAt s
  | succ fuel ih =>
    unfold assigned
    refine (expressions_spans hP hk).bind fun value c₁ h₁ => .lookOn fun s hs => ?_
    split
    · split
      · refine (targetsOf_spans hP s h₁).bind ?_
        rintro left _ ⟨rfl, h₂⟩
        refine (take_spans_free hP hs _ (r := .type) (by decide)).bind fun equals c₃ h₃ => ?_
        exact ih.bind fun f c₄ h₄ => .pure (.assignment hP h₂ h₃ h₄)
      split
      · refine (targetsOf_spans hP s h₁).bind ?_
        rintro left _ ⟨rfl, h₂, -⟩
        refine (take_spans hP hs _).bind fun update c₃ h₃ => ih.bind fun f c₄ h₄ => .pure ?_
        exact ((h₂.append h₃).append (h₄.withRole hP (by decide))).branch hP (by decide)
      · exact .pure h₁
    · exact .pure h₁

/-- Without its extras, an annotation is one node. -/
theorem typeHint_core (bounds : Bool) :
    Ensures (typeHint k bounds) c fun f _ => ∃ n, f.core = [n] := by
  have hone : ∀ f : Fragment, ∃ n, Fragment.core (branch .typeHint f) = [n] := fun f => by
    obtain ⟨inner, hcore, -⟩ := core_branch .typeHint rfl f
    exact ⟨_, hcore⟩
  unfold typeHint
  refine Ensures.bind (Q := fun _ _ => True) (fun _ _ _ => trivial) fun first c₁ _ => ?_
  refine .lookOn fun s hs => ?_
  split
  · refine Ensures.bind (Q := fun _ _ => True) (fun _ _ _ => trivial) fun colon c₂ _ => ?_
    refine Ensures.bind (Q := fun _ _ => True) (fun _ _ _ => trivial) fun bound c₃ _ => ?_
    exact .pure (hone _)
  · exact .pure (hone _)

/-- What stands in the place of an annotation was read as one, if nothing stands before it. -/
theorem typeHint_hints {depth : Nat} : Ensures (typeHint (Knot.tied depth) true) c fun f _ =>
    c.Fed → c.repair = none → ∀ first rest, f = first :: rest → first.isExtra = false →
      ∀ n ∈ f, n.isExtra = false → IsHint (n.withRole .type) := by
  rintro _ c' h hc hnone first rest rfl hfirst n hn hplain
  obtain ⟨m, hcore⟩ := typeHint_core true _ _ h
  have hmem : ∀ l ∈ first :: rest, l.isExtra = false → l = m := fun l hl hl' =>
    List.mem_singleton.mp (hcore ▸ List.mem_filter.mpr ⟨hl, by simp [hl']⟩)
  rw [hmem n hn hplain, ← hmem first List.mem_cons_self hfirst]
  exact ⟨depth, c, first, rest, c', hc, hnone, h, rfl⟩

theorem expressionStatement_spans (hP : Buildable P) (hk : k.Closed P) :
    Ensures (expressionStatement k) c (Spans P c) := by
  unfold expressionStatement
  refine (expressions_spans hP hk.toKeeps).bind fun left c₁ h₁ => .lookOn fun s hs => .get ?_
  split
  · split
    · refine (targetsOf_spans hP s h₁).bind ?_
      rintro targets _ ⟨rfl, h₂⟩
      refine (take_spans_free hP hs _ (r := .type) (by decide)).bind fun equals c₃ h₃ => ?_
      refine (assigned_spans hP hk.toKeeps _).bind fun value c₄ h₄ => .pure ?_
      exact (Spans.assignment hP h₂ h₃ h₄).branch hP (by decide)
    split
    · refine (targetsOf_spans hP s h₁).bind ?_
      rintro targets _ ⟨rfl, h₂, hfree⟩
      refine ((take_spans_free hP hs _ (r := .type) (by decide)).and
        (take_parts (by decide))).bind fun colon c₃ h₃ => ?_
      obtain ⟨h₃, -, -, sign, hcolon, hsign, -⟩ := h₃
      obtain ⟨depth, rfl⟩ := hk.tied
      refine (((typeHint_passes hk.passes true).spans hP).and typeHint_hints).bind fun type c₄ h₄ => ?_
      refine .lookOn fun next hn => ?_
      extract_lets afterValue
      have hafter : ∀ value c₅, Spans P c₄ value c₅ → value.Free .type →
          Ensures (afterValue value) c₅ (Spans P c) := by
        intro value c₅ h₅ hvalue
        have h := ((h₂.append h₃.1).append (h₄.1.withRole hP (r := .type) (by decide))).append h₅
        refine .pure ((h.branch_hints hP ?_).branch hP (by decide))
        intro hc hnone before inner after e hends hplain n hn htype
        have hmem : n ∈ targets ++ colon ++ type.withRole .type ++ value :=
          e ▸ List.mem_append_left _ (List.mem_append_right _ hn)
        simp only [List.mem_append] at hmem
        rcases hmem with ((hn' | hn') | hn') | hn'
        · exact absurd htype (hfree n hn')
        · exact absurd htype (h₃.2 n hn')
        · have hwhole : before ++ inner ++ after =
              (targets ++ s.extras) ++ sign :: type.withRole .type ++ value := by
            rw [← e, hcolon]
            simp
          obtain ⟨first, rest, htyped, hfirst⟩ :=
            enclosed_first hwhole hends hplain hsign hn' (hplain n hn)
          obtain ⟨m, hm, rfl⟩ := List.mem_map.mp hn'
          by_cases hloose : (m.isExtra || !m.isNamed) = true
          · rw [if_pos hloose, h₄.1.loose m hm (by simpa using hloose)] at htype
            cases htype
          · rw [if_neg hloose]
            obtain ⟨first', rest', rfl, hhead, -⟩ := List.map_eq_cons_iff.mp htyped
            have hfirst' : first'.isExtra = false := by
              rw [← hfirst, ← hhead]
              split <;> simp [Node.isExtra]
            have hbefore := h₂.append h₃.1
            have hrepair : c₃.repair = none := by
              rcases hbefore.repair with h | h
              · exact h.trans hnone
              · exact h.1
            exact h₄.2 (hc.forward hbefore.forward hbefore.budget) hrepair _ _ rfl hfirst' m hm
              (by simp_all)
        · exact absurd htype (hvalue n hn')
      split
      · refine (take_spans_free hP hn _ (r := .type) (by decide)).bind fun equals c₅ h₅ => ?_
        refine (assigned_spans hP hk.toKeeps _).bind fun f c₆ h₆ => ?_
        exact hafter _ _ (h₅.1.append (h₆.withRole hP (by decide)))
          (h₅.2.append (.of_withRole h₆ (by decide) (by decide)))
      · exact hafter _ _ (.nil _) .nil
    split
    · refine (targetsOf_spans hP s h₁).bind ?_
      rintro targets _ ⟨rfl, h₂, -⟩
      refine (take_spans hP hs _).bind fun update c₃ h₃ => ?_
      refine (assigned_spans hP hk.toKeeps _).bind fun value c₄ h₄ => .pure ?_
      have h := (h₂.append h₃).append (h₄.withRole hP (r := .right) (by decide))
      exact (h.branch hP (by decide)).branch hP (by decide)
    · exact .pure (h₁.branch hP (by decide))
  · exact .pure (h₁.branch hP (by decide))

theorem keywordStatement_spans (hP : Buildable P) (hk : k.Keeps P) {s : Sight} (hs : c.Seen s) :
    Ensures (keywordStatement k s) c (Spans P c) := by
  unfold keywordStatement
  refine (take_spans hP hs _).bind fun keyword c₁ h₁ => .lookOn fun next hn => ?_
  extract_lets afterValues
  have hafter : ∀ values c₂, Spans P c₁ values c₂ →
      Ensures (afterValues values) c₂ (Spans P c) := by
    intro values c₂ h₂
    refine .lookOn fun next hn => ?_
    extract_lets afterCause
    have hafterCause : ∀ cause c₃, Spans P c₂ cause c₃ →
        Ensures (afterCause cause) c₃ (Spans P c) := fun cause c₃ h₃ =>
      .pure (((h₁.append h₂).append h₃).branch hP (by decide))
    split
    · refine (take_spans hP hn _).bind fun source c₃ h₃ => ?_
      exact (hk.expression hP true _).bind fun f c₄ h₄ => hafterCause _ _ (h₃.append h₄)
    · exact hafterCause _ _ (.nil _)
  split
  · exact (expressions_spans hP hk).bind fun r c₂ h₂ => hafter _ _ h₂
  · exact hafter _ _ (.nil _)

theorem atStatementEnd_spans {p : Reader Fragment} (hp : Ensures p c (Spans P c)) :
    Ensures (atStatementEnd p) c (Spans P c) := by
  unfold atStatementEnd
  refine hp.bind fun f c₁ h₁ => .lookOn fun s _ => ?_
  split
  · exact .pure h₁
  · exact .failAt s

theorem printStatement_spans (hP : Buildable P) (hk : k.Keeps P) {s : Sight} (hs : c.Seen s) :
    Ensures (printStatement k s) c (Spans P c) := by
  unfold printStatement
  refine (take_spans hP hs _).bind fun keyword c₁ h₁ => ?_
  exact (expressions_spans hP hk).bind fun r c₂ h₂ => .pure ((h₁.append h₂).branch hP (by decide))

theorem execStatement_spans (hP : Buildable P) (hk : k.Keeps P) {s : Sight} (hs : c.Seen s) :
    Ensures (execStatement k s) c (Spans P c) := by
  unfold execStatement
  refine (take_spans hP hs _).bind fun keyword c₁ h₁ => .look fun next hn => ?_
  extract_lets afterCode
  have hafter : ∀ code c₂, Spans P c₁ code c₂ → Ensures (afterCode code) c₂ (Spans P c) := by
    intro code c₂ h₂
    refine .lookOn fun next hn => ?_
    extract_lets afterNames
    have hafterNames : ∀ names c₃, Spans P c₂ names c₃ →
        Ensures (afterNames names) c₃ (Spans P c) := fun names c₃ h₃ =>
      .pure (((h₁.append h₂).append h₃).branch hP (by decide))
    split
    · refine (take_spans hP hn _).bind fun among c₃ h₃ => ?_
      exact (expressions_spans hP hk).bind fun r c₄ h₄ => hafterNames _ _ (h₃.append h₄)
    · exact hafterNames _ _ (.nil _)
  split
  · exact ((string_passes hk.passes).spans hP).bind hafter
  · exact (identifier_spans hP).bind fun f c₂ h₂ => hafter _ _ h₂.1

theorem typeAlias_spans (hP : Buildable P) (hk : k.Keeps P) {s : Sight} (hs : c.Seen s) :
    Ensures (typeAlias k s) c (Spans P c) := by
  unfold typeAlias
  refine (take_spans hP hs _).bind fun keyword c₁ h₁ => ?_
  refine (identifier_spans hP).bind fun name c₂ h₂ => ?_
  refine ((typeParameters_passes hk.passes).spans hP).bind fun parameters c₃ h₃ => ?_
  refine (mark_spans hP _).bind fun equals c₄ h₄ => ?_
  refine ((typeHint_passes hk.passes true).spans hP).bind fun f c₅ h₅ => .pure ?_
  have hleft : Spans P c₁ ((branch .typeHint (name ++ parameters)).withRole .left) c₃ :=
    ((h₂.1.append h₃).branch hP (by decide)).withRole hP (by decide)
  exact (((h₁.append hleft).append h₄).append (h₅.withRole hP (by decide))).branch hP (by decide)

theorem simpleStatement_spans (hP : Buildable P) (hk : k.Closed P) :
    Ensures (simpleStatement k) c (Spans P c) := by
  unfold simpleStatement
  refine .look fun s hs => ?_
  have hword : Ensures (do return branch .otherStatement (← take s .keyword)) c (Spans P c) :=
    (take_spans hP hs _).bind fun f c₁ h₁ => .pure (h₁.branch hP (by decide))
  have hvalues : Ensures (do
      let keyword ← take s .keyword
      return branch .otherStatement (keyword ++ (← expressions k).1)) c (Spans P c) :=
    (take_spans hP hs _).bind fun keyword c₁ h₁ =>
      (expressions_spans hP hk.toKeeps).bind fun r c₂ h₂ => .pure
        ((h₁.append h₂).branch hP (by decide))
  have hplain := atStatementEnd_spans (expressionStatement_spans (c := c) hP hk)
  split
  · refine (take_spans hP hs _).bind fun keyword c₁ h₁ => ?_
    exact (importItems_spans hP).bind fun f c₂ h₂ => .pure ((h₁.append h₂).branch hP (by decide))
  · exact importFrom_spans hP hs
  · exact hword
  · exact hword
  · exact hword
  · exact keywordStatement_spans hP hk.toKeeps hs
  · exact keywordStatement_spans hP hk.toKeeps hs
  · exact hvalues
  · exact hvalues
  · exact hvalues
  · exact hvalues
  · exact hplain.orElse (printStatement_spans hP hk.toKeeps hs)
  · exact hplain.orElse (execStatement_spans hP hk.toKeeps hs)
  · exact hplain.orElse (typeAlias_spans hP hk.toKeeps hs)
  · exact expressionStatement_spans hP hk

/-! ## 4. Lines and blocks -/

theorem simpleLine_spans (hP : Buildable P) (hk : k.Closed P) :
    Ensures (simpleLine k) c (Spans P c) := by
  unfold simpleLine
  refine withEnds_spans fun c => (simpleStatement_spans hP hk).bind fun first c₁ h₁ => ?_
  refine (Ensures.repeating (Q := fun r c' => Spans P c r.1 c') h₁ ?_).bind fun r c₂ h₂ => ?_
  · rintro ⟨sofar, ended⟩ c₂ h₂
    dsimp only
    split
    · exact .pure h₂
    refine .lookOn fun s hs => ?_
    split
    · refine (take_spans hP hs _).bind fun semicolon c₃ h₃ => .lookOn fun next _ => ?_
      split
      · exact .pure (h₂.append h₃)
      · refine (simpleStatement_spans hP hk).bind fun f c₄ h₄ => .pure ?_
        exact (h₂.append h₃).append h₄
    · exact .pure h₂
  · obtain ⟨all, ended⟩ := r
    refine .lookOn fun s hs => ?_
    split
    · next hend => exact .set (.pure (h₂.append (hs.extras_span hP (hs.ends (by simpa using hend)).1)))
    · exact .failAt s

theorem Ensures.nextIndent {β : Type} {f : Option Nat → Reader β} {R : β → Cursor → Prop}
    (h : ∀ r, Ensures (f r) c R) : Ensures (nextIndent >>= f) c R := h _

theorem blockLines_covers (hk : k.Keeps P) :
    Ensures (blockLines k) c (Covers P Node.IsCompound c) := by
  unfold blockLines
  refine .get ((Ensures.repeating (Q := Covers P Node.IsCompound c) (.nil c) fun sofar c₁ h₁ => ?_).bind
    fun all c₁ h₁ => .modify (.pure (h₁.behind rfl rfl rfl rfl)))
  refine .nextIndent fun indent => ?_
  have hmore : Ensures (do return some (sofar ++ (← k.statement))) c₁
      fun r c' => Covers P Node.IsCompound c (r.getD sofar) c' :=
    (hk.statement _).bind fun f c₂ h₂ => .pure (h₁.append h₂)
  split
  · split
    · exact .pure h₁
    · exact hmore
  · exact .pure h₁

/-- Statements become the block of a compound statement. -/
theorem Covers.body (hP : Buildable P) {f : Fragment} {c' : Cursor}
    (h : Covers P Node.IsCompound c f c') :
    Covers P Node.IsBody c ((Grammar.block f).withRole .body) c' ∧
      ((Grammar.block f).withRole .body).Free .name := by
  have hblock : Covers P Node.IsBody c (Grammar.block f) c' :=
    h.block hP (fun _ => .inl) fun _ hin => ⟨rfl, hin⟩
  refine ⟨hblock.inRole hP (by decide) fun n hn => ?_, .of_withRole hblock (by decide) (by decide)⟩
  rw [Node.IsBody, Node.kind_withRole, Node.children_withRole]
  exact hn

theorem suite_covers (hP : Buildable P) (hk : k.Closed P) :
    Ensures (suite k) c fun f c' => Covers P Node.IsBody c f c' ∧ f.Free .name := by
  unfold suite
  refine .get (.modify (.lookOn fun s hs => .modify ?_))
  split
  · next hend =>
    have hextras := hs.extras_span hP (hs.ends (by simpa using hend)).1
    refine .set (.get ?_)
    extract_lets _ _ afterInner
    have hafter : ∀ inner c₁, Covers P Node.IsCompound s.cursor inner c₁ →
        Ensures (afterInner inner) c₁ fun f c' => Covers P Node.IsBody c f c' ∧ f.Free .name := by
      intro inner c₁ h₁
      have hfree : Fragment.Free .name s.extras := fun n hn => by
        rw [(hs.extras n hn).role]
        decide
      obtain ⟨hbody, hname⟩ := h₁.body hP
      exact .pure ⟨((Covers.of_spans hextras).append hbody).before rfl rfl rfl rfl,
        hfree.append hname⟩
    have hnone : Covers P Node.IsCompound s.cursor [] { s.cursor with ends := c.ends } :=
      (Covers.nil _).behind rfl rfl rfl rfl
    refine .nextIndent fun indent => ?_
    split
    · split
      · refine .modify ((blockLines_covers hk.toKeeps).bind fun inner c₁ h₁ => ?_)
        exact hafter _ _ (h₁.before rfl rfl rfl rfl)
      · exact hafter _ _ hnone
    · exact hafter _ _ hnone
  · refine (simpleLine_spans hP hk).bind fun f c₁ h₁ => .pure ?_
    have h : Covers P Node.IsCompound c f c₁ := .of_spans (h₁.before rfl rfl rfl rfl)
    exact h.body hP

theorem body_covers (hP : Buildable P) (hk : k.Closed P) :
    Ensures (body k) c fun f c' => Covers P Node.IsBody c f c' ∧ f.Free .name := by
  have hmark : Ensures (mark ":") c fun f c' => Spans P c f c' ∧ f.Free .name := by
    unfold mark
    refine .look fun s hs => ?_
    split
    · exact take_spans_free hP hs _ (by decide)
    · exact .failAt s
  unfold body
  refine hmark.bind fun colon c₁ h₁ => (suite_covers hP hk).bind fun f c₂ h₂ => .pure ?_
  exact ⟨(Covers.of_spans h₁.1).append h₂.1, h₁.2.append h₂.2⟩

/-! ## 5. Definitions -/

theorem parameter_spans (hP : Buildable P) (hk : k.Keeps P) :
    Ensures (parameter k) c (Spans P c) := by
  unfold parameter
  refine .look fun s hs => ?_
  extract_lets typed
  have htyped : ∀ name c₁ c₂, Spans P c₁ name c₂ → Ensures (typed name) c₂ (Spans P c₁) := by
    intro name c₁ c₂ h
    refine .look fun s hs => ?_
    extract_lets afterType
    have hafterType : ∀ type c₃, Spans P c₂ type c₃ →
        Ensures (afterType type) c₃ (Spans P c₁) := by
      intro type c₃ h₃
      refine .look fun s hs => ?_
      extract_lets afterValue
      have hafterValue : ∀ value c₄, Spans P c₃ value c₄ →
          Ensures (afterValue value) c₄ (Spans P c₁) := by
        intro value c₄ h₄
        refine .pure ?_
        split
        · next hempty =>
          simp only [Bool.and_eq_true, List.isEmpty_iff] at hempty
          simpa only [hempty.1, hempty.2, List.append_nil] using (h.append h₃).append h₄
        · exact ((h.append h₃).append h₄).branch hP (by decide)
      split
      · refine (take_spans hP hs _).bind fun equals c₄ h₄ => ?_
        refine (hk.expression hP true _).bind fun f c₅ h₅ => ?_
        exact hafterValue _ _ (h₄.append (h₅.withRole hP (by decide)))
      · exact hafterValue _ _ (.nil _)
    split
    · refine (take_spans hP hs _).bind fun colon c₃ h₃ => ?_
      refine ((typeHint_passes hk.passes true).spans hP).bind fun f c₄ h₄ => ?_
      exact hafterType _ _ (h₃.append (h₄.withRole hP (by decide)))
    · exact hafterType _ _ (.nil _)
  split
  · refine (take_spans hP hs _).bind fun star c₁ h₁ => .look fun next hn => ?_
    split
    · refine (identifier_spans hP).bind fun name c₂ h₂ => (htyped _ _ _ h₂.1).bind ?_
      exact fun f c₃ h₃ => .pure ((h₁.append h₃).branch hP (by decide))
    · exact .pure h₁
  · refine (take_spans hP hs _).bind fun stars c₁ h₁ => ?_
    refine (identifier_spans hP).bind fun name c₂ h₂ => (htyped _ _ _ h₂.1).bind ?_
    exact fun f c₃ h₃ => .pure ((h₁.append h₃).branch hP (by decide))
  · exact take_spans hP hs _
  · exact ((loopTarget_passes hk.passes).spans hP).bind fun name c₁ h₁ => htyped _ _ _ h₁
  · exact (identifier_spans hP).bind fun name c₁ h₁ => htyped _ _ _ h₁.1

theorem typeHint_free (hP : Buildable P) (hk : k.Keeps P) (bounds : Bool) {r : Role}
    (hr : r ≠ .none) : Ensures (typeHint k bounds) c fun f _ => f.Free r := by
  unfold typeHint
  refine ((element_passes hk.passes).spans hP).bind fun first c₁ h₁ => .lookOn fun s hs => ?_
  split
  · refine (take_spans hP hs _).bind fun colon c₂ h₂ => ?_
    exact ((element_passes hk.passes).spans hP).bind fun f c₃ h₃ => .pure
      (.of_branch ((h₁.append h₂).append h₃) hr)
  · exact .pure (.of_branch h₁ hr)

theorem typeParameters_free (hP : Buildable P) (hk : k.Keeps P) {r : Role} (hr : r ≠ .none) :
    Ensures (typeParameters k) c fun f _ => f.Free r := by
  unfold typeParameters
  refine .look fun s hs => ?_
  split
  · exact .pure .nil
  refine (bracketed_spans hP fun c => (commaList_spans hP fun c => ?_).bind
    fun r c₁ h₁ => .pure h₁).bind fun f c₁ h₁ => .pure (.of_branch h₁ hr)
  refine ((typeHint_passes hk.passes true).spans hP).bind fun bound c₁ h₁ => .look fun s hs => ?_
  split
  · refine (take_spans hP hs _).bind fun equals c₂ h₂ => ?_
    exact ((typeHint_passes hk.passes false).spans hP).bind fun f c₃ h₃ => .pure
      ((h₁.append h₂).append h₃)
  · exact .pure h₁

/-- A fragment whose only node but extras is a definition of a kind. -/
def Fragment.Defines (kind : Kind) (f : Fragment) : Prop :=
  ∃ before n after, f = before ++ n :: after ∧ (∀ m ∈ before ++ after, m.isExtra = true) ∧
    n.kind = kind ∧ IsDefinition n

theorem IsDefinition.isExtra {n : Node} (h : IsDefinition n) : n.isExtra = false := by
  unfold Node.isExtra
  rcases h.1 with h | h <;> rw [h]

theorem IsDefinition.withRole {n : Node} (h : IsDefinition n) (r : Role) :
    IsDefinition (n.withRole r) := by
  unfold IsDefinition
  rw [Node.kind_withRole, Node.children_withRole]
  exact h

theorem Fragment.Defines.of_mem {kind : Kind} {f : Fragment} (h : f.Defines kind) {m : Node}
    (hm : m ∈ f) (hplain : m.isExtra = false) : m.kind = kind ∧ IsDefinition m := by
  obtain ⟨before, n, after, rfl, hextra, hkind, hn⟩ := h
  rcases List.mem_append.mp hm with hm | hm
  · rw [hextra m (List.mem_append_left _ hm)] at hplain
    cases hplain
  rcases List.mem_cons.mp hm with rfl | hm
  · exact ⟨hkind, hn⟩
  · rw [hextra m (List.mem_append_right _ hm)] at hplain
    cases hplain

/-- The fragment starts with the extras before a token, and then with a node that has an error unless
`good` holds. -/
def Fragment.Opens (s : Sight) (good : Prop) (f : Fragment) : Prop :=
  ∃ first after, f = s.extras ++ first :: after ∧ first.isExtra = false ∧
    (first.hasError = false → good)

theorem Fragment.Opens.append {s : Sight} {good : Prop} {f : Fragment} (h : f.Opens s good)
    (g : Fragment) : Fragment.Opens s good (f ++ g) := by
  obtain ⟨first, after, rfl, hplain, hgood⟩ := h
  exact ⟨first, after ++ g, by simp, hplain, hgood⟩

/-- A node whose first part is a token opens with it. -/
theorem Fragment.Opens.of_branch {s : Sight} (hs : c.Seen s) {kind : Kind} {good : Prop}
    (hkind : (Node.tree kind .none []).isExtra = false) {token : Node} {rest : Fragment}
    (htoken : token.isExtra = false)
    (hgood : ∀ inner after, rest = inner ++ after → (∀ n ∈ after, n.isExtra = true) →
      (∀ n ∈ token :: inner, n.hasError = false) → good) :
    Fragment.Opens s good (branch kind (s.extras ++ token :: rest)) := by
  obtain ⟨inner, after, hparts, hafter, e⟩ := enclose_leading Node.isExtra kind rest
    (fun n hn => (hs.extras n hn).isExtra) htoken
  refine ⟨.tree kind .none (token :: inner), after, e, hkind, fun h => ?_⟩
  refine hgood inner after hparts hafter fun n hn => ?_
  rw [Node.hasError, Bool.or_eq_false_iff] at h
  refine Bool.eq_false_iff.mpr fun he => ?_
  rw [Node.anyHasError_eq_true.mpr ⟨n, hn, he⟩] at h
  cases h.2

/-- A token without error stands in the text, if nothing before it shows one. -/
theorem Sight.Untouched.of_clean {s : Sight} {n : Node} (hn : n.hasError = false → s.supplied = none)
    (h : ∀ m ∈ s.extras ++ [n], m.hasError = false) : s.Untouched where
  supplied := hn (h n (by simp))
  extras m hm hkind := by
    have he := h m (List.mem_append_left _ hm)
    rw [Node.hasError_of_kind hkind] at he
    cases he

/-- Naming a role leaves extras as they are, and shows the same errors. -/
theorem Cursor.Seen.withRole_extras {s : Sight} (hs : c.Seen s) (r : Role) {n : Node}
    (rest : Fragment) (hn : n.isExtra = false) :
    ∃ m, Fragment.withRole r (s.extras ++ n :: rest) =
      s.extras ++ m :: Fragment.withRole r rest ∧ m.isExtra = false ∧ m.hasError = n.hasError := by
  have hextras : Fragment.withRole r s.extras = s.extras := by
    refine (List.map_congr_left fun n hn => ?_).trans (List.map_id _)
    rw [(hs.extras n hn).isExtra]
    rfl
  refine ⟨if n.isExtra || !n.isNamed then n else n.withRole r, ?_, ?_, ?_⟩
  · unfold Fragment.withRole
    rw [List.map_append, List.map_cons]
    exact congrArg (· ++ _) hextras
  · split
    · exact hn
    · simpa [Node.isExtra] using hn
  · split
    · rfl
    · exact Node.hasError_withRole ..

/-- The name of a definition: what is in its role has no dot. -/
theorem name_plain {name : Fragment}
    (h : ∀ n ∈ name, n.isExtra = false → '.' ∉ n.text.toList)
    (hloose : ∀ n ∈ name, n.isExtra = true ∨ n.isNamed = false → n.role = .none) :
    ∀ n ∈ name.withRole .name, n.role = .name → '.' ∉ n.text.toList := by
  intro n hn hrole
  obtain ⟨m, hm, rfl⟩ := List.mem_map.mp hn
  by_cases hfixed : (m.isExtra || !m.isNamed) = true
  · rw [if_pos hfixed, hloose m hm (by simpa using hfixed)] at hrole
    cases hrole
  · rw [if_neg hfixed]
    have htext : (m.withRole .name).text = m.text := by cases m <;> rfl
    rw [htext]
    exact h m hm (by simp_all)

/-- A definition is put together from its name and from parts that are in other roles. -/
theorem Fragment.Defines.of_parts {before name after : Fragment} {kind : Kind}
    (hkind : kind = .classDefinition ∨ kind = .functionDefinition)
    (hbefore : before.Free .name) (hafter : after.Free .name)
    (hname : ∀ n ∈ name, n.role = .name → '.' ∉ n.text.toList) :
    Fragment.Defines kind (branch kind (before ++ name ++ after)) := by
  obtain ⟨outside, inner, outside', e, e', hends⟩ :=
    enclose_parts Node.isExtra kind (before ++ name ++ after)
  refine ⟨outside, .tree kind .none inner, outside', e', hends, rfl, hkind, fun m hm hrole => ?_⟩
  have hmem : m ∈ before ++ name ++ after := e ▸ by simp [show m ∈ inner from hm]
  simp only [List.mem_append] at hmem
  rcases hmem with (hm | hm) | hm
  · exact absurd hrole (hbefore m hm)
  · exact hname m hm hrole
  · exact absurd hrole (hafter m hm)

theorem functionDefinition_covers (hP : Buildable P) (hk : k.Closed P) {start : Fragment}
    {c₁ : Cursor} {s : Sight} (h : Spans P c start c₁) (hstart : start.Free .name)
    (hs : c₁.Seen s) : Ensures (functionDefinition k start s) c₁ fun f c' =>
      Covers P Node.IsCompound c f c' ∧ f.Defines .functionDefinition := by
  unfold functionDefinition
  refine (take_spans_free hP hs _ (r := .name) (by decide)).bind fun keyword c₂ h₂ => ?_
  refine (identifier_spans hP).bind fun name c₃ h₃ => ?_
  have hname := h₃.1.withRole hP (r := .name) (by decide)
  refine (((typeParameters_passes hk.passes).spans hP).and
    (typeParameters_free hP hk.toKeeps (r := .name) (by decide))).bind fun types c₄ h₄ => ?_
  refine (bracketed_spans hP fun c => .look fun s _ => ?_).bind fun parameters c₅ h₅ => ?_
  · split
    · exact .pure (.nil c)
    · exact (commaList_spans hP fun c => parameter_spans hP hk.toKeeps).bind fun r c₁ h₁ => .pure h₁
  refine .look fun s hs => ?_
  extract_lets afterResult
  have hafter : ∀ result c₆, Spans P c₅ result c₆ ∧ result.Free .name →
      Ensures (afterResult result) c₆ fun f c' =>
        Covers P Node.IsCompound c f c' ∧ f.Defines .functionDefinition := by
    intro result c₆ h₆
    refine (body_covers hP hk).bind fun lines c₇ h₇ => .pure ⟨?_, ?_⟩
    · have hparameters : Spans P c₄ (branch .parameters parameters) c₅ := h₅.branch hP (by decide)
      have hhead := ((((h.append h₂.1).append hname).append h₄.1).append hparameters).append h₆.1
      exact ((Covers.of_spans hhead).append h₇.1).house hP (by decide) (fun _ => id) fun _ => rfl
    · have e : start ++ keyword ++ name.withRole .name ++ types ++ branch .parameters parameters ++
          result ++ lines = start ++ keyword ++ name.withRole .name ++
            (types ++ branch .parameters parameters ++ result ++ lines) := by
        simp only [List.append_assoc]
      rw [e]
      refine .of_parts (.inr rfl) (hstart.append h₂.2) ?_ (name_plain h₃.2 h₃.1.loose)
      exact ((h₄.2.append (.of_branch h₅ (by decide))).append h₆.2).append h₇.2
  split
  · refine (take_spans_free hP hs _ (r := .name) (by decide)).bind fun arrow c₆ h₆ => ?_
    refine (((typeHint_passes hk.passes false).spans hP).and
      (typeHint_free hP hk.toKeeps false (r := .name) (by decide))).bind fun f c₇ h₇ => ?_
    exact hafter _ _ ⟨h₆.1.append h₇.1, h₆.2.append h₇.2⟩
  · exact hafter _ _ ⟨.nil _, .nil⟩

/-- What stands behind the word for a class, where its name is not in error: no value. -/
def Sight.Names (s : Sight) : Prop :=
  s.supplied = none ∧ ((chars s.cursor.rest).dropWhile isNameChar).head? ≠ some '='

/-- The word for a class and the name behind it, without an error. -/
theorem Sight.Names.of_clean {s s' : Sight} {c₁ : Cursor} {token name : Node} {w : String}
    (hs : c.Seen s) (hclass : s.token = .word "class") (hsupplied : s.supplied = none)
    (hrest : c₁.rest = s.cursor.rest.drop s.length) (hs' : c₁.Seen s') (hword : s'.token = .word w)
    (hname : name.hasError = false → s'.supplied = none)
    (h : ∀ n ∈ token :: s'.extras ++ [name], n.hasError = false) : s.Names := by
  refine ⟨hsupplied, ?_⟩
  rw [← runLength_drop, ← (hs.word _ hclass hsupplied).1, ← hrest]
  exact hs'.equals w hword (.of_clean hname fun n hn => h n (List.mem_cons_of_mem _ hn))

theorem classDefinition_covers (hP : Buildable P) (hk : k.Closed P) {s : Sight} (hs : c.Seen s)
    (hclass : s.token = .word "class") : Ensures (classDefinition k s) c fun f c' =>
      Covers P Node.IsCompound c f c' ∧ f.Defines .classDefinition ∧ f.Opens s s.Names := by
  unfold classDefinition
  refine ((take_spans_free hP hs _ (r := .name) (by decide)).and
    (take_parts (by decide))).bind fun keyword c₁ h₁ => ?_
  obtain ⟨h₁, -, hrest, token, rfl, htoken, hsupplied⟩ := h₁
  refine ((identifier_spans hP).and identifier_parts).bind fun name c₂ h₂ => ?_
  obtain ⟨h₂, s', w, n, hs', hword, rfl, hplain, hsupplied'⟩ := h₂
  have hname := h₂.1.withRole hP (r := .name) (by decide)
  obtain ⟨m, hm, hmplain, hmerror⟩ := hs'.withRole_extras .name [] hplain
  refine (((typeParameters_passes hk.passes).spans hP).and
    (typeParameters_free hP hk.toKeeps (r := .name) (by decide))).bind fun types c₃ h₃ => ?_
  refine .look fun next hn => ?_
  extract_lets afterBases
  have hafter : ∀ bases c₄, Spans P c₃ bases c₄ ∧ bases.Free .name →
      Ensures (afterBases bases) c₄ fun f c' =>
        Covers P Node.IsCompound c f c' ∧ f.Defines .classDefinition ∧ f.Opens s s.Names := by
    intro bases c₄ h₄
    refine (body_covers hP hk).bind fun lines c₅ h₅ => .pure ?_
    have hhead := ((h₁.1.append hname).append h₃.1).append h₄.1
    have e : ∀ named : Fragment, s.extras ++ [token] ++ named ++ types ++ bases ++ lines =
        s.extras ++ [token] ++ named ++ (types ++ bases ++ lines) := fun named => by
      simp only [List.append_assoc]
    refine ⟨((Covers.of_spans hhead).append h₅.1).house hP (by decide) (fun _ => id) fun _ => rfl, ?_⟩
    rw [e]
    refine ⟨.of_parts (.inl rfl) h₁.2 ?_ (name_plain h₂.2 h₂.1.loose), ?_⟩
    · exact (h₃.2.append h₄.2).append h₅.2
    · rw [hm, List.append_assoc, List.append_assoc, List.singleton_append]
      refine .of_branch hs (by decide) htoken fun inner after hparts hafter hclean => ?_
      -- the name is no extra, so it went under the node with all before it
      have hsame : [] ++ token :: inner ++ after =
          [] ++ token :: s'.extras ++ m :: (types ++ bases ++ lines) := by
        simp [← hparts, Fragment.withRole]
      have hinner := enclosed_between hsame hafter htoken hmplain
      refine .of_clean hs hclass (hsupplied (hclean token List.mem_cons_self)) ?_ hs' hword
        (hmerror ▸ hsupplied') fun n hn => hclean n (hinner n hn)
      exact hrest (hsupplied (hclean token List.mem_cons_self))
  split
  · refine ((argumentList_passes hk.passes fun c => loopTarget_passes hk.passes).spans hP).bind ?_
    intro f c₄ h₄
    exact hafter _ _ ⟨h₄.withRole hP (by decide), .of_withRole h₄ (by decide) (by decide)⟩
  · exact hafter _ _ ⟨.nil _, .nil⟩

/-- What decorators leave that were read from the token `s` on. -/
structure Decorates (P : Cursor → Node → Prop) (c : Cursor) (s : Sight) (f : Fragment)
    (c' : Cursor) : Prop where
  spans : Spans P c f c'
  free : f.Free .definition
  opens : f.Opens s (s.supplied = none)
  behind : c'.rest <:+ s.cursor.rest
  /-- The last of them ends with its line. -/
  ends : c'.rest = [] ∨ (chars c'.rest).head? = some '\n'

theorem decorator_decorates (hP : Buildable P) (hk : k.Keeps P) {s : Sight} (hs : c.Seen s) :
    Ensures (decorator k s) c (Decorates P c s) := by
  unfold decorator withEnds
  refine ((take_spans hP hs _).and (take_parts (by decide))).bind fun sign c₁ h₁ => ?_
  obtain ⟨h₁, hbehind, -, token, rfl, htoken, hsupplied⟩ := h₁
  refine .get (.modify ?_)
  refine .bind (Q := Decorates P c s) ?_ fun f c₂ h₂ => .modify (.pure ?_)
  · refine (hk.expression hP true _).bind fun value c₂ h₂ => .lookOn fun s' hs' => ?_
    split
    · next hend =>
      obtain ⟨hnone, hline⟩ := hs'.ends (by simpa using hend)
      have h₃ : Spans P c₁ value c₂ := h₂.before rfl rfl rfl rfl
      have h₄ := hs'.extras_span hP hnone
      refine .set (.pure
        { spans := ((h₁.append h₃).branch hP (by decide)).append h₄
          free := (Fragment.Free.of_branch (h₁.append h₃) (by decide)).append fun n hn => ?_
          opens := .append ?_ _
          behind := hs'.forward.suffix.trans (h₃.forward.suffix.trans hbehind)
          ends := hline })
      · rw [(hs'.extras n hn).role]
        decide
      · rw [List.append_assoc, List.singleton_append]
        refine .of_branch hs (by decide) htoken fun inner after _ _ hclean => ?_
        exact hsupplied (hclean token List.mem_cons_self)
    · exact .failAt s'
  · exact ⟨h₂.spans.behind rfl rfl rfl rfl, h₂.free, h₂.opens, h₂.behind, h₂.ends⟩

theorem Decorates.append {s s' : Sight} {f g : Fragment} {c₁ c₂ : Cursor}
    (h₁ : Decorates P c s f c₁) (h₂ : Decorates P c₁ s' g c₂) : Decorates P c s (f ++ g) c₂ where
  spans := h₁.spans.append h₂.spans
  free := h₁.free.append h₂.free
  opens := h₁.opens.append g
  behind := h₂.spans.forward.suffix.trans h₁.behind
  ends := h₂.ends

/-- The definition below decorators. -/
theorem Covers.definition (hP : Buildable P) {f : Fragment} {c' : Cursor} (h : Covers P K c f c')
    {kind : Kind} (hf : f.Defines kind) : Covers P IsDefinition c (f.withRole .definition) c' := by
  refine h.replace (fun n hn => ?_) (fun n hn => ?_) (fun n hn hholds => ?_) fun herr => ?_
  · obtain ⟨m, hm, rfl⟩ := List.mem_map.mp hn
    split
    · exact h.nodes m hm
    · next hplain => exact hP.withDefinition (hf.of_mem hm (by simp_all)).2 (h.nodes m hm)
  · obtain ⟨m, hm, rfl⟩ := List.mem_map.mp hn
    split
    · exact h.loose m hm
    · next hplain =>
      intro hloose
      simp only [Node.isExtra, Node.isNamed, Node.kind_withRole] at hloose hplain
      simp_all
  · obtain ⟨m, hm, rfl⟩ := List.mem_map.mp hn
    have hmholds : m.holdsStatements = true := by
      split at hholds
      · exact hholds
      · rwa [Node.holdsStatements_withRole] at hholds
    have hplain : m.isExtra = false := by
      refine Bool.eq_false_iff.mpr fun hextra => ?_
      rw [Node.holdsStatements_of_isExtra hextra] at hmholds
      cases hmholds
    have hdefinition := (hf.of_mem hm hplain).2
    split
    · exact hdefinition
    · exact hdefinition.withRole _
  · obtain ⟨n, hn, he⟩ := Node.anyHasError_eq_true.mp herr
    refine Node.anyHasError_eq_true.mpr ⟨_, List.mem_map_of_mem hn, ?_⟩
    split
    · exact he
    · rw [Node.hasError_withRole]
      exact he

/-- The one definition below decorators, and no statement beside it. -/
theorem Fragment.Defines.below {decorators f before inner after : Fragment} {kind : Kind}
    {c₁ c₂ : Cursor} (hf : f.Defines kind) (hfree : decorators.Free .definition)
    (hdecorators : Spans P c decorators c₁) (hcovers : Covers P K c₁ f c₂)
    (h : decorators ++ f.withRole .definition = before ++ inner ++ after)
    (hends : ∀ n ∈ before ++ after, n.isExtra = true) :
    ∃ left n right, inner = left ++ n :: right ∧ n.role = .definition ∧ IsDefinition n ∧
      ∀ m ∈ left ++ right, m.role ≠ .definition ∧ m.holdsStatements = false := by
  obtain ⟨first, n, last, rfl, hextra, hkind, hn⟩ := hf
  have hkept : ∀ l : Fragment, (∀ m ∈ l, m.isExtra = true) → l.withRole .definition = l := by
    intro l hl
    refine (List.map_congr_left fun m hm => ?_).trans (List.map_id _)
    rw [hl m hm]
    rfl
  have hnamed : n.isNamed = true := by
    unfold Node.isNamed
    rcases hn.1 with h | h <;> rw [h]
  have hrole : (n.withRole .definition).role = .definition := by
    cases n with
    | leaf => rfl
    | absent what =>
      have hkind := hn.1
      by_cases hname : what = "identifier" <;> simp [Node.kind, hname] at hkind
    | tree => rfl
  have hsame : before ++ inner ++ after =
      (decorators ++ first) ++ n.withRole .definition :: last := by
    rw [← h, Fragment.withRole, List.map_append, List.map_cons, ← Fragment.withRole,
      ← Fragment.withRole, hkept first fun m hm => hextra m (by simp [hm]),
      hkept last fun m hm => hextra m (by simp [hm]), hn.isExtra, hnamed, List.append_assoc]
    rfl
  obtain ⟨left, right, rfl, hleft, hright⟩ :=
    enclosed_split hsame hends (hn.withRole .definition).isExtra
  refine ⟨left, _, right, rfl, hrole, hn.withRole _, fun m hm => ?_⟩
  have hmem : m ∈ decorators ∨ m ∈ first ++ last := by
    have : m ∈ (before ++ left) ++ (right ++ after) := by
      rcases List.mem_append.mp hm with hm | hm <;> simp [hm]
    rw [← hleft, ← hright] at this
    simpa [or_assoc] using this
  rcases hmem with hmem | hmem
  · exact ⟨hfree m hmem, Bool.eq_false_iff.mpr (hdecorators.houses m hmem)⟩
  · have hloose := hcovers.loose m (by
      rcases List.mem_append.mp hmem with hmem | hmem <;> simp [hmem]) (.inl (hextra m hmem))
    rw [hloose]
    exact ⟨by decide, Node.holdsStatements_of_isExtra (hextra m hmem)⟩

/-- A class below decorators without an error stands behind a line that their sign is before. -/
theorem Decorates.signs {s s' : Sight} {f g : Fragment} {c₁ : Cursor} (hs : c.Seen s)
    (hsign : s.token = .mark "@") (h₁ : Decorates P c s f c₁) (hs' : c₁.Seen s')
    (hclass : s'.token = .word "class") (h₂ : g.Opens s' s'.Names) {before inner after : Fragment}
    (h : f ++ g.withRole .definition = before ++ inner ++ after)
    (hends : ∀ n ∈ before ++ after, n.isExtra = true) (herror : Node.anyHasError inner = false) :
    SignsClass c.rest := by
  obtain ⟨first, behind, rfl, hfirst, hsupplied⟩ := h₁.opens
  obtain ⟨definition, rest, rfl, hplain, hnames⟩ := h₂
  obtain ⟨named, hnamed, hnamedPlain, hnamedError⟩ :=
    hs'.withRole_extras .definition rest hplain
  have hsame : before ++ inner ++ after = s.extras ++ first :: (behind ++ s'.extras) ++
      named :: Fragment.withRole .definition rest := by
    rw [← h, hnamed]
    simp
  have hinner := enclosed_between hsame hends hfirst hnamedPlain
  have hclean : ∀ n ∈ first :: (behind ++ s'.extras) ++ [named], n.hasError = false := by
    intro n hn
    refine Bool.eq_false_iff.mpr fun he => ?_
    rw [Node.anyHasError_eq_true.mpr ⟨n, hinner n hn, he⟩] at herror
    cases herror
  have hnames : s'.Names := hnames (hnamedError ▸ hclean named (by simp))
  have hopens := hs'.opens hclass
    (.of_clean (n := named) (fun _ => hnames.1) fun n hn => hclean n (by simp_all)) hnames.2
  refine ⟨s.cursor.rest, c₁.rest, hs.forward.suffix, h₁.behind,
    hs.sign hsign (hsupplied (hclean first (by simp))), ?_, hopens⟩
  rcases h₁.ends with hnil | hline
  · rw [hnil] at hopens
    cases hopens
  · exact hline

theorem decorated_spans (hP : Buildable P) (hk : k.Closed P) {s : Sight} (hs : c.Seen s)
    (hsign : s.token = .mark "@") : Ensures (decorated k s) c (Covers P Node.IsCompound c) := by
  unfold decorated
  refine (decorator_decorates hP hk.toKeeps hs).bind fun first c₁ h₁ => ?_
  refine (Ensures.repeating h₁ fun sofar c₂ h₂ => .look fun s' hs' => ?_).bind
    fun decorators c₂ h₂ => .look fun s' hs' => ?_
  · split
    · refine (decorator_decorates hP hk.toKeeps hs').bind fun f c₃ h₃ => .pure (h₂.append h₃)
    · exact .pure h₂
  extract_lets afterDefinition
  -- below decorators stands a class, whose word was seen behind them, or a function
  have hafter : ∀ kind f c₃, Covers P Node.IsCompound c₂ f c₃ ∧ f.Defines kind →
      (kind = .classDefinition → s'.token = .word "class" ∧ f.Opens s' s'.Names) →
      Ensures (afterDefinition f) c₃ (Covers P Node.IsCompound c) := by
    intro kind f c₃ h₃ hclass
    have hall := (Covers.of_spans h₂.spans).append (h₃.1.definition hP h₃.2)
    refine .pure (hall.enclose hP _ (fun _ => id) fun before inner after e hends =>
      ⟨⟨nofun, fun _ herror n hn hrole hkind => ?_, fun n hn => hall.houses n (by simp [e, hn]),
        fun _ => h₃.2.below h₂.free h₂.spans h₃.1 e hends, nofun⟩, fun _ => rfl⟩)
    have hmem : n ∈ decorators ++ f.withRole .definition := by simp [e, hn]
    rcases List.mem_append.mp hmem with hmem | hmem
    · exact absurd hrole (h₂.free n hmem)
    · obtain ⟨m, hm, rfl⟩ := List.mem_map.mp hmem
      have hmkind : m.kind = .classDefinition := by
        split at hkind
        · exact hkind
        · rwa [Node.kind_withRole] at hkind
      have hplain : m.isExtra = false := by
        unfold Node.isExtra
        rw [hmkind]
      obtain ⟨hword, hopens⟩ := hclass ((h₃.2.of_mem hm hplain).1.symm.trans hmkind)
      exact h₂.signs hs hsign hs' hword hopens e hends herror
  split
  · next hword =>
    exact (classDefinition_covers hP hk hs' hword).bind fun f c₃ h₃ =>
      hafter _ f c₃ ⟨h₃.1, h₃.2.1⟩ fun _ => ⟨hword, h₃.2.2⟩
  · exact (functionDefinition_covers hP hk (.nil _) .nil hs').bind fun f c₃ h₃ =>
      hafter _ f c₃ h₃ fun h => by cases h
  · refine (take_spans_free hP hs' _ (r := .name) (by decide)).bind fun start c₃ h₃ => ?_
    refine .look fun next hn => ?_
    split
    · exact (functionDefinition_covers hP hk h₃.1 h₃.2 hn).bind fun f c₄ h₄ =>
        hafter _ f c₄ h₄ fun h => by cases h
    · exact (Ensures.failAt next (Q := fun _ _ => False)).bind fun _ _ h => h.elim
  · exact (Ensures.failAt s' (Q := fun _ _ => False)).bind fun _ _ h => h.elim

/-! ## 6. Compound statements -/

theorem clause_covers (hP : Buildable P) (hk : k.Closed P) {s : Sight} (hs : c.Seen s)
    {head : Reader Fragment} (hhead : ∀ c, Ensures head c (Spans P c)) :
    Ensures (clause k s head) c (Covers P (·.kind = .clause) c) := by
  unfold clause
  refine (take_spans hP hs _).bind fun keyword c₁ h₁ => (hhead _).bind fun inner c₂ h₂ => ?_
  exact (body_covers hP hk).bind fun f c₃ h₃ => .pure
    (((Covers.of_spans (h₁.append h₂)).append h₃.1).house hP (by decide) (fun _ => id) fun _ => rfl)

theorem clauses_covers (hP : Buildable P) (hk : k.Closed P)
    {choose : String → Option (Reader Fragment)}
    (hchoose : ∀ w head, choose w = some head → ∀ c, Ensures head c (Spans P c)) :
    Ensures (clauses k choose) c (Covers P (·.kind = .clause) c) := by
  unfold clauses
  refine .repeating (.nil c) fun sofar c₁ h₁ => .look fun s hs => ?_
  split
  · split
    · next head hhead =>
      refine (clause_covers hP hk hs (hchoose _ _ hhead)).bind fun f c₂ h₂ => .pure ?_
      exact h₁.append h₂
    · exact .pure h₁
  · exact .pure h₁

theorem exceptHead_spans (hP : Buildable P) (hk : k.Keeps P) :
    Ensures (exceptHead k) c (Spans P c) := by
  unfold exceptHead
  refine .look fun s hs => ?_
  extract_lets afterStar
  have hafter : ∀ star c₁, Spans P c star c₁ → Ensures (afterStar star) c₁ (Spans P c) := by
    intro star c₁ h₁
    refine .look fun s hs => ?_
    split
    · exact .pure h₁
    · exact (expressions_spans hP hk).bind fun r c₂ h₂ => .pure (h₁.append h₂)
  split
  · exact (take_spans hP hs _).bind hafter
  · exact hafter _ _ (.nil _)

/-- A clause with nothing between its word and its colon. -/
theorem pure_nil_spans (c : Cursor) : Ensures (pure [] : Reader Fragment) c (Spans P c) :=
  .pure (.nil c)

/-- An `else` and nothing else. -/
theorem else_spans {w : String} {head : Reader Fragment}
    (h : (if w = "else" then some (pure []) else none) = some head) (c : Cursor) :
    Ensures head c (Spans P c) := by
  split at h
  · cases h
    exact pure_nil_spans c
  · cases h

/-- A compound statement from what stands before its block, the block, and its clauses. -/
theorem Covers.compound (hP : Buildable P) {head first rest : Fragment} {c₁ c₂ c₃ : Cursor}
    {kind : Kind} (h : Spans P c head c₁) (hfirst : Covers P Node.IsBody c₁ first c₂)
    (hrest : Covers P (·.kind = .clause) c₂ rest c₃)
    (hkind : kind.isTold = false ∧ kind.isCompound = true)
    (houses : ∀ n, n.IsBody ∨ n.kind = .clause → Houses kind n) :
    Covers P Node.IsCompound c (Grammar.branch kind (head ++ first ++ rest)) c₃ :=
  (((Covers.of_spans h).append (hfirst.widen fun _ => .inl)).append
    (hrest.widen fun _ => .inr)).house hP hkind.1 houses fun _ => hkind.2

theorem ifStatement_covers (hP : Buildable P) (hk : k.Closed P) {s : Sight} (hs : c.Seen s) :
    Ensures (ifStatement k s) c (Covers P Node.IsCompound c) := by
  unfold ifStatement
  refine (take_spans hP hs _).bind fun keyword c₁ h₁ => ?_
  refine (hk.expression hP true _).bind fun test c₂ h₂ => (body_covers hP hk).bind fun first c₃ h₃ => ?_
  refine (clauses_covers hP hk ?_).bind fun rest c₄ h₄ => .pure ?_
  · intro w head h c
    split at h
    · cases h
      exact hk.expression hP true c
    · cases h
      exact pure_nil_spans c
    · cases h
  · exact .compound hP (h₁.append h₂) h₃.1 h₄ (by decide) fun _ => id

theorem whileStatement_covers (hP : Buildable P) (hk : k.Closed P) {s : Sight} (hs : c.Seen s) :
    Ensures (whileStatement k s) c (Covers P Node.IsCompound c) := by
  unfold whileStatement
  refine (take_spans hP hs _).bind fun keyword c₁ h₁ => ?_
  refine (hk.expression hP true _).bind fun test c₂ h₂ => (body_covers hP hk).bind fun first c₃ h₃ => ?_
  refine (clauses_covers hP hk fun w head h c => else_spans h c).bind fun rest c₄ h₄ => .pure ?_
  exact .compound hP (h₁.append h₂) h₃.1 h₄ (by decide) fun _ => id

theorem forStatement_covers (hP : Buildable P) (hk : k.Closed P) {start : Fragment} {c₁ : Cursor}
    {s : Sight} (h : Spans P c start c₁) (hs : c₁.Seen s) :
    Ensures (forStatement k start s) c₁ (Covers P Node.IsCompound c) := by
  unfold forStatement
  refine (take_spans hP hs _).bind fun keyword c₂ h₂ => ?_
  refine ((forTargets_passes fun c => loopTarget_passes hk.passes).spans hP).bind fun targets c₃ h₃ => ?_
  refine (word_spans hP _).bind fun member c₄ h₄ => ?_
  refine (expressions_spans hP hk.toKeeps).bind fun source c₅ h₅ => ?_
  refine (body_covers hP hk).bind fun first c₆ h₆ => ?_
  refine (clauses_covers hP hk fun w head h c => else_spans h c).bind fun rest c₇ h₇ => .pure ?_
  have hhead := (((h.append h₂).append h₃).append h₄).append h₅
  exact .compound hP hhead h₆.1 h₇ (by decide) fun _ => id

theorem tryStatement_covers (hP : Buildable P) (hk : k.Closed P) {s : Sight} (hs : c.Seen s) :
    Ensures (tryStatement k s) c (Covers P Node.IsCompound c) := by
  unfold tryStatement
  refine (take_spans hP hs _).bind fun keyword c₁ h₁ => ?_
  refine (body_covers hP hk).bind fun first c₂ h₂ => ?_
  refine (clauses_covers hP hk ?_).bind fun rest c₃ h₃ => ?_
  · intro w head h c
    split at h
    · cases h
      exact exceptHead_spans hP hk.toKeeps
    · cases h
      exact pure_nil_spans c
    · cases h
      exact pure_nil_spans c
    · cases h
  · split
    · exact .look fun s _ => .failAt s
    · exact .pure (.compound hP h₁ h₂.1 h₃ (by decide) fun _ => id)

theorem withStatement_covers (hP : Buildable P) (hk : k.Closed P) {start : Fragment} {c₁ : Cursor}
    {s : Sight} (h : Spans P c start c₁) (hs : c₁.Seen s) :
    Ensures (withStatement k start s) c₁ (Covers P Node.IsCompound c) := by
  unfold withStatement
  refine (take_spans hP hs _).bind fun keyword c₂ h₂ => ?_
  refine (expressions_spans hP hk.toKeeps).bind fun items c₃ h₃ => ?_
  refine (body_covers hP hk).bind fun f c₄ h₄ => .pure ?_
  have hhead := (h.append h₂).append h₃
  exact ((Covers.of_spans hhead).append h₄.1).house hP (by decide) (fun _ => .inl) fun _ => rfl

/-- What stands between `case` and its colon. -/
theorem casePattern_spans (hP : Buildable P) (hk : k.Keeps P) : Ensures (do
    let patterns ← commaList Token.startsElement do
      let s ← look
      if s.isMark "**" then element k else k.expression false
    let s ← look
    if s.isWord "if" then
      let guard ← take s .keyword
      return patterns.1 ++ guard ++ (← k.expression true)
    else return patterns.1) c (Spans P c) := by
  refine (commaList_spans hP fun c => .look fun s _ => ?_).bind
    fun patterns c₁ h₁ => .look fun s hs => ?_
  · split
    · exact (element_passes hk.passes).spans hP
    · exact hk.expression hP false c
  split
  · refine (take_spans hP hs _).bind fun guard c₂ h₂ => ?_
    exact (hk.expression hP true _).bind fun f c₃ h₃ => .pure ((h₁.append h₂).append h₃)
  · exact .pure h₁

theorem matchStatement_covers (hP : Buildable P) (hk : k.Closed P) {s : Sight} (hs : c.Seen s) :
    Ensures (matchStatement k s) c (Covers P Node.IsCompound c) := by
  unfold matchStatement
  refine (take_spans hP hs _).bind fun keyword c₁ h₁ => ?_
  refine (expressions_spans hP hk.toKeeps).bind fun subjects c₂ h₂ => ?_
  refine (mark_spans hP _).bind fun colon c₃ h₃ => .get ?_
  have hhead := (h₁.append h₂).append h₃
  have hend : ∀ cases c₄, Covers P (·.kind = .clause) c₃ cases c₄ → Ensures (pure
      (branch .matchStatement (keyword ++ subjects.1 ++ colon ++ (block cases).withRole .body)) :
        Reader Fragment) c₄ (Covers P Node.IsCompound c) := by
    intro cases c₄ h₄
    have hblock : Covers P (·.kind = .block) c₃ (block cases) c₄ :=
      h₄.block hP (fun _ => .inr) fun _ _ => rfl
    have hbody := hblock.inRole hP (r := .body) (by decide) fun n hn =>
      (Node.kind_withRole .body n).trans hn
    exact .pure (((Covers.of_spans hhead).append hbody).house hP (by decide) (fun _ => id)
      fun _ => rfl)
  refine .nextIndent fun indent => ?_
  split
  · split
    · refine .modify ((clauses_covers hP hk ?_).bind fun cases c₄ h₄ => .nextIndent fun left => ?_)
      · intro w head h c
        split at h
        · cases h
          exact casePattern_spans hP hk.toKeeps
        · cases h
      · have h₄ : Covers P (·.kind = .clause) c₃ cases c₄ := h₄.before rfl rfl rfl rfl
        have hlast : Ensures (do
            modify fun c => { c with indents := c.indents.tail }
            return branch .matchStatement
              (keyword ++ subjects.1 ++ colon ++ (block cases).withRole .body)) c₄
            (Covers P Node.IsCompound c) :=
          .modify (hend _ _ (h₄.behind rfl rfl rfl rfl))
        split
        · split
          · exact hlast
          · refine .look fun s _ => ?_
            exact (Ensures.failAt s (Q := fun _ _ => False)).bind fun _ _ h => h.elim
        · exact hlast
    · exact hend _ _ (.nil _)
  · exact hend _ _ (.nil _)

theorem plainStatement_covers (hP : Buildable P) (hk : k.Closed P) :
    Ensures (plainStatement k) c (Covers P Node.IsCompound c) := by
  -- the statement starts from the cursor with nothing open; what was read is the same
  have hstart : ∀ {d : Cursor}, d = { c with trail := [], ends := false, brackets := 0 } →
      ∀ f c', Covers P Node.IsCompound d f c' → Covers P Node.IsCompound c f c' := fun e f c' h => by
    subst e
    exact h.before rfl rfl rfl rfl
  unfold plainStatement
  refine .modify (.mono ?_ (hstart rfl))
  generalize ({ c with trail := [], ends := false, brackets := 0 } : Cursor) = d
  have hline : Ensures (simpleLine k) d (Covers P Node.IsCompound d) :=
    (simpleLine_spans hP hk).mono fun _ _ => .of_spans
  refine .look fun s hs => ?_
  split
  · exact ifStatement_covers hP hk hs
  · exact whileStatement_covers hP hk hs
  · exact forStatement_covers hP hk (.nil d) hs
  · exact tryStatement_covers hP hk hs
  · exact withStatement_covers hP hk (.nil d) hs
  · exact (functionDefinition_covers hP hk (.nil d) .nil hs).mono fun _ _ h => h.1
  · next hword => exact (classDefinition_covers hP hk hs hword).mono fun _ _ h => h.1
  · next hsign => exact decorated_spans hP hk hs hsign
  · exact hline.orElse (matchStatement_covers hP hk hs)
  · refine .get ((take_spans_free hP hs _ (r := .name) (by decide)).bind fun start c₁ h₁ => ?_)
    refine .lookOn fun next hn => ?_
    split
    · exact (functionDefinition_covers hP hk h₁.1 h₁.2 hn).mono fun _ _ h => h.1
    · exact forStatement_covers hP hk h₁.1 hn
    · exact withStatement_covers hP hk h₁.1 hn
    · exact .set hline
  · exact hline

/-! ## 7. Repair -/

/-- A line that is passed over becomes an error. -/
theorem brokenLine_spans (hP : Buildable P) (hc : c.repair = none) :
    Ensures brokenLine c fun f c' =>
      Spans P c f c' ∧ c'.repair = none ∧ Node.anyHasError f = true := by
  unfold brokenLine
  refine .look fun s hs => .set (.pure ?_)
  generalize max (lineLength s.cursor.rest) 1 = count
  have hrepair : (s.cursor.advance count).repair = none := by
    rw [Cursor.advance_repair]
    rcases hs.repair with h | h
    · exact h.trans hc
    · exact h.1
  have herror : Node.anyHasError (s.extras ++ [errorNode s.gap s.cursor count]) = true :=
    Node.anyHasError_eq_true.mpr ⟨_, List.mem_append_right _ (List.mem_singleton_self _), rfl⟩
  have hnodes : ∀ n ∈ s.extras ++ [errorNode s.gap s.cursor count], Between n := by
    intro n hn
    rcases List.mem_append.mp hn with hn | hn
    · exact hs.extras n hn
    · rw [List.mem_singleton.mp hn]
      exact .passed ..
  refine ⟨?_, hrepair, herror⟩
  exact
    { forward := hs.forward.trans (.of_advance ..)
      budget := (Cursor.advance_budget ..).trans hs.budget
      nodes := fun n hn => (hnodes n hn).everywhere hP _ _
      loose := fun n hn _ => (hnodes n hn).role
      houses := fun n hn hholds => by
        rw [(hnodes n hn).plain] at hholds
        cases hholds
      repair := .inr ⟨hrepair, herror⟩ }

/-- A fragment in which a repair shows may have been read with any other. -/
theorem Covers.of_broken {c₀ c' : Cursor} {f : Fragment} (h : Covers P K c₀ f c')
    (hrest : c₀.rest = c.rest) (hoffset : c₀.offset = c.offset) (hbudget : c₀.budget = c.budget)
    (hused : c'.repair = none ∧ Node.anyHasError f = true) : Covers P K c f c' := by
  obtain ⟨⟨read, t, o⟩, b, nodes, loose, houses, -⟩ := h
  refine ⟨⟨read, hrest ▸ t, hoffset ▸ o⟩, hbudget ▸ b, fun n hn => ?_, loose, houses, .inr hused⟩
  rw [hused.2]
  exact (nodes n hn).mono fun _ => .of_broken hrest hbudget

theorem statement_covers (hP : Buildable P) (hk : k.Closed P) :
    Ensures (statement k) c (Covers P Node.IsCompound c) := by
  intro f c' h
  unfold statement at h
  split at h
  · next hplain =>
    cases h
    exact plainStatement_covers hP hk f c' hplain
  · next fault _ =>
    dsimp only at h
    split at h
    · next r hr =>
      cases h
      obtain ⟨change, -, hchange⟩ := List.exists_of_findSome?_eq_some hr
      split at hchange
      · next fragment after hafter =>
        split at hchange
        · next hnone =>
          cases hchange
          -- the change came from here, so it was used up on the way and shows in the tree
          have hs := plainStatement_covers hP hk f c' hafter
          have hused : c'.repair = none ∧ Node.anyHasError f = true := by
            rcases hs.repair with e | e
            · rw [e] at hnone
              cases hnone
            · exact e
          exact hs.of_broken rfl rfl rfl hused
        · cases hchange
      · cases hchange
    · obtain ⟨hs, hused⟩ := brokenLine_spans hP rfl f c' h
      exact (Covers.of_spans hs).of_broken rfl rfl rfl hused

/-! ## 8. Whole texts -/

/-- The readers that are called through any depth keep every property that building keeps. -/
theorem Knot.tied_closed (hP : Buildable P) (depth : Nat) : (Knot.tied depth).Closed P := by
  refine ⟨⟨Knot.tied_passes depth, ?_⟩, depth, rfl⟩
  induction depth with
  | zero => exact fun c => .look fun s _ => .failAt s
  | succ depth ih => exact fun c => statement_covers hP ⟨⟨Knot.tied_passes depth, ih⟩, depth, rfl⟩

/-- What building keeps holds of every node of the tree of a text; if nothing in it is broken, then of
cursors without repair. -/
theorem parseModule_behind (hP : Buildable P) (source : List Glyph) :
    (parseModule source).Everywhere
      (Behind P (Cursor.start source) (parseModule source).hasError) := by
  have htree : ∀ f : Fragment, (∀ n ∈ f,
      n.Everywhere (Behind P (Cursor.start source) (Node.anyHasError f)) ∧
        (n.holdsStatements = true → n.IsCompound)) →
      (Node.tree .module .none f).Everywhere
        (Behind P (Cursor.start source) (Node.tree .module .none f).hasError) := fun f hf =>
    hP.put (.other (by decide) fun n hn => (hf n hn).2)
      (Node.everywhereIn_iff.mpr fun n hn => (hf n hn).1)
  have hbetween : ∀ n broken, Between n →
      n.Everywhere (Behind P (Cursor.start source) broken) ∧
        (n.holdsStatements = true → n.IsCompound) := by
    intro n broken hn
    refine ⟨hn.everywhere hP _ _, fun hholds => ?_⟩
    rw [hn.plain] at hholds
    cases hholds
  unfold parseModule
  dsimp only
  split
  · next fragment c' h =>
    refine htree fragment ?_
    have hlines : Ensures (moduleLines (Knot.tied (Cursor.start source).budget))
        (Cursor.start source) fun f _ => ∀ n ∈ f,
          n.Everywhere (Behind P (Cursor.start source) (Node.anyHasError f)) ∧
            (n.holdsStatements = true → n.IsCompound) := by
      unfold moduleLines
      refine (Ensures.repeating (Q := Covers P Node.IsCompound (Cursor.start source)) (.nil _)
        fun sofar c₁ h₁ => .nextIndent fun indent => ?_).bind fun all c₁ h₁ => .look fun s hs => ?_
      · split
        · refine ((Knot.tied_closed hP _).statement _).bind fun f c₂ h₂ => .pure ?_
          exact h₁.append h₂
        · exact .pure h₁
      · refine .pure fun n hn => ?_
        rcases List.mem_append.mp hn with hn | hn
        · exact ⟨(h₁.nodes n hn).broken (Covers.anyHasError_append (.inl rfl)), h₁.houses n hn⟩
        · exact hbetween n _ (hs.extras n hn)
    exact hlines fragment c' h
  · refine htree _ fun n hn => ?_
    rw [List.mem_singleton.mp hn]
    exact hbetween _ _ (.passed ..)

/-- What building keeps holds of every node of the tree of a text, from some rest of it on. -/
theorem parseModule_everywhere (hP : Buildable P) (source : List Glyph) :
    (parseModule source).Everywhere fun n =>
      ∃ d : Cursor, d.rest <:+ source ∧ d.budget = source.length + 2 ∧ P d n :=
  (parseModule_behind hP source).mono fun _ hn => by
    obtain ⟨d, hrest, hbudget, -, hn⟩ := hn
    exact ⟨d, hrest, hbudget, hn⟩

end FluentBuilders.Grammar
