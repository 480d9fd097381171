import Mathlib.Data.List.Forall2
import FluentBuilders.Proofs.Grammar.Execution.Expressions

/-!
Statements at places.

1. Imports.
2. Simple statements, and the lines that they fill.
3. Blocks.
4. Functions, classes and conditions.
-/

namespace FluentBuilders.Grammar

open Text

variable {k : Knot} {s s₁ s₂ s' : Place} {σ : Sight} {t : Token}
  {w w' behind behind' : List Char} {Q R : Fragment → Prop}

/-! ## 1. Imports -/

/-- Tokens that spell out the texts one by one. -/
def Spells (texts : List String) (f : Fragment) : Prop :=
  List.Forall₂ (fun text n => ∃ kind gap position,
    n = .leaf kind .none gap text position ∧ kind.isProper = true ∧ isAllBlank gap = true) texts f

theorem Spells.clean {texts : List String} {f : Fragment} (h : Spells texts f) : Clean f := by
  induction h with
  | nil => exact .nil
  | cons hn _ ih =>
    obtain ⟨kind, gap, position, rfl, hkind, -⟩ := hn
    refine List.forall_mem_cons.mpr ⟨⟨Kind.isExtra_of_isProper hkind, ?_⟩, ih⟩
    rw [Node.hasError]
    cases kind <;> first | rfl | cases hkind

theorem IsLeaf.spells {kind : Kind} {v : String} {f : Fragment} (h : IsLeaf kind v.toList f)
    (hkind : kind.isProper = true) : Spells [v] f := by
  obtain ⟨gap, position, hgap, rfl⟩ := h
  exact .cons ⟨kind, gap, position, by rw [String.ofList_toList], hkind, hgap⟩ .nil

theorem Spells.append {texts texts' : List String} {f f' : Fragment} (h : Spells texts f)
    (h' : Spells texts' f') : Spells (texts ++ texts') (f ++ f') := List.rel_append h h'

/-- A dotted name by its first part and the others. -/
def IsDottedName (first : String) (names : List String) (f : Fragment) : Prop :=
  ∃ l, f = [.tree .dottedName .none l] ∧ Spells (first :: names.flatMap fun v => [".", v]) l

theorem IsDottedName.clean {first : String} {names : List String} {f : Fragment}
    (h : IsDottedName first names f) : Clean f := by
  obtain ⟨l, rfl, hl⟩ := h
  exact IsTree.clean ⟨l, rfl, hl.clean⟩ rfl

/-- The parts of a dotted name behind the first. -/
def membersText (names : List String) : List Char := names.flatMap fun v => '.' :: v.toList

theorem endsName_membersText {names : List String} (h : endsName behind = true) :
    endsName (membersText names ++ behind) = true := by
  cases names with
  | nil => exact h
  | cons v names => rfl

theorem endsPoint_name {v : String} (hv : isIdentifier v = true) :
    endsPoint (v.toList ++ behind) = true := by
  obtain ⟨c, rest, hcons, hstart, -⟩ := isIdentifier_iff.mp hv
  rw [hcons, List.cons_append]
  have hno : ∀ d : Char, isNameStart d = false → c ≠ d := fun d hd hcd => by
    rw [← hcd, hstart] at hd
    cases hd
  have hdigit : c.isDigit = false := by
    rw [Bool.eq_false_iff]
    intro hdigit
    simp only [Char.isDigit, Bool.and_eq_true, decide_eq_true_eq, UInt32.le_iff_toNat_le, ge_iff_le]
      at hdigit
    have hrange : 48 ≤ c.toNat ∧ c.toNat ≤ 57 := hdigit
    have hascii : ∀ n < 128, 48 ≤ n → n ≤ 57 → isNameStart (Char.ofNat n) = false := by decide
    rw [← Char.ofNat_toNat c, hascii _ (by omega) hrange.1 hrange.2] at hstart
    cases hstart
  simp [endsPoint, hno '=' (by decide), hno '.' (by decide), hdigit]

/-- A dotted name ends before what is no further part. -/
theorem Gives.dottedName {first : String} (names : List String) (hfirst : isIdentifier first = true)
    (hnames : ∀ v ∈ names, isIdentifier v = true)
    (htext : s.text = ' ' :: (first.toList ++ (membersText names ++ behind)))
    (hends : endsName behind = true) (hend : (s.at behind).Ahead s.lineBound t w behind')
    (ht : t ≠ .mark ".") : Gives Grammar.dottedName s (IsDottedName first names) (s.at behind) := by
  refine (Gives.identifier (Place.ahead_spaced htext (.word hfirst (endsName_membersText hends)))
    ?_).bind fun start hstart => ?_
  · rintro rfl
    cases hfirst
  refine (Gives.repeating (A := Spells [first])
    (Q := Spells (first :: names.flatMap fun v => [".", v]))
    (m := s.at behind) ?_ (hstart.spells rfl)).bind fun all hall => ?_
  · -- each step reads one more part
    show GivesOn _ (Spells [first]) _ (Spells ([first] ++ names.flatMap fun v => [".", v])) _
    clear htext hstart hfirst start
    generalize [first] = texts
    induction names generalizing texts with
    | nil =>
      rw [List.flatMap_nil, List.append_nil]
      refine .stop fun sofar _ => .lookOn hend fun σ hσ => ?_
      rw [show σ.isMark "." = false by simpa [Sight.isMark, hσ.token] using ht]
      exact .pure rfl
    | cons v names ih =>
      rw [List.forall_mem_cons] at hnames
      have hdot : ∀ stop, (s.at (membersText (v :: names) ++ behind)).Ahead stop
        (.mark ".") ".".toList
          (v.toList ++ (membersText names ++ behind)) := fun stop =>
        Place.ahead_here (by simp [Place.at, membersText])
        (.point (by simp) (endsPoint_name hnames.1))
      have hname : (s.at (v.toList ++ (membersText names ++ behind))).Ahead false (.word v) v.toList
          (membersText names ++ behind) :=
        Place.ahead_here rfl (.word hnames.1 (endsName_membersText hends))
      refine .more (B := Spells (texts ++ [".", v]))
        (m := s.at (membersText names ++ behind)) ?_ ?_ ?_
      · refine fun sofar hsofar => .lookOn (hdot _) fun σ hσ => ?_
        rw [show σ.isMark "." = true by simp [Sight.isMark, hσ.token]]
        refine (Gives.take hσ .mark).bind fun dot hleaf => ?_
        refine (Gives.identifier hname ?_).bind fun name hname => ?_
        · rintro rfl
          cases hnames.1
        · refine .pure ⟨_, rfl, ?_⟩
          rw [List.append_assoc]
          exact hsofar.append ((hleaf.spells rfl).append (hname.spells rfl))
      · simp only [Place.at, membersText, List.flatMap_cons, List.length_append, List.length_cons]
        omega
      · rw [List.flatMap_cons, ← List.append_assoc]
        exact ih hnames.2 _
  · exact .pure ⟨all, hall.clean.branch_eq, hall⟩

/-- The tokens that may follow an item of an import. -/
def itemEnds : List Token := [.lineEnd, .mark ",", .word "import"]

theorem Gives.importItem {v : String} (hv : isIdentifier v = true)
    (htext : s.text = ' ' :: (v.toList ++ behind))
    (hends : endsName behind = true) (hend : (s.at behind).Ahead s.lineBound t w behind')
    (ht : t ∈ itemEnds) : Gives Grammar.importItem s (IsDottedName v []) (s.at behind) := by
  have hall : ∀ t ∈ itemEnds, t ≠ .mark "." ∧ t ≠ .word "as" := by decide
  refine (Gives.dottedName [] hv (List.forall_mem_nil _) htext hends hend
    (hall t ht).1).bind fun name hname => ?_
  refine .lookOn hend fun σ hσ => ?_
  rw [show σ.isWord "as" = false by simpa [Sight.isWord, hσ.token] using (hall t ht).2]
  exact .pure hname

/-- An import from a module with a dotted name: the words, the name of the module, and the items. -/
def IsImport (first : String) (names : List String) (P : Fragment → Prop) (f : Fragment) : Prop :=
  ∃ l before place between items, f = [.tree .importFrom .none l] ∧
    l = before ++ Fragment.withRole .moduleName place ++ between ++ items ∧
      IsLeaf .keyword "from".toList before ∧ IsDottedName first names place ∧
        IsLeaf .keyword "import".toList between ∧ P items ∧ Clean items

theorem IsImport.clean {first : String} {names : List String} {P : Fragment → Prop} {f : Fragment}
    (h : IsImport first names P f) : Clean f := by
  obtain ⟨l, before, place, between, items, rfl, rfl, hbefore, hplace, hbetween, -, hitems⟩ := h
  exact IsTree.clean ⟨_, rfl, (((hbefore.clean rfl).append (hplace.clean.withRole _)).append
    (hbetween.clean rfl)).append hitems⟩ rfl

theorem Gives.importedNames {wildcard : Bool} (hstart : s.Ahead false t w behind)
    (ht : t ≠ .mark "*" ∧ t ≠ .mark "(") (h : Gives importItems s Q s') :
    Gives (Grammar.importedNames wildcard) s Q s' := by
  refine .look hstart fun σ hσ => ?_
  rw [show σ.isMark "*" = false by simpa [Sight.isMark, hσ.token] using ht.1,
    show σ.isMark "(" = false by simpa [Sight.isMark, hσ.token] using ht.2, Bool.and_false]
  exact h

theorem Gives.importFrom {first : String} {names : List String} {behind₁ behind₂ : List Char}
    {P : Fragment → Prop}
    (hσ : σ.Shows s (.word "from") "from".toList
    (' ' :: (first.toList ++ (membersText names ++ behind))))
    (hfirst : isIdentifier first = true) (hfuture : first ≠ "__future__")
    (hnames : ∀ v ∈ names, isIdentifier v = true)
    (hbehind : behind = ' ' :: ("import".toList ++ (' ' :: behind₁)))
    (hstart : (s.at (' ' :: behind₁)).Ahead false t w behind₂) (ht : t ≠ .mark "*" ∧ t ≠ .mark "(")
    (hitems : Gives importItems (s.at (' ' :: behind₁)) (fun f => P f ∧ Clean f) s') {s₀ : Place} :
    Gives (Grammar.importFrom σ) s₀ (IsImport first names P) s' := by
  subst hbehind
  have hkeyword : ∀ stop, (s.at (' ' :: ("import".toList ++ (' ' :: behind₁)))).Ahead stop
      (.word "import") "import".toList (' ' :: behind₁) := fun stop =>
    Place.ahead_spaced rfl (.word rfl rfl)
  have hplace : Gives Grammar.dottedName (s.at (' ' :: (first.toList ++ (membersText names ++
      (' ' :: ("import".toList ++ (' ' :: behind₁))))))) (IsDottedName first names)
      (s.at (' ' :: ("import".toList ++ (' ' :: behind₁)))) :=
    Gives.dottedName names hfirst hnames rfl rfl (hkeyword _) (by simp)
  have hname : (s.at (' ' :: (first.toList ++ (membersText names ++
      (' ' :: ("import".toList ++ (' ' :: behind₁))))))).Ahead false (.word first) first.toList _ :=
    Place.ahead_spaced rfl (.word hfirst (endsName_membersText rfl))
  refine (Gives.take hσ .keyword).bind fun keyword hleaf => ?_
  refine .look hname fun σ' hσ' => ?_
  simp only [hσ'.token]
  split
  · next heq =>
    exact absurd (Token.word.inj heq) hfuture
  · next heq => cases heq
  · next heq => cases heq
  · refine hplace.bind fun place hplace => ?_
    refine (Gives.word (hkeyword false)).bind fun between hbetween => ?_
    refine (Gives.importedNames hstart ht hitems).bind fun items hitems => ?_
    have hclean : Clean (keyword ++ Fragment.withRole .moduleName place ++ between ++ items) :=
      (((hleaf.clean rfl).append (hplace.clean.withRole _)).append (hbetween.clean rfl)).append
      hitems.2
    exact .pure ⟨_, keyword, place, between, items, hclean.branch_eq, rfl, hleaf, hplace,
      hbetween, hitems⟩

/-! ## 2. Simple statements -/

/-- A clause that ends with its line ends at the place. -/
structure Place.AtEnd (s : Place) : Prop where
  bound : s.lineBound = true
  head : ∀ c ∈ s.text.head?, c = '\n'

theorem Place.AtEnd.ahead (h : s.AtEnd) : s.Ahead s.lineBound .lineEnd [] s.text := by
  rw [h.bound]
  exact Place.ahead_lineEnd h.head

theorem Place.AtEnd.idle (h : s.AtEnd) : s.Idle := ⟨.lineEnd, by decide, _, _, h.ahead⟩

/-- One expression with no comma behind it. -/
theorem Gives.expressions (h : Gives (k.expression true) s Q s')
    (hend : s'.Ahead s'.lineBound t w behind)
    (ht : t ≠ .mark ",") : Gives (Grammar.expressions k) s (fun r => Q r.1 ∧ r.2 = false) s' :=
  .single h hend ht

/-- Names with something behind them are targets. -/
theorem Gives.targetsOf {kind : Kind} {f : Fragment} (hkind : kind = .attribute ∨ kind = .subscript)
    (hf : IsTree kind f) : Gives (Grammar.targetsOf σ (f, false)) s Clean s := by
  have hclean : Clean f := hf.clean (by rcases hkind with rfl | rfl <;> rfl)
  obtain ⟨children, rfl, -⟩ := hf
  refine .get fun c hc _ => ?_
  obtain ⟨budget, hbudget⟩ : ∃ budget, c.budget = budget + 1 :=
    Nat.exists_eq_add_one.mpr (Nat.zero_lt_of_lt hc.fed)
  have htargets : Fragment.asTargets? c.budget [.tree kind .none children] =
      some [.tree kind .none children] := by
    rcases hkind with rfl | rfl <;>
      simp [Fragment.asTargets?, hbudget, asTarget, Node.isExtra, Node.isNamed, Node.kind]
  simp only [htargets]
  exact .pure (hclean.withRole .left)

/-- The last value of an assignment. -/
theorem Gives.assigned {fuel : Nat} (h : Gives (k.expression true) s Clean s') (hend : s'.AtEnd) :
    Gives (Grammar.assigned k (fuel + 1)) s Clean s' := by
  refine (Gives.expressions h hend.ahead (by simp)).bind fun value hvalue => ?_
  refine .lookOn hend.ahead fun σ hσ => ?_
  simp only [hσ.token]
  exact .pure hvalue.1

/-- The words and marks that start no statement of their own. -/
def Token.startsValue : Token → Bool
  | .word v => !(["import", "from", "pass", "break", "continue", "return", "raise", "assert", "del",
      "global", "nonlocal", "print", "exec", "type"].contains v)
  | _ => true

theorem Gives.simple_expression (hstart : s.Ahead false t w behind) (ht : t.startsValue = true)
    (h : Gives (expressionStatement k) s Q s') : Gives (simpleStatement k) s Q s' := by
  refine .look hstart fun σ hσ => ?_
  simp only [hσ.token]
  split <;> first | cases ht | exact h

/-- An expression that is a statement. -/
theorem Gives.expressionStatement (h : Gives (k.expression true) s Clean s') (hend : s'.AtEnd) :
    Gives (Grammar.expressionStatement k) s Clean s' := by
  refine (Gives.expressions h hend.ahead (by simp)).bind fun left hleft => ?_
  refine .lookOn hend.ahead fun σ hσ => ?_
  refine .get fun c _ _ => ?_
  simp only [hσ.token]
  exact .pure ((hleft.1.branch .expressionStatement).clean rfl)

/-- An assignment. -/
theorem Gives.assignment {kind : Kind} (hkind : kind = .attribute ∨ kind = .subscript)
    (htarget : Gives (k.expression true) s (IsTree kind) s₁)
    (hequals : s₁.Ahead s₁.lineBound (.mark "=") w behind)
    (hvalue : Gives (k.expression true) (s₁.at behind) Clean s') (hend : s'.AtEnd) :
    Gives (Grammar.expressionStatement k) s Clean s' := by
  refine (Gives.expressions htarget hequals (by simp)).bind fun left hleft => ?_
  obtain ⟨f, several⟩ := left
  obtain ⟨hf, rfl⟩ := hleft
  refine .lookOn hequals fun σ hσ => ?_
  refine .get fun c hc _ => ?_
  obtain ⟨budget, hbudget⟩ : ∃ budget, c.budget = budget + 1 :=
    Nat.exists_eq_add_one.mpr (Nat.zero_lt_of_lt hc.fed)
  simp only [hσ.token, hbudget]
  refine (Gives.targetsOf hkind hf).bind fun targets htargets => ?_
  refine (Gives.take hσ .mark).bind fun equals hleaf => ?_
  refine (Gives.assigned hvalue hend).bind fun value hclean => .pure ?_
  exact ((((htargets.append (hleaf.clean rfl)).append (hclean.withRole .right)).branch
    .assignment).clean rfl).branch .expressionStatement |>.clean rfl

/-- An assignment with an annotation. -/
theorem Gives.assignment_typed {kind : Kind} {w₁ behind₁ : List Char}
    (hkind : kind = .attribute ∨ kind = .subscript)
    (htarget : Gives (k.expression true) s (IsTree kind) s₁)
    (hcolon : s₁.Ahead s₁.lineBound (.mark ":") w₁ behind₁)
    (htype : Gives (Grammar.typeHint k true) (s₁.at behind₁) Clean s₂)
    (hequals : s₂.Ahead s₂.lineBound (.mark "=") w behind)
    (hvalue : Gives (k.expression true) (s₂.at behind) Clean s') (hend : s'.AtEnd) :
    Gives (Grammar.expressionStatement k) s Clean s' := by
  refine (Gives.expressions htarget hcolon (by simp)).bind fun left hleft => ?_
  obtain ⟨f, several⟩ := left
  obtain ⟨hf, rfl⟩ := hleft
  refine .lookOn hcolon fun σ hσ => ?_
  refine .get fun c hc _ => ?_
  obtain ⟨budget, hbudget⟩ : ∃ budget, c.budget = budget + 1 :=
    Nat.exists_eq_add_one.mpr (Nat.zero_lt_of_lt hc.fed)
  simp only [hσ.token, hbudget]
  refine (Gives.targetsOf hkind hf).bind fun targets htargets => ?_
  refine (Gives.take hσ .mark).bind fun colon hcolon => ?_
  refine htype.bind fun type htype => ?_
  refine .lookOn hequals fun σ' hσ' => ?_
  rw [show σ'.isMark "=" = true by simp [Sight.isMark, hσ'.token]]
  refine (Gives.take hσ' .mark).bind fun equals hequals => ?_
  refine (Gives.assigned hvalue hend).bind fun value hclean => ?_
  refine Gives.bind (Gives.pure ((hequals.clean rfl).append (hclean.withRole .right)))
    fun value hvalue => .pure ?_
  exact (((((htargets.append (hcolon.clean rfl)).append (htype.withRole .type)).append
    hvalue).branch
    .assignment).clean rfl).branch .expressionStatement |>.clean rfl

/-- A value that is returned, or an error that is raised. -/
theorem Gives.simple_keyword {v : String} {w₁ behind₁ : List Char} (hv : v = "return" ∨ v = "raise")
    (h : s.Ahead false (.word v) w behind)
    (hnext : (s.at behind).Ahead s.lineBound t w₁ behind₁) (ht : t.startsExpression = true)
    (hvalue : Gives (k.expression true) (s.at behind) Clean s') (hend : s'.AtEnd) :
    Gives (simpleStatement k) s Clean s' := by
  have hstatement : ∀ σ : Sight, σ.Shows s (.word v) w behind →
      Gives (keywordStatement k σ) s Clean s' := by
    intro σ hσ
    refine (Gives.take hσ .keyword).bind fun keyword hkeyword => ?_
    refine .lookOn hnext fun σ₁ hσ₁ => ?_
    rw [hσ₁.token, ht, if_pos rfl]
    refine (Gives.expressions hvalue hend.ahead (by simp)).bind fun values hvalues => ?_
    refine Gives.bind (Gives.pure hvalues.1) fun value hclean => ?_
    refine .lookOn hend.ahead fun σ₂ hσ₂ => ?_
    rw [show σ₂.isWord "from" = false by simp [Sight.isWord, hσ₂.token]]
    refine Gives.bind (Gives.pure (Q := (· = [])) rfl) fun cause hcause => .pure ?_
    subst hcause
    exact ((((hkeyword.clean rfl).append hclean).append .nil).branch .otherStatement).clean rfl
  refine .look h fun σ hσ => ?_
  simp only [hσ.token]
  rcases hv with rfl | rfl <;> exact hstatement σ hσ

/-- The place at a text between two statements. -/
def Place.flat (text : List Char) (indents : List Nat) : Place := ⟨text, indents, 0, false⟩

variable {text rest : List Char} {indents : List Nat}

theorem Gives.simpleLine (h : Gives (simpleStatement k) ((Place.flat text indents).ending true) Q
      ((Place.flat rest indents).ending true)) (hrest : ∀ c ∈ rest.head?, c = '\n') :
    Gives (Grammar.simpleLine k) (.flat text indents) Q (.flat rest indents) := by
  have hend : ((Place.flat rest indents).ending true).AtEnd := ⟨rfl, hrest⟩
  show Gives _ _ Q ((Place.flat text indents).at rest)
  refine .withEnds (h.bind fun first hfirst => ?_)
  refine (Gives.repeating (A := fun r => r = (first, false)) (.stop ?_) rfl).bind fun r hr => ?_
  · rintro r rfl
    refine .lookOn hend.ahead fun σ hσ => ?_
    rw [show σ.isMark ";" = false by simp [Sight.isMark, hσ.token]]
    exact .pure rfl
  · subst hr
    refine .lookOn hend.ahead fun σ hσ => ?_
    rw [show (σ.token == .lineEnd) = true by simp [hσ.token]]
    refine .set hσ.plain hσ.place (.pure ?_)
    rw [hσ.extras, List.append_nil]
    exact hfirst

/-! ## 3. Blocks -/

/-- The next token behind line ends stands `indent` columns to the right. -/
def Leads (text : List Char) (indent : Nat) : Prop :=
  ∃ passed c behind, text = passed ++ c :: behind ∧ (∀ d ∈ passed, d = ' ' ∨ d = '\n') ∧
    isPassed c = false ∧ indentation 0 passed = indent

/-- No token is left. -/
def Leaves (text : List Char) : Prop := ∀ c ∈ text, c = ' ' ∨ c = '\n'

theorem Gives.nextIndent {indent : Nat} (h : Leads s.text indent) :
    Gives Grammar.nextIndent s (· = some indent) s := by
  obtain ⟨passed, d, behind, htext, hpassed, hd, hindent⟩ := h
  refine .get fun c hc hs => .pure ?_
  have hgap := Cursor.gap_spacing false _ hc hs htext
    (fun e he => (hpassed e he).imp_right fun h => ⟨rfl, h⟩) fun e he => .inl (by
      cases he
      exact hd)
  have hplace := Cursor.place_advance hs htext
  have hne : (c.advance passed.length).rest.isEmpty = false := by
    cases hrest : (c.advance passed.length).rest with
    | nil =>
      have hchars := congrArg Place.text hplace
      rw [Cursor.place, hrest] at hchars
      cases hchars
    | cons g rest => rfl
  rw [hgap]
  dsimp only
  rw [hne, hindent]
  rfl

theorem Gives.nextIndent_none (h : Leaves s.text) : Gives Grammar.nextIndent s (· = none) s := by
  refine .get fun c hc hs => .pure ?_
  have htext : s.text = s.text ++ [] := (List.append_nil _).symm
  have hgap := Cursor.gap_spacing false _ hc hs htext
    (fun e he => (h e he).imp_right fun h => ⟨rfl, h⟩) (by simp)
  have hnil : (c.advance s.text.length).rest = [] :=
    List.map_eq_nil_iff.mp (congrArg Place.text (Cursor.place_advance hs htext))
  rw [hgap]
  dsimp only
  rw [hnil]
  rfl

/-- The statements of an open block, between two texts. -/
inductive Block (k : Knot) (width : Nat) (outer : List Nat) : List Char → List Char → Prop
  | nil {text : List Char} (h : Leaves text ∨ ∃ indent < width, Leads text indent) :
      Block k width outer text text
  | cons {text text₁ text' : List Char} {indent : Nat} (hlead : Leads text indent)
      (hindent : width ≤ indent)
      (hstatement : Gives k.statement (.flat text (width :: outer)) Clean
        (.flat text₁ (width :: outer)))
      (hless : text₁.length < text.length) (hrest : Block k width outer text₁ text') :
      Block k width outer text text'

variable {width : Nat} {outer : List Nat}

theorem Gives.blockLines (h : Block k width outer text rest) :
    Gives (Grammar.blockLines k) (.flat text (width :: outer)) Clean (.flat rest outer) := by
  refine .get fun c hc hs => ?_
  have hwidth : c.indent = width := by
    rw [Cursor.indent, show c.indents = width :: outer from congrArg Place.indents hs]
    rfl
  simp only [hwidth]
  refine (Gives.repeating (A := Clean) (Q := Clean) (m := .flat rest (width :: outer)) ?_ .nil).bind
    fun all hall => ?_
  · clear hs hwidth
    induction h with
    | nil h =>
      refine .stop fun sofar hsofar => ?_
      rcases h with h | ⟨indent, hless, h⟩
      · refine (Gives.nextIndent_none h).bind fun r hr => ?_
        subst hr
        exact .pure rfl
      · refine (Gives.nextIndent h).bind fun r hr => ?_
        subst hr
        simp only [hless, if_true]
        exact .pure rfl
    | cons hlead hindent hstatement hless _ ih =>
      refine .more (fun sofar hsofar => ?_) hless ih
      refine (Gives.nextIndent hlead).bind fun r hr => ?_
      subst hr
      simp only [Nat.not_lt.mpr hindent, if_false]
      exact hstatement.bind fun f hf => .pure ⟨_, rfl, hsofar.append hf⟩
  · exact .modify (fun _ => ⟨rfl, rfl, rfl⟩) (fun d hd => by
      simp only [Cursor.place, Place.flat, Place.mk.injEq] at hd
      simp [Cursor.place, Place.flat, hd]) (.pure hall)

/-- An indented block behind a line end. -/
theorem Gives.suite (hline : text.head? = some '\n') (hlead : Leads text width)
    (hwidth : outer.headD 0 < width) (h : Block k width outer text rest) :
    Gives (Grammar.suite k) (.flat text outer) Clean (.flat rest outer) := by
  have hend : ((Place.flat text outer).ending true).AtEnd := ⟨rfl, by
    intro c hc
    rw [show ((Place.flat text outer).ending true).text = text from rfl, hline] at hc
    exact (Option.some.inj hc).symm⟩
  refine .get fun c hc hs => ?_
  have houter : c.ends = false := congrArg Place.ends hs
  simp only [houter]
  refine .modify (fun _ => ⟨rfl, rfl, rfl⟩) (m := (Place.flat text outer).ending true)
    (fun d hd => by rw [← hd]; rfl) ?_
  refine .lookOn hend.ahead fun σ hσ => ?_
  refine .modify (fun _ => ⟨rfl, rfl, rfl⟩) (m := .flat text outer) (fun d hd => by
    simp only [Cursor.place, Place.flat, Place.ending, Place.mk.injEq] at hd
    simp [Cursor.place, Place.flat, hd]) ?_
  rw [show (σ.token == .lineEnd) = true by simp [hσ.token], if_pos rfl]
  refine .set (m := .flat text outer) ⟨hσ.plain.repair, hσ.plain.fed⟩ ?_ ?_
  · have hplace := hσ.place
    simp only [Cursor.place, Place.flat, Place.ending, Place.at, Place.mk.injEq] at hplace
    simp [Cursor.place, Place.flat, hplace]
  refine .get fun d hd hd' => ?_
  have hindent : d.indent = outer.headD 0 := by
    rw [Cursor.indent, show d.indents = outer from congrArg Place.indents hd']
  refine (Gives.nextIndent hlead).bind fun r hr => ?_
  subst hr
  simp only [hindent, hwidth, if_true]
  refine .modify (fun _ => ⟨rfl, rfl, rfl⟩) (m := .flat text (width :: outer)) (fun e he => by
    simp only [Cursor.place, Place.flat, Place.mk.injEq] at he
    simp [Cursor.place, Place.flat, he]) ?_
  refine (Gives.blockLines h).bind fun inner hinner => .pure ?_
  rw [hσ.extras, List.nil_append, hinner.block_eq]
  exact ((show IsTree .block _ from ⟨inner, rfl, hinner⟩).clean rfl).withRole .body

/-- A colon with an indented block behind it. -/
theorem Gives.body {colon : List Char} (hcolon : colon = ':' :: text)
    (hline : text.head? = some '\n')
    (hlead : Leads text width) (hwidth : outer.headD 0 < width)
    (h : Block k width outer text rest) :
    Gives (Grammar.body k) (.flat colon outer) Clean (.flat rest outer) := by
  have hmark : (Place.flat colon outer).Ahead false (.mark ":") ":".toList text := by
    refine Place.ahead_here hcolon (.point (by simp) ?_)
    cases text with
    | nil => cases hline
    | cons c text =>
      cases hline
      rfl
  refine (Gives.mark hmark).bind fun sign hsign => ?_
  exact (Gives.suite hline hlead hwidth h).bind fun f hf => .pure ((hsign.clean rfl).append hf)

/-! ## 4. Compound statements -/

/-- There are no type parameters. -/
theorem Gives.typeParameters (h : s.Ahead false t w behind) (ht : t ≠ .mark "[") :
    Gives (Grammar.typeParameters k) s (· = []) s := by
  refine .look h fun σ hσ => ?_
  rw [show σ.isMark "[" = false by simpa [Sight.isMark, hσ.token] using ht]
  exact .pure rfl

/-- A parameter without annotation and value. -/
theorem Gives.parameter {v : String} (h : s.Ahead false (.word v) w behind) (hv : v ≠ "")
    (hend : (s.at behind).Ahead false t w' behind') (ht : t ≠ .mark ":" ∧ t ≠ .mark "=") :
    Gives (Grammar.parameter k) s Clean (s.at behind) := by
  refine .look h fun σ hσ => ?_
  simp only [hσ.token]
  refine (Gives.identifier h hv).bind fun name hname => ?_
  refine .look hend fun σ₁ hσ₁ => ?_
  rw [show σ₁.isMark ":" = false by simpa [Sight.isMark, hσ₁.token] using ht.1]
  refine Gives.bind (Gives.pure (Q := (· = [])) rfl) fun type htype => ?_
  refine .look hend fun σ₂ hσ₂ => ?_
  rw [show σ₂.isMark "=" = false by simpa [Sight.isMark, hσ₂.token] using ht.2]
  refine Gives.bind (Gives.pure (Q := (· = [])) rfl) fun value hvalue => .pure ?_
  subst htype hvalue
  exact hname.clean rfl

/-- A parameter with an annotation. -/
theorem Gives.parameter_typed {v : String} {w₁ behind₁ : List Char}
    (h : s.Ahead false (.word v) w behind) (hv : v ≠ "")
    (hcolon : (s.at behind).Ahead false (.mark ":") w₁ behind₁)
    (htype : Gives (Grammar.typeHint k true) (s.at behind₁) Clean s')
    (hend : s'.Ahead false t w' behind') (ht : t ≠ .mark "=") :
    Gives (Grammar.parameter k) s Clean s' := by
  refine .look h fun σ hσ => ?_
  simp only [hσ.token]
  refine (Gives.identifier h hv).bind fun name hname => ?_
  refine .look hcolon fun σ₁ hσ₁ => ?_
  rw [show σ₁.isMark ":" = true by simp [Sight.isMark, hσ₁.token]]
  refine (Gives.take hσ₁ .mark).bind fun colon hcolon => ?_
  refine htype.bind fun type htype => ?_
  refine Gives.bind (Gives.pure ((hcolon.clean rfl).append (htype.withRole .type)))
    fun type htype => ?_
  refine .look hend fun σ₂ hσ₂ => ?_
  rw [show σ₂.isMark "=" = false by simpa [Sight.isMark, hσ₂.token] using ht]
  refine Gives.bind (Gives.pure (Q := (· = [])) rfl) fun value hvalue => .pure ?_
  subst hvalue
  split
  · exact hname.clean rfl
  · exact ((((hname.clean rfl).append htype).append .nil).branch .parameter).clean rfl

/-- A function with parameters and an annotation of its result. -/
theorem Gives.functionDefinition {v : String} {w₁ w₂ w₃ w₄ b₁ b₂ b₃ b₄ b₅ b₆ : List Char}
    (hσ : σ.Shows s (.word "def") w behind) (hname : (s.at behind).Ahead false (.word v) w₁ b₁)
    (hv : v ≠ "") (hopening : (s.at b₁).Ahead false (.mark "(") w₂ b₂)
    (hstart : (s.at b₂).inside.Ahead false t w' behind') (ht : t ≠ .mark ")")
    (hparameter : Gives (Grammar.parameter k) (s.at b₂).inside Clean s₁)
    (hitems : Items Token.startsParameter (Grammar.parameter k) s₁ (s.at b₃).inside)
    (hclosing : (s.at b₃).inside.Ahead false (.mark ")") w₃ b₄)
    (harrow : (s.at b₄).Ahead false (.mark "->") w₄ b₅)
    (hresult : Gives (Grammar.typeHint k false) (s.at b₅) Clean (s.at b₆))
    (hbody : Gives (Grammar.body k) (s.at b₆) Clean s') {s₀ : Place} :
    Gives (Grammar.functionDefinition k [] σ) s₀ Clean s' := by
  refine (Gives.take hσ .keyword).bind fun keyword hkeyword => ?_
  refine (Gives.identifier hname hv).bind fun name hname => ?_
  refine (Gives.typeParameters hopening (by simp)).bind fun types htypes => ?_
  refine (Gives.bracketed hopening (m := b₃) ?_ hclosing).bind fun parameters hparameters => ?_
  · refine .look hstart fun σ₁ hσ₁ => ?_
    rw [show σ₁.isMark ")" = false by simpa [Sight.isMark, hσ₁.token] using ht]
    exact (Gives.commaList hparameter hitems).bind fun r hr => .pure hr
  refine .look harrow fun σ₂ hσ₂ => ?_
  rw [show σ₂.isMark "->" = true by simp [Sight.isMark, hσ₂.token]]
  refine (Gives.take hσ₂ .mark).bind fun arrow harrow => ?_
  refine hresult.bind fun hint hhint => ?_
  refine Gives.bind (Gives.pure ((harrow.clean rfl).append hhint)) fun result hresult => ?_
  refine hbody.bind fun body hbody => .pure ?_
  subst htypes
  refine IsTree.clean (Clean.branch
    (Clean.append (Clean.append (Clean.append (Clean.append (Clean.append
    (Clean.append .nil (hkeyword.clean rfl)) ((hname.clean rfl).withRole .name)) .nil)
    ((hparameters.branch .parameters).clean rfl)) hresult) hbody) _) rfl

/-- A class by its name and what stands behind it. -/
def IsClass (v : String) (f : Fragment) : Prop :=
  ∃ keyword name body, f = [.tree .classDefinition .none
      (keyword ++ Fragment.withRole .name name ++ body)] ∧
    IsLeaf .keyword "class".toList keyword ∧ IsLeaf .identifier v.toList name ∧ Clean body

theorem IsClass.clean {v : String} {f : Fragment} (h : IsClass v f) : Clean f := by
  obtain ⟨keyword, name, body, rfl, hkeyword, hname, hbody⟩ := h
  exact IsTree.clean ⟨_, rfl,
    ((hkeyword.clean rfl).append ((hname.clean rfl).withRole _)).append hbody⟩
    rfl

/-- A class without bases. -/
theorem Gives.classDefinition {v : String} {b₁ : List Char} {w₂ b₂ : List Char}
    (hσ : σ.Shows s (.word "class") "class".toList behind)
    (hname : (s.at behind).Ahead false (.word v) v.toList b₁) (hv : v ≠ "")
    (hcolon : (s.at b₁).Ahead false (.mark ":") w₂ b₂)
    (hbody : Gives (Grammar.body k) (s.at b₁) Clean s') {s₀ : Place} :
    Gives (Grammar.classDefinition k σ) s₀ (IsClass v) s' := by
  refine (Gives.take hσ .keyword).bind fun keyword hkeyword => ?_
  refine (Gives.identifier hname hv).bind fun name hname => ?_
  refine (Gives.typeParameters hcolon (by simp)).bind fun types htypes => ?_
  refine .look hcolon fun σ₁ hσ₁ => ?_
  rw [show σ₁.isMark "(" = false by simp [Sight.isMark, hσ₁.token]]
  refine Gives.bind (Gives.pure (Q := (· = [])) rfl) fun bases hbases => ?_
  refine hbody.bind fun body hbody => .pure ?_
  subst htypes hbases
  rw [List.append_nil, List.append_nil]
  exact ⟨keyword, name, body, Clean.branch_eq (((hkeyword.clean rfl).append
    ((hname.clean rfl).withRole .name)).append hbody), hkeyword, hname, hbody⟩

/-- A condition with no further clause behind its block. -/
theorem Gives.ifStatement {v : String} (hσ : σ.Shows s (.word "if") w behind)
    (htest : Gives (k.expression true) (s.at behind) Clean s₁)
    (hbody : Gives (Grammar.body k) s₁ Clean s') (hnext : s'.Ahead false (.word v) w' behind')
    (hv : v ≠ "elif" ∧ v ≠ "else") {s₀ : Place} :
    Gives (Grammar.ifStatement k σ) s₀ Clean s' := by
  refine (Gives.take hσ .keyword).bind fun keyword hkeyword => ?_
  refine htest.bind fun test htest => ?_
  refine hbody.bind fun first hfirst => ?_
  refine Gives.bind (Q := (· = [])) (m := s') ?_ fun rest hrest => .pure ?_
  · refine Gives.repeating (A := (· = [])) (.stop ?_) rfl
    rintro _ rfl
    refine .look hnext fun σ₁ hσ₁ => ?_
    simp only [hσ₁.token]
    split
    · next heq =>
      split at heq
      · exact absurd rfl hv.1
      · exact absurd rfl hv.2
      · cases heq
    · exact .pure rfl
  · subst hrest
    exact (((((hkeyword.clean rfl).append htest).append hfirst).append .nil).branch
      .ifStatement).clean rfl

/-! Statements by their first token. -/

/-- Whether a token starts a statement that fills its line. -/
def Token.startsLine : Token → Bool
  | .word v => !(["if", "while", "for", "try", "with", "def", "class", "match", "async"].contains v)
  | .mark m => m != "@"
  | _ => true

/-- A statement that can be read needs no repair. -/
theorem Gives.statement (h : Gives (plainStatement k) s Q s') :
    Gives (Grammar.statement k) s Q s' := by
  intro c hc hs
  obtain ⟨f, c', hp, hrest⟩ := h c hc hs
  refine ⟨f, c', ?_, hrest⟩
  unfold Grammar.statement
  rw [hp]

/-- A statement starts between clauses. -/
theorem gives_started {f : Sight → Reader Fragment}
    (h : (Place.flat text indents).Ahead false t w behind)
    (hf : ∀ σ : Sight, σ.Shows (.flat text indents) t w behind → Gives (f σ)
    (.flat text indents) Q s') :
    Gives (do
      modify fun c => { c with trail := [], ends := false, brackets := 0 }
      f (← look)) (.flat text indents) Q s' := by
  refine .modify (fun _ => ⟨rfl, rfl, rfl⟩) (m := .flat text indents) (fun c hc => ?_) ?_
  · simp only [Cursor.place, Place.flat, Place.mk.injEq] at hc
    simp [Cursor.place, Place.flat, hc]
  · exact .look h hf

theorem Gives.plain_line (h : (Place.flat text indents).Ahead false t w behind)
    (ht : t.startsLine = true) (hline : Gives (Grammar.simpleLine k) (.flat text indents) Q s') :
    Gives (plainStatement k) (.flat text indents) Q s' := by
  refine gives_started h fun σ hσ => ?_
  simp only [hσ.token]
  split <;> first | cases ht | exact hline

theorem Gives.plain_if (h : (Place.flat text indents).Ahead false (.word "if") w behind)
    (hif : ∀ σ : Sight, σ.Shows (.flat text indents) (.word "if") w behind →
      Gives (Grammar.ifStatement k σ) (.flat text indents) Q s') :
    Gives (plainStatement k) (.flat text indents) Q s' := by
  refine gives_started h fun σ hσ => ?_
  simp only [hσ.token]
  exact hif σ hσ

theorem Gives.plain_def (h : (Place.flat text indents).Ahead false (.word "def") w behind)
    (hdef : ∀ σ : Sight, σ.Shows (.flat text indents) (.word "def") w behind →
      Gives (Grammar.functionDefinition k [] σ) (.flat text indents) Q s') :
    Gives (plainStatement k) (.flat text indents) Q s' := by
  refine gives_started h fun σ hσ => ?_
  simp only [hσ.token]
  exact hdef σ hσ

theorem Gives.plain_class (h : (Place.flat text indents).Ahead false (.word "class") w behind)
    (hclass : ∀ σ : Sight, σ.Shows (.flat text indents) (.word "class") w behind →
      Gives (Grammar.classDefinition k σ) (.flat text indents) Q s') :
    Gives (plainStatement k) (.flat text indents) Q s' := by
  refine gives_started h fun σ hσ => ?_
  simp only [hσ.token]
  exact hclass σ hσ

end FluentBuilders.Grammar
