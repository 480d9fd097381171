import FluentBuilders.Proofs.Grammar.Echo.Operators
import FluentBuilders.Proofs.Grammar.Execution

/-!
Expressions at places.

1. Strings.
2. `Trails`: what may follow a primary.
3. Primaries.
4. From a primary to a whole expression.
5. Elements, subscripts, arguments, annotations.
-/

namespace FluentBuilders.Grammar

open Text

variable {k : Knot} {target : Reader Fragment} {s s₁ s₂ s' : Place} {t : Token}
  {w w' behind behind' : List Char} {Q K K' : Fragment → Prop}

/-! ## 1. Strings -/

/-- What may stand between two of the quotes without an escape. -/
def Unescaped (q : Char) (content : List Char) : Prop :=
  ∀ c ∈ content, c ≠ '\\' ∧ c ≠ q ∧ c ≠ '\n'

theorem StringForm.closing_cons (f : StringForm) : ∃ cs, f.closing = f.quote :: cs := by
  unfold StringForm.closing
  split
  · exact ⟨_, rfl⟩
  · exact ⟨_, rfl⟩

/-- Content without escapes ends at the closing quotes. -/
theorem contentLength_plain {f : StringForm} {content : List Char} (hf : f.format = false)
    (hquote : f.quote ≠ '\\') (hcontent : Unescaped f.quote content) (empty : Bool) {gs : List Glyph}
    (hgs : chars gs = content ++ (f.closing ++ behind)) :
    contentLength f 0 empty gs = (content.length, .closed) := by
  obtain ⟨cs, hclosing⟩ := f.closing_cons
  induction content generalizing gs empty with
  | nil =>
    have hstarts : startsWithChars f.closing gs = true := startsWithChars_iff.mpr ⟨behind, hgs.symm⟩
    rw [List.nil_append, hclosing, List.cons_append] at hgs
    obtain ⟨g, rest, rfl, hg, -⟩ := chars_cons hgs
    rw [contentLength]
    simp [hg, hquote, hstarts]
  | cons c content ih =>
    obtain ⟨g, rest, rfl, rfl, hrest⟩ := chars_cons hgs
    unfold Unescaped at hcontent
    rw [List.forall_mem_cons] at hcontent
    obtain ⟨⟨hescape, hno, hline⟩, hcontent⟩ := hcontent
    have hopen : startsWithChars f.closing (g :: rest) = false := by
      rw [hclosing, startsWithChars, Bool.and_eq_false_iff]
      exact .inl (by simpa using Ne.symm hno)
    rw [contentLength]
    simp [hescape, hopen, hline, hf, ih hcontent false hrest]

theorem Gives.stringPiece (h : s.text = w ++ behind) :
    Gives (Grammar.stringPiece w.length) s Clean (s.at behind) := by
  refine .get fun c hc hs => ?_
  refine .set (hc.advance w.length) (Cursor.place_advance hs h) (.pure ?_)
  split
  · exact .nil
  · exact List.forall_mem_singleton.mpr ⟨rfl, rfl⟩

/-- One string between its quotes, with no other behind it. -/
theorem Gives.string {content : List Char} {f : StringForm} (hf : StringForm.ofOpening w = f)
    (hformat : f.format = false) (hquote : f.quote ≠ '\\') (hcontent : Unescaped f.quote content)
    (h : s.Ahead false .quote w (content ++ (f.closing ++ behind)))
    (hend : (s.at behind).Ahead s.lineBound t w' behind') (ht : t ≠ .quote) :
    Gives (Grammar.string k) s (IsTree .string) (s.at behind) := by
  have hcontents : Gives (stringContent k f) (s.at (content ++ (f.closing ++ behind))) Clean
      (s.at behind) := by
    refine (Gives.repeating (A := fun r => r = ([], false)) (Q := fun r => Clean r.1) ?_ rfl).bind
      fun r hr => .pure hr
    refine .more (B := fun r => Clean r.1 ∧ r.2 = true) (m := s.at behind) ?_ ?_
      (GivesOn.weaken (.stop ?_) fun r hr => hr.1)
    · rintro r rfl
      refine .get fun c hc hs => ?_
      have hlength := contentLength_plain hformat hquote hcontent true (congrArg Place.text hs)
      simp only [hlength]
      refine (Gives.stringPiece (w := content) rfl).bind fun piece hpiece => ?_
      refine (Gives.stringPiece (w := f.closing) rfl).bind fun closing hclosing => ?_
      exact .pure ⟨_, rfl, (Clean.append .nil hpiece).append hclosing, rfl⟩
    · obtain ⟨cs, hclosing⟩ := f.closing_cons
      simp [Place.at, hclosing]
      omega
    · rintro ⟨sofar, done⟩ ⟨-, rfl⟩
      exact .pure rfl
  refine .look h fun σ hσ => ?_
  have hopening : (σ.cursor.rest.take σ.length).map (·.char) = w := by
    have htext : chars σ.cursor.rest = w ++ (content ++ (f.closing ++ behind)) :=
      congrArg Place.text hσ.place
    rw [List.map_take, hσ.length, ← chars, htext, List.take_left]
  refine Gives.bind (Q := IsTree .string) (m := s.at behind) ?_ fun first hfirst => ?_
  · dsimp only
    rw [hopening, hf]
    refine (Gives.take hσ .stringPart).bind fun first hfirst => ?_
    refine hcontents.bind fun content hcontent => ?_
    exact .pure (((hfirst.clean rfl).append hcontent).branch .string)
  refine (Gives.repeating (A := fun r => IsTree .string r.1 ∧ r.2 = false) (.stop ?_)
    ⟨hfirst, rfl⟩).bind fun r hr => ?_
  · rintro ⟨sofar, several⟩ -
    refine .lookOn hend fun σ' hσ' => ?_
    rw [show (σ'.token == .quote) = false by simpa [hσ'.token] using ht]
    exact .pure rfl
  · obtain ⟨all, several⟩ := r
    obtain ⟨htree, rfl⟩ := hr
    exact .pure htree

/-! ## 2. What follows a primary -/

/-- The tokens that go on with no expression. -/
def idleTokens : List Token :=
  [.lineEnd, .mark ")", .mark "]", .mark "\x7d", .mark ",", .mark ":", .mark "="]

/-- The next token goes on with no expression. -/
def Place.Idle (s : Place) : Prop :=
  ∃ t ∈ idleTokens, ∃ w behind, s.Ahead s.lineBound t w behind

/-- Whether a token goes on with a primary. -/
def Token.isTrailer (t : Token) : Bool := [Token.mark ".", .mark "[", .mark "("].contains t

/-- What may follow a primary from `s` to `s'`. What was read so far satisfies `K`, and at the end
`K'`. -/
inductive Trails (k : Knot) (target : Reader Fragment) :
    (Fragment → Prop) → Place → (Fragment → Prop) → Place → Prop
  | nil {K : Fragment → Prop} {s : Place} {t : Token} {w behind : List Char}
      (hend : s.Ahead s.lineBound t w behind) (ht : t.isTrailer = false) : Trails k target K s K s
  | member {K K' : Fragment → Prop} {s s' : Place} {v : String} {w behind w' behind' : List Char}
      (hK : ∀ f, K f → Clean f) (hdot : s.Ahead s.lineBound (.mark ".") w behind)
      (hname : (s.at behind).Ahead false (.word v) w' behind') (hv : v ≠ "")
      (hless : behind'.length < s.text.length)
      (hrest : Trails k target (IsTree .attribute) (s.at behind') K' s') : Trails k target K s K' s'
  | subscript {K K' : Fragment → Prop} {s s₁ s' : Place} {w behind m w' behind' : List Char}
      (hK : ∀ f, K f → Clean f) (hopening : s.Ahead s.lineBound (.mark "[") w behind)
      (hopening' : s.Ahead false (.mark "[") w behind)
      (hitem : Gives (Grammar.subscript k) (s.at behind).inside Clean s₁)
      (hitems : Items Token.startsSubscript (Grammar.subscript k) s₁ (s.at m).inside)
      (hclosing : (s.at m).inside.Ahead false (.mark "]") w' behind')
      (hless : behind'.length < s.text.length)
      (hrest : Trails k target (IsTree .subscript) (s.at behind') K' s') : Trails k target K s K' s'
  | call {K K' : Fragment → Prop} {s s' : Place} {w behind behind' : List Char}
      (hK : ∀ f, K f → Clean f) (hopening : s.Ahead s.lineBound (.mark "(") w behind)
      (harguments : Gives (argumentList k target) s Clean (s.at behind'))
      (hless : behind'.length < s.text.length)
      (hrest : Trails k target (IsTree .call) (s.at behind') K' s') : Trails k target K s K' s'

theorem Gives.trailers {head : Fragment} (hhead : K head) (h : Trails k target K s K' s') :
    Gives (Grammar.trailers k target head) s K' s' := by
  refine Gives.repeating (A := K) ?_ hhead
  -- `K` changes with each step, so it has to be generalized with the induction on the steps
  clear hhead head
  induction h with
  | nil hend ht =>
    refine .stop fun sofar hsofar => .lookOn hend fun σ hσ => ?_
    simp only [hσ.token]
    split
    · cases ht
    · cases ht
    · cases ht
    · exact .pure rfl
  | member hK hdot hname hv hless _ ih =>
    refine .more (fun sofar hsofar => .lookOn hdot fun σ hσ => ?_) hless ih
    simp only [hσ.token]
    refine (Gives.take hσ .mark).bind fun dot hleaf => ?_
    refine (Gives.identifier hname hv).bind fun name hidentifier => ?_
    exact .pure ⟨_, rfl, (((hK _ hsofar).append (hleaf.clean rfl)).append
      (hidentifier.clean rfl)).branch .attribute⟩
  | subscript hK hopening hopening' hitem hitems hclosing hless _ ih =>
    refine .more (fun sofar hsofar => .lookOn hopening fun σ hσ => ?_) hless ih
    simp only [hσ.token]
    refine (Gives.bracketed hopening' ((Gives.commaList hitem hitems).bind fun r hr => .pure hr)
      hclosing).bind fun subscripts hsubscripts => ?_
    exact .pure ⟨_, rfl, (((hK _ hsofar).withRole .value).append hsubscripts).branch .subscript⟩
  | call hK hopening harguments hless _ ih =>
    refine .more (fun sofar hsofar => .lookOn hopening fun σ hσ => ?_) hless ih
    simp only [hσ.token]
    refine harguments.bind fun arguments hclean => ?_
    exact .pure ⟨_, rfl, (((hK _ hsofar).withRole .function).append
      (hclean.withRole .arguments)).branch .call⟩

theorem Gives.primary (hatom : Gives (atom k target) s K s₁) (h : Trails k target K s₁ K' s') :
    Gives (Grammar.primary k target) s K' s' :=
  hatom.bind fun _ hhead => .trailers hhead h

/-! ## 3. Atoms -/

/-- A word that names something wherever an expression may stand. -/
def isPlainWord (v : String) : Bool :=
  !(["None", "True", "False", "lambda", "yield", "not", "await"].contains v)

theorem Gives.atom_name {v : String} (h : s.Ahead false (.word v) w behind)
    (hv : isPlainWord v = true) : Gives (atom k target) s (IsLeaf .identifier w) (s.at behind) := by
  refine .look h fun σ hσ => ?_
  simp only [hσ.token]
  rw [if_neg]
  · exact .take hσ .identifier
  · rintro (rfl | rfl | rfl) <;> cases hv

theorem Gives.atom_none (h : s.Ahead false (.word "None") w behind) :
    Gives (atom k target) s (IsLeaf .constant w) (s.at behind) := by
  refine .look h fun σ hσ => ?_
  simp only [hσ.token]
  rw [if_pos (.inl trivial)]
  exact .take hσ .constant

theorem Gives.atom_string (h : s.Ahead false .quote w behind)
    (hstring : Gives (Grammar.string k) s Q s') :
    Gives (atom k target) s Q s' := by
  refine .look h fun σ hσ => ?_
  simp only [hσ.token]
  exact hstring

/-- A display with nothing in it. -/
theorem Gives.atom_braces (hopening : s.Ahead false (.mark "\x7b") w behind)
    (hclosing : (s.at behind).inside.Ahead false (.mark "\x7d") w' behind') :
    Gives (atom k target) s (IsTree .display) (s.at behind') := by
  refine .look hopening fun σ hσ => ?_
  simp only [hσ.token]
  refine opening_gives hopening fun opening hfirst => .look hclosing fun σ' hσ' => ?_
  rw [show σ'.isMark "\x7d" = true by simp [Sight.isMark, hσ'.token], if_pos rfl]
  exact closing_gives hclosing fun last hlast => ((hfirst.append .nil).append hlast).branch _

theorem Gives.atom_ellipsis (h : s.Ahead false (.mark "...") w behind) :
    Gives (atom k target) s (IsLeaf .ellipsis w) (s.at behind) := by
  refine .look h fun σ hσ => ?_
  simp only [hσ.token]
  exact .take hσ .ellipsis

/-- A list with nothing in it. -/
theorem Gives.atom_list_nil (hopening : s.Ahead false (.mark "[") w behind)
    (hclosing : (s.at behind).inside.Ahead false (.mark "]") w' behind') :
    Gives (atom k target) s (IsTree .list) (s.at behind') := by
  refine .look hopening fun σ hσ => ?_
  simp only [hσ.token]
  refine opening_gives hopening fun opening hfirst => .look hclosing fun σ' hσ' => ?_
  rw [show σ'.isMark "]" = true by simp [Sight.isMark, hσ'.token], if_pos rfl]
  exact closing_gives hclosing fun last hlast => ((hfirst.append .nil).append hlast).branch _

/-- A list of elements. -/
theorem Gives.atom_list {w₁ behind₁ middle : List Char}
    (hopening : s.Ahead false (.mark "[") w behind)
    (hstart : (s.at behind).inside.Ahead false t w₁ behind₁) (ht : t ≠ .mark "]")
    (hitem : Gives (Grammar.element k) (s.at behind).inside Clean s₁)
    (hitems : Items Token.startsElement (Grammar.element k) s₁ (s.at middle).inside)
    (hclosing : (s.at middle).inside.Ahead false (.mark "]") w' behind') :
    Gives (atom k target) s (IsTree .list) (s.at behind') := by
  refine .look hopening fun σ hσ => ?_
  simp only [hσ.token]
  refine opening_gives hopening fun opening hfirst => .look hstart fun σ₁ hσ₁ => ?_
  rw [show σ₁.isMark "]" = false by simpa [Sight.isMark, hσ₁.token] using ht]
  refine (Gives.commaList hitem hitems).bind fun elements helements => ?_
  refine .look hclosing fun σ' hσ' => ?_
  have hno : σ'.token.startsClauses = false := by
    rw [hσ'.token]
    rfl
  simp only [hno, Bool.and_false, Bool.false_eq_true, if_false]
  exact closing_gives hclosing fun last hlast => ((hfirst.append helements).append hlast).branch _

/-! ## 4. Whole expressions -/

/-- Whether a token starts a primary that stands for an expression by itself. -/
def Token.startsPrimary : Token → Bool
  | .word v => !(["lambda", "yield", "not", "await"].contains v)
  | .quote => true
  | .mark m => ["[", "\x7b", "..."].contains m
  | _ => false

/-- Whether a token goes on with an expression above all operators. -/
def Token.isJunction (t : Token) : Bool :=
  [Token.word "and", .word "or", .word "if", .word "as", .mark ":="].contains t

theorem idle_plain (h : t ∈ idleTokens) : t.isTrailer = false ∧ t.isArithmetic = false ∧
    t.compares = false ∧ t.isJunction = false ∧ t ≠ .quote := by
  have hall : ∀ t ∈ idleTokens, t.isTrailer = false ∧ t.isArithmetic = false ∧
      t.compares = false ∧ t.isJunction = false ∧ t ≠ .quote := by decide
  exact hall t h

theorem Gives.signed (hstart : s.Ahead false t w behind) (ht : t.startsPrimary = true)
    (hprimary : Gives (Grammar.primary k (loopTarget k)) s Q s') :
    Gives (Grammar.signed k) s Q s' := by
  refine (Gives.repeating (A := (· = [])) (.stop ?_) rfl).bind fun signs hsigns => ?_
  · rintro _ rfl
    refine .look hstart fun σ hσ => ?_
    simp only [hσ.token]
    split
    · cases ht
    · cases ht
    · cases ht
    · cases ht
    · exact .pure rfl
  · subst hsigns
    exact hprimary.bind fun operand hoperand => .pure hoperand

theorem Gives.arithmetic {t' : Token} (hstart : s.Ahead false t w behind)
    (ht : t.startsPrimary = true)
    (hprimary : Gives (Grammar.primary k (loopTarget k)) s Q s')
    (hend : s'.Ahead s'.lineBound t' w' behind') (ht' : t'.isArithmetic = false) :
    Gives (Grammar.arithmetic k) s Q s' := by
  refine (Gives.signed hstart ht hprimary).bind fun first hfirst => ?_
  refine Gives.repeating (.stop fun sofar _ => .lookOn hend fun σ hσ => ?_) hfirst
  simp only [hσ.token]
  split
  · next m _ =>
    rw [if_neg (by simpa [Token.isArithmetic] using ht')]
    exact .pure rfl
  · exact .pure rfl

/-- Further operands from `s` to `s'`, each behind a mark of arithmetic. -/
inductive Operands (k : Knot) : Place → Place → Prop
  | nil {s : Place} {t : Token} {w behind : List Char} (hend : s.Ahead s.lineBound t w behind)
      (ht : t.isArithmetic = false) : Operands k s s
  | cons {s s₁ s' : Place} {m : String} {w behind : List Char}
      (hmark : s.Ahead s.lineBound (.mark m) w behind) (hm : arithmeticMarks.contains m = true)
      (hoperand : Gives (Grammar.signed k) (s.at behind) Clean s₁)
      (hless : s₁.text.length < s.text.length) (hrest : Operands k s₁ s') : Operands k s s'

/-- Several operands. -/
theorem Gives.arithmetic_operands (hfirst : Gives (Grammar.signed k) s Clean s₁)
    (h : Operands k s₁ s') : Gives (Grammar.arithmetic k) s Clean s' := by
  refine hfirst.bind fun first hclean => Gives.repeating (A := Clean) ?_ hclean
  clear hfirst
  induction h with
  | nil hend ht =>
    refine .stop fun sofar _ => .lookOn hend fun σ hσ => ?_
    simp only [hσ.token]
    split
    · next m _ =>
      rw [if_neg (by simpa [Token.isArithmetic] using ht)]
      exact .pure rfl
    · exact .pure rfl
  | cons hmark hm hoperand hless _ ih =>
    refine .more (fun sofar hsofar => .lookOn hmark fun σ hσ => ?_) hless ih
    simp only [hσ.token, hm, if_true]
    refine (Gives.take hσ .mark).bind fun operator hleaf => ?_
    refine hoperand.bind fun operand hoperand => ?_
    exact .pure ⟨_, rfl, ((((hsofar.append (hleaf.clean rfl)).append hoperand).branch
      .operation).clean rfl)⟩

/-- Operands that nothing is compared to. -/
theorem Gives.comparison (harithmetic : Gives (Grammar.arithmetic k) s Q s')
    (hend : s'.Ahead s'.lineBound t w behind) (ht : t.compares = false) :
    Gives (Grammar.comparison k) s Q s' := by
  refine harithmetic.bind fun first hfirst => ?_
  refine Gives.repeating (.stop fun sofar _ => .lookOn hend fun σ hσ => ?_) hfirst
  simp only [hσ.token]
  split
  · next m _ =>
    rw [if_neg (by simpa [Token.compares] using ht)]
    exact .pure rfl
  · cases ht
  · cases ht
  · cases ht
  · exact .pure rfl

/-- An operand that is compared by identity. -/
theorem Gives.comparison_is {t' : Token} {w₁ w₂ behind₁ behind₂ : List Char}
    (hleft : Gives (Grammar.arithmetic k) s Clean s₁)
    (his : s₁.Ahead s₁.lineBound (.word "is") w₁ behind₁)
    (hright : (s₁.at behind₁).Ahead false t' w₂ behind₂) (ht' : t' ≠ .word "not")
    (hoperand : Gives (Grammar.arithmetic k) (s₁.at behind₁) Clean s')
    (hless : s'.text.length < s₁.text.length)
    (hend : s'.Ahead s'.lineBound t w behind) (ht : t.compares = false) :
    Gives (Grammar.comparison k) s Clean s' := by
  refine hleft.bind fun first hfirst => ?_
  refine Gives.repeating (.more (B := Clean) (m := s') ?_ hless (.stop ?_)) hfirst
  · intro sofar hsofar
    refine .lookOn his fun σ hσ => ?_
    simp only [hσ.token]
    refine (Gives.take hσ .keyword).bind fun operator hoperator => ?_
    refine .look hright fun σ' hσ' => ?_
    rw [show σ'.isWord "not" = false by simpa [Sight.isWord, hσ'.token] using ht']
    refine hoperand.bind fun right hclean => ?_
    exact .pure ⟨_, rfl, (((hsofar.append (hoperator.clean rfl)).append hclean).branch _).clean rfl⟩
  · intro sofar _
    refine .lookOn hend fun σ hσ => ?_
    simp only [hσ.token]
    split
    · next m _ =>
      rw [if_neg (by simpa [Token.compares] using ht)]
      exact .pure rfl
    · cases ht
    · cases ht
    · cases ht
    · exact .pure rfl

/-- A comparison stands for an expression where nothing goes on with it. -/
theorem Gives.expression {t' : Token} {conditions : Bool} (hstart : s.Ahead false t w behind)
    (ht : t.startsPrimary = true) (hcomparison : Gives (Grammar.comparison k) s Q s')
    (hend : s'.Ahead s'.lineBound t' w' behind') (ht' : t'.isJunction = false) :
    Gives (Grammar.expression k conditions) s Q s' := by
  have hnegated : Gives (negated k) s Q s' := by
    refine (Gives.repeating (A := (· = [])) (.stop ?_) rfl).bind fun negations hnegations => ?_
    · rintro _ rfl
      refine .look hstart fun σ hσ => ?_
      rw [show σ.isWord "not" = false by
        rw [Sight.isWord, hσ.token, beq_eq_false_iff_ne]
        rintro rfl
        cases ht]
      exact .pure rfl
    · subst hnegations
      exact hcomparison.bind fun operand hoperand => .pure hoperand
  have hno : ∀ {σ : Sight} {v : Token}, σ.Shows s' t' w' behind' →
      v ∈ [Token.word "and", .word "or", .word "if", .word "as", .mark ":="] →
      (σ.token == v) = false := by
    intro σ v hσ hv
    rw [hσ.token, beq_eq_false_iff_ne]
    rintro rfl
    simp [Token.isJunction, hv] at ht'
  have hdisjunction : Gives (disjunction k) s Q s' := by
    refine hnegated.bind fun first hfirst => ?_
    refine Gives.repeating (.stop fun sofar _ => .lookOn hend fun σ hσ => ?_) hfirst
    rw [Sight.isWord, Sight.isWord, hno hσ (by simp), hno hσ (by simp)]
    exact .pure rfl
  refine .look hstart fun σ hσ => ?_
  simp only [hσ.token]
  split
  · cases ht
  · cases ht
  · cases ht
  refine hdisjunction.bind fun head hhead => ?_
  refine .lookOn hend fun σ' hσ' => ?_
  rw [Sight.isMark, Sight.isWord, hno hσ' (by simp), hno hσ' (by simp), Bool.and_false]
  refine Gives.bind (Gives.pure hhead) fun value hvalue => ?_
  refine .lookOn hend fun σ'' hσ'' => ?_
  rw [Sight.isWord, hno hσ'' (by simp)]
  exact .pure hvalue

/-- A primary with nothing behind it that goes on with it. -/
theorem Gives.expression_primary {conditions : Bool} (hstart : s.Ahead false t w behind)
    (ht : t.startsPrimary = true) (hprimary : Gives (Grammar.primary k (loopTarget k)) s Q s')
    (hidle : s'.Idle) : Gives (Grammar.expression k conditions) s Q s' := by
  obtain ⟨t', ht', w', behind', hend⟩ := hidle
  obtain ⟨-, harithmetic, hcomparison, hjunction, -⟩ := idle_plain ht'
  exact .expression hstart ht
    (.comparison (.arithmetic hstart ht hprimary hend harithmetic) hend hcomparison) hend hjunction

/-! ## 5. Elements, subscripts, arguments, annotations -/

theorem Gives.element (hstart : s.Ahead false t w behind) (ht : t ≠ .mark "**")
    (h : Gives (k.expression true) s Q s') : Gives (Grammar.element k) s Q s' := by
  refine .look hstart fun σ hσ => ?_
  rw [show σ.isMark "**" = false by simpa [Sight.isMark, hσ.token] using ht]
  exact h

theorem Gives.subscript {t' : Token} (hstart : s.Ahead false t w behind)
    (ht : t ≠ .mark "**" ∧ t ≠ .mark ":") (h : Gives (k.expression true) s Q s')
    (hend : s'.Ahead false t' w' behind') (ht' : t' ≠ .mark ":") :
    Gives (Grammar.subscript k) s Q s' := by
  refine .look hstart fun σ hσ => ?_
  rw [show σ.isMark ":" = false by simpa [Sight.isMark, hσ.token] using ht.2]
  refine (Gives.element hstart ht.1 h).bind fun first hfirst => ?_
  refine .look hend fun σ' hσ' => ?_
  rw [show σ'.isMark ":" = false by simpa [Sight.isMark, hσ'.token] using ht']
  exact .pure hfirst

/-- An argument without a name. -/
theorem Gives.argument {t' : Token} (hstart : s.Ahead false t w behind) (ht : t ≠ .mark "**")
    (h : Gives (k.expression true) s Q s') (hend : s'.Ahead false t' w' behind')
    (ht' : t' ∈ [Token.mark ")", .mark ","]) : Gives (Grammar.argument k target) s Q s' := by
  refine (Gives.element hstart ht h).bind fun value hvalue => ?_
  refine .look hend fun σ hσ => ?_
  rw [Sight.isMark, hσ.token]
  simp only [List.mem_cons, List.not_mem_nil, or_false] at ht'
  rcases ht' with rfl | rfl <;> exact .pure hvalue

/-- An argument with a name. -/
theorem Gives.argument_named {equals value : List Char}
    (hstart : s.Ahead false t w behind) (ht : t ≠ .mark "**")
    (hname : Gives (k.expression true) s (IsLeaf .identifier w) s₁)
    (hequals : s₁.Ahead false (.mark "=") equals value)
    (h : Gives (k.expression true) (s₁.at value) Clean s') :
    Gives (Grammar.argument k target) s Clean s' := by
  refine (Gives.element hstart ht hname).bind fun name hleaf => ?_
  refine .look hequals fun σ hσ => ?_
  have hname : name.isName = true := by
    obtain ⟨gap, position, -, rfl⟩ := hleaf
    rfl
  rw [show σ.isMark "=" = true by simp [Sight.isMark, hσ.token], hname]
  refine (Gives.take hσ .mark).bind fun sign hsign => ?_
  refine h.bind fun f hf => .pure ?_
  exact ((((hleaf.clean rfl).withRole .name).append (hsign.clean rfl)).append
    (hf.withRole .value)).branch _ |>.clean rfl

theorem Gives.argumentList_nil (hopening : s.Ahead false (.mark "(") w behind)
    (hclosing : (s.at behind).inside.Ahead false (.mark ")") w' behind') :
    Gives (argumentList k target) s Clean (s.at behind') := by
  refine (Gives.bracketed hopening (m := behind) ?_ hclosing).bind fun all hall => ?_
  · refine .look hclosing fun σ hσ => ?_
    rw [show σ.isMark ")" = true by simp [Sight.isMark, hσ.token]]
    exact .pure .nil
  · exact .pure ((hall.branch .argumentList).clean rfl)

theorem Gives.argumentList {w₁ behind₁ middle : List Char}
    (hopening : s.Ahead false (.mark "(") w behind)
    (hstart : (s.at behind).inside.Ahead false t w₁ behind₁) (ht : t ≠ .mark ")")
    (hitem : Gives (Grammar.argument k target) (s.at behind).inside Clean s₁)
    (hitems : Items Token.startsElement (Grammar.argument k target) s₁ (s.at middle).inside)
    (hclosing : (s.at middle).inside.Ahead false (.mark ")") w' behind') :
    Gives (Grammar.argumentList k target) s Clean (s.at behind') := by
  refine (Gives.bracketed hopening (m := middle) ?_ hclosing).bind fun all hall => ?_
  · refine .look hstart fun σ hσ => ?_
    rw [show σ.isMark ")" = false by simpa [Sight.isMark, hσ.token] using ht]
    exact (Gives.commaList hitem hitems).bind fun r hr => .pure hr
  · exact .pure ((hall.branch .argumentList).clean rfl)

/-- An annotation that no bound follows. -/
theorem Gives.typeHint {bounds : Bool} {t' : Token} (hstart : s.Ahead false t w behind)
    (ht : t ≠ .mark "**") (h : Gives (k.expression true) s Clean s')
    (hend : s'.Ahead s'.lineBound t' w' behind') (ht' : bounds = true → t' ≠ .mark ":") :
    Gives (Grammar.typeHint k bounds) s (IsTree .typeHint) s' := by
  refine (Gives.element hstart ht h).bind fun first hfirst => ?_
  refine .lookOn hend fun σ hσ => ?_
  have hno : (bounds && σ.isMark ":") = false := by
    rw [Bool.and_eq_false_imp]
    intro hbounds
    simpa [Sight.isMark, hσ.token] using ht' hbounds
  rw [hno]
  exact .pure (hfirst.branch .typeHint)

end FluentBuilders.Grammar
