import FluentBuilders.Proofs.BuilderText.Reading

/-!
Types that are read as annotations: names, types in quotes, types with arguments, lists of types and
unions.

1. The texts of types.
2. Types at places.
3. The reading of each form, to a depth that the length of its text bounds.
4. All types.
-/

namespace FluentBuilders

open Text Grammar

/-! ## 1. The texts of types -/

/-- A dotted name that does not start with a keyword. -/
structure TypeName where
  first : String
  members : List String
  word : isIdentifier first = true
  plain : isKeyword first = false
  words : ∀ v ∈ members, isIdentifier v = true

/-- Something between single or double quotes that needs no escape there. -/
structure QuotedType where
  quote : Char
  content : List Char
  opens : quote = '"' ∨ quote = '\''
  nonempty : content ≠ []
  plain : Unescaped quote content

mutual
/-- A type without alternatives. -/
inductive PlainType
  | none
  | ellipsis
  | named (name : TypeName)
  | quoted (text : QuotedType)
  | applied (name : TypeName) (arguments : TypeArguments)
  /-- The parameters of a callable. -/
  | listed (types : TypeArguments)
  | emptyList

/-- Types with bars between them. -/
inductive UnionType
  | plain (type : PlainType)
  | either (type : PlainType) (rest : UnionType)

/-- Types with commas between them. -/
inductive TypeArguments
  | last (type : UnionType)
  | more (type : UnionType) (rest : TypeArguments)
end

/-- The name as it stands in a text. -/
def TypeName.chars (n : TypeName) : List Char := n.first.toList ++ membersText n.members

/-- The content with its quotes. -/
def QuotedType.chars (q : QuotedType) : List Char := q.quote :: (q.content ++ [q.quote])

mutual
/-- The type as it stands in a text. -/
def PlainType.chars : PlainType → List Char
  | .none => "None".toList
  | .ellipsis => "...".toList
  | .named name => name.chars
  | .quoted text => text.chars
  | .applied name arguments => name.chars ++ ('[' :: (arguments.chars ++ [']']))
  | .listed types => '[' :: (types.chars ++ [']'])
  | .emptyList => ['[', ']']

/-- The types and their bars. -/
def UnionType.chars : UnionType → List Char
  | .plain type => type.chars
  | .either type rest => type.chars ++ (' ' :: '|' :: ' ' :: rest.chars)

/-- The types and their commas. -/
def TypeArguments.chars : TypeArguments → List Char
  | .last type => type.chars
  | .more type rest => type.chars ++ (',' :: ' ' :: rest.chars)
end

example : (UnionType.either (.listed (.last (.plain .none))) (.plain .ellipsis)).chars =
    "[None] | ...".toList := by decide

/-! ## 2. Types at places -/

variable {s s' : Place} {t : Token} {n : Nat} {w w' passed behind behind' : List Char}

/-- What may follow a type without alternatives: a mark that goes on with no primary. -/
def typeEnds : List Token := [.mark ")", .mark "]", .mark ",", .mark "|"]

/-- What closes a type goes on with no primary. -/
theorem typeEnds_plain (h : t ∈ typeEnds) : t.isTrailer = false ∧ t ≠ .quote ∧
    t.compares = false ∧ t.isJunction = false ∧ (t ≠ .mark "|" → t.isArithmetic = false) := by
  have hall : ∀ t ∈ typeEnds, t.isTrailer = false ∧ t ≠ .quote ∧ t.compares = false ∧
      t.isJunction = false ∧ (t ≠ .mark "|" → t.isArithmetic = false) := by decide
  exact hall t h

/-- The next token behind a type is one of those, and the last word of the type ends before it. -/
structure Grammar.Place.Closes (s : Place) (t : Token) : Prop where
  brackets : 0 < s.brackets
  ends : endsName s.text = true
  ahead : ∃ w behind, s.Ahead false t w behind
  mem : t ∈ typeEnds

theorem Grammar.Place.Closes.bound (h : s.Closes t) : s.lineBound = false := by
  have hbrackets := h.brackets
  simp [Place.lineBound]
  omega

theorem Grammar.Place.Closes.line (h : s.Closes t) : ∃ w behind, s.Ahead s.lineBound t w behind := by
  rw [h.bound]
  exact h.ahead

theorem Grammar.Place.Closes.trails {k : Knot} {target : Reader Fragment} {K : Fragment → Prop}
    (h : s.Closes t) : Trails k target K s K s := by
  obtain ⟨w, behind, hahead⟩ := h.line
  exact .nil hahead (typeEnds_plain h.mem).1

theorem closes_here {m : String} (hm : m ∈ signs) (hmem : .mark m ∈ typeEnds)
    (hbrackets : 0 < s.brackets) (hends : endsName s.text = true)
    (htext : s.text = m.toList ++ behind) : s.Closes (.mark m) where
  brackets := hbrackets
  ends := hends
  ahead := ⟨_, behind, Place.ahead_here htext (.sign hm _)⟩
  mem := hmem

/-- Whether a type may start with the token. -/
def Grammar.Token.startsType (t : Token) : Bool :=
  t.startsPrimary && t.startsExpression && !(t == .mark "]")

/-- A token that may start a type is ahead. -/
def Grammar.Place.Starts (s : Place) : Prop :=
  ∃ t w behind, s.Ahead false t w behind ∧ t.startsType = true

theorem starts_of_word {v : String} (h : s.Ahead false (.word v) w behind)
    (hv : isKeyword v = false) : s.Starts := by
  obtain ⟨-, hexpression, hprimary⟩ := plain_of_not_keyword hv
  exact ⟨.word v, w, behind, h, by simp [Token.startsType, hexpression, hprimary]⟩

/-- Behind spaces there is the type, up to `behind`. -/
structure Grammar.Place.Holds (s : Place) (type behind : List Char) : Prop where
  brackets : 0 < s.brackets
  text : ∃ passed, (∀ c ∈ passed, c = ' ') ∧ s.text = passed ++ (type ++ behind)

theorem Grammar.Place.Holds.length {type : List Char} (h : s.Holds type behind) :
    type.length + behind.length ≤ s.text.length := by
  obtain ⟨passed, -, htext⟩ := h.text
  rw [htext, List.length_append, List.length_append]
  omega

/-- A name and its members. -/
theorem name_trails {name : TypeName} (htext : s.text = passed ++ (name.chars ++ behind))
    (hpassed : ∀ c ∈ passed, c = ' ') (hends : endsName behind = true) {k : Knot}
    {target : Reader Fragment} (hrest : ∀ K : Fragment → Prop, (∀ f, K f → Clean f) →
      ∃ K', (∀ f, K' f → Clean f) ∧ Trails k target K (s.at behind) K' s') :
    s.Starts ∧ Gives (primary k target) s Clean s' := by
  obtain ⟨first, members, hword, hplain, hwords⟩ := name
  have hstart : s.Ahead false (.word first) first.toList (membersText members ++ behind) :=
    Place.ahead_near passed (by simpa [TypeName.chars] using htext) hpassed
      (.word hword (endsName_membersText hends))
  have hmembers : ∀ K : Fragment → Prop, (∀ f, K f → Clean f) →
      ∃ K', (∀ f, K' f → Clean f) ∧
        Trails k target K (s.at (membersText members ++ behind)) K' s' := by
    clear hstart htext hplain hword
    induction members with
    | nil => exact hrest
    | cons v members ih =>
      rw [List.forall_mem_cons] at hwords
      intro K hK
      obtain ⟨K', hK', htrails⟩ := ih hwords.2 (IsTree .attribute) fun f hf => hf.clean rfl
      have htext : (s.at (membersText (v :: members) ++ behind)).text =
          '.' :: (v.toList ++ (membersText members ++ behind)) := by simp [Place.at, membersText]
      exact ⟨K', hK', trails_member hK htext hwords.1 (endsName_membersText hends) htrails⟩
  obtain ⟨K', hK', htrails⟩ := hmembers (IsLeaf .identifier first.toList) fun f hf => hf.clean rfl
  exact ⟨starts_of_word hstart hplain,
    (Gives.primary (.atom_name hstart (plain_of_not_keyword hplain).1) htrails).mono hK'⟩

/-- A type without alternatives is read as a primary. -/
def PlainType.Reads (type : PlainType) : Prop :=
  ∀ (s : Place) (n : Nat) (t : Token) (behind : List Char), type.chars.length ≤ n →
    s.Holds type.chars behind → (s.at behind).Closes t →
      s.Starts ∧ Gives (primary (.tied n) (loopTarget (.tied n))) s Clean (s.at behind)

/-- Types with bars between them are read as operands. -/
def UnionType.Reads (type : UnionType) : Prop :=
  ∀ (s : Place) (n : Nat) (t : Token) (behind : List Char), type.chars.length ≤ n →
    s.Holds type.chars behind → (s.at behind).Closes t → t ≠ .mark "|" →
      s.Starts ∧ ∃ s₁, Gives (signed (.tied n)) s Clean s₁ ∧ s₁.text.length ≤ s.text.length ∧
        Operands (.tied n) s₁ (s.at behind)

/-- A reader of items that may be types: the items of a list, or those of a subscript. -/
structure TypeItem (n : Nat) (starts : Token → Bool) (item : Reader Fragment) : Prop where
  starts : ∀ t : Token, t.startsType = true → starts t = true
  gives : ∀ {s s' : Place} {t t' : Token} {w w' behind behind' : List Char},
    s.Ahead false t w behind → t.startsType = true →
      Gives ((Knot.tied (n + 1)).expression true) s Clean s' →
        s'.Ahead false t' w' behind' → t' ∈ typeEnds → Gives item s Clean s'

/-- Types with commas between them are read as items, up to the bracket that closes them. -/
def TypeArguments.Reads (types : TypeArguments) : Prop :=
  ∀ (s : Place) (n : Nat) (behind : List Char), types.chars.length ≤ n →
    s.Holds types.chars (']' :: behind) → ∀ {starts item}, TypeItem n starts item →
      s.Starts ∧ ∃ s₁, Gives item s Clean s₁ ∧ s₁.text.length ≤ s.text.length ∧
        Items starts item s₁ (s.at (']' :: behind))

theorem ne_of_startsType {m : String} (ht : t.startsType = true)
    (hm : (Token.mark m).startsType = false) : t ≠ .mark m := by
  rintro rfl
  rw [hm] at ht
  cases ht

theorem typeItem_element (n : Nat) :
    TypeItem n Token.startsElement (element (.tied (n + 1))) where
  starts t ht := by
    simp only [Token.startsType, Bool.and_eq_true] at ht
    simp [Token.startsElement, ht.1.2]
  gives hstart ht hexpression _ _ := .element hstart (ne_of_startsType ht rfl) hexpression

theorem typeItem_subscript (n : Nat) :
    TypeItem n Token.startsSubscript (subscript (.tied (n + 1))) where
  starts t ht := by
    rw [Token.startsSubscript, (typeItem_element n).starts t ht, Bool.true_or]
  gives hstart ht hexpression hend ht' :=
    .subscript hstart ⟨ne_of_startsType ht rfl, ne_of_startsType ht rfl⟩ hexpression hend (by
      rintro rfl
      exact absurd ht' (by decide))

/-! ## 3. The forms of types -/

theorem PlainType.Reads.none : PlainType.none.Reads := by
  intro s n t behind _ hholds hcloses
  obtain ⟨passed, hpassed, htext⟩ := hholds.text
  have hstart : s.Ahead false (.word "None") "None".toList behind :=
    Place.ahead_near passed htext hpassed (.word rfl hcloses.ends)
  exact ⟨⟨_, _, _, hstart, rfl⟩, (Gives.primary (.atom_none hstart) hcloses.trails).ofLeaf rfl⟩

theorem PlainType.Reads.ellipsis : PlainType.ellipsis.Reads := by
  intro s n t behind _ hholds hcloses
  obtain ⟨passed, hpassed, htext⟩ := hholds.text
  have hstart : s.Ahead false (.mark "...") "...".toList behind :=
    Place.ahead_near passed htext hpassed (.sign (by decide) _)
  exact ⟨⟨_, _, _, hstart, rfl⟩,
    (Gives.primary (.atom_ellipsis hstart) hcloses.trails).ofLeaf rfl⟩

theorem PlainType.Reads.named (name : TypeName) : (PlainType.named name).Reads := by
  intro s n t behind _ hholds hcloses
  obtain ⟨passed, hpassed, htext⟩ := hholds.text
  exact name_trails htext hpassed hcloses.ends fun K hK => ⟨K, hK, hcloses.trails⟩

theorem PlainType.Reads.quoted (text : QuotedType) : (PlainType.quoted text).Reads := by
  obtain ⟨q, content, hq, hne, hcontent⟩ := text
  intro s n t behind _ hholds hcloses
  obtain ⟨passed, hpassed, htext⟩ := hholds.text
  simp only [PlainType.chars, QuotedType.chars, List.cons_append, List.append_assoc,
    List.nil_append] at htext
  have hstart : s.Ahead false .quote [q] (content ++ (q :: behind)) :=
    Place.ahead_near passed htext hpassed (quote_opens hq hcontent hne)
  obtain ⟨w', behind', hahead⟩ := hcloses.line
  have hstring : Gives (string (.tied n)) s (IsTree .string) (s.at behind) :=
    quoted_string hq hcontent hstart hahead (typeEnds_plain hcloses.mem).2.1
  exact ⟨⟨_, _, _, hstart, rfl⟩, (Gives.primary (.atom_string hstart hstring)
    hcloses.trails).ofTree rfl⟩

theorem PlainType.Reads.applied (name : TypeName) {arguments : TypeArguments}
    (h : arguments.Reads) : (PlainType.applied name arguments).Reads := by
  intro s n t behind hlength hholds hcloses
  obtain ⟨passed, hpassed, htext⟩ := hholds.text
  simp only [PlainType.chars, List.append_assoc, List.cons_append, List.nil_append] at htext
  simp only [PlainType.chars, List.length_append, List.length_cons] at hlength
  -- the brackets pay for the depth that their inside takes
  obtain ⟨m, rfl⟩ : ∃ m, n = m + 1 := ⟨n - 1, by omega⟩
  let inner := arguments.chars ++ ']' :: behind
  obtain ⟨-, s₁, hfirst, -, hitems⟩ := h (s.at inner).inside m behind (by omega)
    ⟨Nat.succ_pos _, [], List.forall_mem_nil _, rfl⟩ (typeItem_subscript m)
  have hopening : ∀ stop, (s.at ('[' :: inner)).Ahead stop (.mark "[") "[".toList inner :=
    fun stop => Place.ahead_here rfl (.sign (by decide) _)
  have hclosing : (s.at (']' :: behind)).inside.Ahead false (.mark "]") "]".toList behind :=
    Place.ahead_here rfl (.sign (by decide) _)
  refine name_trails htext hpassed rfl fun K hK =>
    ⟨IsTree .subscript, fun f hf => hf.clean rfl, ?_⟩
  refine .subscript hK (hopening _) (hopening _) hfirst hitems hclosing ?_ hcloses.trails
  simp only [Place.at, List.length_append, List.length_cons]
  omega

theorem PlainType.Reads.listed {types : TypeArguments} (h : types.Reads) :
    (PlainType.listed types).Reads := by
  intro s n t behind hlength hholds hcloses
  obtain ⟨passed, hpassed, htext⟩ := hholds.text
  simp only [PlainType.chars, List.append_assoc, List.cons_append, List.nil_append] at htext
  simp only [PlainType.chars, List.length_append, List.length_cons] at hlength
  obtain ⟨m, rfl⟩ : ∃ m, n = m + 1 := ⟨n - 1, by omega⟩
  let inner := types.chars ++ ']' :: behind
  obtain ⟨⟨t', w', after, hnext, ht'⟩, s₁, hfirst, -, hitems⟩ :=
    h (s.at inner).inside m behind (by omega)
      ⟨Nat.succ_pos _, [], List.forall_mem_nil _, rfl⟩ (typeItem_element m)
  have hopening : s.Ahead false (.mark "[") "[".toList inner :=
    Place.ahead_near passed htext hpassed (.sign (by decide) _)
  have hclosing : (s.at (']' :: behind)).inside.Ahead false (.mark "]") "]".toList behind :=
    Place.ahead_here rfl (.sign (by decide) _)
  exact ⟨⟨_, _, _, hopening, rfl⟩, (Gives.primary
    (.atom_list hopening hnext (ne_of_startsType ht' rfl) hfirst hitems hclosing)
      hcloses.trails).ofTree rfl⟩

theorem PlainType.Reads.emptyList : PlainType.emptyList.Reads := by
  intro s n t behind _ hholds hcloses
  obtain ⟨passed, hpassed, htext⟩ := hholds.text
  have hopening : s.Ahead false (.mark "[") "[".toList (']' :: behind) :=
    Place.ahead_near passed htext hpassed (.sign (by decide) _)
  have hclosing : (s.at (']' :: behind)).inside.Ahead false (.mark "]") "]".toList behind :=
    Place.ahead_here rfl (.sign (by decide) _)
  exact ⟨⟨_, _, _, hopening, rfl⟩, (Gives.primary (.atom_list_nil hopening hclosing)
    hcloses.trails).ofTree rfl⟩

/-- The token that a type starts with starts an operand. -/
theorem Grammar.Place.Starts.signed {k : Knot} {Q : Fragment → Prop} (h : s.Starts)
    (hprimary : Gives (primary k (loopTarget k)) s Q s') : Gives (Grammar.signed k) s Q s' := by
  obtain ⟨t, w, behind, hstart, ht⟩ := h
  simp only [Token.startsType, Bool.and_eq_true] at ht
  exact .signed hstart ht.1.1 hprimary

theorem UnionType.Reads.plain {type : PlainType} (h : type.Reads) :
    (UnionType.plain type).Reads := by
  intro s n t behind hlength hholds hcloses ht
  obtain ⟨hstarts, hprimary⟩ := h s n t behind hlength hholds hcloses
  obtain ⟨w, after, hahead⟩ := hcloses.line
  have hheld := hholds.length
  refine ⟨hstarts, _, hstarts.signed hprimary, ?_,
    .nil hahead ((typeEnds_plain hcloses.mem).2.2.2.2 ht)⟩
  show behind.length ≤ _
  omega

theorem UnionType.Reads.either {type : PlainType} {rest : UnionType} (h : type.Reads)
    (hrest : rest.Reads) : (UnionType.either type rest).Reads := by
  intro s n t behind hlength hholds hcloses ht
  simp only [UnionType.chars, List.length_append, List.length_cons] at hlength
  let second := ' ' :: (rest.chars ++ behind)
  let bar := ' ' :: '|' :: second
  have hholds' : s.Holds type.chars bar := by
    obtain ⟨hbrackets, passed, hpassed, htext⟩ := hholds
    exact ⟨hbrackets, passed, hpassed, by simpa [UnionType.chars, bar, second] using htext⟩
  have hbar : ∀ stop, (s.at bar).Ahead stop (.mark "|") "|".toList second := fun stop =>
    Place.ahead_spaced rfl (.point (by simp) rfl)
  obtain ⟨hstarts, hprimary⟩ := h s n (.mark "|") bar (by omega) hholds'
    ⟨hholds.brackets, rfl, ⟨_, _, hbar _⟩, by decide⟩
  obtain ⟨-, s₁, hoperand, hless, hoperands⟩ := hrest (s.at second) n t behind (by omega)
    ⟨hholds.brackets, [' '], List.forall_mem_singleton.mpr rfl, rfl⟩ hcloses ht
  have hheld := hholds'.length
  refine ⟨hstarts, _, hstarts.signed hprimary, ?_, .cons (hbar _) (by decide) hoperand ?_ hoperands⟩
  · show bar.length ≤ _
    omega
  · refine Nat.lt_of_le_of_lt hless ?_
    simp only [Place.at, bar, second, List.length_cons]
    omega

/-- A type is read as an expression. -/
theorem UnionType.Reads.expression {type : UnionType} (h : type.Reads)
    (hlength : type.chars.length ≤ n) (hholds : s.Holds type.chars behind)
    (hcloses : (s.at behind).Closes t) (ht : t ≠ .mark "|") :
    s.Starts ∧ Gives (Grammar.expression (.tied n) true) s Clean (s.at behind) := by
  obtain ⟨hstarts, s₁, hfirst, -, hoperands⟩ := h s n t behind hlength hholds hcloses ht
  obtain ⟨w, after, hahead⟩ := hcloses.line
  obtain ⟨-, -, hcompares, hjunction, -⟩ := typeEnds_plain hcloses.mem
  have hcomparison : Gives (comparison (.tied n)) s Clean (s.at behind) :=
    .comparison (.arithmetic_operands hfirst hoperands) hahead hcompares
  refine ⟨hstarts, ?_⟩
  obtain ⟨t', w', behind', hstart, ht'⟩ := hstarts
  simp only [Token.startsType, Bool.and_eq_true] at ht'
  exact .expression hstart ht'.1.1 hcomparison hahead hjunction

/-- A type is read as an item. -/
theorem UnionType.Reads.item {type : UnionType} (h : type.Reads)
    (hlength : type.chars.length ≤ n) (hholds : s.Holds type.chars behind)
    (hcloses : (s.at behind).Closes t) (ht : t ≠ .mark "|") {starts : Token → Bool}
    {item : Reader Fragment} (hitem : TypeItem n starts item) :
    s.Starts ∧ Gives item s Clean (s.at behind) := by
  obtain ⟨hstarts, hexpression⟩ := h.expression hlength hholds hcloses ht
  obtain ⟨w, after, hahead⟩ := hcloses.ahead
  refine ⟨hstarts, ?_⟩
  obtain ⟨t', w', behind', hstart, ht'⟩ := hstarts
  exact hitem.gives hstart ht' hexpression hahead hcloses.mem

theorem TypeArguments.Reads.last {type : UnionType} (h : type.Reads) :
    (TypeArguments.last type).Reads := by
  intro s n behind hlength hholds starts item hitem
  have hcloses : (s.at (']' :: behind)).Closes (.mark "]") :=
    closes_here (by decide) (by decide) hholds.brackets rfl rfl
  obtain ⟨hstarts, hgives⟩ := h.item hlength hholds hcloses (by decide) hitem
  obtain ⟨w, after, hahead⟩ := hcloses.line
  have hheld := hholds.length
  refine ⟨hstarts, _, hgives, ?_, .nil hahead (by decide)⟩
  show (']' :: behind).length ≤ _
  omega

theorem TypeArguments.Reads.more {type : UnionType} {rest : TypeArguments} (h : type.Reads)
    (hrest : rest.Reads) : (TypeArguments.more type rest).Reads := by
  intro s n behind hlength hholds starts item hitem
  simp only [TypeArguments.chars, List.length_append, List.length_cons] at hlength
  let second := ' ' :: (rest.chars ++ ']' :: behind)
  let comma := ',' :: second
  have hholds' : s.Holds type.chars comma := by
    obtain ⟨hbrackets, passed, hpassed, htext⟩ := hholds
    exact ⟨hbrackets, passed, hpassed, by simpa [TypeArguments.chars, comma, second] using htext⟩
  have hcomma : ∀ stop, (s.at comma).Ahead stop (.mark ",") ",".toList second := fun stop =>
    Place.ahead_here rfl (.sign (by decide) _)
  have hcloses : (s.at comma).Closes (.mark ",") :=
    ⟨hholds.brackets, rfl, ⟨_, _, hcomma _⟩, by decide⟩
  obtain ⟨hstarts, hgives⟩ := h.item (n := n) (by omega) hholds' hcloses (by decide) hitem
  obtain ⟨hnext, s₁, hgives', hless, hitems⟩ := hrest (s.at second) n behind (by omega)
    ⟨hholds.brackets, [' '], List.forall_mem_singleton.mpr rfl, rfl⟩ hitem
  obtain ⟨t', w', behind', hstart, ht'⟩ := hnext
  have hfollows : (s.at second).Ahead (s.at comma).lineBound t' w' behind' := by
    rw [hcloses.bound]
    exact hstart
  have hheld := hholds'.length
  refine ⟨hstarts, _, hgives, ?_, .cons (hcomma _) hfollows (hitem.starts t' ht') hgives' ?_ hitems⟩
  · show comma.length ≤ _
    omega
  · refine Nat.lt_of_le_of_lt hless ?_
    simp [Place.at, comma]

/-! ## 4. All types -/

mutual
theorem PlainType.reads : ∀ type : PlainType, type.Reads
  | .none => .none
  | .ellipsis => .ellipsis
  | .named name => .named name
  | .quoted text => .quoted text
  | .applied name arguments => .applied name arguments.reads
  | .listed types => .listed types.reads
  | .emptyList => .emptyList

theorem UnionType.reads : ∀ type : UnionType, type.Reads
  | .plain type => .plain type.reads
  | .either type rest => .either type.reads rest.reads

theorem TypeArguments.reads : ∀ types : TypeArguments, types.Reads
  | .last type => .last type.reads
  | .more type rest => .more type.reads rest.reads
end

/-- The text of a type is read as an annotation. -/
theorem UnionType.isAnnotation (type : UnionType) :
    IsAnnotation (String.ofList type.chars) := by
  intro depth s behind hdepth hbrackets htext
  rw [← String.length_toList, String.toList_ofList] at hdepth
  rw [String.toList_ofList] at htext
  obtain ⟨n, rfl⟩ : ∃ n, depth = n + 1 := ⟨depth - 1, by omega⟩
  have hcloses : (s.at (')' :: behind)).Closes (.mark ")") :=
    closes_here (by decide) (by decide) hbrackets rfl rfl
  obtain ⟨hstarts, hexpression⟩ := type.reads.expression (s := s) (n := n) (by omega)
    ⟨hbrackets, [' '], List.forall_mem_singleton.mpr rfl, htext⟩ hcloses (by decide)
  obtain ⟨t', w', behind', hstart, ht'⟩ := hstarts
  obtain ⟨w, after, hahead⟩ := hcloses.line
  exact (Gives.typeHint (k := .tied (n + 1)) hstart (ne_of_startsType ht' rfl) hexpression hahead
    fun _ => by decide).ofTree rfl

end FluentBuilders
