import FluentBuilders.Grammar
import FluentBuilders.Proofs.Grammar.Sight

/-!
What readers guarantee, whatever text they read.

1. `Node.Everywhere`: a property of all nodes of a tree. The text of its tokens.
2. `Buildable`: properties that building trees keeps. `Houses` tells below which nodes statements
   stand.
3. `Covers`: what holds of a fragment read between two cursors; appending, enclosing and naming roles
   keep it. A fragment that `Spans` the text has no statements below it.
4. `Ensures`: what holds of all that a reader can give from a cursor, by the steps of the reader.
5. Tokens.
-/

namespace FluentBuilders.Grammar

open Text

/-! ## 1. All nodes of a tree -/

mutual
/-- A property of a node and of all nodes below it. -/
def Node.Everywhere (P : Node → Prop) : Node → Prop
  | .leaf kind role gap text p => P (.leaf kind role gap text p)
  | .absent what p => P (.absent what p)
  | .tree kind role children => P (.tree kind role children) ∧ Node.EverywhereIn P children

/-- A property of all nodes of a list and below them. -/
def Node.EverywhereIn (P : Node → Prop) : List Node → Prop
  | [] => True
  | n :: rest => Node.Everywhere P n ∧ Node.EverywhereIn P rest
end

section Everywhere

variable {P Q : Node → Prop}

theorem Node.everywhereIn_iff {l : List Node} :
    Node.EverywhereIn P l ↔ ∀ n ∈ l, Node.Everywhere P n := by
  induction l with
  | nil => simp [Node.EverywhereIn]
  | cons n rest ih => simp [Node.EverywhereIn, ih]

theorem Node.Everywhere.here {n : Node} (h : n.Everywhere P) : P n := by
  cases n with
  | leaf => exact h
  | absent => exact h
  | tree => exact h.1

theorem Node.Everywhere.child {n m : Node} (h : n.Everywhere P) (hm : m ∈ n.children) :
    m.Everywhere P := by
  cases n with
  | leaf => cases hm
  | absent => cases hm
  | tree => exact Node.everywhereIn_iff.mp h.2 m hm

theorem Node.child?_spec {n m : Node} {r : Role} (h : n.child? r = some m) :
    m ∈ n.children ∧ m.role = r := by
  unfold Node.child? at h
  exact ⟨List.mem_of_find?_eq_some h, by simpa using List.find?_some h⟩

theorem Node.Everywhere.withRole {n : Node} (h : n.Everywhere P) {r : Role}
    (hr : P (n.withRole r)) : (n.withRole r).Everywhere P := by
  cases n with
  | leaf => exact hr
  | absent => exact hr
  | tree => exact ⟨hr, h.2⟩

mutual
theorem Node.Everywhere.mono (h : ∀ n, P n → Q n) : ∀ n : Node, n.Everywhere P → n.Everywhere Q
  | .leaf .., hn => h _ hn
  | .absent .., hn => h _ hn
  | .tree _ _ children, hn => ⟨h _ hn.1, Node.EverywhereIn.mono h children hn.2⟩

theorem Node.EverywhereIn.mono (h : ∀ n, P n → Q n) :
    ∀ l : List Node, Node.EverywhereIn P l → Node.EverywhereIn Q l
  | [], _ => trivial
  | n :: rest, hn => ⟨Node.Everywhere.mono h n hn.1, Node.EverywhereIn.mono h rest hn.2⟩
end

mutual
/-- What holds of all nodes of a tree holds of all nodes below any of them. -/
theorem Node.Everywhere.below : ∀ n : Node, n.Everywhere P → n.Everywhere (·.Everywhere P)
  | .leaf .., hn => hn
  | .absent .., hn => hn
  | .tree _ _ children, hn => ⟨hn, Node.EverywhereIn.below children hn.2⟩

theorem Node.EverywhereIn.below : ∀ l : List Node, Node.EverywhereIn P l →
    Node.EverywhereIn (·.Everywhere P) l
  | [], _ => trivial
  | n :: rest, hn => ⟨Node.Everywhere.below n hn.1, Node.EverywhereIn.below rest hn.2⟩
end

end Everywhere

theorem Node.anyHasError_eq_true {l : List Node} :
    Node.anyHasError l = true ↔ ∃ n ∈ l, n.hasError = true := by
  induction l with
  | nil => simp [Node.anyHasError]
  | cons n rest ih => simp [Node.anyHasError, ih]

theorem Node.leavesAll_append (l l' : List Node) :
    Node.leavesAll (l ++ l') = Node.leavesAll l ++ Node.leavesAll l' := by
  induction l with
  | nil => rfl
  | cons n rest ih => rw [List.cons_append, Node.leavesAll, Node.leavesAll, ih, List.append_assoc]

theorem Node.textOf_toList (first : Node.Leaf) (rest : List Node.Leaf) :
    (Node.textOf (first :: rest)).toList =
      first.text.toList ++ rest.flatMap fun t => t.gap.toList ++ t.text.toList := by
  have hfold : ∀ s : String, (rest.foldl (fun s t => s ++ t.gap ++ t.text) s).toList =
      s.toList ++ rest.flatMap fun t => t.gap.toList ++ t.text.toList := by
    induction rest with
    | nil => simp
    | cons t rest ih => intro s; simp [ih]
  exact hfold first.text

theorem Node.hasError_withRole (n : Node) (r : Role) : (n.withRole r).hasError = n.hasError := by
  cases n <;> rfl

theorem Node.hasError_of_kind {n : Node} (h : n.kind = .error) : n.hasError = true := by
  cases n with
  | leaf kind => simp_all [Node.kind, Node.hasError]
  | absent => rfl
  | tree kind => simp_all [Node.kind, Node.hasError]

/-! ## 2. Properties that building keeps -/

/-- More steps are allowed at the cursor than there are characters left. -/
def Cursor.Fed (c : Cursor) : Prop := c.rest.length < c.budget

theorem Cursor.Fed.forward {c d : Cursor} (hc : c.Fed) (h : Forward c d)
    (hbudget : d.budget = c.budget) : d.Fed := by
  have hlength := h.suffix.length_le
  unfold Cursor.Fed at hc ⊢
  omega

/-- An annotation as it was read in its place, from a text that needed no repair. -/
def IsHint (n : Node) : Prop :=
  ∃ depth c m after c', Cursor.Fed c ∧ c.repair = none ∧
    typeHint (Knot.tied depth) true c = .ok (m :: after, c') ∧ n = m.withRole .type

/-- A property of a node that was read from some rest of the text on. Where nothing is broken, no repair
comes up on the way. -/
def Behind (P : Cursor → Node → Prop) (c : Cursor) (broken : Bool) (n : Node) : Prop :=
  ∃ d : Cursor, d.rest <:+ c.rest ∧ d.budget = c.budget ∧
    (broken = false → c.repair = none → d.repair = none) ∧ P d n

section Behind

variable {P : Cursor → Node → Prop} {c c' : Cursor} {b b' : Bool} {n : Node}

theorem Behind.here (h : P c n) : Behind P c b n :=
  ⟨c, List.suffix_rfl, rfl, fun _ => id, h⟩

theorem Behind.mono (h : c.rest <:+ c'.rest) (hbudget : c.budget = c'.budget)
    (hrepair : c.repair = c'.repair ∨ c.repair = none) (hbroken : b = true → b' = true)
    (hn : Behind P c b n) : Behind P c' b' n := by
  obtain ⟨d, hrest, hd, hplain, hn⟩ := hn
  refine ⟨d, hrest.trans h, hd.trans hbudget, fun hsound hnone => hplain ?_ ?_, hn⟩
  · cases b with
    | false => rfl
    | true => exact (hbroken rfl).symm.trans hsound
  · rcases hrepair with e | e
    · exact e.trans hnone
    · exact e

/-- Where something is broken, repairs do not matter. -/
theorem Behind.of_broken (hrest : c.rest = c'.rest) (hbudget : c.budget = c'.budget)
    (hn : Behind P c b n) : Behind P c' true n := by
  obtain ⟨d, hd, hd', -, hn⟩ := hn
  exact ⟨d, hrest ▸ hd, hbudget ▸ hd', nofun, hn⟩

/-- Where more is broken, less is known. -/
theorem Node.Everywhere.broken (h : n.Everywhere (Behind P c b))
    (hbroken : b = true → b' = true) : n.Everywhere (Behind P c b') :=
  h.mono (fun _ => .mono List.suffix_rfl rfl (.inl rfl) hbroken)

end Behind

/-- The text has a decorator whose line, without those that are blank, is followed by a class. -/
def SignsClass (gs : List Glyph) : Prop :=
  ∃ sign line, sign <:+ gs ∧ line <:+ sign ∧ (chars sign).head? = some '@' ∧
    (chars line).head? = some '\n' ∧ opensClass (chars line) = true

/-- A class or a function whose name has no dot. -/
def IsDefinition (n : Node) : Prop :=
  (n.kind = .classDefinition ∨ n.kind = .functionDefinition) ∧
    ∀ m ∈ n.children, m.role = .name → '.' ∉ m.text.toList

/-- Statements below which other statements stand. -/
def Kind.isCompound : Kind → Bool
  | .classDefinition | .functionDefinition | .decorated | .ifStatement | .tryStatement
  | .withStatement | .loopStatement | .matchStatement => true
  | _ => false

/-- The kinds of nodes below which statements stand. -/
def Kind.holdsStatements : Kind → Bool
  | .module | .block | .clause => true
  | kind => kind.isCompound

/-- Whether statements stand below a node. -/
def Node.holdsStatements : Node → Bool
  | .tree kind _ _ => kind.holdsStatements
  | _ => false

@[simp] theorem Node.holdsStatements_withRole (r : Role) (n : Node) :
    (n.withRole r).holdsStatements = n.holdsStatements := by
  cases n <;> rfl

/-- Extras have no statements below them. -/
theorem Node.holdsStatements_of_isExtra {n : Node} (h : n.isExtra = true) :
    n.holdsStatements = false := by
  cases n with
  | leaf => rfl
  | absent => rfl
  | tree kind => cases kind <;> first | rfl | cases h

/-- A compound statement. -/
def Node.IsCompound (n : Node) : Prop := n.kind.isCompound = true

/-- A block of statements. -/
def Node.IsBody (n : Node) : Prop :=
  n.kind = .block ∧ ∀ m ∈ n.children, m.holdsStatements = true → m.IsCompound

/-- What a node of a kind may have right below it that statements stand below. -/
def Houses : Kind → Node → Prop
  | .module, m => m.IsCompound
  | .block, m => m.IsCompound ∨ m.kind = .clause
  | .matchStatement, m => m.kind = .block
  | .clause, m | .classDefinition, m | .functionDefinition, m => m.IsBody
  | .ifStatement, m | .tryStatement, m | .withStatement, m | .loopStatement, m =>
    m.IsBody ∨ m.kind = .clause
  | .decorated, m => IsDefinition m
  | _, _ => False

/-- A fragment without its extras. -/
def Fragment.core (f : Fragment) : Fragment := f.filter fun n => !n.isExtra

theorem Fragment.core_append (f g : Fragment) :
    Fragment.core (f ++ g) = f.core ++ g.core := List.filter_append ..

/-- A token whose text satisfies `p`, or one that the text lacks. -/
inductive Node.IsToken (p : String → Prop) : Node → Prop
  | leaf (kind : Kind) (gap text : String) (position : Position) : p text →
    IsToken p (.leaf kind .none gap text position)
  | absent (what : String) (position : Position) : IsToken p (.absent what position)

/-- A text that is not empty and consists of the characters of names. -/
def IsName (s : String) : Prop := s ≠ "" ∧ ∀ ch ∈ s.toList, isNameChar ch = true

/-- Names with dots between them. -/
inductive NamesDotted : List Node → Prop
  | one {name : Node} : name.IsToken IsName → NamesDotted [name]
  | more {l : List Node} {dot name : Node} : NamesDotted l → dot.IsToken (· = ".") →
    name.IsToken IsName → NamesDotted (l ++ [dot, name])

/-- The dots of a relative import with the dotted name behind them, if there is one. -/
def IsPlace (f : Fragment) : Prop :=
  ∃ dots named, f.core = .tree .importPrefix .none dots :: named ∧
    (∀ n ∈ Fragment.core dots, n.IsToken (· = ".")) ∧
    (named = [] ∨ ∃ parts, named = [.tree .dottedName .none parts] ∧
      NamesDotted (Fragment.core parts))

/-- Kinds of nodes that are told apart by their children. -/
def Kind.isTold : Kind → Bool
  | .assignment | .decorated | .relativeImport => true
  | _ => false

/-- What the children of a new node are known to satisfy, which was read from a cursor on: the
annotation of an assignment was read as one, and a class below decorators without error stands behind
their lines. Statements stand where they may, and below decorators there is one definition. The place
of a relative import has dots and possibly a name. -/
structure Formed (c : Cursor) (kind : Kind) (children : List Node) : Prop where
  hints : kind = .assignment → c.Fed → c.repair = none → (∀ n ∈ children, n.isExtra = false) →
    ∀ n ∈ children, n.role = .type → IsHint n
  signs : kind = .decorated → Node.anyHasError children = false →
    ∀ n ∈ children, n.role = .definition → n.kind = .classDefinition → SignsClass c.rest
  houses : ∀ n ∈ children, n.holdsStatements = true → Houses kind n
  definition : kind = .decorated → ∃ before n after, children = before ++ n :: after ∧
    n.role = .definition ∧ IsDefinition n ∧
      ∀ m ∈ before ++ after, m.role ≠ .definition ∧ m.holdsStatements = false
  place : kind = .relativeImport → IsPlace children

theorem Formed.other {c : Cursor} {kind : Kind} {children : List Node}
    (hkind : kind.isTold = false)
    (houses : ∀ n ∈ children, n.holdsStatements = true → Houses kind n) : Formed c kind children := by
  have hnot : ∀ k : Kind, k.isTold = true → kind ≠ k := fun k hk h => by
    rw [← h, hkind] at hk
    cases hk
  exact
    { hints := fun h => absurd h (hnot _ rfl)
      signs := fun h => absurd h (hnot _ rfl)
      houses := houses
      definition := fun h => absurd h (hnot _ rfl)
      place := fun h => absurd h (hnot _ rfl) }

/-- The kinds of expressions that become targets, with the kinds they become. -/
inductive BecomesPattern : Kind → Kind → Prop
  | tuple : BecomesPattern .tuple .tuplePattern
  | parenthesized : BecomesPattern .parenthesized .tuplePattern
  | list : BecomesPattern .list .listPattern
  | splat : BecomesPattern .splat .splatPattern

/-- A property of nodes and the place they are read from that new nodes have when the nodes below them
do. -/
structure Buildable (P : Cursor → Node → Prop) : Prop where
  leaf : ∀ c kind gap text p, P c (.leaf kind .none gap text p)
  absent : ∀ c what p, P c (.absent what p)
  tree : ∀ c broken kind children, Formed c kind children →
    Node.EverywhereIn (Behind P c broken) children → P c (.tree kind .none children)
  role : ∀ c n r, r ≠ .definition → P c n → P c (n.withRole r)
  definition : ∀ c n, IsDefinition n → P c n → P c (n.withRole .definition)
  pattern : ∀ c old new role before after, BecomesPattern old new →
    (∀ m ∈ after, m.holdsStatements = true → ∃ n ∈ before, n.holdsStatements = true) →
    P c (.tree old role before) → P c (.tree new role after)

variable {P : Cursor → Node → Prop}

theorem Buildable.withRole (hP : Buildable P) {c : Cursor} {broken : Bool} {n : Node} {r : Role}
    (hr : r ≠ .definition) (h : n.Everywhere (Behind P c broken)) :
    (n.withRole r).Everywhere (Behind P c broken) := by
  obtain ⟨d, hrest, hbudget, hplain, hn⟩ := h.here
  exact h.withRole ⟨d, hrest, hbudget, hplain, hP.role d n r hr hn⟩

theorem Buildable.withDefinition (hP : Buildable P) {c : Cursor} {broken : Bool} {n : Node}
    (hn : IsDefinition n) (h : n.Everywhere (Behind P c broken)) :
    (n.withRole .definition).Everywhere (Behind P c broken) := by
  obtain ⟨d, hrest, hbudget, hplain, hnode⟩ := h.here
  exact h.withRole ⟨d, hrest, hbudget, hplain, hP.definition d n hn hnode⟩

theorem Buildable.put (hP : Buildable P) {c : Cursor} {broken : Bool} {kind : Kind}
    {children : List Node} (hformed : Formed c kind children)
    (h : Node.EverywhereIn (Behind P c broken) children) :
    (Node.tree kind .none children).Everywhere (Behind P c broken) :=
  ⟨.here (hP.tree c broken kind children hformed h), h⟩

/-! ## 3. Fragments between two cursors -/

/-- What holds of a fragment that was read between two cursors. Of its nodes, those below which
statements stand satisfy `K`. -/
structure Covers (P : Cursor → Node → Prop) (K : Node → Prop) (c : Cursor) (f : Fragment)
    (c' : Cursor) : Prop where
  forward : Forward c c'
  budget : c'.budget = c.budget
  nodes : ∀ n ∈ f, n.Everywhere (Behind P c (Node.anyHasError f))
  /-- Extras, keywords and marks have no role. -/
  loose : ∀ n ∈ f, n.isExtra = true ∨ n.isNamed = false → n.role = .none
  houses : ∀ n ∈ f, n.holdsStatements = true → K n
  /-- A repair that was used shows in the tree. -/
  repair : c'.repair = c.repair ∨ c'.repair = none ∧ Node.anyHasError f = true

/-- The same of a fragment without statements below its nodes. -/
abbrev Spans (P : Cursor → Node → Prop) (c : Cursor) (f : Fragment) (c' : Cursor) : Prop :=
  Covers P (fun _ => False) c f c'

theorem Between.isExtra {n : Node} (h : Between n) : n.isExtra = true := by
  cases h <;> rfl

theorem Between.role {n : Node} (h : Between n) : n.role = .none := by
  cases h <;> rfl

theorem Between.everywhere (hP : Buildable P) (c : Cursor) (broken : Bool) {n : Node}
    (h : Between n) : n.Everywhere (Behind P c broken) := by
  cases h with
  | comment => exact Behind.here (hP.leaf ..)
  | joined => exact Behind.here (hP.leaf ..)
  | passed gap c count =>
    refine hP.put (.other (by decide) ?_) ⟨Behind.here (hP.leaf ..), trivial⟩
    intro n hn hholds
    rw [List.mem_singleton.mp hn] at hholds
    cases hholds

theorem Between.plain {n : Node} (h : Between n) : n.holdsStatements = false := by
  cases h <;> rfl

variable {K K' : Node → Prop}

namespace Covers

variable {c c₁ c₂ c₃ : Cursor} {f g : Fragment}

theorem nil (c : Cursor) : Covers P K c [] c where
  forward := .refl c
  budget := rfl
  nodes := by simp
  loose := by simp
  houses := by simp
  repair := .inl rfl

theorem widen (h : Covers P K c f c') (hK : ∀ n, K n → K' n) : Covers P K' c f c' :=
  ⟨h.forward, h.budget, h.nodes, h.loose, fun n hn hholds => hK n (h.houses n hn hholds), h.repair⟩

theorem of_spans (h : Spans P c f c') : Covers P K c f c' := h.widen fun _ => False.elim

/-- What is broken in a part is broken in the whole. -/
theorem anyHasError_append {l : Fragment} (hl : l = f ∨ l = g) (h : Node.anyHasError l = true) :
    Node.anyHasError (f ++ g) = true := by
  obtain ⟨n, hn, he⟩ := Node.anyHasError_eq_true.mp h
  refine Node.anyHasError_eq_true.mpr ⟨n, ?_, he⟩
  rcases hl with rfl | rfl
  · exact List.mem_append_left _ hn
  · exact List.mem_append_right _ hn

theorem append (h₁ : Covers P K c₁ f c₂) (h₂ : Covers P K c₂ g c₃) :
    Covers P K c₁ (f ++ g) c₃ where
  forward := h₁.forward.trans h₂.forward
  budget := h₂.budget.trans h₁.budget
  nodes n hn := (List.mem_append.mp hn).elim
    (fun hn => (h₁.nodes n hn).broken (anyHasError_append (.inl rfl))) fun hn =>
      (h₂.nodes n hn).mono (fun _ => .mono h₁.forward.suffix h₁.budget
        (h₁.repair.imp_right And.left) (anyHasError_append (.inr rfl)))
  loose n hn := (List.mem_append.mp hn).elim (h₁.loose n) (h₂.loose n)
  houses n hn := (List.mem_append.mp hn).elim (h₁.houses n) (h₂.houses n)
  repair := by
    rcases h₁.repair with e₁ | ⟨e₁, f₁⟩ <;> rcases h₂.repair with e₂ | ⟨e₂, f₂⟩
    · exact .inl (e₂.trans e₁)
    · exact .inr ⟨e₂, anyHasError_append (.inr rfl) f₂⟩
    · exact .inr ⟨e₂.trans e₁, anyHasError_append (.inl rfl) f₁⟩
    · exact .inr ⟨e₂, anyHasError_append (.inr rfl) f₂⟩

/-- The nodes of a fragment that others of the same errors replace. -/
theorem replace (h : Covers P K c f c')
    (hnodes : ∀ n ∈ g, n.Everywhere (Behind P c (Node.anyHasError f)))
    (hloose : ∀ n ∈ g, n.isExtra = true ∨ n.isNamed = false → n.role = .none)
    (houses : ∀ n ∈ g, n.holdsStatements = true → K' n)
    (herr : Node.anyHasError f = true → Node.anyHasError g = true) : Covers P K' c g c' :=
  ⟨h.forward, h.budget, fun n hn => (hnodes n hn).broken herr, hloose, houses,
    h.repair.imp_right fun e => ⟨e.1, herr e.2⟩⟩

end Covers

/-- Enclosing cuts a fragment into what stays outside at its ends and what goes under the node. -/
theorem enclose_parts (loose : Node → Bool) (kind : Kind) (f : Fragment) :
    ∃ before inner after, f = before ++ inner ++ after ∧
      enclose loose kind f = before ++ .tree kind .none inner :: after ∧
      (∀ n ∈ before ++ after, loose n = true) := by
  have hall : ∀ l : List Node, ∀ n ∈ l.takeWhile loose, loose n = true :=
    fun l => List.all_eq_true.mp List.all_takeWhile
  refine ⟨f.takeWhile loose, ((f.dropWhile loose).reverse.dropWhile loose).reverse,
    ((f.dropWhile loose).reverse.takeWhile loose).reverse, ?_, rfl, fun n hn => ?_⟩
  · rw [List.append_assoc, ← List.reverse_append, List.takeWhile_append_dropWhile,
      List.reverse_reverse, List.takeWhile_append_dropWhile]
  · rcases List.mem_append.mp hn with hn | hn
    · exact hall _ n hn
    · exact hall _ n (List.mem_reverse.mp hn)

/-- Extras at the ends of a fragment are no part of it without its extras. -/
theorem core_inner {f before inner after : Fragment} (e : f = before ++ inner ++ after)
    (hends : ∀ n ∈ before ++ after, n.isExtra = true) : Fragment.core inner = f.core := by
  have hnone : ∀ l : Fragment, (∀ n ∈ l, n.isExtra = true) → l.core = [] := fun l hl =>
    List.filter_eq_nil_iff.mpr fun n hn => by simp [hl n hn]
  unfold Fragment.core at hnone ⊢
  rw [e, List.filter_append, List.filter_append,
    hnone before fun n hn => hends n (List.mem_append_left _ hn),
    hnone after fun n hn => hends n (List.mem_append_right _ hn), List.nil_append, List.append_nil]

/-- A new node is all of its fragment that is no extra, and has all below it that was none. -/
theorem core_branch (kind : Kind) (hkind : (Node.tree kind .none []).isExtra = false)
    (f : Fragment) : ∃ inner, Fragment.core (branch kind f) = [.tree kind .none inner] ∧
      Fragment.core inner = f.core := by
  obtain ⟨before, inner, after, e, hbranch, hends⟩ := enclose_parts Node.isExtra kind f
  refine ⟨inner, ?_, core_inner e hends⟩
  have hnode : Fragment.core [.tree kind .none inner] = [.tree kind .none inner] :=
    List.filter_cons_of_pos (by simpa [Node.isExtra, Node.kind] using hkind)
  have hwhole : branch kind f = before ++ [.tree kind .none inner] ++ after := by
    rw [List.append_assoc]
    exact hbranch
  rw [← core_inner hwhole hends, hnode]

/-- What is loose before the first other node stays outside, and that node opens the new one. -/
theorem enclose_leading (loose : Node → Bool) (kind : Kind) {leading : Fragment} {first : Node}
    (rest : Fragment) (hleading : ∀ n ∈ leading, loose n = true) (hfirst : loose first = false) :
    ∃ inner after, rest = inner ++ after ∧ (∀ n ∈ after, loose n = true) ∧
      enclose loose kind (leading ++ first :: rest) =
        leading ++ .tree kind .none (first :: inner) :: after := by
  have hnot : ¬ loose first = true := by simp [hfirst]
  have htake : (leading ++ first :: rest).takeWhile loose = leading := by
    rw [List.takeWhile_append_of_pos hleading, List.takeWhile_cons_of_neg hnot, List.append_nil]
  have hdrop : (leading ++ first :: rest).dropWhile loose = first :: rest := by
    rw [List.dropWhile_append_of_pos hleading, List.dropWhile_cons_of_neg hnot]
  obtain ⟨inner, hinner⟩ : ∃ inner,
      ((first :: rest).reverse.dropWhile loose).reverse = first :: inner := by
    rw [List.reverse_cons, List.dropWhile_append]
    split
    · exact ⟨[], by rw [List.dropWhile_cons_of_neg hnot]; rfl⟩
    · exact ⟨_, by rw [List.reverse_append]; rfl⟩
  have hparts : first :: rest =
      first :: inner ++ ((first :: rest).reverse.takeWhile loose).reverse := by
    rw [← hinner, ← List.reverse_append, List.takeWhile_append_dropWhile, List.reverse_reverse]
  refine ⟨inner, _, (List.cons.inj hparts).2, fun n hn => ?_, ?_⟩
  · exact List.all_eq_true.mp List.all_takeWhile n (List.mem_reverse.mp hn)
  · unfold enclose
    rw [htake, hdrop]
    dsimp only
    rw [hinner]

/-- A node that is not loose goes under the new node, with what stands between it and the ends. -/
theorem enclosed_split {loose : Node → Bool} {before inner after left right : Fragment} {n : Node}
    (h : before ++ inner ++ after = left ++ n :: right)
    (hends : ∀ m ∈ before ++ after, loose m = true) (hn : loose n = false) :
    ∃ l r, inner = l ++ n :: r ∧ left = before ++ l ∧ right = r ++ after := by
  have hne : n ∉ before ++ after := fun hmem => by
    rw [hends n hmem] at hn
    cases hn
  obtain ⟨l, hleft, hrest⟩ : ∃ l, left = before ++ l ∧ inner ++ after = l ++ n :: right := by
    rw [List.append_assoc, List.append_eq_append_iff] at h
    rcases h with ⟨l, hleft, h⟩ | ⟨l, hbefore, h⟩
    · exact ⟨l, hleft, h⟩
    · cases l with
      | nil => exact ⟨[], by simpa using hbefore.symm, h.symm⟩
      | cons m l =>
        rw [List.cons_append, List.cons.injEq] at h
        exact absurd (by simp [hbefore, h.1]) hne
  rcases List.append_eq_append_iff.mp hrest with ⟨r, -, hafter⟩ | ⟨r, hinner, h⟩
  · exact absurd (by simp [hafter]) hne
  · cases r with
    | nil => exact absurd (by simp [← (show n :: right = after from h)]) hne
    | cons m r =>
      rw [List.cons_append, List.cons.injEq] at h
      exact ⟨l, r, by rw [hinner, h.1], hleft, h.2⟩

/-- All that stands from one node that is not loose to another goes under the new node. -/
theorem enclosed_between {loose : Node → Bool} {before inner after left middle right : Fragment}
    {first last : Node} (h : before ++ inner ++ after = left ++ first :: middle ++ last :: right)
    (hends : ∀ n ∈ before ++ after, loose n = true) (hfirst : loose first = false)
    (hlast : loose last = false) : ∀ n ∈ first :: middle ++ [last], n ∈ inner := by
  rw [List.append_assoc left] at h
  obtain ⟨l, r, rfl, -, hright⟩ := enclosed_split h hends hfirst
  have hafter : ∀ n ∈ [] ++ after, loose n = true := fun n hn => hends n (by simp_all)
  have hbehind : [] ++ r ++ after = middle ++ last :: right := by simpa using hright.symm
  obtain ⟨l', r', rfl, hmiddle, -⟩ := enclosed_split hbehind hafter hlast
  intro n hn
  simp only [hmiddle, List.nil_append, List.mem_append, List.mem_cons, List.not_mem_nil,
    or_false] at hn ⊢
  rcases hn with (hn | hn) | hn
  · exact .inr (.inl hn)
  · exact .inr (.inr (.inl hn))
  · exact .inr (.inr (.inr (.inl hn)))

/-- If no extras went under the new node, then none stands before a node that went there, back to one
before it that is none. -/
theorem enclosed_first {before inner after left middle right : Fragment} {sign n : Node}
    (h : before ++ inner ++ after = left ++ sign :: middle ++ right)
    (hends : ∀ m ∈ before ++ after, m.isExtra = true) (hplain : ∀ m ∈ inner, m.isExtra = false)
    (hsign : sign.isExtra = false) (hmem : n ∈ middle) (hn : n.isExtra = false) :
    ∃ first rest, middle = first :: rest ∧ first.isExtra = false := by
  obtain ⟨l, r, rfl⟩ := List.append_of_mem hmem
  cases l with
  | nil => exact ⟨n, r, rfl, hn⟩
  | cons first l =>
    have hwhole : before ++ inner ++ after = left ++ sign :: (first :: l) ++ n :: (r ++ right) := by
      rw [h]
      simp
    refine ⟨first, l ++ n :: r, rfl, hplain first ?_⟩
    exact enclosed_between hwhole hends hsign hn first (by simp)

namespace Covers

variable {c c' : Cursor} {f : Fragment}

theorem enclose (hP : Buildable P) (h : Covers P K c f c') (loose : Node → Bool) {kind : Kind}
    (hloose : ∀ n, loose n = true → n.isExtra = true)
    (hf : ∀ before inner after, f = before ++ inner ++ after →
      (∀ n ∈ before ++ after, loose n = true) →
        Formed c kind inner ∧ (kind.holdsStatements = true → K' (.tree kind .none inner))) :
    Covers P K' c (enclose loose kind f) c' := by
  obtain ⟨before, inner, after, rfl, e, hends⟩ := enclose_parts loose kind f
  have hin := Node.everywhereIn_iff.mpr fun n (hn : n ∈ inner) => h.nodes n (by simp [hn])
  obtain ⟨hformed, hK⟩ := hf before inner after rfl hends
  have hplain : ∀ n ∈ before ++ after, n.holdsStatements = true → K' n := by
    intro n hn hholds
    rw [Node.holdsStatements_of_isExtra (hloose n (hends n hn))] at hholds
    cases hholds
  rw [e]
  refine h.replace (fun n hn => ?_) (fun n hn => ?_) (fun n hn => ?_) fun herr => ?_
  · rcases List.mem_append.mp hn with hn | hn
    · exact h.nodes n (by simp [hn])
    rcases List.mem_cons.mp hn with rfl | hn
    · exact hP.put hformed hin
    · exact h.nodes n (by simp [hn])
  · rcases List.mem_append.mp hn with hn | hn
    · exact h.loose n (by simp [hn])
    rcases List.mem_cons.mp hn with rfl | hn
    · exact fun _ => rfl
    · exact h.loose n (by simp [hn])
  · rcases List.mem_append.mp hn with hn | hn
    · exact hplain n (List.mem_append_left _ hn)
    rcases List.mem_cons.mp hn with rfl | hn
    · exact hK
    · exact hplain n (List.mem_append_right _ hn)
  · obtain ⟨n, hn, he⟩ := Node.anyHasError_eq_true.mp herr
    rw [List.mem_append, List.mem_append] at hn
    rcases hn with (hn | hn) | hn
    · exact Node.anyHasError_eq_true.mpr ⟨n, by simp [hn], he⟩
    · refine Node.anyHasError_eq_true.mpr ⟨.tree kind .none inner, by simp, ?_⟩
      have : Node.anyHasError inner = true := Node.anyHasError_eq_true.mpr ⟨n, hn, he⟩
      simp [Node.hasError, this]
    · exact Node.anyHasError_eq_true.mpr ⟨n, by simp [hn], he⟩

/-- A node without statements below it. -/
theorem branch (hP : Buildable P) (h : Covers P (fun _ => False) c f c') {kind : Kind}
    (hkind : kind.isTold = false ∧ kind.holdsStatements = false) :
    Spans P c (Grammar.branch kind f) c' := by
  refine h.enclose hP _ (fun _ => id) fun before inner after e _ => ⟨?_, fun hholds => ?_⟩
  · exact .other hkind.1 fun n hn hholds => (h.houses n (by simp [e, hn]) hholds).elim
  · rw [hkind.2] at hholds
    cases hholds

theorem branch_hints (hP : Buildable P) (h : Covers P (fun _ => False) c f c')
    (hf : c.Fed → c.repair = none → ∀ before inner after, f = before ++ inner ++ after →
      (∀ n ∈ before ++ after, n.isExtra = true) → (∀ n ∈ inner, n.isExtra = false) →
        ∀ n ∈ inner, n.role = .type → IsHint n) :
    Spans P c (Grammar.branch .assignment f) c' := by
  refine h.enclose hP _ (fun _ => id) fun before inner after e hends => ⟨?_, nofun⟩
  exact
    { hints := fun _ hc hnone => hf hc hnone before inner after e hends
      signs := nofun
      houses := fun n hn hholds => (h.houses n (by simp [e, hn]) hholds).elim
      definition := nofun
      place := nofun }

/-- The place of a relative import. -/
theorem branch_place (hP : Buildable P) (h : Covers P (fun _ => False) c f c') (hf : IsPlace f) :
    Spans P c (Grammar.branch .relativeImport f) c' := by
  refine h.enclose hP _ (fun _ => id) fun before inner after e hends => ⟨?_, nofun⟩
  obtain ⟨dots, named, hcore, hplace⟩ := hf
  exact
    { hints := nofun
      signs := nofun
      houses := fun n hn hholds => (h.houses n (by simp [e, hn]) hholds).elim
      definition := nofun
      place := fun _ => ⟨dots, named, (core_inner e hends).trans hcore, hplace⟩ }

/-- A node that has statements below it where it may. -/
theorem house (hP : Buildable P) (h : Covers P K c f c') {kind : Kind}
    (hkind : kind.isTold = false) (houses : ∀ n, K n → Houses kind n)
    (hK : ∀ inner, K' (.tree kind .none inner)) : Covers P K' c (Grammar.branch kind f) c' := by
  refine h.enclose hP _ (fun _ => id) fun before inner after e _ => ⟨.other hkind ?_, fun _ => hK inner⟩
  exact fun n hn hholds => houses n (h.houses n (by simp [e, hn]) hholds)

theorem block (hP : Buildable P) (h : Covers P K c f c')
    (houses : ∀ n, K n → Houses .block n)
    (hK : ∀ inner, (∀ n ∈ inner, n.holdsStatements = true → K n) → K' (.tree .block .none inner)) :
    Covers P K' c (Grammar.block f) c' := by
  refine h.enclose hP _ (fun n hn => (Bool.and_eq_true_iff.mp hn).1) fun before inner after e _ => ?_
  have hin : ∀ n ∈ inner, n.holdsStatements = true → K n := fun n hn => h.houses n (by simp [e, hn])
  exact ⟨.other (by decide) fun n hn hholds => houses n (hin n hn hholds), fun _ => hK inner hin⟩

theorem inRole (hP : Buildable P) (h : Covers P K c f c') {r : Role} (hr : r ≠ .definition)
    (hK : ∀ n, K n → K (n.withRole r)) : Covers P K c (f.withRole r) c' := by
  refine h.replace (fun n hn => ?_) (fun n hn => ?_) (fun n hn => ?_) fun herr => ?_
  · obtain ⟨m, hm, rfl⟩ := List.mem_map.mp hn
    split
    · exact h.nodes m hm
    · exact hP.withRole hr (h.nodes m hm)
  · obtain ⟨m, hm, rfl⟩ := List.mem_map.mp hn
    split
    · exact h.loose m hm
    · next hplain =>
      intro hloose
      simp only [Node.isExtra, Node.isNamed, Node.kind_withRole] at hloose hplain
      simp_all
  · obtain ⟨m, hm, rfl⟩ := List.mem_map.mp hn
    split
    · exact h.houses m hm
    · rw [Node.holdsStatements_withRole]
      exact fun hholds => hK m (h.houses m hm hholds)
  · obtain ⟨n, hn, he⟩ := Node.anyHasError_eq_true.mp herr
    refine Node.anyHasError_eq_true.mpr ⟨_, List.mem_map_of_mem hn, ?_⟩
    split
    · exact he
    · rw [Node.hasError_withRole]
      exact he

theorem withRole (hP : Buildable P) (h : Covers P (fun _ => False) c f c') {r : Role}
    (hr : r ≠ .definition) : Spans P c (f.withRole r) c' :=
  h.inRole hP hr fun _ => id

end Covers

/-! ## 4. Readers -/

variable {α β : Type}

/-- Whatever the reader gives from the cursor `c` satisfies `Q`. -/
def Ensures (p : Reader α) (c : Cursor) (Q : α → Cursor → Prop) : Prop :=
  ∀ a c', p c = .ok (a, c') → Q a c'

namespace Ensures

variable {c : Cursor} {Q : α → Cursor → Prop}

theorem mono {R : α → Cursor → Prop} {p : Reader α} (h : Ensures p c Q)
    (hQ : ∀ a c', Q a c' → R a c') : Ensures p c R :=
  fun a c' e => hQ a c' (h a c' e)

theorem and {R : α → Cursor → Prop} {p : Reader α} (h : Ensures p c Q) (h' : Ensures p c R) :
    Ensures p c fun a c' => Q a c' ∧ R a c' :=
  fun a c' e => ⟨h a c' e, h' a c' e⟩

theorem pure {a : α} (h : Q a c) : Ensures (pure a) c Q := by
  intro b c' e
  cases e
  exact h

theorem bind {R : β → Cursor → Prop} {p : Reader α} {f : α → Reader β} (hp : Ensures p c Q)
    (hf : ∀ a c₁, Q a c₁ → Ensures (f a) c₁ R) : Ensures (p >>= f) c R := by
  intro b c' e
  cases hpc : p c with
  | error s => simp [Bind.bind, StateT.bind, hpc, Except.bind] at e
  | ok r =>
    obtain ⟨a, c₁⟩ := r
    simp only [Bind.bind, StateT.bind, hpc, Except.bind] at e
    exact hf a c₁ (hp a c₁ hpc) b c' e

theorem failAt (s : Sight) : Ensures (failAt s : Reader α) c Q := by
  intro a c' e
  cases e

theorem orElse {p q : Reader α} (hp : Ensures p c Q) (hq : Ensures q c Q) :
    Ensures (orElse p q) c Q := by
  intro a c' e
  unfold Grammar.orElse at e
  split at e
  · next hpc => exact hp a c' (hpc.trans e)
  · exact hq a c' e

theorem get {f : Cursor → Reader β} {R : β → Cursor → Prop} (h : Ensures (f c) c R) :
    Ensures (MonadState.get >>= f) c R := h

theorem set {f : PUnit → Reader β} {R : β → Cursor → Prop} {d : Cursor} (h : Ensures (f ⟨⟩) d R) :
    Ensures (MonadState.set d >>= f) c R := h

theorem modify {f : PUnit → Reader β} {R : β → Cursor → Prop} {g : Cursor → Cursor}
    (h : Ensures (f ⟨⟩) (g c) R) : Ensures (modify g >>= f) c R := h

theorem look {f : Sight → Reader β} {R : β → Cursor → Prop}
    (h : ∀ s, c.Seen s → Ensures (f s) c R) : Ensures (look >>= f) c R :=
  h _ (c.look_seen false)

theorem lookOn {f : Sight → Reader β} {R : β → Cursor → Prop}
    (h : ∀ s, c.Seen s → Ensures (f s) c R) : Ensures (lookOn >>= f) c R :=
  h _ (c.look_seen c.lineBound)

/-- What a step keeps, its repetition keeps. -/
theorem repeating {a : α} {step : α → Reader (Option α)} (h : Q a c)
    (hstep : ∀ a c, Q a c → Ensures (step a) c fun r c' => Q (r.getD a) c') :
    Ensures (repeating a step) c Q := by
  have hfrom : ∀ fuel a c, Q a c → Ensures (repeatFrom step fuel a) c Q := by
    intro fuel
    induction fuel with
    | zero => exact fun a c h => .pure h
    | succ fuel ih =>
      intro a c h
      refine (hstep a c h).bind fun r c₁ hr => ?_
      cases r with
      | none => exact .pure hr
      | some b => exact ih b c₁ hr
  exact hfrom _ a c h

end Ensures

/-! ## 5. Tokens -/

section Tokens

variable {c c' d : Cursor} {f : Fragment}

/-- A cursor at the same place counts as the same. -/
theorem Covers.before (h : Covers P K d f c') (hrest : d.rest = c.rest)
    (hoffset : d.offset = c.offset) (hbudget : d.budget = c.budget) (hrepair : d.repair = c.repair) :
    Covers P K c f c' := by
  obtain ⟨⟨read, t, o⟩, b, nodes, loose, houses, r⟩ := h
  refine ⟨⟨read, hrest ▸ t, hoffset ▸ o⟩, hbudget ▸ b, fun n hn => ?_, loose, houses, hrepair ▸ r⟩
  exact (nodes n hn).mono fun _ => .mono (hrest ▸ List.suffix_rfl) hbudget (.inl hrepair) id

/-- A cursor at the same place counts as the same. -/
theorem Covers.behind (h : Covers P K c f d) (hrest : c'.rest = d.rest)
    (hoffset : c'.offset = d.offset) (hbudget : c'.budget = d.budget)
    (hrepair : c'.repair = d.repair) : Covers P K c f c' := by
  obtain ⟨⟨read, t, o⟩, b, nodes, loose, houses, r⟩ := h
  exact ⟨⟨read, hrest ▸ t, hoffset ▸ o⟩, hbudget ▸ b, nodes, loose, houses, hrepair ▸ r⟩

/-- The extras before a token that was looked at. -/
theorem Cursor.Seen.extras_span (hP : Buildable P) {s : Sight} (hs : c.Seen s)
    (hsupplied : s.supplied = none) : Spans P c s.extras s.cursor where
  forward := hs.forward
  budget := hs.budget
  nodes n hn := (hs.extras n hn).everywhere hP _ _
  loose n hn _ := (hs.extras n hn).role
  houses n hn := by
    rw [(hs.extras n hn).plain]
    exact nofun
  repair := hs.repair.imp_right fun ⟨e, h⟩ => ⟨e, by
    rcases h with h | ⟨n, hn, hk⟩
    · rw [hsupplied] at h
      cases h
    · exact Node.anyHasError_eq_true.mpr ⟨n, hn, Node.hasError_of_kind hk⟩⟩

theorem takeLength_spans (hP : Buildable P) {s : Sight} (hs : c.Seen s) (kind : Kind) (n : Nat) :
    Ensures (takeLength s kind n) c (Spans P c) := by
  unfold takeLength
  refine .get ?_
  split
  · next what hw =>
    refine .set (.pure ?_)
    refine
      { forward := hs.forward
        budget := hs.budget
        nodes := fun m hm => ?_
        loose := fun m hm _ => ?_
        houses := fun m hm hholds => ?_
        repair := hs.repair.imp_right fun e => ⟨e.1, Node.anyHasError_eq_true.mpr
          ⟨.absent what c.position, by simp, rfl⟩⟩ }
    all_goals rcases List.mem_append.mp hm with hm | hm
    · exact (hs.extras m hm).everywhere hP _ _
    · rw [List.mem_singleton.mp hm]
      exact Behind.here (hP.absent ..)
    · exact (hs.extras m hm).role
    · rw [List.mem_singleton.mp hm]
      rfl
    · rw [(hs.extras m hm).plain] at hholds
      cases hholds
    · rw [List.mem_singleton.mp hm] at hholds
      cases hholds
  · next hnone =>
    refine .set (.pure ?_)
    refine (hs.extras_span hP hnone).append ?_
    exact
      { forward := .of_advance ..
        budget := s.cursor.advance_budget n
        nodes := fun m hm => by
          rw [List.mem_singleton.mp hm]
          exact Behind.here (hP.leaf ..)
        loose := fun m hm _ => by
          rw [List.mem_singleton.mp hm]
          rfl
        houses := fun m hm hholds => by
          rw [List.mem_singleton.mp hm] at hholds
          cases hholds
        repair := .inl (s.cursor.advance_repair n) }

theorem take_spans (hP : Buildable P) {s : Sight} (hs : c.Seen s) (kind : Kind) :
    Ensures (take s kind) c (Spans P c) := takeLength_spans hP hs kind _

theorem word_spans (hP : Buildable P) (w : String) : Ensures (word w) c (Spans P c) := by
  unfold word
  refine .look fun s hs => ?_
  split
  · exact take_spans hP hs _
  · exact .failAt s

theorem mark_spans (hP : Buildable P) (m : String) : Ensures (mark m) c (Spans P c) := by
  unfold mark
  refine .look fun s hs => ?_
  split
  · exact take_spans hP hs _
  · exact .failAt s

/-- A token that was taken stands behind its extras, and shows if it was supplied. -/
theorem take_parts {s : Sight} {kind : Kind}
    (hkind : kind ≠ .comment ∧ kind ≠ .continuation ∧ kind ≠ .error) :
    Ensures (take s kind) c fun f c' => c'.rest <:+ s.cursor.rest ∧
      (s.supplied = none → c'.rest = s.cursor.rest.drop s.length) ∧
      ∃ n, f = s.extras ++ [n] ∧ n.isExtra = false ∧ (n.hasError = false → s.supplied = none) := by
  unfold take takeLength
  refine .get ?_
  split
  · next what hsupplied =>
    refine .set (.pure ⟨List.suffix_rfl, fun h => ?_, _, rfl, ?_, fun h => by cases h⟩)
    · rw [hsupplied] at h
      cases h
    · have hnode : (Node.absent what c.position).kind = .identifier ∨
          (Node.absent what c.position).kind = .mark := by
        by_cases hname : what = "identifier"
        · exact .inl (if_pos hname)
        · exact .inr (if_neg hname)
      unfold Node.isExtra
      rcases hnode with hnode | hnode <;> rw [hnode]
  · next hnone =>
    refine .set (.pure ⟨?_, fun _ => ?_, _, rfl, ?_, fun _ => hnone⟩)
    · exact (Forward.of_advance ..).suffix
    · exact s.cursor.advance_rest s.length
    · unfold Node.isExtra Node.kind
      split <;> simp_all

/-- The characters of a token that was taken. -/
theorem Cursor.spell_toList (c : Cursor) (n : Nat) :
    (c.spell n).toList = (chars c.rest).take n := by
  unfold Cursor.spell chars
  rw [String.toList_ofList, List.map_take]

/-- Without its extras, what was taken is one token. -/
theorem takeLength_core {s : Sight} (hs : c.Seen s) {kind : Kind} (n : Nat)
    (hkind : (Node.tree kind .none []).isExtra = false) (p : String → Prop)
    (hp : s.supplied = none → p (s.cursor.spell n)) :
    Ensures (takeLength s kind n) c fun f _ => ∃ m, f.core = [m] ∧ m.IsToken p := by
  have hcore : ∀ m : Node, m.isExtra = false → Fragment.core (s.extras ++ [m]) = [m] := by
    intro m hm
    have hextras : s.extras.filter (fun n => !n.isExtra) = [] :=
      List.filter_eq_nil_iff.mpr fun n hn => by simp [(hs.extras n hn).isExtra]
    rw [Fragment.core, List.filter_append, hextras, List.nil_append,
      List.filter_cons_of_pos (by simp [hm]), List.filter_nil]
  unfold takeLength
  refine .get ?_
  split
  · next what _ =>
    refine .set (.pure ⟨_, hcore (.absent what c.position) ?_, .absent ..⟩)
    by_cases hname : what = "identifier" <;> simp [Node.isExtra, Node.kind, hname]
  · next hnone => exact .set (.pure ⟨_, hcore _ hkind, .leaf _ _ _ _ (hp hnone)⟩)

/-- A name, without its extras. -/
theorem identifier_core :
    Ensures identifier c fun f _ => ∃ n, f.core = [n] ∧ n.IsToken IsName := by
  unfold identifier
  refine .look fun s hs => ?_
  split
  · next w hw =>
    split
    · exact .failAt s
    · next hne =>
      refine takeLength_core hs _ rfl IsName fun hnone => ?_
      obtain ⟨hlength, hword⟩ := hs.word w hw hnone
      have htext : (s.cursor.spell s.length).toList = w.toList := by
        rw [s.cursor.spell_toList, hlength, ← hword, ← runLength_take, chars, chars, List.map_take]
      refine ⟨fun hempty => hne ?_, fun ch hch => ?_⟩
      · rw [← String.toList_inj.mp htext, hempty]
        rfl
      · rw [hlength] at hch
        exact runLength_spell isNameChar s.cursor ch hch
  · exact .failAt s

/-- The word of a name stands behind its extras, and shows if it was supplied. -/
theorem identifier_parts : Ensures identifier c fun f _ => ∃ s w n, c.Seen s ∧ s.token = .word w ∧
    f = s.extras ++ [n] ∧ n.isExtra = false ∧ (n.hasError = false → s.supplied = none) := by
  unfold identifier
  refine .look fun s hs => ?_
  split
  · next w hw =>
    split
    · exact .failAt s
    · refine (take_parts (by decide)).mono ?_
      rintro f c' ⟨-, -, n, hf, hplain, hsupplied⟩
      exact ⟨s, w, n, hs, hw, hf, hplain, hsupplied⟩
  · exact .failAt s

/-- What a word is made of holds no dot. -/
theorem take_plain {s : Sight} (hs : c.Seen s) {w : String} (hw : s.token = .word w) :
    Ensures (take s .identifier) c fun f _ => ∀ n ∈ f, n.isExtra = false → '.' ∉ n.text.toList := by
  have hextras : ∀ n ∈ s.extras, n.isExtra = false → '.' ∉ n.text.toList := fun n hn h => by
    rw [(hs.extras n hn).isExtra] at h
    cases h
  unfold take takeLength
  refine .get ?_
  split
  · refine .set (.pure fun n hn => ?_)
    rcases List.mem_append.mp hn with hn | hn
    · exact hextras n hn
    · rw [List.mem_singleton.mp hn]
      exact fun _ => by simp [Node.text, Node.leaves, Node.textOf]
  · next hnone =>
    refine .set (.pure fun n hn => ?_)
    rcases List.mem_append.mp hn with hn | hn
    · exact hextras n hn
    · rw [List.mem_singleton.mp hn]
      intro _ hdot
      have h := runLength_spell isNameChar s.cursor '.'
      rw [← (hs.word w hw hnone).1] at h
      rw [isNameChar_dot] at h
      exact absurd (h hdot) Bool.false_ne_true

/-- A name without dots. -/
theorem identifier_spans (hP : Buildable P) : Ensures identifier c fun f c' =>
    Spans P c f c' ∧ ∀ n ∈ f, n.isExtra = false → '.' ∉ n.text.toList := by
  unfold identifier
  refine .look fun s hs => ?_
  split
  · next w hw =>
    split
    · exact .failAt s
    · exact fun f c' e => ⟨take_spans hP hs _ f c' e, take_plain hs hw f c' e⟩
  · exact .failAt s

theorem bracketed_spans (hP : Buildable P) {opening closing : String} {inner : Reader Fragment}
    (hinner : ∀ c, Ensures inner c (Spans P c)) :
    Ensures (bracketed opening closing inner) c (Spans P c) := by
  unfold bracketed
  refine (mark_spans hP _).bind fun first c₁ h₁ => .modify ?_
  refine (hinner _).bind fun middle c₂ h₂ => (mark_spans hP _).bind fun last c₃ h₃ => .modify ?_
  have h := (h₁.append (h₂.before rfl rfl rfl rfl)).append h₃
  exact .pure (h.behind rfl rfl rfl rfl)

theorem withEnds_spans {ends : Bool} {p : Reader Fragment} (hp : ∀ c, Ensures p c (Spans P c)) :
    Ensures (withEnds ends p) c (Spans P c) := by
  unfold withEnds
  refine .get (.modify ?_)
  refine (hp _).bind fun f c₁ h₁ => .modify (.pure ?_)
  have h : Spans P c f c₁ := h₁.before rfl rfl rfl rfl
  exact h.behind rfl rfl rfl rfl

theorem commaList_spans (hP : Buildable P) {starts : Token → Bool} {item : Reader Fragment}
    (hitem : ∀ c, Ensures item c (Spans P c)) :
    Ensures (commaList starts item) c fun r c' => Spans P c r.1 c' := by
  unfold commaList
  refine (hitem c).bind fun first c₁ h₁ => ?_
  refine (Ensures.repeating (Q := fun r c' => Spans P c r.1 c') h₁ ?_).bind fun r c₂ h₂ => .pure h₂
  rintro ⟨sofar, several, ended⟩ c₂ h₂
  dsimp only
  split
  · exact .pure h₂
  refine .lookOn fun s hs => ?_
  split
  · exact .pure h₂
  refine (take_spans hP hs _).bind fun comma c₃ h₃ => .lookOn fun next _ => ?_
  split
  · exact (hitem _).bind fun f c₄ h₄ => .pure ((h₂.append h₃).append h₄)
  · exact .pure (h₂.append h₃)

end Tokens

end FluentBuilders.Grammar
