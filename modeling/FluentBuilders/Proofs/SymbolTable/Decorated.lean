import Mathlib.Data.List.Forall2
import FluentBuilders.Proofs.Grammar.Statements
import FluentBuilders.Proofs.SymbolTable.Findings

/-!
Which decorated definitions of a text its symbol table lists: all of them, in the order of the text,
but for those in loops and `match` statements at module scope.

1. `Occurrence`: the decorated definitions of a tree, with what stands around them.
2. `Shaped`: statements stand where the grammar has them.
3. `Finding.decorated?`: what the walk finds that has decorators.
4. `decoratedOf_allFindings`: what the walk finds, statement by statement.
5. `ofParsed_decorated`, and a definition in a loop (`ofParsed_overlooks`).
-/

namespace FluentBuilders

open Text Grammar

namespace SymbolTable

/-! ## 1. Decorated definitions of a tree -/

/-- A decorated definition of a tree. -/
structure Occurrence where
  node : Node
  /-- Whether a class or a function encloses it. -/
  enclosed : Bool
  /-- Whether it stands below a loop or a `match` statement that no class or function encloses. -/
  skipped : Bool

mutual
/-- The decorated definitions of a tree in the order of the text: the node itself, then those below
it. -/
def occurrences (enclosed skipped : Bool) : Node → List Occurrence
  | .tree kind role children =>
    (if kind == .decorated then [⟨.tree kind role children, enclosed, skipped⟩] else []) ++
      occurrencesIn (enclosed || kind == .classDefinition || kind == .functionDefinition)
        (skipped || !enclosed && (kind == .loopStatement || kind == .matchStatement)) children
  | _ => []

/-- The decorated definitions of consecutive trees. -/
def occurrencesIn (enclosed skipped : Bool) : List Node → List Occurrence
  | [] => []
  | n :: rest => occurrences enclosed skipped n ++ occurrencesIn enclosed skipped rest
end

/-- What a table tells of a decorated definition. -/
structure Records (o : Occurrence) (info : DecoratedInfo) : Prop where
  topLevel : info.topLevel = !o.enclosed
  decorators : info.decorators = (o.node.children.filter (·.kind == .decorator)).map decoratorName
  hasError : info.hasError = o.node.hasError
  definition : ∃ definition ∈ o.node.children, IsDefinition definition ∧
    info.name = definedName definition ∧ info.line = definition.start.line ∧
      (info.kind = .ofClass ↔ definition.kind = .classDefinition)

/-- What the walk makes of the decorated definitions that it comes to. -/
def noted (l : List Occurrence) : List DecoratedInfo :=
  (l.filter (!·.skipped)).filterMap fun o => decorated? o.node (!o.enclosed)

theorem noted_append (l l' : List Occurrence) : noted (l ++ l') = noted l ++ noted l' := by
  simp [noted]

theorem occurrencesIn_append (enclosed skipped : Bool) (l l' : List Node) :
    occurrencesIn enclosed skipped (l ++ l') =
      occurrencesIn enclosed skipped l ++ occurrencesIn enclosed skipped l' := by
  induction l with
  | nil => rfl
  | cons n rest ih => rw [List.cons_append, occurrencesIn, occurrencesIn, ih, List.append_assoc]

mutual
/-- Whatever stands below something skipped is skipped. -/
theorem noted_skipped (enclosed : Bool) : ∀ n : Node, noted (occurrences enclosed true n) = []
  | .leaf .. => rfl
  | .absent .. => rfl
  | .tree kind role children => by
    rw [occurrences, noted_append, Bool.true_or, notedIn_skipped _ children]
    split <;> rfl

theorem notedIn_skipped (enclosed : Bool) :
    ∀ l : List Node, noted (occurrencesIn enclosed true l) = []
  | [] => rfl
  | n :: rest => by
    rw [occurrencesIn, noted_append, noted_skipped enclosed n, notedIn_skipped enclosed rest]
    rfl
end

mutual
/-- Below a class or a function, every decorated definition is listed. -/
theorem noted_enclosed : ∀ n : Node, noted (occurrences true false n) =
    (if n.kind == .decorated then (decorated? n false).toList else []) ++ nestedIn n
  | .leaf kind .. => by
    have hnone : ∀ role gap text p, decorated? (.leaf kind role gap text p) false = none :=
      fun _ _ _ _ => rfl
    rw [hnone]
    split <;> rfl
  | .absent what p => by
    have hnone : decorated? (.absent what p) false = none := rfl
    rw [hnone]
    split <;> rfl
  | .tree kind role children => by
    have hbelow := notedIn_enclosed children
    rw [occurrences, noted_append]
    simp only [Bool.true_or, Bool.false_or, Bool.not_true, Bool.false_and]
    rw [hbelow, nestedIn]
    congr 1
    show noted (if kind == .decorated then _ else _) = if kind == .decorated then _ else _
    split
    · simp only [noted, List.filter_cons, Bool.not_false, if_true, List.filter_nil,
        List.filterMap_cons, List.filterMap_nil, Bool.not_true]
      cases decorated? (.tree kind role children) false <;> rfl
    · rfl

theorem notedIn_enclosed : ∀ l : List Node, noted (occurrencesIn true false l) = nestedInAll l
  | [] => rfl
  | n :: rest => by
    rw [occurrencesIn, noted_append, noted_enclosed n, notedIn_enclosed rest, nestedInAll]
end

/-! ## 2. Where statements stand -/

/-- Statements stand below a node only where they may; below decorators stands one definition. -/
structure Shaped (n : Node) : Prop where
  houses : ∀ m ∈ n.children, m.holdsStatements = true → Houses n.kind m
  definition : ∀ role children, n = .tree .decorated role children →
    ∃ before d after, children = before ++ d :: after ∧ d.role = .definition ∧ IsDefinition d ∧
      ∀ m ∈ before ++ after, m.role ≠ .definition ∧ m.holdsStatements = false

theorem Shaped.withRole {n : Node} (h : Shaped n) (r : Role) : Shaped (n.withRole r) := by
  refine ⟨?_, fun role children e => ?_⟩
  · rw [Node.children_withRole, Node.kind_withRole]
    exact h.houses
  · cases n with
    | leaf => cases e
    | absent => cases e
    | tree kind role' children' =>
      cases e
      exact h.definition role' _ rfl

theorem shaped_buildable : Buildable fun _ => Shaped where
  leaf _ _ _ _ _ := ⟨nofun, nofun⟩
  absent _ _ _ := ⟨nofun, nofun⟩
  tree _ _ kind children hformed _ := by
    refine ⟨hformed.houses, fun role children' e => ?_⟩
    cases e
    exact hformed.definition rfl
  role _ _ r _ h := h.withRole r
  definition _ _ _ h := h.withRole .definition
  pattern _ old new role before after hkind hholds h := by
    have hnone : ∀ n ∈ before, n.holdsStatements ≠ true := by
      cases hkind <;> exact h.houses
    refine ⟨fun m hm hm' => ?_, fun _ _ e => ?_⟩
    · obtain ⟨n, hn, hn'⟩ := hholds m hm hm'
      exact absurd hn' (hnone n hn)
    · cases e
      cases hkind

/-- The definition below decorators is the one that is asked for. -/
theorem Shaped.child? {role : Role} {children : List Node}
    (h : Shaped (.tree .decorated role children)) :
    ∃ before d after, children = before ++ d :: after ∧
      (Node.tree .decorated role children).child? .definition = some d ∧ IsDefinition d ∧
        ∀ m ∈ before ++ after, m.holdsStatements = false := by
  obtain ⟨before, d, after, hchildren, hrole, hd, hothers⟩ := h.definition role children rfl
  refine ⟨before, d, after, hchildren, ?_, hd, fun m hm => (hothers m hm).2⟩
  have hbefore : before.find? (·.role == .definition) = none :=
    List.find?_eq_none.mpr fun m hm => by simp [(hothers m (List.mem_append_left _ hm)).1]
  unfold Node.child?
  rw [Node.children, hchildren, List.find?_append, hbefore,
    List.find?_cons_of_pos (by simp [hrole])]
  rfl

/-- Nothing decorated stands below a node that has no statements below it. -/
theorem Kind.not_houses {kind : Kind} (h : kind.holdsStatements = false) (m : Node) :
    ¬ Houses kind m := by
  cases kind <;> first | exact id | cases h

theorem Kind.not_isCompound {kind : Kind} (h : kind.holdsStatements = false) :
    kind.isCompound = false := by
  cases kind <;> first | rfl | cases h

mutual
theorem occurrences_plain (enclosed skipped : Bool) : ∀ n : Node, n.Everywhere Shaped →
    n.holdsStatements = false → occurrences enclosed skipped n = []
  | .leaf .., _, _ => rfl
  | .absent .., _, _ => rfl
  | .tree kind role children, h, hplain => by
    have hdecorated : (kind == .decorated) = false := by
      cases kind <;> first | rfl | cases hplain
    have hbelow : ∀ m ∈ children, m.holdsStatements = false := fun m hm =>
      Bool.eq_false_iff.mpr fun hm' => Kind.not_houses hplain m (h.1.houses m hm hm')
    rw [occurrences, hdecorated, occurrencesIn_plain _ _ children h.2 hbelow]
    rfl

theorem occurrencesIn_plain (enclosed skipped : Bool) : ∀ l : List Node,
    Node.EverywhereIn Shaped l → (∀ n ∈ l, n.holdsStatements = false) →
      occurrencesIn enclosed skipped l = []
  | [], _, _ => rfl
  | n :: rest, h, hplain => by
    rw [occurrencesIn, occurrences_plain _ _ n h.1 (hplain n List.mem_cons_self),
      occurrencesIn_plain _ _ rest h.2 fun m hm => hplain m (List.mem_cons_of_mem n hm)]
    rfl
end

/-- Only one of several trees counts if the others have no statements in them. -/
theorem occurrencesIn_around {before after : List Node} {d : Node}
    (h : Node.EverywhereIn Shaped (before ++ d :: after))
    (hothers : ∀ m ∈ before ++ after, m.holdsStatements = false) (enclosed skipped : Bool) :
    occurrencesIn enclosed skipped (before ++ d :: after) = occurrences enclosed skipped d := by
  have hall := Node.everywhereIn_iff.mp h
  have hbefore : Node.EverywhereIn Shaped before := Node.everywhereIn_iff.mpr fun m hm =>
    hall m (List.mem_append_left _ hm)
  have hafter : Node.EverywhereIn Shaped after := Node.everywhereIn_iff.mpr fun m hm =>
    hall m (List.mem_append_right _ (List.mem_cons_of_mem d hm))
  rw [occurrencesIn_append, occurrencesIn,
    occurrencesIn_plain _ _ before hbefore fun m hm => hothers m (List.mem_append_left _ hm),
    occurrencesIn_plain _ _ after hafter fun m hm => hothers m (List.mem_append_right _ hm),
    List.nil_append, List.append_nil]

/-! ## 3. What the walk finds -/

theorem Plain.decoratedOf {l : List Finding} (h : Plain l) : decoratedOf l = [] := by
  refine List.filterMap_eq_nil_iff.mpr fun f hf => ?_
  have hplain := h f hf
  cases f <;> first | rfl | cases hplain

theorem decoratedOf_nestedFindings (n : Node) : decoratedOf (nestedFindings n) = nestedIn n := by
  unfold decoratedOf nestedFindings
  rw [List.filterMap_map]
  exact List.filterMap_some

theorem decoratedOf_classFindings (n : Node) : decoratedOf (classFindings n) = nestedIn n := by
  unfold classFindings
  rw [decoratedOf_append, decoratedOf_nestedFindings]
  rfl

theorem decoratedOf_functionFindings (n : Node) :
    decoratedOf (functionFindings n) = nestedIn n := by
  unfold functionFindings
  rw [decoratedOf_append, decoratedOf_nestedFindings]
  cases n.child? .name <;> rfl

/-! ## 4. The walk -/

/-- A class or a function has in it what its body has. -/
theorem noted_definition {n : Node} (h : IsDefinition n) :
    noted (occurrences false false n) = nestedIn n := by
  cases n with
  | leaf => rfl
  | absent => rfl
  | tree kind role children =>
    rw [nestedIn, ← notedIn_enclosed]
    rcases h.1 with hkind | hkind <;> cases hkind <;> rfl

/-- Below decorators the definition is all that counts. -/
theorem decoratedOf_decoratedFindings {role : Role} {children : List Node}
    (h : (Node.tree .decorated role children).Everywhere Shaped) :
    decoratedOf (decoratedFindings (.tree .decorated role children)) =
      noted (occurrences false false (.tree .decorated role children)) := by
  obtain ⟨before, d, after, hchildren, hchild, hd, hothers⟩ := h.1.child?
  obtain ⟨info, hinfo⟩ : ∃ info, decorated? (.tree .decorated role children) true = some info := by
    unfold decorated?
    rw [hchild]
    exact ⟨_, rfl⟩
  have hhere : noted [⟨.tree .decorated role children, false, false⟩] = [info] := by
    simp [noted, hinfo]
  have hoccurrences : occurrences false false (.tree .decorated role children) =
      [⟨.tree .decorated role children, false, false⟩] ++ occurrences false false d := by
    have hnodes : Node.EverywhereIn Shaped children := h.2
    rw [hchildren] at hnodes
    have hbelow := occurrencesIn_around hnodes hothers false false
    rw [← hchildren] at hbelow
    rw [← hbelow]
    rfl
  rw [hoccurrences, noted_append, hhere, noted_definition hd]
  unfold decoratedFindings
  rw [hinfo, hchild]
  dsimp only
  rw [decoratedOf_append, decoratedOf_append, decoratedOf_nestedFindings]
  split <;> rfl

/-- Only the steps into classes, functions, loops and `match` statements change what is told. -/
theorem occurrences_through {kind : Kind} (h : kind.isCompound = false) (role : Role)
    (children : List Node) :
    occurrences false false (.tree kind role children) = occurrencesIn false false children := by
  cases kind <;> first | rfl | cases h

theorem noted_cons (n : Node) (rest : List Node) : noted (occurrencesIn false false (n :: rest)) =
    noted (occurrences false false n) ++ noted (occurrencesIn false false rest) := by
  rw [occurrencesIn, noted_append]

/-- A node that has statements below it only if it satisfies `K`. -/
def Standing (K : Node → Prop) (n : Node) : Prop :=
  n.Everywhere Shaped ∧ (n.holdsStatements = true → K n)

/-- All nodes of a list satisfy it. -/
def StandingIn (K : Node → Prop) (l : List Node) : Prop := ∀ n ∈ l, Standing K n

section Standing

variable {K : Node → Prop} {n : Node} {rest : List Node}

theorem StandingIn.head (h : StandingIn K (n :: rest)) : Standing K n := h n List.mem_cons_self

theorem StandingIn.tail (h : StandingIn K (n :: rest)) : StandingIn K rest :=
  fun m hm => h m (List.mem_cons_of_mem n hm)

end Standing

mutual
theorem decoratedOf_findings (package : String) : ∀ n : Node, Standing Node.IsCompound n →
    decoratedOf (findings package n) = noted (occurrences false false n)
  | .leaf .., _ => rfl
  | .absent .., _ => rfl
  | .tree kind role children, h => by
    have hbranches := decoratedOf_branchFindings package children
    have hbelow : ∀ m ∈ children, m.Everywhere Shaped := fun m hm => h.1.child hm
    have hhouses := h.1.here.houses
    cases kind with
    | importStatement =>
      rw [occurrences_plain _ _ _ h.1 rfl]
      exact (Plain.flatMap fun item _ => importFindings_plain item).decoratedOf
    | importFrom =>
      rw [occurrences_plain _ _ _ h.1 rfl]
      exact Plain.decoratedOf (fromFindings_plain package _)
    | classDefinition =>
      exact (decoratedOf_classFindings _).trans (notedIn_enclosed children).symm
    | functionDefinition =>
      exact (decoratedOf_functionFindings _).trans (notedIn_enclosed children).symm
    | decorated => exact decoratedOf_decoratedFindings h.1
    | expressionStatement =>
      rw [occurrences_plain _ _ _ h.1 rfl]
      exact (Plain.flatMap fun value _ => expressionFindings_plain value).decoratedOf
    | typeAlias =>
      rw [occurrences_plain _ _ _ h.1 rfl]
      exact (typeAliasFindings_plain _).decoratedOf
    | ifStatement | tryStatement | withStatement =>
      exact hbranches fun m hm => ⟨hbelow m hm, hhouses m hm⟩
    | loopStatement | matchStatement => exact (notedIn_skipped false children).symm
    | module | block | clause => cases h.2 rfl
    | _ =>
      rw [occurrences_plain _ _ _ h.1 rfl]
      rfl

/-- What the walk over statements finds are the decorated definitions that are not skipped. -/
theorem decoratedOf_allFindings (package : String) : ∀ l : List Node,
    StandingIn Node.IsCompound l →
      decoratedOf (allFindings package l) = noted (occurrencesIn false false l)
  | [], _ => rfl
  | n :: rest, h => by
    rw [allFindings, decoratedOf_append, noted_cons, decoratedOf_findings package n h.head,
      decoratedOf_allFindings package rest h.tail]

theorem decoratedOf_branchFindings (package : String) : ∀ l : List Node,
    StandingIn (fun n => n.IsBody ∨ n.kind = .clause) l →
      decoratedOf (branchFindings package l) = noted (occurrencesIn false false l)
  | [], _ => rfl
  | .leaf .. :: rest, h => decoratedOf_branchFindings package rest h.tail
  | .absent .. :: rest, h => decoratedOf_branchFindings package rest h.tail
  | .tree kind role children :: rest, h => by
    have hblock := decoratedOf_allFindings package children
    have hclause := decoratedOf_blockFindings package children
    rw [branchFindings, decoratedOf_append, noted_cons,
      decoratedOf_branchFindings package rest h.tail]
    congr 1
    by_cases hkind : kind = .block
    · subst hkind
      refine hblock fun m hm => ⟨h.head.1.child hm, fun hholds => ?_⟩
      rcases h.head.2 rfl with hbody | hclause
      · exact hbody.2 m hm hholds
      · cases hclause
    -- a clause, or no statements at all
    · have hother : kind = .clause ∨ kind.holdsStatements = false := by
        by_cases hholds : kind.holdsStatements = true
        · rcases h.head.2 hholds with hbody | hclause
          · exact absurd hbody.1 hkind
          · exact .inl hclause
        · exact .inr (Bool.eq_false_iff.mpr hholds)
      rw [if_neg (by simpa using hkind), occurrences_through (hother.elim (fun e => e ▸ rfl)
        Kind.not_isCompound)]
      refine hclause fun m hm => ⟨h.head.1.child hm, fun hholds => ?_⟩
      have hhouses := h.head.1.here.houses m hm hholds
      rcases hother with rfl | hplain
      · exact hhouses
      · exact (Kind.not_houses hplain m hhouses).elim

theorem decoratedOf_blockFindings (package : String) : ∀ l : List Node,
    StandingIn Node.IsBody l →
      decoratedOf (blockFindings package l) = noted (occurrencesIn false false l)
  | [], _ => rfl
  | .leaf .. :: rest, h => decoratedOf_blockFindings package rest h.tail
  | .absent .. :: rest, h => decoratedOf_blockFindings package rest h.tail
  | .tree kind role children :: rest, h => by
    have hblock := decoratedOf_allFindings package children
    rw [blockFindings, decoratedOf_append, noted_cons,
      decoratedOf_blockFindings package rest h.tail]
    congr 1
    by_cases hkind : kind = .block
    · subst hkind
      exact hblock fun m hm => ⟨h.head.1.child hm, (h.head.2 rfl).2 m hm⟩
    · have hplain : kind.holdsStatements = false :=
        Bool.eq_false_iff.mpr fun hholds => hkind (h.head.2 hholds).1
      rw [if_neg (by simpa using hkind), occurrences_plain _ _ _ h.head.1 hplain]
      rfl
end

/-! ## 5. Decorated definitions of a text -/

mutual
/-- Whatever is told of a tree is told of decorated definitions in it. -/
theorem mem_occurrences {o : Occurrence} (enclosed skipped : Bool) : ∀ n : Node,
    n.Everywhere Shaped → o ∈ occurrences enclosed skipped n →
      o.node.Everywhere Shaped ∧ ∃ role children, o.node = .tree .decorated role children
  | .leaf .., _, ho => by cases ho
  | .absent .., _, ho => by cases ho
  | .tree kind role children, h, ho => by
    rw [occurrences] at ho
    rcases List.mem_append.mp ho with ho | ho
    · by_cases hkind : kind = .decorated
      · subst hkind
        rw [List.mem_singleton.mp ho]
        exact ⟨h, role, children, rfl⟩
      · rw [if_neg (by simpa using hkind)] at ho
        cases ho
    · exact mem_occurrencesIn _ _ children h.2 ho

theorem mem_occurrencesIn {o : Occurrence} (enclosed skipped : Bool) : ∀ l : List Node,
    Node.EverywhereIn Shaped l → o ∈ occurrencesIn enclosed skipped l →
      o.node.Everywhere Shaped ∧ ∃ role children, o.node = .tree .decorated role children
  | [], _, ho => by cases ho
  | n :: rest, h, ho => by
    rw [occurrencesIn] at ho
    rcases List.mem_append.mp ho with ho | ho
    · exact mem_occurrences _ _ n h.1 ho
    · exact mem_occurrencesIn _ _ rest h.2 ho
end

/-- A table tells of a decorated definition what there is to tell. -/
theorem decorated?_records {o : Occurrence} (h : o.node.Everywhere Shaped)
    (hkind : ∃ role children, o.node = .tree .decorated role children) :
    ∃ info, decorated? o.node (!o.enclosed) = some info ∧ Records o info := by
  obtain ⟨node, enclosed, skipped⟩ := o
  obtain ⟨role, children, rfl⟩ := hkind
  obtain ⟨-, d, -, -, hchild, hd, -⟩ := h.here.child?
  have hclass : (if d.kind == .classDefinition then DefinitionKind.ofClass else .ofFunction) =
      .ofClass ↔ d.kind = .classDefinition := by
    by_cases hkind : d.kind = .classDefinition <;> simp [hkind]
  unfold decorated?
  rw [hchild]
  refine ⟨_, rfl, ?_⟩
  exact
    { topLevel := rfl
      decorators := rfl
      hasError := rfl
      definition := ⟨d, (Node.child?_spec hchild).1, hd, rfl, rfl, hclass⟩ }

/-- Definitions of which something is told, with what is told of each. -/
theorem noted_records {l : List Occurrence}
    (h : ∀ o ∈ l, ∃ info, decorated? o.node (!o.enclosed) = some info ∧ Records o info) :
    List.Forall₂ Records (l.filter (!·.skipped)) (noted l) := by
  unfold noted
  induction l with
  | nil => exact .nil
  | cons o rest ih =>
    have hrest := ih fun o' ho' => h o' (List.mem_cons_of_mem o ho')
    obtain ⟨info, hinfo, hrecords⟩ := h o List.mem_cons_self
    by_cases hskipped : o.skipped = true
    · simpa [hskipped] using hrest
    · rw [List.filter_cons_of_pos (by simpa using hskipped), List.filterMap_cons, hinfo]
      exact .cons hrecords hrest

theorem parseModule_module (source : List Glyph) :
    ∃ children, parseModule source = .tree .module .none children := by
  unfold parseModule
  dsimp only
  split <;> exact ⟨_, rfl⟩

/-- The table of a text lists its decorated definitions in the order of the text, each once and with
its decorators, and tells which ones no class and no function encloses; but it passes over those in
loops and `match` statements that no class and no function encloses. -/
theorem ofParsed_decorated (content : Bytes) (path module : String) (isPackage : Bool) :
    List.Forall₂ Records
      ((occurrences false false (Parsed.ofBytes content path).tree).filter (!·.skipped))
      (ofParsed (Parsed.ofBytes content path) module isPackage).decorated := by
  have htree : (Parsed.ofBytes content path).tree.Everywhere Shaped :=
    (parseModule_everywhere shaped_buildable _).mono fun n h => by
      obtain ⟨-, -, -, hn⟩ := h
      exact hn
  obtain ⟨children, hmodule⟩ : ∃ children,
      (Parsed.ofBytes content path).tree = .tree .module .none children := parseModule_module _
  rw [hmodule] at htree
  have hstanding : StandingIn Node.IsCompound children := fun n hn =>
    ⟨htree.child hn, htree.here.houses n hn⟩
  have hchildren : (Parsed.ofBytes content path).tree.children = children := by
    rw [hmodule]
    rfl
  rw [ofParsed_decoratedOf, moduleFindings, hchildren, hmodule,
    decoratedOf_allFindings _ _ hstanding,
    ← occurrences_through (show Kind.isCompound .module = false from rfl) .none children]
  refine noted_records fun o ho => ?_
  obtain ⟨hnode, hkind⟩ := mem_occurrences _ _ _ htree ho
  exact decorated?_records hnode hkind

/-- A marked class in a loop is not in the table, though the text is without faults. -/
theorem ofParsed_overlooks :
    let parsed := Parsed.ofText ("from builder_gen.marker import builder\nfor i in [1]:\n" ++
      "    @builder\n    class A: pass\n") "m.py"
    parsed.faults = [] ∧
      (occurrences false false parsed.tree).map (·.enclosed) = [false] ∧
      (ofParsed parsed "m" false).decorated = [] := by
  intro parsed
  rw [ofParsed_decoratedOf]
  decide +kernel

end SymbolTable

end FluentBuilders
