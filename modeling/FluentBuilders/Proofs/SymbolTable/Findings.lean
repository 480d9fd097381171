import FluentBuilders.Proofs.Table
import FluentBuilders.SymbolTable.OfTree

/-!
The walk over module scope as a list of what it finds, in the order of the text.

1. `Finding`: what one step adds to a table, and `noteAll`, all steps one after the other.
2. What each statement is found to bind and define.
3. `addStatements_eq`: the walk notes what is found, and nothing else.
4. `WalkKeeps`: what holds of single statements and therefore of all of them. Classes are found under
   names that are defined.
5. What the table of a module tells of what was found.
-/

namespace FluentBuilders

open Text Grammar

namespace SymbolTable

/-! ## 1. Findings -/

/-- What a statement at module scope adds to the table. -/
inductive Finding
  /-- A local name of an import, and the qualified name that it stands for. -/
  | imported (name target : String)
  /-- A module all of whose names are imported. -/
  | starred (base : String)
  | defined (name : String)
  | classed (name : String) (info : ClassInfo)
  | decorated (info : DecoratedInfo)
  deriving DecidableEq, Repr, Inhabited

/-- The table with one more finding. -/
def note (t : SymbolTable) : Finding → SymbolTable
  | .imported name target => t.bind name target
  | .starred base => { t with wildcards := t.wildcards ++ [base] }
  | .defined name => t.define name
  | .classed name info => { t with classes := t.classes.insert name info }
  | .decorated info => t.addDecorated info

/-- The table with further findings, in order. -/
def noteAll (t : SymbolTable) (l : List Finding) : SymbolTable := l.foldl note t

variable {t : SymbolTable}

@[simp] theorem noteAll_nil (t : SymbolTable) : t.noteAll [] = t := rfl

theorem noteAll_append (t : SymbolTable) (l l' : List Finding) :
    t.noteAll (l ++ l') = (t.noteAll l).noteAll l' :=
  List.foldl_append

/-- Steps that each note what they find note it in order. -/
theorem foldl_noteAll {α : Type} {f : SymbolTable → α → SymbolTable} {found : α → List Finding}
    (h : ∀ t a, f t a = t.noteAll (found a)) (t : SymbolTable) (l : List α) :
    l.foldl f t = t.noteAll (l.flatMap found) := by
  induction l generalizing t with
  | nil => rfl
  | cons a rest ih => rw [List.foldl_cons, ih, h, List.flatMap_cons, noteAll_append]

/-- What no finding changes: where the table is of, and whether its module keeps to the grammar. -/
structure SameModule (t t' : SymbolTable) : Prop where
  module : t'.module = t.module
  path : t'.path = t.path
  digest : t'.digest = t.digest
  isPackage : t'.isPackage = t.isPackage
  sound : t'.sound = t.sound

theorem note_sameModule (t : SymbolTable) (f : Finding) : SameModule t (t.note f) := by
  cases f with
  | defined name =>
    unfold note define
    dsimp only
    split <;> exact ⟨rfl, rfl, rfl, rfl, rfl⟩
  | _ => exact ⟨rfl, rfl, rfl, rfl, rfl⟩

theorem noteAll_sameModule (t : SymbolTable) (l : List Finding) : SameModule t (t.noteAll l) := by
  induction l generalizing t with
  | nil => exact ⟨rfl, rfl, rfl, rfl, rfl⟩
  | cons f rest ih =>
    have hf := t.note_sameModule f
    have hrest := ih (t.note f)
    exact ⟨hrest.module.trans hf.module, hrest.path.trans hf.path, hrest.digest.trans hf.digest,
      hrest.isPackage.trans hf.isPackage, hrest.sound.trans hf.sound⟩

theorem noteAll_package (t : SymbolTable) (l : List Finding) :
    (t.noteAll l).package = t.package := by
  have h := t.noteAll_sameModule l
  unfold package
  rw [h.isPackage, h.module]

/-! ## 2. What statements bind -/

/-- What an item of `import …` binds: a plain one the first part of its name. -/
def importFindings (item : Node) : List Finding :=
  if item.kind == .aliasedImport then
    match item.child? .name, item.child? .localName with
    | some name, some localName => [.imported localName.text (dotted name)]
    | _, _ => []
  else [.imported (splitHead (dotted item)).1 (splitHead (dotted item)).1]

/-- What an item of an import from the module `base` binds. -/
def itemFindings (base : String) (item : Node) : List Finding :=
  if item.kind == .aliasedImport then
    match item.child? .name, item.child? .localName with
    | some name, some localName => [.imported localName.text (qualify base (dotted name))]
    | _, _ => []
  else [.imported (dotted item) (qualify base (dotted item))]

/-- What an import from the module `base` binds. -/
def importFromFindings (base : String) (n : Node) : List Finding :=
  if n.children.any (·.kind == .wildcard) then [.starred base]
  else (n.childrenIn .item).flatMap (itemFindings base)

/-- What `from … import …` binds in a module of a package. -/
def fromFindings (package : String) (n : Node) : List Finding :=
  match n.child? .moduleName with
  | none => []
  | some place =>
    if place.kind == .relativeImport then
      match relativeBase package place with
      | some base => importFromFindings base n
      | none => []
    else importFromFindings (dotted place) n

mutual
/-- What a target binds. -/
def targetFindings : Node → List Finding
  | .leaf .identifier _ _ text _ => [.defined text]
  | .tree .patternList _ children => targetsFindings children
  | .tree .tuplePattern _ children => targetsFindings children
  | .tree .listPattern _ children => targetsFindings children
  | _ => []

/-- What consecutive targets bind. -/
def targetsFindings : List Node → List Finding
  | [] => []
  | n :: rest => targetFindings n ++ targetsFindings rest
end

/-- What an expression binds: the targets of an assignment. -/
def expressionFindings (value : Node) : List Finding :=
  if value.kind == .assignment then
    match value.child? .left with
    | some left => targetFindings left
    | none => []
  else []

/-- The decorated definitions below a node. -/
def nestedFindings (n : Node) : List Finding := (nestedIn n).map .decorated

/-- A class without decorators. -/
def classFindings (n : Node) : List Finding :=
  [.defined (definedName n), .classed (definedName n) (classOf n [])] ++ nestedFindings n

/-- A function without decorators. -/
def functionFindings (n : Node) : List Finding :=
  ((n.child? .name).map fun name => .defined name.text).toList ++ nestedFindings n

/-- A decorated definition. -/
def decoratedFindings (n : Node) : List Finding :=
  match decorated? n true, n.child? .definition with
  | some info, some definition =>
    [.decorated info, .defined info.name] ++
      (if info.kind == .ofClass then [.classed info.name (classOf definition info.decorators)]
        else []) ++
      nestedFindings definition
  | _, _ => []

/-- What a type alias binds. -/
def typeAliasFindings (n : Node) : List Finding :=
  ((n.child? .left).map fun left =>
    .defined (String.ofList ((dotted left).toList.takeWhile (· ≠ '[')))).toList

mutual
/-- What a statement at module scope binds and defines, in a module of a package. -/
def findings (package : String) : Node → List Finding
  | .tree kind role children =>
    match kind with
    | .importStatement => ((Node.tree kind role children).childrenIn .item).flatMap importFindings
    | .importFrom => fromFindings package (.tree kind role children)
    | .classDefinition => classFindings (.tree kind role children)
    | .functionDefinition => functionFindings (.tree kind role children)
    | .decorated => decoratedFindings (.tree kind role children)
    | .expressionStatement =>
      (Node.tree kind role children).namedChildren.flatMap expressionFindings
    | .typeAlias => typeAliasFindings (.tree kind role children)
    | .ifStatement | .tryStatement | .withStatement => branchFindings package children
    | _ => []
  | _ => []

/-- What consecutive statements bind and define. -/
def allFindings (package : String) : List Node → List Finding
  | [] => []
  | n :: rest => findings package n ++ allFindings package rest

/-- What stands in the blocks of a compound statement and of its clauses. -/
def branchFindings (package : String) : List Node → List Finding
  | [] => []
  | .tree kind _ children :: rest =>
    (if kind == .block then allFindings package children else blockFindings package children) ++
      branchFindings package rest
  | _ :: rest => branchFindings package rest

/-- What stands in the blocks among consecutive nodes. -/
def blockFindings (package : String) : List Node → List Finding
  | [] => []
  | .tree kind _ children :: rest =>
    (if kind == .block then allFindings package children else []) ++ blockFindings package rest
  | _ :: rest => blockFindings package rest
end

/-! ## 3. The walk -/

theorem addImport_eq (t : SymbolTable) (n : Node) :
    t.addImport n = t.noteAll ((n.childrenIn .item).flatMap importFindings) := by
  unfold addImport
  refine foldl_noteAll (fun t item => ?_) t _
  unfold importFindings
  split
  · cases item.child? .name <;> cases item.child? .localName <;> rfl
  · rfl

theorem addImportFrom_eq (t : SymbolTable) (base : String) (n : Node) :
    t.addImportFrom base n = t.noteAll (importFromFindings base n) := by
  unfold addImportFrom importFromFindings
  split
  · rfl
  · refine foldl_noteAll (fun t item => ?_) t _
    unfold itemFindings
    split
    · cases item.child? .name <;> cases item.child? .localName <;> rfl
    · rfl

theorem addFrom_eq (t : SymbolTable) (n : Node) :
    t.addFrom n = t.noteAll (fromFindings t.package n) := by
  unfold addFrom fromFindings
  cases n.child? .moduleName with
  | none => rfl
  | some place =>
    dsimp only
    by_cases hrelative : (place.kind == Kind.relativeImport) = true
    · rw [if_pos hrelative, if_pos hrelative]
      cases relativeBase t.package place with
      | none => rfl
      | some base => exact addImportFrom_eq ..
    · rw [if_neg hrelative, if_neg hrelative]
      exact addImportFrom_eq ..

theorem addTarget_eq (t : SymbolTable) (n : Node) :
    addTarget t n = t.noteAll (targetFindings n) := by
  refine (addTarget.mutual_induct (fun t n => addTarget t n = t.noteAll (targetFindings n))
    (fun t l => addTargets t l = t.noteAll (targetsFindings l)) ?_ ?_ ?_ ?_ ?_ ?_ ?_).1 t n
  · exact fun t _ _ text _ => rfl
  · exact fun t _ children ih => ih
  · exact fun t _ children ih => ih
  · exact fun t _ children ih => ih
  · intro n t h₁ h₂ h₃ h₄
    rw [addTarget.eq_5 t n h₁ h₂ h₃ h₄, targetFindings.eq_5 n h₁ h₂ h₃ h₄, noteAll_nil]
  · exact fun t => rfl
  · intro t n rest ih₁ ih₂
    rw [addTargets, targetsFindings, noteAll_append, ih₂, ih₁]

theorem addExpressions_eq (t : SymbolTable) (n : Node) :
    t.addExpressions n = t.noteAll (n.namedChildren.flatMap expressionFindings) := by
  unfold addExpressions
  refine foldl_noteAll (fun t value => ?_) t _
  unfold expressionFindings
  split
  · cases value.child? .left with
    | none => rfl
    | some left => exact addTarget_eq ..
  · rfl

theorem addNested_eq (t : SymbolTable) (n : Node) :
    t.addNested n = t.noteAll (nestedFindings n) := by
  unfold addNested nestedFindings noteAll
  rw [List.foldl_map]
  rfl

theorem addPlainClass_eq (t : SymbolTable) (n : Node) :
    t.addPlainClass n = t.noteAll (classFindings n) := by
  have hclasses : (t.define (definedName n)).classes = t.classes := by
    unfold define
    split <;> rfl
  unfold addPlainClass classFindings
  rw [noteAll_append, addNested_eq]
  unfold addClass noteAll
  rw [List.foldl_cons, List.foldl_cons, List.foldl_nil]
  unfold note
  dsimp only
  rw [hclasses]
  rfl

theorem addFunction_eq (t : SymbolTable) (n : Node) :
    t.addFunction n = t.noteAll (functionFindings n) := by
  unfold addFunction functionFindings
  rw [noteAll_append, addNested_eq]
  cases n.child? .name <;> rfl

theorem addDecoratedDefinition_eq (t : SymbolTable) (n : Node) :
    t.addDecoratedDefinition n = t.noteAll (decoratedFindings n) := by
  unfold addDecoratedDefinition decoratedFindings
  cases decorated? n true with
  | none => rfl
  | some info =>
    cases n.child? .definition with
    | none => rfl
    | some definition =>
      dsimp only
      rw [noteAll_append, noteAll_append, addNested_eq]
      split <;> rfl

theorem addTypeAlias_eq (t : SymbolTable) (n : Node) :
    t.addTypeAlias n = t.noteAll (typeAliasFindings n) := by
  unfold addTypeAlias typeAliasFindings
  cases n.child? .left <;> rfl

/-- The walk over statements notes what it finds there. -/
theorem addStatements_eq (t : SymbolTable) (l : List Node) :
    addStatements t l = t.noteAll (allFindings t.package l) := by
  refine (addStatement.mutual_induct
    (fun t n => addStatement t n = t.noteAll (findings t.package n))
    (fun t l => addBranches t l = t.noteAll (branchFindings t.package l))
    (fun t l => addBlocks t l = t.noteAll (blockFindings t.package l))
    (fun t l => addStatements t l = t.noteAll (allFindings t.package l))
    ?_ ?_ ?_ ?_ ?_ ?_ ?_ ?_ ?_ ?_ ?_ ?_ ?_ ?_ ?_ ?_ ?_ ?_ ?_ ?_).2.2.2 t l
  -- one statement
  · exact fun t _ _ => addImport_eq ..
  · exact fun t _ _ => addFrom_eq ..
  · exact fun t _ _ => addPlainClass_eq ..
  · exact fun t _ _ => addFunction_eq ..
  · exact fun t _ _ => addDecoratedDefinition_eq ..
  · exact fun t _ _ => addExpressions_eq ..
  · exact fun t _ _ => addTypeAlias_eq ..
  · exact fun t _ _ ih => ih
  · exact fun t _ _ ih => ih
  · exact fun t _ _ ih => ih
  · intro t role children kind h₁ h₂ h₃ h₄ h₅ h₆ h₇ h₈ h₉ h₁₀
    cases kind <;> first | rfl | contradiction
  · intro n t hn
    cases n with
    | leaf => rfl
    | absent => rfl
    | tree kind role children => exact absurd rfl (hn kind role children)
  -- the blocks of a compound statement
  · exact fun t => rfl
  · intro t kind role children rest ih₁ ih₂ ih₃
    rw [addBranches, branchFindings, noteAll_append, ih₃]
    by_cases hblock : (kind == Kind.block) = true
    · rw [if_pos hblock, if_pos hblock, ih₁, noteAll_package]
    · rw [if_neg hblock, if_neg hblock, ih₂, noteAll_package]
  · intro t n rest hn ih
    cases n with
    | leaf => exact ih
    | absent => exact ih
    | tree kind role children => exact absurd rfl (hn kind role children)
  · exact fun t => rfl
  · intro t kind role children rest ih₁ ih₂
    rw [addBlocks, blockFindings, noteAll_append, ih₂]
    by_cases hblock : (kind == Kind.block) = true
    · rw [if_pos hblock, if_pos hblock, ih₁, noteAll_package]
    · rw [if_neg hblock, if_neg hblock, noteAll_nil]
  · intro t n rest hn ih
    cases n with
    | leaf => exact ih
    | absent => exact ih
    | tree kind role children => exact absurd rfl (hn kind role children)
  -- consecutive statements
  · exact fun t => rfl
  · intro t n rest ih₁ ih₂
    rw [addStatements, allFindings, noteAll_append, ih₂, ih₁, noteAll_package]

/-! ## 4. Plain findings -/

/-- Whether a finding only binds a name. -/
def Finding.isPlain : Finding → Bool
  | .classed .. | .decorated _ => false
  | _ => true

/-- Findings that only bind names. -/
def Plain (l : List Finding) : Prop := ∀ f ∈ l, f.isPlain = true

theorem Plain.nil : Plain [] := nofun

theorem Plain.append {l l' : List Finding} (h : Plain l) (h' : Plain l') : Plain (l ++ l') :=
  fun f hf => (List.mem_append.mp hf).elim (h f) (h' f)

theorem Plain.flatMap {α : Type} {l : List α} {found : α → List Finding}
    (h : ∀ a ∈ l, Plain (found a)) : Plain (l.flatMap found) := fun f hf => by
  obtain ⟨a, ha, hf⟩ := List.mem_flatMap.mp hf
  exact h a ha f hf

theorem importFindings_plain (item : Node) : Plain (importFindings item) := by
  unfold importFindings
  split
  · split <;> simp [Plain, Finding.isPlain]
  · simp [Plain, Finding.isPlain]

theorem importFromFindings_plain (base : String) (n : Node) : Plain (importFromFindings base n) := by
  unfold importFromFindings
  split
  · simp [Plain, Finding.isPlain]
  · refine Plain.flatMap fun item _ => ?_
    unfold itemFindings
    split
    · split <;> simp [Plain, Finding.isPlain]
    · simp [Plain, Finding.isPlain]

theorem fromFindings_plain (package : String) (n : Node) : Plain (fromFindings package n) := by
  unfold fromFindings
  split
  · exact .nil
  · split
    · split
      · exact importFromFindings_plain _ n
      · exact .nil
    · exact importFromFindings_plain _ n

theorem targetFindings_plain (n : Node) : Plain (targetFindings n) := by
  refine (targetFindings.mutual_induct (fun n => Plain (targetFindings n))
    (fun l => Plain (targetsFindings l)) ?_ ?_ ?_ ?_ ?_ ?_ ?_).1 n
  · intro _ _ text _
    simp [Plain, targetFindings, Finding.isPlain]
  · exact fun _ children ih => ih
  · exact fun _ children ih => ih
  · exact fun _ children ih => ih
  · intro n h₁ h₂ h₃ h₄
    rw [targetFindings.eq_5 n h₁ h₂ h₃ h₄]
    exact .nil
  · exact .nil
  · exact fun n rest ih₁ ih₂ => ih₁.append ih₂

theorem expressionFindings_plain (value : Node) : Plain (expressionFindings value) := by
  unfold expressionFindings
  split
  · split
    · exact targetFindings_plain _
    · exact .nil
  · exact .nil

theorem typeAliasFindings_plain (n : Node) : Plain (typeAliasFindings n) := by
  unfold typeAliasFindings
  cases n.child? .left <;> simp [Plain, Finding.isPlain]

/-- A property of findings that holds of whatever statements below nodes of `D` are found to bind and
define. -/
structure WalkKeeps (D : Node → Prop) (P : List Finding → Prop) : Prop where
  below : ∀ n m, D n → m ∈ n.children → D m
  append : ∀ l l', P l → P l' → P (l ++ l')
  plain : ∀ l, Plain l → P l
  ofClass : ∀ n, D n → P (classFindings n)
  ofFunction : ∀ n, D n → P (functionFindings n)
  ofDecorated : ∀ n, D n → n.kind = .decorated → P (decoratedFindings n)

section WalkKeeps

variable {D : Node → Prop} {P : List Finding → Prop}

theorem WalkKeeps.nil (h : WalkKeeps D P) : P [] := h.plain [] .nil

mutual
theorem WalkKeeps.findings (h : WalkKeeps D P) (package : String) : ∀ n : Node, D n →
    P (findings package n)
  | .leaf .., _ => h.nil
  | .absent .., _ => h.nil
  | .tree kind role children, hn => by
    have hbranches := h.branchFindings package children fun m hm => h.below _ m hn hm
    cases kind with
    | importStatement => exact h.plain _ (.flatMap fun item _ => importFindings_plain item)
    | importFrom => exact h.plain _ (fromFindings_plain package _)
    | classDefinition => exact h.ofClass _ hn
    | functionDefinition => exact h.ofFunction _ hn
    | decorated => exact h.ofDecorated _ hn rfl
    | expressionStatement => exact h.plain _ (.flatMap fun value _ => expressionFindings_plain value)
    | typeAlias => exact h.plain _ (typeAliasFindings_plain _)
    | ifStatement | tryStatement | withStatement => exact hbranches
    | _ => exact h.nil

/-- What holds of whatever single statements bind and define holds of what all of them do. -/
theorem WalkKeeps.allFindings (h : WalkKeeps D P) (package : String) : ∀ l : List Node,
    (∀ n ∈ l, D n) → P (allFindings package l)
  | [], _ => h.nil
  | n :: rest, hl =>
    h.append _ _ (h.findings package n (hl n List.mem_cons_self))
      (h.allFindings package rest fun m hm => hl m (List.mem_cons_of_mem n hm))

theorem WalkKeeps.branchFindings (h : WalkKeeps D P) (package : String) : ∀ l : List Node,
    (∀ n ∈ l, D n) → P (branchFindings package l)
  | [], _ => h.nil
  | .leaf .. :: rest, hl =>
    h.branchFindings package rest fun m hm => hl m (List.mem_cons_of_mem _ hm)
  | .absent .. :: rest, hl =>
    h.branchFindings package rest fun m hm => hl m (List.mem_cons_of_mem _ hm)
  | .tree kind role children :: rest, hl => by
    have hbelow : ∀ m ∈ children, D m := fun m hm => h.below _ m (hl _ List.mem_cons_self) hm
    have hblock := h.allFindings package children hbelow
    have hclause := h.blockFindings package children hbelow
    have hrest := h.branchFindings package rest fun m hm => hl m (List.mem_cons_of_mem _ hm)
    rw [SymbolTable.branchFindings]
    refine h.append _ _ ?_ hrest
    split
    · exact hblock
    · exact hclause

theorem WalkKeeps.blockFindings (h : WalkKeeps D P) (package : String) : ∀ l : List Node,
    (∀ n ∈ l, D n) → P (blockFindings package l)
  | [], _ => h.nil
  | .leaf .. :: rest, hl =>
    h.blockFindings package rest fun m hm => hl m (List.mem_cons_of_mem _ hm)
  | .absent .. :: rest, hl =>
    h.blockFindings package rest fun m hm => hl m (List.mem_cons_of_mem _ hm)
  | .tree kind role children :: rest, hl => by
    have hbelow : ∀ m ∈ children, D m := fun m hm => h.below _ m (hl _ List.mem_cons_self) hm
    have hblock := h.allFindings package children hbelow
    have hrest := h.blockFindings package rest fun m hm => hl m (List.mem_cons_of_mem _ hm)
    rw [SymbolTable.blockFindings]
    refine h.append _ _ ?_ hrest
    split
    · exact hblock
    · exact h.nil
end

end WalkKeeps

/-- Whatever defines a class defines its name. -/
def Named (l : List Finding) : Prop := ∀ name info, .classed name info ∈ l → .defined name ∈ l

theorem Named.append {l l' : List Finding} (h : Named l) (h' : Named l') : Named (l ++ l') := by
  intro name info hmem
  rcases List.mem_append.mp hmem with hmem | hmem
  · exact List.mem_append_left _ (h name info hmem)
  · exact List.mem_append_right _ (h' name info hmem)

theorem Plain.named {l : List Finding} (h : Plain l) : Named l := by
  intro name info hmem
  cases h _ hmem

theorem nestedFindings_named (n : Node) : Named (nestedFindings n) := by
  intro name info hmem
  obtain ⟨_, -, h⟩ := List.mem_map.mp hmem
  cases h

/-- The name of a function, if it has one. -/
theorem functionName_plain (n : Node) :
    Plain ((n.child? .name).map fun name => Finding.defined name.text).toList := by
  cases n.child? .name <;> simp [Plain, Finding.isPlain]

theorem named_walkKeeps : WalkKeeps (fun _ => True) Named where
  below _ _ _ _ := trivial
  append _ _ := Named.append
  plain _ h := h.named
  ofClass n _ := by
    refine Named.append ?_ (nestedFindings_named n)
    simp [Named]
  ofFunction n _ := (functionName_plain n).named.append (nestedFindings_named n)
  ofDecorated n _ _ := by
    unfold decoratedFindings
    split
    · next info definition _ _ =>
      refine Named.append ?_ (nestedFindings_named definition)
      split <;> simp [Named]
    · exact Plain.nil.named

theorem allFindings_named (package : String) (l : List Node) : Named (allFindings package l) :=
  named_walkKeeps.allFindings package l fun _ _ => trivial

/-! ## 5. Tables of modules -/

/-- What an import finds the name to stand for. -/
def Finding.target? (name : String) : Finding → Option String
  | .imported k target => if k = name then some target else none
  | _ => none

/-- The class that is found under the name. -/
def Finding.class? (name : String) : Finding → Option ClassInfo
  | .classed k info => if k = name then some info else none
  | _ => none

/-- The module all of whose names are found to be imported. -/
def Finding.star? : Finding → Option String
  | .starred base => some base
  | _ => none

/-- What a finding tells of decorators. -/
def Finding.decorated? : Finding → Option DecoratedInfo
  | .decorated info => some info
  | _ => none

/-- The decorated definitions among findings. -/
def decoratedOf (l : List Finding) : List DecoratedInfo := l.filterMap Finding.decorated?

theorem mem_decoratedOf {l : List Finding} {info : DecoratedInfo} :
    info ∈ decoratedOf l ↔ .decorated info ∈ l := by
  unfold decoratedOf
  rw [List.mem_filterMap]
  constructor
  · rintro ⟨f, hf, hinfo⟩
    cases f <;> cases hinfo
    exact hf
  · exact fun h => ⟨_, h, rfl⟩

theorem decoratedOf_append (l l' : List Finding) :
    decoratedOf (l ++ l') = decoratedOf l ++ decoratedOf l' :=
  List.filterMap_append

section Reading

variable (t : SymbolTable) (l : List Finding) (name : String)

/-- Of several imports of a name, the last one counts. -/
theorem noteAll_imports : (t.noteAll l).imports.get? name =
    (l.reverse.findSome? (Finding.target? name)).or (t.imports.get? name) := by
  induction l generalizing t with
  | nil => rfl
  | cons f rest ih =>
    have hnote : (t.note f).imports.get? name =
        ([f].findSome? (Finding.target? name)).or (t.imports.get? name) := by
      cases f with
      | imported k target =>
        refine (Table.get?_insert ..).trans ?_
        by_cases hk : k = name <;> simp [Finding.target?, hk]
      | defined k =>
        unfold note define
        dsimp only
        split <;> rfl
      | _ => rfl
    rw [List.reverse_cons, List.findSome?_append, Option.or_assoc, ← hnote]
    exact ih (t.note f)

/-- Of several classes of a name, the last one counts. -/
theorem noteAll_classes : (t.noteAll l).classes.get? name =
    (l.reverse.findSome? (Finding.class? name)).or (t.classes.get? name) := by
  induction l generalizing t with
  | nil => rfl
  | cons f rest ih =>
    have hnote : (t.note f).classes.get? name =
        ([f].findSome? (Finding.class? name)).or (t.classes.get? name) := by
      cases f with
      | classed k info =>
        refine (Table.get?_insert ..).trans ?_
        by_cases hk : k = name <;> simp [Finding.class?, hk]
      | defined k =>
        unfold note define
        dsimp only
        split <;> rfl
      | _ => rfl
    rw [List.reverse_cons, List.findSome?_append, Option.or_assoc, ← hnote]
    exact ih (t.note f)

theorem noteAll_values {info : ClassInfo} (h : info ∈ (t.noteAll l).classes.values) :
    info ∈ t.classes.values ∨ ∃ name, .classed name info ∈ l := by
  induction l generalizing t with
  | nil => exact .inl h
  | cons f rest ih =>
    rcases ih (t.note f) h with h | ⟨name, h⟩
    · cases f with
      | classed name info' =>
        rcases Table.mem_values_insert h with rfl | h
        · exact .inr ⟨name, List.mem_cons_self⟩
        · exact .inl h
      | defined name =>
        refine .inl ?_
        unfold note define at h
        dsimp only at h
        split at h <;> exact h
      | _ => exact .inl h
    · exact .inr ⟨name, List.mem_cons_of_mem f h⟩

theorem noteAll_wildcards :
    (t.noteAll l).wildcards = t.wildcards ++ l.filterMap Finding.star? := by
  induction l generalizing t with
  | nil => exact (List.append_nil _).symm
  | cons f rest ih =>
    refine (ih (t.note f)).trans ?_
    cases f with
    | starred base => exact List.append_assoc ..
    | defined k =>
      unfold note define
      dsimp only
      split <;> rfl
    | _ => rfl

theorem noteAll_decorated : (t.noteAll l).decorated = t.decorated ++ decoratedOf l := by
  induction l generalizing t with
  | nil => rw [noteAll_nil, decoratedOf, List.filterMap_nil, List.append_nil]
  | cons f rest ih =>
    refine (ih (t.note f)).trans ?_
    cases f with
    | decorated info => exact List.append_assoc ..
    | defined name =>
      unfold note define
      dsimp only
      split <;> rfl
    | _ => rfl

theorem mem_noteAll_definitions : name ∈ (t.noteAll l).definitions ↔
    name ∈ t.definitions ∨ .defined name ∈ l := by
  induction l generalizing t with
  | nil => simp
  | cons f rest ih =>
    refine (ih (t.note f)).trans ?_
    rw [List.mem_cons, ← or_assoc]
    refine or_congr_left ?_
    cases f with
    | defined k =>
      unfold note define
      dsimp only
      split
      · next hmem =>
        have hk : k ∈ t.definitions := by simpa using hmem
        constructor
        · exact .inl
        · rintro (h | h)
          · exact h
          · cases h
            exact hk
      · simp
    | _ => simp [note, bind, addDecorated]

end Reading

/-- The table of a module before its statements are walked over. -/
def blank (parsed : Parsed) (module : String) (isPackage : Bool) : SymbolTable where
  module := module
  path := parsed.path
  digest := parsed.digest
  isPackage := isPackage
  sound := parsed.isSound
  imports := Table.empty
  wildcards := []
  definitions := []
  classes := Table.empty
  decorated := []

/-- What is found in a parsed module. -/
def moduleFindings (parsed : Parsed) (module : String) (isPackage : Bool) : List Finding :=
  allFindings (blank parsed module isPackage).package parsed.tree.children

section OfParsed

variable (parsed : Parsed) (module : String) (isPackage : Bool) (name : String)

theorem ofParsed_eq : ofParsed parsed module isPackage =
    (blank parsed module isPackage).noteAll (moduleFindings parsed module isPackage) :=
  addStatements_eq ..

theorem ofParsed_imports : (ofParsed parsed module isPackage).imports.get? name =
    (moduleFindings parsed module isPackage).reverse.findSome? (Finding.target? name) := by
  rw [ofParsed_eq, noteAll_imports]
  exact Option.or_none

theorem ofParsed_classes : (ofParsed parsed module isPackage).classes.get? name =
    (moduleFindings parsed module isPackage).reverse.findSome? (Finding.class? name) := by
  rw [ofParsed_eq, noteAll_classes]
  exact Option.or_none

theorem ofParsed_wildcards : (ofParsed parsed module isPackage).wildcards =
    (moduleFindings parsed module isPackage).filterMap Finding.star? := by
  rw [ofParsed_eq, noteAll_wildcards]
  rfl

theorem mem_ofParsed_definitions : name ∈ (ofParsed parsed module isPackage).definitions ↔
    .defined name ∈ moduleFindings parsed module isPackage := by
  rw [ofParsed_eq, mem_noteAll_definitions]
  exact or_iff_right nofun

theorem ofParsed_decoratedOf : (ofParsed parsed module isPackage).decorated =
    decoratedOf (moduleFindings parsed module isPackage) := by
  rw [ofParsed_eq, noteAll_decorated]
  rfl

theorem ofParsed_sameModule :
    SameModule (blank parsed module isPackage) (ofParsed parsed module isPackage) := by
  rw [ofParsed_eq]
  exact noteAll_sameModule ..

theorem ofParsed_values {info : ClassInfo}
    (h : info ∈ (ofParsed parsed module isPackage).classes.values) :
    ∃ name, .classed name info ∈ moduleFindings parsed module isPackage := by
  rw [ofParsed_eq] at h
  rcases noteAll_values _ _ h with h | h
  · cases h
  · exact h

/-- A class of a module is one of its definitions. -/
theorem ofParsed_defines (h : (ofParsed parsed module isPackage).classes.contains name = true) :
    name ∈ (ofParsed parsed module isPackage).definitions := by
  unfold Table.contains at h
  obtain ⟨info, hinfo⟩ := Option.isSome_iff_exists.mp h
  rw [ofParsed_classes] at hinfo
  obtain ⟨f, hf, hclass⟩ := List.exists_of_findSome?_eq_some hinfo
  rw [mem_ofParsed_definitions]
  unfold Finding.class? at hclass
  split at hclass
  · next k info' =>
    split at hclass
    · next hk => exact hk ▸ allFindings_named _ _ k info' (List.mem_reverse.mp hf)
    · cases hclass
  · cases hclass

end OfParsed

end SymbolTable

end FluentBuilders
