import FluentBuilders.Proofs.BuilderText.Lines
import FluentBuilders.Proofs.BuilderText.Modules
import FluentBuilders.Proofs.BuilderText.Types
import FluentBuilders.Proofs.Enumeration
import FluentBuilders.Proofs.Registry.Binding

/-!
The module of a builder binds what it is generated for.

1. Trees without errors, and the dotted names in them.
2. What the walk of the module finds.
3. Generated builders.
-/

namespace FluentBuilders

namespace Grammar

open Text SymbolTable

/-! ## 1. Trees without errors -/

mutual
/-- Without errors, there are no faults. -/
theorem Node.faults_of_hasError : ∀ n : Node, n.hasError = false → n.faults = []
  | .leaf kind .., h => by
    rw [Node.hasError] at h
    rw [Node.faults, h]
    rfl
  | .absent .., h => by cases h
  | .tree kind _ children, h => by
    rw [Node.hasError, Bool.or_eq_false_iff] at h
    rw [Node.faults, h.1, Node.faults_of_anyHasError children h.2]
    rfl

theorem Node.faults_of_anyHasError : ∀ l : List Node, Node.anyHasError l = false →
    Node.faultsAll l = []
  | [], _ => rfl
  | n :: rest, h => by
    rw [Node.anyHasError, Bool.or_eq_false_iff] at h
    rw [Node.faultsAll, Node.faults_of_hasError n h.1, Node.faults_of_anyHasError rest h.2]
    rfl
end

variable {texts : List String} {f : Fragment} {first : String} {names : List String} {v : String}

theorem Spells.smooth (h : Spells texts f) : areSmooth f = true := by
  induction h with
  | nil => rfl
  | cons hn _ ih =>
    obtain ⟨kind, gap, position, rfl, hkind, hgap⟩ := hn
    rw [areSmooth, isSmooth, hgap, ih]
    rw [show (Node.leaf kind .none gap _ position).isExtra = false from Kind.isExtra_of_isProper hkind]
    rfl

theorem Spells.tokens (h : Spells texts f) : (Node.leavesAll f).map (·.text) = texts := by
  induction h with
  | nil => rfl
  | cons hn _ ih =>
    obtain ⟨kind, gap, position, rfl, -, -⟩ := hn
    rw [Node.leavesAll, Node.leaves, List.map_append, ih]
    rfl

/-- A dotted name of words. -/
theorem dotted_spells (names : List String) {role : Role} {l : List Node}
    (h : Spells (first :: names.flatMap fun v => [".", v]) l)
    (hnames : ∀ v ∈ first :: names, isIdentifier v = true) :
    dotted (.tree .dottedName role l) = joinDotted (first :: names) := by
  refine dotted_names h.smooth (fun v hv => ⟨?_, isNameChar_of_isIdentifier (hnames v hv)⟩) ?_
  · rintro rfl
    cases hnames _ hv
  · rw [h.tokens, intersperse_names]

end Grammar

open Text Grammar

/-! ## 2. What the module binds -/

namespace SymbolTable

variable {package first name v : String} {names : List String} {f : Fragment}

theorem allFindings_append (package : String) (l l' : List Node) :
    allFindings package (l ++ l') = allFindings package l ++ allFindings package l' := by
  induction l with
  | nil => rfl
  | cons n rest ih => rw [List.cons_append, allFindings, allFindings, ih, List.append_assoc]

/-- The import of one name from a module. -/
theorem allFindings_import (h : IsImport first names (IsItem name) f)
    (hnames : ∀ v ∈ first :: names, isIdentifier v = true) (hname : isIdentifier name = true) :
    allFindings package f =
      [.imported name (qualify (joinDotted (first :: names)) name)] := by
  obtain ⟨l, before, place, between, items, rfl, rfl, ⟨gap, position, -, rfl⟩, ⟨l₁, rfl, hplace⟩,
    ⟨gap', position', -, rfl⟩, ⟨l₂, rfl, hitem⟩, -⟩ := h
  have hbase : dotted (.tree .dottedName .moduleName l₁) = joinDotted (first :: names) :=
    dotted_spells names hplace hnames
  have hlocal : dotted (.tree .dottedName .item l₂) = name :=
    (dotted_spells [] hitem (List.forall_mem_singleton.mpr hname)).trans (by simp [joinDotted])
  rw [← hbase]
  conv_rhs => rw [← hlocal]
  rfl

/-- A class without bases and decorators. -/
theorem allFindings_class (package : String) (h : IsClass v f) :
    ∃ (info : ClassInfo) (nested : List DecoratedInfo), info.name = v ∧ info.hasError = false ∧
      allFindings package f = [.defined v, .classed v info] ++ nested.map .decorated := by
  have hclean := h.clean
  obtain ⟨keyword, name, body, rfl, ⟨gap, position, -, rfl⟩, ⟨gap', position', -, rfl⟩, hbody⟩ := h
  obtain ⟨n, hn⟩ : ∃ n, n = Node.tree .classDefinition .none
      ([.leaf .keyword .none gap (String.ofList "class".toList) position] ++
        Fragment.withRole .name [.leaf .identifier .none gap' (String.ofList v.toList) position'] ++
          body) := ⟨_, rfl⟩
  have hname : definedName n = v := by
    subst hn
    exact String.ofList_toList
  rw [← hn] at hclean ⊢
  refine ⟨classOf n [], nestedIn n, hname, (hclean n List.mem_cons_self).2, ?_⟩
  rw [allFindings, allFindings, List.append_nil]
  have hclass : findings package n = classFindings n := by
    subst hn
    rfl
  rw [hclass, classFindings, hname]
  rfl

/-- What the module of a builder binds: the builder, and the class by the last import. -/
theorem ofParsed_builder (parsed : Parsed) (module : String) (isPackage : Bool)
    (htree : parsed.tree = .tree .module .none f) (hf : IsBuilder first names name f)
    (hnames : ∀ v ∈ first :: names, isIdentifier v = true) (hname : isIdentifier name = true) :
    (ofParsed parsed module isPackage).sound = true ∧
      (∃ info, (ofParsed parsed module isPackage).classes.get? (builderTypeName name) = some info ∧
        info.name = builderTypeName name ∧ info.hasError = false) ∧
      (ofParsed parsed module isPackage).imports.get? name =
        some (qualify (joinDotted (first :: names)) name) := by
  obtain ⟨before, origin, builder, rfl, hbefore, horigin, hbuilder⟩ := hf
  obtain ⟨info, nested, hinfo, herror, hclass⟩ :=
    allFindings_class (blank parsed module isPackage).package hbuilder
  have hfindings : moduleFindings parsed module isPackage =
      allFindings (blank parsed module isPackage).package before ++
        [.imported name (qualify (joinDotted (first :: names)) name)] ++
          ([.defined (builderTypeName name), .classed (builderTypeName name) info] ++
            nested.map .decorated) := by
    rw [moduleFindings, htree, Node.children, allFindings_append, allFindings_append,
      allFindings_import horigin hnames hname, hclass]
  have hnested : ∀ {α : Type} (g : Finding → Option α), (∀ d, g (.decorated d) = none) →
      (nested.map Finding.decorated).reverse.findSome? g = none := by
    intro α g hg
    rw [List.findSome?_eq_none_iff]
    intro finding hfinding
    obtain ⟨d, -, rfl⟩ := List.mem_map.mp (List.mem_reverse.mp hfinding)
    exact hg d
  have hwhole : Unbroken (before ++ origin ++ builder) :=
    (hbefore.append horigin.clean.anyHasError).append hbuilder.clean.anyHasError
  refine ⟨?_, ⟨info, ?_, hinfo, herror⟩, ?_⟩
  · rw [(ofParsed_sameModule parsed module isPackage).sound]
    have hfaults : parsed.tree.faults = [] := Node.faults_of_hasError _ (by
      rw [htree, Node.hasError]
      exact hwhole)
    exact List.isEmpty_iff.mpr hfaults
  · rw [ofParsed_classes, hfindings, List.reverse_append, List.findSome?_append,
      List.reverse_append,
      List.findSome?_append, hnested _ fun _ => rfl]
    simp [Finding.class?]
  · rw [ofParsed_imports, hfindings, List.reverse_append, List.findSome?_append,
      List.reverse_append,
      List.findSome?_append, hnested _ fun _ => rfl]
    simp [Finding.target?, List.findSome?_cons]

end SymbolTable

/-! ## 3. Generated builders -/

variable {r : Resolver} {d : Declaration} {a : Artifact} {properties : List Property}

theorem generate_typeName (h : generate r d = .ok a) : a.typeName = builderTypeName d.name := by
  unfold generate at h
  split at h
  · cases h
  split at h
  · cases h
  unfold Artifact.record at h
  split at h
  · cases h
  split at h
  · cases h
  · cases h
    rfl

/-- Exposed properties are not named like keywords. -/
theorem not_keyword_of_exposed (h : d.exposed r = .ok properties) :
    ∀ p ∈ properties, isKeyword p.name = false := by
  intro p hp
  have hwords : Exposable properties := by
    unfold Declaration.exposed at h
    split at h
    · cases h
    split at h
    · cases h
    next henumerate =>
      cases h
      obtain ⟨rfl, hall⟩ := enumerate_eq_ok.mp henumerate
      exact hall
  have hascii : ∀ s ∈ keywords, (s.toList.all fun c => c.toNat < 128) = true := by decide
  rw [Bool.eq_false_iff]
  intro hkeyword
  have hmem : p.name ∈ keywords := by simpa [isKeyword] using hkeyword
  have hword := (hwords.words p hp).2
  rw [Property.key, normalize_ascii (hascii _ hmem), hkeyword] at hword
  cases hword

/-- A registry that takes in a module finds a class of it under the module's name. -/
theorem Registry.found_in_added {g : Registry} {content : Bytes} {path module v : String}
    {isPackage : Bool} {info : ClassInfo} (hnew : module ∉ g.names)
    (hclass : (SymbolTable.ofParsed (.ofBytes content path) module isPackage).classes.get? v = some info)
    (hdot : '.' ∉ v.toList) :
    ∃ g', g.addBytes content module path isPackage = .ok g' ∧
      g'.findClass (module ++ "." ++ v) = some ⟨module, v⟩ ∧
        g'.nameExists (module ++ "." ++ v) = true := by
  obtain ⟨g', hadded⟩ := addBytes_ok hnew content path isPackage
  have hknown : g'.module? module = some (.ofParsed (.ofBytes content path) module isPackage) := by
    obtain ⟨-, rfl⟩ := addBytes_eq hadded
    exact (Table.get?_insert ..).trans (if_pos rfl)
  have hdefined : (SymbolTable.ofParsed (.ofBytes content path) module isPackage).definitions.contains
      v = true := by
    refine List.contains_iff_mem.mpr (SymbolTable.ofParsed_defines _ _ _ _ ?_)
    rw [Table.contains, hclass]
    rfl
  refine ⟨g', hadded, (findClassWithin_own hknown hclass (splitLast_append hdot)).1, ?_⟩
  rw [nameExists, existsWithin_step hdot hknown, hdefined, Bool.or_true, Bool.true_or]

/-- If the annotations of a class can be read again, the builder that is generated for it is read
without errors: its module binds the builder and the class that it builds, and a registry that takes
it in finds the builder under its module. -/
theorem Registry.generated_bound {g : Registry} (h : generate g.resolver d = .ok a)
    (hname : isKeyword d.name = false) (hmodule : rootOf d.module ≠ "__future__")
    (htypes : ∀ properties, d.exposed g.resolver = .ok properties →
      ∀ p ∈ properties, IsAnnotation p.type) (path : String) (isPackage : Bool) :
    let t := SymbolTable.ofParsed (.ofText a.text path) a.module isPackage
    t.sound = true ∧
      (∃ info, t.classes.get? a.typeName = some info ∧ info.name = a.typeName ∧
        info.hasError = false) ∧
      t.imports.get? d.name = some (d.module ++ "." ++ d.name) ∧
      ∀ g : Registry, a.module ∉ g.names → ∃ g', g.addText a.text a.module path isPackage = .ok g' ∧
        g'.findClass (a.module ++ "." ++ a.typeName) = some ⟨a.module, a.typeName⟩ ∧
        g'.nameExists (a.module ++ "." ++ a.typeName) = true := by
  obtain ⟨properties, hexposed, hfault, htext⟩ := generate_blueprint h
  have hb : (d.blueprint properties).Usable := Blueprint.usable hfault
  obtain ⟨first, names, hparts⟩ := List.exists_cons_of_ne_nil (dottedParts_ne_nil d.module)
  have hroot : rootOf d.module = first := by
    unfold rootOf splitHead
    rw [hparts]
  have hnames : ∀ v ∈ first :: names, isIdentifier v = true := fun v hv =>
    List.all_eq_true.mp hb.module v (show v ∈ dottedParts d.module by rwa [hparts])
  have hread : ∃ f, parseModule (glyphs (encode (d.blueprint properties).text)) =
      .tree .module .none f ∧ IsBuilder first names d.name f :=
    Blueprint.text_read hb hparts (hroot ▸ hmodule) hname (not_keyword_of_exposed hexposed)
      (htypes properties hexposed)
  obtain ⟨f, hread, hf⟩ := hread
  rw [← htext] at hread
  have hqualified : qualify (joinDotted (first :: names)) d.name = d.module ++ "." ++ d.name := by
    have hne : d.module.isEmpty = false := by
      rw [Bool.eq_false_iff]
      intro hempty
      have hdotted : isDotted d.module = true := hb.module
      rw [String.isEmpty_iff.mp hempty] at hdotted
      cases hdotted
    rw [← hparts, joinDotted_dottedParts, qualify, hne]
    rfl
  rw [← hqualified, generate_typeName h]
  dsimp only
  obtain ⟨hsound, hclass, himport⟩ := SymbolTable.ofParsed_builder (.ofText a.text path)
    a.module isPackage hread hf hnames hb.name
  refine ⟨hsound, hclass, himport, fun g hnew => ?_⟩
  obtain ⟨info, hclass, -, -⟩ := hclass
  refine found_in_added hnew hclass fun hmem => ?_
  exact absurd (isNameChar_of_isIdentifier (builder_plain hb.name).1 _ hmem) (by decide)

/-- A class with a field for another one of it. -/
def linked : Registry :=
  let source := "from builder_gen.marker import builder\n@builder\nclass A:\n x: A | None\n"
  ⟨⟨[("a", .ofParsed (.ofText source "a.py") "a" false)]⟩, .empty⟩

theorem Registry.generated_bound_linked :
    ∃ d ∈ (linked.report Profile.standard.marker).1, ∃ a, generate linked.resolver d = .ok a ∧
      isKeyword d.name = false ∧ rootOf d.module ≠ "__future__" ∧
      (∀ properties, d.exposed linked.resolver = .ok properties →
        ∀ p ∈ properties, IsAnnotation p.type) ∧
      (SymbolTable.ofParsed (.ofText a.text "a_builder.py") a.module false).sound = true := by
  have hmarked : ∃ d ∈ (linked.report Profile.standard.marker).1,
      (d.name, d.package, d.module) = ("A", "", "a") ∧
        (d.exposed linked.resolver).toOption = some [⟨"x", "A | None"⟩] := by decide +kernel
  have htype : IsAnnotation "A | None" :=
    UnionType.isAnnotation (.either (.named ⟨"A", [], rfl, rfl, List.forall_mem_nil _⟩) (.plain .none))
  obtain ⟨d, hd, hnames, hexposed⟩ := hmarked
  simp only [Prod.mk.injEq] at hnames
  obtain ⟨hname, hpackage, hmodule⟩ := hnames
  have hexposed : d.exposed linked.resolver = .ok [⟨"x", "A | None"⟩] := by
    cases hresult : d.exposed linked.resolver with
    | error e =>
      rw [hresult] at hexposed
      cases hexposed
    | ok properties =>
      rw [hresult] at hexposed
      exact congrArg Except.ok (Option.some.inj hexposed)
  have hfault : (d.blueprint [⟨"x", "A | None"⟩]).fault? = none := by
    unfold Declaration.blueprint
    rw [hname, hpackage, hmodule]
    decide +kernel
  obtain ⟨a, ha⟩ := generate_ok hexposed hfault rfl
  have hkeyword : isKeyword d.name = false := by
    rw [hname]
    rfl
  have hroot : rootOf d.module ≠ "__future__" := by
    rw [hmodule]
    decide
  have htypes : ∀ properties, d.exposed linked.resolver = .ok properties →
      ∀ p ∈ properties, IsAnnotation p.type := by
    intro properties hproperties
    rw [hexposed] at hproperties
    cases hproperties
    exact List.forall_mem_singleton.mpr htype
  exact ⟨d, hd, a, ha, hkeyword, hroot, htypes,
    (Registry.generated_bound ha hkeyword hroot htypes "a_builder.py" false).1⟩

end FluentBuilders
