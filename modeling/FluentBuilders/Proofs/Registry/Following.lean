import FluentBuilders.Proofs.Registry.Order
import FluentBuilders.Proofs.Registry.Properties
import FluentBuilders.Proofs.Registry.Widening
import FluentBuilders.Proofs.SymbolTable.Findings

/-!
Bases that are followed from module to module.

1. `Holds`: the sources of a registry.
2. Names that are cut after a module: a class that is found is there.
3. `Denotes`: the class that a qualified name leads to, import by import.
4. `Denotes.inherited`: a base that leads to a class by names only passes its fields on. One that
   goes through a module under another name is taken for a stranger (`stranger_ready`).
-/

namespace FluentBuilders

open Text Grammar Relation

namespace Registry

variable {g g' : Registry} {sources : List Source} {t : SymbolTable} {key : ClassKey} {q : String}

/-! ## 1. Sources -/

/-- The registry has the modules of the sources, in their order. -/
def Holds (g : Registry) (sources : List Source) : Prop :=
  g.modules.entries = sources.map Source.entry

theorem holds_empty : empty.Holds [] := rfl

theorem Holds.add (h : g.Holds sources) {s : Source}
    (hadd : g.addBytes s.content s.module s.path s.isPackage = .ok g') :
    g'.Holds (sources ++ [s]) := by
  unfold Holds at h ⊢
  rw [addBytes_entries hadd, h, List.map_append]
  rfl

theorem Holds.report (h : g.Holds sources) (marker : String) :
    (g.report marker).2.Holds sources := h

/-- A name stands for the first source of that name. -/
theorem Holds.module?_eq (h : g.Holds sources) (m : String) :
    g.module? m = (sources.find? (·.module == m)).map (·.entry.2) := by
  unfold module? Table.get?
  rw [h]
  clear h
  induction sources with
  | nil => rfl
  | cons s rest ih =>
    by_cases hm : s.module = m
    · simp [Table.find, Source.entry, hm]
    · rw [List.map_cons, List.find?_cons_of_neg (by simpa using hm), ← ih]
      exact if_neg hm

theorem Holds.ofParsed (h : g.Holds sources) {m : String} (ht : g.module? m = some t) :
    ∃ parsed isPackage, t = .ofParsed parsed m isPackage := by
  rw [h.module?_eq] at ht
  obtain ⟨s, hs, rfl⟩ := Option.map_eq_some_iff.mp ht
  obtain rfl : s.module = m := by simpa using List.find?_some hs
  exact ⟨_, _, rfl⟩

/-- A class of a known module is one of its definitions. -/
theorem Holds.defines (h : g.Holds sources) {m name : String} (ht : g.module? m = some t)
    (hname : t.classes.contains name = true) : t.definitions.contains name = true := by
  obtain ⟨parsed, isPackage, rfl⟩ := h.ofParsed ht
  exact List.contains_iff_mem.mpr (SymbolTable.ofParsed_defines _ _ _ _ hname)

/-! ## 2. Names cut after a module -/

theorem memberFrom_last {before parts : List String} {head : String} (hne : before ++ parts ≠ [])
    (ht : g.module? (joinDotted (before ++ parts)) = some t) :
    g.memberFrom before (parts ++ [head]) = some ⟨joinDotted (before ++ parts), t, head, []⟩ := by
  induction parts generalizing before with
  | nil =>
    rw [List.append_nil] at hne ht ⊢
    have hbefore : before.isEmpty = false := by simpa using hne
    simp [memberFrom, hbefore, ht]
  | cons part parts ih =>
    rw [List.append_cons] at hne ht
    rw [List.cons_append, memberFrom, ih hne ht, ← List.append_cons]

/-- A name of a known module is cut right before its last part. -/
theorem member?_last {m head : String} (hhead : '.' ∉ head.toList) (ht : g.module? m = some t) :
    g.member? (m ++ "." ++ head) = some ⟨m, t, head, []⟩ := by
  have hm := joinDotted_dottedParts m
  unfold member?
  rw [dottedParts_append, dottedParts_plain hhead,
    memberFrom_last (dottedParts_ne_nil m) (by rw [List.nil_append, hm]; exact ht), List.nil_append,
    hm]

theorem memberFrom_table {before parts : List String} {m : Member}
    (h : g.memberFrom before parts = some m) : g.module? m.module = some m.table := by
  induction parts generalizing before with
  | nil => cases h
  | cons head rest ih =>
    unfold memberFrom at h
    split at h
    · next hfound =>
      cases h
      exact ih hfound
    · split at h
      · cases h
      · obtain ⟨t, ht, rfl⟩ := Option.map_eq_some_iff.mp h
        exact ht

/-- Where a cut leaves one part over, it is the cut at the last dot. -/
theorem splitLast_member {m : Member} (h : g.member? q = some m) (hrest : m.rest = []) :
    splitLast q = (m.module, m.head) := by
  obtain ⟨mid, hparts, -, hmodule⟩ := memberFrom_spec h
  rw [List.nil_append] at hmodule
  unfold splitLast
  dsimp only
  rw [hparts, hrest, List.dropLast_concat, List.getLast?_concat, ← hmodule]
  rfl

/-- The class of a name in a known module: its own, or what its import leads to, or else what the first
wildcard import leads to that leads to any. -/
theorem findClassWithin_step {module name : String} (hq : splitLast q = (module, name))
    (ht : g.module? module = some t) (hops : Nat) : g.findClassWithin (hops + 1) q =
      if t.classes.contains name then some ⟨module, name⟩
      else (t.imports.get? name).elim
        (t.wildcards.findSome? fun star => g.findClassWithin hops (star ++ "." ++ name))
        (g.findClassWithin hops) := by
  rw [findClassWithin, hq]
  dsimp only
  rw [ht]
  dsimp only
  cases t.imports.get? name <;> rfl

/-- The qualified name that is looked for in a module in place of one that was cut after another
module. -/
def Member.behind (m : Member) (star : String) : String :=
  star ++ "." ++ joinDotted (m.head :: m.rest)

/-- The module has the part right behind the cut, as a definition or as a module below it. -/
def Member.isBound (g : Registry) (m : Member) : Bool :=
  m.table.definitions.contains m.head || g.modules.contains (m.module ++ "." ++ m.head)

/-- A name that is cut after a known module is there as a module, or the module has the part behind
the cut, or else what that is imported from. -/
theorem existsWithin_cut (hm : g.member? q = some m) (hops : Nat) :
    g.existsWithin (hops + 1) q =
      (g.modules.contains q || m.isBound g ||
        (m.table.imports.get? m.head).elim
          (m.table.wildcards.any fun star => !g.isLocal star || g.existsWithin hops (m.behind star))
          fun target =>
            !g.isLocal target || g.existsWithin hops (extend target (joinDotted m.rest))) := by
  rw [Registry.existsWithin, hm]
  dsimp only
  unfold Member.isBound
  cases g.modules.contains q with
  | true => rfl
  | false =>
    cases m.table.definitions.contains m.head || g.modules.contains (m.module ++ "." ++ m.head) with
    | true => rfl
    | false => cases m.table.imports.get? m.head <;> rfl

/-- A name of a known module is there if it is a module or a definition, or if what it is imported from
is not known or has it. -/
theorem existsWithin_step {module name : String} (hname : '.' ∉ name.toList)
    (ht : g.module? module = some t) (hops : Nat) :
    g.existsWithin (hops + 1) (module ++ "." ++ name) =
      (g.modules.contains (module ++ "." ++ name) || t.definitions.contains name ||
        (t.imports.get? name).elim
          (t.wildcards.any fun star =>
            !g.isLocal star || g.existsWithin hops (star ++ "." ++ name))
          fun target => !g.isLocal target || g.existsWithin hops target) := by
  rw [existsWithin_cut (member?_last hname ht)]
  unfold Member.isBound
  dsimp only
  cases g.modules.contains (module ++ "." ++ name) with
  | true => rfl
  | false =>
    rw [Bool.or_false]
    rfl

/-- No class is found where a cut leaves more parts over: behind the last dot nothing is known. -/
theorem findClassWithin_none {m : Member} (h : g.member? q = some m) (hrest : m.rest ≠ [])
    (hops : Nat) : g.findClassWithin hops q = none := by
  obtain ⟨mid, hparts, hne, -⟩ := memberFrom_spec h
  rw [List.nil_append] at hne
  have hinit : [] ++ (dottedParts q).dropLast ≠ [] := by
    rw [hparts, List.dropLast_append_of_ne_nil (List.cons_ne_nil _ _)]
    simp [hne]
  cases hops with
  | zero => rfl
  | succ hops =>
    cases ht : g.module? (splitLast q).1 with
    | none =>
      rw [findClassWithin]
      dsimp only
      rw [ht]
    | some t =>
      have hparts := List.dropLast_concat_getLast (dottedParts_ne_nil q)
      have hlast : g.member? q = some _ :=
        (congrArg (g.memberFrom []) hparts.symm).trans (memberFrom_last hinit ht)
      rw [h] at hlast
      cases hlast
      exact absurd rfl hrest

/-- A class that is found is there, as long as every module has a name. -/
theorem Holds.existsWithin (hg : g.Holds sources) (hnamed : "" ∉ g.names) {hops : Nat}
    (h : g.findClassWithin hops q = some key) : g.existsWithin hops q = true := by
  induction hops generalizing q with
  | zero => cases h
  | succ hops ih =>
    cases hq : splitLast q with
    | mk base name =>
    cases ht : g.module? base with
    | none =>
      rw [findClassWithin, hq] at h
      dsimp only at h
      rw [ht] at h
      cases h
    | some t =>
    have hbase : base ≠ "" := by
      rintro rfl
      exact hnamed ((g.modules.contains_iff _).mp (Option.isSome_of_eq_some ht))
    rw [findClassWithin_step hq ht] at h
    obtain ⟨rfl, hname⟩ := eq_of_splitLast hq hbase
    rw [existsWithin_step hname ht, Bool.or_eq_true, Bool.or_eq_true]
    split at h
    · next hclass => exact .inl (.inr (hg.defines ht hclass))
    refine .inr ?_
    cases himport : t.imports.get? name with
    | some target =>
      rw [himport] at h
      rw [Option.elim_some, Bool.or_eq_true]
      exact .inr (ih h)
    | none =>
      rw [himport] at h
      obtain ⟨star, hstar, hfound⟩ := List.exists_of_findSome?_eq_some h
      rw [Option.elim_none]
      refine List.any_eq_true.mpr ⟨star, hstar, ?_⟩
      rw [Bool.or_eq_true]
      exact .inr (ih hfound)

/-- What is not defined in a known module is no class there. -/
theorem Holds.not_class (hg : g.Holds sources) {module name : String}
    (ht : g.module? module = some t) (hdefined : t.definitions.contains name = false) :
    ¬ t.classes.contains name = true := by
  intro hclass
  rw [hg.defines ht hclass] at hdefined
  cases hdefined

/-! ## 3. Names that lead to a class -/

/-- A qualified name leads to a class through at most `hops - 1` imports: it is cut after a module,
and the part right behind it is a class of that module, or is bound there by an import, whose target
takes its place. Of wildcard imports the first one counts that has the name. A cut at which an import
is followed satisfies `through`. -/
inductive Denotes (g : Registry) (through : Member → Prop) : Nat → String → ClassKey → Prop
  | own {hops : Nat} {q : String} {m : Member} :
    g.member? q = some m → m.rest = [] → m.table.classes.contains m.head = true →
    Denotes g through (hops + 1) q ⟨m.module, m.head⟩
  | imported {hops : Nat} {q target : String} {m : Member} {key : ClassKey} :
    g.member? q = some m → through m → m.table.definitions.contains m.head = false →
    m.table.imports.get? m.head = some target →
    Denotes g through hops (extend target (joinDotted m.rest)) key →
    Denotes g through (hops + 1) q key
  | starred {hops : Nat} {q star : String} {before after : List String} {m : Member}
      {key : ClassKey} :
    g.member? q = some m → through m → m.table.definitions.contains m.head = false →
    m.table.imports.get? m.head = none → m.table.wildcards = before ++ star :: after →
    (∀ s ∈ before, g.isLocal s = true ∧
      g.existsWithin hops (s ++ "." ++ joinDotted (m.head :: m.rest)) = false) →
    Denotes g through hops (star ++ "." ++ joinDotted (m.head :: m.rest)) key →
    Denotes g through (hops + 1) q key

/-- The cut leaves one part over. -/
def Member.IsLast (m : Member) : Prop := m.rest = []

/-- A class that a name leads to is found, if only its last part is followed. -/
theorem Denotes.findClassWithin (hg : g.Holds sources) (hnamed : "" ∉ g.names) {hops : Nat}
    (h : g.Denotes Member.IsLast hops q key) : g.findClassWithin hops q = some key := by
  induction h with
  | @own hops q m hm hrest hclass =>
    rw [findClassWithin_step (splitLast_member hm hrest) (memberFrom_table hm)]
    exact if_pos hclass
  | @imported hops q target m key hm hlast hdefined himport _ ih =>
    have ht := memberFrom_table hm
    rw [findClassWithin_step (splitLast_member hm hlast) ht, if_neg (hg.not_class ht hdefined),
      himport]
    rw [show m.rest = [] from hlast] at ih
    exact ih
  | @starred hops q star before after m key hm hlast hdefined himport hstars hbefore _ ih =>
    have ht := memberFrom_table hm
    have hhead : joinDotted (m.head :: m.rest) = m.head := by
      rw [show m.rest = [] from hlast]
      rfl
    rw [hhead] at ih hbefore
    have hnone :
        before.findSome? (fun s => g.findClassWithin hops (s ++ "." ++ m.head)) = none := by
      refine List.findSome?_eq_none_iff.mpr fun s hs => ?_
      refine Option.eq_none_iff_forall_ne_some.mpr fun k hk => ?_
      have hexists := hg.existsWithin hnamed hk
      rw [(hbefore s hs).2] at hexists
      cases hexists
    rw [findClassWithin_step (splitLast_member hm hlast) ht, if_neg (hg.not_class ht hdefined),
      himport, hstars, Option.elim_none, List.findSome?_append, hnone, Option.none_or,
      List.findSome?_cons, ih]

/-! ## 4. Inherited fields -/

/-- No name of a field below a grounded class is lost. -/
theorem Grounded.mem_names {k : ClassKey} (h : g.Grounded key)
    (hknown : (g.classAt? key).isSome = true) (hk : ReflTransGen g.Extends key k) {p : Property}
    (hp : p ∈ g.fieldsOf k) : p.name ∈ (g.collect key).map (·.name) := by
  obtain ⟨walked, hwalks⟩ := (Trail.start hknown).walks h
  have hmem := hwalks.mem_iff.mpr ⟨k, hk, hp⟩
  cases hwalks with
  | enter below hbelow =>
    rw [h.collect hknown hbelow, List.map_append, List.mem_append]
    refine mem_names_firstOfName.mpr ?_
    rw [← List.mem_append, ← List.map_append]
    exact List.mem_map_of_mem hmem

/-- A declaration that is ready has the fields of the classes that its bases lead to. -/
theorem properties_inherit {d : Declaration} {info : ClassInfo} {base : String}
    (hready : g.isReady d = true) (hclass : g.classAt? (keyOf d) = some (t, info))
    (hbase : base ∈ info.bases) (hbound : g.bound t base = some q)
    (hfind : g.findClass q = some key) :
    ∃ properties, g.properties d = .ok properties ∧
      ∀ p ∈ g.fieldsOf key, p.name ∈ properties.map (·.name) := by
  obtain ⟨hknown, hgrounded⟩ := isReady_iff.mp hready
  have hextends : g.Extends (keyOf d) key := by
    refine (extends_iff hclass).mpr ⟨base, hbase, ?_⟩
    rw [← (hgrounded _ .refl).1.bound hclass hbase, hbound]
    exact hfind
  refine ⟨g.collect (keyOf d), ?_, fun p hp => hgrounded.mem_names hknown (.single hextends) hp⟩
  unfold properties
  rw [isReady_iff_symbols.mp hready]
  rfl

/-- A base whose name leads to a class of a known module, where imports are followed for the last
part of a name only, is found to be that class, and all its fields are among the properties. -/
theorem Denotes.inherited (hg : g.Holds sources) (hnamed : "" ∉ g.names) {d : Declaration}
    {info : ClassInfo} {base : String} (hready : g.isReady d = true)
    (hclass : g.classAt? (keyOf d) = some (t, info)) (hbase : base ∈ info.bases)
    (hbound : g.bound t base = some q)
    (hdenotes : g.Denotes Member.IsLast (maxHops + 1) q key) :
    g.findClass q = some key ∧ ∃ properties, g.properties d = .ok properties ∧
      ∀ p ∈ g.fieldsOf key, p.name ∈ properties.map (·.name) := by
  have hfind : g.findClass q = some key := hdenotes.findClassWithin hg hnamed
  exact ⟨hfind, properties_inherit hready hclass hbase hbound hfind⟩

/-- A module that imports another one under a short name and a class of it by its name, and a class
whose base is reached through the first module. -/
def hub (base : String) : List Source :=
  [⟨encode "class Base:\n x: int\n", "models", "models.py", false⟩,
    ⟨encode "import models as m\nfrom models import Base\n", "hub", "hub.py", false⟩,
    ⟨encode ("from builder_gen.marker import builder\nimport hub\n@builder\nclass Foo(" ++ base ++
      "):\n y: int\n"), "a", "a.py", false⟩]

/-- The registry of these modules. -/
def hubRegistry (base : String) : Registry := ⟨⟨(hub base).map Source.entry⟩, .empty⟩

/-- The declaration of the class with the base. -/
def hubDeclaration : Declaration := ⟨"", "Foo", "a", [], .resolved, []⟩

/-- Where a name is cut, and what the module says of the part right behind the cut. -/
structure Cut where
  module : String
  head : String
  rest : List String
  isDefined : Bool
  isClass : Bool
  target : Option String
  deriving DecidableEq

/-- What there is to tell of a cut. -/
def Member.cut (m : Member) : Cut where
  module := m.module
  head := m.head
  rest := m.rest
  isDefined := m.table.definitions.contains m.head
  isClass := m.table.classes.contains m.head
  target := m.table.imports.get? m.head

section Cuts

variable {through : Member → Prop} {hops : Nat} {cut : Cut}
  (h : (g.member? q).map Member.cut = some cut)

include h

theorem Denotes.of_class (hrest : cut.rest = []) (hclass : cut.isClass = true) :
    g.Denotes through (hops + 1) q ⟨cut.module, cut.head⟩ := by
  obtain ⟨m, hm, rfl⟩ := Option.map_eq_some_iff.mp h
  exact .own hm hrest hclass

theorem Denotes.of_import {target : String} (hthrough : ∀ m : Member, m.rest = cut.rest → through m)
    (hdefined : cut.isDefined = false) (htarget : cut.target = some target)
    (hnext : g.Denotes through hops (extend target (joinDotted cut.rest)) key) :
    g.Denotes through (hops + 1) q key := by
  obtain ⟨m, hm, rfl⟩ := Option.map_eq_some_iff.mp h
  exact .imported hm (hthrough m rfl) hdefined htarget hnext

end Cuts

set_option maxRecDepth 100000 in
/-- The class that was imported by its name is found. -/
theorem Denotes.inherited_imported :
    (hubRegistry "hub.Base").findClass "hub.Base" = some ⟨"models", "Base"⟩ ∧
      ∃ properties, (hubRegistry "hub.Base").properties hubDeclaration = .ok properties ∧
        ∀ p ∈ (hubRegistry "hub.Base").fieldsOf ⟨"models", "Base"⟩,
          p.name ∈ properties.map (·.name) := by
  have hcut : ((hubRegistry "hub.Base").member? "hub.Base").map Member.cut =
      some ⟨"hub", "Base", [], false, false, some "models.Base"⟩ := by decide +kernel
  have hnext : ((hubRegistry "hub.Base").member? "models.Base").map Member.cut =
      some ⟨"models", "Base", [], true, true, none⟩ := by decide +kernel
  have hclass : ((hubRegistry "hub.Base").classAt? (keyOf hubDeclaration)).map (fun r =>
      (r.2.bases, (hubRegistry "hub.Base").bound r.1 "hub.Base")) =
        some (["hub.Base"], some "hub.Base") := by decide +kernel
  have hready : (hubRegistry "hub.Base").isReady hubDeclaration = true := by decide +kernel
  obtain ⟨⟨t, info⟩, hclass, e⟩ := Option.map_eq_some_iff.mp hclass
  rw [Prod.mk.injEq] at e
  have hdenotes : (hubRegistry "hub.Base").Denotes Member.IsLast (maxHops + 1) "hub.Base"
      ⟨"models", "Base"⟩ :=
    .of_import hcut (fun m h => h) rfl rfl (.of_class hnext rfl rfl)
  have hsources : (hubRegistry "hub.Base").Holds (hub "hub.Base") := rfl
  exact Denotes.inherited hsources (by decide +kernel) hready hclass
    (by rw [e.1]; exact List.mem_cons_self) e.2 hdenotes

set_option maxRecDepth 100000 in
/-- Through the short name of the module the base leads to the same class, but none is found: the
declaration is ready without the fields of its base. -/
theorem stranger_ready :
    ((hubRegistry "hub.m.Base").classAt? (keyOf hubDeclaration)).map (fun r =>
        (r.2.bases, (hubRegistry "hub.m.Base").bound r.1 "hub.m.Base")) =
      some (["hub.m.Base"], some "hub.m.Base") ∧
    (hubRegistry "hub.m.Base").Denotes (fun _ => True) (maxHops + 1) "hub.m.Base"
      ⟨"models", "Base"⟩ ∧
    (hubRegistry "hub.m.Base").fieldsOf ⟨"models", "Base"⟩ = [⟨"x", "int"⟩] ∧
    (hubRegistry "hub.m.Base").isReady hubDeclaration = true ∧
    (hubRegistry "hub.m.Base").findClass "hub.m.Base" = none ∧
    (hubRegistry "hub.m.Base").properties hubDeclaration = .ok [⟨"y", "int"⟩] := by
  have hcut : ((hubRegistry "hub.m.Base").member? "hub.m.Base").map Member.cut =
      some ⟨"hub", "m", ["Base"], false, false, some "models"⟩ := by decide +kernel
  have hnext : ((hubRegistry "hub.m.Base").member? "models.Base").map Member.cut =
      some ⟨"models", "Base", [], true, true, none⟩ := by decide +kernel
  have htarget : extend "models" (joinDotted ["Base"]) = "models.Base" := by decide +kernel
  have hready : (hubRegistry "hub.m.Base").fieldsOf ⟨"models", "Base"⟩ = [⟨"x", "int"⟩] ∧
      (hubRegistry "hub.m.Base").isReady hubDeclaration = true ∧
      (hubRegistry "hub.m.Base").properties hubDeclaration = .ok [⟨"y", "int"⟩] := by decide +kernel
  refine ⟨by decide +kernel, .of_import hcut (fun _ _ => trivial) rfl rfl ?_, hready.1,
    hready.2.1, ?_, hready.2.2⟩
  · rw [htarget]
    exact .of_class hnext rfl rfl
  · obtain ⟨m, hm, e⟩ := Option.map_eq_some_iff.mp hcut
    have hrest : m.rest = ["Base"] := congrArg Cut.rest e
    exact findClassWithin_none hm (by simp [hrest]) _

end Registry

end FluentBuilders
