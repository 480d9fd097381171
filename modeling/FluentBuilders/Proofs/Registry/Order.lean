import Mathlib.Data.List.Perm.Basic
import FluentBuilders.Proofs.Registry

/-!
What a registry answers does not depend on the order in which its modules came.

1. `Registry.Reorders`: the same modules in two orders.
2. Names lead to the same places.
3. Declarations are ready and have their properties in both.
4. Sources that are added in two orders.
-/

namespace FluentBuilders

open Text

namespace Registry

/-! ## 1. Two orders -/

/-- The same modules under different names, in two orders. -/
structure Reorders (g g' : Registry) : Prop where
  nodup : g.names.Nodup
  modules : g'.modules.entries.Perm g.modules.entries

namespace Reorders

variable {g g' : Registry} (h : g.Reorders g')

include h

theorem names : g'.names.Perm g.names := h.modules.map _

theorem values : g'.modules.values.Perm g.modules.values := h.modules.map _

theorem module? (name : String) : g'.module? name = g.module? name :=
  Table.get?_perm h.nodup h.modules name

theorem contains (name : String) : g'.modules.contains name = g.modules.contains name :=
  congrArg Option.isSome (h.module? name)

theorem isLocal (name : String) : g'.isLocal name = g.isLocal name :=
  (h.names.map rootOf).contains_eq

/-! ## 2. Names -/

theorem findClassWithin (hops : Nat) (q : String) :
    g'.findClassWithin hops q = g.findClassWithin hops q := by
  induction hops generalizing q with
  | zero => rfl
  | succ hops ih =>
    unfold Registry.findClassWithin
    simp only [h.module?, ih]

theorem findClass (q : String) : g'.findClass q = g.findClass q := h.findClassWithin ..

theorem memberFrom (before parts : List String) :
    g'.memberFrom before parts = g.memberFrom before parts := by
  induction parts generalizing before with
  | nil => rfl
  | cons head rest ih =>
    unfold Registry.memberFrom
    simp only [h.module?, ih]

theorem existsWithin (hops : Nat) (q : String) : g'.existsWithin hops q = g.existsWithin hops q := by
  induction hops generalizing q with
  | zero => exact h.contains q
  | succ hops ih =>
    unfold Registry.existsWithin member?
    simp only [h.contains, h.memberFrom, h.isLocal, ih]

theorem nameExists (q : String) : g'.nameExists q = g.nameExists q := h.existsWithin ..

theorem bound (t : SymbolTable) (name : String) : g'.bound t name = g.bound t name := by
  unfold Registry.bound
  simp only [h.isLocal, h.nameExists]

theorem checkName (t : SymbolTable) (name : String) : g'.checkName t name = g.checkName t name := by
  unfold Registry.checkName
  rw [h.bound]
  simp only [h.isLocal, h.nameExists]

/-! ## 3. Declarations -/

theorem classAt? (key : ClassKey) : g'.classAt? key = g.classAt? key := by
  unfold Registry.classAt?
  rw [h.module?]

theorem classCount : g'.classCount = g.classCount :=
  h.values.foldl_eq' (fun t _ t' _ n => by omega) 0

theorem unresolvedFrom (fuel : Nat) (key : ClassKey) (visiting : List ClassKey) :
    g'.unresolvedFrom fuel key visiting = g.unresolvedFrom fuel key visiting := by
  induction fuel generalizing key visiting with
  | zero => rfl
  | succ fuel ih =>
    unfold Registry.unresolvedFrom unresolvedTypes
    simp only [h.classAt?, h.checkName, h.findClass, ih]

theorem unresolved (key : ClassKey) : g'.unresolved key = g.unresolved key := by
  unfold Registry.unresolved
  rw [h.classCount, h.unresolvedFrom]

theorem unresolvedSymbols (d : Declaration) : g'.unresolvedSymbols d = g.unresolvedSymbols d := by
  unfold Registry.unresolvedSymbols knows
  rw [h.classAt?, h.unresolved]

theorem collectFrom (fuel : Nat) (key : ClassKey) (visited : List ClassKey) :
    g'.collectFrom fuel key visited = g.collectFrom fuel key visited := by
  induction fuel generalizing key visited with
  | zero => rfl
  | succ fuel ih =>
    have hfind : g'.findClass = g.findClass := funext h.findClass
    unfold Registry.collectFrom
    simp only [h.classAt?, h.bound, hfind, ih]

theorem isReady (d : Declaration) : g'.isReady d = g.isReady d := by
  unfold Registry.isReady knows
  rw [h.classAt?, h.unresolved]

/-- Both registries answer alike for every declaration. -/
theorem resolver : g'.resolver = g.resolver := by
  have hready : g'.isReady = g.isReady := funext h.isReady
  have hproperties : g'.properties = g.properties := funext fun d => by
    unfold properties collect
    rw [h.unresolvedSymbols, h.classCount, h.collectFrom]
  have hfiles : g'.originatingFiles = g.originatingFiles := funext fun d => by
    unfold originatingFiles
    rw [h.module?]
  unfold Registry.resolver
  rw [hready, hproperties, hfiles]

/-- Both registries tell the same declarations of a module. -/
theorem declarationsOf : g'.declarationsOf = g.declarationsOf := by
  have hdeclaration : g'.declarationOf = g.declarationOf := funext fun t => funext fun info => by
    unfold declarationOf
    rw [h.unresolved]
  funext marker t
  unfold Registry.declarationsOf
  rw [hdeclaration]

/-- What is reported changes no order. -/
theorem report (marker : String) : (g.report marker).2.Reorders (g'.report marker).2 :=
  ⟨h.nodup, h.modules⟩

end Reorders

/-- Reporting its declarations does not change what is ready in a registry. -/
theorem Sound.report_isReady {g : Registry} (hg : g.Sound) (marker : String) (d : Declaration) :
    (g.report marker).2.isReady d = g.isReady d := by
  have hreorders : g.Reorders (g.report marker).2 := ⟨hg.nodup, .refl _⟩
  exact hreorders.isReady d

/-! ## 4. Sources -/

/-- The source text of a module, as it is added to a registry. -/
structure Source where
  content : Bytes
  module : String
  path : String
  isPackage : Bool
  deriving Repr, Inhabited

/-- The registry with more modules, in the order of their sources. -/
def addAll (g : Registry) : List Source → Except Failure Registry
  | [] => .ok g
  | s :: rest =>
    match g.addBytes s.content s.module s.path s.isPackage with
    | .error e => .error e
    | .ok g => addAll g rest

/-- The module of a source, under its name. -/
def Source.entry (s : Source) : String × SymbolTable :=
  (s.module, .ofParsed (.ofBytes s.content s.path) s.module s.isPackage)

variable {g g' : Registry} {sources sources' : List Source}

theorem Loaded.addAll (hg : g.Loaded) (h : g.addAll sources = .ok g') : g'.Loaded := by
  induction sources generalizing g with
  | nil =>
    cases h
    exact hg
  | cons s rest ih =>
    unfold Registry.addAll at h
    split at h
    · cases h
    · next hadd => exact ih (.add hg hadd) h

/-- The modules of the sources stand behind the others, in their order. -/
theorem addAll_eq (h : g.addAll sources = .ok g') :
    g' = ⟨⟨g.modules.entries ++ sources.map Source.entry⟩, g.cursors⟩ := by
  induction sources generalizing g with
  | nil =>
    cases h
    rw [List.map_nil, List.append_nil]
  | cons s rest ih =>
    unfold addAll at h
    split at h
    · cases h
    · next hadd =>
      have hentries := addBytes_entries hadd
      obtain ⟨-, rfl⟩ := addBytes_eq hadd
      rw [ih h, hentries, List.append_assoc]
      rfl

/-- Sources of different modules can be added where no name is taken. -/
theorem addAll_ok (hnodup : (sources.map (·.module)).Nodup)
    (hfree : ∀ s ∈ sources, s.module ∉ g.names) : ∃ g', g.addAll sources = .ok g' := by
  induction sources generalizing g with
  | nil => exact ⟨g, rfl⟩
  | cons s rest ih =>
    rw [List.map_cons, List.nodup_cons] at hnodup
    obtain ⟨g₁, hadd⟩ := addBytes_ok (hfree s List.mem_cons_self) s.content s.path s.isPackage
    unfold addAll
    rw [hadd]
    refine ih hnodup.2 fun s' hs' hmem => ?_
    obtain ⟨-, rfl⟩ := addBytes_eq hadd
    rcases (Table.mem_keys_insert ..).mp hmem with heq | hmem
    · exact hnodup.1 (heq ▸ List.mem_map_of_mem hs')
    · exact hfree s' (List.mem_cons_of_mem _ hs') hmem

/-- Sources that can be added in one order can be added in every other, to the same modules. -/
theorem addAll_perm (h : empty.addAll sources = .ok g) (horder : sources'.Perm sources) :
    ∃ g', empty.addAll sources' = .ok g' ∧ g.Reorders g' := by
  have hnodup := (Loaded.empty.addAll h).sound.nodup
  have hmodules : (sources.map (·.module)).Nodup := by
    rw [addAll_eq h] at hnodup
    simpa [Registry.names, Table.keys, empty, Table.empty, Function.comp_def, Source.entry] using
      hnodup
  obtain ⟨g', h'⟩ := addAll_ok (g := empty) (((horder.map _).nodup_iff).mpr hmodules)
    fun _ _ hmem => by cases hmem
  refine ⟨g', h', hnodup, ?_⟩
  rw [addAll_eq h, addAll_eq h']
  exact (horder.map _).append_left _

end Registry

end FluentBuilders
