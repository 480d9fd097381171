import FluentBuilders.Proofs.SymbolTable
import FluentBuilders.Proofs.Table
import FluentBuilders.Registry.Readiness

/-!
Which modules a registry knows, and which declarations it reports of them.

1. `Declaration.IsOf`: a declaration of a module, whose name then tells the module.
2. `Registry.Sound`: the modules of a registry stand under their own names, once each.
3. `Registry.Loaded`: registries that were loaded from sources; they are sound.
4. What a report tells of a definition, and that no name is reported from two modules.
5. Classes without bases: they are ready once all that their annotations name is there.
6. Properties of declarations have their types on one line.
-/

namespace FluentBuilders

open Text Grammar

/-! ## 1. Names of declarations -/

/-- A declaration of the module `module`, under a name without dots. -/
structure Declaration.IsOf (d : Declaration) (module : String) : Prop where
  module : d.module = module
  plain : '.' ∉ d.name.toList

theorem Declaration.qualifiedName_toList (d : Declaration) :
    d.qualifiedName.toList =
      if d.module.isEmpty then d.name.toList else d.module.toList ++ '.' :: d.name.toList := by
  unfold Declaration.qualifiedName
  split
  · rfl
  · rw [String.toList_append, String.toList_append, List.append_assoc]
    rfl

/-- Texts that agree up to their last dots agree on both sides of it. -/
theorem append_dot_inj {l₁ l₂ r₁ r₂ : List Char} (h₁ : '.' ∉ r₁) (h₂ : '.' ∉ r₂)
    (h : l₁ ++ '.' :: r₁ = l₂ ++ '.' :: r₂) : l₁ = l₂ ∧ r₁ = r₂ := by
  induction l₁ generalizing l₂ with
  | nil =>
    cases l₂ with
    | nil => simpa using h
    | cons c l₂ =>
      rw [List.nil_append, List.cons_append, List.cons.injEq] at h
      exact absurd (h.2 ▸ List.mem_append_right _ List.mem_cons_self) h₁
  | cons c l₁ ih =>
    cases l₂ with
    | nil =>
      rw [List.nil_append, List.cons_append, List.cons.injEq] at h
      exact absurd (h.2 ▸ List.mem_append_right _ List.mem_cons_self) h₂
    | cons c' l₂ =>
      rw [List.cons_append, List.cons_append, List.cons.injEq] at h
      obtain ⟨rfl, rfl⟩ := ih h.2
      exact ⟨by rw [h.1], rfl⟩

/-- Declarations of the same qualified name are of the same module and have the same name. -/
theorem Declaration.IsOf.of_qualifiedName {d d' : Declaration} {m m' : String} (h : d.IsOf m)
    (h' : d'.IsOf m') (e : d.qualifiedName = d'.qualifiedName) : m = m' ∧ d.name = d'.name := by
  obtain ⟨rfl, hplain⟩ := h
  obtain ⟨rfl, hplain'⟩ := h'
  have e := congrArg String.toList e
  rw [d.qualifiedName_toList, d'.qualifiedName_toList] at e
  split at e <;> split at e
  · next h h' =>
    rw [String.isEmpty_iff.mp h, String.isEmpty_iff.mp h']
    exact ⟨rfl, String.toList_inj.mp e⟩
  · exact absurd (e ▸ List.mem_append_right _ List.mem_cons_self) hplain
  · exact absurd (e ▸ List.mem_append_right _ List.mem_cons_self) hplain'
  · obtain ⟨e₁, e₂⟩ := append_dot_inj hplain hplain' e
    exact ⟨String.toList_inj.mp e₁, String.toList_inj.mp e₂⟩

namespace Registry

/-! ## 2. Sound registries -/

/-- Modules stand under their own names, once each; the decorated definitions of each have names
without dots, and its fields have types on one line. -/
structure Sound (g : Registry) : Prop where
  nodup : g.names.Nodup
  named : ∀ entry ∈ g.modules.entries, entry.2.module = entry.1
  plain : ∀ t ∈ g.modules.values, ∀ info ∈ t.decorated, '.' ∉ info.name.toList
  types : ∀ t ∈ g.modules.values, ∀ info ∈ t.classes.values, info.OnOneLine

theorem sound_empty : empty.Sound := ⟨by simp [names, empty, Table.keys, Table.empty], by
  simp [empty, Table.empty], by simp [empty, Table.empty, Table.values], by
  simp [empty, Table.empty, Table.values]⟩

theorem addBytes_eq {g g' : Registry} {content : Bytes} {module path : String} {isPackage : Bool}
    (h : g.addBytes content module path isPackage = .ok g') :
    module ∉ g.names ∧
      g' = ⟨g.modules.insert module (.ofParsed (.ofBytes content path) module isPackage),
        g.cursors⟩ := by
  unfold addBytes add at h
  rw [(SymbolTable.ofParsed_grows content path module isPackage).1] at h
  split at h
  · cases h
  · next hnew =>
    cases h
    exact ⟨fun hmem => hnew ((g.modules.contains_iff module).mpr hmem), rfl⟩

/-- A module whose name is free is added. -/
theorem addBytes_ok {g : Registry} {module : String} (h : module ∉ g.names) (content : Bytes)
    (path : String) (isPackage : Bool) : ∃ g', g.addBytes content module path isPackage = .ok g' := by
  unfold addBytes add
  rw [(SymbolTable.ofParsed_grows content path module isPackage).1]
  rw [if_neg fun hmem => h ((g.modules.contains_iff module).mp hmem)]
  exact ⟨_, rfl⟩

/-- A new module stands behind the others. -/
theorem addBytes_entries {g g' : Registry} {content : Bytes} {module path : String}
    {isPackage : Bool} (h : g.addBytes content module path isPackage = .ok g') :
    g'.modules.entries = g.modules.entries ++
      [(module, .ofParsed (.ofBytes content path) module isPackage)] := by
  obtain ⟨hnew, rfl⟩ := addBytes_eq h
  exact Table.entries_insert_of_not_mem hnew _

theorem Sound.addBytes {g g' : Registry} (hg : g.Sound) {content : Bytes} {module path : String}
    {isPackage : Bool} (h : g.addBytes content module path isPackage = .ok g') : g'.Sound := by
  have he := addBytes_entries h
  obtain ⟨hmodule, -, -, -, -, hplain, htypes⟩ :=
    SymbolTable.ofParsed_grows content path module isPackage
  have hvalues : ∀ t ∈ g'.modules.values, t ∈ g.modules.values ∨
      t = .ofParsed (.ofBytes content path) module isPackage := by
    intro t ht
    unfold Table.values at ht
    rwa [he, List.map_append, List.mem_append, List.map_singleton, List.mem_singleton] at ht
  refine ⟨?_, fun entry hentry => ?_, fun t ht => ?_, fun t ht => ?_⟩
  · obtain ⟨-, rfl⟩ := addBytes_eq h
    exact Table.nodup_insert hg.nodup ..
  · rw [he, List.mem_append, List.mem_singleton] at hentry
    rcases hentry with hentry | rfl
    · exact hg.named entry hentry
    · exact hmodule
  · rcases hvalues t ht with ht | rfl
    · exact hg.plain t ht
    · exact fun info hinfo => (hplain info hinfo).plain
  · rcases hvalues t ht with ht | rfl
    · exact hg.types t ht
    · exact htypes

theorem Sound.report {g : Registry} (hg : g.Sound) (marker : String) :
    (g.report marker).2.Sound := ⟨hg.nodup, hg.named, hg.plain, hg.types⟩

/-! ## 3. Loaded registries -/

/-- Registries that were loaded from sources: nothing of them was reported yet. -/
inductive Loaded : Registry → Prop
  | empty : Loaded .empty
  | add {g g' : Registry} {content : Bytes} {module path : String} {isPackage : Bool} :
    Loaded g → g.addBytes content module path isPackage = .ok g' → Loaded g'

/-- A module under a free name makes another loaded registry. -/
theorem Loaded.add_ok {g : Registry} (h : g.Loaded) {module : String} (hnew : module ∉ g.names)
    (content : Bytes) (path : String) (isPackage : Bool) :
    Loaded ⟨g.modules.insert module (.ofParsed (.ofBytes content path) module isPackage),
      g.cursors⟩ := by
  obtain ⟨g', hadd⟩ := addBytes_ok hnew content path isPackage
  obtain ⟨-, rfl⟩ := addBytes_eq hadd
  exact .add h hadd

theorem Loaded.sound {g : Registry} (h : g.Loaded) : g.Sound := by
  induction h with
  | empty => exact sound_empty
  | add _ hadd ih => exact ih.addBytes hadd

theorem Loaded.cursor {g : Registry} (h : g.Loaded) (marker : String) : g.cursor marker = 0 := by
  induction h with
  | empty => rfl
  | add _ hadd ih =>
    obtain ⟨-, rfl⟩ := addBytes_eq hadd
    exact ih

/-! ## 4. Reports -/

section Declarations

variable {g : Registry} {t : SymbolTable} {info : DecoratedInfo}

theorem declarationOf_qualifiedName (g : Registry) (t : SymbolTable) (info : DecoratedInfo) :
    (g.declarationOf t info).qualifiedName = qualify t.module info.name := rfl

/-- A decorated definition is misplaced, or a class at module scope without errors. -/
theorem invalidReasons_eq_nil (info : DecoratedInfo) : invalidReasons info = [] ↔
    info.kind = .ofClass ∧ info.topLevel = true ∧ info.hasError = false := by
  unfold invalidReasons
  cases info.kind <;> cases info.topLevel <;> cases info.hasError <;> decide

/-- A declaration with a reason against it is invalid. -/
theorem declarationOf_invalid (h : invalidReasons info ≠ []) :
    (g.declarationOf t info).state = .invalid := by
  have hempty : (invalidReasons info).isEmpty = false := by simpa using h
  unfold declarationOf
  dsimp only
  rw [hempty]
  rfl

theorem declarationOf_valid (h : invalidReasons info = []) :
    (g.declarationOf t info).state ≠ .invalid := by
  unfold declarationOf
  rw [h]
  dsimp only
  split
  · next hreasons => cases hreasons
  · split <;> simp

end Declarations

/-- The names of the modules that were searched for the marker. -/
def searched (g : Registry) (marker : String) : List String := g.names.take (g.cursor marker)

theorem searched_report (g : Registry) (marker : String) :
    (g.report marker).2.searched marker = g.names := by
  have hcursor : (g.report marker).2.cursor marker = g.names.length := by
    unfold cursor report
    rw [Table.get?_insert, if_pos rfl]
    exact (List.length_map _).symm
  unfold searched
  rw [hcursor]
  exact List.take_length

/-- A reported declaration is of a module that was not searched before. -/
theorem Sound.reported {g : Registry} (hg : g.Sound) {marker : String} {d : Declaration}
    (hd : d ∈ (g.report marker).1) :
    ∃ m ∈ g.names, m ∉ g.searched marker ∧ d.IsOf m := by
  obtain ⟨t, ht, hd⟩ := List.mem_flatMap.mp hd
  obtain ⟨info, hinfo, rfl⟩ := List.mem_map.mp hd
  unfold Table.values at ht
  rw [← List.map_drop] at ht
  obtain ⟨entry, hentry, rfl⟩ := List.mem_map.mp ht
  have hmem := List.mem_of_mem_drop hentry
  refine ⟨entry.1, List.mem_map_of_mem hmem, fun hsearched => ?_, hg.named entry hmem, ?_⟩
  · -- a name stands once, so not on both sides of the cursor
    have hdrop : entry.1 ∈ g.names.drop (g.cursor marker) := by
      unfold names Table.keys
      rw [← List.map_drop]
      exact List.mem_map_of_mem hentry
    have hnodup := hg.nodup
    rw [← List.take_append_drop (g.cursor marker) g.names] at hnodup
    exact (List.nodup_append.mp hnodup).2.2 _ hsearched _ hdrop rfl
  · exact hg.plain _ (List.mem_map_of_mem hmem) info (List.mem_of_mem_filter hinfo)

/-! ## 5. Classes without bases -/

variable {g : Registry} {t : SymbolTable} {info : ClassInfo} {key : ClassKey}

/-- A name that stands for a known module is there. -/
theorem checkName_of_module {name q : String} (hname : t.resolve name = some q)
    (hq : g.modules.contains q = true) : g.checkName t name = some q := by
  have hbound : g.bound t name = some q := by
    unfold bound
    rw [hname]
  have hexists : g.nameExists q = true := by
    unfold nameExists existsWithin
    rw [hq, Bool.true_or]
  unfold checkName
  rw [hbound]
  simp [hexists]

theorem unresolved_of_plain (h : g.classAt? key = some (t, info)) (hbases : info.bases = [])
    (hnames : ∀ f ∈ info.fields, ∀ name ∈ f.typeNames, (g.checkName t name).isSome = true) :
    g.unresolved key = [] := by
  have htypes : g.unresolvedTypes t info = [] := by
    refine List.filter_eq_nil_iff.mpr fun name hname => ?_
    obtain ⟨f, hf, hname⟩ := List.mem_flatMap.mp hname
    obtain ⟨q, hq⟩ := Option.isSome_iff_exists.mp (hnames f hf name hname)
    simp [hq]
  unfold unresolved unresolvedFrom
  rw [h]
  simp [htypes, hbases]

theorem collect_of_plain (h : g.classAt? key = some (t, info)) (hbases : info.bases = []) :
    g.collect key = ownProperties info := by
  unfold collect collectFrom
  rw [h]
  simp [hbases]

/-- A declaration whose class has no bases is ready once all names of its annotations are there, and
its properties are the fields of the class. -/
theorem ready_of_plain {d : Declaration} (h : g.classAt? (keyOf d) = some (t, info))
    (hbases : info.bases = [])
    (hnames : ∀ f ∈ info.fields, ∀ name ∈ f.typeNames, (g.checkName t name).isSome = true) :
    g.isReady d = true ∧ g.properties d = .ok (ownProperties info) := by
  have hknows : g.knows d = true := by
    unfold knows
    rw [h]
    rfl
  have hunresolved := unresolved_of_plain h hbases hnames
  constructor
  · unfold isReady
    rw [hknows, hunresolved]
    rfl
  · unfold properties unresolvedSymbols
    rw [hknows, if_pos rfl, hunresolved, collect_of_plain h hbases]
    rfl

/-! ## 6. Types of properties -/

theorem mem_mergeProperties {own inherited : List Property} {p : Property}
    (h : p ∈ mergeProperties own inherited) : p ∈ own ∨ p ∈ inherited := by
  unfold mergeProperties at h
  induction inherited generalizing own with
  | nil => exact .inl h
  | cons q rest ih =>
    rw [List.foldl_cons] at h
    split at h
    · exact (ih h).imp_right (List.mem_cons_of_mem _)
    · rcases ih h with h | h
      · rcases List.mem_append.mp h with h | h
        · exact .inl h
        · rw [List.mem_singleton.mp h]
          exact .inr List.mem_cons_self
      · exact .inr (List.mem_cons_of_mem _ h)

theorem classAt?_spec {r : SymbolTable × ClassInfo} (h : g.classAt? key = some r) :
    g.modules.get? key.module = some r.1 ∧ r.1.classes.get? key.name = some r.2 := by
  unfold classAt? module? at h
  split at h
  · cases h
  · next t ht =>
    obtain ⟨info, hinfo, rfl⟩ := Option.map_eq_some_iff.mp h
    exact ⟨ht, hinfo⟩

theorem Sound.classAt? (hg : g.Sound) {r : SymbolTable × ClassInfo} (h : g.classAt? key = some r) :
    r.2.OnOneLine := by
  obtain ⟨ht, hinfo⟩ := classAt?_spec h
  exact hg.types _ (List.mem_map_of_mem (Table.mem_of_get? ht)) _
    (List.mem_map_of_mem (Table.mem_of_get? hinfo))

/-- The fields of a class and of its bases have their types on one line. -/
theorem Sound.collectFrom (hg : g.Sound) (fuel : Nat) (key : ClassKey) (visited : List ClassKey) :
    ∀ p ∈ (g.collectFrom fuel key visited).1, ∃ s, p.type = collapse s := by
  induction fuel generalizing key visited with
  | zero => simp [Registry.collectFrom]
  | succ fuel ih =>
    unfold Registry.collectFrom
    split
    · simp
    · next t info hclass =>
      have hown : ∀ p ∈ ownProperties info, ∃ s, p.type = collapse s := by
        intro p hp
        obtain ⟨f, hf, rfl⟩ := List.mem_map.mp hp
        exact hg.classAt? hclass f hf
      -- each base adds properties of its own class
      refine List.foldlRecOn (motive := fun r : List Property × List ClassKey =>
        ∀ p ∈ r.1, ∃ s, p.type = collapse s) info.bases _ hown fun r hr base _ => ?_
      obtain ⟨all, visited⟩ := r
      dsimp only
      split
      · exact hr
      · next baseKey _ =>
        split
        · exact hr
        · intro p hp
          rcases mem_mergeProperties hp with hp | hp
          · exact hr p hp
          · exact ih baseKey visited p hp

theorem Sound.properties (hg : g.Sound) {d : Declaration} {properties : List Property}
    (h : g.resolver.properties d = .ok properties) : ∀ p ∈ properties, ∃ s, p.type = collapse s := by
  unfold resolver Registry.properties at h
  dsimp only at h
  split at h
  · cases h
    exact hg.collectFrom _ _ _
  · cases h

end Registry

end FluentBuilders
