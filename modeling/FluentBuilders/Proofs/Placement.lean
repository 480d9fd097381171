import FluentBuilders.Proofs.Discovery
import FluentBuilders.Proofs.Publication
import FluentBuilders.Proofs.Registry

/-!
Where builders stand, and how they are found there.

1. `packageParts_moduleNames`: the package of a module has the parts that its directory has.
2. `fileParts_module`: a builder's file stands in the directory of its package, and holds the module of
   the builder.
3. `generate_placed`: builders lie strictly below their root, those of different modules at different
   places; next to its source a builder is found again as the module that it is.
-/

namespace FluentBuilders

open Text Generation

/-! ## 1. Packages -/

theorem packageParts_joinDotted {parts : List String} (h : ∀ part ∈ parts, IsPart part) :
    packageParts (joinDotted parts) = parts := by
  cases parts with
  | nil => rfl
  | cons part rest =>
    have hparts := dottedParts_joinDotted (List.cons_ne_nil part rest) fun p hp =>
      (h p hp).dot_not_mem
    unfold packageParts
    split
    · next hempty =>
      -- the parts of nothing are one empty part
      rw [String.isEmpty_iff.mp hempty] at hparts
      have hpart := h "" (hparts ▸ List.mem_singleton_self "")
      exact absurd rfl hpart.1
    · exact hparts

/-- The package of a module has the parts that its directory has. -/
theorem packageParts_moduleNames {before : List String} {stem : String} {t : SymbolTable}
    (hmodule : t.module = joinDotted (moduleNames before stem))
    (hpackage : t.isPackage = (stem == packageStem))
    (hnames : ∀ part ∈ moduleNames before stem, isIdentifier part = true) :
    packageParts t.package = before := by
  have hparts : ∀ part ∈ moduleNames before stem, IsPart part := fun part hpart =>
    isPart_of_isIdentifier (hnames part hpart)
  unfold SymbolTable.package
  rw [hmodule, hpackage]
  unfold moduleNames at *
  split
  · next hstem =>
    rw [if_pos hstem] at hparts
    exact packageParts_joinDotted hparts
  · next hstem =>
    rw [if_neg hstem] at hparts
    rw [splitLast_joinDotted
      (fun part hpart => (hparts part (List.mem_append_left _ hpart)).dot_not_mem)
      (hparts stem (by simp)).dot_not_mem]
    exact packageParts_joinDotted fun part hpart => hparts part (List.mem_append_left _ hpart)

/-! ## 2. Files of builders -/

section Builder

variable {package name : String}

theorem builderLeaf_ne_packageStem (name : String) : builderLeaf name ≠ packageStem := by
  intro h
  have hlast := congrArg (fun s => s.toList.getLast?) h
  simp [builderLeaf, packageStem] at hlast

theorem moduleNames_builderLeaf (before : List String) (name : String) :
    moduleNames before (builderLeaf name) = before ++ [builderLeaf name] :=
  if_neg (by simpa using builderLeaf_ne_packageStem name)

/-- A builder's file stands in the directory of its package. -/
theorem fileParts_module (h : isIdentifier name = true) :
    fileParts (builderModule package name) = packageParts package ++ [builderLeaf name ++ ".py"] := by
  unfold fileParts
  rw [dottedParts_builderModule h, List.dropLast_concat, List.getLast?_concat]
  rfl

/-- A builder's file holds the module of the builder, which is no package. -/
theorem moduleOf?_builder (hname : isIdentifier name = true)
    (hpackage : ∀ part ∈ packageParts package, isIdentifier part = true) :
    moduleOf? (fileParts (builderModule package name)) = some (builderModule package name, false) := by
  refine moduleOf?_eq_some.mpr ⟨packageParts package, builderLeaf name, fileParts_module hname, ?_⟩
  rw [moduleNames_builderLeaf, ← dottedParts_builderModule hname, joinDotted_dottedParts]
  refine ⟨?_, dottedParts_ne_nil _, fun part hpart => ?_, rfl⟩
  · simpa using builderLeaf_ne_packageStem name
  · rw [dottedParts_builderModule hname, List.mem_append, List.mem_singleton] at hpart
    rcases hpart with hpart | rfl
    · exact hpackage part hpart
    · exact isIdentifier_builderLeaf hname

end Builder

/-! ## 3. Placement -/

/-- A path that leads strictly down from another one. -/
def FilePath.IsBelow (p root : FilePath) : Prop :=
  ∃ parts, parts ≠ [] ∧ (∀ part ∈ parts, IsEntryName part) ∧
    p = ⟨root.absolute, root.parts ++ parts⟩ ∧ ∀ t : FileTree, t.locate p = t.locate root ++ parts

/-- What is discovered at a path below a root: the module, which is no package, and nothing else. -/
def DiscoveredAs (t : FileTree) (root : FilePath) (profile : Profile) (p : FilePath) (m : String) :
    Prop :=
  ∃ f : SourceFile, f.module = m ∧ f.isPackage = false ∧
    ∀ f', (f' ∈ discover t root profile ∧ f'.path root = p) ↔ f' = f

theorem artifactPath_isBelow {m : String} (h : IsModuleName m) (root : FilePath) :
    (artifactPath root m).IsBelow root := by
  have hplace := artifactPath_eq h root
  refine ⟨fileParts m, by simp [fileParts], isEntryName_fileParts h, hplace, fun t => ?_⟩
  rw [hplace]
  exact t.locate_append root (dots_not_mem_fileParts h)

/-- A module is discovered by the parts of its path behind the root. -/
theorem mem_discover_at {t : FileTree} {root : FilePath} {profile : Profile} {f : SourceFile}
    {below : List String} (hfile : sourceFile? profile below = some f) (hbelow : below ≠ []) {e : Entry}
    (hlook : t.look ⟨root.absolute, root.parts ++ below⟩ = .ok e) (f' : SourceFile) :
    (f' ∈ discover t root profile ∧ f'.path root = ⟨root.absolute, root.parts ++ below⟩) ↔ f' = f := by
  have hnames := sourceFile?_below hfile
  have hpath : f.path root = ⟨root.absolute, root.parts ++ below⟩ := by
    unfold SourceFile.path
    rw [hnames]
  constructor
  · rintro ⟨hfound, hpath'⟩
    obtain ⟨-, hfile', -⟩ := mem_discover.mp hfound
    have hsame : f'.below = below := List.append_cancel_left (FilePath.mk.inj hpath').2
    rw [hsame, hfile] at hfile'
    exact (Option.some.inj hfile').symm
  · rintro rfl
    refine ⟨mem_discover.mpr ⟨?_, by rw [hnames]; exact hfile, e, ?_⟩, hpath⟩
    · exact FileTree.isDirectory_iff.mpr (FileTree.reach_before hbelow hlook)
    · have hget := FileTree.get?_of_look hlook
      rw [t.locate_append root (dots_not_mem_below hfile),
        ← FileTree.find_of_get? (by simp [hbelow])] at hget
      rw [hnames]
      exact FileTree.mem_of_find hget

/-- The package of a declaration of a discovered module has the parts of the module's directory. -/
theorem packageParts_discovered {g : Registry} {marker path : String} {content : Bytes}
    {profile : Profile} {f : SourceFile} {d : Declaration}
    (hfile : sourceFile? profile f.below = some f)
    (hd : d ∈ g.declarationsOf marker (.ofParsed (.ofBytes content path) f.module f.isPackage)) :
    packageParts d.package = f.below.dropLast ∧ ∀ part ∈ packageParts d.package,
      isIdentifier part = true := by
  obtain ⟨info, -, rfl⟩ := List.mem_map.mp hd
  obtain ⟨hmodule, -, -, hpackage, -⟩ :=
    SymbolTable.ofParsed_grows content path f.module f.isPackage
  obtain ⟨-, -, hfound⟩ := sourceFile?_eq_some.mp hfile
  obtain ⟨before, stem, hbelow, hstem, -, hnames, hjoined⟩ := moduleOf?_eq_some.mp hfound
  have hparts := packageParts_moduleNames (hmodule.trans hjoined) (hpackage.trans hstem) hnames
  unfold Registry.declarationOf
  dsimp only
  rw [hparts, hbelow, List.dropLast_concat]
  exact ⟨rfl, fun part hpart => hnames part (before_subset_moduleNames _ _ hpart)⟩

/-- The builder of any declaration stands in a module whose parts are identifiers, strictly below
every root, and at a place of its own. For a declaration of a discovered module, that is in the
directory of the module's file, and a file there is discovered as the module of the builder. -/
theorem generate_placed {r : Resolver} {d : Declaration} {a : Artifact} (h : generate r d = .ok a) :
    isDotted a.module = true ∧
    (∀ root, (artifactPath root a.module).IsBelow root) ∧
    (∀ (root : FilePath) (r' : Resolver) (d' : Declaration) (a' : Artifact),
      generate r' d' = .ok a' → a'.module ≠ a.module →
      artifactPath root a'.module ≠ artifactPath root a.module) ∧
    ∀ (t : FileTree) (root : FilePath) (profile : Profile), ∀ f ∈ discover t root profile,
      ∀ (g : Registry) (marker path : String) (content : Bytes),
        d ∈ g.declarationsOf marker (.ofParsed (.ofBytes content path) f.module f.isPackage) →
        (artifactPath root a.module).parent = (f.path root).parent ∧
        ∀ (t' : FileTree) (c : Bytes), t'.look (artifactPath root a.module) = .ok (.file c) →
          DiscoveredAs t' root profile (artifactPath root a.module) a.module := by
  obtain ⟨properties, -, hfault, -⟩ := generate_blueprint h
  have husable := Blueprint.usable hfault
  have hname : isIdentifier d.name = true := husable.name
  have hmodule := (generate_spec h).2
  have hfits := generate_isModuleName h
  have hdotted : isDotted (builderModule d.package d.name) = true :=
    isDotted_builderModule (b := d.blueprint properties) husable
  rw [← hmodule] at hdotted
  refine ⟨hdotted, artifactPath_isBelow hfits, fun root r' d' a' h' hne hsame => ?_, ?_⟩
  · -- the path tells the parts of the module
    rw [artifactPath_eq hfits, artifactPath_eq (generate_isModuleName h')] at hsame
    exact hne (fileParts_injective (List.append_cancel_left (FilePath.mk.inj hsame).2))
  intro t root profile f hf g marker path content hd
  obtain ⟨-, hfile, -⟩ := mem_discover.mp hf
  obtain ⟨hpackage, hparts⟩ := packageParts_discovered hfile hd
  have hplace := artifactPath_eq hfits root
  have hbelow : fileParts a.module = f.below.dropLast ++ [builderLeaf d.name ++ ".py"] := by
    rw [hmodule, fileParts_module hname, hpackage]
  obtain ⟨before, name, hnames, -, -⟩ := sourceFile?_names hfile
  refine ⟨?_, fun t' c hlook => ?_⟩
  · rw [hplace, hbelow]
    unfold FilePath.parent SourceFile.path
    dsimp only
    rw [← List.append_assoc, List.dropLast_concat, hnames, List.dropLast_concat,
      ← List.append_assoc, List.dropLast_concat]
  · rw [hplace] at hlook ⊢
    refine ⟨⟨fileParts a.module, a.module, false⟩, rfl, rfl,
      mem_discover_at (sourceFile?_eq_some.mpr ⟨rfl, ?_, ?_⟩) (by simp [hbelow]) hlook⟩
    · rw [hbelow, List.dropLast_concat]
      exact (sourceFile?_eq_some.mp hfile).2.1
    · rw [hmodule]
      exact moduleOf?_builder hname hparts

/-- The source of a package with a marked class. -/
def packageSource : Bytes := encode "from builder_gen.marker import builder\n@builder\nclass Foo: pass\n"

/-- A tree with one package. -/
def packaged : FileTree :=
  ⟨[(["p"], .directory), (["p", "__init__.py"], .file packageSource)], []⟩

/-- The registry with the package. -/
def packageRegistry : Registry :=
  ⟨⟨[("p", .ofParsed (.ofBytes packageSource "/p/__init__.py") "p" true)]⟩, .empty⟩

set_option maxRecDepth 100000 in
/-- The builder of a class of a package stands next to the file of the package. -/
theorem generate_placed_package : ∃ f ∈ discover packaged (Location.path []) .standard,
    f.isPackage = true ∧ ∃ d a, d ∈ packageRegistry.declarationsOf marker
      (.ofParsed (.ofBytes packageSource "/p/__init__.py") f.module f.isPackage) ∧
    generate packageRegistry.resolver d = .ok a ∧ a.module = "p.foo_builder" ∧
    (artifactPath (Location.path []) a.module).parent = (f.path (Location.path [])).parent ∧
    DiscoveredAs (packaged.put ["p", "foo_builder.py"] (.file [])) (Location.path []) .standard
      (artifactPath (Location.path []) a.module) a.module := by
  have hfound : ⟨["p", "__init__.py"], "p", true⟩ ∈ discover packaged (Location.path []) .standard := by
    decide +kernel
  have hmarked : ∃ d ∈ packageRegistry.declarationsOf marker
      (.ofParsed (.ofBytes packageSource "/p/__init__.py") "p" true),
      (d.name, d.package, d.module) = ("Foo", "p", "p") ∧
        (d.exposed packageRegistry.resolver).toOption = some [] := by
    decide +kernel
  obtain ⟨d, hd, hnames, hexposed⟩ := hmarked
  simp only [Prod.mk.injEq] at hnames
  obtain ⟨hname, hpackage, hmodule⟩ := hnames
  have hexposed : d.exposed packageRegistry.resolver = .ok [] := by
    cases hresult : d.exposed packageRegistry.resolver with
    | error e =>
      rw [hresult] at hexposed
      cases hexposed
    | ok properties =>
      rw [hresult] at hexposed
      exact congrArg Except.ok (Option.some.inj hexposed)
  have hblueprint : d.blueprint [] = ⟨"Foo", "p", [], some "p"⟩ := by
    unfold Declaration.blueprint
    rw [hname, hpackage, hmodule]
  obtain ⟨a, ha⟩ := generate_ok hexposed (by rw [hblueprint]; decide +kernel) rfl
  have hbuilder : a.module = "p.foo_builder" := by
    rw [(generate_spec ha).2, hname, hpackage]
    decide +kernel
  obtain ⟨-, -, -, hplaced⟩ := generate_placed ha
  obtain ⟨hparent, hdiscovered⟩ := hplaced packaged _ _ _ hfound packageRegistry marker _ _ hd
  refine ⟨_, hfound, rfl, d, a, hd, ha, hbuilder, hparent, hdiscovered _ [] ?_⟩
  rw [hbuilder]
  decide +kernel

end FluentBuilders
