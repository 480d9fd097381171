import FluentBuilders.Generation
import FluentBuilders.Proofs.FileTree
import FluentBuilders.Proofs.Naming

/-!
What a run loads from a tree.

1. Sorting puts items in order.
2. `moduleOf?_eq_some`: which module a file holds, by its names.
3. `mem_discover`: the modules that are found. `sourcesOf`: those that are read, with their contents.
   They are in order, and which they are depends on the files below the root that are no builders, and
   on nothing else.
4. `load_same`: where two trees have the same such files, the same registry is loaded.
-/

namespace FluentBuilders

open Text

/-! ## 1. Sorting -/

section Sorting

variable {α : Type} {before : α → α → Bool}

theorem placeItem_sorted (htotal : ∀ a b, before a b = true ∨ before b a = true)
    (htrans : ∀ a b c, before a b = true → before b c = true → before a c = true) (a : α)
    {l : List α} (h : l.Pairwise (before · ·)) :
    (placeItem before a l).Pairwise (before · ·) := by
  induction l with
  | nil => exact List.pairwise_singleton _ _
  | cons b rest ih =>
    obtain ⟨hb, hrest⟩ := List.pairwise_cons.mp h
    unfold placeItem
    split
    · next hab =>
      refine List.pairwise_cons.mpr ⟨fun c hc => ?_, h⟩
      rcases List.mem_cons.mp hc with rfl | hc
      · exact hab
      · exact htrans a b c hab (hb c hc)
    · next hab =>
      refine List.pairwise_cons.mpr ⟨fun c hc => ?_, ih hrest⟩
      rcases List.mem_cons.mp ((placeItem_perm before a rest).subset hc) with rfl | hc
      · exact (htotal c b).resolve_left hab
      · exact hb c hc

/-- Where any two items can be put in order, sorting does so. -/
theorem sortItems_sorted (htotal : ∀ a b, before a b = true ∨ before b a = true)
    (htrans : ∀ a b c, before a b = true → before b c = true → before a c = true) (l : List α) :
    (sortItems before l).Pairwise (before · ·) := by
  induction l with
  | nil => exact .nil
  | cons a rest ih => exact placeItem_sorted htotal htrans a ih

end Sorting

/-! ## 2. Modules of files -/

theorem stem?_ending (stem : String) : stem? (stem ++ ".py") = some stem := by
  have hsuffix : sourceEnding.isSuffixOf (stem ++ ".py").toList = true := by
    rw [String.toList_append, List.isSuffixOf_iff_suffix]
    exact List.suffix_append ..
  unfold stem?
  rw [if_pos hsuffix, String.toList_append, List.length_append]
  exact congrArg some ((congrArg String.ofList (List.take_left' rfl)).trans String.ofList_toList)

theorem eq_of_stem? {name stem : String} (h : stem? name = some stem) : name = stem ++ ".py" := by
  unfold stem? at h
  split at h
  · next hsuffix =>
    obtain ⟨front, hfront⟩ := List.isSuffixOf_iff_suffix.mp hsuffix
    cases h
    refine String.toList_injective ?_
    rw [String.toList_append, String.toList_ofList, ← hfront, List.length_append]
    exact congrArg (· ++ _) (List.take_left' rfl).symm
  · cases h

/-- The parts of the module that is held by the file of a stem, below directories. -/
def moduleNames (before : List String) (stem : String) : List String :=
  if stem == packageStem then before else before ++ [stem]

theorem before_subset_moduleNames (before : List String) (stem : String) :
    before ⊆ moduleNames before stem := by
  unfold moduleNames
  split
  · exact List.Subset.refl _
  · exact List.subset_append_left ..

/-- A file holds the module whose parts are its directories and, but for packages, its stem. -/
theorem moduleOf?_eq_some {below : List String} {m : String} {isPackage : Bool} :
    moduleOf? below = some (m, isPackage) ↔
      ∃ before stem, below = before ++ [stem ++ ".py"] ∧ isPackage = (stem == packageStem) ∧
        moduleNames before stem ≠ [] ∧ (∀ part ∈ moduleNames before stem, isIdentifier part = true) ∧
        m = joinDotted (moduleNames before stem) := by
  have hconcat : ∀ before stem, moduleOf? (before ++ [stem ++ ".py"]) =
      if (moduleNames before stem).isEmpty || !(moduleNames before stem).all isIdentifier then none
      else some (joinDotted (moduleNames before stem), stem == packageStem) := fun before stem => by
    unfold moduleOf? moduleNames
    rw [List.getLast?_concat, Option.bind_some, stem?_ending, List.dropLast_concat]
  constructor
  · intro h
    obtain ⟨before, stem, rfl⟩ : ∃ before stem, below = before ++ [stem ++ ".py"] := by
      unfold moduleOf? at h
      split at h
      · cases h
      · next stem hstem =>
        obtain ⟨name, hname, hname'⟩ := Option.bind_eq_some_iff.mp hstem
        obtain ⟨before, rfl⟩ := List.getLast?_eq_some_iff.mp hname
        exact ⟨before, stem, by rw [eq_of_stem? hname']⟩
    rw [hconcat] at h
    split at h
    · cases h
    · next hnames =>
      cases h
      rw [Bool.or_eq_true, not_or, Bool.not_eq_true', Bool.not_eq_false, List.all_eq_true] at hnames
      exact ⟨before, stem, rfl, rfl, fun hnil => hnames.1 (by rw [hnil]; rfl), hnames.2, rfl⟩
  · rintro ⟨before, stem, rfl, rfl, hne, hnames, rfl⟩
    rw [hconcat, if_neg]
    rw [Bool.or_eq_true, not_or, Bool.not_eq_true', Bool.not_eq_false, List.all_eq_true]
    exact ⟨by simpa using hne, hnames⟩

/-! ## 3. Sources -/

namespace Generation

variable {t t' : FileTree} {l : Location} {profile : Profile} {f : SourceFile} {c : Bytes}

/-- A module that was found with the content of its file, if that can be read and is no builder. -/
def sourceAt? (t : FileTree) (root : FilePath) (f : SourceFile) : Option (SourceFile × Bytes) :=
  match t.readBytes (f.path root) with
  | .ok content => if FileTree.startsGenerated content then none else some (f, content)
  | .error _ => none

/-- The modules below a root that are read, in order, with the contents of their files. -/
def sourcesOf (t : FileTree) (root : FilePath) (profile : Profile) : List (SourceFile × Bytes) :=
  (discover t root profile).filterMap (sourceAt? t root)

/-- The registry with a module, if it can be loaded. -/
def addSource (root : FilePath) (g : Registry) (x : SourceFile × Bytes) : Registry :=
  match g.addBytes x.2 x.1.module (x.1.path root).text x.1.isPackage with
  | .ok g => g
  | .error _ => g

theorem loadAll_eq (t : FileTree) (root : FilePath) (g : Registry) (files : List SourceFile) :
    (loadAll t root g files).1 = (files.filterMap (sourceAt? t root)).foldl (addSource root) g := by
  induction files generalizing g with
  | nil => rfl
  | cons f rest ih =>
    unfold loadAll loadOne FileTree.isGenerated
    rw [List.filterMap_cons]
    cases hread : t.readBytes (f.path root) with
    | error fault =>
      have hnone : sourceAt? t root f = none := by
        unfold sourceAt?
        rw [hread]
      rw [hnone, if_neg Bool.false_ne_true]
      exact ih g
    | ok content =>
      dsimp only
      split
      · next hgenerated =>
        have hnone : sourceAt? t root f = none := by
          unfold sourceAt?
          rw [hread]
          exact if_pos hgenerated
        rw [hnone]
        exact ih g
      · next hgenerated =>
        have hsome : sourceAt? t root f = some (f, content) := by
          unfold sourceAt?
          rw [hread]
          exact if_neg hgenerated
        rw [hsome, List.foldl_cons]
        unfold addSource
        dsimp only
        cases g.addBytes content f.module (f.path root).text f.isPackage with
        | ok g => exact ih g
        | error e => exact ih g

theorem load_eq (t : FileTree) (root : FilePath) (profile : Profile) :
    (load t root profile).1 = (sourcesOf t root profile).foldl (addSource root) .empty :=
  loadAll_eq t root .empty _

theorem sourceAt?_eq_some {root : FilePath} {x : SourceFile × Bytes}
    (h : sourceAt? t root f = some x) :
    x.1 = f ∧ t.readBytes (f.path root) = .ok x.2 ∧ FileTree.startsGenerated x.2 = false := by
  unfold sourceAt? at h
  split at h
  · next content hread =>
    split at h
    · cases h
    · next hgenerated =>
      cases h
      exact ⟨rfl, hread, by simpa using hgenerated⟩
  · cases h

/-- A file holds a module that is found, unless a directory on the way is skipped. -/
theorem sourceFile?_eq_some {below : List String} : sourceFile? profile below = some f ↔
    f.below = below ∧ below.dropLast.any (isSkipped profile) = false ∧
      moduleOf? below = some (f.module, f.isPackage) := by
  unfold sourceFile?
  split
  · next hskipped => simp [hskipped]
  · next hkept =>
    rw [Option.map_eq_some_iff]
    constructor
    · rintro ⟨x, hx, rfl⟩
      exact ⟨rfl, by simpa using hkept, hx⟩
    · rintro ⟨rfl, -, hmodule⟩
      exact ⟨_, hmodule, rfl⟩

theorem sourceFile?_below {below : List String} (h : sourceFile? profile below = some f) :
    f.below = below :=
  (sourceFile?_eq_some.mp h).1

/-- A module is found by the name of its file, and no directory on the way leads back. -/
theorem sourceFile?_names {below : List String} (h : sourceFile? profile below = some f) :
    ∃ before name, below = before ++ [name] ∧ (stem? name).isSome = true ∧ ".." ∉ before := by
  obtain ⟨-, -, hmodule⟩ := sourceFile?_eq_some.mp h
  obtain ⟨before, stem, hbelow, -, -, hnames, -⟩ := moduleOf?_eq_some.mp hmodule
  refine ⟨before, _, hbelow, by rw [stem?_ending]; rfl, fun hmem => ?_⟩
  exact (isPart_of_isIdentifier (hnames _ (before_subset_moduleNames _ _ hmem))).ne_dots rfl

theorem stem?_ne_dots {name : String} (h : (stem? name).isSome = true) : name ≠ ".." := by
  rintro rfl
  exact absurd h (by decide)

theorem dots_not_mem_below {below : List String} (h : sourceFile? profile below = some f) :
    ".." ∉ below := by
  obtain ⟨before, name, rfl, hname, hbefore⟩ := sourceFile?_names h
  rw [List.mem_append, List.mem_singleton, not_or]
  exact ⟨hbefore, (stem?_ne_dots hname).symm⟩

/-- A module is found where something stands under its names below a root that is a directory. -/
theorem mem_discover {root : FilePath} : f ∈ discover t root profile ↔
    t.isDirectory root = true ∧ sourceFile? profile f.below = some f ∧
      ∃ e, (t.locate root ++ f.below, e) ∈ t.entries := by
  unfold discover
  split
  · next hdirectory =>
    dsimp only
    rw [(sortItems_perm _ _).mem_iff, List.mem_filterMap]
    constructor
    · rintro ⟨x, hx, hfile⟩
      obtain ⟨hentry, hwithin⟩ := List.mem_filter.mp hx
      rw [Bool.and_eq_true] at hwithin
      have hlocation := List.prefix_iff_eq_append.mp (List.isPrefixOf_iff_prefix.mp hwithin.1)
      have hbelow := sourceFile?_below hfile
      rw [← hbelow] at hfile hlocation
      exact ⟨hdirectory, hfile, x.2, hlocation ▸ hentry⟩
    · rintro ⟨-, hfile, e, hentry⟩
      obtain ⟨before, name, hbelow, -, -⟩ := sourceFile?_names hfile
      refine ⟨(t.locate root ++ f.below, e), List.mem_filter.mpr ⟨hentry, ?_⟩, ?_⟩
      · simp [Location.isWithin, hbelow]
      · dsimp only
        rw [List.drop_left]
        exact hfile
  · next hdirectory => simp [hdirectory]

/-- A module is read where its file stands below the root and is no builder. -/
theorem mem_sourcesOf (hs : t.Sound) (hl : ".." ∉ l) :
    (f, c) ∈ sourcesOf t (Location.path l) profile ↔
      sourceFile? profile f.below = some f ∧ t.get? (l ++ f.below) = some (.file c) ∧
        FileTree.startsGenerated c = false := by
  have hdots : sourceFile? profile f.below = some f → ".." ∉ l ++ f.below := fun h => by
    rw [List.mem_append, not_or]
    exact ⟨hl, dots_not_mem_below h⟩
  constructor
  · intro h
    obtain ⟨f', hfound, hread⟩ := List.mem_filterMap.mp h
    obtain ⟨rfl, hread, hgenerated⟩ := sourceAt?_eq_some hread
    obtain ⟨-, hfile, -⟩ := mem_discover.mp hfound
    have hlook := FileTree.readBytes_iff.mp hread
    exact ⟨hfile, (hs.look_iff (hdots hfile)).mp hlook, hgenerated⟩
  · rintro ⟨hfile, hget, hgenerated⟩
    obtain ⟨before, name, hbelow, -, -⟩ := sourceFile?_names hfile
    have hne : f.below ≠ [] := by simp [hbelow]
    have hdirectory : t.isDirectory (Location.path l) = true :=
      FileTree.isDirectory_iff.mpr ((hs.look_iff hl).mpr (hs.above hne (by rw [hget]; rfl)))
    have hread : t.readBytes (f.path (Location.path l)) = .ok c :=
      FileTree.readBytes_iff.mpr ((hs.look_iff (hdots hfile)).mpr hget)
    refine List.mem_filterMap.mpr ⟨f, mem_discover.mpr ⟨hdirectory, hfile, .file c, ?_⟩, ?_⟩
    · rw [t.locate_path hl]
      exact FileTree.mem_of_find ((FileTree.find_of_get? (by simp [hne])).trans hget)
    · unfold sourceAt?
      rw [hread]
      exact if_neg (by simp [hgenerated])

/-- The modules that are found are in the order of their names below the root. -/
theorem discover_sorted (t : FileTree) (root : FilePath) (profile : Profile) :
    (discover t root profile).Pairwise fun f f' => ¬ f'.below < f.below := by
  unfold discover
  split
  · refine (sortItems_sorted (fun f f' => ?_) (fun f f' f'' h h' => ?_) _).imp fun h => ?_
    · simp only [decide_eq_true_eq]
      exact List.le_total f.below f'.below
    · simp only [decide_eq_true_eq] at h h' ⊢
      exact List.le_trans h h'
    · simpa using h
  · exact .nil

theorem discover_nodup (hs : t.Sound) (root : FilePath) (profile : Profile) :
    (discover t root profile).Nodup := by
  unfold discover
  split
  · refine (sortItems_perm _ _).nodup_iff.mpr ?_
    -- below one directory, locations differ where the names below it do
    have hkeys : (t.below (t.locate root)).Pairwise fun x y => x.1 ≠ y.1 :=
      (List.pairwise_map.mp hs.keys).sublist List.filter_sublist
    have hbelow : (t.below (t.locate root)).Pairwise fun x y =>
        x.1.drop (t.locate root).length ≠ y.1.drop (t.locate root).length := by
      refine hkeys.imp_of_mem fun {x y} hx hy hne hdrop => hne ?_
      have hwithin : ∀ z ∈ t.below (t.locate root),
          t.locate root ++ z.1.drop (t.locate root).length = z.1 := by
        intro z hz
        have hz := (List.mem_filter.mp hz).2
        rw [Bool.and_eq_true] at hz
        exact List.prefix_iff_eq_append.mp (List.isPrefixOf_iff_prefix.mp hz.1)
      rw [← hwithin x hx, ← hwithin y hy, hdrop]
    refine hbelow.filterMap _ fun x y hne f hf f' hf' => ?_
    rintro rfl
    exact hne ((sourceFile?_below hf).symm.trans (sourceFile?_below hf'))
  · exact List.nodup_nil

/-- The modules that are read are in the order of their names below the root. -/
theorem sourcesOf_sorted (t : FileTree) (root : FilePath) (profile : Profile) :
    (sourcesOf t root profile).Pairwise fun x y => ¬ y.1.below < x.1.below := by
  refine (discover_sorted t root profile).filterMap _ fun f f' h x hx y hy => ?_
  rw [(sourceAt?_eq_some hx).1, (sourceAt?_eq_some hy).1]
  exact h

theorem sourcesOf_nodup (hs : t.Sound) (root : FilePath) (profile : Profile) :
    (sourcesOf t root profile).Nodup := by
  refine (discover_nodup hs root profile).filterMap fun f f' x hx hx' => ?_
  rw [← (sourceAt?_eq_some hx).1, ← (sourceAt?_eq_some hx').1]

/-! ## 4. Loading again -/

/-- Two trees in which the same sources stand under the names of modules, builders apart. -/
def SameSources (t t' : FileTree) : Prop :=
  ∀ k name c, (stem? name).isSome = true → FileTree.startsGenerated c = false →
    (t'.get? (k ++ [name]) = some (.file c) ↔ t.get? (k ++ [name]) = some (.file c))

/-- Builders aside, the same sources give the same registry. -/
theorem load_same (hs : t.Sound) (hs' : t'.Sound) (hl : ".." ∉ l) (h : SameSources t t')
    (profile : Profile) :
    (load t' (Location.path l) profile).1 = (load t (Location.path l) profile).1 := by
  have hmem : ∀ x, x ∈ sourcesOf t' (Location.path l) profile ↔
      x ∈ sourcesOf t (Location.path l) profile := by
    rintro ⟨f, c⟩
    rw [mem_sourcesOf hs hl, mem_sourcesOf hs' hl]
    refine and_congr_right fun hfile => and_congr_left fun hgenerated => ?_
    obtain ⟨before, name, hbelow, hname, -⟩ := sourceFile?_names hfile
    rw [hbelow, ← List.append_assoc]
    exact h _ name c hname hgenerated
  have hperm := (List.perm_ext_iff_of_nodup (sourcesOf_nodup hs' (Location.path l) profile)
    (sourcesOf_nodup hs (Location.path l) profile)).mpr hmem
  have hsources : sourcesOf t' (Location.path l) profile =
      sourcesOf t (Location.path l) profile := by
    refine hperm.eq_of_pairwise ?_ (sourcesOf_sorted _ _ _) (sourcesOf_sorted _ _ _)
    rintro ⟨f, c⟩ ⟨f', c'⟩ hx hy hle hge
    obtain ⟨hfile, hget, -⟩ := (mem_sourcesOf hs hl).mp ((hmem _).mp hx)
    obtain ⟨hfile', hget', -⟩ := (mem_sourcesOf hs hl).mp hy
    have hbelow : f.below = f'.below := List.le_antisymm hle hge
    rw [hbelow] at hfile hget
    rw [hfile] at hfile'
    rw [hget] at hget'
    cases hfile'
    cases hget'
    rfl
  rw [load_eq, load_eq, hsources]

end Generation

end FluentBuilders
