import FluentBuilders.Proofs.Discovery
import FluentBuilders.Proofs.Registry

/-!
Which files are found as modules, and what becomes of two files that hold the same module.

1. `Doubles`: a file beside a package of its name. Different files hold the same module in no other case
   (`doubles_of_module`), and the package comes first (`Doubles.before`).
2. `visit`: what one file does to a registry. It asks and changes nothing but the module that it holds, so
   what is loaded under a name, and what is told of it, depends on the files of that name only
   (`loadAll_filter`).
3. `discover_exact`: the files that are found, each once and in order, and which of two counts.
-/

namespace FluentBuilders

open Text

namespace Generation

variable {t : FileTree} {root : FilePath} {profile : Profile} {g g' : Registry} {f f' : SourceFile}
  {m : String}

/-! ## 1. Files that hold the same module -/

/-- The first file makes a directory a package, and the second one stands beside the directory under its
name. -/
def Doubles (f f' : SourceFile) : Prop :=
  ∃ before stem, f.below = before ++ [stem, packageStem ++ ".py"] ∧ f.isPackage = true ∧
    f'.below = before ++ [stem ++ ".py"] ∧ f'.isPackage = false

/-- A name comes before what it starts. -/
theorem lt_append_ending (stem : String) : stem < stem ++ ".py" := by
  rw [String.lt_iff, String.toList_append]
  have h : stem.toList ++ [] < stem.toList ++ ".py".toList := List.append_left_lt (List.nil_lt_cons ..)
  rwa [List.append_nil] at h

/-- Path by path a directory comes before a file with its name and an ending, and so does all that stands
in it. -/
theorem Doubles.before (h : Doubles f f') : f.below < f'.below := by
  obtain ⟨before, stem, hbelow, -, hbelow', -⟩ := h
  rw [hbelow, hbelow']
  exact List.append_left_lt (List.cons_lt_cons_iff.mpr (.inl (lt_append_ending stem)))

/-- Joined by dots, identifiers can be told apart again. -/
theorem joinDotted_injective {names names' : List String} (hne : names ≠ []) (hne' : names' ≠ [])
    (hnames : ∀ part ∈ names, isIdentifier part = true)
    (hnames' : ∀ part ∈ names', isIdentifier part = true) (h : joinDotted names = joinDotted names') :
    names = names' := by
  rw [← dottedParts_joinDotted hne fun part hpart => (isPart_of_isIdentifier (hnames part hpart)).dot_not_mem,
    h, dottedParts_joinDotted hne' fun part hpart =>
      (isPart_of_isIdentifier (hnames' part hpart)).dot_not_mem]

/-- Different files hold the same module only where one makes a package and the other one stands beside it. -/
theorem doubles_of_module (hf : sourceFile? profile f.below = some f)
    (hf' : sourceFile? profile f'.below = some f') (hmodule : f.module = f'.module) (hne : f ≠ f') :
    Doubles f f' ∨ Doubles f' f := by
  obtain ⟨before, stem, hbelow, hpackage, hparts, hnames, hjoined⟩ :=
    moduleOf?_eq_some.mp (sourceFile?_eq_some.mp hf).2.2
  obtain ⟨before', stem', hbelow', hpackage', hparts', hnames', hjoined'⟩ :=
    moduleOf?_eq_some.mp (sourceFile?_eq_some.mp hf').2.2
  have hsame := joinDotted_injective hparts hparts' hnames hnames'
    (hjoined.symm.trans (hmodule.trans hjoined'))
  have hpaths : f.below ≠ f'.below := by
    intro heq
    rw [heq, hf'] at hf
    exact hne (Option.some.inj hf).symm
  unfold moduleNames at hsame
  rw [← hpackage, ← hpackage'] at hsame
  cases hkind : f.isPackage <;> cases hkind' : f'.isPackage <;>
    simp only [hkind, hkind', if_true, Bool.false_eq_true, if_false] at hsame hpackage hpackage'
  · -- two plain modules stand in one directory under one name
    obtain ⟨rfl, rfl⟩ := List.append_singleton_inj.mp hsame
    exact absurd (hbelow.trans hbelow'.symm) hpaths
  · obtain rfl := LawfulBEq.eq_of_beq hpackage'.symm
    rw [← hsame, List.append_assoc] at hbelow'
    exact .inr ⟨before, stem, hbelow', hkind', hbelow, hkind⟩
  · obtain rfl := LawfulBEq.eq_of_beq hpackage.symm
    rw [hsame, List.append_assoc] at hbelow
    exact .inl ⟨before', stem', hbelow, hkind, hbelow', hkind'⟩
  · -- one directory is made a package by one file
    obtain rfl := LawfulBEq.eq_of_beq hpackage.symm
    obtain rfl := LawfulBEq.eq_of_beq hpackage'.symm
    exact absurd (hbelow.trans (hsame ▸ hbelow'.symm)) hpaths

/-! ## 2. What one file does -/

/-- The registry after a file, and why it could not be loaded. Builders are passed over. -/
def visit (t : FileTree) (root : FilePath) (g : Registry) (f : SourceFile) : Registry × Option Failure :=
  if t.isGenerated (f.path root) then (g, none)
  else
    match loadOne t root g f with
    | .ok g => (g, none)
    | .error e => (g, some e)

/-- The files that could not be loaded, and why. -/
def failuresOf (t : FileTree) (root : FilePath) (g : Registry) :
    List SourceFile → List (SourceFile × Failure)
  | [] => []
  | f :: rest => ((visit t root g f).2.map (f, ·)).toList ++ failuresOf t root (visit t root g f).1 rest

/-- What is told of a file that could not be loaded. -/
def sourceError (root : FilePath) (x : SourceFile × Failure) : String :=
  (x.1.path root).text ++ ": " ++ x.2.message

theorem loadAll_cons (t : FileTree) (root : FilePath) (g : Registry) (f : SourceFile)
    (rest : List SourceFile) : (loadAll t root g (f :: rest)).1 =
      (loadAll t root (visit t root g f).1 rest).1 := by
  unfold visit
  rw [loadAll]
  split
  · rfl
  · cases loadOne t root g f <;> rfl

/-- What is told of the sources is told of those that could not be loaded, in order. -/
theorem loadAll_errors (t : FileTree) (root : FilePath) (g : Registry) (files : List SourceFile) :
    (loadAll t root g files).2 = (failuresOf t root g files).map (sourceError root) := by
  induction files generalizing g with
  | nil => rfl
  | cons f rest ih =>
    unfold failuresOf visit
    rw [loadAll]
    split
    · exact ih g
    · cases loadOne t root g f with
      | ok g => exact ih g
      | error e => exact congrArg (_ :: ·) (ih g)

/-- That a module's name is taken. -/
def alreadyLoaded (module : String) : Failure :=
  .badValue ("module " ++ quoted module ++ " is already loaded")

/-- A file that is no builder is loaded unless it cannot be read or its name is taken. -/
theorem loadOne_eq (t : FileTree) (root : FilePath) (g : Registry) (f : SourceFile) :
    loadOne t root g f =
      match t.readBytes (f.path root) with
      | .error fault => .error (.fileSystem fault)
      | .ok content =>
        if (g.module? f.module).isSome then .error (alreadyLoaded f.module)
        else .ok { g with
          modules := g.modules.insert f.module
            (.ofParsed (.ofBytes content (f.path root).text) f.module f.isPackage) } := by
  unfold loadOne Registry.addBytes Registry.add
  cases t.readBytes (f.path root) with
  | error fault => rfl
  | ok content =>
    dsimp only
    rw [(SymbolTable.ofParsed_grows content (f.path root).text f.module f.isPackage).1]
    rfl

/-- A file leaves all modules alone but the one that it holds. -/
theorem visit_other (hm : f.module ≠ m) : (visit t root g f).1.module? m = g.module? m := by
  unfold visit
  split
  · rfl
  · rw [loadOne_eq]
    cases t.readBytes (f.path root) with
    | error fault => rfl
    | ok content =>
      dsimp only
      split
      · next h =>
        split at h
        · cases h
        · cases h
          exact (Table.get?_insert ..).trans (if_neg hm)
      · rfl

/-- All that a file asks of a registry is whether its module is there. -/
theorem visit_own (t : FileTree) (root : FilePath) (h : g.module? f.module = g'.module? f.module) :
    (visit t root g f).1.module? f.module = (visit t root g' f).1.module? f.module ∧
      (visit t root g f).2 = (visit t root g' f).2 := by
  unfold visit
  split
  · exact ⟨h, rfl⟩
  · rw [loadOne_eq, loadOne_eq, ← h]
    cases t.readBytes (f.path root) with
    | error fault => exact ⟨h, rfl⟩
    | ok content =>
      dsimp only
      by_cases htaken : (g.module? f.module).isSome
      · rw [if_pos htaken, if_pos htaken]
        exact ⟨h, rfl⟩
      · rw [if_neg htaken, if_neg htaken]
        dsimp only
        unfold Registry.module?
        rw [Table.get?_insert, Table.get?_insert, if_pos rfl, if_pos rfl]
        exact ⟨rfl, rfl⟩

/-- What is loaded under a name and what is told of it depends on the files of that name only. -/
theorem loadAll_filter (t : FileTree) (root : FilePath) (files : List SourceFile)
    (h : g.module? m = g'.module? m) :
    (loadAll t root g files).1.module? m =
        (loadAll t root g' (files.filter (·.module == m))).1.module? m ∧
      (failuresOf t root g files).filter (·.1.module == m) =
        failuresOf t root g' (files.filter (·.module == m)) := by
  induction files generalizing g g' with
  | nil => exact ⟨h, rfl⟩
  | cons f rest ih =>
    rw [loadAll_cons, failuresOf, List.filter_append]
    by_cases hm : f.module = m
    · subst hm
      obtain ⟨hvisit, hfailure⟩ := visit_own t root h
      obtain ⟨hloaded, hfailures⟩ := ih hvisit
      rw [List.filter_cons_of_pos (by simp), loadAll_cons, failuresOf, hfailures, ← hfailure]
      refine ⟨hloaded, congrArg (· ++ _) ?_⟩
      cases (visit t root g f).2 <;> simp
    · obtain ⟨hloaded, hfailures⟩ := ih ((visit_other hm).trans h)
      rw [List.filter_cons_of_neg (by simpa using hm), hfailures]
      refine ⟨hloaded, ?_⟩
      cases (visit t root g f).2 <;> simp [hm]

/-- The first file that holds a module and can be loaded is what is found under its name. -/
theorem visit_new {content : Bytes} (hnew : g.module? f.module = none)
    (hread : t.readBytes (f.path root) = .ok content)
    (hplain : FileTree.startsGenerated content = false) :
    (visit t root g f).2 = none ∧ (visit t root g f).1.module? f.module =
      some (.ofParsed (.ofBytes content (f.path root).text) f.module f.isPackage) := by
  unfold visit
  rw [if_neg (by simpa [FileTree.isGenerated, hread] using hplain), loadOne_eq, hread, hnew]
  exact ⟨rfl, (Table.get?_insert ..).trans (if_pos rfl)⟩

/-- Any further file that holds it is a failure, and nothing else. -/
theorem visit_taken {content : Bytes} (htaken : (g.module? f.module).isSome = true)
    (hread : t.readBytes (f.path root) = .ok content)
    (hplain : FileTree.startsGenerated content = false) :
    visit t root g f = (g, some (alreadyLoaded f.module)) := by
  unfold visit
  rw [if_neg (by simpa [FileTree.isGenerated, hread] using hplain), loadOne_eq, hread]
  dsimp only
  rw [if_pos htaken]

/-- What is told of the sources stands in the report of a run. -/
theorem run_sourceErrors {r : Request} {cancelled : Moment → Bool} {report : Report}
    {manifest : Manifest} {t' : FileTree} (h : run r cancelled t = (.ok (report, manifest), t')) :
    report.sourceErrors = (load t (r.root t) r.profile).2 := by
  unfold run at h
  dsimp only at h
  split at h
  · cases h
  · unfold conclude at h
    split at h
    · cases h
      rfl
    · dsimp only at h
      split at h
      · cases h
      · cases h
        rfl

/-! ## 3. What is found -/

/-- Of the files that are found, no two have the same path, and they are in the order of their paths. -/
theorem discover_strict (hs : t.Sound) (root : FilePath) (profile : Profile) :
    (discover t root profile).Pairwise fun f f' => f.below < f'.below := by
  refine ((discover_sorted t root profile).and (discover_nodup hs root profile)).imp_of_mem ?_
  rintro f f' hf hf' ⟨hle, hne⟩
  by_contra hlt
  have hbelow := List.le_antisymm hle hlt
  have hfile := (mem_discover.mp hf).2.1
  rw [hbelow, (mem_discover.mp hf').2.1] at hfile
  exact hne (Option.some.inj hfile).symm

/-- What a file holds can be read off its names. -/
theorem module_of_below {before : List String} {stem : String}
    (hf : sourceFile? profile f.below = some f) (hbelow : f.below = before ++ [stem ++ ".py"]) :
    f.isPackage = (stem == packageStem) ∧ f.module = joinDotted (moduleNames before stem) := by
  obtain ⟨before', stem', hbelow', hpackage, -, -, hmodule⟩ :=
    moduleOf?_eq_some.mp (sourceFile?_eq_some.mp hf).2.2
  obtain ⟨rfl, hname⟩ := List.append_singleton_inj.mp (hbelow.symm.trans hbelow')
  have hstem := congrArg stem? hname
  rw [stem?_ending, stem?_ending] at hstem
  obtain rfl := Option.some.inj hstem
  exact ⟨hpackage, hmodule⟩

theorem Doubles.module (hf : sourceFile? profile f.below = some f)
    (hf' : sourceFile? profile f'.below = some f') (h : Doubles f f') : f.module = f'.module := by
  obtain ⟨before, stem, hbelow, -, hbelow', hplain⟩ := h
  have hfull : f.below = (before ++ [stem]) ++ [packageStem ++ ".py"] := by
    rw [hbelow, List.append_assoc]
    rfl
  obtain ⟨-, hmodule⟩ := module_of_below hf hfull
  obtain ⟨hkind, hmodule'⟩ := module_of_below hf' hbelow'
  rw [hmodule, hmodule']
  unfold moduleNames
  rw [← hkind, hplain, if_neg Bool.false_ne_true, if_pos (beq_self_eq_true _)]

/-- Of one kind, packages or plain modules, one file at most holds a module. -/
theorem eq_of_module (hf : sourceFile? profile f.below = some f)
    (hf' : sourceFile? profile f'.below = some f') (hmodule : f.module = f'.module)
    (hkind : f.isPackage = f'.isPackage) : f = f' := by
  by_contra hne
  rcases doubles_of_module hf hf' hmodule hne with h | h
  · obtain ⟨-, -, -, hpackage, -, hplain⟩ := h
    rw [hkind, hplain] at hpackage
    cases hpackage
  · obtain ⟨-, -, -, hpackage, -, hplain⟩ := h
    rw [← hkind, hplain] at hpackage
    cases hpackage

/-- A package and the plain module beside it are all that holds their module, in this order. -/
theorem discover_filter (hs : t.Sound) (hf : f ∈ discover t root profile)
    (hf' : f' ∈ discover t root profile) (hmodule : f.module = f'.module) (h : Doubles f f') :
    (discover t root profile).filter (·.module == f.module) = [f, f'] := by
  have hbefore := h.before
  obtain ⟨-, -, -, hpackage, -, hplain⟩ := h
  have hmem : ∀ x, x ∈ (discover t root profile).filter (·.module == f.module) ↔ x ∈ [f, f'] := by
    intro x
    rw [List.mem_filter, beq_iff_eq, List.mem_cons, List.mem_singleton]
    constructor
    · rintro ⟨hx, hsame⟩
      have hfound := fun {y} (hy : y ∈ discover t root profile) => (mem_discover.mp hy).2.1
      cases hkind : x.isPackage with
      | true => exact .inl (eq_of_module (hfound hx) (hfound hf) hsame (hkind.trans hpackage.symm))
      | false =>
        exact .inr (eq_of_module (hfound hx) (hfound hf') (hsame.trans hmodule)
          (hkind.trans hplain.symm))
    · rintro (rfl | rfl)
      · exact ⟨hf, rfl⟩
      · exact ⟨hf', hmodule.symm⟩
  have hne : f ≠ f' := by
    rintro rfl
    exact List.lt_irrefl _ hbefore
  have hperm := (List.perm_ext_iff_of_nodup ((discover_nodup hs root profile).filter _)
    (List.nodup_cons.mpr ⟨by simpa using hne, List.nodup_singleton f'⟩)).mpr hmem
  refine hperm.eq_of_pairwise (fun x y _ _ hxy hyx => absurd hyx (List.lt_asymm hxy))
    ((discover_strict hs root profile).filter _) ?_
  exact List.pairwise_pair.mpr hbefore

/-- Of a package and the plain module beside it, the package is kept. -/
theorem load_doubles (hs : t.Sound) (hf : f ∈ discover t root profile)
    (hf' : f' ∈ discover t root profile) (h : Doubles f f') (hmodule : f.module = f'.module)
    {c c' : Bytes} (hread : t.readBytes (f.path root) = .ok c)
    (hread' : t.readBytes (f'.path root) = .ok c') (hplain : FileTree.startsGenerated c = false)
    (hplain' : FileTree.startsGenerated c' = false) :
    (load t root profile).1.module? f.module =
        some (.ofParsed (.ofBytes c (f.path root).text) f.module true) ∧
      (failuresOf t root .empty (discover t root profile)).filter (·.1.module == f.module) =
        [(f', alreadyLoaded f.module)] := by
  have hempty : Registry.empty.module? f.module = Registry.empty.module? f.module := rfl
  obtain ⟨hloaded, hfailures⟩ := loadAll_filter t root (discover t root profile) hempty
  rw [discover_filter hs hf hf' hmodule h] at hloaded hfailures
  obtain ⟨hnone, hnew⟩ := visit_new (g := .empty) rfl hread hplain
  have htaken := visit_taken (g := (visit t root .empty f).1)
    (by rw [← hmodule, hnew]; rfl) hread' hplain'
  obtain ⟨-, -, -, hpackage, -, -⟩ := h
  rw [hpackage] at hnew
  constructor
  · unfold load
    rw [hloaded, loadAll_cons, loadAll_cons, htaken]
    exact hnew
  · rw [hfailures, failuresOf, failuresOf, hnone, htaken, hmodule]
    rfl

/-- The files that are found are those below the root whose path holds a module, with no directory on the
way that is skipped. They are found once, in the order of their paths. Two of them hold the same module
only where one makes a package and the other one stands beside it; the package comes first, and where both
can be read and are no builders, the package is loaded and the plain module is the one source error of
this name. -/
theorem discover_exact (hs : t.Sound) (root : FilePath) (profile : Profile) :
    (∀ f, f ∈ discover t root profile ↔
      t.isDirectory root = true ∧ (∃ e, (t.locate root ++ f.below, e) ∈ t.entries) ∧
        (∀ directory ∈ f.below.dropLast, isSkipped profile directory = false) ∧
        ∃ before stem, f.below = before ++ [stem ++ ".py"] ∧ f.isPackage = (stem == packageStem) ∧
          moduleNames before stem ≠ [] ∧
          (∀ part ∈ moduleNames before stem, isIdentifier part = true) ∧
          f.module = joinDotted (moduleNames before stem)) ∧
    (discover t root profile).Pairwise (fun f f' => f.below < f'.below) ∧
    (∀ f ∈ discover t root profile, ∀ f' ∈ discover t root profile,
      f.module = f'.module ∧ f ≠ f' ↔ Doubles f f' ∨ Doubles f' f) ∧
    (∀ f ∈ discover t root profile, ∀ f' ∈ discover t root profile, Doubles f f' →
      f.below < f'.below ∧
      ∀ c c', t.readBytes (f.path root) = .ok c → t.readBytes (f'.path root) = .ok c' →
        FileTree.startsGenerated c = false → FileTree.startsGenerated c' = false →
          (load t root profile).1.module? f.module =
              some (.ofParsed (.ofBytes c (f.path root).text) f.module true) ∧
            (failuresOf t root .empty (discover t root profile)).filter (·.1.module == f.module) =
              [(f', alreadyLoaded f.module)]) ∧
    (load t root profile).2 =
      (failuresOf t root .empty (discover t root profile)).map (sourceError root) ∧
    ∀ (r : Request) cancelled report manifest t', r.root t = root → r.profile = profile →
      run r cancelled t = (.ok (report, manifest), t') →
        report.sourceErrors = (load t root profile).2 := by
  have hfound : ∀ {f}, f ∈ discover t root profile → sourceFile? profile f.below = some f :=
    fun hf => (mem_discover.mp hf).2.1
  refine ⟨fun f => ?_, discover_strict hs root profile, fun f hf f' hf' => ⟨?_, ?_⟩,
    fun f hf f' hf' h => ⟨h.before, ?_⟩, loadAll_errors t root .empty _,
    fun r cancelled report manifest t' hroot hprofile hrun => ?_⟩
  · rw [mem_discover, sourceFile?_eq_some, moduleOf?_eq_some, List.any_eq_false]
    simp only [true_and, Bool.not_eq_true]
    tauto
  · rintro ⟨hmodule, hne⟩
    exact doubles_of_module (hfound hf) (hfound hf') hmodule hne
  · have hne : ∀ {x y : SourceFile}, Doubles x y → x ≠ y := by
      rintro x y h rfl
      exact List.lt_irrefl _ h.before
    rintro (h | h)
    · exact ⟨h.module (hfound hf) (hfound hf'), hne h⟩
    · exact ⟨(h.module (hfound hf') (hfound hf)).symm, (hne h).symm⟩
  · intro c c' hread hread' hplain hplain'
    exact load_doubles hs hf hf' h (h.module (hfound hf) (hfound hf')) hread hread' hplain hplain'

  · rw [run_sourceErrors hrun, hroot, hprofile]

/-- A package with a plain module of its name beside it. -/
def doubled : FileTree where
  entries := [(["p"], .directory), (["p", "foo.py"], .file (encode "A = 1\n")),
    (["p", "foo"], .directory), (["p", "foo", "__init__.py"], .file (encode "B = 2\n"))]
  here := []

def package : SourceFile := ⟨["p", "foo", "__init__.py"], "p.foo", true⟩

def beside : SourceFile := ⟨["p", "foo.py"], "p.foo", false⟩

theorem discover_exact_doubled : doubled.Sound ∧
    discover doubled (Location.path []) .standard = [package, beside] ∧
    ((load doubled (Location.path []) .standard).1.module? "p.foo").map (·.path) =
      some "/p/foo/__init__.py" ∧
    (failuresOf doubled (Location.path []) .empty [package, beside]).filter
      (·.1.module == "p.foo") = [(beside, alreadyLoaded "p.foo")] ∧
    sourceError (Location.path []) (beside, alreadyLoaded "p.foo") =
      "/p/foo.py: module 'p.foo' is already loaded" := by
  have hs : doubled.Sound := .of_entries (by decide) (by decide) rfl (by decide)
  have hfound : discover doubled (Location.path []) .standard = [package, beside] := by decide +kernel
  obtain ⟨-, -, -, hdoubles, -, -⟩ := discover_exact hs (Location.path []) .standard
  rw [hfound] at hdoubles
  have hpackage : Doubles package beside := ⟨["p"], "foo", by decide, rfl, by decide, rfl⟩
  obtain ⟨hloaded, hfailure⟩ := (hdoubles package (by simp) beside (by simp) hpackage).2
    (encode "B = 2\n") (encode "A = 1\n") (by decide +kernel) (by decide +kernel) (by decide +kernel)
    (by decide +kernel)
  refine ⟨hs, hfound, ?_, hfailure, by decide +kernel⟩
  have hloaded : (load doubled (Location.path []) .standard).1.module? "p.foo" = _ := hloaded
  rw [hloaded]
  decide +kernel

end Generation

end FluentBuilders
