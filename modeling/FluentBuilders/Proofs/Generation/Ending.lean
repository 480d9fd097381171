import FluentBuilders.Proofs.Generation.Standing

/-!
Runs that came to their end.

1. `run_completed`: what such a run did once its rounds were over; `Request.Writing`: it removed orphans
   and wrote its outputs.
2. What its manifest says: names of modules, and the sources that they depend on.
3. `run_leaves`: what stands in its tree. `run_completes`: over the outputs of an earlier run, a run
   comes to its end if its rounds do.
-/

namespace FluentBuilders

open Text

namespace Generation

variable {r : Request} {t t₁ rounded : FileTree} {cancelled : Moment → Bool} {report : Report}
  {manifest : Manifest} {s : Rounds.State FileTree}

/-! ## 1. After the rounds -/

/-- The entries that the orphan step goes through. -/
def Request.entries (r : Request) (t : FileTree) : List ManifestEntry :=
  ((Manifest.load? t ((r.reports t).child manifestName)).map (·.artifacts)).getD []

/-- What a run that came to its end did after its rounds: nothing, or it removed orphans and wrote its
outputs. -/
theorem run_completed (hrun : run r cancelled t = (.ok (report, manifest), t₁)) :
    ∃ s rounded, r.rounds cancelled t = (.ok s, rounded) ∧ manifest = .ofRun r.profile s.run ∧
      ((r.check || s.run.cancelled) = true ∧ t₁ = rounded ∨
        report.removedOrphans = sortTexts (removeOrphans (manifest.artifacts.map (·.module))
          (r.output t) (r.entries rounded) rounded).1 ∧
        writeOutputs (r.reports rounded) report manifest r.time (removeOrphans
          (manifest.artifacts.map (·.module)) (r.output t) (r.entries rounded) rounded).2 =
            (none, t₁)) := by
  unfold run at hrun
  dsimp only at hrun
  split at hrun
  · cases hrun
  next s rounded hrounds =>
  refine ⟨s, rounded, hrounds, ?_⟩
  unfold conclude at hrun
  split at hrun
  · next hidle =>
    cases hrun
    exact ⟨rfl, .inl ⟨hidle, rfl⟩⟩
  · dsimp only at hrun
    split at hrun
    · cases hrun
    next t₂ hwrite =>
    cases hrun
    exact ⟨rfl, .inr ⟨rfl, hwrite⟩⟩

/-- A run that is no check and is not cancelled. -/
def Request.Writing (r : Request) (cancelled : Moment → Bool) (t : FileTree) : Prop :=
  r.check = false ∧ ∀ s rounded, r.rounds cancelled t = (.ok s, rounded) → s.run.cancelled = false

theorem Request.writing (hcheck : r.check = false) (t : FileTree) : r.Writing (fun _ => false) t :=
  ⟨hcheck, fun _ _ => Rounds.loop_not_cancelled (surroundings_steady hcheck _)⟩

/-- Such a run removed orphans and wrote its outputs. -/
theorem run_written (hwriting : r.Writing cancelled t)
    (hrun : run r cancelled t = (.ok (report, manifest), t₁)) :
    ∃ s rounded, r.rounds cancelled t = (.ok s, rounded) ∧ manifest = .ofRun r.profile s.run ∧
      report.removedOrphans = sortTexts (removeOrphans (manifest.artifacts.map (·.module))
        (r.output t) (r.entries rounded) rounded).1 ∧
      writeOutputs (r.reports rounded) report manifest r.time (removeOrphans
        (manifest.artifacts.map (·.module)) (r.output t) (r.entries rounded) rounded).2 =
          (none, t₁) := by
  obtain ⟨s, rounded, hrounds, hmanifest, hend⟩ := run_completed hrun
  rcases hend with ⟨hidle, -⟩ | hend
  · rw [hwriting.1, hwriting.2 s rounded hrounds] at hidle
    cases hidle
  · exact ⟨s, rounded, hrounds, hmanifest, hend⟩

/-! ## 2. The manifest -/

/-- The entries of a manifest are those of the artifacts of its run. -/
theorem mem_manifest {profile : Profile} {run : Run} {m : String} :
    m ∈ (Manifest.ofRun profile run).artifacts.map (·.module) ↔
      ∃ a ∈ run.artifacts, m = a.module := by
  unfold Manifest.ofRun Manifest.current
  rw [List.map_map, List.mem_map]
  constructor
  · rintro ⟨a, ha, rfl⟩
    exact ⟨a, (sortByKey_perm _ _).subset ha, rfl⟩
  · rintro ⟨a, ha, rfl⟩
    exact ⟨a, (sortByKey_perm _ _).symm.subset ha, rfl⟩

theorem rounds_fit (h : r.rounds cancelled t = (.ok s, rounded)) : ∀ a ∈ s.run.artifacts, a.Fit := by
  intro a ha
  obtain ⟨g, hg, -, d, -, hgenerate⟩ := Rounds.run_made (load_loaded t (r.root t) r.profile) h a ha
  exact hg.fit hgenerate

/-- What a run writes into its manifest are names of modules. -/
theorem manifest_names (hrun : run r cancelled t = (.ok (report, manifest), t₁)) :
    ∀ e ∈ manifest.artifacts, IsModuleName e.module := by
  obtain ⟨s, rounded, hrounds, rfl, -⟩ := run_completed hrun
  intro e he
  obtain ⟨a, ha, hmodule⟩ := mem_manifest.mp (List.mem_map_of_mem he)
  rw [hmodule]
  exact (rounds_fit hrounds a ha).module

theorem manifest_version (hrun : run r cancelled t = (.ok (report, manifest), t₁)) :
    versionFault? manifest.schemaVersion = none := by
  obtain ⟨-, -, -, rfl, -⟩ := run_completed hrun
  exact versionFault?_current

/-- The modules that a run loads have the places and the digests of their sources. -/
theorem load_values {root : FilePath} {profile : Profile} {table : SymbolTable}
    (h : table ∈ (load t root profile).1.modules.values) :
    ∃ x ∈ sourcesOf t root profile,
      Registry.handleOf table = ⟨(x.1.path root).text, Digest.sha256 x.2⟩ := by
  have hfold : ∀ (sources : List (SourceFile × Bytes)) (g : Registry),
      table ∈ (sources.foldl (addSource root) g).modules.values → table ∈ g.modules.values ∨
        ∃ x ∈ sources, Registry.handleOf table = ⟨(x.1.path root).text, Digest.sha256 x.2⟩ := by
    intro sources
    induction sources with
    | nil => exact fun g => .inl
    | cons x rest ih =>
      intro g hmem
      rcases ih _ hmem with hmem | ⟨y, hy, hhandle⟩
      · unfold addSource at hmem
        split at hmem
        · next g' hadd =>
          unfold Table.values at hmem
          rw [Registry.addBytes_entries hadd, List.map_append, List.mem_append] at hmem
          rcases hmem with hmem | hmem
          · exact .inl hmem
          · obtain ⟨-, hpath, hdigest, -⟩ :=
              SymbolTable.ofParsed_grows x.2 (x.1.path root).text x.1.module x.1.isPackage
            rw [List.map_singleton, List.mem_singleton] at hmem
            refine .inr ⟨x, List.mem_cons_self, ?_⟩
            rw [hmem, Registry.handleOf, hpath, hdigest]
            rfl
        · exact .inl hmem
      · exact .inr ⟨y, List.mem_cons_of_mem _ hy, hhandle⟩
  rw [load_eq] at h
  rcases hfold _ _ h with hnone | hsource
  · cases hnone
  · exact hsource

/-- What a manifest records as dependencies are sources that were loaded, each with the digest of its
content. -/
theorem manifest_dependencies (hrun : run r cancelled t = (.ok (report, manifest), t₁)) :
    ∀ e ∈ manifest.artifacts, ∀ f ∈ e.dependencies, ∃ x ∈ sourcesOf t (r.root t) r.profile,
      f = ⟨(x.1.path (r.root t)).text, Digest.sha256 x.2⟩ := by
  obtain ⟨s, rounded, hrounds, rfl, -⟩ := run_completed hrun
  intro e he f hf
  obtain ⟨a, ha, rfl⟩ := List.mem_map.mp he
  have hmade := Rounds.run_made (load_loaded t (r.root t) r.profile) hrounds a
    ((sortByKey_perm _ _).subset ha)
  obtain ⟨table, htable, hhandle⟩ := hmade.dependencies f hf
  obtain ⟨x, hx, hsource⟩ := load_values htable
  exact ⟨x, hx, hhandle.trans hsource⟩

/-! ## 3. What is left -/

/-- A run has written outputs and builders of its manifest, and left its outputs. Whatever its orphan
step has removed is gone, but nothing else. -/
theorem run_later (hs : t.Sound) (hwriting : r.Writing cancelled t)
    (hrun : run r cancelled t = (.ok (report, manifest), t₁))
    (hrounds : r.rounds cancelled t = (.ok s, rounded)) {removed : Location → Prop}
    (hcleared : FileTree.Later (fun _ => False) removed rounded
      (removeOrphans (manifest.artifacts.map (·.module)) (r.output t) (r.entries rounded) rounded).2) :
    FileTree.Later
        (fun l => r.IsOutput t l ∨ ∃ e ∈ manifest.artifacts, l = destination (r.out t) e.module)
        removed t t₁ ∧
      Outputs (r.reports t₁) manifest t₁ := by
  obtain ⟨s', rounded', hrounds', hmanifest, -, hwrite⟩ := run_written hwriting hrun
  rw [hrounds] at hrounds'
  cases hrounds'
  have htouched := rounds_touch hs hrounds
  obtain ⟨hwritten, houtputs⟩ := writeOutputs_ok (hcleared.sound (htouched.sound hs)) hwrite
  rw [reports_later htouched] at hwritten houtputs
  rw [hcleared.locate, htouched.locate] at hwritten
  have hlater : FileTree.Later
      (fun l => r.IsOutput t l ∨ ∃ e ∈ manifest.artifacts, l = destination (r.out t) e.module)
      removed t t₁ := by
    refine (htouched.mono (fun l hl => ?_) fun _ => False.elim).trans
      ((hcleared.mono (fun _ => False.elim) fun _ => id).trans
        (hwritten.mono (fun _ => Or.inl) fun _ => False.elim))
    obtain ⟨a, ha, rfl⟩ := hl
    obtain ⟨e, he, hmodule⟩ := List.mem_map.mp (mem_manifest.mpr ⟨a, ha, rfl⟩)
    exact .inr ⟨e, hmanifest ▸ he, by rw [hmodule]⟩
  refine ⟨hlater, ?_⟩
  rw [reports_later hlater]
  exact houtputs

/-- Whatever the orphan step has removed, outputs and builders of the manifest are all that is new. -/
theorem run_leaves (hs : t.Sound) (hwriting : r.Writing cancelled t)
    (hrun : run r cancelled t = (.ok (report, manifest), t₁)) :
    FileTree.Later
        (fun l => r.IsOutput t l ∨ ∃ e ∈ manifest.artifacts, l = destination (r.out t) e.module)
        (fun _ => True) t t₁ ∧
      Outputs (r.reports t₁) manifest t₁ := by
  obtain ⟨s, rounded, hrounds, -⟩ := run_completed hrun
  exact run_later hs hwriting hrun hrounds
    ((removeOrphans_builders _ _ _ _).mono (fun _ => id) fun _ _ => trivial)

/-- Where outputs stand, the orphan step goes through the entries of their manifest. -/
theorem Outputs.entries {previous : Manifest} (h : Outputs (r.reports t) previous t)
    (hversion : versionFault? previous.schemaVersion = none) :
    r.entries t = previous.artifacts := by
  unfold Request.entries
  rw [h.load? hversion]
  rfl

/-- Rounds leave the outputs of an earlier run. -/
theorem rounds_outputs (hs : t.Sound) {previous : Manifest}
    (houtputs : Outputs (r.reports t) previous t)
    (hrounds : r.rounds cancelled t = (.ok s, rounded)) :
    Outputs (r.reports rounded) previous rounded := by
  have htouched := rounds_touch hs hrounds
  rw [reports_later htouched]
  refine houtputs.later htouched fun l hl => ⟨?_, id⟩
  rintro ⟨a, -, rfl⟩
  exact output_ne_destination (r := r) (t := t) hl _ _ rfl

/-- Over the outputs of an earlier run, a run whose rounds end well comes to its end. -/
theorem run_completes (hs : t.Sound) {previous : Manifest}
    (houtputs : Outputs (r.reports t) previous t)
    (hversion : versionFault? previous.schemaVersion = none)
    (hnames : ∀ e ∈ previous.artifacts, IsModuleName e.module)
    (hrounds : r.rounds cancelled t = (.ok s, rounded)) :
    ∃ report t₁, run r cancelled t = (.ok (report, .ofRun r.profile s.run), t₁) := by
  have houtputs₁ := rounds_outputs hs houtputs hrounds
  have hs₁ := (rounds_touch hs hrounds).sound hs
  rw [run_eq hrounds]
  unfold conclude
  split
  · exact ⟨_, _, rfl⟩
  dsimp only
  rw [houtputs₁.load? hversion, Option.map_some, Option.getD_some]
  have hcleared : FileTree.Later (fun _ => False) (OrphanAt
      ((Manifest.ofRun r.profile s.run).artifacts.map (·.module)) (r.out t) rounded) rounded
      (removeOrphans _ (r.output t) previous.artifacts rounded).2 :=
    removeOrphans_later hs₁ (hs.dots_not_mem_locate _) hnames
  have houtputs₂ := houtputs₁.later hcleared fun l hl => ⟨id, by
    rintro ⟨m, c, -, -, rfl, -⟩
    exact output_ne_destination (r := r) (t := rounded) hl _ _ rfl⟩
  rw [writeOutputs_there (hcleared.sound hs₁) houtputs₂]
  exact ⟨_, _, rfl⟩

/-- A source that is taken away leaves the outputs. -/
theorem Outputs.unsourced {c : Bytes} {k : Location} {name : String}
    (houtputs : Outputs (r.reports t) manifest t) (hname : (stem? name).isSome = true)
    (hsource : t.get? (k ++ [name]) = some (.file c)) :
    FileTree.Later (fun _ => False) (· = k ++ [name]) t (t.erase (k ++ [name])) ∧
      Outputs (r.reports (t.erase (k ++ [name]))) manifest (t.erase (k ++ [name])) := by
  have herased : FileTree.Later (fun _ => False) (· = k ++ [name]) t (t.erase (k ++ [name])) :=
    .erase hsource rfl
  rw [reports_later herased]
  exact ⟨herased, houtputs.later herased fun l hl => ⟨id, output_ne_source (r := r) hl hname⟩⟩

end Generation

end FluentBuilders
