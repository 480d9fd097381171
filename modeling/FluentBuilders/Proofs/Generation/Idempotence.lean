import FluentBuilders.Proofs.Discovery
import FluentBuilders.Proofs.Generation.Conclusion
import FluentBuilders.Proofs.Generation.Publishing
import FluentBuilders.Proofs.Manifest
import FluentBuilders.Proofs.Rounds.Likeness

/-!
A second run over the tree that a first one left.

1. `Ended`: what a run that came to its end has done to its tree.
2. Rounds write builders; behind them only outputs and orphans change.
3. Publishing the same builders again changes none of them.
4. The second run loads the same sources.
5. `run_again`: the second run as a whole, and `run_again_misled`: a manifest of another hand can lead
   it astray.
-/

namespace FluentBuilders

open Text

namespace Generation

variable {r : Request} {t t₁ : FileTree} {report : Report} {manifest : Manifest}

/-! ## 1. A run that came to its end -/

theorem load_loaded (t : FileTree) (root : FilePath) (profile : Profile) :
    (load t root profile).1.Loaded := by
  rw [load_eq]
  have hfold : ∀ (sources : List (SourceFile × Bytes)) (g : Registry), g.Loaded →
      (sources.foldl (addSource root) g).Loaded := by
    intro sources
    induction sources with
    | nil => exact fun g hg => hg
    | cons x rest ih =>
      intro g hg
      refine ih _ ?_
      unfold addSource
      split
      · next hadd => exact .add hg hadd
      · exact hg
  exact hfold _ _ .empty

/-- The output directory of a request. -/
def Request.out (r : Request) (t : FileTree) : Location :=
  t.locate (r.outputDirectory.getD (r.root t))

/-- The state before the first round. -/
def Request.before (r : Request) (t : FileTree) : Rounds.State FileTree :=
  ⟨(load t (r.root t) r.profile).1, t, [], .empty⟩

/-- The artifacts that a run sends. -/
def Request.sent (r : Request) (t : FileTree) : List Artifact :=
  Rounds.sent (surroundings r (r.output t) fun _ => false) r.profile
    (max 1 r.profile.maxRounds.toNat) 1 (r.before t)

/-- The artifacts that a run sends, each with the tree that it meets. -/
def Request.sendings (r : Request) (t : FileTree) : List (Artifact × FileTree) :=
  FluentBuilders.sendings (publish (Location.path (r.out t))) (r.sent t) t

/-- Where report and manifest go. -/
def Request.IsOutput (r : Request) (t : FileTree) (l : Location) : Prop :=
  l = t.locate (r.reports t) ++ [reportName] ∨ l = t.locate (r.reports t) ++ [manifestName]

/-- How a run ended: the last state of its rounds, with the tree that they left, and the outputs that
were written once orphans were gone. -/
structure Ended (r : Request) (t : FileTree) (s : Rounds.State FileTree) (rounded t₁ : FileTree) :
    Prop where
  rounds : Rounds.run (surroundings r (r.output t) fun _ => false) r.profile
    (load t (r.root t) r.profile).1 t = (.ok s, rounded)
  outputs : ∃ report, writeOutputs (r.reports rounded) report (.ofRun r.profile s.run) r.time
    (removeOrphans ((Manifest.ofRun r.profile s.run).artifacts.map (·.module)) (r.output t)
      (((Manifest.load? rounded ((r.reports rounded).child manifestName)).map (·.artifacts)).getD [])
      rounded).2 = (none, t₁)

/-- What a run does once its rounds are over. -/
theorem run_eq {cancelled : Moment → Bool} {s : Rounds.State FileTree} {rounded : FileTree}
    (h : Rounds.run (surroundings r (r.output t) cancelled) r.profile
      (load t (r.root t) r.profile).1 t = (.ok s, rounded)) :
    run r cancelled t = conclude r (r.output t) (r.reports rounded) s.run.cancelled
      (.ofRun r.profile (r.root t).text (r.output t).text r.check
        (load t (r.root t) r.profile).2 s.run s.registry) (.ofRun r.profile s.run) rounded := by
  unfold run
  dsimp only
  rw [h]

theorem run_ended (hcheck : r.check = false)
    (hrun : run r (fun _ => false) t = (.ok (report, manifest), t₁)) :
    ∃ s rounded removed, Ended r t s rounded t₁ ∧ manifest = .ofRun r.profile s.run ∧
      report = { Report.ofRun r.profile (r.root t).text (r.output t).text false
        (load t (r.root t) r.profile).2 s.run s.registry with removedOrphans := removed } := by
  unfold run at hrun
  dsimp only at hrun
  split at hrun
  · cases hrun
  next s rounded hrounds =>
  have hcancelled : s.run.cancelled = false :=
    Rounds.loop_not_cancelled (surroundings_steady hcheck _) hrounds
  unfold conclude at hrun
  rw [hcheck, hcancelled, Bool.false_or, if_neg Bool.false_ne_true] at hrun
  dsimp only at hrun
  split at hrun
  · cases hrun
  next t₂ hwrite =>
  cases hrun
  exact ⟨s, rounded, _, ⟨hrounds, _, hwrite⟩, rfl, rfl⟩

section Ended

variable {s : Rounds.State FileTree} {rounded : FileTree} {l : Location} {c : Bytes}

theorem before_account (r : Request) (t : FileTree) :
    Rounds.Account r.profile.marker [] (r.before t) :=
  .start _ (load_loaded t (r.root t) r.profile).sound t

theorem sent_fit (hcheck : r.check = false) (h : Ended r t s rounded t₁) :
    ∀ a ∈ r.sent t, a.Fit := fun _ =>
  Rounds.sent_fit (surroundings_steady hcheck _) (before_account r t) h.rounds

theorem sent_names (hcheck : r.check = false) (h : Ended r t s rounded t₁) :
    ∀ a ∈ r.sent t, IsModuleName a.module := fun a ha => (sent_fit hcheck h a ha).module

theorem rounded_eq (hcheck : r.check = false) (h : Ended r t s rounded t₁) :
    rounded = worldAfter (publish (Location.path (r.out t))) (r.sent t) t :=
  (Rounds.loop_world (surroundings_steady hcheck _) h.rounds).1

/-- The rounds write builders and nothing else. -/
theorem rounded_later (hs : t.Sound) (hcheck : r.check = false) (h : Ended r t s rounded t₁) :
    FileTree.Later (fun l => ∃ a ∈ r.sent t, l = destination (r.out t) a.module) (fun _ => False) t
      rounded := by
  rw [rounded_eq hcheck h]
  exact worldAfter_later hs (hs.dots_not_mem_locate _) (sent_names hcheck h)

/-! ## 2. What it leaves -/

section Later

variable {t' : FileTree} {written removed : Location → Prop}

theorem root_later (h : FileTree.Later written removed t t') (r : Request) :
    r.root t' = r.root t := by
  unfold Request.root FileTree.resolve
  rw [h.locate]

theorem output_later (h : FileTree.Later written removed t t') (r : Request) :
    r.output t' = r.output t := by
  unfold Request.output FileTree.resolve
  rw [root_later h, h.locate]

theorem out_later (h : FileTree.Later written removed t t') (r : Request) :
    r.out t' = r.out t := by
  unfold Request.out
  rw [root_later h, h.locate]

theorem reports_later (h : FileTree.Later written removed t t') (r : Request) :
    r.reports t' = r.reports t := by
  unfold Request.reports
  rw [output_later h]

end Later

/-- An output is no builder's file, and no module's. -/
theorem IsOutput.ending {r : Request} (h : r.IsOutput t l) :
    ∃ before name, l = before ++ [name] ∧ (stem? name).isSome = false := by
  rcases h with rfl | rfl
  · exact ⟨_, _, rfl, by decide⟩
  · exact ⟨_, _, rfl, by decide⟩

theorem output_ne_destination {r : Request} (h : r.IsOutput t l) (out : Location) (m : String) :
    l ≠ destination out m := by
  obtain ⟨before, name, rfl, hname⟩ := IsOutput.ending h
  rw [destination_eq]
  intro heq
  obtain ⟨-, hlast⟩ := List.append_inj' heq rfl
  rw [List.singleton_inj.mp hlast, stem?_ending] at hname
  cases hname

/-- A manifest that is found later stood there before, unless it was written since. -/
theorem previous_later {written removed : Location → Prop} {t' : FileTree} (hs : t.Sound)
    (hlater : FileTree.Later written removed t t')
    (hkept : ¬ written (t.locate (r.reports t) ++ [manifestName])) {previous : Manifest}
    (h : Manifest.load? t' ((r.reports t').child manifestName) = some previous) :
    Manifest.load? t (t.resolve ((r.reports t).child manifestName)) = some previous := by
  rw [reports_later hlater] at h
  obtain ⟨c, hlook, hagain⟩ := Manifest.load?_file h
  have hget := FileTree.get?_of_look hlook
  rw [isOutput_manifest.locate, hlater.locate] at hget
  refine hagain _ _ ((hs.look_iff (hs.dots_not_mem_locate _)).mpr ?_)
  rw [isOutput_manifest.locate]
  exact hlater.old _ c hkept hget

theorem manifest_ne_destination (r : Request) (t : FileTree) (out : Location) (m : String) :
    t.locate (r.reports t) ++ [manifestName] ≠ destination out m :=
  output_ne_destination (r := r) (t := t) (.inr rfl) out m

/-- The manifest of the run before, which the rounds leave alone. -/
theorem previous_plain (hs : t.Sound) (hcheck : r.check = false) (h : Ended r t s rounded t₁)
    (hprevious : ∀ previous, Manifest.load? t (t.resolve ((r.reports t).child manifestName)) =
      some previous → ∀ e ∈ previous.artifacts, IsModuleName e.module) :
    ∀ e ∈ ((Manifest.load? rounded ((r.reports rounded).child manifestName)).map
      (·.artifacts)).getD [], IsModuleName e.module := by
  cases hload : Manifest.load? rounded ((r.reports rounded).child manifestName) with
  | none => exact fun e he => by cases he
  | some previous =>
    refine hprevious previous (previous_later hs (rounded_later hs hcheck h) ?_ hload)
    rintro ⟨a, -, hl⟩
    exact manifest_ne_destination r t _ _ hl

/-- After the rounds, orphans are removed and the outputs written. -/
theorem ended_later (hs : t.Sound) (hcheck : r.check = false) (h : Ended r t s rounded t₁)
    (hprevious : ∀ previous, Manifest.load? t (t.resolve ((r.reports t).child manifestName)) =
      some previous → ∀ e ∈ previous.artifacts, IsModuleName e.module) :
    FileTree.Later (r.IsOutput t)
        (OrphanAt ((Manifest.ofRun r.profile s.run).artifacts.map (·.module)) (r.out t) rounded)
        rounded t₁ ∧
      Outputs (r.reports t) (.ofRun r.profile s.run) t₁ := by
  have hlater := rounded_later hs hcheck h
  have hentries := previous_plain hs hcheck h hprevious
  obtain ⟨report, hwrite⟩ := h.outputs
  have hcleared : FileTree.Later (fun _ => False) (OrphanAt
      ((Manifest.ofRun r.profile s.run).artifacts.map (·.module)) (r.out t) rounded) rounded _ :=
    removeOrphans_later (hlater.sound hs) (hs.dots_not_mem_locate _) hentries
  have hreports := reports_later hlater r
  rw [hreports] at hwrite hcleared
  obtain ⟨hwritten, houtputs⟩ := writeOutputs_ok (hcleared.sound (hlater.sound hs)) hwrite
  refine ⟨(hcleared.mono (fun _ => False.elim) fun _ => id).trans
    (hwritten.mono (fun l hl => ?_) fun _ => False.elim), houtputs⟩
  unfold Request.IsOutput
  rw [hcleared.locate, hlater.locate] at hl
  exact hl

/-! ## 3. Publishing again -/

/-- What stays the same when builders are published again: none of them is changed any more, and a
failure is told in the same words, but perhaps for the name of a temporary file. -/
def again : Likeness where
  published p p' := p' = ⟨p.path, false⟩
  failure := WriteFailure.Resembles
  path _ _ h := by rw [h]

/-- What was sent to a place where an orphan stood was refused there: so no orphan stood there. -/
theorem not_orphanAt (hs : t.Sound) (hcheck : r.check = false) (h : Ended r t s rounded t₁)
    (hmodules : ((r.sent t).map (·.module)).Nodup) {a : Artifact} (ha : a ∈ r.sent t) {k : Location}
    (hk : k <+: destination (r.out t) a.module) :
    ¬ OrphanAt ((Manifest.ofRun r.profile s.run).artifacts.map (·.module)) (r.out t) rounded k := by
  rintro ⟨m, c, hm, hcurrent, rfl, hfile, -⟩
  have hnames := sent_names hcheck h
  obtain rfl := destination_below (hnames a ha) hk
  rcases Rounds.loop_sent_artifacts (surroundings_steady hcheck _) h.rounds ha with
    hmade | ⟨p, hp, hmodule, f, hf⟩
  · refine hcurrent ?_
    unfold Manifest.ofRun Manifest.current
    rw [List.map_map]
    exact List.mem_map.mpr ⟨a, (sortByKey_perm _ _).symm.subset hmade, rfl⟩
  · have hout : ".." ∉ r.out t := hs.dots_not_mem_locate _
    obtain ⟨hmem, hsound, hlater⟩ := sendings_later hs hout hnames hmodules hp
    have hrefused := publish_refused hsound hout (hnames _ hmem) hf hlater c
    rw [hmodule, ← rounded_eq hcheck h] at hrefused
    exact hrefused hfile

/-- In the tree that a run left, whatever it sent is published again as before. -/
theorem sent_again (hs : t.Sound) (hcheck : r.check = false) (h : Ended r t s rounded t₁)
    (hmodules : ((r.sent t).map (·.module)).Nodup)
    (hlater : FileTree.Later (r.IsOutput t)
      (OrphanAt ((Manifest.ofRun r.profile s.run).artifacts.map (·.module)) (r.out t) rounded)
      rounded t₁) :
    Repeats again (publish (Location.path (r.out t))) (publish (Location.path (r.out t))) t₁
      (r.sendings t) := by
  intro p hp
  have hout : ".." ∉ r.out t := hs.dots_not_mem_locate _
  obtain ⟨hmem, hsound, hothers⟩ := sendings_later hs hout (sent_names hcheck h) hmodules hp
  rw [← rounded_eq hcheck h] at hothers
  have hfit := sent_fit hcheck h _ hmem
  have hgoes := (Rounds.loop_world (surroundings_steady hcheck _) h.rounds).2 p hp
  -- what the tree went through since: other builders were written, then outputs
  have hsince : FileTree.Later
      (fun l => (∃ a ∈ r.sent t, a.module ≠ p.1.module ∧ l = destination (r.out t) a.module) ∨
        r.IsOutput t l)
      (OrphanAt ((Manifest.ofRun r.profile s.run).artifacts.map (·.module)) (r.out t) rounded)
      (publish (Location.path (r.out t)) p.1 p.2).2 t₁ :=
    (hothers.mono (fun _ => Or.inl) fun _ => False.elim).trans
      (hlater.mono (fun _ => Or.inr) fun _ => id)
  have hkept : ¬ ((∃ a ∈ r.sent t, a.module ≠ p.1.module ∧
      destination (r.out t) p.1.module = destination (r.out t) a.module) ∨
        r.IsOutput t (destination (r.out t) p.1.module)) := by
    rintro (⟨a, -, hne, heq⟩ | houtput)
    · exact hne (destination_injective _ heq).symm
    · exact output_ne_destination houtput _ _ rfl
  obtain ⟨answer, hanswer, hagain⟩ := publish_again hsound hout hfit hgoes hsince hkept
    fun k hk => not_orphanAt hs hcheck h hmodules hmem hk
  rw [hanswer]
  refine ⟨rfl, ?_⟩
  dsimp only
  generalize (publish (Location.path (r.out t)) p.1 p.2).1 = first at hagain
  cases hagain with
  | ok p => exact .ok rfl
  | refused hf => exact .refused hf

/-! ## 4. Loading again -/

theorem output_ne_source {r : Request} (h : r.IsOutput t l) {k : Location} {name : String}
    (hname : (stem? name).isSome = true) : l ≠ k ++ [name] := by
  obtain ⟨before, last, rfl, hlast⟩ := IsOutput.ending h
  intro heq
  obtain ⟨-, heq⟩ := List.append_inj' heq rfl
  rw [List.singleton_inj.mp heq, hname] at hlast
  cases hlast

/-- Where only builders stood at the places of builders, a run leaves the sources as they were. -/
theorem sameSources (hs : t.Sound) (hcheck : r.check = false) (h : Ended r t s rounded t₁)
    (hheaded : ∀ a ∈ r.sent t, Headed (r.out t) a.module t)
    (hlater : FileTree.Later (r.IsOutput t)
      (OrphanAt ((Manifest.ofRun r.profile s.run).artifacts.map (·.module)) (r.out t) rounded)
      rounded t₁) : SameSources t t₁ := by
  intro k name c hname hgenerated
  have hrounded := rounded_later hs hcheck h
  have hout : ".." ∉ r.out t := hs.dots_not_mem_locate _
  have houtput : ¬ r.IsOutput t (k ++ [name]) := fun h => output_ne_source h hname rfl
  constructor
  · intro hget
    have hget := hlater.old _ c houtput hget
    refine hrounded.old _ c ?_ hget
    rintro ⟨a, ha, heq⟩
    have hbuilder := worldAfter_headed hs hout (sent_fit hcheck h) (hheaded a ha)
    rw [← rounded_eq hcheck h] at hbuilder
    rw [hbuilder c (heq ▸ hget)] at hgenerated
    cases hgenerated
  · intro hget
    have hget := hrounded.content _ c id (fun hwritten => ?_) hget
    · refine hlater.content _ c ?_ houtput hget
      rintro ⟨m, c', -, -, -, hfile, hbuilder⟩
      rw [hget] at hfile
      cases hfile
      rw [hbuilder] at hgenerated
      cases hgenerated
    · obtain ⟨a, ha, heq⟩ := hwritten
      rw [hheaded a ha c (heq ▸ hget)] at hgenerated
      cases hgenerated

end Ended

/-! ## 5. The second run -/

/-- A path to a builder's file that starts as builders do, if it is there at all. -/
theorem headed_of_path (hs : t.Sound) {m : String} (hm : IsModuleName m)
    (h : t.isFile (artifactPath (r.output t) m) = true →
      t.isGenerated (artifactPath (r.output t) m) = true) : Headed (r.out t) m t := by
  have hout : ".." ∉ r.out t := hs.dots_not_mem_locate _
  have hpath : artifactPath (r.output t) m = Location.path (destination (r.out t) m) :=
    artifactPath_path hm _
  rw [hpath] at h
  intro c hc
  have hlook := (hs.look_iff (dots_not_mem_destination hout hm)).mpr hc
  obtain ⟨c', hlook', hgenerated⟩ := isGenerated_iff.mp (h (FileTree.isFile_iff.mpr ⟨c, hlook⟩))
  rw [hlook] at hlook'
  cases hlook'
  exact hgenerated

section Again

variable {s : Rounds.State FileTree} {rounded : FileTree}

/-- At the places of the artifacts that are sent stand builders, if files at all. -/
theorem sent_headed (hs : t.Sound) (hcheck : r.check = false) (h : Ended r t s rounded t₁)
    (hheader : ∀ d ∈ s.run.declarationReports s.registry,
      t.isFile (artifactPath (r.output t) (builderModule d.package d.name)) = true →
        t.isGenerated (artifactPath (r.output t) (builderModule d.package d.name)) = true) :
    ∀ a ∈ r.sent t, Headed (r.out t) a.module t := by
  intro a ha
  obtain ⟨d, hd, -, hmodule⟩ := (Rounds.loop_lasts (surroundings_steady hcheck _)
    (before_account r t) h.rounds ha).reported s.registry
  refine headed_of_path hs (sent_names hcheck h a ha) ?_
  rw [← hmodule]
  exact hheader d hd

/-- The tree that a run left gives the same modules, and rounds that go the same way. -/
theorem rounds_again (hs : t.Sound) (hcheck : r.check = false) (h : Ended r t s rounded t₁)
    (hmodules : ((r.sent t).map (·.module)).Nodup)
    (hheaded : ∀ a ∈ r.sent t, Headed (r.out t) a.module t)
    (hlater : FileTree.Later (r.IsOutput t)
      (OrphanAt ((Manifest.ofRun r.profile s.run).artifacts.map (·.module)) (r.out t) rounded)
      rounded t₁) :
    (load t₁ (r.root t₁) r.profile).1 = (load t (r.root t) r.profile).1 ∧
      ∃ s₂, Rounds.run (surroundings r (r.output t₁) fun _ => false) r.profile
          (load t₁ (r.root t₁) r.profile).1 t₁ = (.ok s₂, t₁) ∧
        again.Runs s.run s₂.run ∧ s₂.registry = s.registry := by
  have hsteady := surroundings_steady hcheck (r.output t)
  have hrounded := rounded_later hs hcheck h
  have hs₁ := hlater.sound (hrounded.sound hs)
  have hroot : r.root t₁ = r.root t := (root_later hlater r).trans (root_later hrounded r)
  have houtput : r.output t₁ = r.output t := (output_later hlater r).trans (output_later hrounded r)
  have hload : (load t₁ (r.root t₁) r.profile).1 = (load t (r.root t) r.profile).1 := by
    rw [hroot]
    exact load_same hs hs₁ (hs.dots_not_mem_locate _)
      (sameSources hs hcheck h hheaded hlater) r.profile
  have hstart : again.States (r.before t) (⟨(load t (r.root t) r.profile).1, t₁, [], .empty⟩ :
      Rounds.State FileTree) :=
    ⟨rfl, rfl, rfl, Table.Alike.empty, Table.Alike.empty, rfl, rfl, rfl⟩
  obtain ⟨s₂, hrounds₂, hstates⟩ := Rounds.loop_alike hsteady hsteady rfl rfl hstart rfl
    (sent_again hs hcheck h hmodules hlater) h.rounds
  refine ⟨hload, s₂, ?_, hstates.run, hstates.registry⟩
  rw [houtput, hload]
  exact hrounds₂

end Again

/-- Where no builder was changed, none is told to be written. -/
theorem written_again {run run' : Run} (h : again.Runs run run') : run'.publishedPaths true = [] := by
  have hvalues : run'.published.values.filter (·.changed == true) = [] := by
    rw [List.filter_eq_nil_iff]
    intro p hp
    obtain ⟨p₁, -, rfl⟩ := h.published.values hp
    exact Bool.false_ne_true
  unfold Run.publishedPaths
  rw [hvalues]
  rfl

/-- After a run that came to its end, a second one over the tree that it left loads the same modules,
gives the same manifest and reports the same, changes no builder and removes no orphan: it leaves all
files but the report as they are. The builders of different declarations have different modules, at
their places stand builders or no files, and the manifest that the first run found, if there was one,
gave names of modules to its entries. -/
theorem run_again (hs : t.Sound) (hcheck : r.check = false)
    (hrun : run r (fun _ => false) t = (.ok (report, manifest), t₁))
    (hdistinct : (report.declarations.map fun d => builderModule d.package d.name).Nodup)
    (hheader : ∀ d ∈ report.declarations,
      t.isFile (artifactPath (r.output t) (builderModule d.package d.name)) = true →
        t.isGenerated (artifactPath (r.output t) (builderModule d.package d.name)) = true)
    (hprevious : ∀ previous, Manifest.load? t (t.resolve ((r.reports t).child manifestName)) =
      some previous → ∀ e ∈ previous.artifacts, IsModuleName e.module)
    (time : String) :
    ∃ report₂ t₂,
      run { r with time := time } (fun _ => false) t₁ = (.ok (report₂, manifest), t₂) ∧
        (load t₁ (r.root t₁) r.profile).1 = (load t (r.root t) r.profile).1 ∧
        List.Forall₂ again.Reports report.declarations report₂.declarations ∧
        report₂.written = [] ∧ report₂.removedOrphans = [] ∧
        ∀ l, l ≠ t.locate ((r.reports t).child reportName) → t₂.get? l = t₁.get? l := by
  obtain ⟨s, rounded, removed, hended, rfl, hreport⟩ := run_ended hcheck hrun
  have hdeclarations : report.declarations = s.run.declarationReports s.registry := by
    rw [hreport]
    rfl
  rw [hdeclarations] at hdistinct hheader ⊢
  have hmodules := Rounds.sent_modules (surroundings_steady hcheck _) (before_account r t)
    hended.rounds hdistinct
  have hrounded := rounded_later hs hcheck hended
  obtain ⟨hlater, houtputs⟩ := ended_later hs hcheck hended hprevious
  obtain ⟨hload, s₂, hrounds₂, hruns, hregistry⟩ :=
    rounds_again hs hcheck hended hmodules (sent_headed hs hcheck hended hheader) hlater
  have hcancelled : s₂.run.cancelled = false :=
    Rounds.loop_not_cancelled (surroundings_steady hcheck _) hrounds₂
  have hreports : Request.reports { r with time := time } t₁ = r.reports t :=
    (reports_later hlater r).trans (reports_later hrounded r)
  have hcheck₂ : Request.check { r with time := time } = false := hcheck
  have hversion : versionFault? (Manifest.ofRun r.profile s.run).schemaVersion = none :=
    versionFault?_current
  have hrun₂ := run_eq (r := { r with time := time }) hrounds₂
  rw [hcancelled, hreports, hruns.manifest r.profile,
    conclude_again hcheck₂ (hlater.sound (hrounded.sound hs)) houtputs hversion] at hrun₂
  refine ⟨_, _, hrun₂, hload, ?_, ?_, rfl, fun l hl => ?_⟩
  · show List.Forall₂ _ _ (s₂.run.declarationReports s₂.registry)
    rw [hregistry]
    exact hruns.declarationReports s.registry
  · show (if r.check then [] else s₂.run.publishedPaths true) = []
    rw [hcheck]
    exact written_again hruns
  · rw [FileTree.get?_put _ _ _ _ (by simp), if_neg]
    rintro rfl
    refine hl ?_
    rw [isOutput_report.locate, hlater.locate, hrounded.locate]

/-- A tree with one marked class. -/
def small : FileTree where
  entries :=
    [(["p"], .directory),
      (["p", "a.py"],
        .file (encode "from builder_gen.marker import builder\n@builder\nclass Foo: pass\n"))]
  here := []

/-- The request to run over a whole tree. -/
def smallRequest : Request := ⟨⟨true, []⟩, none, none, .standard, false, 1, ""⟩

theorem small_sound : small.Sound :=
  .of_entries (by decide) (by decide) rfl (by decide)

set_option maxRecDepth 100000 in
theorem small_run : ∃ report manifest t₁,
    run smallRequest (fun _ => false) small = (.ok (report, manifest), t₁) ∧
      report.declarations.map (fun d => (builderModule d.package d.name, d.reasons)) =
        [("p.foo_builder", [])] ∧
      report.written = ["/p/foo_builder.py"] ∧
      manifest.artifacts.map (·.module) = ["p.foo_builder"] := by
  have heval : (match (run smallRequest (fun _ => false) small).1 with
      | .ok (report, manifest) =>
        (report.declarations.map (fun d => (builderModule d.package d.name, d.reasons)),
          report.written, manifest.artifacts.map (·.module))
      | .error _ => ([], [], [])) =
      ([("p.foo_builder", [])], ["/p/foo_builder.py"], ["p.foo_builder"]) := by decide +kernel
  generalize run smallRequest (fun _ => false) small = answer at heval ⊢
  obtain ⟨answer, t₁⟩ := answer
  cases answer with
  | error e => cases heval
  | ok x =>
    simp only [Prod.mk.injEq] at heval
    exact ⟨x.1, x.2, t₁, rfl, heval⟩

theorem run_again_small : ∃ report manifest t₁ report₂ t₂,
    run smallRequest (fun _ => false) small = (.ok (report, manifest), t₁) ∧
      report.written = ["/p/foo_builder.py"] ∧
      run smallRequest (fun _ => false) t₁ = (.ok (report₂, manifest), t₂) ∧
      report₂.written = [] ∧ report₂.removedOrphans = [] := by
  obtain ⟨report, manifest, t₁, hrun, hdeclarations, hwritten, -⟩ := small_run
  have hmodules : report.declarations.map (fun d => builderModule d.package d.name) =
      ["p.foo_builder"] := by
    rw [show (fun d : DeclarationReport => builderModule d.package d.name) =
      Prod.fst ∘ fun d => (builderModule d.package d.name, d.reasons) from rfl, ← List.map_map,
      hdeclarations]
    rfl
  have hfree : small.isFile (artifactPath (smallRequest.output small) "p.foo_builder") = false := by
    decide +kernel
  have hfirst : Manifest.load? small
      (small.resolve ((smallRequest.reports small).child manifestName)) = none := by
    decide +kernel
  obtain ⟨report₂, t₂, hrun₂, -, -, hwritten₂, horphans, -⟩ := run_again small_sound rfl hrun
    (by rw [hmodules]; exact List.nodup_singleton _)
    (fun d hd hfile => by
      have hmodule := List.mem_map_of_mem (f := fun d => builderModule d.package d.name) hd
      rw [hmodules, List.mem_singleton] at hmodule
      rw [hmodule, hfree] at hfile
      cases hfile)
    (fun previous hprevious => by
      rw [hfirst] at hprevious
      cases hprevious)
    ""
  exact ⟨report, manifest, t₁, report₂, t₂, hrun, hwritten, hrun₂, hwritten₂, horphans⟩

/-- The same tree with a manifest whose entry calls the place of the builder by a path, not by the
name of a module. -/
def misled : FileTree where
  entries :=
    small.entries ++
      [([".builder_gen"], .directory),
        ([".builder_gen", manifestName], .file (encode
          "\x7b\"profile_id\": \"\", \"artifacts\": [\x7b\"module\": \"p/foo_builder\", \"type_name\": \"\", \"namespace\": \"\", \"source\": \"\", \"sha256\": \"\", \"dependencies\": [\x7b\"path\": \"gone\"\x7d]\x7d]\x7d"))]
  here := []

set_option maxRecDepth 100000 in
/-- The first run takes the builder that it wrote for an orphan, so the second one writes it again. -/
theorem run_again_misled : misled.Sound ∧ ∃ report manifest t₁,
    run smallRequest (fun _ => false) misled = (.ok (report, manifest), t₁) ∧
      (report.declarations.map fun d => builderModule d.package d.name).Nodup ∧
      (∀ d ∈ report.declarations, misled.isFile
        (artifactPath (smallRequest.output misled) (builderModule d.package d.name)) = false) ∧
      ¬ ∃ report₂ manifest₂ t₂,
        run smallRequest (fun _ => false) t₁ = (.ok (report₂, manifest₂), t₂) ∧
          report₂.written = [] := by
  refine ⟨.of_entries (by decide) (by decide) rfl (by decide), ?_⟩
  have heval : (match run smallRequest (fun _ => false) misled with
      | (.ok (report, _), t₁) =>
        (report.declarations.map (fun d => builderModule d.package d.name),
          match (Rounds.run (surroundings smallRequest (smallRequest.output t₁) fun _ => false)
            smallRequest.profile (load t₁ (smallRequest.root t₁) smallRequest.profile).1 t₁).1 with
          | .ok s => s.run.publishedPaths true
          | .error _ => ["aborted"])
      | (.error _, _) => ([], [])) = (["p.foo_builder"], ["/p/foo_builder.py"]) := by
    decide +kernel
  have hfree : misled.isFile (artifactPath (smallRequest.output misled) "p.foo_builder") = false := by
    decide +kernel
  generalize run smallRequest (fun _ => false) misled = answer at heval ⊢
  obtain ⟨answer, t₁⟩ := answer
  cases answer with
  | error e => cases heval
  | ok x =>
  simp only [Prod.mk.injEq] at heval
  obtain ⟨hmodules, hpaths⟩ := heval
  refine ⟨x.1, x.2, t₁, rfl, by rw [hmodules]; exact List.nodup_singleton _, fun d hd => ?_, ?_⟩
  · have hmodule := List.mem_map_of_mem (f := fun d => builderModule d.package d.name) hd
    rw [hmodules, List.mem_singleton] at hmodule
    rw [hmodule, hfree]
  · rintro ⟨report₂, manifest₂, t₂, hrun₂, hwritten⟩
    obtain ⟨s, rounded, removed, hended, -, rfl⟩ := run_ended rfl hrun₂
    rw [hended.rounds] at hpaths
    replace hpaths : s.run.publishedPaths true = ["/p/foo_builder.py"] := hpaths
    replace hwritten : s.run.publishedPaths true = [] := hwritten
    rw [hwritten] at hpaths
    cases hpaths

end Generation

end FluentBuilders
