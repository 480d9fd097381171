import FluentBuilders.Proofs.Generation.Checking

/-!
What a run leaves of the files that were written by hand.

1. `Request.Claims`: the places of the builders of marked declarations. However the rounds of a run
   end, they touch no file elsewhere.
2. `run_spares`: a run leaves every other file as it is that does not start as builders do, its own
   outputs apart.
3. `publish_replaces`: at those places it is no different for a file written by hand: whatever text
   stands there gives way to the builder. `run_overwrites`: so a source that was loaded is lost.
-/

namespace FluentBuilders

open Text

namespace Generation

variable {r : Request} {t : FileTree} {l : Location} {c : Bytes}

/-! ## 1. Where builders go -/

/-- The marked declarations of the modules that a run loads. -/
def Request.marked (r : Request) (t : FileTree) : List Declaration :=
  ((load t (r.root t) r.profile).1.report r.profile.marker).1

/-- A place where the builder of a marked declaration goes. -/
def Request.Claims (r : Request) (t : FileTree) (l : Location) : Prop :=
  ∃ d ∈ r.marked t, l = t.locate (artifactPath (r.output t) (builderModule d.package d.name))

/-- The rounds of a run. -/
def Request.rounds (r : Request) (cancelled : Moment → Bool) (t : FileTree) :
    Except Failure (Rounds.State FileTree) × FileTree :=
  Rounds.run (surroundings r (r.output t) cancelled) r.profile (load t (r.root t) r.profile).1 t

section Rounds

variable {cancelled : Moment → Bool} {round : Nat} {s : Rounds.State FileTree} {a : Artifact}

theorem surroundings_batch (r : Request) (output : FilePath) (cancelled : Moment → Bool)
    (round : Nat) (artifacts : List Artifact) :
    batch (surroundings r output cancelled) round artifacts = artifacts :=
  ite_self _

/-- The artifacts of a round are fit, and made for marked declarations. -/
theorem reaches_made (h : Rounds.Reaches (surroundings r (r.output t) cancelled) r.profile
      (load t (r.root t) r.profile).1 t round s)
    (ha : a ∈ (Rounds.scanOf (surroundings r (r.output t) cancelled) r.profile.marker round
      s).artifacts) :
    a.Fit ∧ ∃ d ∈ r.marked t, a.module = builderModule d.package d.name := by
  obtain ⟨g, hg, -, d, hd, hgenerate⟩ := h.made (load_loaded t (r.root t) r.profile) ha
  exact ⟨hg.fit hgenerate, d, hd, (generate_spec hgenerate).2⟩

/-- The output directory as a location. -/
theorem output_path (r : Request) (t : FileTree) : r.output t = Location.path (r.out t) := rfl

theorem locate_artifactPath (hs : t.Sound) (r : Request) {m : String} (hm : IsModuleName m) :
    t.locate (artifactPath (r.output t) m) = destination (r.out t) m := by
  have hdots : ".." ∉ destination (r.out t) m :=
    dots_not_mem_destination (hs.dots_not_mem_locate _) hm
  rw [output_path, artifactPath_path hm, FileTree.locate_path t hdots]

/-- However the rounds of a run end, they touch no files but those of builders of marked declarations. -/
theorem rounds_later (hs : t.Sound) (r : Request) (cancelled : Moment → Bool) :
    FileTree.Later (r.Claims t) (fun _ => False) t (r.rounds cancelled t).2 := by
  refine Rounds.run_keeps (fun hreaches send hsend a ha t' hlater => ?_) (.refl t)
  rw [surroundings_batch] at ha
  obtain ⟨hfit, d, hd, hmodule⟩ := reaches_made hreaches ha
  cases hsend
  split
  · rw [compare_idle]
    exact hlater
  · refine hlater.trans ((publish_later (hlater.sound hs) (hs.dots_not_mem_locate _) hfit.module
      fun _ => False).mono (fun l hl => ?_) fun _ => id)
    refine ⟨d, hd, ?_⟩
    rw [← hmodule, locate_artifactPath hs r hfit.module]
    exact hl

end Rounds

/-! ## 2. Files written by hand -/

/-- After the rounds, only builders are removed and only outputs are written. -/
theorem conclude_spares (hs : t.Sound) (output reports : FilePath) (cancelled : Bool)
    (report : Report) (manifest : Manifest) (hfile : t.get? l = some (.file c))
    (hhand : FileTree.startsGenerated c = false)
    (hreport : l ≠ t.locate reports ++ [reportName])
    (hmanifest : l ≠ t.locate reports ++ [manifestName]) :
    (conclude r output reports cancelled report manifest t).2.get? l = some (.file c) := by
  unfold conclude
  split
  · exact hfile
  dsimp only
  generalize hentries : ((Manifest.load? t (reports.child manifestName)).map (·.artifacts)).getD []
    = entries
  generalize hcurrent : manifest.artifacts.map (·.module) = current
  have hcleared := removeOrphans_builders current output entries t
  have hkept := hcleared.content l c (fun hbuilder => ?_) id hfile
  · have hwritten := writeOutputs_later (hcleared.sound hs) reports
      { report with removedOrphans := sortTexts (removeOrphans current output entries t).1 } manifest
      r.time
    rw [hcleared.locate] at hwritten
    have hkept := hwritten.content l c id (fun h => h.elim hreport hmanifest) hkept
    split <;> next hwrite =>
      rw [hwrite] at hkept
      exact hkept
  · obtain ⟨c', hget, hgenerated⟩ := hbuilder
    rw [hfile] at hget
    cases hget
    rw [hhand] at hgenerated
    cases hgenerated

/-- However a run ends, it leaves each file as it is that does not start as builders do, is none of its
outputs and does not stand where the builder of a marked declaration goes. -/
theorem run_spares (hs : t.Sound) (r : Request) (cancelled : Moment → Bool)
    (hfile : t.get? l = some (.file c)) (hhand : FileTree.startsGenerated c = false)
    (houtput : ¬ r.IsOutput t l) (hfree : ¬ r.Claims t l) :
    (run r cancelled t).2.get? l = some (.file c) := by
  have hlater := rounds_later hs r cancelled
  have hkept := hlater.content l c id hfree hfile
  unfold run
  dsimp only
  split
  · next hrounds =>
    rw [Request.rounds, hrounds] at hkept
    exact hkept
  · next s rounded hrounds =>
    rw [Request.rounds, hrounds] at hlater hkept
    obtain ⟨hreport, hmanifest⟩ := not_or.mp houtput
    rw [← hlater.locate] at hreport hmanifest
    refine conclude_spares (hlater.sound hs) _ _ _ _ _ hkept hhand ?_ ?_
    · rwa [reports_later hlater]
    · rwa [reports_later hlater]

set_option maxRecDepth 100000 in
/-- The source of a marked class is spared, whatever becomes of the run. -/
theorem run_spares_source : ∃ c, small.get? ["p", "a.py"] = some (.file c) ∧
    FileTree.startsGenerated c = false ∧ ¬ smallRequest.IsOutput small ["p", "a.py"] ∧
    ¬ smallRequest.Claims small ["p", "a.py"] ∧
    (run smallRequest (fun _ => false) small).2.get? ["p", "a.py"] = some (.file c) := by
  have hhand : FileTree.startsGenerated
      (encode "from builder_gen.marker import builder\n@builder\nclass Foo: pass\n") = false := by
    decide +kernel
  have houtput : ¬ smallRequest.IsOutput small ["p", "a.py"] := by
    unfold Request.IsOutput
    decide +kernel
  have hfree : ¬ smallRequest.Claims small ["p", "a.py"] := by
    unfold Request.Claims
    decide +kernel
  exact ⟨_, rfl, hhand, houtput, hfree,
    run_spares small_sound smallRequest (fun _ => false) rfl hhand houtput hfree⟩

/-! ## 3. Files in the place of builders -/

/-- The same tree with a module beside the class that has the name of its builder. -/
def squatted : FileTree where
  entries := small.entries ++ [(["p", "foo_builder.py"], .file (encode "KEEP = 1\n"))]
  here := []

set_option maxRecDepth 100000 in
/-- The module is loaded as a source, and the run writes the builder over it. -/
theorem run_overwrites : squatted.Sound ∧
    (∃ f : SourceFile, f.below = ["p", "foo_builder.py"] ∧
      (f, encode "KEEP = 1\n") ∈
        sourcesOf squatted (smallRequest.root squatted) smallRequest.profile) ∧
    squatted.get? ["p", "foo_builder.py"] = some (.file (encode "KEEP = 1\n")) ∧
    FileTree.startsGenerated (encode "KEEP = 1\n") = false ∧
    ¬ smallRequest.IsOutput squatted ["p", "foo_builder.py"] ∧
    (run smallRequest (fun _ => false) squatted).2.get? ["p", "foo_builder.py"] ≠
      some (.file (encode "KEEP = 1\n")) := by
  refine ⟨.of_entries (by decide) (by decide) rfl (by decide),
    ⟨⟨["p", "foo_builder.py"], "p.foo_builder", false⟩, rfl, ?_⟩, rfl, ?_, ?_, ?_⟩
  · decide +kernel
  · decide +kernel
  · unfold Request.IsOutput
    decide +kernel
  · decide +kernel

end Generation

end FluentBuilders
