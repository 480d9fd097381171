import FluentBuilders.Proofs.Generation.Ending

/-!
What the orphan step of a run deletes.

1. `gone_orphan`, `orphans_taken`: a file that goes is that of an orphan, and no orphan stays.
2. `SafelyRemoved`: all that holds of a file that is deleted.
3. `orphans_safe`: whatever manifest an earlier run has left, no other file is deleted.
-/

namespace FluentBuilders

open Text

namespace Generation

variable {r : Request} {t t₁ rounded : FileTree} {cancelled : Moment → Bool} {report : Report}
  {manifest : Manifest} {s : Rounds.State FileTree} {l : Location} {c : Bytes}

/-! ## 1. What goes -/

/-- A file that goes after the rounds goes when the turn of its entry comes. -/
theorem gone_orphan (hs : t.Sound) (hrun : run r cancelled t = (.ok (report, manifest), t₁))
    (hrounds : r.rounds cancelled t = (.ok s, rounded))
    (hfile : rounded.get? l = some (.file c)) (hgone : ∀ c', t₁.get? l ≠ some (.file c')) :
    ∃ before e after, r.entries rounded = before ++ e :: after ∧
      isOrphan (removeOrphans (manifest.artifacts.map (·.module)) (r.output t) before rounded).2
        (manifest.artifacts.map (·.module)) e = true ∧
      rounded.locate (artifactPath (r.output t) e.module) = l ∧
      FileTree.startsGenerated c = true ∧
      (artifactPath (r.output t) e.module).text ∈ report.removedOrphans := by
  obtain ⟨s', rounded', hrounds', -, hend⟩ := run_completed hrun
  rw [hrounds] at hrounds'
  cases hrounds'
  rcases hend with ⟨-, rfl⟩ | ⟨hreport, hwrite⟩
  · exact absurd hfile (hgone c)
  -- outputs are written over files, but no file goes with them
  have hcleared := removeOrphans_builders (manifest.artifacts.map (·.module)) (r.output t)
    (r.entries rounded) rounded
  have hkept := (writeOutputs_ok (hcleared.sound ((rounds_touch hs hrounds).sound hs)) hwrite).1
  rw [hreport]
  obtain ⟨before, e, after, hentries, horphan, hplace, hgenerated, hlisted⟩ :=
    removeOrphans_turn hfile fun hget => by
      obtain ⟨c', hc'⟩ := hkept.file l c id hget
      exact hgone c' hc'
  exact ⟨before, e, after, hentries, horphan, hplace, hgenerated,
    (sortItems_perm _ _).symm.subset hlisted⟩

/-- A run leaves no builder of the manifest before that was out of date when its rounds were over,
unless it has made the module again: a file that is left there was there then, and does not start as
builders do. -/
theorem orphans_taken (hs : t.Sound) (hwriting : r.Writing cancelled t)
    (hrun : run r cancelled t = (.ok (report, manifest), t₁))
    (hrounds : r.rounds cancelled t = (.ok s, rounded))
    (hnames : ∀ e ∈ r.entries rounded, IsModuleName e.module) {e : ManifestEntry}
    (he : e ∈ r.entries rounded) (hnew : e.module ∉ manifest.artifacts.map (·.module))
    (hstale : isStale e.dependencies (digestAt rounded) = true)
    (hleft : t₁.get? (destination (r.out t) e.module) = some (.file c)) :
    rounded.get? (destination (r.out t) e.module) = some (.file c) ∧
      FileTree.startsGenerated c = false := by
  obtain ⟨s', rounded', hrounds', -, -, hwrite⟩ := run_written hwriting hrun
  rw [hrounds] at hrounds'
  cases hrounds'
  have hs₁ := (rounds_touch hs hrounds).sound hs
  have hcleared := removeOrphans_builders (manifest.artifacts.map (·.module)) (r.output t)
    (r.entries rounded) rounded
  have hwritten := (writeOutputs_ok (hcleared.sound hs₁) hwrite).1
  have hkept := hwritten.old _ c (fun hl => ?_) hleft
  · exact ⟨hcleared.old _ c id hkept,
      removeOrphans_takes hs₁ (hs.dots_not_mem_locate _) hnames he hnew hstale hkept⟩
  · rw [hcleared.locate] at hl
    exact output_ne_destination (r := r) (t := rounded) hl _ _ rfl

/-- The tree that a run over `small` left, without the source. -/
def bereft : FileTree := (run smallRequest (fun _ => false) small).2.erase ["p", "a.py"]

/-- Whether an entry is a file whose content is as `p` says. -/
def holds (p : Bytes → Bool) : Entry → Bool
  | .file c => p c
  | .directory => false

theorem file_of_holds {p : Bytes → Bool} {e? : Option Entry} (h : e?.any (holds p) = true) :
    ∃ c, e? = some (.file c) ∧ p c = true := by
  cases e? with
  | none => cases h
  | some e =>
    cases e with
    | file c => exact ⟨c, rfl, h⟩
    | directory => cases h

set_option maxRecDepth 100000 in
/-- The manifest of the run has one entry, which depends on the source that is gone; the rounds of a
second run make no builder and leave the one that is there. -/
theorem bereft_run : ∃ report₀ previous t₀ e f s rounded c,
    run smallRequest (fun _ => false) small = (.ok (report₀, previous), t₀) ∧
      bereft = t₀.erase ["p", "a.py"] ∧ (∃ c', t₀.get? ["p", "a.py"] = some (.file c')) ∧
      previous.artifacts = [e] ∧ e.module = "p.foo_builder" ∧ e.dependencies = [f] ∧
      f.path = "/p/a.py" ∧
      smallRequest.rounds (fun _ => false) bereft = (.ok s, rounded) ∧ s.run.artifacts = [] ∧
      rounded.isFile (.ofText "/p/a.py") = false ∧
      rounded.get? ["p", "foo_builder.py"] = some (.file c) ∧
      FileTree.startsGenerated c = true := by
  have hfirst : ((run smallRequest (fun _ => false) small).1.toOption.map fun x =>
        x.2.artifacts.map fun e => (e.module, e.dependencies.map (·.path)),
      ((run smallRequest (fun _ => false) small).2.get? ["p", "a.py"]).any (holds fun _ => true)) =
      (some [("p.foo_builder", ["/p/a.py"])], true) := by
    decide +kernel
  have hsecond : ((smallRequest.rounds (fun _ => false) bereft).1.toOption.map fun s =>
        s.run.artifacts.map (·.module),
      (smallRequest.rounds (fun _ => false) bereft).2.isFile (.ofText "/p/a.py"),
      ((smallRequest.rounds (fun _ => false) bereft).2.get? ["p", "foo_builder.py"]).any
        (holds FileTree.startsGenerated)) = (some [], false, true) := by
    decide +kernel
  have hbereft : bereft = (run smallRequest (fun _ => false) small).2.erase ["p", "a.py"] := rfl
  rcases hrun₀ : run smallRequest (fun _ => false) small with ⟨_ | ⟨report₀, previous⟩, t₀⟩
  · rw [hrun₀] at hfirst
    cases hfirst
  rcases hrounds : smallRequest.rounds (fun _ => false) bereft with ⟨_ | s, rounded⟩
  · rw [hrounds] at hsecond
    cases hsecond
  rw [hrun₀] at hfirst hbereft
  rw [hrounds] at hsecond
  simp only [Except.toOption, Option.map_some, Prod.mk.injEq, Option.some.injEq,
    List.map_eq_nil_iff] at hfirst hsecond
  obtain ⟨hentries, hsource⟩ := hfirst
  obtain ⟨hartifacts, hgone, hbuilder⟩ := hsecond
  obtain ⟨e, hprevious, hentry⟩ := List.map_eq_singleton_iff.mp hentries
  rw [Prod.mk.injEq, List.map_eq_singleton_iff] at hentry
  obtain ⟨hmodule, f, hdependencies, hpath⟩ := hentry
  obtain ⟨c', hget, -⟩ := file_of_holds hsource
  obtain ⟨c, hfile, hheader⟩ := file_of_holds hbuilder
  exact ⟨report₀, previous, t₀, e, f, s, rounded, c, rfl, hbereft, ⟨c', hget⟩, hprevious, hmodule,
    hdependencies, hpath, rfl, hartifacts, hgone, hfile, hheader⟩

/-! ## 2. Files that are deleted -/

/-- What holds of a file with the content `c` that a run deletes once its rounds have left the tree
`rounded`. -/
structure SafelyRemoved (r : Request) (t : FileTree) (run : Run) (report : Report)
    (manifest : Manifest) (rounded : FileTree) (l : Location) (c : Bytes) : Prop where
  /-- Nothing published stands there, be it written or unchanged. -/
  published : ∀ m p, run.published.get? m = some p →
    p.path = (artifactPath (r.output t) m).text ∧ t.locate (artifactPath (r.output t) m) ≠ l
  /-- No source that was loaded stands there. -/
  source : ∀ x ∈ sourcesOf t (r.root t) r.profile, t.locate (x.1.path (r.root t)) ≠ l
  /-- It is strictly below the output directory. -/
  below : ∃ names, names ≠ [] ∧ l = t.locate (r.output t) ++ names
  generated : FileTree.startsGenerated c = true
  /-- It is the builder of an entry of the manifest before, whose module was not made again; when the
  turn of that entry came, one of its dependencies was gone or had another digest. -/
  entry : ∃ previous before e after,
    Manifest.load? rounded ((r.reports rounded).child manifestName) = some previous ∧
    previous.artifacts = before ++ e :: after ∧
    e.module ∉ manifest.artifacts.map (·.module) ∧
    t.locate (artifactPath (r.output t) e.module) = l ∧
    (artifactPath (r.output t) e.module).text ∈ report.removedOrphans ∧
    ∃ f ∈ e.dependencies, digestAt (removeOrphans (manifest.artifacts.map (·.module)) (r.output t)
      before rounded).2 f.path ≠ some f.digest

/-- A source that was loaded is no orphan: where it has become a builder, the run has made that. -/
theorem source_apart (hs : t.Sound) (hrounds : r.rounds cancelled t = (.ok s, rounded))
    {m : String} (hcurrent : ∀ a ∈ s.run.artifacts, m ≠ a.module)
    (hfile : rounded.get? (destination (r.out t) m) = some (.file c))
    (hgenerated : FileTree.startsGenerated c = true) :
    ∀ x ∈ sourcesOf t (r.root t) r.profile,
      t.locate (x.1.path (r.root t)) ≠ destination (r.out t) m := by
  rintro ⟨f, content⟩ hx heq
  obtain ⟨hstanding, rfl⟩ := rounds_standing hs hrounds
  have hroot : ".." ∉ t.locate r.sourceRoot := hs.dots_not_mem_locate _
  obtain ⟨hnames, hget, hhand⟩ := (mem_sourcesOf hs hroot).mp hx
  have hplace : t.locate (f.path (r.root t)) = t.locate r.sourceRoot ++ f.below := by
    refine t.locate_path (l := t.locate r.sourceRoot ++ f.below) ?_
    rw [List.mem_append, not_or]
    exact ⟨hroot, dots_not_mem_below hnames⟩
  rw [← hplace, heq] at hget
  have hkept := hstanding.later.content _ content id (fun hwritten => ?_) hget
  · rw [hfile] at hkept
    cases hkept
    rw [hhand] at hgenerated
    cases hgenerated
  · obtain ⟨a, ha, hsame⟩ := hwritten
    exact hcurrent a ha (destination_injective _ hsame)

/-! ## 3. The whole step -/

/-- A run that came to its end has deleted no file after its rounds but builders of the manifest before
that are out of date, as long as the manifest that it found, if there was one, is that of an earlier
run. -/
theorem orphans_safe (hs : t.Sound)
    (hprevious : ∀ previous, Manifest.load? t (t.resolve ((r.reports t).child manifestName)) =
      some previous → ∃ r₀ cancelled₀ t₀ report₀ t₀',
        run r₀ cancelled₀ t₀ = (.ok (report₀, previous), t₀'))
    (hrun : run r cancelled t = (.ok (report, manifest), t₁)) :
    ∃ s rounded, r.rounds cancelled t = (.ok s, rounded) ∧
      ∀ l c, rounded.get? l = some (.file c) → (∀ c', t₁.get? l ≠ some (.file c')) →
        SafelyRemoved r t s.run report manifest rounded l c := by
  obtain ⟨s, rounded, hrounds, hmanifest, -⟩ := run_completed hrun
  refine ⟨s, rounded, hrounds, fun l c hfile hgone => ?_⟩
  obtain ⟨before, e, after, hentries, horphan, hplace, hgenerated, hlisted⟩ :=
    gone_orphan hs hrun hrounds hfile hgone
  subst hmanifest
  have htouched := rounds_touch hs hrounds
  have hout : ".." ∉ r.out t := hs.dots_not_mem_locate _
  obtain ⟨previous, hload, hartifacts⟩ : ∃ previous,
      Manifest.load? rounded ((r.reports rounded).child manifestName) = some previous ∧
        previous.artifacts = before ++ e :: after := by
    unfold Request.entries at hentries
    cases hload : Manifest.load? rounded ((r.reports rounded).child manifestName) with
    | none =>
      rw [hload] at hentries
      simp at hentries
    | some previous =>
      rw [hload] at hentries
      exact ⟨previous, rfl, hentries⟩
  obtain ⟨r₀, cancelled₀, t₀, report₀, t₀', hrun₀⟩ := hprevious previous
    (previous_later hs htouched (fun h => by
      obtain ⟨a, -, hl⟩ := h
      exact manifest_ne_destination r t _ _ hl) hload)
  have hm : IsModuleName e.module := manifest_names hrun₀ e (by rw [hartifacts]; simp)
  have hnew : e.module ∉ (Manifest.ofRun r.profile s.run).artifacts.map (·.module) :=
    isOrphan_module horphan
  have hcurrent : ∀ a ∈ s.run.artifacts, e.module ≠ a.module := fun a ha heq =>
    hnew (mem_manifest.mpr ⟨a, ha, heq⟩)
  rw [htouched.locate] at hplace
  have hl : destination (r.out t) e.module = l := by
    rw [← hplace, locate_artifactPath hs r hm]
  refine
    { published := fun m p hp => ?_
      source := ?_
      below := ⟨fileParts e.module, ?_, ?_⟩
      generated := hgenerated
      entry := ⟨previous, before, e, after, hload, hartifacts, hnew, hplace, hlisted, ?_⟩ }
  · obtain ⟨hpath, a, ha, rfl⟩ := (rounds_standing hs hrounds).1.places m p hp
    have ham : IsModuleName a.module := (rounds_fit hrounds a ha).module
    refine ⟨?_, ?_⟩
    · rw [hpath, output_path, artifactPath_path ham]
      rfl
    · rw [locate_artifactPath hs r ham, ← hl]
      intro heq
      exact hcurrent a ha (destination_injective _ heq).symm
  · rw [← hl]
    exact source_apart hs hrounds hcurrent (hl ▸ hfile) hgenerated
  · unfold fileParts
    simp
  · rw [← hl, output_path, t.locate_path hout]
    rfl
  · unfold isOrphan isStale at horphan
    rw [Bool.and_eq_true, List.any_eq_true] at horphan
    obtain ⟨f, hf, hdiffers⟩ := horphan.2
    exact ⟨f, hf, by simpa using hdiffers⟩

set_option maxRecDepth 100000 in
/-- The builder of the source that is gone is deleted. -/
theorem orphans_safe_bereft : ∃ report₀ previous t₀ report manifest t₁ s rounded c,
    run smallRequest (fun _ => false) small = (.ok (report₀, previous), t₀) ∧
    Manifest.load? bereft (bereft.resolve ((smallRequest.reports bereft).child manifestName)) =
      some previous ∧
    run smallRequest (fun _ => false) bereft = (.ok (report, manifest), t₁) ∧
    smallRequest.rounds (fun _ => false) bereft = (.ok s, rounded) ∧
    rounded.get? ["p", "foo_builder.py"] = some (.file c) ∧
    (∀ c', t₁.get? ["p", "foo_builder.py"] ≠ some (.file c')) ∧
    SafelyRemoved smallRequest bereft s.run report manifest rounded ["p", "foo_builder.py"] c := by
  have hdestination : destination (smallRequest.out small) "p.foo_builder" =
      ["p", "foo_builder.py"] := by
    decide +kernel
  obtain ⟨report₀, previous, t₀, e, f, s, rounded, c, hrun₀, hbereft, ⟨c', hsource⟩, hprevious, hmodule,
    hdependencies, hpath, hrounds, hartifacts, hgone, hfile, hheader⟩ := bereft_run
  -- the tree is what the first run left, but for the source
  obtain ⟨hleft, houtputs₀⟩ := run_leaves small_sound (Request.writing rfl small) hrun₀
  have hname : (stem? "a.py").isSome = true := by decide
  obtain ⟨herased, houtputs⟩ := houtputs₀.unsourced (k := ["p"]) hname hsource
  rw [show ["p"] ++ ["a.py"] = ["p", "a.py"] from rfl, ← hbereft] at herased houtputs
  have hs := herased.sound (hleft.sound small_sound)
  have hversion := manifest_version hrun₀
  have hnames := manifest_names hrun₀
  have hload : Manifest.load? bereft
      (bereft.resolve ((smallRequest.reports bereft).child manifestName)) = some previous := by
    have hsame : FileTree.Later (fun _ => False) (fun _ => False) bereft bereft := .refl bereft
    exact previous_later hs hsame id (houtputs.load? hversion)
  obtain ⟨report, t₁, hrun⟩ := run_completes hs houtputs hversion hnames hrounds
  -- the entry is out of date
  have hstale : isStale e.dependencies (digestAt rounded) = true := by
    rw [hdependencies]
    unfold isStale digestAt
    rw [List.any_cons, hpath, hgone]
    rfl
  have hplace : destination (smallRequest.out bereft) e.module = ["p", "foo_builder.py"] := by
    rw [out_later herased, out_later hleft, hmodule, hdestination]
  have hentries := (rounds_outputs hs houtputs hrounds).entries hversion
  have hnew : e.module ∉ (Manifest.ofRun smallRequest.profile s.run).artifacts.map (·.module) := by
    rw [mem_manifest, hartifacts]
    rintro ⟨a, ha, -⟩
    cases ha
  have hdeleted : ∀ c', t₁.get? ["p", "foo_builder.py"] ≠ some (.file c') := by
    intro c' hc'
    rw [← hplace] at hc' hfile
    obtain ⟨hold, hhand⟩ := orphans_taken hs (Request.writing rfl bereft) hrun hrounds
      (by rw [hentries]; exact hnames)
      (by rw [hentries, hprevious]; exact List.mem_singleton_self e) hnew hstale hc'
    rw [hfile] at hold
    cases hold
    rw [hheader] at hhand
    cases hhand
  obtain ⟨s', rounded', hrounds', hsafe⟩ := orphans_safe hs (fun p hp => by
    rw [hload] at hp
    cases hp
    exact ⟨_, _, _, _, _, hrun₀⟩) hrun
  rw [hrounds] at hrounds'
  cases hrounds'
  exact ⟨report₀, previous, t₀, report, _, t₁, s, rounded, c, hrun₀, hload, hrun, hrounds, hfile,
    hdeleted, hsafe _ c hfile hdeleted⟩

end Generation

end FluentBuilders
