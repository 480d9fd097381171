import Mathlib.Data.List.Chain
import FluentBuilders.Proofs.Generation.Orphans

/-!
Runs one after the other, with edits of sources in between.

1. `History`: each run starts from the tree that the run before it left, once sources were edited.
2. A run goes through the manifest of the run before it, and puts builders only where its own manifest
   says.
3. `orphans_gone`: a builder whose source is no longer as it was is not there in the end, if the source
   had changed by the time of the first run that did not make the builder again. `orphan_outlives`: a
   builder that this run passed over is in no manifest any more, and outlives its source.
-/

namespace FluentBuilders

open Text

namespace Generation

/-! ## 1. Histories -/

/-- A run with the trees before and after it. -/
structure Lap where
  request : Request
  cancelled : Moment → Bool
  before : FileTree
  report : Report
  manifest : Manifest
  after : FileTree

/-- A run that came to its end, was no check and was not cancelled. -/
structure Lap.Completed (x : Lap) : Prop where
  sound : x.before.Sound
  writing : x.request.Writing x.cancelled x.before
  run : Generation.run x.request x.cancelled x.before = (.ok (x.report, x.manifest), x.after)

/-- A file that starts as builders do. -/
def BuilderAt (t : FileTree) (l : Location) : Prop :=
  ∃ c, t.get? l = some (.file c) ∧ FileTree.startsGenerated c = true

theorem BuilderAt.later {t t' : FileTree} {l : Location} {written removed : Location → Prop}
    (h : BuilderAt t l) (hlater : FileTree.Later written removed t t') (hwritten : ¬ written l)
    (hremoved : ¬ removed l) : BuilderAt t' l := by
  obtain ⟨c, hget, hheader⟩ := h
  exact ⟨c, hlater.content l c hremoved hwritten hget, hheader⟩

/-- What edits of sources leave alone: where relative paths start, what the manifest says, and that a
file which starts as builders do was put there by a run. -/
structure Edited (r : Request) (t t' : FileTree) : Prop where
  here : t'.here = t.here
  manifest : Manifest.load? t' ((r.reports t').child manifestName) =
    Manifest.load? t ((r.reports t).child manifestName)
  builders : ∀ l, BuilderAt t' l → BuilderAt t l

/-- The next run has the same source root, output directory and report directory; before it, sources
may be edited. -/
structure Follows (x y : Lap) : Prop where
  root : y.request.sourceRoot = x.request.sourceRoot
  output : y.request.outputDirectory = x.request.outputDirectory
  reports : ∀ t, y.request.reports t = x.request.reports t
  edited : Edited x.request x.after y.before

/-- Runs one after the other. -/
structure History (laps : List Lap) : Prop where
  completed : ∀ x ∈ laps, x.Completed
  chain : laps.IsChain Follows

/-! ## 2. From one run to the next -/

variable {x y z : Lap} {m : String} {s : Rounds.State FileTree} {rounded : FileTree}

theorem Lap.Completed.leaves (h : x.Completed) :
    FileTree.Later (fun l => x.request.IsOutput x.before l ∨
        ∃ e ∈ x.manifest.artifacts, l = destination (x.request.out x.before) e.module)
      (fun _ => True) x.before x.after ∧
    Outputs (x.request.reports x.after) x.manifest x.after :=
  run_leaves h.sound h.writing h.run

/-- The output directory stays the same. -/
theorem Follows.out (h : Follows x y) (hx : x.Completed) :
    y.request.out y.before = x.request.out x.before := by
  have hhere : y.before.here = x.before.here := h.edited.here.trans hx.leaves.1.here
  unfold Request.out Request.root FileTree.resolve FileTree.locate FileTree.start
  rw [h.root, h.output, hhere]

/-- A run goes through the entries of the run before it. -/
theorem Follows.entries (h : Follows x y) (hx : x.Completed) (hy : y.Completed)
    (hrounds : y.request.rounds y.cancelled y.before = (.ok s, rounded)) :
    y.request.entries rounded = x.manifest.artifacts := by
  have hload : Manifest.load? y.before ((y.request.reports y.before).child manifestName) =
      some x.manifest := by
    rw [h.reports, h.edited.manifest]
    exact hx.leaves.2.load? (manifest_version hx.run)
  have htouched := rounds_touch hy.sound hrounds
  obtain ⟨c, hlook, hagain⟩ := Manifest.load?_file hload
  have hkept : ¬ ∃ a ∈ s.run.artifacts,
      y.before.locate ((y.request.reports y.before).child manifestName) =
        destination (y.request.out y.before) a.module := by
    rintro ⟨a, -, hl⟩
    rw [isOutput_manifest.locate] at hl
    exact manifest_ne_destination _ _ _ _ hl
  unfold Request.entries
  rw [reports_later htouched, hagain rounded _ (htouched.look_file id hkept hlook)]
  rfl

/-- A run puts no builder where its manifest names none. -/
theorem Lap.Completed.builder_before (h : z.Completed)
    (hnew : m ∉ z.manifest.artifacts.map (·.module))
    (hthere : BuilderAt z.after (destination (z.request.out z.before) m)) :
    BuilderAt z.before (destination (z.request.out z.before) m) := by
  obtain ⟨c, hget, hheader⟩ := hthere
  refine ⟨c, h.leaves.1.old _ c ?_ hget, hheader⟩
  rintro (houtput | ⟨e, he, heq⟩)
  · exact output_ne_destination houtput _ _ rfl
  · exact hnew (destination_injective _ heq ▸ List.mem_map_of_mem he)

/-- A run that finds no builder out of date removes none. -/
theorem Lap.Completed.passes (h : x.Completed)
    (hrounds : x.request.rounds x.cancelled x.before = (.ok s, rounded))
    (hfresh : ∀ e ∈ x.request.entries rounded, isStale e.dependencies (digestAt rounded) = false) :
    FileTree.Later (fun l => x.request.IsOutput x.before l ∨
        ∃ e ∈ x.manifest.artifacts, l = destination (x.request.out x.before) e.module)
      (fun _ => False) x.before x.after := by
  have hnone : removeOrphans (x.manifest.artifacts.map (·.module)) (x.request.output x.before)
      (x.request.entries rounded) rounded = ([], rounded) := by
    refine removeOrphans_none _ fun e he => ?_
    unfold isOrphan
    rw [hfresh e he, Bool.and_false]
  refine (run_later h.sound h.writing h.run hrounds ?_).1
  rw [hnone]
  exact .refl rounded

/-- Once a source was taken away, a run comes to its end where its rounds end well. -/
theorem Lap.Completed.unsourced (h : x.Completed) {k : Location} {name : String} {c : Bytes}
    (hname : (stem? name).isSome = true)
    (hsource : x.after.get? (k ++ [name]) = some (.file c))
    (hrounds : x.request.rounds (fun _ => false) (x.after.erase (k ++ [name])) = (.ok s, rounded)) :
    ∃ y : Lap, Follows x y ∧ y.Completed ∧ y.before = x.after.erase (k ++ [name]) ∧
      y.request = x.request ∧ y.request.rounds y.cancelled y.before = (.ok s, rounded) ∧
      y.manifest = .ofRun x.request.profile s.run := by
  obtain ⟨hlater, houtputs⟩ := h.leaves
  obtain ⟨herased, hkept⟩ := houtputs.unsourced hname hsource
  have hversion := manifest_version h.run
  have hs := herased.sound (hlater.sound h.sound)
  obtain ⟨report, after, hrun⟩ := run_completes hs hkept hversion (manifest_names h.run) hrounds
  refine ⟨⟨x.request, fun _ => false, x.after.erase (k ++ [name]), report, _, after⟩,
    ⟨rfl, rfl, fun _ => rfl, herased.here, ?_, ?_⟩, ⟨hs, Request.writing h.writing.1 _, hrun⟩, rfl, rfl,
    hrounds, rfl⟩
  · rw [houtputs.load? hversion]
    exact hkept.load? hversion
  · rintro l ⟨c', hget, hheader⟩
    exact ⟨c', herased.old l c' id hget, hheader⟩

theorem History.tail {laps : List Lap} (h : History (x :: laps)) : History laps :=
  ⟨fun z hz => h.completed z (List.mem_cons_of_mem _ hz), h.chain.tail⟩

/-- A builder that is there in the end, of a module that no later run has made, has been there since. -/
theorem History.builder_since {later : List Lap} (h : History (y :: later))
    (hnew : ∀ z ∈ later, m ∉ z.manifest.artifacts.map (·.module)) {last : Lap}
    (hlast : (y :: later).getLast? = some last)
    (hthere : BuilderAt last.after (destination (y.request.out y.before) m)) :
    BuilderAt y.after (destination (y.request.out y.before) m) := by
  induction later generalizing y with
  | nil =>
    rw [List.getLast?_singleton] at hlast
    cases hlast
    exact hthere
  | cons z rest ih =>
    have hy := h.completed y List.mem_cons_self
    have hz := h.tail.completed z List.mem_cons_self
    have hfollows := (List.isChain_cons_cons.mp h.chain).1
    rw [List.getLast?_cons_cons] at hlast
    rw [← hfollows.out hy] at hthere ⊢
    have hafter := ih h.tail (fun w hw => hnew w (List.mem_cons_of_mem _ hw)) hlast hthere
    exact hfollows.edited.builders _ (hz.builder_before (hnew z List.mem_cons_self) hafter)

/-! ## 3. What is left of orphans -/

/-- In the end of a history, no builder is left that the run `x` was the last to make, if the run after
it had found the source changed or gone by the end of its rounds. -/
theorem orphans_gone {earlier later : List Lap} (h : History (earlier ++ x :: y :: later))
    {e : ManifestEntry} (he : e ∈ x.manifest.artifacts)
    (hnew : ∀ z ∈ y :: later, e.module ∉ z.manifest.artifacts.map (·.module)) {last : Lap}
    (hlast : (y :: later).getLast? = some last) :
    ∃ s rounded, y.request.rounds y.cancelled y.before = (.ok s, rounded) ∧
      (isStale e.dependencies (digestAt rounded) = true →
        last.after.isGenerated (artifactPath (x.request.output x.before) e.module) = false) := by
  have hx : x.Completed := h.completed x (by simp)
  have hy : y.Completed := h.completed y (by simp)
  have hfrom : History (y :: later) := by
    refine ⟨fun z hz => h.completed z (List.mem_append_right _ (List.mem_cons_of_mem _ hz)), ?_⟩
    exact (List.isChain_append.mp h.chain).2.1.tail
  have hfollows : Follows x y := (List.isChain_append_cons_cons.mp h.chain).2.1
  have hend : last.Completed := hfrom.completed last (List.mem_of_getLast? hlast)
  obtain ⟨s, rounded, hrounds, -⟩ := run_completed hy.run
  refine ⟨s, rounded, hrounds, fun hstale => ?_⟩
  have hm := manifest_names hx.run e he
  have hentries := hfollows.entries hx hy hrounds
  rw [← Bool.not_eq_true, isGenerated_iff]
  rintro ⟨c, hlook, hheader⟩
  -- whatever is left has been there since the run `y`, which has taken it
  have hdots : ".." ∉ destination (x.request.out x.before) e.module :=
    dots_not_mem_destination (hx.sound.dots_not_mem_locate _) hm
  rw [output_path, artifactPath_path hm,
    (hend.leaves.1.sound hend.sound).look_iff hdots, ← hfollows.out hx] at hlook
  obtain ⟨c', hleft, hheader'⟩ := hfrom.builder_since
    (fun z hz => hnew z (List.mem_cons_of_mem _ hz)) hlast ⟨c, hlook, hheader⟩
  obtain ⟨-, hhand⟩ := orphans_taken hy.sound hy.writing hy.run hrounds
    (by rw [hentries]; exact manifest_names hx.run) (by rw [hentries]; exact he)
    (hnew y List.mem_cons_self) hstale hleft
  rw [hheader'] at hhand
  cases hhand

set_option maxRecDepth 100000 in
/-- The builder of a source that is gone is not there after the next run. -/
theorem orphans_gone_bereft : ∃ x y e s rounded, History [x, y] ∧ e ∈ x.manifest.artifacts ∧
    e.module ∉ y.manifest.artifacts.map (·.module) ∧
    y.request.rounds y.cancelled y.before = (.ok s, rounded) ∧
    isStale e.dependencies (digestAt rounded) = true ∧
    BuilderAt y.before (destination (y.request.out y.before) e.module) ∧
    y.after.isGenerated (artifactPath (x.request.output x.before) e.module) = false := by
  have hdestination : destination (smallRequest.out small) "p.foo_builder" =
      ["p", "foo_builder.py"] := by
    decide +kernel
  obtain ⟨report₀, previous, t₀, e, f, s, rounded, c, hrun₀, hbereft, ⟨c', hsource⟩, hprevious, hmodule,
    hdependencies, hpath, hrounds, hartifacts, hgone, hfile, hheader⟩ := bereft_run
  obtain ⟨x, hx, hrequest, hbefore, rfl, rfl⟩ : ∃ x : Lap, x.Completed ∧ x.request = smallRequest ∧
      x.before = small ∧ x.manifest = previous ∧ x.after = t₀ :=
    ⟨⟨_, fun _ => false, _, report₀, _, _⟩, ⟨small_sound, Request.writing rfl small, hrun₀⟩, rfl, rfl,
      rfl, rfl⟩
  have hname : (stem? "a.py").isSome = true := by decide
  rw [hbereft, ← hrequest] at hrounds
  obtain ⟨y, hfollows, hy, -, -, hrounds, hmanifest⟩ :=
    hx.unsourced (k := ["p"]) hname hsource hrounds
  have hhistory : History ([] ++ x :: y :: []) :=
    ⟨List.forall_mem_cons.mpr ⟨hx, List.forall_mem_singleton.mpr hy⟩,
      .cons_cons hfollows (.singleton _)⟩
  have he : e ∈ x.manifest.artifacts := hprevious ▸ List.mem_singleton_self e
  have hnew : e.module ∉ y.manifest.artifacts.map (·.module) := by
    rw [hmanifest, mem_manifest, hartifacts]
    rintro ⟨a, ha, -⟩
    cases ha
  have hstale : isStale e.dependencies (digestAt rounded) = true := by
    rw [hdependencies]
    unfold isStale digestAt
    rw [List.any_cons, hpath, hgone]
    rfl
  have hplace : destination (y.request.out y.before) e.module = ["p", "foo_builder.py"] := by
    rw [hfollows.out hx, hrequest, hbefore, hmodule, hdestination]
  obtain ⟨s', rounded', hrounds', htaken⟩ := orphans_gone hhistory he
    (List.forall_mem_singleton.mpr hnew) rfl
  rw [hrounds] at hrounds'
  cases hrounds'
  refine ⟨x, y, e, s, rounded, hhistory, he, hnew, hrounds, hstale, ?_, htaken hstale⟩
  refine ⟨c, (rounds_touch hy.sound hrounds).old _ c ?_ (by rw [hplace]; exact hfile), hheader⟩
  rintro ⟨a, ha, -⟩
  rw [hartifacts] at ha
  cases ha

/-- All modules of a tree but builders stand at places of a list. -/
def Modules (t : FileTree) (places : List Location) : Prop :=
  ∀ k name c, (stem? name).isSome = true → t.get? (k ++ [name]) = some (.file c) →
    FileTree.startsGenerated c = false → k ++ [name] ∈ places

theorem Modules.of_entries {t : FileTree} {places : List Location}
    (h : ∀ x ∈ t.entries, (x.1.getLast?.bind stem?).isSome = true →
      holds (fun c => !FileTree.startsGenerated c) x.2 = true → x.1 ∈ places) : Modules t places := by
  intro k name c hname hget hhand
  rw [← FileTree.find_of_get? (by simp)] at hget
  refine h _ (FileTree.mem_of_find hget) ?_ ?_
  · rw [List.getLast?_concat]
    exact hname
  · dsimp only [holds]
    rw [hhand]
    rfl

theorem Modules.erase {t : FileTree} {places : List Location} {l : Location} (hl : l ≠ [])
    (h : Modules t places) : Modules (t.erase l) (places.filter (· != l)) := by
  intro k name c hname hget hhand
  rw [FileTree.get?_erase _ _ _ hl] at hget
  split at hget
  · cases hget
  · next hne => exact List.mem_filter.mpr ⟨h k name c hname hget hhand, by simpa using Ne.symm hne⟩

/-- A run that makes no builder writes no module. -/
theorem Lap.writes_no_module (x : Lap) (hnone : x.manifest.artifacts = []) {k : Location}
    {name : String} (hname : (stem? name).isSome = true) :
    ¬ (x.request.IsOutput x.before (k ++ [name]) ∨
      ∃ e ∈ x.manifest.artifacts, k ++ [name] = destination (x.request.out x.before) e.module) := by
  rintro (houtput | ⟨e, he, -⟩)
  · exact output_ne_source houtput hname rfl
  · rw [hnone] at he
    cases he

theorem Lap.Completed.modules (h : x.Completed) {places : List Location}
    (hnone : x.manifest.artifacts = []) (hplaces : Modules x.before places) :
    Modules x.after places := fun k name c hname hget =>
  hplaces k name c hname (h.leaves.1.old _ c (x.writes_no_module hnone hname) hget)

/-- Without modules there is nothing to make, and rounds end at once. -/
theorem rounds_unsourced {r : Request} {t : FileTree} (hs : t.Sound) (h : Modules t [])
    (cancelled : Moment → Bool) :
    ∃ s, r.rounds cancelled t = (.ok s, t) ∧ s.run.artifacts = [] := by
  have hsources : sourcesOf t (r.root t) r.profile = [] := by
    refine List.eq_nil_iff_forall_not_mem.mpr fun x hx => ?_
    obtain ⟨hfile, hget, hhand⟩ := (mem_sourcesOf hs (hs.dots_not_mem_locate _)).mp hx
    obtain ⟨before, name, hbelow, hname, -⟩ := sourceFile?_names hfile
    rw [hbelow, ← List.append_assoc] at hget
    cases h _ name x.2 hname hget hhand
  have hload : (load t (r.root t) r.profile).1 = .empty := by
    rw [load_eq, hsources]
    rfl
  obtain ⟨n, hn⟩ : ∃ n, max 1 r.profile.maxRounds.toNat = n + 1 :=
    ⟨max 1 r.profile.maxRounds.toNat - 1, by omega⟩
  have hround : publishRound (surroundings r (r.output t) cancelled) 1
      (Rounds.scanOf (surroundings r (r.output t) cancelled) r.profile.marker 1
        ⟨.empty, t, [], .empty⟩).artifacts t = (.ok .empty, t) := by
    unfold publishRound
    exact ite_self _
  obtain ⟨s, moved, hclose, honce⟩ := Rounds.once_closes hround
  have hpending : s.pending = [] := (congrArg (·.1.pending) hclose).symm
  have hartifacts : s.run.artifacts = [] := (congrArg (·.1.run.artifacts) hclose).symm
  have hnext : Rounds.next (surroundings r (r.output t) cancelled) r.profile.maxRounds 1 moved s ≠
      .again := by
    unfold Rounds.next
    rw [hpending]
    split
    · decide
    · exact fun h => by cases h
  unfold Request.rounds Rounds.run
  rw [hload, hn, Rounds.loop, honce]
  generalize Rounds.next (surroundings r (r.output t) cancelled) r.profile.maxRounds 1 moved s = next
    at hnext
  cases next with
  | again => exact absurd rfl hnext
  | stop => exact ⟨_, rfl, hartifacts⟩
  | cancelled => exact ⟨_, rfl, hartifacts⟩

/-- A marked class that refers to the class of another module. -/
def referring : FileTree where
  entries :=
    [(["p"], .directory),
      (["p", "a.py"], .file (encode
        "from builder_gen.marker import builder\nfrom p.b import B\n@builder\nclass Foo(B): pass\n")),
      (["p", "b.py"], .file (encode "class B: pass\n"))]
  here := []

set_option maxRecDepth 100000 in
/-- The first run makes the builder; once the module that is referred to is gone, the rounds of a second
one do not, and leave the marked class as it is. -/
theorem referring_run : ∃ report manifest t₁ e f s rounded,
    run smallRequest (fun _ => false) referring = (.ok (report, manifest), t₁) ∧
      report.written = ["/p/foo_builder.py"] ∧ manifest.artifacts = [e] ∧
      e.module = "p.foo_builder" ∧ e.dependencies = [f] ∧ f.path = "/p/a.py" ∧
      BuilderAt t₁ ["p", "foo_builder.py"] ∧ (∃ c, t₁.get? ["p", "b.py"] = some (.file c)) ∧
      Modules t₁ [["p", "a.py"], ["p", "b.py"]] ∧
      smallRequest.rounds (fun _ => false) (t₁.erase ["p", "b.py"]) = (.ok s, rounded) ∧
      s.run.artifacts = [] ∧ rounded.get? ["p", "a.py"] = referring.get? ["p", "a.py"] := by
  have hfirst : ((run smallRequest (fun _ => false) referring).1.toOption.map fun x =>
        (x.1.written, x.2.artifacts.map fun e => (e.module, e.dependencies.map (·.path))),
      ((run smallRequest (fun _ => false) referring).2.get? ["p", "foo_builder.py"]).any
        (holds FileTree.startsGenerated),
      ((run smallRequest (fun _ => false) referring).2.get? ["p", "b.py"]).any (holds fun _ => true),
      decide (∀ x ∈ (run smallRequest (fun _ => false) referring).2.entries,
        (x.1.getLast?.bind stem?).isSome = true →
          holds (fun c => !FileTree.startsGenerated c) x.2 = true →
          x.1 ∈ [["p", "a.py"], ["p", "b.py"]])) =
      (some (["/p/foo_builder.py"], [("p.foo_builder", ["/p/a.py"])]), true, true, true) := by
    decide +kernel
  have hsecond : ((smallRequest.rounds (fun _ => false)
        ((run smallRequest (fun _ => false) referring).2.erase ["p", "b.py"])).1.toOption.map fun s =>
          s.run.artifacts.map (·.module),
      decide ((smallRequest.rounds (fun _ => false)
        ((run smallRequest (fun _ => false) referring).2.erase ["p", "b.py"])).2.get? ["p", "a.py"] =
          referring.get? ["p", "a.py"])) = (some [], true) := by
    decide +kernel
  rcases hrun : run smallRequest (fun _ => false) referring with ⟨_ | ⟨report, manifest⟩, t₁⟩
  · rw [hrun] at hfirst
    cases hfirst
  rw [hrun] at hfirst hsecond
  dsimp only at hsecond
  rcases hrounds : smallRequest.rounds (fun _ => false) (t₁.erase ["p", "b.py"]) with ⟨_ | s, rounded⟩
  · rw [hrounds] at hsecond
    cases hsecond
  rw [hrounds] at hsecond
  simp only [Except.toOption, Option.map_some, Prod.mk.injEq, Option.some.injEq,
    List.map_eq_nil_iff, decide_eq_true_eq] at hfirst hsecond
  obtain ⟨⟨hwritten, hentries⟩, hbuilder, hsource, hmodules⟩ := hfirst
  obtain ⟨e, hmanifest, hentry⟩ := List.map_eq_singleton_iff.mp hentries
  rw [Prod.mk.injEq, List.map_eq_singleton_iff] at hentry
  obtain ⟨hmodule, f, hdependencies, hpath⟩ := hentry
  obtain ⟨c, hget, hheader⟩ := file_of_holds hbuilder
  obtain ⟨c', hget', -⟩ := file_of_holds hsource
  exact ⟨report, manifest, t₁, e, f, s, rounded, rfl, hwritten, hmanifest, hmodule, hdependencies,
    hpath, ⟨c, hget, hheader⟩, ⟨c', hget'⟩, .of_entries hmodules, hrounds, hsecond⟩

section Digests

variable {t : FileTree} {l : Location} {path : String}

theorem digestAt_file (hs : t.Sound) (hpath : FilePath.ofText path = Location.path l)
    (hl : ".." ∉ l) {c : Bytes} (hget : t.get? l = some (.file c)) :
    digestAt t path = some (Digest.sha256 c) := by
  have hlook := (hs.look_iff hl).mpr hget
  unfold digestAt
  rw [hpath, if_pos (FileTree.isFile_iff.mpr ⟨c, hlook⟩), FileTree.readBytes_iff.mpr hlook]

theorem digestAt_none (hs : t.Sound) (hpath : FilePath.ofText path = Location.path l)
    (hl : ".." ∉ l) (hget : ∀ c, t.get? l ≠ some (.file c)) : digestAt t path = none := by
  unfold digestAt
  rw [hpath, if_neg]
  intro hfile
  obtain ⟨c, hlook⟩ := FileTree.isFile_iff.mp hfile
  exact hget c ((hs.look_iff hl).mp hlook)

end Digests

set_option maxRecDepth 100000 in
/-- The second run passes the builder over, as its source is as it was; when that has gone too, no
manifest tells the third run of the builder. -/
theorem orphan_outlives : ∃ x y z e, History [x, y, z] ∧ e ∈ x.manifest.artifacts ∧
    x.report.written = [(artifactPath (x.request.output x.before) e.module).text] ∧
    e.module ∉ y.manifest.artifacts.map (·.module) ∧
    e.module ∉ z.manifest.artifacts.map (·.module) ∧
    z.after.isGenerated (artifactPath (x.request.output x.before) e.module) = true ∧
    isStale e.dependencies (digestAt z.after) = true := by
  obtain ⟨report, manifest, t₁, e, f, s, rounded, hrun, hwritten, hmanifest, hmodule, hdependencies,
    hpath, hbuilder, ⟨c, hsource⟩, hmodules, hrounds, hnone, hkept⟩ := referring_run
  have hs : referring.Sound := .of_entries (by decide) (by decide) rfl (by decide)
  have hplace : artifactPath (smallRequest.output referring) "p.foo_builder" =
      Location.path ["p", "foo_builder.py"] := by
    decide +kernel
  have hrecorded : ∀ w ∈ sourcesOf referring (smallRequest.root referring) smallRequest.profile,
      (w.1.path (smallRequest.root referring)).text = "/p/a.py" →
        referring.get? ["p", "a.py"] = some (.file w.2) := by
    decide +kernel
  obtain ⟨w, hw, rfl⟩ := manifest_dependencies hrun e (by rw [hmanifest]; exact List.mem_singleton_self e) f
    (by rw [hdependencies]; exact List.mem_singleton_self f)
  rw [hrecorded w hw hpath] at hkept
  obtain ⟨x, hx, hrequest, hbefore, rfl, rfl, rfl⟩ : ∃ x : Lap, x.Completed ∧
      x.request = smallRequest ∧ x.before = referring ∧ x.manifest = manifest ∧ x.report = report ∧
      x.after = t₁ :=
    ⟨⟨_, fun _ => false, _, report, _, _⟩, ⟨hs, Request.writing rfl referring, hrun⟩, rfl, rfl, rfl,
      rfl, rfl⟩
  have ha : (stem? "a.py").isSome = true := by decide
  have hb : (stem? "b.py").isSome = true := by decide
  -- the second run: the source of the builder is as it was recorded, so nothing is removed
  rw [← hrequest] at hrounds
  obtain ⟨y, hxy, hy, hybefore, hyrequest, hyrounds, hymanifest⟩ :=
    hx.unsourced (k := ["p"]) hb hsource hrounds
  have hynone : y.manifest.artifacts = [] := by
    rw [hymanifest]
    unfold Manifest.ofRun
    rw [hnone]
    rfl
  have hytouched := rounds_touch hy.sound hyrounds
  have hypasses := hy.passes hyrounds fun e' he' => by
    rw [hxy.entries hx hy hyrounds, hmanifest, List.mem_singleton] at he'
    rw [he', hdependencies]
    unfold isStale
    rw [List.any_cons, hpath, digestAt_file (hytouched.sound hy.sound) rfl (by decide) hkept]
    simp
  have hfoo : (stem? "foo_builder.py").isSome = true := by decide
  have hbuilder_y : BuilderAt y.after (["p"] ++ ["foo_builder.py"]) := by
    have herased : FileTree.Later (fun _ => False) (· = ["p", "b.py"]) x.after y.before := by
      rw [hybefore]
      exact .erase hsource rfl
    exact (hbuilder.later herased id (by decide)).later hypasses
      (y.writes_no_module (k := ["p"]) hynone hfoo) id
  have hsource_y : y.after.get? (["p"] ++ ["a.py"]) = some (.file w.2) := by
    refine hypasses.content _ _ id (y.writes_no_module hynone ha) (hytouched.old _ _ ?_ hkept)
    rintro ⟨a, hmade, -⟩
    rw [hnone] at hmade
    cases hmade
  have hmodules_y : Modules y.after [["p", "a.py"]] := by
    refine hy.modules hynone ?_
    rw [hybefore]
    exact hmodules.erase (by decide)
  -- the third run: there is no source any more, and no entry of the manifest before
  have hmodules_z : Modules (y.after.erase ["p", "a.py"]) [] := hmodules_y.erase (by decide)
  have hs_z : (y.after.erase ["p", "a.py"]).Sound := (hy.leaves.1.sound hy.sound).erase hsource_y
  obtain ⟨s', hrounds', hnone'⟩ := rounds_unsourced (r := y.request) hs_z hmodules_z fun _ => false
  obtain ⟨z, hyz, hz, hzbefore, -, hzrounds, hzmanifest⟩ :=
    hy.unsourced (k := ["p"]) ha hsource_y hrounds'
  have hznone : z.manifest.artifacts = [] := by
    rw [hzmanifest]
    unfold Manifest.ofRun
    rw [hnone']
    rfl
  have hzpasses := hz.passes hzrounds fun e' he' => by
    rw [hyz.entries hy hz hzrounds, hynone] at he'
    cases he'
  have herased : FileTree.Later (fun _ => False) (· = ["p", "a.py"]) y.after z.before := by
    rw [hzbefore]
    exact .erase hsource_y rfl
  obtain ⟨c', hleft, hheader⟩ := (hbuilder_y.later herased id (by decide)).later hzpasses
    (z.writes_no_module hznone hfoo) id
  have hs_end := hzpasses.sound hz.sound
  refine ⟨x, y, z, e, ⟨?_, .cons_cons hxy (.cons_cons hyz (.singleton _))⟩, ?_, ?_, ?_, ?_, ?_, ?_⟩
  · exact List.forall_mem_cons.mpr ⟨hx, List.forall_mem_cons.mpr ⟨hy, List.forall_mem_singleton.mpr hz⟩⟩
  · rw [hmanifest]
    exact List.mem_singleton_self e
  · rw [hwritten, hrequest, hbefore, hmodule, hplace]
    rfl
  · rw [hynone]
    exact List.not_mem_nil
  · rw [hznone]
    exact List.not_mem_nil
  · rw [hrequest, hbefore, hmodule, hplace, isGenerated_iff]
    exact ⟨c', (hs_end.look_iff (by decide)).mpr hleft, hheader⟩
  · rw [hdependencies]
    unfold isStale
    rw [List.any_cons, hpath, digestAt_none hs_end rfl (by decide)]
    · rfl
    · intro c'' hget
      have hback := hzpasses.old _ c'' (z.writes_no_module (k := ["p"]) hznone ha) hget
      rw [hzbefore, FileTree.get?_erase _ _ _ (by decide), if_pos rfl] at hback
      cases hback

end Generation

end FluentBuilders
