import FluentBuilders.Proofs.Generation.Idempotence
import FluentBuilders.Proofs.Rounds.Keeping

/-!
Runs that only check: they change nothing, and tell what a run would do.

1. `Surroundings.Idle`: a publisher that leaves its world as it is, and with it every run.
2. What is refused is reported as a write that failed.
3. Comparing a builder with the tree that a run started from gives the answer that publishing it gave
   in the course of the run, as long as no other builder has its module.
4. `run_check_idle` and `run_check_predicts`.
-/

namespace FluentBuilders

open Text

/-! ## 1. Idle publishers -/

section Idle

variable {σ : Type} {env : Surroundings σ}

/-- Publishing leaves the world as it is. -/
def Surroundings.Idle (env : Surroundings σ) : Prop :=
  ∀ send, env.publish = some send → ∀ a world, (send a world).2 = world

/-- A run leaves the world as its publisher does. -/
theorem Rounds.run_idle (henv : env.Idle) (profile : Profile) (g : Registry) (world : σ) :
    (Rounds.run env profile g world).2 = world := by
  refine Rounds.run_keeps (P := (· = world)) (fun _ send hsend a _ world' h => ?_) rfl
  rw [henv send hsend, h]

end Idle

/-! ## 2. Refusals -/

section Refusals

variable {σ : Type} {env : Surroundings σ} {send : Artifact → σ → Except PublishFault Published × σ}
  {round : Nat} {artifacts : List Artifact} {d d' : Delivery} {world world' : σ}

/-- What has failed stays so. -/
theorem publishInTurn_failed (henv : env.Steady send) {m : String}
    (h : publishInTurn env send round artifacts d world = (.ok d', world'))
    (hm : d.failures.contains m = true) : d'.failures.contains m = true := by
  induction artifacts generalizing d world with
  | nil =>
    cases h
    exact hm
  | cons a rest ih =>
    unfold publishInTurn at h
    split at h
    · next d₁ world₁ hone =>
      obtain ⟨-, ⟨p, -, rfl⟩ | ⟨f, -, rfl⟩⟩ := publishOne_steady henv hone
      · exact ih h hm
      · refine ih h ?_
        rw [Delivery.fail, Table.contains_iff, Table.mem_keys_insert]
        exact .inr ((Table.contains_iff ..).mp hm)
    · cases h

/-- What is refused has failed. -/
theorem publishInTurn_fails (henv : env.Steady send) {p : Artifact × σ} {f : WriteFailure}
    (h : publishInTurn env send round artifacts d world = (.ok d', world'))
    (hp : p ∈ sendings send artifacts world) (hf : (send p.1 p.2).1 = .error (.refused f)) :
    d'.failures.contains p.1.module = true := by
  induction artifacts generalizing d world with
  | nil => cases hp
  | cons a rest ih =>
    unfold publishInTurn at h
    split at h
    · next d₁ world₁ hone =>
      obtain ⟨rfl, hanswer⟩ := publishOne_steady henv hone
      rcases List.mem_cons.mp hp with rfl | hp
      · refine publishInTurn_failed henv h ?_
        rcases hanswer with ⟨q, hq, -⟩ | ⟨f', -, rfl⟩
        · rw [hf] at hq
          cases hq
        · rw [Delivery.fail, Table.contains_iff, Table.mem_keys_insert]
          exact .inl rfl
      · exact ih h hp
    · cases h

end Refusals

namespace Rounds

variable {σ : Type} {env : Surroundings σ} {send : Artifact → σ → Except PublishFault Published × σ}
  {profile : Profile} {fuel round : Nat} {s s' : State σ} {world : σ} {names : List String}
  {p : Artifact × σ} {f : WriteFailure}

/-- The outcome of a declaration whose builder could not be written. -/
def Refused (run : Run) (a : Artifact) : Prop :=
  ∃ n o, run.outcomes.get? a.source = some (n, o) ∧ o.status = .failed ∧
    o.reasons = [Reason.writeFailure]

/-- A round in which an artifact is refused says so of its declaration. -/
theorem once_refused (henv : env.Steady send) {next : Next}
    (h : once env profile round s = (.ok (s', next), world))
    (hp : p ∈ sendings send (batch env round (scanOf env profile.marker round s).artifacts) s.world)
    (hf : (send p.1 p.2).1 = .error (.refused f)) : Refused s'.run p.1 := by
  obtain ⟨delivery, moved, hround, hclose, -⟩ := once_closed h
  rw [publishRound_iff henv] at hround
  have hfailed := publishInTurn_fails henv hround hp hf
  obtain ⟨-, hwhole, -⟩ := publishInTurn_steady henv Delivery.whole_empty hround
  obtain ⟨before, after, hbatch, -⟩ := mem_sendings hp
  have hmade : p.1 ∈ (scanOf env profile.marker round s).artifacts :=
    (batch_perm henv _ _).mem_iff.mp (by rw [hbatch]; simp)
  obtain ⟨o, ho, hmakes⟩ := Outcome.Makes.maker (scanOf_accounts env profile round s).artifacts hmade
  obtain ⟨ho, -⟩ := List.mem_filter.mp ho
  refine ⟨round, o.settle delivery.failures, ?_, ?_⟩
  · rw [hmakes.source]
    exact once_outcome hclose ho
  · unfold Outcome.settle
    rw [hmakes.module, Option.bind_some]
    cases hfailure : delivery.failures.get? p.1.module with
    | none =>
      rw [Table.contains, hfailure] at hfailed
      cases hfailed
    | some u =>
      cases u with
      | cancelled => exact absurd hfailure (hwhole p.1.module)
      | failed f => exact ⟨rfl, rfl⟩

/-- What is refused in the course of a run is reported as such in the end. -/
theorem loop_refused (henv : env.Steady send) (hs : Account profile.marker names s)
    (h : loop env profile fuel round s = (.ok s', world))
    (hp : p ∈ sendings send (sent env profile fuel round s) s.world)
    (hf : (send p.1 p.2).1 = .error (.refused f)) : Refused s'.run p.1 := by
  induction fuel generalizing round s names with
  | zero => cases hp
  | succ fuel ih =>
    obtain ⟨s₁, next, world₁, honce, hrest⟩ := loop_sent h
    obtain ⟨hstate, hworld, -⟩ := once_steady henv honce
    have hs₁ := hs.step (once_stepped honce).1
    rcases hrest with ⟨_, rfl, -, hsent⟩ | ⟨hrest, hsent⟩
    · rw [hsent] at hp
      have hrefused := once_refused henv honce hp hf
      exact hrefused
    · rw [hsent, sendings_append, ← hworld, ← hstate] at hp
      rcases List.mem_append.mp hp with hp | hp
      · obtain ⟨n, o, hget, hstatus, hreasons⟩ := once_refused henv honce hp hf
        exact ⟨n, o, loop_kept hs₁ hrest hget (by rw [hstatus]; decide), hstatus, hreasons⟩
      · exact ih hs₁ hrest hp

/-- A refusal stands in the report. -/
theorem Refused.reported {run : Run} {a : Artifact} (h : Refused run a) (g : Registry) :
    ∃ d ∈ run.declarationReports g, d.reasons = [Reason.writeFailure] := by
  obtain ⟨n, o, hget, -, hreasons⟩ := h
  exact ⟨_, mem_declarationReports.mpr ⟨_, n, o, Table.mem_of_get? hget, rfl⟩, hreasons⟩

end Rounds

/-! ## 3. Comparing -/

section Comparing

variable {t t' : FileTree} {out : Location} {root : FilePath} {a : Artifact} {p : Published}

theorem compare_idle (root : FilePath) (a : Artifact) (t : FileTree) :
    (compare root a t).2 = t := by
  unfold compare
  dsimp only
  split <;> rfl

/-- What publishing answers, comparing answers too. -/
theorem compare_of_publish (h : (publish root a t).1 = .ok p) : (compare root a t).1 = .ok p := by
  unfold publish at h
  unfold compare
  dsimp only at h ⊢
  split at h
  · cases h
  · next current _ =>
    split at h
    · next hsame =>
      cases h
      simp [hsame]
    · next hother =>
      split at h
      · cases h
      · cases h
        simp [hother]

/-- Comparing depends on the text at the destination and on nothing else. -/
theorem compare_congr (h : currentText t' (artifactPath root a.module) =
    currentText t (artifactPath root a.module)) : (compare root a t').1 = (compare root a t).1 := by
  unfold compare
  dsimp only
  rw [h]
  split <;> rfl

/-- The text at a destination is what it was, as long as nobody writes there. -/
theorem currentText_later {written : Location → Prop} (hs : t.Sound) (hout : ".." ∉ out)
    {m : String} (hm : IsModuleName m) (h : FileTree.Later written (fun _ => False) t t')
    (hwritten : ¬ written (destination out m)) :
    currentText t' (Location.path (destination out m)) =
      currentText t (Location.path (destination out m)) := by
  have hdots := dots_not_mem_destination hout hm
  have hsame : ∀ c, t'.look (Location.path (destination out m)) = .ok (.file c) ↔
      t.look (Location.path (destination out m)) = .ok (.file c) := by
    intro c
    rw [(h.sound hs).look_iff hdots, hs.look_iff hdots]
    exact ⟨h.old _ c hwritten, h.content _ c id hwritten⟩
  by_cases hfile : ∃ c, t.look (Location.path (destination out m)) = .ok (.file c)
  · obtain ⟨c, hc⟩ := hfile
    rw [currentText_file hc, currentText_file ((hsame c).mpr hc)]
  · rw [currentText_free fun c hc => hfile ⟨c, hc⟩,
      currentText_free fun c hc => hfile ⟨c, (hsame c).mp hc⟩]

/-- Before an artifact is published, only the files of other modules are written. -/
theorem sendings_before (hs : t.Sound) (hout : ".." ∉ out) {artifacts : List Artifact}
    (hnames : ∀ a ∈ artifacts, IsModuleName a.module) (hnodup : (artifacts.map (·.module)).Nodup)
    {p : Artifact × FileTree} (hp : p ∈ sendings (publish (Location.path out)) artifacts t) :
    p.1 ∈ artifacts ∧ currentText p.2 (Location.path (destination out p.1.module)) =
      currentText t (Location.path (destination out p.1.module)) := by
  obtain ⟨before, after, rfl, hworld⟩ := mem_sendings hp
  have hmodule : IsModuleName p.1.module := hnames _ (by simp)
  refine ⟨by simp, ?_⟩
  rw [hworld]
  refine currentText_later hs hout hmodule
    (worldAfter_later hs hout fun a ha => hnames a (List.mem_append_left _ ha)) ?_
  rintro ⟨b, hb, heq⟩
  have hsame : b.module = p.1.module := (destination_injective out heq).symm
  rw [List.map_append, List.map_cons, List.nodup_append] at hnodup
  exact hnodup.2.2 _ (List.mem_map_of_mem hb) _ List.mem_cons_self hsame

end Comparing

/-! ## 4. Check runs -/

/-- Publishers that answer the same and refuse nothing. -/
def same : Likeness where
  published := Eq
  failure _ _ := False
  path _ _ h := by rw [h]

theorem Table.alike_eq {α : Type} {t t' : Table α} (h : Table.Alike Eq t t') : t' = t := by
  obtain ⟨es⟩ := t
  obtain ⟨es'⟩ := t'
  refine congrArg Table.mk ?_
  replace h : List.Forall₂ _ es es' := h
  induction h with
  | nil => rfl
  | cons he _ ih => rw [ih, Prod.ext he.1 he.2.symm]

/-- Runs with the same answers have the same reports. -/
theorem same_reports {ds ds' : List DeclarationReport} (h : List.Forall₂ same.Reports ds ds') :
    ds' = ds := by
  induction h with
  | nil => rfl
  | cons hd _ ih =>
    rcases hd.error with herror | ⟨f, f', hfalse, -⟩
    · rw [ih, hd.same, herror]
    · exact hfalse.elim

namespace Generation

variable {r : Request} {t t₁ : FileTree} {report : Report} {manifest : Manifest}

theorem conclude_check (hcheck : r.check = true) (output reports : FilePath) (cancelled : Bool)
    (report : Report) (manifest : Manifest) (t : FileTree) :
    conclude r output reports cancelled report manifest t = (.ok (report, manifest), t) := by
  unfold conclude
  rw [hcheck, Bool.true_or, if_pos rfl]

/-- A run that only checks leaves the tree as it is, whatever the tree and whenever it is cancelled. -/
theorem run_check_idle (hcheck : r.check = true) (cancelled : Moment → Bool) (t : FileTree) :
    (run r cancelled t).2 = t := by
  have hidle : (surroundings r (r.output t) cancelled).Idle := by
    rintro send hsend a world
    unfold surroundings at hsend
    rw [hcheck, if_pos rfl] at hsend
    cases hsend
    exact compare_idle _ a world
  have hrounds : (Rounds.run (surroundings r (r.output t) cancelled) r.profile
      (load t (r.root t) r.profile).1 t).2 = t := Rounds.run_idle hidle ..
  unfold run
  dsimp only
  simp only [conclude_check hcheck]
  generalize Rounds.run (surroundings r (r.output t) cancelled) r.profile
    (load t (r.root t) r.profile).1 t = answer at hrounds
  split <;> exact hrounds

/-- No module is sent twice where those of the artifacts differ and nothing is refused. -/
theorem sent_apart (hcheck : r.check = false) {s : Rounds.State FileTree} {rounded : FileTree}
    (h : Ended r t s rounded t₁) (hmodules : (s.run.artifacts.map (·.module)).Nodup)
    (hwrites : ∀ p ∈ r.sendings t, ∀ f,
      (publish (Location.path (r.out t)) p.1 p.2).1 ≠ .error (.refused f)) :
    ((r.sent t).map (·.module)).Nodup := by
  have hsteady := surroundings_steady hcheck (r.output t)
  have hsources := Rounds.sent_sources hsteady (before_account r t) h.rounds
  have hmade : ∀ a ∈ r.sent t, a ∈ s.run.artifacts := by
    intro a ha
    rcases Rounds.loop_sent_artifacts hsteady h.rounds ha with hmade | ⟨p, hp, -, f, hf⟩
    · exact hmade
    · exact absurd hf (hwrites p hp f)
  exact hsources.of_map.map_on fun a ha b hb =>
    List.inj_on_of_nodup_map hmodules (hmade a ha) (hmade b hb)

/-- Where nothing is refused and no module is sent twice, comparing repeats the answers of
publishing. -/
theorem compare_repeats (hs : t.Sound) (hcheck : r.check = false) {s : Rounds.State FileTree}
    {rounded : FileTree} (h : Ended r t s rounded t₁) (hmodules : ((r.sent t).map (·.module)).Nodup)
    (hwrites : ∀ p ∈ r.sendings t, ∀ f,
      (publish (Location.path (r.out t)) p.1 p.2).1 ≠ .error (.refused f)) :
    Repeats same (publish (Location.path (r.out t))) (compare (Location.path (r.out t))) t
      (r.sendings t) := by
  intro p hp
  have hnames := sent_names hcheck h
  obtain ⟨hmem, htext⟩ := sendings_before hs (hs.dots_not_mem_locate _) hnames hmodules hp
  refine ⟨compare_idle _ _ _, ?_⟩
  cases hanswer : (publish (Location.path (r.out t)) p.1 p.2).1 with
  | error e =>
    cases e with
    | refused f => exact absurd hanswer (hwrites p hp f)
    | aborted e =>
      exact absurd hanswer
        ((Rounds.loop_world (surroundings_steady hcheck (r.output t)) h.rounds).2 p hp e)
  | ok q =>
    have hsame : (compare (Location.path (r.out t)) p.1 t).1 =
        (compare (Location.path (r.out t)) p.1 p.2).1 := by
      refine compare_congr ?_
      rw [artifactPath_path (hnames _ hmem) (r.out t)]
      exact htext.symm
    rw [hsame, compare_of_publish hanswer]
    exact .ok rfl

/-- Where a run writes each module once and no write of it fails, a run that only checks tells what
becomes of it. -/
theorem run_check_predicts (hs : t.Sound) (hcheck : r.check = false)
    (hrun : run r (fun _ => false) t = (.ok (report, manifest), t₁))
    (hmodules : (manifest.artifacts.map (·.module)).Nodup)
    (hwrites : ∀ d ∈ report.declarations, Reason.writeFailure ∉ d.reasons) :
    ∃ report', run { r with check := true } (fun _ => false) t = (.ok (report', manifest), t) ∧
      report'.staleArtifacts = report.written ∧ report'.rounds = report.rounds ∧
      report'.declarations = report.declarations := by
  obtain ⟨s, rounded, removed, hended, rfl, rfl⟩ := run_ended hcheck hrun
  have hsteady := surroundings_steady hcheck (r.output t)
  have hrefuses : ∀ p ∈ r.sendings t, ∀ f,
      (publish (Location.path (r.out t)) p.1 p.2).1 ≠ .error (.refused f) := by
    intro p hp f hf
    obtain ⟨d, hd, hreasons⟩ := (Rounds.loop_refused hsteady (before_account r t) hended.rounds hp
      hf).reported s.registry
    refine hwrites d hd ?_
    rw [hreasons]
    exact List.mem_cons_self
  have hdistinct : (s.run.artifacts.map (·.module)).Nodup := by
    unfold Manifest.ofRun Manifest.current at hmodules
    rw [List.map_map] at hmodules
    exact ((sortByKey_perm _ _).map _).nodup_iff.mp hmodules
  have hsent := sent_apart hcheck hended hdistinct hrefuses
  have hchecking : (surroundings { r with check := true } (r.output t) fun _ => false).Steady
      (compare (r.output t)) := ⟨rfl, fun _ _ => rfl, fun _ artifacts => .refl artifacts⟩
  have hstart : same.States (r.before t) (r.before t) :=
    ⟨rfl, rfl, rfl, Table.Alike.empty, Table.Alike.empty, rfl, rfl, rfl⟩
  obtain ⟨s', hrounds', hstates⟩ := Rounds.loop_alike hsteady hchecking rfl rfl hstart rfl
    (compare_repeats hs hcheck hended hsent hrefuses) hended.rounds
  have hrun' := run_eq (r := { r with check := true }) hrounds'
  rw [conclude_check rfl, hstates.run.manifest r.profile] at hrun'
  refine ⟨_, hrun', ?_, hstates.run.rounds, ?_⟩
  · show s'.run.publishedPaths true = s.run.publishedPaths true
    unfold Run.publishedPaths
    rw [Table.alike_eq hstates.run.published]
  · show s'.run.declarationReports s'.registry = s.run.declarationReports s.registry
    rw [hstates.registry]
    exact same_reports (hstates.run.declarationReports s.registry)

/-- A run that only checks leaves the tree as it is, and predicts the run that does not: the rounds,
what becomes of each declaration and the manifest are the same, and the builders that it calls stale
are those that the other run writes. That other run came to its end with artifacts of different
modules and without a write that failed. -/
theorem run_check (r : Request) (t : FileTree) :
    (∀ cancelled, (run { r with check := true } cancelled t).2 = t) ∧
      ∀ report manifest t₁, t.Sound →
        run { r with check := false } (fun _ => false) t = (.ok (report, manifest), t₁) →
        (manifest.artifacts.map (·.module)).Nodup →
        (∀ d ∈ report.declarations, Reason.writeFailure ∉ d.reasons) →
        ∃ report', run { r with check := true } (fun _ => false) t = (.ok (report', manifest), t) ∧
          report'.staleArtifacts = report.written ∧ report'.rounds = report.rounds ∧
          report'.declarations = report.declarations := by
  refine ⟨fun cancelled => run_check_idle rfl cancelled t, fun report manifest t₁ hs hrun => ?_⟩
  exact run_check_predicts (r := { r with check := false }) hs rfl hrun

theorem run_check_small : ∃ report manifest t₁ report',
    run smallRequest (fun _ => false) small = (.ok (report, manifest), t₁) ∧
      report.written = ["/p/foo_builder.py"] ∧
      run { smallRequest with check := true } (fun _ => false) small =
        (.ok (report', manifest), small) ∧
      report'.staleArtifacts = ["/p/foo_builder.py"] := by
  obtain ⟨report, manifest, t₁, hrun, hdeclarations, hwritten, hmodules⟩ := small_run
  obtain ⟨report', hrun', hstale, -⟩ := (run_check smallRequest small).2 report manifest t₁
    small_sound hrun (by rw [hmodules]; exact List.nodup_singleton _) (fun d hd hfailure => by
      have hreasons := List.mem_map_of_mem
        (f := fun d => (builderModule d.package d.name, d.reasons)) hd
      rw [hdeclarations, List.mem_singleton, Prod.mk.injEq] at hreasons
      rw [hreasons.2] at hfailure
      cases hfailure)
  exact ⟨report, manifest, t₁, report', hrun, hwritten, hrun', hstale.trans hwritten⟩

end Generation

end FluentBuilders
