import FluentBuilders.Proofs.Generation.Ending
import FluentBuilders.Proofs.Publication.Refusals
import FluentBuilders.Proofs.Rounds.Serving

/-!
Builders that cannot be written, and what a run makes of all the others.

1. `rounds_stand`: whatever a run that writes has made stands in its tree.
2. `served`: where text stands in the places of builders, or nothing, each artifact has its own answer,
   whatever became of the others: it depends on the tree that the run started from.
3. What a report says of final outcomes.
4. `run_isolates`: the run as a whole. `run_gives_up`: a file that is no text aborts it.
-/

namespace FluentBuilders

open Text

/-! ## 1. What is made stands -/

section Sequence

variable {env : Surroundings FileTree} {out : Location} {round : Nat} {artifacts : List Artifact}
  {d d' : Delivery} {t t' : FileTree}

/-- An artifact that has not failed has its place. -/
theorem publishOne_placed {σ : Type} {env : Surroundings σ}
    {send : Artifact → σ → Except PublishFault Published × σ} {a : Artifact} {world world' : σ}
    (h : publishOne env send round a d world = (.ok d', world'))
    (hwell : d'.failures.get? a.module = none) :
    ∃ p, (send a world).1 = .ok p ∧ world' = (send a world).2 := by
  unfold publishOne at h
  split at h
  · cases h
    rw [Delivery.fail, Table.get?_insert, if_pos rfl] at hwell
    cases hwell
  split at h
  · next hsend =>
    cases h
    exact ⟨_, by rw [hsend], by rw [hsend]⟩
  · cases h
    rw [Delivery.fail, Table.get?_insert, if_pos rfl] at hwell
    cases hwell
  · cases h

/-- Where artifacts are written one after the other, those that have not failed stand in the end. -/
theorem publishInTurn_stands (hout : ".." ∉ out) (hs : t.Sound) (hfit : ∀ a ∈ artifacts, a.Fit)
    (hnodup : (artifacts.map (·.module)).Nodup) (hnew : ∀ a ∈ artifacts, a.module ∉ d.failures.keys)
    (h : publishInTurn env (publish (Location.path out)) round artifacts d t = (.ok d', t')) :
    ∀ a ∈ artifacts, a.module ∉ d'.failures.keys → Stands out a t' := by
  induction artifacts generalizing d t with
  | nil => exact fun _ => (nomatch ·)
  | cons a rest ih =>
    have ha := hfit a List.mem_cons_self
    have hrestfit : ∀ b ∈ rest, b.Fit := fun b hb => hfit b (List.mem_cons_of_mem _ hb)
    rw [List.map_cons, List.nodup_cons] at hnodup
    have hapart : ∀ b ∈ rest, b.module ≠ a.module := fun b hb hsame =>
      hnodup.1 (hsame ▸ List.mem_map_of_mem hb)
    unfold publishInTurn at h
    split at h
    · next d₁ t₁ hone =>
      have hone' := publishOne_delivered (publish_confined hout) hs ha.module
        (hnew a List.mem_cons_self) hone
      have hs₁ := hone'.later.sound hs
      have hrestnew : ∀ b ∈ rest, b.module ∉ d₁.failures.keys := by
        intro b hb hfailed
        rcases hone'.failures _ hfailed with hfailed | ⟨b', hb', hsame⟩
        · exact hnew b (List.mem_cons_of_mem _ hb) hfailed
        · exact hapart b hb (List.mem_singleton.mp hb' ▸ hsame)
      intro b hb hwell
      rcases List.mem_cons.mp hb with rfl | hb
      · -- the others leave its file alone
        rw [← Table.get?_eq_none_iff, (publishInTurn_beside h _ hnodup.1).2] at hwell
        obtain ⟨p, hp, rfl⟩ := publishOne_placed hone hwell
        have hrest := publishInTurn_delivered (publish_confined hout) hs₁
          (fun c hc => (hrestfit c hc).module) hnodup.2 hrestnew h
        refine (publish_stands hs hout ha hp).later hrest.later ?_ id
        rintro ⟨c, hc, -, hsame⟩
        exact hapart c hc (destination_injective out hsame).symm
      · exact ih hs₁ hrestfit hnodup.2 hrestnew h b hb hwell
    · cases h

end Sequence

namespace Generation

variable {r : Request} {t rounded : FileTree} {cancelled : Moment → Bool}
  {s s' : Rounds.State FileTree} {round : Nat}

/-- Each artifact of a run stands in its tree, or a later one of its module does. -/
def Upright (r : Request) (t : FileTree) (s : Rounds.State FileTree) : Prop :=
  ∀ a ∈ s.run.artifacts, ∃ b ∈ s.run.artifacts, b.module = a.module ∧ Stands (r.out t) b s.world

theorem Upright.once (hs : t.Sound) (hcheck : r.check = false) (h : Upright r t s)
    (hsound : s.world.Sound) {names : List String} (haccount : Rounds.Account r.profile.marker names s)
    {next : Rounds.Next} {world : FileTree}
    (honce : Rounds.once (surroundings r (r.output t) cancelled) r.profile round s =
      (.ok (s', next), world)) : Upright r t s' := by
  obtain ⟨delivery, moved, hround, hclose, -⟩ := Rounds.once_closed honce
  have hout := hs.dots_not_mem_locate (r.outputDirectory.getD (r.root t))
  have hfit : ∀ a ∈ (Rounds.scanOf (surroundings r (r.output t) cancelled) r.profile.marker round
      s).artifacts, a.Fit := fun a ha => haccount.scan_fit ha
  have hnodup := (Scan.through_modules (Rounds.answering r.profile.marker s)
    (fun done => cancelled (.scanning round done)) [] .empty (Rounds.work r.profile.marker s)).1
  have hturn := surroundings_inTurn hround
  rw [hcheck, if_neg Bool.false_ne_true, output_path] at hturn
  have hdelivered := publishInTurn_delivered (publish_confined hout) hsound
    (fun a ha => (hfit a ha).module) hnodup (fun _ _ => List.not_mem_nil) hturn
  have hstands := publishInTurn_stands hout hsound hfit hnodup (fun _ _ => List.not_mem_nil) hturn
  obtain ⟨rfl, -⟩ := Prod.mk.inj hclose
  intro a ha
  rcases List.mem_append.mp ha with ha | ha
  · obtain ⟨b, hb, hsame, hstands'⟩ := h a ha
    by_cases hagain : ∃ c ∈ (Rounds.scanOf (surroundings r (r.output t) cancelled)
        r.profile.marker round s).artifacts, c.module ∉ delivery.failures.keys ∧ c.module = b.module
    · obtain ⟨c, hc, hgood, hmodule⟩ := hagain
      exact ⟨c, List.mem_append_right _ (mem_kept.mpr ⟨hc, hgood⟩), hmodule.trans hsame,
        hstands c hc hgood⟩
    · refine ⟨b, List.mem_append_left _ hb, hsame, hstands'.later hdelivered.later ?_ id⟩
      rintro ⟨c, hc, hgood, hplace⟩
      exact hagain ⟨c, hc, hgood, (destination_injective _ hplace).symm⟩
  · obtain ⟨hmade, hgood⟩ := mem_kept.mp ha
    exact ⟨a, List.mem_append_right _ ha, rfl, hstands a hmade hgood⟩

/-- Once the rounds of a run that writes are over, all that they made stands. -/
theorem rounds_stand (hs : t.Sound) (hcheck : r.check = false)
    (h : r.rounds cancelled t = (.ok s, rounded)) :
    ∀ a ∈ s.run.artifacts, ∃ b ∈ s.run.artifacts, b.module = a.module ∧
      Stands (r.out t) b rounded := by
  obtain rfl := Rounds.run_state_world h
  refine (Rounds.run_induct (Q := fun s => Upright r t s ∧ Standing r t s) ?_ ?_ ?_ h).1
  · exact ⟨fun _ => (nomatch ·), .refl t, fun m p hp => by cases hp⟩
  · rintro round s s' next world hreaches ⟨hupright, hstanding⟩ honce
    obtain ⟨names, haccount⟩ := hreaches.account (load_loaded t (r.root t) r.profile)
    exact ⟨hupright.once hs hcheck (hstanding.later.sound hs) haccount honce,
      hstanding.once hs haccount honce⟩
  · rintro s cancelled ⟨hupright, hstanding⟩
    exact ⟨hupright, hstanding.later, hstanding.places⟩

/-! ## 2. Answers that depend on no other artifact -/

/-- Text stands in the places of the builders of marked declarations, or nothing. -/
def Request.Legible (r : Request) (t : FileTree) : Prop :=
  ∀ l, r.Claims t l → ∀ c, t.get? l = some (.file c) → ∃ s, decode? c = .ok s

/-- The names of modules that the builders of marked declarations have. -/
def Request.Named (r : Request) (t : FileTree) (m : String) : Prop :=
  IsModuleName m ∧ ∃ d ∈ r.marked t, m = builderModule d.package d.name

/-- What a run answers for an artifact, by what stood in its place before. -/
inductive Request.Answer (r : Request) (t : FileTree) (a : Artifact) :
    Except WriteFailure Published → Prop
  | placed (changed : Bool) : (r.check = true ∨ ¬ Blocked (r.out t) a.module t) →
    Request.Answer r t a (.ok ⟨Location.text (destination (r.out t) a.module), changed⟩)
  | refused (cause : String) : r.check = false → Blocked (r.out t) a.module t →
    Request.Answer r t a (.error ⟨Location.text (destination (r.out t) a.module), cause⟩)

theorem Request.Legible.kept (h : r.Legible t) (hs : t.Sound) :
    Kept (r.out t) (r.Named t) t t where
  sound := hs
  blocked _ _ := .rfl
  legible m hm := by
    obtain ⟨hname, d, hd, hmodule⟩ := hm
    refine h _ ⟨d, hd, ?_⟩
    rw [← hmodule, locate_artifactPath hs r hname]

/-- A publisher of builders of marked declarations answers each for itself. -/
theorem Request.serves (hs : t.Sound) (r : Request) {a : Artifact} (ha : r.Named t a.module) :
    Serves (if r.check then compare (r.output t) else publish (r.output t))
      (Kept (r.out t) (r.Named t) t) (r.Answer t) a := by
  have hout := hs.dots_not_mem_locate (r.outputDirectory.getD (r.root t))
  intro world hworld
  have htext := hworld.legible _ ha
  cases hcheck : r.check with
  | true =>
    rw [if_pos rfl, compare_idle]
    obtain ⟨changed, hanswer⟩ := compare_answers hworld.sound hout ha.1 htext
    exact ⟨hworld, .ok _, .placed changed (.inl hcheck), hanswer⟩
  | false =>
    rw [if_neg Bool.false_ne_true]
    obtain ⟨hrefused, hplaced⟩ := publish_answers hworld.sound hout ha.1 htext
    refine ⟨hworld.publish hout (fun _ hm => hm.1) ha, ?_⟩
    by_cases hblocked : Blocked (r.out t) a.module t
    · obtain ⟨cause, hanswer⟩ := hrefused ((hworld.blocked _ ha).mpr hblocked)
      exact ⟨.error _, .refused cause hcheck hblocked, hanswer⟩
    · obtain ⟨changed, hanswer⟩ := hplaced fun h => hblocked ((hworld.blocked _ ha).mp h)
      exact ⟨.ok _, .placed changed (.inr hblocked), hanswer⟩

/-- Where text stands in the places of builders, or nothing, a run is served. -/
theorem served (hs : t.Sound) (htext : r.Legible t) (cancelled : Moment → Bool) :
    Rounds.Served (surroundings r (r.output t) cancelled) r.profile (load t (r.root t) r.profile).1 t
      (Kept (r.out t) (r.Named t) t) (r.Answer t)
      (if r.check then compare (r.output t) else publish (r.output t)) where
  publish := rfl
  order _ artifacts := .refl artifacts
  start := htext.kept hs
  serves hreaches a ha := by
    obtain ⟨hfit, hmarked⟩ := reaches_made hreaches ha
    exact r.serves hs ⟨hfit.module, hmarked⟩

/-! ## 3. Reports -/

/-- A final outcome is reported as it is. -/
theorem rounds_reported (h : r.rounds cancelled t = (.ok s, rounded)) {q : String} {n : Nat}
    {o : Outcome} (hget : s.run.outcomes.get? q = some (n, o)) (hfinal : o.status ≠ .deferred) :
    .ofOutcome s.registry (s.run.unresolved.map (·.qualifiedName)) q n o =
      (⟨q, o.declaration.package, o.declaration.name, o.status, n, o.reasons, o.artifactModule, [],
        o.error⟩ : DeclarationReport) := by
  obtain ⟨-, last, cancelled, names, rfl, -, haccount⟩ :=
    Rounds.run_placed (load_loaded t (r.root t) r.profile) h
  have hwaits : (last.pending.map (·.qualifiedName)).contains q = false := by
    rw [Bool.eq_false_iff, Ne, List.contains_iff_mem, haccount.waits_iff hget]
    exact hfinal
  unfold DeclarationReport.ofOutcome
  rw [show (Rounds.finish last cancelled).run.unresolved = last.pending from rfl, hwaits,
    beq_eq_false_iff_ne.mpr hfinal]
  rfl

/-- What the rounds of a run have made of an artifact that has its place. -/
structure Request.Placed (r : Request) (t : FileTree) (s : Rounds.State FileTree) (round : Nat)
    (a : Artifact) : Prop where
  made : a ∈ s.run.artifacts
  published : ∃ changed, s.run.published.get? a.module =
    some ⟨Location.text (destination (r.out t) a.module), changed⟩
  reported : ∃ d ∈ s.run.declarationReports s.registry, d.qualifiedName = a.source ∧
    d.status = .generated ∧ d.round = round ∧ d.artifactModule = some a.module
  stands : r.check = false → ∃ b ∈ s.run.artifacts, b.module = a.module ∧
    Stands (r.out t) b s.world

/-- What they have made of an artifact that could not be written. -/
structure Request.Refused (r : Request) (t : FileTree) (s : Rounds.State FileTree) (round : Nat)
    (a : Artifact) : Prop where
  missing : a.source ∉ s.run.artifacts.map (·.source)
  reported : ∃ d ∈ s.run.declarationReports s.registry, d.qualifiedName = a.source ∧
    d.status = .failed ∧ d.round = round ∧ d.reasons = [Reason.writeFailure] ∧
    d.artifactModule = some a.module ∧ ∃ cause, d.error =
      some (WriteFailure.message ⟨Location.text (destination (r.out t) a.module), cause⟩)

section Told

variable {a : Artifact}

/-- An artifact whose place was free has it in the end. -/
theorem placed_of_told (hs : t.Sound) (h : r.rounds cancelled t = (.ok s, rounded))
    (htold : Rounds.Told (surroundings r (r.output t) cancelled) (r.Answer t) round s.run a)
    (hgoes : cancelled (.publishing round a) = false)
    (hfree : r.check = true ∨ ¬ Blocked (r.out t) a.module t) : r.Placed t s round a := by
  cases htold with
  | putOff hcancelled =>
    rw [show cancelled (.publishing round a) = true from hcancelled] at hgoes
    cases hgoes
  | refused hanswer =>
    cases hanswer with
    | refused cause hcheck hblocked =>
      rcases hfree with hchecks | hopen
      · rw [hcheck] at hchecks
        cases hchecks
      · exact absurd hblocked hopen
  | @placed p o hanswer hmade hpublished hget hstatus hmodule =>
    have hreport := Rounds.mem_declarationReports.mpr ⟨_, _, o, Table.mem_of_get? hget,
      (rounds_reported h hget (by rw [hstatus]; decide)).symm⟩
    refine ⟨hmade, ?_, ⟨_, hreport, rfl, hstatus, rfl, hmodule⟩, fun hcheck => ?_⟩
    · obtain ⟨p', hp'⟩ := Option.isSome_iff_exists.mp hpublished
      refine ⟨p'.changed, hp'.trans ?_⟩
      rw [← ((rounds_standing hs h).1.places a.module p' hp').1]
    · rw [Rounds.run_state_world h]
      exact rounds_stand hs hcheck h a hmade

/-- An artifact that was blocked has failed, and its declaration has no other. -/
theorem refused_of_told (h : r.rounds cancelled t = (.ok s, rounded))
    (htold : Rounds.Told (surroundings r (r.output t) cancelled) (r.Answer t) round s.run a)
    (hgoes : cancelled (.publishing round a) = false) (hcheck : r.check = false)
    (hblocked : Blocked (r.out t) a.module t) : r.Refused t s round a := by
  cases htold with
  | putOff hcancelled =>
    rw [show cancelled (.publishing round a) = true from hcancelled] at hgoes
    cases hgoes
  | placed hanswer =>
    cases hanswer with
    | placed changed hfree =>
      rcases hfree with hchecks | hopen
      · rw [hcheck] at hchecks
        cases hchecks
      · exact absurd hblocked hopen
  | @refused f o hanswer hget hstatus hreasons hmodule herror =>
    cases hanswer with
    | refused cause =>
      have hreport := Rounds.mem_declarationReports.mpr ⟨_, _, o, Table.mem_of_get? hget,
        (rounds_reported h hget (by rw [hstatus]; decide)).symm⟩
      refine ⟨?_, _, hreport, rfl, hstatus, rfl, hreasons, hmodule, cause, herror⟩
      obtain ⟨-, last, cancelled, names, rfl, -, haccount⟩ :=
        Rounds.run_placed (load_loaded t (r.root t) r.profile) h
      intro hmade
      have hgenerated := (haccount.made_iff hget).mp hmade
      rw [hstatus] at hgenerated
      cases hgenerated

end Told

/-! ## 4. The run as a whole -/

/-- What a run gives once its rounds are over: its report, unless its outputs cannot be written. -/
theorem conclude_cases (output reports : FilePath) (cancelled : Bool) (report : Report)
    (manifest : Manifest) (t : FileTree) :
    (∃ removed, (conclude r output reports cancelled report manifest t).1 =
        .ok ({ report with removedOrphans := removed }, manifest)) ∨
      r.check = false ∧ cancelled = false ∧ ∃ report' fault,
        (writeOutputs reports report' manifest r.time
          (removeOrphans (manifest.artifacts.map (·.module)) output
            (((Manifest.load? t (reports.child manifestName)).map (·.artifacts)).getD []) t).2).1 =
              some fault ∧
        (conclude r output reports cancelled report manifest t).1 = .error (.fileSystem fault) := by
  unfold conclude
  split
  · exact .inl ⟨report.removedOrphans, rfl⟩
  · next hwrites =>
    rw [Bool.not_eq_true, Bool.or_eq_false_iff] at hwrites
    dsimp only
    split
    · next fault _ hwrite =>
      exact .inr ⟨hwrites.1, hwrites.2, _, fault, congrArg Prod.fst hwrite, rfl⟩
    · exact .inl ⟨_, rfl⟩

/-- Publishing and comparing abort a run where the destination is a file that is no text, and nowhere
else. Where no such file stands in the place of a marked declaration's builder, a run comes to its
report, unless its outputs themselves cannot be written. Whatever is in the way of other builders, each
artifact that is not blocked has its place and stands there, and a blocked one has failed for that
reason, which is told of no other declaration. -/
theorem run_isolates (r : Request) (cancelled : Moment → Bool) (t : FileTree) :
    (∀ root a e,
        ((publish root a t).1 = .error (.aborted e) ↔ Garbled t (artifactPath root a.module) e) ∧
        ((compare root a t).1 = .error (.aborted e) ↔ Garbled t (artifactPath root a.module) e)) ∧
      (t.Sound → r.Legible t → ∃ s rounded, r.rounds cancelled t = (.ok s, rounded) ∧
        ((∃ report, (run r cancelled t).1 = .ok (report, .ofRun r.profile s.run) ∧
            report.declarations = s.run.declarationReports s.registry) ∨
          r.check = false ∧ s.run.cancelled = false ∧ ∃ report fault,
            (writeOutputs (r.reports rounded) report (.ofRun r.profile s.run) r.time
              (removeOrphans ((Manifest.ofRun r.profile s.run).artifacts.map (·.module)) (r.output t)
                (r.entries rounded) rounded).2).1 = some fault ∧
            (run r cancelled t).1 = .error (.fileSystem fault)) ∧
        (∀ round before, Rounds.Reaches (surroundings r (r.output t) cancelled) r.profile
            (load t (r.root t) r.profile).1 t round before →
          ∀ a ∈ (Rounds.scanOf (surroundings r (r.output t) cancelled) r.profile.marker round
              before).artifacts, cancelled (.publishing round a) = false →
            (r.check = true ∨ ¬ Blocked (r.out t) a.module t → r.Placed t s round a) ∧
            (r.check = false → Blocked (r.out t) a.module t → r.Refused t s round a)) ∧
        ∀ d ∈ s.run.declarationReports s.registry, Reason.writeFailure ∈ d.reasons →
          d.status = .failed ∧ r.check = false ∧
            ∃ m, d.artifactModule = some m ∧ Blocked (r.out t) m t) := by
  refine ⟨fun root a e => ⟨publish_aborts_iff, compare_aborts_iff⟩, fun hs htext => ?_⟩
  have hserved := served hs htext cancelled
  have hloaded := load_loaded t (r.root t) r.profile
  obtain ⟨s, rounded, hrounds⟩ := hserved.run_ok
  refine ⟨s, rounded, hrounds, ?_, fun round before hreaches a ha hgoes => ?_, fun d hd hreason => ?_⟩
  · rw [run_eq hrounds]
    rcases conclude_cases (r.output t) (r.reports rounded) s.run.cancelled
      (.ofRun r.profile (r.root t).text (r.output t).text r.check
        (load t (r.root t) r.profile).2 s.run s.registry) (.ofRun r.profile s.run) rounded with
      ⟨removed, hreport⟩ | ⟨hcheck, hcancelled, hfault⟩
    · exact .inl ⟨_, hreport, rfl⟩
    · exact .inr ⟨hcheck, hcancelled, hfault⟩
  · have htold := hserved.run_told hloaded hrounds hreaches ha
    exact ⟨placed_of_told hs hrounds htold hgoes, refused_of_told hrounds htold hgoes⟩
  · obtain ⟨q, n, o, hmem, rfl⟩ := Rounds.mem_declarationReports.mp hd
    have hget : s.run.outcomes.get? q = some (n, o) := by
      obtain ⟨-, last, cancelled, names, rfl, -, haccount⟩ := Rounds.run_placed hloaded hrounds
      exact Table.get?_of_mem haccount.keys hmem
    obtain ⟨before, a, f, hreaches, ha, -, hanswer, hstatus, hmodule⟩ :=
      hserved.run_refused hloaded hrounds q n o hget hreason
    rw [rounds_reported hrounds hget (by rw [hstatus]; decide)]
    cases hanswer with
    | refused cause hcheck hblocked => exact ⟨hstatus, hcheck, a.module, hmodule, hblocked⟩

/-- The same tree with a second class, and a directory where the builder of the first one goes. -/
def obstructed : FileTree where
  entries := small.entries ++
    [(["p", "b.py"],
        .file (encode "from builder_gen.marker import builder\n@builder\nclass Bar: pass\n")),
      (["p", "foo_builder.py"], .directory)]
  here := []

set_option maxRecDepth 100000 in
/-- The first class is reported as failed, the second one has its builder. -/
theorem run_isolates_obstructed : obstructed.Sound ∧ smallRequest.Legible obstructed ∧
    ∃ s rounded, smallRequest.rounds (fun _ => false) obstructed = (.ok s, rounded) ∧
      (∃ d ∈ s.run.declarationReports s.registry, d.qualifiedName = "p.a.Foo" ∧
        d.status = .failed ∧ d.reasons = [Reason.writeFailure]) ∧
      (∃ d ∈ s.run.declarationReports s.registry, d.qualifiedName = "p.b.Bar" ∧
        d.status = .generated) ∧
      ∃ c, rounded.get? ["p", "bar_builder.py"] = some (.file c) := by
  have hsound : obstructed.Sound := .of_entries (by decide) (by decide) rfl (by decide)
  obtain ⟨hmarked, hartifacts⟩ : (smallRequest.marked obstructed).map (fun d => obstructed.get?
        (obstructed.locate (artifactPath (smallRequest.output obstructed)
          (builderModule d.package d.name)))) = [some .directory, none] ∧
      (Rounds.scanOf (surroundings smallRequest (smallRequest.output obstructed) fun _ => false)
        smallRequest.profile.marker 1 (smallRequest.before obstructed)).artifacts.map
          (fun a => (a.module, a.source)) =
        [("p.foo_builder", "p.a.Foo"), ("p.bar_builder", "p.b.Bar")] := by
    decide +kernel
  have hlegible : smallRequest.Legible obstructed := by
    rintro l ⟨d, hd, rfl⟩ c hc
    have hplace := List.mem_map_of_mem (f := fun d => obstructed.get?
      (obstructed.locate (artifactPath (smallRequest.output obstructed)
        (builderModule d.package d.name)))) hd
    rw [hmarked, hc] at hplace
    simp at hplace
  obtain ⟨s, rounded, hrounds, -, htold, -⟩ :=
    (run_isolates smallRequest (fun _ => false) obstructed).2 hsound hlegible
  obtain ⟨a, rest, hscan, ha, hrest⟩ := List.map_eq_cons_iff.mp hartifacts
  obtain ⟨b, rfl, hb⟩ := List.map_eq_singleton_iff.mp hrest
  simp only [Prod.mk.injEq] at ha hb
  have hblocked : Blocked (smallRequest.out obstructed) a.module obstructed := by
    rw [ha.1]
    exact .inl (by decide +kernel)
  have hopen : ¬ Blocked (smallRequest.out obstructed) b.module obstructed := by
    rw [hb.1]
    rintro (hdirectory | ⟨k, c, hway, hfile⟩)
    · exact absurd hdirectory (by decide +kernel)
    · rcases List.prefix_cons_iff.mp (show k <+: ["p"] from hway) with rfl | ⟨rest, rfl, hrest⟩
      · cases hfile
      · rw [List.prefix_nil.mp hrest] at hfile
        cases hfile
  have hfoo := (htold 1 (smallRequest.before obstructed) .start a
    (by rw [hscan]; exact List.mem_cons_self) rfl).2 rfl hblocked
  have hbar := (htold 1 (smallRequest.before obstructed) .start b
    (by rw [hscan]; exact List.mem_cons_of_mem _ List.mem_cons_self) rfl).1 (.inr hopen)
  obtain ⟨d, hd, hsource, hstatus, -, hreasons, -⟩ := hfoo.reported
  obtain ⟨e, he, hsource', hstatus', -⟩ := hbar.reported
  obtain ⟨b', -, hmodule, c, -, hfile, -⟩ := hbar.stands rfl
  refine ⟨hsound, hlegible, s, rounded, hrounds, ⟨d, hd, hsource.trans ha.2, hstatus, hreasons⟩,
    ⟨e, he, hsource'.trans hb.2, hstatus'⟩, c, ?_⟩
  rw [hmodule, hb.1] at hfile
  rw [← Rounds.run_state_world hrounds]
  exact hfile

/-- What a text of another encoding may look like: a comment that ends in a letter with an accent. -/
def comment : Bytes := encode "# caf" ++ [0xe9, 0x0a]

/-- The same tree with such a file in the place of the directory. -/
def garbled : FileTree where
  entries := small.entries ++
    [(["p", "b.py"],
        .file (encode "from builder_gen.marker import builder\n@builder\nclass Bar: pass\n")),
      (["p", "foo_builder.py"], .file comment)]
  here := []

set_option maxRecDepth 100000 in
/-- Publishing and comparing the builder of the first class abort, and so does the run: the second class
has no builder either, and nothing is reported. -/
theorem run_gives_up : garbled.Sound ∧
    (∀ a : Artifact, a.module = "p.foo_builder" → ∃ u,
      (publish (smallRequest.output garbled) a garbled).1 = .error (.aborted (.undecodable u)) ∧
      (compare (smallRequest.output garbled) a garbled).1 = .error (.aborted (.undecodable u))) ∧
    (∃ u, (run smallRequest (fun _ => false) garbled).1 = .error (.undecodable u)) ∧
    (run smallRequest (fun _ => false) garbled).2.get? ["p", "bar_builder.py"] = none := by
  refine ⟨.of_entries (by decide) (by decide) rfl (by decide), fun a ha => ?_, ?_⟩
  · have hlook : garbled.look (artifactPath (smallRequest.output garbled) "p.foo_builder") =
        .ok (.file comment) := by decide +kernel
    have hdecode : decode? comment = .error ⟨.invalidContinuation, 5, 1, 0xe9⟩ := by decide +kernel
    have hgarbled : Garbled garbled (artifactPath (smallRequest.output garbled) a.module)
        (.undecodable ⟨.invalidContinuation, 5, 1, 0xe9⟩) :=
      ⟨comment, _, ha ▸ hlook, hdecode, rfl⟩
    exact ⟨_, publish_aborts_iff.mpr hgarbled, compare_aborts_iff.mpr hgarbled⟩
  · have heval : (match run smallRequest (fun _ => false) garbled with
        | (.error (.undecodable _), t) => t.get? ["p", "bar_builder.py"]
        | _ => some .directory) = none := by decide +kernel
    generalize run smallRequest (fun _ => false) garbled = answer at heval ⊢
    split at heval
    · next u t => exact ⟨⟨u, rfl⟩, heval⟩
    · cases heval

end Generation

end FluentBuilders
