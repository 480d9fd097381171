import FluentBuilders.Proofs.Rounds.Collision

/-!
What a run hands to its publisher, as long as nobody cancels it.

1. `Surroundings.Steady`: a publisher that is always asked.
2. `sendings`, `worldAfter`: artifacts sent one after the other, and the worlds that they meet.
3. `Rounds.sent`: the artifacts that rounds send. They end where all of them were sent.
4. Each artifact that is sent has its declaration's last outcome, and no declaration is sent two of
   them. It is one of the run's artifacts, unless its module is refused.
-/

namespace FluentBuilders

variable {σ : Type} {env : Surroundings σ}
  {send : Artifact → σ → Except PublishFault Published × σ}

/-! ## 1. Steady surroundings -/

/-- A run publishes with `send`, is never cancelled, and takes up every artifact of a round. -/
structure Surroundings.Steady (env : Surroundings σ)
    (send : Artifact → σ → Except PublishFault Published × σ) : Prop where
  publish : env.publish = some send
  never : ∀ world m, env.cancelled world m = false
  order : ∀ round artifacts, (env.order round artifacts).Perm artifacts

/-! ## 2. Sending -/

/-- Artifacts sent one after the other, each with the world that it meets. -/
def sendings (send : Artifact → σ → Except PublishFault Published × σ) :
    List Artifact → σ → List (Artifact × σ)
  | [], _ => []
  | a :: rest, world => (a, world) :: sendings send rest (send a world).2

/-- The world after artifacts were sent one after the other. -/
def worldAfter (send : Artifact → σ → Except PublishFault Published × σ)
    (artifacts : List Artifact) (world : σ) : σ :=
  artifacts.foldl (fun world a => (send a world).2) world

theorem worldAfter_append (first second : List Artifact) (world : σ) :
    worldAfter send (first ++ second) world =
      worldAfter send second (worldAfter send first world) :=
  List.foldl_append

theorem sendings_append (first second : List Artifact) (world : σ) :
    sendings send (first ++ second) world =
      sendings send first world ++ sendings send second (worldAfter send first world) := by
  induction first generalizing world with
  | nil => rfl
  | cons a rest ih => exact congrArg ((a, world) :: ·) (ih (send a world).2)

/-- An artifact meets the world that those before it leave. -/
theorem mem_sendings {artifacts : List Artifact} {world : σ} {p : Artifact × σ}
    (h : p ∈ sendings send artifacts world) :
    ∃ before after, artifacts = before ++ p.1 :: after ∧ p.2 = worldAfter send before world := by
  induction artifacts generalizing world with
  | nil => cases h
  | cons a rest ih =>
    rcases List.mem_cons.mp h with rfl | h
    · exact ⟨[], rest, rfl, rfl⟩
    · obtain ⟨before, after, hartifacts, hworld⟩ := ih h
      exact ⟨a :: before, after, congrArg (a :: ·) hartifacts, hworld⟩

/-- The artifacts of a round in the order in which they are taken up. -/
def batch (env : Surroundings σ) (round : Nat) (artifacts : List Artifact) : List Artifact :=
  if env.workers ≤ 1 || artifacts.length ≤ 1 then artifacts else env.order round artifacts

theorem batch_perm (henv : env.Steady send) (round : Nat) (artifacts : List Artifact) :
    (batch env round artifacts).Perm artifacts := by
  unfold batch
  split
  · exact .refl _
  · exact henv.order round artifacts

/-- Where nothing aborts it, a pool publishes as one after the other does. -/
theorem publishAll_iff {round : Nat} {artifacts : List Artifact} {d d' : Delivery}
    {world world' : σ} : publishAll env send round artifacts d world = (.ok d', world') ↔
      publishInTurn env send round artifacts d world = (.ok d', world') := by
  induction artifacts generalizing d world with
  | nil => exact .rfl
  | cons a rest ih =>
    unfold publishAll publishInTurn
    split
    · exact ih
    · constructor <;> intro h <;> cases h

theorem publishRound_iff (henv : env.Steady send) {round : Nat} {artifacts : List Artifact}
    {d : Delivery} {world world' : σ} :
    publishRound env round artifacts world = (.ok d, world') ↔
      publishInTurn env send round (batch env round artifacts) .empty world = (.ok d, world') := by
  unfold publishRound batch
  rw [henv.publish]
  dsimp only
  split
  · exact .rfl
  · exact publishAll_iff

/-- No artifact of a round has failed because the run was cancelled. -/
def Delivery.Whole (d : Delivery) : Prop :=
  ∀ m, d.failures.get? m ≠ some .cancelled

theorem Delivery.whole_empty : Delivery.empty.Whole := fun _ h => by cases h

/-- What one artifact of a steady run does. -/
theorem publishOne_steady (henv : env.Steady send) {round : Nat} {a : Artifact} {d d' : Delivery}
    {world world' : σ} (h : publishOne env send round a d world = (.ok d', world')) :
    world' = (send a world).2 ∧
      ((∃ p, (send a world).1 = .ok p ∧ d' = d.deliver a.module p) ∨
        ∃ f, (send a world).1 = .error (.refused f) ∧ d' = d.fail a.module (.failed f)) := by
  unfold publishOne at h
  rw [henv.never, if_neg Bool.false_ne_true] at h
  split at h
  · next hsend =>
    cases h
    rw [hsend]
    exact ⟨rfl, .inl ⟨_, rfl, rfl⟩⟩
  · next hsend =>
    cases h
    rw [hsend]
    exact ⟨rfl, .inr ⟨_, rfl, rfl⟩⟩
  · cases h

theorem publishInTurn_steady (henv : env.Steady send) {round : Nat} {artifacts : List Artifact}
    {d d' : Delivery} {world world' : σ} (hd : d.Whole)
    (h : publishInTurn env send round artifacts d world = (.ok d', world')) :
    world' = worldAfter send artifacts world ∧ d'.Whole ∧
      ∀ p ∈ sendings send artifacts world, ∀ e, (send p.1 p.2).1 ≠ .error (.aborted e) := by
  induction artifacts generalizing d world with
  | nil =>
    cases h
    exact ⟨rfl, hd, fun p hp => by cases hp⟩
  | cons a rest ih =>
    unfold publishInTurn at h
    split at h
    · next d₁ world₁ hone =>
      obtain ⟨rfl, hanswer⟩ := publishOne_steady henv hone
      have hd₁ : d₁.Whole := by
        rcases hanswer with ⟨p, -, rfl⟩ | ⟨f, -, rfl⟩
        · exact hd
        · intro m hm
          rw [Delivery.fail, Table.get?_insert] at hm
          split at hm
          · cases hm
          · exact hd m hm
      obtain ⟨hworld, hwhole, hrest⟩ := ih hd₁ h
      refine ⟨hworld, hwhole, fun p hp e => ?_⟩
      rcases List.mem_cons.mp hp with rfl | hp
      · rcases hanswer with ⟨p, hp, -⟩ | ⟨f, hf, -⟩
        · rw [hp]
          exact fun h => by cases h
        · rw [hf]
          exact fun h => by cases h
      · exact hrest p hp e
    · cases h

/-- Only artifacts that are refused are not delivered. -/
theorem publishInTurn_refused (henv : env.Steady send) {round : Nat} {artifacts : List Artifact}
    {d d' : Delivery} {world world' : σ} {m : String}
    (h : publishInTurn env send round artifacts d world = (.ok d', world'))
    (hm : d'.failures.contains m = true) :
    d.failures.contains m = true ∨ ∃ p ∈ sendings send artifacts world, p.1.module = m ∧
      ∃ f, (send p.1 p.2).1 = .error (.refused f) := by
  induction artifacts generalizing d world with
  | nil =>
    cases h
    exact .inl hm
  | cons a rest ih =>
    unfold publishInTurn at h
    split at h
    · next d₁ world₁ hone =>
      obtain ⟨rfl, hanswer⟩ := publishOne_steady henv hone
      rcases ih h with hd₁ | ⟨p, hp, hrefused⟩
      · rcases hanswer with ⟨p, -, rfl⟩ | ⟨f, hf, rfl⟩
        · exact .inl hd₁
        · rw [Delivery.fail, Table.contains_iff, Table.mem_keys_insert] at hd₁
          rcases hd₁ with rfl | hd₁
          · exact .inr ⟨_, List.mem_cons_self, rfl, f, hf⟩
          · exact .inl ((Table.contains_iff ..).mpr hd₁)
      · exact .inr ⟨p, List.mem_cons_of_mem _ hp, hrefused⟩
    · cases h

/-! ## 3. What rounds send -/

namespace Rounds

variable {profile : Profile} {round fuel : Nat} {s s' : State σ} {world : σ} {a : Artifact}

/-- The artifacts that the rounds from number `round` on send, at most `fuel` rounds. -/
def sent (env : Surroundings σ) (profile : Profile) : Nat → Nat → State σ → List Artifact
  | 0, _, _ => []
  | fuel + 1, round, s =>
    batch env round (scanOf env profile.marker round s).artifacts ++
      match once env profile round s with
      | (.ok (s, .again), _) => sent env profile fuel (round + 1) s
      | _ => []

/-- Rounds that end well start with one that does, which is the last or goes on with the others. -/
theorem loop_sent (h : loop env profile (fuel + 1) round s = (.ok s', world)) :
    ∃ s₁ next world₁, once env profile round s = (.ok (s₁, next), world₁) ∧
      ((∃ cancelled, s' = finish s₁ cancelled ∧ world = world₁ ∧
          sent env profile (fuel + 1) round s =
            batch env round (scanOf env profile.marker round s).artifacts) ∨
        loop env profile fuel (round + 1) s₁ = (.ok s', world) ∧
          sent env profile (fuel + 1) round s =
            batch env round (scanOf env profile.marker round s).artifacts ++
              sent env profile fuel (round + 1) s₁) := by
  unfold loop at h
  split at h
  · cases h
  · next honce =>
    cases h
    refine ⟨_, _, _, honce, .inl ⟨true, rfl, rfl, ?_⟩⟩
    rw [sent, honce]
    exact List.append_nil _
  · next honce =>
    cases h
    refine ⟨_, _, _, honce, .inl ⟨false, rfl, rfl, ?_⟩⟩
    rw [sent, honce]
    exact List.append_nil _
  · next honce =>
    refine ⟨_, _, _, honce, .inr ⟨h, ?_⟩⟩
    rw [sent, honce]

/-- A steady round sends what its scan gives. -/
theorem once_steady (henv : env.Steady send) {next : Next}
    (h : once env profile round s = (.ok (s', next), world)) :
    s'.world = world ∧
      world = worldAfter send (batch env round (scanOf env profile.marker round s).artifacts)
        s.world ∧
      (∀ p ∈ sendings send (batch env round (scanOf env profile.marker round s).artifacts) s.world,
        ∀ e, (send p.1 p.2).1 ≠ .error (.aborted e)) ∧
      ∃ failures : Table Unpublished, (∀ m, failures.get? m ≠ some .cancelled) ∧
        s'.run.outcomes = (s.run.addOutcomes round
          ((scanOf env profile.marker round s).outcomes.map (Outcome.settle failures))).outcomes := by
  unfold once at h
  dsimp only at h
  split at h
  · cases h
  · next delivery world' hround =>
    cases h
    obtain ⟨hworld, hwhole, hanswers⟩ :=
      publishInTurn_steady henv Delivery.whole_empty ((publishRound_iff henv).mp hround)
    exact ⟨rfl, hworld, hanswers, delivery.failures, hwhole, rfl⟩

/-- A run ends in the world in which all of its artifacts were sent, and none aborted it. -/
theorem loop_world (henv : env.Steady send)
    (h : loop env profile fuel round s = (.ok s', world)) :
    world = worldAfter send (sent env profile fuel round s) s.world ∧
      ∀ p ∈ sendings send (sent env profile fuel round s) s.world,
        ∀ e, (send p.1 p.2).1 ≠ .error (.aborted e) := by
  induction fuel generalizing round s with
  | zero =>
    cases h
    exact ⟨rfl, fun p hp => by cases hp⟩
  | succ fuel ih =>
    obtain ⟨s₁, next, world₁, honce, hrest⟩ := loop_sent h
    obtain ⟨hstate, hworld, hanswers, -⟩ := once_steady henv honce
    rcases hrest with ⟨_, -, rfl, hsent⟩ | ⟨hrest, hsent⟩
    · rw [hsent]
      exact ⟨hworld, hanswers⟩
    · obtain ⟨hworld', hanswers'⟩ := ih hrest
      rw [hsent, worldAfter_append, sendings_append, ← hworld, ← hstate]
      refine ⟨hworld', fun p hp => ?_⟩
      rcases List.mem_append.mp hp with hp | hp
      · exact hanswers p hp
      · exact hanswers' p hp

/-- A steady run is not cancelled. -/
theorem loop_not_cancelled (henv : env.Steady send)
    (h : loop env profile fuel round s = (.ok s', world)) : s'.run.cancelled = false := by
  induction fuel generalizing round s with
  | zero =>
    cases h
    rfl
  | succ fuel ih =>
    unfold loop at h
    split at h
    · cases h
    · next honce =>
      exfalso
      unfold once at honce
      dsimp only at honce
      split at honce
      · cases honce
      · rw [Prod.mk.injEq, Except.ok.injEq, Prod.mk.injEq] at honce
        have hnext := honce.1.2
        unfold next at hnext
        rw [henv.never, if_neg Bool.false_ne_true] at hnext
        split at hnext <;> cases hnext
    · cases h
      rfl
    · exact ih h

/-! ## 4. Outcomes of what was sent -/

/-- The outcome of an artifact's declaration is the last one, and names its module. -/
def Lasts (run : Run) (a : Artifact) : Prop :=
  ∃ n o, run.outcomes.get? a.source = some (n, o) ∧ o.status ≠ .deferred ∧
    o.artifactModule = some a.module ∧
    builderModule o.declaration.package o.declaration.name = a.module

theorem once_lasts (henv : env.Steady send) {next : Next}
    (h : once env profile round s = (.ok (s', next), world))
    (ha : a ∈ (scanOf env profile.marker round s).artifacts) : Lasts s'.run a := by
  obtain ⟨-, -, -, failures, hwhole, houtcomes⟩ := once_steady henv h
  have haccounts := scanOf_accounts env profile round s
  have hnames : ((work profile.marker s).map (·.qualifiedName)).Nodup := nodup_firstOfEach _ _
  obtain ⟨o, ho, hmakes⟩ := Outcome.Makes.maker haccounts.artifacts ha
  obtain ⟨ho, hstatus⟩ := List.mem_filter.mp ho
  -- the outcome is about the declaration that the artifact was made for
  obtain ⟨d, hd, hgenerate⟩ := Scan.through_made _ _ _ _ ha
  obtain ⟨hsource, hmodule⟩ := generate_spec hgenerate
  have hdeclaration : o.declaration = d := by
    refine List.inj_on_of_nodup_map hnames ?_ hd (hmakes.source.symm.trans hsource)
    exact haccounts.declarations ▸ List.mem_map_of_mem ho
  have hget : s'.run.outcomes.get? a.source = some (round, o.settle failures) := by
    rw [houtcomes, hmakes.source]
    exact scanOf_get? s.run failures ho
  refine ⟨round, o.settle failures, hget, ?_⟩
  rw [o.settle_declaration failures, hdeclaration]
  unfold Outcome.settle
  rw [hmakes.module, Option.bind_some]
  cases hfailure : failures.get? a.module with
  | none =>
    refine ⟨?_, hmakes.module, hmodule.symm⟩
    rw [show o.status = .generated by simpa using hstatus]
    decide
  | some u =>
    cases u with
    | cancelled => exact absurd hfailure (hwhole a.module)
    | failed f => exact ⟨by simp, rfl, hmodule.symm⟩

/-- The declarations of the artifacts of a round are worked on in it, each once. -/
theorem scanOf_sources (env : Surroundings σ) (profile : Profile) (round : Nat) (s : State σ) :
    ((scanOf env profile.marker round s).artifacts.map (·.source)).Nodup ∧
      ∀ q ∈ (scanOf env profile.marker round s).artifacts.map (·.source),
        q ∈ (work profile.marker s).map (·.qualifiedName) := by
  have haccounts := scanOf_accounts env profile round s
  have hsources := Outcome.Makes.sources haccounts.artifacts
  have hnames : (scanOf env profile.marker round s).outcomes.map Outcome.qualifiedName =
      (work profile.marker s).map (·.qualifiedName) := by
    rw [← haccounts.declarations, List.map_map]
    rfl
  have hsublist : ((scanOf env profile.marker round s).artifacts.map (·.source)).Sublist
      ((work profile.marker s).map (·.qualifiedName)) := by
    rw [← hnames]
    exact hsources ▸ List.filter_sublist.map _
  exact ⟨(nodup_firstOfEach _ _).sublist hsublist, fun q hq => hsublist.subset hq⟩

/-- What was sent lasts until the run is over. -/
theorem loop_lasts (henv : env.Steady send) {names : List String}
    (hs : Account profile.marker names s)
    (h : loop env profile fuel round s = (.ok s', world))
    (ha : a ∈ sent env profile fuel round s) : Lasts s'.run a := by
  induction fuel generalizing round s names with
  | zero => cases ha
  | succ fuel ih =>
    obtain ⟨s₁, next, world₁, honce, hrest⟩ := loop_sent h
    have hs₁ := hs.step (once_stepped honce).1
    have hfirst : ∀ a ∈ batch env round (scanOf env profile.marker round s).artifacts,
        Lasts s₁.run a := fun a ha =>
      once_lasts henv honce ((batch_perm henv _ _).mem_iff.mp ha)
    rcases hrest with ⟨_, rfl, -, hsent⟩ | ⟨hrest, hsent⟩
    · exact hfirst a (hsent ▸ ha)
    · rw [hsent] at ha
      rcases List.mem_append.mp ha with ha | ha
      · obtain ⟨n, o, hget, hstatus, hmodules⟩ := hfirst a ha
        exact ⟨n, o, loop_kept hs₁ hrest hget hstatus, hstatus, hmodules⟩
      · exact ih hs₁ hrest ha

/-- A declaration that has its last outcome is sent nothing for. -/
theorem sent_fresh (henv : env.Steady send) {names : List String}
    (hs : Account profile.marker names s)
    (h : loop env profile fuel round s = (.ok s', world)) {q : String} {n : Nat} {o : Outcome}
    (hget : s.run.outcomes.get? q = some (n, o)) (hstatus : o.status ≠ .deferred) :
    q ∉ (sent env profile fuel round s).map (·.source) := by
  induction fuel generalizing round s names with
  | zero => exact List.not_mem_nil
  | succ fuel ih =>
    obtain ⟨s₁, next, world₁, honce, hrest⟩ := loop_sent h
    have hstep := (once_stepped honce).1
    have hfirst : q ∉ (batch env round (scanOf env profile.marker round s).artifacts).map
        (·.source) := by
      intro hq
      have hq := ((batch_perm henv _ _).map _).mem_iff.mp hq
      exact hs.settled_once hget hstatus ((scanOf_sources env profile round s).2 q hq)
    rcases hrest with ⟨_, -, -, hsent⟩ | ⟨hrest, hsent⟩
    · rwa [hsent]
    · rw [hsent, List.map_append, List.mem_append, not_or]
      exact ⟨hfirst, ih (hs.step hstep) hrest (hs.kept hstep hget hstatus)⟩

/-- No declaration is sent two artifacts for. -/
theorem sent_sources (henv : env.Steady send) {names : List String}
    (hs : Account profile.marker names s)
    (h : loop env profile fuel round s = (.ok s', world)) :
    ((sent env profile fuel round s).map (·.source)).Nodup := by
  induction fuel generalizing round s names with
  | zero => exact List.nodup_nil
  | succ fuel ih =>
    obtain ⟨s₁, next, world₁, honce, hrest⟩ := loop_sent h
    have hs₁ := hs.step (once_stepped honce).1
    have hbatch := batch_perm henv round (scanOf env profile.marker round s).artifacts
    have hfirst : ((batch env round (scanOf env profile.marker round s).artifacts).map
        (·.source)).Nodup :=
      (hbatch.map _).nodup_iff.mpr (scanOf_sources env profile round s).1
    rcases hrest with ⟨_, -, -, hsent⟩ | ⟨hrest, hsent⟩
    · rwa [hsent]
    · rw [hsent, List.map_append, List.nodup_append]
      refine ⟨hfirst, ih hs₁ hrest, fun q hq q' hq' => ?_⟩
      rintro rfl
      obtain ⟨a, ha, rfl⟩ := List.mem_map.mp hq
      obtain ⟨n, o, hget, hstatus, -⟩ := once_lasts henv honce (hbatch.mem_iff.mp ha)
      exact sent_fresh henv hs₁ hrest hget hstatus hq'

/-- What is sent was generated from a sound registry. -/
theorem sent_generated (henv : env.Steady send) {names : List String}
    (hs : Account profile.marker names s)
    (h : loop env profile fuel round s = (.ok s', world))
    (ha : a ∈ sent env profile fuel round s) :
    ∃ g : Registry, g.Sound ∧ ∃ d, generate g.resolver d = .ok a := by
  induction fuel generalizing round s names with
  | zero => cases ha
  | succ fuel ih =>
    obtain ⟨s₁, next, world₁, honce, hrest⟩ := loop_sent h
    have hfirst : ∀ a ∈ batch env round (scanOf env profile.marker round s).artifacts,
        ∃ g : Registry, g.Sound ∧ ∃ d, generate g.resolver d = .ok a := by
      intro a ha
      have ha := (batch_perm henv _ _).mem_iff.mp ha
      obtain ⟨d, -, hgenerate⟩ := Scan.through_made _ _ _ _ ha
      exact ⟨_, hs.registry.report profile.marker, d, hgenerate⟩
    rcases hrest with ⟨_, -, -, hsent⟩ | ⟨hrest, hsent⟩
    · exact hfirst a (hsent ▸ ha)
    · rw [hsent] at ha
      rcases List.mem_append.mp ha with ha | ha
      · exact hfirst a ha
      · exact ih (hs.step (once_stepped honce).1) hrest ha

/-- An artifact of a round becomes one of the run, unless its module is refused. -/
theorem once_artifacts (henv : env.Steady send) {next : Next}
    (h : once env profile round s = (.ok (s', next), world))
    (ha : a ∈ (scanOf env profile.marker round s).artifacts) :
    a ∈ s'.run.artifacts ∨ ∃ p ∈ sendings send
      (batch env round (scanOf env profile.marker round s).artifacts) s.world,
      p.1.module = a.module ∧ ∃ f, (send p.1 p.2).1 = .error (.refused f) := by
  unfold once at h
  dsimp only at h
  split at h
  · cases h
  · next delivery world' hround =>
    cases h
    by_cases hfailed : delivery.failures.contains a.module = true
    · rcases publishInTurn_refused henv ((publishRound_iff henv).mp hround) hfailed with
        hempty | hrefused
      · cases hempty
      · exact .inr hrefused
    · refine .inl (List.mem_append_right _ (List.mem_filter.mpr ⟨ha, ?_⟩))
      simpa using hfailed

/-- What is sent becomes an artifact of the run, unless its module is refused. -/
theorem loop_sent_artifacts (henv : env.Steady send)
    (h : loop env profile fuel round s = (.ok s', world))
    (ha : a ∈ sent env profile fuel round s) :
    a ∈ s'.run.artifacts ∨ ∃ p ∈ sendings send (sent env profile fuel round s) s.world,
      p.1.module = a.module ∧ ∃ f, (send p.1 p.2).1 = .error (.refused f) := by
  induction fuel generalizing round s with
  | zero => cases ha
  | succ fuel ih =>
    obtain ⟨s₁, next, world₁, honce, hrest⟩ := loop_sent h
    obtain ⟨hstate, hworld, -⟩ := once_steady henv honce
    have hfirst : ∀ a ∈ batch env round (scanOf env profile.marker round s).artifacts,
        a ∈ s₁.run.artifacts ∨ ∃ p ∈ sendings send
          (batch env round (scanOf env profile.marker round s).artifacts) s.world,
          p.1.module = a.module ∧ ∃ f, (send p.1 p.2).1 = .error (.refused f) := fun a ha =>
      once_artifacts henv honce ((batch_perm henv _ _).mem_iff.mp ha)
    rcases hrest with ⟨_, rfl, -, hsent⟩ | ⟨hrest, hsent⟩
    · rw [hsent] at ha ⊢
      exact hfirst a ha
    · rw [hsent] at ha ⊢
      rw [sendings_append, ← hworld, ← hstate]
      rcases List.mem_append.mp ha with ha | ha
      · rcases hfirst a ha with hkept | ⟨p, hp, hrefused⟩
        · exact .inl ((loop_artifacts hrest).subset hkept)
        · exact .inr ⟨p, List.mem_append_left _ hp, hrefused⟩
      · rcases ih hrest ha with hkept | ⟨p, hp, hrefused⟩
        · exact .inl hkept
        · exact .inr ⟨p, List.mem_append_right _ hp, hrefused⟩

end Rounds

end FluentBuilders
