import FluentBuilders.Proofs.Rounds.Foremost
import FluentBuilders.Proofs.Rounds.Keeping

/-!
What a run makes of the answers that it gets: of each artifact what its own answer was.

1. `Serves`: a publisher that answers for an artifact, whatever it was asked before.
2. `Answered`: what a delivery says of each artifact of a round.
3. `Told`: what the run says. `run_told`: a run that is served ends well, and tells the answers.
4. `run_refused`: the reason of a write that failed is told of refused artifacts and nothing else.
-/

namespace FluentBuilders

variable {σ : Type} {env : Surroundings σ}
  {send : Artifact → σ → Except PublishFault Published × σ} {P : σ → Prop}
  {A : Artifact → Except WriteFailure Published → Prop} {round : Nat} {a : Artifact}
  {artifacts : List Artifact} {d : Delivery} {world : σ}

/-! ## 1. Publishers that answer -/

/-- From each world of `P` a publisher leads to another one, and answers for an artifact as `A` allows. -/
def Serves (send : Artifact → σ → Except PublishFault Published × σ) (P : σ → Prop)
    (A : Artifact → Except WriteFailure Published → Prop) (a : Artifact) : Prop :=
  ∀ world, P world → P (send a world).2 ∧
    ∃ answer, A a answer ∧ (send a world).1 = answer.mapError .refused

/-! ## 2. Deliveries -/

/-- What a delivery says of an artifact of the round: it was not asked for because the run was cancelled
by then, or its answer is there. -/
inductive Answered (env : Surroundings σ) (A : Artifact → Except WriteFailure Published → Prop)
    (round : Nat) (d : Delivery) (a : Artifact) : Prop
  | putOff {world : σ} : env.cancelled world (.publishing round a) = true →
    d.failures.get? a.module = some .cancelled → Answered env A round d a
  | placed {p : Published} : A a (.ok p) → d.done.get? a.module = some p →
    d.failures.get? a.module = none → Answered env A round d a
  | refused {f : WriteFailure} : A a (.error f) → d.failures.get? a.module = some (.failed f) →
    Answered env A round d a

/-- Two deliveries say the same of all other modules. -/
def Delivery.Beside (modules : List String) (d d' : Delivery) : Prop :=
  ∀ m, m ∉ modules → d'.done.get? m = d.done.get? m ∧ d'.failures.get? m = d.failures.get? m

theorem Delivery.Beside.trans {modules modules' : List String} {d d' d'' : Delivery}
    (h : d.Beside modules d') (h' : d'.Beside modules' d'') : d.Beside (modules ++ modules') d'' := by
  intro m hm
  rw [List.mem_append, not_or] at hm
  obtain ⟨hdone, hfailures⟩ := h m hm.1
  obtain ⟨hdone', hfailures'⟩ := h' m hm.2
  exact ⟨hdone'.trans hdone, hfailures'.trans hfailures⟩

/-- What becomes of an artifact is said of its module and of no other. -/
theorem publishOne_beside {d' : Delivery} {world' : σ}
    (h : publishOne env send round a d world = (.ok d', world')) : d.Beside [a.module] d' := by
  have hother : ∀ {m}, m ∉ [a.module] → a.module ≠ m := fun hm hsame =>
    hm (List.mem_singleton.mpr hsame.symm)
  intro m hm
  unfold publishOne at h
  split at h
  · cases h
    exact ⟨rfl, (Table.get?_insert ..).trans (if_neg (hother hm))⟩
  split at h
  · cases h
    exact ⟨(Table.get?_insert ..).trans (if_neg (hother hm)), rfl⟩
  · cases h
    exact ⟨rfl, (Table.get?_insert ..).trans (if_neg (hother hm))⟩
  · cases h

theorem publishInTurn_beside {d' : Delivery} {world' : σ}
    (h : publishInTurn env send round artifacts d world = (.ok d', world')) :
    d.Beside (artifacts.map (·.module)) d' := by
  induction artifacts generalizing d world with
  | nil =>
    cases h
    exact fun _ _ => ⟨rfl, rfl⟩
  | cons a rest ih =>
    unfold publishInTurn at h
    split at h
    · next hone => exact (publishOne_beside hone).trans (ih h)
    · cases h

/-- What is said of an artifact depends on what is said of its module. -/
theorem Answered.beside {modules : List String} {d' : Delivery} (h : Answered env A round d a)
    (hbeside : d.Beside modules d') (ha : a.module ∉ modules) : Answered env A round d' a := by
  obtain ⟨hdone, hfailures⟩ := hbeside _ ha
  cases h with
  | putOff hcancelled hfailed => exact .putOff hcancelled (hfailures.trans hfailed)
  | placed hanswer hplaced hwell =>
    exact .placed hanswer (hdone.trans hplaced) (hfailures.trans hwell)
  | refused hanswer hfailed => exact .refused hanswer (hfailures.trans hfailed)

theorem publishOne_answered (env : Surroundings σ) (round : Nat) (hserves : Serves send P A a)
    (hnew : d.failures.get? a.module = none) (h : P world) :
    ∃ d' world', publishOne env send round a d world = (.ok d', world') ∧ P world' ∧
      Answered env A round d' a := by
  unfold publishOne
  by_cases hcancelled : env.cancelled world (.publishing round a) = true
  · rw [if_pos hcancelled]
    exact ⟨_, _, rfl, h, .putOff hcancelled ((Table.get?_insert ..).trans (if_pos rfl))⟩
  rw [if_neg hcancelled]
  obtain ⟨hworld, answer, hanswer, hsend⟩ := hserves world h
  generalize send a world = result at hworld hsend
  obtain ⟨given, world'⟩ := result
  obtain rfl : given = answer.mapError .refused := hsend
  cases answer with
  | ok p =>
    exact ⟨_, _, rfl, hworld, .placed hanswer ((Table.get?_insert ..).trans (if_pos rfl)) hnew⟩
  | error f =>
    exact ⟨_, _, rfl, hworld, .refused hanswer ((Table.get?_insert ..).trans (if_pos rfl))⟩

/-- Artifacts of different modules are answered one by one. -/
theorem publishInTurn_answered (env : Surroundings σ) (round : Nat)
    (hserves : ∀ a ∈ artifacts, Serves send P A a) (hnodup : (artifacts.map (·.module)).Nodup)
    (hnew : ∀ a ∈ artifacts, d.failures.get? a.module = none) (h : P world) :
    ∃ d' world', publishInTurn env send round artifacts d world = (.ok d', world') ∧ P world' ∧
      ∀ a ∈ artifacts, Answered env A round d' a := by
  induction artifacts generalizing d world with
  | nil => exact ⟨d, world, rfl, h, fun _ => (nomatch ·)⟩
  | cons a rest ih =>
    rw [List.map_cons, List.nodup_cons] at hnodup
    obtain ⟨d₁, world₁, hone, h₁, hfirst⟩ := publishOne_answered env round
      (hserves a List.mem_cons_self) (hnew a List.mem_cons_self) h
    have hrest : ∀ b ∈ rest, d₁.failures.get? b.module = none := by
      intro b hb
      have hother : b.module ∉ [a.module] := fun hsame =>
        hnodup.1 (List.mem_singleton.mp hsame ▸ List.mem_map_of_mem hb)
      exact (publishOne_beside hone _ hother).2.trans (hnew b (List.mem_cons_of_mem _ hb))
    obtain ⟨d', world', hmore, h', hothers⟩ := ih
      (fun b hb => hserves b (List.mem_cons_of_mem _ hb)) hnodup.2 hrest h₁
    refine ⟨d', world', by rw [publishInTurn, hone]; exact hmore, h', fun b hb => ?_⟩
    rcases List.mem_cons.mp hb with rfl | hb
    · exact hfirst.beside (publishInTurn_beside hmore) hnodup.1
    · exact hothers b hb

/-- A round is answered in whichever order its artifacts are taken up. -/
theorem publishRound_answered (hpublish : env.publish = some send)
    (horder : ∀ round artifacts, (env.order round artifacts).Perm artifacts)
    (hserves : ∀ a ∈ artifacts, Serves send P A a) (hnodup : (artifacts.map (·.module)).Nodup)
    (h : P world) :
    ∃ d world', publishRound env round artifacts world = (.ok d, world') ∧ P world' ∧
      ∀ a ∈ artifacts, Answered env A round d a := by
  have hbatch : (batch env round artifacts).Perm artifacts := by
    unfold batch
    split
    · exact .refl _
    · exact horder round artifacts
  obtain ⟨d, world', hturn, h', hanswered⟩ := publishInTurn_answered env
    round (d := .empty) (fun a ha => hserves a (hbatch.mem_iff.mp ha))
    ((hbatch.map _).nodup_iff.mpr hnodup) (fun _ _ => rfl) h
  refine ⟨d, world', ?_, h', fun a ha => hanswered a (hbatch.mem_iff.mpr ha)⟩
  unfold publishRound batch at *
  rw [hpublish]
  dsimp only
  split
  · next hone => rwa [if_pos hone] at hturn
  · next hpool =>
    rw [if_neg hpool] at hturn
    exact publishAll_iff.mpr hturn

/-! ## 3. What the run says -/

/-- The modules of artifacts that were placed are published, and none is taken back. -/
theorem Run.addArtifacts_contains (run : Run) (done : Table Published) (artifacts : List Artifact)
    {m : String} (h : run.published.contains m = true ∨
      (done.get? m).isSome = true ∧ m ∈ artifacts.map (·.module)) :
    (run.addArtifacts done artifacts).published.contains m = true := by
  unfold Run.addArtifacts
  dsimp only
  generalize run.published = table at h ⊢
  induction artifacts generalizing table with
  | nil => exact h.resolve_right fun hnone => nomatch hnone.2
  | cons a rest ih =>
    refine ih _ ?_
    rcases h with hold | ⟨hdone, hm⟩
    · refine .inl ?_
      dsimp only
      split
      · rw [Table.contains_iff, Table.mem_keys_insert]
        exact .inr ((Table.contains_iff ..).mp hold)
      · exact hold
    · rw [List.map_cons, List.mem_cons] at hm
      rcases hm with rfl | hm
      · refine .inl ?_
        obtain ⟨p, hp⟩ := Option.isSome_iff_exists.mp hdone
        dsimp only
        rw [hp]
        dsimp only
        rw [Table.contains_iff, Table.mem_keys_insert]
        exact .inl rfl
      · exact .inr ⟨hdone, hm⟩

namespace Rounds

variable {profile : Profile} {g : Registry} {fuel : Nat} {s s' : State σ} {world' : σ} {next : Next}
  {moved : Bool} {names : List String}

/-- What a run says of an artifact of the round `round`: nothing, if it was cancelled by then; else what
its answer was. -/
inductive Told (env : Surroundings σ) (A : Artifact → Except WriteFailure Published → Prop)
    (round : Nat) (run : Run) (a : Artifact) : Prop
  | putOff {world : σ} : env.cancelled world (.publishing round a) = true → Told env A round run a
  | placed {p : Published} {o : Outcome} : A a (.ok p) → a ∈ run.artifacts →
    run.published.contains a.module = true → run.outcomes.get? a.source = some (round, o) →
    o.status = .generated → o.artifactModule = some a.module → Told env A round run a
  | refused {f : WriteFailure} {o : Outcome} : A a (.error f) →
    run.outcomes.get? a.source = some (round, o) → o.status = .failed →
    o.reasons = [Reason.writeFailure] → o.artifactModule = some a.module →
    o.error = some f.message → Told env A round run a

/-- A round says of each artifact what its delivery says. -/
theorem once_tells (hclose : close round (s.pending.map (·.qualifiedName))
      (scanOf env profile.marker round s) d (closing profile.marker s world) = (s', moved))
    (ha : a ∈ (scanOf env profile.marker round s).artifacts) (h : Answered env A round d a) :
    Told env A round s'.run a := by
  obtain ⟨o, ho, hmakes⟩ := Outcome.Makes.maker (scanOf_accounts env profile round s).artifacts ha
  obtain ⟨ho, hstatus⟩ := List.mem_filter.mp ho
  have hget := once_outcome hclose ho
  rw [← hmakes.source] at hget
  cases h with
  | putOff hcancelled => exact .putOff hcancelled
  | @placed p hanswer hdone hwell =>
    have hsettle : o.settle d.failures = o := by
      unfold Outcome.settle
      rw [hmakes.module, Option.bind_some, hwell]
    rw [hsettle] at hget
    have hkept : a ∈ (scanOf env profile.marker round s).artifacts.filter
        fun a => !d.failures.contains a.module :=
      mem_kept.mpr ⟨ha, (d.failures.get?_eq_none_iff a.module).mp hwell⟩
    rw [show s' = _ from (congrArg Prod.fst hclose).symm] at hget ⊢
    refine .placed hanswer (List.mem_append_right _ hkept) ?_ hget
      (by simpa using hstatus) hmakes.module
    exact Run.addArtifacts_contains _ _ _
      (.inr ⟨by rw [hdone]; rfl, List.mem_map_of_mem hkept⟩)
  | @refused f hanswer hfailed =>
    have hsettle : o.settle d.failures =
        ⟨o.declaration, .failed, [Reason.writeFailure], some a.module, some f.message⟩ := by
      unfold Outcome.settle
      rw [hmakes.module, Option.bind_some, hfailed]
    rw [hsettle] at hget
    exact .refused hanswer hget rfl rfl rfl rfl

/-- A round that is served ends well in a world of `P`, and says of each artifact what its answer was. -/
theorem once_told (hpublish : env.publish = some send)
    (horder : ∀ round artifacts, (env.order round artifacts).Perm artifacts)
    (hserves : ∀ a ∈ (scanOf env profile.marker round s).artifacts, Serves send P A a)
    (h : P s.world) :
    ∃ delivery s' moved next world',
      once env profile round s = (.ok (s', next), world') ∧ P s'.world ∧
      close round (s.pending.map (·.qualifiedName)) (scanOf env profile.marker round s) delivery
        (closing profile.marker s world') = (s', moved) ∧
      ∀ a ∈ (scanOf env profile.marker round s).artifacts, Answered env A round delivery a := by
  obtain ⟨delivery, world', hround, hworld, hanswered⟩ := publishRound_answered hpublish horder
    hserves (Scan.through_modules ..).1 h
  obtain ⟨s', moved, hclose, honce⟩ := once_closes hround
  refine ⟨delivery, s', moved, _, world', honce, ?_, hclose, hanswered⟩
  rwa [once_state_world honce]

theorem Told.finish (h : Told env A round s.run a) (cancelled : Bool) :
    Told env A round (Rounds.finish s cancelled).run a := by
  cases h with
  | putOff hcancelled => exact .putOff hcancelled
  | placed hanswer hmade hpublished hget hstatus hmodule =>
    exact .placed hanswer hmade hpublished hget hstatus hmodule
  | refused hanswer hget hstatus hreasons hmodule herror =>
    exact .refused hanswer hget hstatus hreasons hmodule herror

/-- What a run says of an artifact, it says in the end. -/
theorem Told.kept (h : Told env A round s.run a) (hs : Account profile.marker names s)
    {round' : Nat} (hloop : loop env profile fuel round' s = (.ok s', world')) :
    Told env A round s'.run a := by
  cases h with
  | putOff hcancelled => exact .putOff hcancelled
  | placed hanswer hmade hpublished hget hstatus hmodule =>
    refine .placed hanswer ((loop_artifacts hloop).subset hmade) ?_
      (loop_kept hs hloop hget (by rw [hstatus]; decide)) hstatus hmodule
    obtain ⟨-, last, cancelled, rfl, hlast⟩ := loop_induct
      (Q := fun _ r => r.run.published.contains a.module = true)
      (fun h honce => by
        obtain ⟨delivery, moved, -, hclose, -⟩ := once_closed honce
        have hafter := congrArg (·.1.run.published.contains a.module) hclose
        exact hafter.symm.trans (Run.addArtifacts_contains _ _ _ (.inl h))) hpublished hloop
    exact hlast
  | refused hanswer hget hstatus hreasons hmodule herror =>
    exact .refused hanswer (loop_kept hs hloop hget (by rw [hstatus]; decide)) hstatus hreasons
      hmodule herror

/-- A run that is served. -/
structure Served (env : Surroundings σ) (profile : Profile) (g : Registry) (world : σ) (P : σ → Prop)
    (A : Artifact → Except WriteFailure Published → Prop)
    (send : Artifact → σ → Except PublishFault Published × σ) : Prop where
  publish : env.publish = some send
  order : ∀ round artifacts, (env.order round artifacts).Perm artifacts
  start : P world
  serves : ∀ {round s}, Reaches env profile g world round s →
    ∀ a ∈ (scanOf env profile.marker round s).artifacts, Serves send P A a

/-- All rounds of a run that is served start in worlds of `P`. -/
theorem Served.reaches (h : Served env profile g world P A send)
    (hreaches : Reaches env profile g world round s) : P s.world := by
  induction hreaches with
  | start => exact h.start
  | again hbefore honce ih =>
    obtain ⟨_, _, _, _, _, honce', hworld, -⟩ := once_told h.publish h.order (h.serves hbefore) ih
    rw [honce] at honce'
    cases honce'
    exact hworld

theorem Served.once (h : Served env profile g world P A send)
    (hreaches : Reaches env profile g world round s)
    (honce : Rounds.once env profile round s = (.ok (s', next), world')) :
    P s'.world ∧ ∃ delivery moved,
      close round (s.pending.map (·.qualifiedName)) (scanOf env profile.marker round s) delivery
        (closing profile.marker s world') = (s', moved) ∧
      ∀ a ∈ (scanOf env profile.marker round s).artifacts, Answered env A round delivery a := by
  obtain ⟨delivery, _, moved, _, _, honce', hworld, hclose, hanswered⟩ :=
    once_told h.publish h.order (h.serves hreaches) (h.reaches hreaches)
  rw [honce] at honce'
  cases honce'
  exact ⟨hworld, delivery, moved, hclose, hanswered⟩

/-- A run that is served ends well. -/
theorem Served.run_ok (h : Served env profile g world P A send) :
    ∃ s world', Rounds.run env profile g world = (.ok s, world') := by
  have hloop : ∀ fuel round s, Reaches env profile g world round s →
      ∃ s' world', loop env profile fuel round s = (.ok s', world') := by
    intro fuel
    induction fuel with
    | zero => exact fun _ _ _ => ⟨_, _, rfl⟩
    | succ fuel ih =>
      intro round s hreaches
      obtain ⟨_, s', _, next, world', honce, -⟩ :=
        once_told h.publish h.order (h.serves hreaches) (h.reaches hreaches)
      unfold loop
      rw [honce]
      cases next with
      | again => exact ih _ _ (hreaches.again honce)
      | stop => exact ⟨_, _, rfl⟩
      | cancelled => exact ⟨_, _, rfl⟩
  exact hloop _ _ _ .start

/-- A run that is served says of every artifact what its answer was. -/
theorem Served.run_told (h : Served env profile g world P A send) (hg : g.Loaded)
    (hrun : Rounds.run env profile g world = (.ok s', world'))
    (hreaches : Reaches env profile g world round s)
    (ha : a ∈ (scanOf env profile.marker round s).artifacts) : Told env A round s'.run a := by
  obtain ⟨fuel, -, hloop⟩ := hreaches.run_eq
  obtain ⟨names, hnames⟩ := hreaches.account hg
  obtain ⟨s₁, next, world₁, honce, hrest⟩ := loop_once (hloop.symm.trans hrun)
  obtain ⟨-, delivery, moved, hclose, hanswered⟩ := h.once hreaches honce
  have htold := once_tells hclose ha (hanswered a ha)
  rcases hrest with ⟨cancelled, rfl⟩ | hrest
  · exact htold.finish cancelled
  · exact htold.kept (hnames.step (once_stepped honce).1) hrest

end Rounds

/-! ## 4. Writes that failed -/

theorem GenerationError.reason_ne (e : GenerationError) : e.reason ≠ Reason.writeFailure := by
  cases e <;> (dsimp only [GenerationError.reason]; decide)

/-- The gate says nothing of writing. -/
theorem gate_reasons {r : Resolver} {d : Declaration} {readiness : Readiness} {reasons : List String}
    (hd : Reason.writeFailure ∉ d.invalidReasons) (h : d.gate r = .ok (readiness, reasons)) :
    Reason.writeFailure ∉ reasons := by
  unfold Declaration.gate at h
  split at h
  · cases h
    split
    · decide
    · exact hd
  · split at h
    · cases h
    · cases h
      exact List.not_mem_nil
    · cases h
      decide

/-- What a declaration is told in a scan is no failure to write. -/
theorem judge_reasons {d : Declaration} (hd : Reason.writeFailure ∉ d.invalidReasons) (r : Resolver)
    (claimed : Table String) : Reason.writeFailure ∉ (judge r claimed d).1.reasons := by
  unfold judge
  split
  · exact (by decide : Reason.writeFailure ∉ [Reason.internalError])
  · next hgate => exact gate_reasons hd hgate
  · next hgate => exact gate_reasons hd hgate
  · split
    · next e _ =>
      cases e with
      | generation e =>
        exact fun h => e.reason_ne (List.mem_singleton.mp h).symm
      | _ => exact (by decide : Reason.writeFailure ∉ [Reason.internalError])
    · unfold grant
      split
      · exact (by decide : Reason.writeFailure ∉ [Reason.nameCollision])
      · exact List.not_mem_nil

theorem Scan.through_reasons (r : Resolver) (signal : List Declaration → Bool)
    (done : List Declaration) (claimed : Table String) {ds : List Declaration}
    (h : ∀ d ∈ ds, Reason.writeFailure ∉ d.invalidReasons) {o : Outcome}
    (ho : o ∈ (Scan.through r signal done claimed ds).outcomes) : Reason.writeFailure ∉ o.reasons := by
  induction ds generalizing done claimed with
  | nil => cases ho
  | cons d rest ih =>
    unfold Scan.through at ho
    split at ho
    · obtain ⟨e, -, rfl⟩ := List.mem_map.mp ho
      exact (by decide : Reason.writeFailure ∉ [Reason.cancelled])
    · rcases List.mem_cons.mp ho with rfl | ho
      · exact judge_reasons (h d List.mem_cons_self) r claimed
      · exact ih _ _ (fun e he => h e (List.mem_cons_of_mem _ he)) ho

namespace Rounds

variable {profile : Profile} {g : Registry} {s s' : State σ} {world' : σ} {next : Next}

/-- A run works on declarations of decorated definitions, which are invalid for their own sake. -/
theorem Reaches.work_reasons (hg : g.Loaded) (h : Reaches env profile g world round s) :
    ∀ d ∈ work profile.marker s, Reason.writeFailure ∉ d.invalidReasons := by
  intro d hd
  obtain ⟨t, -, info, -, g', rfl⟩ := h.foremost hg d hd
  show Reason.writeFailure ∉ Registry.invalidReasons info
  unfold Registry.invalidReasons
  split
  · decide
  split
  · decide
  split
  · decide
  · exact List.not_mem_nil

/-- The outcomes that tell of a write that failed are those of refused artifacts. -/
def Refusals (env : Surroundings σ) (profile : Profile) (g : Registry) (world : σ)
    (A : Artifact → Except WriteFailure Published → Prop) (run : Run) : Prop :=
  ∀ q n o, run.outcomes.get? q = some (n, o) → Reason.writeFailure ∈ o.reasons →
    ∃ r a f, Reaches env profile g world n r ∧
      a ∈ (scanOf env profile.marker n r).artifacts ∧ a.source = q ∧ A a (.error f) ∧
      o.status = .failed ∧ o.artifactModule = some a.module

theorem Served.refusals_once (h : Served env profile g world P A send) (hg : g.Loaded)
    (hreaches : Reaches env profile g world round s) (hs : Refusals env profile g world A s.run)
    (honce : Rounds.once env profile round s = (.ok (s', next), world')) :
    Refusals env profile g world A s'.run := by
  obtain ⟨-, delivery, moved, hclose, hanswered⟩ := h.once hreaches honce
  have haccounts := scanOf_accounts env profile round s
  intro q n o hget hreason
  by_cases hnew : q ∈ (scanOf env profile.marker round s).outcomes.map Outcome.qualifiedName
  · obtain ⟨before, hbefore, rfl⟩ := List.mem_map.mp hnew
    rw [once_outcome hclose hbefore] at hget
    cases hget
    unfold Outcome.settle at hreason ⊢
    split at hreason
    · exact absurd hreason (Scan.through_reasons _ _ _ _ (hreaches.work_reasons hg) hbefore)
    · exact absurd hreason (by decide : Reason.writeFailure ∉ [Reason.cancelled])
    · next f hfailed =>
      -- the builder was made, and its publisher refused it
      obtain ⟨m, hmodule, hfailed⟩ := Option.bind_eq_some_iff.mp hfailed
      have hgenerated := (haccounts.sound before hbefore).module.mp (by rw [hmodule]; rfl)
      obtain ⟨a, ha, hmakes⟩ := Outcome.Makes.made haccounts.artifacts
        (List.mem_filter.mpr ⟨hbefore, by rw [hgenerated]; rfl⟩)
      have hsame : m = a.module := Option.some.inj (hmodule.symm.trans hmakes.module)
      subst hsame
      refine ⟨s, a, f, hreaches, ha, hmakes.source, ?_, rfl, hmodule⟩
      cases hanswered a ha with
      | putOff _ hputOff =>
        rw [hfailed] at hputOff
        cases hputOff
      | placed _ _ hwell =>
        rw [hfailed] at hwell
        cases hwell
      | refused hanswer hrefused =>
        rw [hfailed] at hrefused
        cases hrefused
        exact hanswer
  · have hold : s'.run.outcomes.get? q = s.run.outcomes.get? q := by
      rw [← congrArg (·.1.run.outcomes) hclose]
      refine Table.get?_inserts_of_not_mem _ fun hq => hnew ?_
      rw [(haccounts.settled delivery.failures).names, ← haccounts.declarations, List.map_map] at hq
      exact hq
    exact hs q n o (hold.symm.trans hget) hreason

/-- A run that is served tells of no other write that failed than those of refused artifacts. -/
theorem Served.run_refused (h : Served env profile g world P A send) (hg : g.Loaded)
    (hrun : Rounds.run env profile g world = (.ok s', world')) :
    Refusals env profile g world A s'.run := by
  refine run_induct (Q := fun s => Refusals env profile g world A s.run) ?_ ?_ ?_ hrun
  · exact fun q n o hget => nomatch hget
  · exact fun hreaches hs honce => h.refusals_once hg hreaches hs honce
  · exact fun _ _ hs => hs

end Rounds

end FluentBuilders
