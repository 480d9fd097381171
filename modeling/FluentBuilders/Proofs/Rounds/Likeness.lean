import FluentBuilders.Proofs.Rounds.Sending

/-!
Runs whose publishers answer alike.

1. `Table.Alike`: tables with the same keys and like values.
2. `Likeness`: in what the answers of two publishers agree, and with them outcomes and states.
3. Deliveries, and what a round makes of them.
4. `loop_alike`: where a publisher that leaves its world as it is answers as another one did, the run
   goes the same way.
5. Like runs have like reports and the same manifest.
-/

namespace FluentBuilders

/-! ## 1. Tables -/

namespace Table

variable {α β γ : Type} {R : α → β → Prop} {t : Table α} {t' : Table β}

/-- The same keys in the same order, with values that `R` relates. -/
def Alike (R : α → β → Prop) (t : Table α) (t' : Table β) : Prop :=
  List.Forall₂ (fun e e' => e'.1 = e.1 ∧ R e.2 e'.2) t.entries t'.entries

theorem Alike.empty : Alike R (.empty : Table α) (.empty : Table β) := .nil

theorem Alike.insert (h : Alike R t t') (key : String) {a : α} {b : β} (hab : R a b) :
    Alike R (t.insert key a) (t'.insert key b) := by
  obtain ⟨es⟩ := t
  obtain ⟨es'⟩ := t'
  replace h : List.Forall₂ _ es es' := h
  show List.Forall₂ _ (put key a es) (put key b es')
  induction h with
  | nil => exact .cons ⟨rfl, hab⟩ .nil
  | cons he hrest ih =>
    unfold put
    rw [he.1]
    split
    · exact .cons ⟨rfl, hab⟩ hrest
    · exact .cons ⟨rfl, he.2⟩ ih

/-- A key has like values in both tables, or none. -/
theorem Alike.get? (h : Alike R t t') (key : String) :
    Option.Rel R (t.get? key) (t'.get? key) := by
  obtain ⟨es⟩ := t
  obtain ⟨es'⟩ := t'
  replace h : List.Forall₂ _ es es' := h
  show Option.Rel R (find key es) (find key es')
  induction h with
  | nil => exact .none
  | cons he hrest ih =>
    unfold find
    rw [he.1]
    split
    · exact .some he.2
    · exact ih

theorem Alike.contains (h : Alike R t t') (key : String) : t'.contains key = t.contains key := by
  have hget := h.get? key
  unfold Table.contains
  generalize t.get? key = o at hget
  generalize t'.get? key = o' at hget
  cases hget <;> rfl

/-- Each value of the second table is like one of the first. -/
theorem Alike.values (h : Alike R t t') {b : β} (hb : b ∈ t'.values) : ∃ a ∈ t.values, R a b := by
  obtain ⟨es⟩ := t
  obtain ⟨es'⟩ := t'
  replace h : List.Forall₂ _ es es' := h
  replace hb : b ∈ es'.map (·.2) := hb
  show ∃ a ∈ es.map (·.2), R a b
  induction h with
  | nil => cases hb
  | cons he hrest ih =>
    rcases List.mem_cons.mp hb with rfl | hb
    · exact ⟨_, List.mem_cons_self, he.2⟩
    · obtain ⟨a, ha, hab⟩ := ih hb
      exact ⟨a, List.mem_cons_of_mem _ ha, hab⟩

/-- Insertions of like values keep tables alike. -/
theorem Alike.inserts {key : γ → String} {value : γ → α} {value' : γ → β} (h : Alike R t t')
    (l : List γ) (hl : ∀ c ∈ l, R (value c) (value' c)) :
    Alike R (l.foldl (fun t c => t.insert (key c) (value c)) t)
      (l.foldl (fun t c => t.insert (key c) (value' c)) t') := by
  induction l generalizing t t' with
  | nil => exact h
  | cons c rest ih =>
    exact ih (h.insert (key c) (hl c List.mem_cons_self))
      fun d hd => hl d (List.mem_cons_of_mem _ hd)

end Table

/-! ## 2. Likeness -/

/-- In what the answers of two publishers agree. -/
structure Likeness where
  published : Published → Published → Prop
  failure : WriteFailure → WriteFailure → Prop
  path : ∀ p p', published p p' → p'.path = p.path

namespace Likeness

/-- Like answers: both publish, or both refuse. -/
inductive Answers (L : Likeness) :
    Except PublishFault Published → Except PublishFault Published → Prop
  | ok {p p' : Published} : L.published p p' → L.Answers (.ok p) (.ok p')
  | refused {f f' : WriteFailure} : L.failure f f' →
    L.Answers (.error (.refused f)) (.error (.refused f'))

/-- Like reasons for an artifact to have no place. -/
inductive Unpublishes (L : Likeness) : Unpublished → Unpublished → Prop
  | cancelled : L.Unpublishes .cancelled .cancelled
  | failed {f f' : WriteFailure} : L.failure f f' → L.Unpublishes (.failed f) (.failed f')

/-- Like outcomes: they differ at most in the words about a write that failed. -/
structure Outcomes (L : Likeness) (o o' : Outcome) : Prop where
  declaration : o'.declaration = o.declaration
  status : o'.status = o.status
  reasons : o'.reasons = o.reasons
  artifactModule : o'.artifactModule = o.artifactModule
  error : o'.error = o.error ∨
    ∃ f f', L.failure f f' ∧ o.error = some f.message ∧ o'.error = some f'.message

theorem Outcomes.refl (L : Likeness) (o : Outcome) : L.Outcomes o o := ⟨rfl, rfl, rfl, rfl, .inl rfl⟩

/-- Like deliveries. -/
structure Deliveries (L : Likeness) (d d' : Delivery) : Prop where
  done : Table.Alike L.published d.done d'.done
  failures : Table.Alike L.Unpublishes d.failures d'.failures

/-- Like runs. -/
structure Runs (L : Likeness) (run run' : Run) : Prop where
  artifacts : run'.artifacts = run.artifacts
  published : Table.Alike L.published run.published run'.published
  outcomes : Table.Alike (fun x x' => x'.1 = x.1 ∧ L.Outcomes x.2 x'.2) run.outcomes run'.outcomes
  rounds : run'.rounds = run.rounds
  unresolved : run'.unresolved = run.unresolved
  cancelled : run'.cancelled = run.cancelled

/-- Like states, whatever the worlds are. -/
structure States {σ τ : Type} (L : Likeness) (s : Rounds.State σ) (s' : Rounds.State τ) : Prop where
  registry : s'.registry = s.registry
  pending : s'.pending = s.pending
  run : L.Runs s.run s'.run

variable {L : Likeness} {o : Outcome} {d d' : Delivery}

/-! ## 3. Deliveries -/

theorem Deliveries.empty (L : Likeness) : L.Deliveries .empty .empty :=
  ⟨Table.Alike.empty, Table.Alike.empty⟩

theorem Deliveries.deliver (h : L.Deliveries d d') (m : String) {p p' : Published}
    (hp : L.published p p') : L.Deliveries (d.deliver m p) (d'.deliver m p') :=
  ⟨h.done.insert m hp, h.failures⟩

theorem Deliveries.fail (h : L.Deliveries d d') (m : String) {u u' : Unpublished}
    (hu : L.Unpublishes u u') : L.Deliveries (d.fail m u) (d'.fail m u') :=
  ⟨h.done, h.failures.insert m hu⟩

theorem Deliveries.settle (h : L.Deliveries d d') (o : Outcome) :
    L.Outcomes (o.settle d.failures) (o.settle d'.failures) := by
  unfold Outcome.settle
  cases o.artifactModule with
  | none => exact .refl L o
  | some m =>
    have hget := h.failures.get? m
    rw [Option.bind_some, Option.bind_some]
    generalize d.failures.get? m = u at hget
    generalize d'.failures.get? m = u' at hget
    cases hget with
    | none => exact .refl L o
    | some hu =>
      cases hu with
      | cancelled => exact .refl L _
      | failed hf => exact ⟨rfl, rfl, rfl, rfl, .inr ⟨_, _, hf, rfl, rfl⟩⟩

theorem Deliveries.isPutOff (h : L.Deliveries d d') (o : Outcome) :
    o.isPutOff d'.failures = o.isPutOff d.failures := by
  unfold Outcome.isPutOff
  cases o.artifactModule with
  | none => rfl
  | some m =>
    have hget := h.failures.get? m
    rw [Option.bind_some, Option.bind_some]
    generalize d.failures.get? m = u at hget
    generalize d'.failures.get? m = u' at hget
    cases hget with
    | none => rfl
    | some hu => cases hu <;> rfl

/-- The numbers of a round do not depend on the words of its errors. -/
theorem ofOutcomes_eq (round : Nat) (cancelled : Bool) {os os' : List Outcome}
    (h : List.Forall₂ L.Outcomes os os') :
    RoundReport.ofOutcomes round cancelled os' = RoundReport.ofOutcomes round cancelled os := by
  have hstatus : os'.map (·.status) = os.map (·.status) := by
    induction h with
    | nil => rfl
    | cons ho _ ih => rw [List.map_cons, List.map_cons, ho.status, ih]
  have hcount : ∀ p : Status → Bool, os'.countP (fun o => p o.status) =
      os.countP (fun o => p o.status) := by
    intro p
    have hmap : ∀ os : List Outcome, os.countP (fun o => p o.status) =
        (os.map (·.status)).countP p := fun os => by
      rw [List.countP_map]
      rfl
    rw [hmap, hmap, hstatus]
  unfold RoundReport.ofOutcomes
  rw [h.length_eq, hcount (· == .generated), hcount (· == .deferred), hcount (· == .invalid),
    hcount fun s => !(s == .generated || s == .deferred || s == .invalid)]

/-- Builders go into a registry under the same paths. -/
theorem Deliveries.feedAll (h : L.Deliveries d d') (g : Registry) (artifacts : List Artifact) :
    g.feedAll d'.done artifacts = g.feedAll d.done artifacts := by
  induction artifacts generalizing g with
  | nil => rfl
  | cons a rest ih =>
    have hpath : (d'.done.get? a.module).map (·.path) = (d.done.get? a.module).map (·.path) := by
      have hget := h.done.get? a.module
      generalize d.done.get? a.module = p at hget
      generalize d'.done.get? a.module = p' at hget
      cases hget with
      | none => rfl
      | some hp => exact congrArg some (L.path _ _ hp)
    have hfeed : g.feed a (d'.done.get? a.module) = g.feed a (d.done.get? a.module) := by
      unfold Registry.feed
      rw [hpath]
    unfold Registry.feedAll
    rw [hfeed]
    dsimp only
    rw [ih]

theorem Runs.addOutcomes {run run' : Run} (h : L.Runs run run') (round : Nat)
    (hd : L.Deliveries d d') (os : List Outcome) :
    L.Runs (run.addOutcomes round (os.map (Outcome.settle d.failures)))
      (run'.addOutcomes round (os.map (Outcome.settle d'.failures))) where
  artifacts := h.artifacts
  published := h.published
  outcomes := by
    unfold Run.addOutcomes
    rw [List.foldl_map, List.foldl_map]
    have hname : ∀ (failures : Table Unpublished) (o : Outcome),
        (o.settle failures).qualifiedName = o.qualifiedName := fun failures o =>
      congrArg Declaration.qualifiedName (o.settle_declaration failures)
    simp only [hname]
    exact h.outcomes.inserts os fun o _ => ⟨rfl, hd.settle o⟩
  rounds := h.rounds
  unresolved := h.unresolved
  cancelled := h.cancelled

theorem Runs.addArtifacts {run run' : Run} (h : L.Runs run run') (hd : L.Deliveries d d')
    (artifacts : List Artifact) :
    L.Runs (run.addArtifacts d.done artifacts) (run'.addArtifacts d'.done artifacts) where
  artifacts := congrArg (· ++ artifacts) h.artifacts
  published := by
    unfold Run.addArtifacts
    dsimp only
    have hpublished := h.published
    generalize run.published = t at hpublished
    generalize run'.published = t' at hpublished
    induction artifacts generalizing t t' with
    | nil => exact hpublished
    | cons a rest ih =>
      refine ih _ _ ?_
      dsimp only
      have hget := hd.done.get? a.module
      generalize d.done.get? a.module = p at hget
      generalize d'.done.get? a.module = p' at hget
      cases hget with
      | none => exact hpublished
      | some hp => exact hpublished.insert a.module hp
  outcomes := h.outcomes
  rounds := h.rounds
  unresolved := h.unresolved
  cancelled := h.cancelled

/-- A round leaves like states, and moves as far, where its deliveries are alike. -/
theorem States.close {σ τ : Type} {s : Rounds.State σ} {s' : Rounds.State τ} (h : L.States s s')
    (hd : L.Deliveries d d') (round : Nat) (waiting : List String) (scan : Scan) :
    L.States (Rounds.close round waiting scan d s).1 (Rounds.close round waiting scan d' s').1 ∧
      (Rounds.close round waiting scan d' s').2 = (Rounds.close round waiting scan d s).2 := by
  have hkept : ∀ a : Artifact, d'.failures.contains a.module = d.failures.contains a.module :=
    fun a => hd.failures.contains a.module
  have hputOff : ∀ o : Outcome, o.isPutOff d'.failures = o.isPutOff d.failures := hd.isPutOff
  have hsettled : List.Forall₂ L.Outcomes (scan.outcomes.map (Outcome.settle d.failures))
      (scan.outcomes.map (Outcome.settle d'.failures)) := by
    rw [List.forall₂_map_left_iff, List.forall₂_map_right_iff, List.forall₂_same]
    exact fun o _ => hd.settle o
  have hrun := (h.run.addOutcomes round hd scan.outcomes).addArtifacts hd
    (scan.artifacts.filter fun a => !d.failures.contains a.module)
  unfold Rounds.close
  dsimp only
  simp only [hkept, h.registry, hd.feedAll]
  refine ⟨⟨rfl, ?_, hrun.artifacts, hrun.published, hrun.outcomes, ?_, hrun.unresolved,
    hrun.cancelled⟩, trivial⟩
  · dsimp only
    rw [List.filter_congr fun o _ => hputOff o]
  · rw [ofOutcomes_eq round scan.cancelled hsettled]
    exact congrArg (· ++ _) h.run.rounds

theorem States.finish {σ τ : Type} {s : Rounds.State σ} {s' : Rounds.State τ} (h : L.States s s')
    (cancelled : Bool) : L.States (Rounds.finish s cancelled) (Rounds.finish s' cancelled) :=
  ⟨h.registry, h.pending, h.run.artifacts, h.run.published, h.run.outcomes, h.run.rounds, h.pending,
    rfl⟩

end Likeness

/-! ## 4. Whole runs -/

section Runs

variable {σ τ : Type} {L : Likeness} {env : Surroundings σ} {env' : Surroundings τ}
  {send : Artifact → σ → Except PublishFault Published × σ}
  {send' : Artifact → τ → Except PublishFault Published × τ}
  {profile : Profile} {round fuel : Nat} {world : σ} {still : τ}

/-- In the world `still` the other publisher answers as `send` did, and leaves that world as it is. -/
def Repeats (L : Likeness) (send : Artifact → σ → Except PublishFault Published × σ)
    (send' : Artifact → τ → Except PublishFault Published × τ) (still : τ)
    (sendings : List (Artifact × σ)) : Prop :=
  ∀ p ∈ sendings, (send' p.1 still).2 = still ∧ L.Answers (send p.1 p.2).1 (send' p.1 still).1

theorem publishInTurn_alike (henv : env.Steady send) (henv' : env'.Steady send')
    {artifacts : List Artifact} {d₁ d d' : Delivery} {world₁ : σ} (hd : L.Deliveries d d')
    (hrepeats : Repeats L send send' still (sendings send artifacts world))
    (h : publishInTurn env send round artifacts d world = (.ok d₁, world₁)) :
    ∃ d₁', publishInTurn env' send' round artifacts d' still = (.ok d₁', still) ∧
      L.Deliveries d₁ d₁' := by
  induction artifacts generalizing d d' world with
  | nil =>
    cases h
    exact ⟨d', rfl, hd⟩
  | cons a rest ih =>
    unfold publishInTurn at h
    split at h
    · next d₂ world₂ hone =>
      obtain ⟨rfl, hanswer⟩ := publishOne_steady henv hone
      obtain ⟨hstill, hlike⟩ := hrepeats (a, world) List.mem_cons_self
      have hrest : Repeats L send send' still (sendings send rest (send a world).2) :=
        fun p hp => hrepeats p (List.mem_cons_of_mem _ hp)
      have hone' : ∃ d₂', publishOne env' send' round a d' still = (.ok d₂', still) ∧
          L.Deliveries d₂ d₂' := by
        unfold publishOne
        rw [henv'.never, if_neg Bool.false_ne_true]
        generalize hsend : send' a still = r at hstill hlike
        obtain ⟨answer, world'⟩ := r
        dsimp only at hstill hlike
        subst hstill
        rcases hanswer with ⟨p, hp, rfl⟩ | ⟨f, hf, rfl⟩
        · rw [hp] at hlike
          cases hlike with
          | ok hp' => exact ⟨_, rfl, hd.deliver a.module hp'⟩
        · rw [hf] at hlike
          cases hlike with
          | refused hf' => exact ⟨_, rfl, hd.fail a.module (.failed hf')⟩
      obtain ⟨d₂', hone', hd₂⟩ := hone'
      unfold publishInTurn
      rw [hone']
      exact ih hd₂ hrest h
    · cases h

namespace Rounds

variable {s s₁ : State σ} {s' : State τ}

theorem once_alike (henv : env.Steady send) (henv' : env'.Steady send')
    (hworkers : env'.workers = env.workers) (horder : env'.order = env.order)
    (hs : L.States s s') (hstill : s'.world = still)
    (hrepeats : Repeats L send send' still (sendings send
      (batch env round (scanOf env profile.marker round s).artifacts) s.world))
    {next : Next} (h : once env profile round s = (.ok (s₁, next), world)) :
    ∃ s₁', once env' profile round s' = (.ok (s₁', next), still) ∧ s₁'.world = still ∧
      L.States s₁ s₁' := by
  unfold once at h ⊢
  dsimp only at h ⊢
  have hsignal : (fun done => env'.cancelled s'.world (.scanning round done)) =
      fun done => env.cancelled s.world (.scanning round done) := by
    funext done
    rw [henv'.never, henv.never]
  rw [hsignal, hs.registry, hs.pending, hstill]
  have hbatch : batch env' round = batch env round := by
    funext artifacts
    unfold batch
    rw [hworkers, horder]
  split at h
  · cases h
  · next delivery world₁ hround =>
    rw [publishRound_iff henv] at hround
    obtain ⟨delivery', hround', hdelivery⟩ :=
      publishInTurn_alike henv henv' (.empty L) hrepeats hround
    rw [← hbatch, ← publishRound_iff henv'] at hround'
    unfold scanOf answering at hround'
    rw [hround']
    cases h
    have hstart : L.States
        (⟨(s.registry.report profile.marker).2, world, s.pending, s.run⟩ : State σ)
        (⟨(s.registry.report profile.marker).2, still, s.pending, s'.run⟩ : State τ) :=
      ⟨rfl, rfl, hs.run⟩
    obtain ⟨hclose, hmoved⟩ := hstart.close hdelivery round
      (s.pending.map (·.qualifiedName)) (Scan.run (s.registry.report profile.marker).2.resolver
        (fun done => env.cancelled s.world (.scanning round done)) s.pending
        (s.registry.report profile.marker).1)
    refine ⟨_, ?_, rfl, hclose⟩
    dsimp only
    rw [hmoved]
    congr 3
    unfold next
    rw [henv'.never, henv.never, hclose.pending]

/-- Where the other publisher answers alike, the run goes the same way. -/
theorem loop_alike (henv : env.Steady send) (henv' : env'.Steady send')
    (hworkers : env'.workers = env.workers) (horder : env'.order = env.order)
    (hs : L.States s s') (hstill : s'.world = still)
    (hrepeats : Repeats L send send' still (sendings send (sent env profile fuel round s) s.world))
    (h : loop env profile fuel round s = (.ok s₁, world)) :
    ∃ s₁', loop env' profile fuel round s' = (.ok s₁', still) ∧ L.States s₁ s₁' := by
  induction fuel generalizing round s s' with
  | zero =>
    cases h
    exact ⟨finish s' false, by rw [loop, hstill], hs.finish false⟩
  | succ fuel ih =>
    obtain ⟨r, next, world₁, honce, hrest⟩ := loop_sent h
    obtain ⟨hworld, hafter, -, -⟩ := once_steady henv honce
    have hfirst : Repeats L send send' still (sendings send
        (batch env round (scanOf env profile.marker round s).artifacts) s.world) := by
      rcases hrest with ⟨_, -, -, hsent⟩ | ⟨-, hsent⟩
      · rwa [hsent] at hrepeats
      · rw [hsent, sendings_append] at hrepeats
        exact fun p hp => hrepeats p (List.mem_append_left _ hp)
    obtain ⟨r', honce', hstill', hr⟩ :=
      once_alike henv henv' hworkers horder hs hstill hfirst honce
    unfold loop at h ⊢
    rw [honce] at h
    rw [honce']
    cases next with
    | again =>
      refine ih hr hstill' ?_ h
      rw [sent, honce, sendings_append, ← hafter, ← hworld] at hrepeats
      exact fun p hp => hrepeats p (List.mem_append_right _ hp)
    | stop =>
      cases h
      exact ⟨_, rfl, hr.finish false⟩
    | cancelled =>
      cases h
      exact ⟨_, rfl, hr.finish true⟩

end Rounds

end Runs

/-! ## 5. Reports and manifests -/

/-- Sorting goes the same way where the keys are the same. -/
theorem sortByKey_alike {α β : Type} {R : α → β → Prop} {key : α → String} {key' : β → String}
    (hkey : ∀ a b, R a b → key' b = key a) {l : List α} {l' : List β} (h : List.Forall₂ R l l') :
    List.Forall₂ R (sortByKey key l) (sortByKey key' l') := by
  have hplace : ∀ {a b} {l : List α} {l' : List β}, R a b → List.Forall₂ R l l' →
      List.Forall₂ R (placeItem (fun a b => decide (key a ≤ key b)) a l)
        (placeItem (fun a b => decide (key' a ≤ key' b)) b l') := by
    intro a b l l' hab h
    induction h with
    | nil => exact .cons hab .nil
    | cons hcd hrest ih =>
      unfold placeItem
      rw [hkey _ _ hab, hkey _ _ hcd]
      split
      · exact .cons hab (.cons hcd hrest)
      · exact .cons hcd ih
  unfold sortByKey
  induction h with
  | nil => exact .nil
  | cons hab hrest ih => exact hplace hab ih

namespace Likeness

variable {L : Likeness} {run run' : Run}

/-- Like reports on a declaration: they differ at most in the words about a write that failed. -/
structure Reports (L : Likeness) (d d' : DeclarationReport) : Prop where
  same : d' = { d with error := d'.error }
  error : d'.error = d.error ∨
    ∃ f f', L.failure f f' ∧ d.error = some f.message ∧ d'.error = some f'.message

theorem Outcomes.report {o o' : Outcome} (h : L.Outcomes o o') (g : Registry)
    (waiting : List String) (name : String) (round : Nat) :
    L.Reports (.ofOutcome g waiting name round o) (.ofOutcome g waiting name round o') where
  same := by
    unfold DeclarationReport.ofOutcome
    rw [h.declaration, h.status, h.reasons, h.artifactModule]
  error := h.error

/-- Like runs have like reports. -/
theorem Runs.declarationReports (h : L.Runs run run') (g : Registry) :
    List.Forall₂ L.Reports (run.declarationReports g) (run'.declarationReports g) := by
  unfold Run.declarationReports
  rw [h.unresolved]
  dsimp only
  rw [List.forall₂_map_left_iff, List.forall₂_map_right_iff]
  refine (sortByKey_alike (fun _ _ h => h.1) h.outcomes).imp ?_
  rintro ⟨name, round, o⟩ ⟨name', round', o'⟩ ⟨rfl, hround, ho⟩
  cases hround
  exact ho.report g _ name' round

/-- Like runs have the same manifest. -/
theorem Runs.manifest (h : L.Runs run run') (profile : Profile) :
    Manifest.ofRun profile run' = Manifest.ofRun profile run := by
  have hentry : ManifestEntry.ofArtifact run'.published = ManifestEntry.ofArtifact run.published := by
    funext a
    have hget := h.published.get? a.module
    unfold ManifestEntry.ofArtifact
    congr 1
    generalize run.published.get? a.module = p at hget
    generalize run'.published.get? a.module = p' at hget
    cases hget with
    | none => rfl
    | some hp => exact congrArg some (L.path _ _ hp)
  unfold Manifest.ofRun
  rw [h.artifacts, hentry]

end Likeness

end FluentBuilders
