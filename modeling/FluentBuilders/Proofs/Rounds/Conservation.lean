import FluentBuilders.Proofs.Rounds.Settlement
import FluentBuilders.Report

/-!
A run loses no declaration and counts none twice.

1. `Rounds.reported`: what a run learns of declarations, round by round.
2. `Account`: what the state between two rounds keeps of the names that were reported so far.
3. `Account.step`, and with it the account of a whole run.
4. `Conserved`: what the account says of the run in the end.
5. `run_conserves`: every run that nothing aborts ends conserved, and so do its manifest and report.
-/

namespace FluentBuilders

open Text

namespace Rounds

variable {σ : Type} {env : Surroundings σ}

/-! ## 1. Reported declarations -/

/-- The declarations that the rounds from number `round` on find reported, at most `fuel` rounds. -/
def reported (env : Surroundings σ) (profile : Profile) :
    Nat → Nat → State σ → List Declaration
  | 0, _, _ => []
  | fuel + 1, round, s =>
    (s.registry.report profile.marker).1 ++
      match once env profile round s with
      | (.ok (s, .again), _) => reported env profile fuel (round + 1) s
      | _ => []

/-! ## 2. The account between two rounds -/

/-- What the state between two rounds keeps of the names `names` that were reported so far: each has
one outcome, and the outcomes tell what waits and what was made. -/
structure Account (marker : String) (names : List String) (s : State σ) : Prop where
  registry : s.registry.Sound
  /-- Names come from modules that were searched. -/
  origin : ∀ q ∈ names, ∃ m ∈ s.registry.searched marker, ∃ d : Declaration,
    d.IsOf m ∧ d.qualifiedName = q
  keys : s.run.outcomes.keys.Nodup
  known : ∀ q, q ∈ s.run.outcomes.keys ↔ q ∈ names
  outcome : ∀ q n o, s.run.outcomes.get? q = some (n, o) →
    o.qualifiedName = q ∧ o.status ≠ .unresolved
  pendingNames : (s.pending.map (·.qualifiedName)).Nodup
  pending : ∀ d, d ∈ s.pending ↔ ∃ n o, s.run.outcomes.get? d.qualifiedName = some (n, o) ∧
    o.status = .deferred ∧ o.declaration = d
  sources : (s.run.artifacts.map (·.source)).Nodup
  artifacts : ∀ q, q ∈ s.run.artifacts.map (·.source) ↔
    ∃ n o, s.run.outcomes.get? q = some (n, o) ∧ o.status = .generated
  rounds : ∀ r ∈ s.run.rounds, r.candidates = r.generated + r.deferred + r.invalid + r.failed

/-- Before the first round nothing is known. -/
theorem Account.start (marker : String) {g : Registry} (hg : g.Sound) (world : σ) :
    Account marker [] (⟨g, world, [], .empty⟩ : State σ) where
  registry := hg
  origin := by simp
  keys := by simp [Run.empty, Table.empty, Table.keys]
  known := by simp [Run.empty, Table.empty, Table.keys]
  outcome q n o h := by cases h
  pendingNames := by simp
  pending := by simp [Run.empty]
  sources := by simp [Run.empty]
  artifacts := by simp [Run.empty]
  rounds := by simp [Run.empty]

/-- The numbers of a round add up. -/
theorem ofOutcomes_adds_up (round : Nat) (cancelled : Bool) (outcomes : List Outcome) :
    let r := RoundReport.ofOutcomes round cancelled outcomes
    r.candidates = r.generated + r.deferred + r.invalid + r.failed := by
  induction outcomes with
  | nil => rfl
  | cons o rest ih =>
    have hone : ∀ s : Status, (if (s == .generated) = true then 1 else 0) +
        (if (s == .deferred) = true then 1 else 0) + (if (s == .invalid) = true then 1 else 0) +
        (if (!(s == .generated || s == .deferred || s == .invalid)) = true then 1 else 0) = 1 := by
      intro s
      cases s <;> rfl
    have hone := hone o.status
    simp only [RoundReport.ofOutcomes, List.length_cons, List.countP_cons] at ih ⊢
    omega

/-! ## 3. One round -/

section Step

variable {profile : Profile} {round : Nat} {names : List String} {s s' : State σ}

/-- The names of the declarations that a round works on. -/
theorem work_names (marker : String) (s : State σ) (q : String) :
    q ∈ (work marker s).map (·.qualifiedName) ↔
      q ∈ s.pending.map (·.qualifiedName) ∨
        q ∈ (s.registry.report marker).1.map (·.qualifiedName) := by
  unfold work candidates
  rw [mem_firstOfEach_names, List.map_append, List.mem_append]
  simp

/-- No name is reported a second time. -/
theorem Account.fresh {marker : String} (h : Account marker names s) {d : Declaration}
    (hd : d ∈ (s.registry.report marker).1) : d.qualifiedName ∉ names := by
  intro hq
  obtain ⟨m, -, hnew, hof⟩ := h.registry.reported hd
  obtain ⟨m', hold, d', hof', e⟩ := h.origin _ hq
  rw [(hof.of_qualifiedName hof' e.symm).1] at hnew
  exact hnew hold

theorem Account.pending_known {marker : String} (h : Account marker names s) {q : String}
    (hq : q ∈ s.pending.map (·.qualifiedName)) :
    ∃ n o, s.run.outcomes.get? q = some (n, o) ∧ o.status = .deferred := by
  obtain ⟨d, hd, rfl⟩ := List.mem_map.mp hq
  obtain ⟨n, o, hget, hstatus, -⟩ := (h.pending d).mp hd
  exact ⟨n, o, hget, hstatus⟩

/-- A name waits where its outcome was put off. -/
theorem Account.waits_iff {marker : String} (h : Account marker names s) {q : String} {n : Nat}
    {o : Outcome} (ho : s.run.outcomes.get? q = some (n, o)) :
    q ∈ s.pending.map (·.qualifiedName) ↔ o.status = .deferred := by
  constructor
  · intro hq
    obtain ⟨n', o', ho', hd⟩ := h.pending_known hq
    have e := Option.some.inj (ho.symm.trans ho')
    rw [Prod.mk.injEq] at e
    rw [e.2]
    exact hd
  · intro hd
    obtain ⟨rfl, -⟩ := h.outcome q n o ho
    exact List.mem_map_of_mem ((h.pending o.declaration).mpr ⟨n, o, ho, hd, rfl⟩)

/-- A name has an artifact where its outcome says so. -/
theorem Account.made_iff {marker : String} (h : Account marker names s) {q : String} {n : Nat}
    {o : Outcome} (ho : s.run.outcomes.get? q = some (n, o)) :
    q ∈ s.run.artifacts.map (·.source) ↔ o.status = .generated := by
  rw [h.artifacts]
  constructor
  · rintro ⟨n', o', ho', hg⟩
    have e := Option.some.inj (ho.symm.trans ho')
    rw [Prod.mk.injEq] at e
    rw [e.2]
    exact hg
  · exact fun hg => ⟨n, o, ho, hg⟩

/-- Names with an outcome were reported. -/
theorem Account.named {marker : String} (h : Account marker names s) {q : String}
    {x : Nat × Outcome} (hget : s.run.outcomes.get? q = some x) : q ∈ names := by
  refine (h.known q).mp ?_
  by_contra hnone
  rw [(Table.get?_eq_none_iff _ _).mpr hnone] at hget
  cases hget

/-- A name whose outcome was not put off is not worked on again. -/
theorem Account.settled_once {marker : String} (h : Account marker names s) {q : String} {n : Nat}
    {o : Outcome} (hget : s.run.outcomes.get? q = some (n, o)) (hfinal : o.status ≠ .deferred) :
    q ∉ (work marker s).map (·.qualifiedName) := by
  intro hq
  rcases (work_names marker s q).mp hq with hq | hq
  · exact hfinal ((h.waits_iff hget).mp hq)
  · obtain ⟨d, hd, rfl⟩ := List.mem_map.mp hq
    exact h.fresh hd (h.named hget)

/-- The outcomes of a round are found under their names, and all other outcomes as before. -/
theorem addOutcomes_get? (run : Run) (round : Nat) {os : List Outcome}
    (hos : (os.map Outcome.qualifiedName).Nodup) (q : String) :
    (∃ o ∈ os, o.qualifiedName = q ∧
        (run.addOutcomes round os).outcomes.get? q = some (round, o)) ∨
      q ∉ os.map Outcome.qualifiedName ∧
        (run.addOutcomes round os).outcomes.get? q = run.outcomes.get? q := by
  by_cases hq : q ∈ os.map Outcome.qualifiedName
  · obtain ⟨o, ho, rfl⟩ := List.mem_map.mp hq
    exact .inl ⟨o, ho, rfl, Table.get?_inserts_of_mem run.outcomes hos ho⟩
  · exact .inr ⟨hq, Table.get?_inserts_of_not_mem run.outcomes hq⟩

/-- An outcome after a round is one of the round, or one from before whose name was not worked on. -/
theorem addOutcomes_cases (run : Run) (round : Nat) {os : List Outcome}
    (hos : (os.map Outcome.qualifiedName).Nodup) {q : String} {n : Nat} {o : Outcome}
    (h : (run.addOutcomes round os).outcomes.get? q = some (n, o)) :
    o ∈ os ∧ o.qualifiedName = q ∨
      q ∉ os.map Outcome.qualifiedName ∧ run.outcomes.get? q = some (n, o) := by
  rcases addOutcomes_get? run round hos q with ⟨o', ho', hq, e⟩ | ⟨hq, e⟩
  · rw [e, Option.some.injEq, Prod.mk.injEq] at h
    obtain ⟨-, rfl⟩ := h
    exact .inl ⟨ho', hq⟩
  · exact .inr ⟨hq, e ▸ h⟩

section Settle

variable {marker : String} {os : List Outcome} {pending : List Declaration} {kept : List Artifact}

/-- After a round, the names that have an outcome are those reported by then. -/
theorem Account.step_known (h : Account marker names s)
    (hsettled : Settled (work marker s) os pending kept) (round : Nat) (q : String) :
    q ∈ (s.run.addOutcomes round os).outcomes.keys ↔
      q ∈ names ++ (s.registry.report marker).1.map (·.qualifiedName) := by
  rw [List.mem_append]
  refine (Table.mem_keys_inserts _ _ _).trans ?_
  rw [hsettled.names, work_names, h.known]
  constructor
  · rintro ((hq | hq) | hq)
    · obtain ⟨n, o, hget, -⟩ := h.pending_known hq
      exact .inl (h.named hget)
    · exact .inr hq
    · exact .inl hq
  · rintro (hq | hq)
    · exact .inr hq
    · exact .inl (.inr hq)

/-- What waits after a round are the declarations whose outcomes say so. -/
theorem Account.step_pending (h : Account marker names s)
    (hsettled : Settled (work marker s) os pending kept) (round : Nat) (d : Declaration) :
    d ∈ pending ↔ ∃ n o, (s.run.addOutcomes round os).outcomes.get? d.qualifiedName = some (n, o) ∧
      o.status = .deferred ∧ o.declaration = d := by
  rw [hsettled.pending.mem_iff]
  constructor
  · intro hd
    obtain ⟨o, ho, rfl⟩ := List.mem_map.mp hd
    obtain ⟨ho, hstatus⟩ := List.mem_filter.mp ho
    exact ⟨round, o, settled_get? hsettled s.run round ho, by simpa using hstatus, rfl⟩
  · rintro ⟨n, o, ho, hstatus, rfl⟩
    rcases addOutcomes_cases s.run round (settled_nodup hsettled) ho with ⟨ho, -⟩ | ⟨hq, ho⟩
    · exact List.mem_map.mpr ⟨o, List.mem_filter.mpr ⟨ho, by simp [hstatus]⟩, rfl⟩
    · -- what waited before is worked on
      refine absurd ?_ hq
      rw [hsettled.names, work_names]
      exact .inl (List.mem_map_of_mem ((h.pending _).mpr ⟨n, o, ho, hstatus, rfl⟩))

/-- What was made before is not worked on. -/
theorem Account.made_before (h : Account marker names s)
    (hsettled : Settled (work marker s) os pending kept) {q : String}
    (hq : q ∈ s.run.artifacts.map (·.source)) : q ∉ os.map Outcome.qualifiedName := by
  obtain ⟨n, o, hget, hmade⟩ := (h.artifacts q).mp hq
  rw [hsettled.names]
  exact h.settled_once hget (by rw [hmade]; decide)

theorem Account.step_sources (h : Account marker names s)
    (hsettled : Settled (work marker s) os pending kept) :
    ((s.run.artifacts ++ kept).map (·.source)).Nodup := by
  rw [List.map_append, List.nodup_append, Outcome.Makes.sources hsettled.artifacts]
  refine ⟨h.sources, (settled_nodup hsettled).sublist (List.filter_sublist.map _), fun q hq q' hq' => ?_⟩
  rintro rfl
  exact h.made_before hsettled hq ((List.filter_sublist.map _).subset hq')

/-- What was made after a round are the builders of the names whose outcomes say so. -/
theorem Account.step_artifacts (h : Account marker names s)
    (hsettled : Settled (work marker s) os pending kept) (round : Nat) (q : String) :
    q ∈ (s.run.artifacts ++ kept).map (·.source) ↔
      ∃ n o, (s.run.addOutcomes round os).outcomes.get? q = some (n, o) ∧ o.status = .generated := by
  rw [List.map_append, List.mem_append, Outcome.Makes.sources hsettled.artifacts]
  constructor
  · rintro (hq | hq)
    · obtain ⟨n, o, hget, hmade⟩ := (h.artifacts q).mp hq
      refine ⟨n, o, ?_, hmade⟩
      rw [← hget]
      exact Table.get?_inserts_of_not_mem s.run.outcomes (h.made_before hsettled hq)
    · obtain ⟨o, ho, rfl⟩ := List.mem_map.mp hq
      obtain ⟨ho, hstatus⟩ := List.mem_filter.mp ho
      exact ⟨round, o, settled_get? hsettled s.run round ho, by simpa using hstatus⟩
  · rintro ⟨n, o, ho, hstatus⟩
    rcases addOutcomes_cases s.run round (settled_nodup hsettled) ho with ⟨hmem, rfl⟩ | ⟨-, ho⟩
    · exact .inr (List.mem_map.mpr ⟨o, List.mem_filter.mpr ⟨hmem, by simp [hstatus]⟩, rfl⟩)
    · exact .inl ((h.artifacts q).mpr ⟨n, o, ho, hstatus⟩)

end Settle

/-- A round keeps the account, with the names that it found reported. -/
theorem Account.step (h : Account profile.marker names s)
    (hstep : Stepped env profile round s s') :
    Account profile.marker
      (names ++ (s.registry.report profile.marker).1.map (·.qualifiedName)) s' := by
  obtain ⟨⟨failures, kept, hsettled, -, houtcomes, hartifacts, hrounds⟩, hgrows⟩ := hstep
  generalize (scanOf env profile.marker round s).outcomes.map (Outcome.settle failures) = os at *
  have hsearched : ∀ m ∈ s.registry.names, m ∈ s'.registry.searched profile.marker := fun m hm =>
    hgrows.searched (by rwa [Registry.searched_report])
  exact
    { registry := hgrows.sound (h.registry.report _)
      origin := by
        intro q hq
        rcases List.mem_append.mp hq with hq | hq
        · obtain ⟨m, hm, d, hd⟩ := h.origin q hq
          exact ⟨m, hsearched m (List.mem_of_mem_take hm), d, hd⟩
        · obtain ⟨d, hd, rfl⟩ := List.mem_map.mp hq
          obtain ⟨m, hm, -, hof⟩ := h.registry.reported hd
          exact ⟨m, hsearched m hm, d, hof, rfl⟩
      keys := by
        rw [houtcomes]
        exact Table.nodup_inserts h.keys os
      known := by
        rw [houtcomes]
        exact h.step_known hsettled round
      outcome := by
        intro q n o ho
        rw [houtcomes] at ho
        rcases addOutcomes_cases s.run round (settled_nodup hsettled) ho with ⟨ho, hq⟩ | ⟨-, ho⟩
        · exact ⟨hq, hsettled.status o ho⟩
        · exact h.outcome q n o ho
      pendingNames := by
        rw [(hsettled.pending.map _).nodup_iff, List.map_map]
        exact (settled_nodup hsettled).sublist (List.filter_sublist.map _)
      pending := by
        rw [houtcomes]
        exact h.step_pending hsettled round
      sources := by
        rw [hartifacts]
        exact h.step_sources hsettled
      artifacts := by
        rw [houtcomes, hartifacts]
        exact h.step_artifacts hsettled round
      rounds := by
        intro r hr
        rw [hrounds, List.mem_append, List.mem_singleton] at hr
        rcases hr with hr | rfl
        · exact h.rounds r hr
        · exact ofOutcomes_adds_up .. }

end Step

/-- Rounds end in a state that keeps the account, with all names that they found reported. -/
theorem loop_account {fuel round : Nat} {names : List String} {s s' : State σ} {world : σ}
    (h : Account profile.marker names s)
    (hloop : loop env profile fuel round s = (.ok s', world)) :
    ∃ last cancelled, s' = finish last cancelled ∧ Account profile.marker
      (names ++ (reported env profile fuel round s).map (·.qualifiedName)) last := by
  induction fuel generalizing names round s with
  | zero =>
    cases hloop
    exact ⟨s, false, rfl, by simpa [reported] using h⟩
  | succ fuel ih =>
    unfold loop at hloop
    unfold reported
    cases honce : once env profile round s with
    | mk answer world' =>
      cases answer with
      | error e =>
        rw [honce] at hloop
        cases hloop
      | ok r =>
        obtain ⟨s₁, next⟩ := r
        rw [honce] at hloop
        have h₁ := h.step (once_stepped honce).1
        cases next with
        | again =>
          obtain ⟨last, cancelled, e, h'⟩ := ih h₁ hloop
          exact ⟨last, cancelled, e, by rwa [List.map_append, ← List.append_assoc]⟩
        | stop =>
          cases hloop
          exact ⟨s₁, false, rfl, by simpa using h₁⟩
        | cancelled =>
          cases hloop
          exact ⟨s₁, true, rfl, by simpa using h₁⟩

/-! ## 4. What is conserved -/

/-- A run accounts for the declarations that it found reported. -/
structure Conserved (found : List Declaration) (run : Run) : Prop where
  /-- Each reported name has one outcome, and no other name has any. -/
  once : ∀ d ∈ found, run.outcomes.keys.count d.qualifiedName = 1
  only : ∀ q ∈ run.outcomes.keys, ∃ d ∈ found, d.qualifiedName = q
  outcome : ∀ q n o, run.outcomes.get? q = some (n, o) →
    o.qualifiedName = q ∧ o.status ∈ [Status.generated, .deferred, .invalid, .failed]
  /-- What was put off is left unresolved, once, and nothing else is. -/
  deferred : ∀ q n o, run.outcomes.get? q = some (n, o) →
    (o.status = .deferred ↔ o.declaration ∈ run.unresolved)
  unresolved : ∀ q n o, run.outcomes.get? q = some (n, o) →
    (run.unresolved.map (·.qualifiedName)).count q = if o.status = .deferred then 1 else 0
  /-- What was generated has one artifact, and nothing else has any. -/
  generated : ∀ q n o, run.outcomes.get? q = some (n, o) →
    (run.artifacts.map (·.source)).count q = if o.status = .generated then 1 else 0
  /-- The numbers of every round add up. -/
  rounds : ∀ r ∈ run.rounds, r.candidates = r.generated + r.deferred + r.invalid + r.failed

theorem Account.conserved {marker : String} {found : List Declaration} {s : State σ}
    (h : Account marker (found.map (·.qualifiedName)) s) (cancelled : Bool) :
    Conserved found (finish s cancelled).run where
  once d hd := List.count_eq_one_of_mem h.keys ((h.known _).mpr (List.mem_map_of_mem hd))
  only q hq := List.mem_map.mp ((h.known q).mp hq)
  outcome q n o ho := by
    obtain ⟨hq, hstatus⟩ := h.outcome q n o ho
    refine ⟨hq, ?_⟩
    cases hs : o.status <;> simp_all
  deferred q n o ho := by
    obtain ⟨rfl, -⟩ := h.outcome q n o ho
    refine Iff.trans ⟨fun hd => ⟨n, o, ho, hd, rfl⟩, ?_⟩ (h.pending o.declaration).symm
    rintro ⟨n', o', ho', hd, -⟩
    have e := Option.some.inj (ho.symm.trans ho')
    rw [Prod.mk.injEq] at e
    rw [e.2]
    exact hd
  unresolved q n o ho := by
    show (s.pending.map (·.qualifiedName)).count q = _
    have hmem := h.waits_iff ho
    split
    · next hd => exact List.count_eq_one_of_mem h.pendingNames (hmem.mpr hd)
    · next hd => exact List.count_eq_zero_of_not_mem fun hq => hd (hmem.mp hq)
  generated q n o ho := by
    show (s.run.artifacts.map (·.source)).count q = _
    have hmem := h.made_iff ho
    split
    · next hg => exact List.count_eq_one_of_mem h.sources (hmem.mpr hg)
    · next hg => exact List.count_eq_zero_of_not_mem fun hq => hg (hmem.mp hq)
  rounds := h.rounds

/-! ## 5. Whole runs -/

/-- The reports of a run are those on its outcomes. -/
theorem mem_declarationReports {run : Run} {g : Registry} {d : DeclarationReport} :
    d ∈ run.declarationReports g ↔ ∃ q n o, (q, n, o) ∈ run.outcomes.entries ∧
      d = .ofOutcome g (run.unresolved.map (·.qualifiedName)) q n o := by
  unfold Run.declarationReports
  rw [List.mem_map]
  constructor
  · rintro ⟨⟨q, n, o⟩, hmem, rfl⟩
    exact ⟨q, n, o, (sortByKey_perm _ _).subset hmem, rfl⟩
  · rintro ⟨q, n, o, hmem, rfl⟩
    exact ⟨(q, n, o), (sortByKey_perm _ _).symm.subset hmem, rfl⟩

/-- The numbers of a report add up. -/
theorem ofReports_adds_up (reports : List DeclarationReport) :
    let counts := Counts.ofReports reports
    counts.total = counts.generated + counts.invalid + counts.failed + counts.unresolved := by
  induction reports with
  | nil => rfl
  | cons r rest ih =>
    have hone : ∀ s : Status, (if (s == .generated) = true then 1 else 0) +
        (if (s == .invalid) = true then 1 else 0) +
        (if (!(s == .generated || s == .invalid || s == .unresolved)) = true then 1 else 0) +
        (if (s == .unresolved) = true then 1 else 0) = 1 := by
      intro s
      cases s <;> rfl
    have hone := hone r.status
    simp only [Counts.ofReports, List.length_cons, List.countP_cons] at ih ⊢
    omega

/-- A report counts as many builders as there are artifacts. -/
theorem Account.counts_generated {marker : String} {names : List String} {s : State σ}
    (h : Account marker names s) (cancelled : Bool) (g : Registry) :
    (Counts.ofReports ((finish s cancelled).run.declarationReports g)).generated =
      s.run.artifacts.length := by
  have hentry : ∀ e ∈ s.run.outcomes.entries,
      ((DeclarationReport.ofOutcome g (s.pending.map (·.qualifiedName)) e.1 e.2.1 e.2.2).status ==
        Status.generated) = (e.2.2.status == .generated) := by
    rintro ⟨q, n, o⟩ he
    have ho := Table.get?_of_mem h.keys he
    have hwaiting := h.waits_iff ho
    unfold DeclarationReport.ofOutcome
    dsimp only
    split
    · next hleft =>
      have hwaits : o.status = .deferred := by
        rcases Bool.or_eq_true_iff.mp hleft with hq | hd
        · exact hwaiting.mp (by simpa using hq)
        · simpa using hd
      rw [hwaits]
      rfl
    · rfl
  have hsources : ((s.run.outcomes.entries.filter (·.2.2.status == .generated)).map (·.1)).Perm
      (s.run.artifacts.map (·.source)) := by
    refine (List.perm_ext_iff_of_nodup (h.keys.sublist (List.filter_sublist.map _)) h.sources).mpr ?_
    intro q
    rw [h.artifacts]
    constructor
    · intro hq
      obtain ⟨⟨q, n, o⟩, he, rfl⟩ := List.mem_map.mp hq
      obtain ⟨he, hstatus⟩ := List.mem_filter.mp he
      exact ⟨n, o, Table.get?_of_mem h.keys he, by simpa using hstatus⟩
    · rintro ⟨n, o, ho, hstatus⟩
      exact List.mem_map.mpr ⟨_, List.mem_filter.mpr ⟨Table.mem_of_get? ho, by simp [hstatus]⟩, rfl⟩
  have hcount : (Counts.ofReports ((finish s cancelled).run.declarationReports g)).generated =
      s.run.outcomes.entries.countP (·.2.2.status == .generated) := by
    refine List.countP_map.trans (((sortByKey_perm _ _).countP_eq _).trans ?_)
    exact List.countP_congr fun e he => by
      rw [← hentry e he]
      rfl
  rw [hcount, List.countP_eq_length_filter, ← List.length_map (f := (·.1)), hsources.length_eq,
    List.length_map]

/-- Every run over loaded sources that nothing aborts ends, and in the end it accounts for all the
declarations that its rounds found reported. The numbers of its report add up, and its manifest has as
many entries as were generated. -/
theorem run_conserves (henv : env.Answers) (profile : Profile) {g : Registry} (hg : g.Loaded)
    (world : σ) : ∃ s world', Rounds.run env profile g world = (.ok s, world') ∧
      Conserved (reported env profile (max 1 profile.maxRounds.toNat) 1 ⟨g, world, [], .empty⟩)
        s.run ∧
      ∀ sourceRoot outputDirectory check sourceErrors,
        let counts := (Report.ofRun profile sourceRoot outputDirectory check sourceErrors s.run
          s.registry).counts
        counts.total = counts.generated + counts.invalid + counts.failed + counts.unresolved ∧
          counts.generated = (Manifest.ofRun profile s.run).artifacts.length := by
  obtain ⟨s', world', hrun⟩ := loop_ok henv profile (max 1 profile.maxRounds.toNat) 1
    ⟨g, world, [], .empty⟩
  obtain ⟨s, cancelled, rfl, h⟩ := loop_account (.start profile.marker hg.sound world) hrun
  refine ⟨finish s cancelled, world', hrun, h.conserved cancelled, fun _ _ _ _ => ⟨?_, ?_⟩⟩
  · exact ofReports_adds_up _
  · refine (h.counts_generated cancelled _).trans ?_
    unfold Manifest.ofRun Manifest.current
    rw [List.length_map]
    exact (sortByKey_perm _ _).length_eq.symm

/-- A run over one module whose builders are all refused, cancelled after the second attempt. -/
theorem run_conserves_refused :
    let source := "from builder_gen.marker import builder\n\n@builder\nclass Order:\n    total: int\n"
    let g : Registry :=
      ⟨⟨[("shop.order", .ofParsed (.ofText source "shop/order.py") "shop.order" false)]⟩, .empty⟩
    let env : Surroundings Nat :=
      { publish := some fun a n => (.error (.refused ⟨a.module, "no space left"⟩), n + 1)
        cancelled := fun n _ => 2 ≤ n
        workers := 4
        order := fun _ artifacts => artifacts.reverse }
    g.Loaded ∧ env.Answers ∧ ∃ s world', Rounds.run env .standard g 0 = (.ok s, world') ∧
      Conserved (reported env .standard (max 1 Profile.standard.maxRounds.toNat) 1
        ⟨g, 0, [], .empty⟩) s.run := by
  intro source g env
  have hg : g.Loaded := Registry.Loaded.empty.add_ok List.not_mem_nil (encode source)
    "shop/order.py" false
  have henv : env.Answers := by
    rintro send hsend a n e
    cases hsend
    exact fun h => by cases h
  obtain ⟨s, world', hrun, hconserved, -⟩ := run_conserves henv .standard hg 0
  exact ⟨hg, henv, s, world', hrun, hconserved⟩

end Rounds

end FluentBuilders
