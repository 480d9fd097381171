import FluentBuilders.Proofs.Rounds.Completion

/-!
Rounds stop only where another round would change nothing.

1. What a declaration waits for: one that is put off is not ready.
2. Feeding builders back: where none goes in, the registry stays as it is.
3. `run_fixed_point`: what a run leaves unresolved lacks something in the registry that the run ends
   with, in which all of its builders are known.
-/

namespace FluentBuilders

/-! ## 1. Declarations that wait -/

/-- Properties that cannot stand where they do are no reason to wait. -/
theorem firstError?_settles {owner : String} {seen : List String} {properties : List Property}
    {e : GenerationError} (h : firstError? owner seen properties = some e) :
    ∀ d symbols, e ≠ .unresolved d symbols := by
  induction properties generalizing seen with
  | nil => cases h
  | cons p rest ih =>
    unfold firstError? at h
    split at h
    · next hp =>
      cases h
      unfold propertyError? at hp
      dsimp only at hp
      split at hp
      · cases hp
        exact fun _ _ e => by cases e
      split at hp
      · cases hp
        exact fun _ _ e => by cases e
      split at hp
      · cases hp
        exact fun _ _ e => by cases e
      · cases hp
    · exact ih h

namespace Registry

variable {g : Registry} {d : Declaration} {claimed : Table String}

/-- A declaration that is not ready lacks something. -/
theorem unresolvedSymbols_ne_nil (h : g.isReady d = false) : g.unresolvedSymbols d ≠ [] := by
  unfold isReady at h
  unfold unresolvedSymbols
  cases hknows : g.knows d with
  | false => simp
  | true => simpa [hknows] using h

/-- The properties of a declaration that is ready are there. -/
theorem properties_of_ready (h : g.isReady d = true) :
    g.resolver.properties d = .ok (g.collect (keyOf d)) := by
  unfold isReady at h
  rw [Bool.and_eq_true] at h
  show g.properties d = _
  unfold properties unresolvedSymbols
  dsimp only
  rw [if_pos h.1, if_pos h.2]

/-- The builder of a declaration that is ready does not wait for symbols. -/
theorem generate_settles (h : g.isReady d = true) {e : Failure}
    (hgenerate : generate g.resolver d = .error e) :
    ∀ owner symbols, e ≠ .generation (.unresolved owner symbols) := by
  intro owner symbols he
  subst he
  unfold generate Declaration.exposed enumerate at hgenerate
  rw [properties_of_ready h] at hgenerate
  dsimp only at hgenerate
  split at hgenerate
  · next hexposed =>
    split at hexposed
    · next henumerate =>
      split at henumerate
      · next hfirst =>
        cases henumerate
        cases hexposed
        cases hgenerate
        exact firstError?_settles hfirst _ _ rfl
      · cases henumerate
    · cases hexposed
  · split at hgenerate
    · cases hgenerate
    · unfold Artifact.record at hgenerate
      split at hgenerate <;> cases hgenerate

/-- Only what is not ready is put off. -/
theorem judge_deferred (h : (judge g.resolver claimed d).1.status = .deferred) :
    g.isReady d = false := by
  cases hready : g.isReady d with
  | false => rfl
  | true =>
    exfalso
    have hgate : ∀ answer reasons, d.gate g.resolver = .ok (answer, reasons) →
        answer ≠ .deferred := by
      intro answer reasons hgate
      unfold Declaration.gate Declaration.isReady at hgate
      split at hgate
      · cases hgate
        exact fun h => by cases h
      · rw [show g.resolver.isReady d = .ok true from congrArg _ hready] at hgate
        cases hgate
        exact fun h => by cases h
    unfold judge at h
    split at h
    · cases h
    · cases h
    · next hdeferred => exact hgate _ _ hdeferred rfl
    · split at h
      · next e hgenerate =>
        have hsettles := generate_settles hready hgenerate
        cases e with
        | generation e =>
          cases e with
          | unresolved owner symbols => exact hsettles owner symbols rfl
          | _ => cases h
        | _ => cases h
      · unfold grant at h
        split at h <;> cases h

end Registry

/-- What a scan puts off is not ready, unless the scan was cut short. -/
theorem Scan.through_deferred {g : Registry} {signal : List Declaration → Bool}
    (hsignal : ∀ done, signal done = false) (done : List Declaration) (claimed : Table String)
    (ds : List Declaration) {o : Outcome}
    (ho : o ∈ (through g.resolver signal done claimed ds).outcomes) (hstatus : o.status = .deferred) :
    g.isReady o.declaration = false := by
  induction ds generalizing done claimed with
  | nil => cases ho
  | cons d rest ih =>
    unfold through at ho
    rw [hsignal, if_neg Bool.false_ne_true] at ho
    have ho : o = (judge g.resolver claimed d).1 ∨ _ := List.mem_cons.mp ho
    rcases ho with rfl | ho
    · rw [(judge_judged g.resolver claimed d).declaration]
      exact Registry.judge_deferred hstatus
    · exact ih _ _ ho

/-! ## 2. Feeding builders back -/

theorem Registry.feed_kept {g : Registry} {a : Artifact} {place : Option Published}
    (h : (g.feed a place).2 = false) : (g.feed a place).1 = g := by
  unfold Registry.feed at h ⊢
  split at h
  · cases h
  · rfl

/-- Where no builder goes in, the registry stays as it is. -/
theorem Registry.feedAll_kept {g : Registry} {done : Table Published} {artifacts : List Artifact}
    (h : (g.feedAll done artifacts).2 = 0) : (g.feedAll done artifacts).1 = g := by
  induction artifacts with
  | nil => rfl
  | cons a rest ih =>
    unfold Registry.feedAll at h ⊢
    dsimp only at h ⊢
    cases hwent : (g.feed a (done.get? a.module)).2 with
    | true =>
      rw [hwent, if_pos rfl] at h
      omega
    | false =>
      rw [hwent, if_neg Bool.false_ne_true] at h
      rw [Registry.feed_kept hwent] at h ⊢
      exact ih h

/-! ## 3. Where runs stop -/

namespace Rounds

variable {σ : Type} {env : Surroundings σ} {profile : Profile} {g : Registry} {world world' : σ}
  {round : Nat} {s s' : State σ} {next : Next}

/-- The builders of a run are modules of its registry. -/
theorem run_fed (h : Rounds.run env profile g world = (.ok s, world')) :
    ∀ a ∈ s.run.artifacts, a.module ∈ s.registry.names := by
  obtain ⟨-, last, cancelled, rfl, hlast⟩ := loop_induct
    (Q := fun _ s => ∀ a ∈ s.run.artifacts, a.module ∈ s.registry.names)
    (fun {round s s' next world} hs honce => by
      obtain ⟨delivery, moved, -, hclose, -⟩ := once_closed honce
      rw [show s' = _ from (congrArg Prod.fst hclose).symm]
      intro a ha
      rcases List.mem_append.mp ha with ha | ha
      · exact (Registry.feedAll_grows _ delivery.done _).names (hs a ha)
      · exact Registry.feedAll_names _ delivery.done ha) (by simp [Run.empty]) h
  exact hlast

/-- A round that moved nothing and was not cancelled leaves a registry in which nothing that waits is
ready. -/
theorem once_still (hlasting : env.Lasting)
    (h : once env profile round s = (.ok (s', .stop), world)) (hmore : round < profile.maxRounds) :
    ∀ d ∈ s'.pending, s'.registry.isReady d = false := by
  intro d hd
  obtain ⟨delivery, moved, hwhole, hclose, hnext, hunseen⟩ := once_uncut hlasting h (by decide)
  -- no builder went in
  have hmoved : moved = false := by
    unfold Rounds.next at hnext
    split at hnext
    · cases hnext
    · split at hnext
      · next hstop =>
        have hpending : s'.pending.isEmpty = false := by
          cases hp : s'.pending with
          | nil => rw [hp] at hd; cases hd
          | cons _ _ => rfl
        have hrounds : ¬ profile.maxRounds ≤ round := by omega
        simpa [hpending, hrounds] using hstop
      · cases hnext
  subst hmoved
  rw [show s' = _ from (congrArg Prod.fst hclose).symm] at hd ⊢
  have hfed := of_decide_eq_false (Bool.or_eq_false_iff.mp (congrArg Prod.snd hclose)).1
  rw [show (close round _ _ delivery (closing profile.marker s world)).1.registry =
    (s.registry.report profile.marker).2 from Registry.feedAll_kept (Nat.eq_zero_of_not_pos hfed)]
  -- what waits was judged by it
  rcases List.mem_append.mp hd with hd | hd
  · rw [(scanOf_accounts env profile round s).pending] at hd
    obtain ⟨o, ho, rfl⟩ := List.mem_map.mp hd
    obtain ⟨ho, hstatus⟩ := List.mem_filter.mp ho
    exact Scan.through_deferred hunseen _ _ _ ho (by simpa using hstatus)
  · obtain ⟨o, ho, -⟩ := List.mem_map.mp hd
    have hputOff := (List.mem_filter.mp ho).2
    rw [hwhole.isPutOff] at hputOff
    cases hputOff

/-- A run that ends before its last round and is not cancelled leaves nothing unresolved that is ready
in the end: each declaration lacks something in the registry that the run ends with, and that holds
all builders of the run. -/
theorem run_fixed_point (hlasting : env.Lasting)
    (h : Rounds.run env profile g world = (.ok s, world')) :
    (∀ a ∈ s.run.artifacts, a.module ∈ s.registry.names) ∧
      (s.run.cancelled = false → s.run.rounds.length < profile.maxRounds →
        ∀ d ∈ s.run.unresolved,
          s.registry.isReady d = false ∧ s.registry.unresolvedSymbols d ≠ []) := by
  refine ⟨run_fed h, fun hcancelled hrounds d hd => ?_⟩
  obtain ⟨last, before, after, next, -, honce, hnext, hlength⟩ := run_last h
  rw [hlength] at hrounds
  have hready : s.registry.isReady d = false := by
    rcases hnext with ⟨rfl, rfl⟩ | ⟨-, rfl⟩
    · exact once_still hlasting honce hrounds d hd
    · cases hcancelled
  exact ⟨hready, Registry.unresolvedSymbols_ne_nil hready⟩

theorem undisturbed_lasting : undisturbed.Lasting := fun _ _ h => by cases h

/-- A class whose annotation names nothing. -/
def waiting : Registry :=
  let source := "from builder_gen.marker import builder\n@builder\nclass Order:\n total: Missing\n"
  ⟨⟨[("shop", .ofParsed (.ofText source "shop.py") "shop" false)]⟩, .empty⟩

set_option maxRecDepth 100000 in
/-- The class waits for what it names, and the run stops after one round. -/
theorem run_fixed_point_waiting : ∃ s, Rounds.run undisturbed .standard waiting () = (.ok s, ()) ∧
    s.run.unresolved.map (·.qualifiedName) = ["shop.Order"] ∧
    ∀ d ∈ s.run.unresolved,
      s.registry.isReady d = false ∧ s.registry.unresolvedSymbols d ≠ [] := by
  have hrun : (match (Rounds.run undisturbed .standard waiting ()).1 with
      | .ok s =>
        (s.run.unresolved.map (·.qualifiedName), s.run.cancelled, s.run.rounds.length)
      | .error _ => ([], true, 0)) = (["shop.Order"], false, 1) := by decide +kernel
  obtain ⟨s, world, h⟩ := loop_ok undisturbed_answers .standard 10 1 ⟨waiting, (), [], .empty⟩
  have h : Rounds.run undisturbed .standard waiting () = (.ok s, ()) := h
  rw [h] at hrun
  simp only [Prod.mk.injEq] at hrun
  refine ⟨s, h, hrun.1, (run_fixed_point undisturbed_lasting h).2 hrun.2.1 ?_⟩
  rw [hrun.2.2]
  decide

end Rounds

end FluentBuilders
