import FluentBuilders.Proofs.Rounds.Sending

/-!
Rounds that nobody cuts short, and how a run ends.

1. `Surroundings.Lasting`: a signal that was seen is still there when its round closes.
2. A round that is not cancelled at its end was not cancelled before: all declarations were judged,
   and every artifact was taken to the publisher.
3. `once_closed`: what a round consists of, and what it tells of the round after it.
4. `run_last`: every run ends after one of its rounds, and has as many reports as rounds.
   `run_induct`: what all rounds that a run reaches keep, it has in the end.
-/

namespace FluentBuilders

variable {σ : Type} {env : Surroundings σ}
  {send : Artifact → σ → Except PublishFault Published × σ}

/-! ## 1. Signals that last -/

/-- The round that a moment belongs to. -/
def Moment.round : Moment → Nat
  | .scanning round _ => round
  | .publishing round _ => round
  | .closing round => round

/-- The worlds that publishing leads to from a world. -/
inductive Surroundings.Leads (env : Surroundings σ) (world : σ) : σ → Prop
  | stay : env.Leads world world
  | sent {world' : σ} {send : Artifact → σ → Except PublishFault Published × σ} (a : Artifact) :
    env.publish = some send → env.Leads world world' → env.Leads world (send a world').2

theorem Surroundings.Leads.trans {world₁ world₂ world₃ : σ} (h₁ : env.Leads world₁ world₂)
    (h₂ : env.Leads world₂ world₃) : env.Leads world₁ world₃ := by
  induction h₂ with
  | stay => exact h₁
  | sent a hsend _ ih => exact .sent a hsend ih

/-- A signal that is seen in a round is still there at the end of the round, whatever was published
in the meantime. -/
def Surroundings.Lasting (env : Surroundings σ) : Prop :=
  ∀ world m, env.cancelled world m = true → ∀ world', env.Leads world world' →
    env.cancelled world' (.closing m.round) = true

/-- Where the end of a round sees no signal, nothing in the round did. -/
theorem Surroundings.Lasting.unseen (h : env.Lasting) {world world' : σ}
    (hleads : env.Leads world world') {m : Moment}
    (hclosing : env.cancelled world' (.closing m.round) = false) :
    env.cancelled world m = false := by
  cases hseen : env.cancelled world m with
  | false => rfl
  | true => rw [h world m hseen world' hleads] at hclosing; cases hclosing

/-! ## 2. Publishing to the end -/

section Publishing

variable {round : Nat} {a : Artifact} {artifacts : List Artifact} {d d' : Delivery}
  {world world' : σ}

theorem publishOne_leads (hsend : env.publish = some send)
    (h : publishOne env send round a d world = (.ok d', world')) : env.Leads world world' := by
  have hsent : env.Leads world (send a world).2 := .sent a hsend .stay
  unfold publishOne at h
  split at h
  · cases h
    exact .stay
  · generalize send a world = r at h hsent
    split at h
    · cases h
      exact hsent
    · cases h
      exact hsent
    · cases h

theorem publishInTurn_leads (hsend : env.publish = some send)
    (h : publishInTurn env send round artifacts d world = (.ok d', world')) :
    env.Leads world world' := by
  induction artifacts generalizing d world with
  | nil =>
    cases h
    exact .stay
  | cons a rest ih =>
    unfold publishInTurn at h
    split at h
    · next hone => exact (publishOne_leads hsend hone).trans (ih h)
    · cases h

/-- A publication that no signal meets puts nothing off. -/
theorem publishInTurn_whole (hlasting : env.Lasting) (hsend : env.publish = some send)
    (hclosing : env.cancelled world' (.closing round) = false) (hd : d.Whole)
    (h : publishInTurn env send round artifacts d world = (.ok d', world')) : d'.Whole := by
  induction artifacts generalizing d world with
  | nil =>
    cases h
    exact hd
  | cons a rest ih =>
    have hunseen : env.cancelled world (.publishing round a) = false :=
      hlasting.unseen (publishInTurn_leads hsend h) hclosing
    unfold publishInTurn at h
    split at h
    · next d₁ world₁ hone =>
      refine ih ?_ h
      unfold publishOne at hone
      rw [hunseen, if_neg Bool.false_ne_true] at hone
      split at hone
      · cases hone
        exact hd
      · cases hone
        intro m hm
        rw [Delivery.fail, Table.get?_insert] at hm
        split at hm
        · cases hm
        · exact hd m hm
      · cases hone
    · cases h

/-- A round is published in some order, one artifact after the other. -/
theorem publishRound_inTurn (h : publishRound env round artifacts world = (.ok d, world')) :
    (env.publish = none ∧ d = .empty ∧ world' = world) ∨
      ∃ send order, env.publish = some send ∧
        publishInTurn env send round order .empty world = (.ok d, world') := by
  unfold publishRound at h
  split at h
  · next hdry =>
    cases h
    exact .inl ⟨hdry, rfl, rfl⟩
  · next send hsend =>
    split at h
    · exact .inr ⟨send, artifacts, hsend, h⟩
    · exact .inr ⟨send, _, hsend, publishAll_iff.mp h⟩

theorem publishRound_leads (h : publishRound env round artifacts world = (.ok d, world')) :
    env.Leads world world' := by
  rcases publishRound_inTurn h with ⟨-, -, rfl⟩ | ⟨send, order, hsend, h⟩
  · exact .stay
  · exact publishInTurn_leads hsend h

theorem publishRound_whole (hlasting : env.Lasting)
    (hclosing : env.cancelled world' (.closing round) = false)
    (h : publishRound env round artifacts world = (.ok d, world')) : d.Whole := by
  rcases publishRound_inTurn h with ⟨-, rfl, -⟩ | ⟨send, order, hsend, h⟩
  · exact Delivery.whole_empty
  · exact publishInTurn_whole hlasting hsend hclosing Delivery.whole_empty h

end Publishing

/-- In a whole delivery no outcome is put off. -/
theorem Delivery.Whole.isPutOff {d : Delivery} (h : d.Whole) (o : Outcome) :
    o.isPutOff d.failures = false := by
  unfold Outcome.isPutOff
  cases o.artifactModule with
  | none => rfl
  | some m =>
    rw [Option.bind_some, beq_eq_false_iff_ne]
    exact h m

/-! ## 3. A round and its end -/

namespace Rounds

variable {profile : Profile} {g : Registry} {world world' : σ} {round : Nat} {s s' : State σ}
  {next : Next}

/-- The state in which a round is closed. -/
def closing (marker : String) (s : State σ) (world : σ) : State σ :=
  { s with registry := (s.registry.report marker).2, world := world }

/-- A round publishes the artifacts of its scan, closes, and looks what follows. -/
theorem once_closed (h : once env profile round s = (.ok (s', next), world)) :
    ∃ delivery moved,
      publishRound env round (scanOf env profile.marker round s).artifacts s.world =
        (.ok delivery, world) ∧
      close round (s.pending.map (·.qualifiedName)) (scanOf env profile.marker round s) delivery
        (closing profile.marker s world) = (s', moved) ∧
      next = Rounds.next env profile.maxRounds round moved s' := by
  unfold once at h
  dsimp only at h
  split at h
  · cases h
  · next delivery world₁ hround =>
    cases h
    exact ⟨delivery, _, hround, rfl, rfl⟩

theorem once_closes {delivery : Delivery}
    (h : publishRound env round (scanOf env profile.marker round s).artifacts s.world =
      (.ok delivery, world)) :
    ∃ s' moved,
      close round (s.pending.map (·.qualifiedName)) (scanOf env profile.marker round s) delivery
        (closing profile.marker s world) = (s', moved) ∧
      once env profile round s =
        (.ok (s', Rounds.next env profile.maxRounds round moved s'), world) := by
  refine ⟨_, _, rfl, ?_⟩
  unfold scanOf answering at h
  unfold once
  dsimp only
  rw [h]
  rfl

/-- A round leaves the outcomes of its scan, settled by what became of their builders. -/
theorem once_outcome {delivery : Delivery} {moved : Bool}
    (hclose : close round (s.pending.map (·.qualifiedName)) (scanOf env profile.marker round s)
      delivery (closing profile.marker s world) = (s', moved))
    {o : Outcome} (ho : o ∈ (scanOf env profile.marker round s).outcomes) :
    s'.run.outcomes.get? o.qualifiedName = some (round, o.settle delivery.failures) := by
  rw [show s' = _ from (congrArg Prod.fst hclose).symm]
  exact scanOf_get? s.run delivery.failures ho

/-- A round that is not cancelled judges all of its declarations and takes every artifact to the
publisher. -/
theorem once_uncut (hlasting : env.Lasting)
    (h : once env profile round s = (.ok (s', next), world)) (hnext : next ≠ .cancelled) :
    ∃ delivery moved, delivery.Whole ∧
      close round (s.pending.map (·.qualifiedName)) (scanOf env profile.marker round s) delivery
        (closing profile.marker s world) = (s', moved) ∧
      next = Rounds.next env profile.maxRounds round moved s' ∧
      ∀ done, env.cancelled s.world (.scanning round done) = false := by
  obtain ⟨delivery, moved, hround, hclose, rfl⟩ := once_closed h
  have hworld : s'.world = world := (congrArg (·.1.world) hclose).symm
  have hclosing : env.cancelled world (.closing round) = false := by
    unfold Rounds.next at hnext
    rw [hworld] at hnext
    cases hseen : env.cancelled world (.closing round) with
    | false => rfl
    | true =>
      rw [hseen, if_pos rfl] at hnext
      exact absurd rfl hnext
  exact ⟨delivery, moved, publishRound_whole hlasting hclosing hround, hclose, rfl,
    fun done => hlasting.unseen (publishRound_leads hround) hclosing⟩

/-- Every round adds one report. -/
theorem Stepped.rounds (h : Stepped env profile round s s') :
    s'.run.rounds.length = s.run.rounds.length + 1 := by
  obtain ⟨_, _, -, -, -, -, hrounds⟩ := h.settled
  rw [hrounds, List.length_append, List.length_singleton]

/-! ## 4. The end of a run -/

theorem Reaches.rounds (h : Reaches env profile g world round s) :
    s.run.rounds.length + 1 = round := by
  induction h with
  | start => rfl
  | again _ honce ih => rw [(once_stepped honce).1.rounds, ih]

/-- Rounds that end well have a last one. -/
theorem loop_last {fuel : Nat} (hreaches : Reaches env profile g world round s)
    (hfuel : round + fuel = max 1 profile.maxRounds.toNat)
    (h : loop env profile (fuel + 1) round s = (.ok s', world')) :
    ∃ last before after next, Reaches env profile g world last before ∧
      once env profile last before = (.ok (after, next), world') ∧
      (next = .stop ∧ s' = finish after false ∨ next = .cancelled ∧ s' = finish after true) := by
  induction fuel generalizing round s with
  | zero =>
    unfold loop at h
    split at h
    · cases h
    · next honce =>
      cases h
      exact ⟨round, s, _, _, hreaches, honce, .inr ⟨rfl, rfl⟩⟩
    · next honce =>
      cases h
      exact ⟨round, s, _, _, hreaches, honce, .inl ⟨rfl, rfl⟩⟩
    · next honce =>
      -- the last round is not followed by another one
      have hmore := (once_stepped honce).2 rfl
      omega
  | succ fuel ih =>
    rw [loop] at h
    split at h
    · cases h
    · next honce =>
      cases h
      exact ⟨round, s, _, _, hreaches, honce, .inr ⟨rfl, rfl⟩⟩
    · next honce =>
      cases h
      exact ⟨round, s, _, _, hreaches, honce, .inl ⟨rfl, rfl⟩⟩
    · next honce => exact ih (hreaches.again honce) (by omega) h

/-- A run ends after its last round, of which it has the last report. -/
theorem run_last (h : Rounds.run env profile g world = (.ok s, world')) :
    ∃ last before after next, Reaches env profile g world last before ∧
      once env profile last before = (.ok (after, next), world') ∧
      (next = .stop ∧ s = finish after false ∨ next = .cancelled ∧ s = finish after true) ∧
      s.run.rounds.length = last := by
  obtain ⟨fuel, hfuel, hloop⟩ := Reaches.run_eq (.start : Reaches env profile g world 1 _)
  obtain ⟨last, before, after, next, hreaches, honce, hnext⟩ :=
    loop_last .start hfuel (hloop.symm.trans h)
  refine ⟨last, before, after, next, hreaches, honce, hnext, ?_⟩
  have hrounds := (once_stepped honce).1.rounds
  rw [hreaches.rounds] at hrounds
  rcases hnext with ⟨-, rfl⟩ | ⟨-, rfl⟩
  · exact hrounds
  · exact hrounds

/-- What a run starts with, what each of its rounds keeps and its end leaves, a run has in the end. -/
theorem run_induct {Q : State σ → Prop} (hstart : Q ⟨g, world, [], .empty⟩)
    (hstep : ∀ {round s s' next world'}, Reaches env profile g world round s → Q s →
      once env profile round s = (.ok (s', next), world') → Q s')
    (hfinish : ∀ s cancelled, Q s → Q (finish s cancelled))
    (h : Rounds.run env profile g world = (.ok s, world')) : Q s := by
  have hreached : ∀ {round s}, Reaches env profile g world round s → Q s := by
    intro round s hreaches
    induction hreaches with
    | start => exact hstart
    | again hbefore honce ih => exact hstep hbefore ih honce
  obtain ⟨last, before, after, next, hreaches, honce, hnext, -⟩ := run_last h
  have hafter := hstep hreaches (hreached hreaches) honce
  rcases hnext with ⟨-, rfl⟩ | ⟨-, rfl⟩
  · exact hfinish after false hafter
  · exact hfinish after true hafter

end Rounds

end FluentBuilders
