import FluentBuilders.Proofs.Publication
import FluentBuilders.Proofs.Rounds.Completion
import FluentBuilders.Proofs.Rounds.Pool
import FluentBuilders.Proofs.Rounds.Sending

/-!
Rounds whose artifacts are published in a pool, and rounds whose artifacts are published one after the
other.

1. `Delivery.gather`: the delivery that answers come to. It does not depend on their order
   (`gather_perm`).
2. `publishInTurn_gathers`: publishing one after the other gathers the answers that each artifact gets
   alone.
3. `Worker.Delivers`: what a pool can deliver, whatever the order of its steps. That is what publishing
   one after the other delivers (`delivers_same`).
4. `Rounds.Goes`: runs where publishing may have more than one result. `goes_same`: where each of the
   results is that of publishing one after the other, so is the run.
-/

namespace FluentBuilders

variable {σ κ τ : Type}

/-! ## 1. Gathering answers -/

namespace Delivery

variable {d d' e : Delivery} {a b : Artifact} {r q : Except PublishFault Published}

/-- The delivery with the answer to one more artifact. -/
def enter (d : Delivery) (a : Artifact) : Except PublishFault Published → Except Failure Delivery
  | .ok p => .ok (d.deliver a.module p)
  | .error (.refused f) => .ok (d.fail a.module (.failed f))
  | .error (.aborted e) => .error e

/-- The delivery with the answers to further artifacts. -/
def gather : List (Artifact × Except PublishFault Published) → Delivery → Except Failure Delivery
  | [], d => .ok d
  | (a, r) :: rest, d => (d.enter a r).bind (gather rest)

/-- Two deliveries say the same of every module. -/
structure Same (d e : Delivery) : Prop where
  done : ∀ m, d.done.get? m = e.done.get? m
  failures : ∀ m, d.failures.get? m = e.failures.get? m

theorem Same.refl (d : Delivery) : d.Same d := ⟨fun _ => rfl, fun _ => rfl⟩

theorem Same.symm (h : d.Same e) : e.Same d := ⟨fun m => (h.done m).symm, fun m => (h.failures m).symm⟩

theorem Same.trans {f : Delivery} (h : d.Same e) (h' : e.Same f) : d.Same f :=
  ⟨fun m => (h.done m).trans (h'.done m), fun m => (h.failures m).trans (h'.failures m)⟩

/-- The same answer goes into the same deliveries. -/
theorem Same.enter (h : d.Same e) (hd : d.enter a r = .ok d') :
    ∃ e', e.enter a r = .ok e' ∧ d'.Same e' := by
  unfold Delivery.enter at hd
  split at hd
  · cases hd
    refine ⟨_, rfl, fun m => ?_, h.failures⟩
    rw [deliver, deliver, Table.get?_insert, Table.get?_insert, h.done m]
  · cases hd
    refine ⟨_, rfl, h.done, fun m => ?_⟩
    rw [fail, fail, Table.get?_insert, Table.get?_insert, h.failures m]
  · cases hd

/-- Answers for two modules go into a delivery in either order. -/
theorem enter_enter (hab : a.module ≠ b.module) {d₁ d₂ : Delivery} (h₁ : d.enter a r = .ok d₁)
    (h₂ : d₁.enter b q = .ok d₂) :
    ∃ e₁ e₂, d.enter b q = .ok e₁ ∧ e₁.enter a r = .ok e₂ ∧ d₂.Same e₂ := by
  have hinserts : ∀ {α : Type} (t : Table α) (x y : α) (m : String),
      ((t.insert a.module x).insert b.module y).get? m =
        ((t.insert b.module y).insert a.module x).get? m := by
    intro α t x y m
    simp only [Table.get?_insert]
    split
    · next hb => rw [if_neg (fun ha => hab (ha.trans hb.symm))]
    · rfl
  unfold Delivery.enter at h₁ h₂ ⊢
  split at h₁ <;> cases h₁ <;> split at h₂ <;> cases h₂
  · exact ⟨_, _, rfl, rfl, hinserts _ _ _, fun _ => rfl⟩
  · exact ⟨_, _, rfl, rfl, fun _ => rfl, fun _ => rfl⟩
  · exact ⟨_, _, rfl, rfl, fun _ => rfl, fun _ => rfl⟩
  · exact ⟨_, _, rfl, rfl, fun _ => rfl, hinserts _ _ _⟩

theorem gather_cons {rest : List (Artifact × Except PublishFault Published)} :
    gather ((a, r) :: rest) d = .ok d' ↔ ∃ d₁, d.enter a r = .ok d₁ ∧ gather rest d₁ = .ok d' := by
  rw [gather]
  cases d.enter a r with
  | ok d₁ => simp [Except.bind]
  | error e => simp [Except.bind]

variable {answers answers' : List (Artifact × Except PublishFault Published)}

theorem gather_same (h : d.Same e) (hd : gather answers d = .ok d') :
    ∃ e', gather answers e = .ok e' ∧ d'.Same e' := by
  induction answers generalizing d e with
  | nil =>
    cases hd
    exact ⟨e, rfl, h⟩
  | cons x rest ih =>
    obtain ⟨d₁, hd₁, hrest⟩ := gather_cons.mp hd
    obtain ⟨e₁, he₁, hsame⟩ := h.enter hd₁
    obtain ⟨e', hrest', hsame'⟩ := ih hsame hrest
    exact ⟨e', gather_cons.mpr ⟨e₁, he₁, hrest'⟩, hsame'⟩

/-- **What answers come to does not depend on the order in which they come.** -/
theorem gather_perm (hperm : answers.Perm answers') (hmodules : (answers.map (·.1.module)).Nodup)
    (hd : gather answers d = .ok d') : ∃ e', gather answers' d = .ok e' ∧ d'.Same e' := by
  induction hperm generalizing d d' with
  | nil => exact ⟨d', hd, .refl d'⟩
  | cons x _ ih =>
    obtain ⟨d₁, hd₁, hrest⟩ := gather_cons.mp hd
    obtain ⟨e', hrest', hsame⟩ := ih (List.nodup_cons.mp hmodules).2 hrest
    exact ⟨e', gather_cons.mpr ⟨d₁, hd₁, hrest'⟩, hsame⟩
  | swap x y rest =>
    obtain ⟨d₁, hd₁, hmore⟩ := gather_cons.mp hd
    obtain ⟨d₂, hd₂, hrest⟩ := gather_cons.mp hmore
    have hne : y.1.module ≠ x.1.module := fun heq =>
      (List.nodup_cons.mp hmodules).1 (List.mem_cons.mpr (.inl heq))
    obtain ⟨e₁, e₂, he₁, he₂, hsame⟩ := enter_enter hne hd₁ hd₂
    obtain ⟨e', hrest', hsame'⟩ := gather_same hsame hrest
    exact ⟨e', gather_cons.mpr ⟨e₁, he₁, gather_cons.mpr ⟨e₂, he₂, hrest'⟩⟩, hsame'⟩
  | trans hfirst _ ih₁ ih₂ =>
    obtain ⟨e₁, he₁, hsame₁⟩ := ih₁ hmodules hd
    obtain ⟨e₂, he₂, hsame₂⟩ := ih₂ ((hfirst.map _).nodup_iff.mp hmodules) he₁
    exact ⟨e₂, he₂, hsame₁.trans hsame₂⟩

end Delivery

/-! ## 2. One after the other -/

/-- Surroundings that publish one artifact after the other and never cancel. -/
def Surroundings.inTurn (send : Artifact → σ → Except PublishFault Published × σ) : Surroundings σ where
  publish := some send
  cancelled := fun _ _ => false
  workers := 1
  order := fun _ artifacts => artifacts

theorem Surroundings.inTurn_steady (send : Artifact → σ → Except PublishFault Published × σ) :
    (inTurn send).Steady send :=
  ⟨rfl, fun _ _ => rfl, fun _ _ => .refl _⟩

section InTurn

variable {env env' : Surroundings σ} {send : Artifact → σ → Except PublishFault Published × σ}
  {W : Worker σ κ} {Fits : Artifact → Prop} {view : σ → τ} {Good : σ → Prop} {round : Nat}
  {artifacts : List Artifact} {d d' : Delivery} {world world' : σ}

theorem publishInTurn_cons (henv : env.Steady send) {a : Artifact} {rest : List Artifact} :
    publishInTurn env send round (a :: rest) d world = (.ok d', world') ↔
      ∃ d₁, d.enter a (send a world).1 = .ok d₁ ∧
        publishInTurn env send round rest d₁ (send a world).2 = (.ok d', world') := by
  rw [publishInTurn]
  unfold publishOne
  rw [henv.never, if_neg Bool.false_ne_true]
  rcases send a world with ⟨r, w⟩
  rcases r with (f | e) | p <;> simp [Delivery.enter]

/-- Publishing one after the other gathers the answers that the artifacts get alone. -/
theorem publishInTurn_gathers (hW : W.Separate Fits view) (henv : env.Steady W.send)
    (hfresh : Worker.Apart Fits (W.fresh artifacts)) :
    publishInTurn env W.send round artifacts d world = (.ok d', world') ↔
      Delivery.gather (W.answers (W.fresh artifacts) world) d = .ok d' ∧
        W.complete (W.fresh artifacts) world = world' := by
  induction artifacts generalizing d world with
  | nil => simp [publishInTurn, Worker.fresh, Worker.answers, Worker.complete, Delivery.gather]
  | cons a rest ih =>
    have hanswers : W.answers (W.fresh (a :: rest)) world =
        (a, (W.send a world).1) :: W.answers (W.fresh rest) (W.send a world).2 :=
      congrArg ((a, (W.send a world).1) :: ·) (hW.answers_finish hfresh world).symm
    have hworld : W.complete (W.fresh (a :: rest)) world =
        W.complete (W.fresh rest) (W.send a world).2 := rfl
    rw [publishInTurn_cons henv, hanswers, hworld, Delivery.gather_cons]
    constructor
    · rintro ⟨d₁, hd₁, hrest⟩
      obtain ⟨hgather, hlast⟩ := (ih hfresh.tail).mp hrest
      exact ⟨⟨d₁, hd₁, hgather⟩, hlast⟩
    · rintro ⟨⟨d₁, hd₁, hgather⟩, hlast⟩
      exact ⟨d₁, hd₁, (ih hfresh.tail).mpr ⟨hgather, hlast⟩⟩

/-- In good worlds, a worker that is left alone publishes fit artifacts as `send` does. -/
structure Worker.Performs (W : Worker σ κ) (Fits : Artifact → Prop) (Good : σ → Prop)
    (send : Artifact → σ → Except PublishFault Published × σ) : Prop where
  alone : ∀ a world, Fits a → Good world → W.send a world = send a world
  good : ∀ a world, Fits a → Good world → Good (send a world).2

theorem publishInTurn_performs (hsend : W.Performs Fits Good send) (henv : env.Steady send)
    (henv' : env'.Steady W.send) (hfits : ∀ a ∈ artifacts, Fits a) (hworld : Good world) :
    (publishInTurn env send round artifacts d world = (.ok d', world') ↔
      publishInTurn env' W.send round artifacts d world = (.ok d', world')) ∧
    (publishInTurn env send round artifacts d world = (.ok d', world') → Good world') := by
  induction artifacts generalizing d world with
  | nil =>
    refine ⟨.rfl, fun h => ?_⟩
    cases h
    exact hworld
  | cons a rest ih =>
    have ha := hfits a List.mem_cons_self
    have hrest := fun d₁ => ih (d := d₁) (fun b hb => hfits b (List.mem_cons_of_mem _ hb))
      (hsend.good a world ha hworld)
    rw [publishInTurn_cons henv, publishInTurn_cons henv', hsend.alone a world ha hworld]
    refine ⟨exists_congr fun d₁ => and_congr_right fun _ => (hrest d₁).1, ?_⟩
    rintro ⟨d₁, -, h⟩
    exact (hrest d₁).2 h

/-- What publishing one after the other gathers from a good world. -/
theorem publishInTurn_answers (hW : W.Separate Fits view) (hsend : W.Performs Fits Good send)
    (henv : env.Steady send) (hfresh : Worker.Apart Fits (W.fresh artifacts)) (hworld : Good world)
    (h : publishInTurn env send round artifacts d world = (.ok d', world')) :
    Delivery.gather (W.answers (W.fresh artifacts) world) d = .ok d' ∧
      W.complete (W.fresh artifacts) world = world' ∧ Good world' := by
  have hfits : ∀ a ∈ artifacts, Fits a := fun a ha =>
    hfresh.fits (a, W.start) (List.mem_map_of_mem (f := fun a => (a, W.start)) ha)
  obtain ⟨hiff, hgood⟩ :=
    publishInTurn_performs hsend henv (Surroundings.inTurn_steady W.send) hfits hworld
  obtain ⟨hgather, hlast⟩ :=
    (publishInTurn_gathers hW (Surroundings.inTurn_steady W.send) hfresh).mp (hiff.mp h)
  exact ⟨hgather, hlast, hgood h⟩

end InTurn

/-! ## 3. What a pool delivers -/

/-- What publishing the artifacts of a round can deliver, and the world that it can leave: a single
artifact, and all of them where there is a single worker, are published one after the other; otherwise
the steps of a pool come in any order. -/
inductive Worker.Delivers (W : Worker σ κ) (workers : Int) (round : Nat) (artifacts : List Artifact)
    (world : σ) : Delivery → σ → Prop
  | inTurn {d : Delivery} {world' : σ} : (workers ≤ 1 || artifacts.length ≤ 1) = true →
    publishInTurn (.inTurn W.send) W.send round artifacts .empty world = (.ok d, world') →
    Delivers W workers round artifacts world d world'
  | pool {d : Delivery} {p : Pool σ κ} : (workers ≤ 1 || artifacts.length ≤ 1) = false →
    Pool.Reaches W workers.toNat (.start artifacts world) p → p.Over →
    Delivery.gather p.collected .empty = .ok d →
    Delivers W workers round artifacts world d p.world

section Deliveries

variable {env : Surroundings σ} {send : Artifact → σ → Except PublishFault Published × σ}
  {W : Worker σ κ} {Fits : Artifact → Prop} {view : σ → τ} {Good : σ → Prop} {round : Nat}
  {artifacts : List Artifact} {d : Delivery} {world world₁ world' : σ} {workers : Int}

theorem answers_modules (W : Worker σ κ) (artifacts : List Artifact) (world : σ) :
    (W.answers (W.fresh artifacts) world).map (·.1.module) = (W.fresh artifacts).map (·.1.module) := by
  unfold Worker.answers
  rw [List.map_map]
  rfl

/-- A pool that is over has collected what publishing one after the other gathers. -/
theorem over_same (hW : W.Separate Fits view) (hfresh : Worker.Apart Fits (W.fresh artifacts))
    (hd : Delivery.gather (W.answers (W.fresh artifacts) world) .empty = .ok d) {p : Pool σ κ}
    {n : Nat} (h : Pool.Reaches W n (.start artifacts world) p) (hover : p.Over) :
    (∃ d', Delivery.gather p.collected .empty = .ok d' ∧ d'.Same d) ∧
      view p.world = view (W.complete (W.fresh artifacts) world) := by
  obtain ⟨hanswers, hworld⟩ := h.over hW hfresh hover
  have hmodules := hfresh.modules
  rw [← answers_modules W artifacts world] at hmodules
  obtain ⟨d', hd', hsame⟩ := Delivery.gather_perm hanswers.symm hmodules hd
  exact ⟨⟨d', hd', hsame.symm⟩, hworld⟩

/-- From a world that looks the same, a pool delivers what publishing one after the other does. -/
theorem delivers_same (hW : W.Separate Fits view) (hfresh : Worker.Apart Fits (W.fresh artifacts))
    (hlike : view world₁ = view world)
    (hd : Delivery.gather (W.answers (W.fresh artifacts) world) .empty = .ok d) :
    (∃ d' world', W.Delivers workers round artifacts world₁ d' world') ∧
      ∀ d' world', W.Delivers workers round artifacts world₁ d' world' →
        d'.Same d ∧ view world' = view (W.complete (W.fresh artifacts) world) := by
  have hd₁ := hd
  rw [← hW.answers_alike hfresh hlike] at hd₁
  have hcomplete := hW.complete_alike hfresh hlike
  have hturn : ∀ d' world',
      publishInTurn (.inTurn W.send) W.send round artifacts .empty world₁ = (.ok d', world') ↔
        Delivery.gather (W.answers (W.fresh artifacts) world₁) .empty = .ok d' ∧
          W.complete (W.fresh artifacts) world₁ = world' := fun _ _ =>
    publishInTurn_gathers hW (Surroundings.inTurn_steady W.send) hfresh
  constructor
  · cases hgate : (workers ≤ 1 || artifacts.length ≤ 1 : Bool) with
    | true => exact ⟨_, _, .inTurn hgate ((hturn d _).mpr ⟨hd₁, rfl⟩)⟩
    | false =>
      have hworkers : 0 < workers.toNat := by
        simp only [Bool.or_eq_false_iff, decide_eq_false_iff_not] at hgate
        omega
      obtain ⟨p, hp, hover⟩ := Pool.reaches_end hW hworkers (.start artifacts world₁)
      obtain ⟨⟨d', hd', -⟩, -⟩ := over_same hW hfresh hd₁ hp hover
      exact ⟨_, _, .pool hgate hp hover hd'⟩
  · intro d' world' h
    cases h with
    | inTurn _ h =>
      obtain ⟨hgather, rfl⟩ := (hturn d' world').mp h
      cases hd₁.symm.trans hgather
      exact ⟨.refl d, hcomplete⟩
    | pool _ hp hover hd' =>
      obtain ⟨⟨d₂, hd₂, hsame⟩, hworld⟩ := over_same hW hfresh hd₁ hp hover
      cases hd'.symm.trans hd₂
      exact ⟨hsame, hworld.trans hcomplete⟩

/-- Publishing a round in any order of its artifacts delivers what publishing one after the other
does. -/
theorem publishRound_same (hW : W.Separate Fits view) (hsend : W.Performs Fits Good send)
    (henv : env.Steady send) (hfresh : Worker.Apart Fits (W.fresh artifacts))
    (hlike : view world₁ = view world) (hworld : Good world₁)
    (hd : Delivery.gather (W.answers (W.fresh artifacts) world) .empty = .ok d) :
    ∃ d' world', publishRound env round artifacts world₁ = (.ok d', world') ∧ d'.Same d ∧
      view world' = view (W.complete (W.fresh artifacts) world) ∧ Good world' := by
  have hperm : (W.fresh artifacts).Perm (W.fresh (batch env round artifacts)) :=
    (batch_perm henv round artifacts).symm.map _
  have hbatch := hfresh.perm hperm
  have hmodules := hfresh.modules
  rw [← answers_modules W artifacts world] at hmodules
  obtain ⟨d', hd', hsame⟩ := Delivery.gather_perm (hperm.map _) hmodules hd
  rw [show List.map _ _ = W.answers (W.fresh (batch env round artifacts)) world from rfl,
    ← hW.answers_alike hbatch hlike] at hd'
  have hfits : ∀ a ∈ batch env round artifacts, Fits a := fun a ha =>
    hbatch.fits (a, W.start) (List.mem_map_of_mem (f := fun a => (a, W.start)) ha)
  have hturn : publishInTurn (.inTurn W.send) W.send round (batch env round artifacts) .empty world₁ =
      (.ok d', W.complete (W.fresh (batch env round artifacts)) world₁) :=
    (publishInTurn_gathers hW (Surroundings.inTurn_steady W.send) hbatch).mpr ⟨hd', rfl⟩
  obtain ⟨hiff, hgood⟩ :=
    publishInTurn_performs hsend henv (Surroundings.inTurn_steady W.send) hfits hworld
  have hround := hiff.mpr hturn
  refine ⟨d', _, (publishRound_iff henv).mpr hround, hsame.symm, ?_, hgood hround⟩
  exact (hW.complete_alike hbatch hlike).trans (hW.complete_perm hfresh hperm world)

end Deliveries

/-! ## 4. Runs -/

/-- What publishing the artifacts of a round in a world can deliver, with the world that it leaves. -/
def Publishing (σ : Type) : Type := Nat → List Artifact → σ → Delivery → σ → Prop

/-- What publishing in given surroundings delivers. -/
def Surroundings.publishing (env : Surroundings σ) : Publishing σ :=
  fun round artifacts world d world' => publishRound env round artifacts world = (.ok d, world')

/-- From worlds with `Inv`, publishing delivers what publishing one after the other delivers from good
worlds that look the same. -/
structure Publishing.LikeInTurn (publishing : Publishing σ)
    (send : Artifact → σ → Except PublishFault Published × σ) (view : σ → τ) (Good Inv : σ → Prop) :
    Prop where
  same : ∀ {round : Nat} {artifacts : List Artifact} {world₁ world world' : σ} {d : Delivery},
    (artifacts.map (·.module)).Nodup → (∀ a ∈ artifacts, IsModuleName a.module) →
    view world₁ = view world → Good world → Inv world₁ →
    publishInTurn (.inTurn send) send round artifacts .empty world = (.ok d, world') →
    Good world' ∧ (∃ d₁ world₁', publishing round artifacts world₁ d₁ world₁') ∧
      ∀ d₁ world₁', publishing round artifacts world₁ d₁ world₁' →
        d₁.Same d ∧ view world₁' = view world' ∧ Inv world₁'

section LikeInTurn

variable {env : Surroundings σ} {send : Artifact → σ → Except PublishFault Published × σ}
  {W : Worker σ κ} {view : σ → τ} {Good : σ → Prop} {artifacts : List Artifact}

theorem fresh_apart (W : Worker σ κ) (hmodules : (artifacts.map (·.module)).Nodup)
    (hnames : ∀ a ∈ artifacts, IsModuleName a.module) :
    Worker.Apart (fun a => IsModuleName a.module) (W.fresh artifacts) := by
  refine ⟨fun job hjob => ?_, ?_⟩
  · obtain ⟨a, ha, rfl⟩ := List.mem_map.mp hjob
    exact hnames a ha
  · unfold Worker.fresh
    rw [List.map_map]
    exact hmodules

/-- Pools of separate publishers deliver what publishing one after the other delivers. -/
theorem delivers_likeInTurn (hW : W.Separate (fun a => IsModuleName a.module) view)
    (hsend : W.Performs (fun a => IsModuleName a.module) Good send) (workers : Int) :
    Publishing.LikeInTurn (W.Delivers workers) send view Good fun _ => True where
  same hmodules hnames hlike hgood _ hturn := by
    have hfresh := fresh_apart W hmodules hnames
    obtain ⟨hgather, rfl, hgood'⟩ := publishInTurn_answers hW hsend
      (Surroundings.inTurn_steady send) hfresh hgood hturn
    obtain ⟨hexists, hall⟩ := delivers_same hW hfresh hlike hgather
    refine ⟨hgood', hexists, fun d₁ world₁ h => ?_⟩
    obtain ⟨hsame, hview⟩ := hall d₁ world₁ h
    exact ⟨hsame, hview, trivial⟩

/-- So does publishing in any order of the artifacts. -/
theorem publishing_likeInTurn (hW : W.Separate (fun a => IsModuleName a.module) view)
    (hsend : W.Performs (fun a => IsModuleName a.module) Good send) (henv : env.Steady send) :
    env.publishing.LikeInTurn send view Good Good where
  same hmodules hnames hlike hgood hgood₁ hturn := by
    have hfresh := fresh_apart W hmodules hnames
    obtain ⟨hgather, rfl, hgood'⟩ := publishInTurn_answers hW hsend
      (Surroundings.inTurn_steady send) hfresh hgood hturn
    obtain ⟨d', world', hround, hall⟩ :=
      publishRound_same hW hsend henv hfresh hlike hgood₁ hgather
    refine ⟨hgood', ⟨d', world', hround⟩, fun d₁ world₁ h => ?_⟩
    cases hround.symm.trans h
    exact hall

end LikeInTurn

/-- The artifacts of a scan stand in modules of their own, whose names are those of files. -/
theorem Scan.run_modules (r : Resolver) (signal : List Declaration → Bool)
    (pending fresh : List Declaration) :
    ((Scan.run r signal pending fresh).artifacts.map (·.module)).Nodup ∧
      ∀ a ∈ (Scan.run r signal pending fresh).artifacts, IsModuleName a.module := by
  refine ⟨(Scan.through_modules r signal [] Table.empty _).1, fun a ha => ?_⟩
  obtain ⟨d, -, hgenerate⟩ := Scan.through_made _ _ _ _ ha
  exact generate_isModuleName hgenerate

namespace Rounds

variable {env : Surroundings σ} {send : Artifact → σ → Except PublishFault Published × σ}
  {publishing : Publishing σ} {profile : Profile} {view : σ → τ} {Good Inv : σ → Prop}
  {round fuel : Nat} {s s' s₁ s₁' : State σ} {world world₁ : σ}

/-- A round sees of a delivery only what it says of modules. -/
theorem close_same {d e : Delivery} (h : d.Same e) (round : Nat) (waiting : List String) (scan : Scan)
    (s : State σ) : close round waiting scan d s = close round waiting scan e s := by
  have hfailures : d.failures.get? = e.failures.get? := funext h.failures
  have hdone : d.done.get? = e.done.get? := funext h.done
  have hsettle : Outcome.settle d.failures = Outcome.settle e.failures := by
    funext o
    rw [Outcome.settle, Outcome.settle, hfailures]
  have hputOff : Outcome.isPutOff d.failures = Outcome.isPutOff e.failures := by
    funext o
    rw [Outcome.isPutOff, Outcome.isPutOff, hfailures]
  have hcontains : d.failures.contains = e.failures.contains := by
    funext m
    rw [Table.contains, Table.contains, hfailures]
  have hfeed : ∀ (g : Registry) (artifacts : List Artifact),
      g.feedAll d.done artifacts = g.feedAll e.done artifacts := by
    intro g artifacts
    induction artifacts generalizing g with
    | nil => rfl
    | cons a rest ih =>
      rw [Registry.feedAll, Registry.feedAll, hdone]
      dsimp only
      rw [ih]
  unfold close Run.addArtifacts
  dsimp only
  rw [hsettle, hputOff, hcontains, hfeed, hdone]

/-- Two states differ at most in what is not seen of their worlds. -/
structure Twins (view : σ → τ) (s₁ s : State σ) : Prop where
  registry : s₁.registry = s.registry
  pending : s₁.pending = s.pending
  run : s₁.run = s.run
  world : view s₁.world = view s.world

theorem Twins.refl (view : σ → τ) (s : State σ) : Twins view s s := ⟨rfl, rfl, rfl, rfl⟩

theorem Twins.finish (h : Twins view s₁ s) (cancelled : Bool) :
    Twins view (finish s₁ cancelled) (finish s cancelled) := by
  refine ⟨h.registry, h.pending, ?_, h.world⟩
  unfold Rounds.finish
  rw [h.run, h.pending]

theorem Twins.closing (h : Twins view s₁ s) (marker : String) (hworld : view world₁ = view world) :
    Twins view (closing marker s₁ world₁) (closing marker s world) := by
  refine ⟨?_, h.pending, h.run, hworld⟩
  unfold Rounds.closing
  rw [h.registry]

theorem Twins.close (h : Twins view s₁ s) (round : Nat) (waiting : List String) (scan : Scan)
    (d : Delivery) :
    Twins view (close round waiting scan d s₁).1 (close round waiting scan d s).1 ∧
      (close round waiting scan d s₁).2 = (close round waiting scan d s).2 := by
  unfold Rounds.close
  dsimp only
  rw [h.registry, h.run]
  exact ⟨⟨rfl, rfl, rfl, h.world⟩, rfl⟩

/-- The rounds of `loop` as long as nobody cancels them, where publishing may have several results. -/
inductive Goes (env : Surroundings σ) (profile : Profile) (publishing : Publishing σ) :
    Nat → Nat → State σ → State σ → Prop
  | out {round : Nat} {s : State σ} : Goes env profile publishing 0 round s (finish s false)
  | stop {fuel round : Nat} {s s₁ : State σ} {d : Delivery} {world : σ} {moved : Bool} :
    publishing round (scanOf env profile.marker round s).artifacts s.world d world →
    close round (s.pending.map (·.qualifiedName)) (scanOf env profile.marker round s) d
      (closing profile.marker s world) = (s₁, moved) →
    next env profile.maxRounds round moved s₁ = .stop →
    Goes env profile publishing (fuel + 1) round s (finish s₁ false)
  | again {fuel round : Nat} {s s₁ s₂ : State σ} {d : Delivery} {world : σ} {moved : Bool} :
    publishing round (scanOf env profile.marker round s).artifacts s.world d world →
    close round (s.pending.map (·.qualifiedName)) (scanOf env profile.marker round s) d
      (closing profile.marker s world) = (s₁, moved) →
    next env profile.maxRounds round moved s₁ = .again →
    Goes env profile publishing fuel (round + 1) s₁ s₂ →
    Goes env profile publishing (fuel + 1) round s s₂

/-- Rounds that nobody cancels are those of `loop`. -/
theorem goes_iff (hnever : ∀ world m, env.cancelled world m = false) :
    Goes env profile env.publishing fuel round s s' ↔
      loop env profile fuel round s = (.ok s', s'.world) := by
  constructor
  · intro h
    induction h with
    | out => rfl
    | stop hround hclose hnext =>
      obtain ⟨s₁, moved, hclose', honce⟩ := once_closes hround
      cases hclose'.symm.trans hclose
      rw [loop, honce, hnext, show (finish _ false).world = _ from
        (congrArg (·.1.world) hclose).symm]
      rfl
    | again hround hclose hnext _ ih =>
      obtain ⟨s₁, moved, hclose', honce⟩ := once_closes hround
      cases hclose'.symm.trans hclose
      rw [loop, honce, hnext]
      exact ih
  · intro h
    induction fuel generalizing round s with
    | zero =>
      cases h
      exact .out
    | succ fuel ih =>
      unfold loop at h
      split at h
      · cases h
      · next honce =>
        obtain ⟨d, moved, -, -, hnext⟩ := once_closed honce
        unfold next at hnext
        rw [hnever, if_neg Bool.false_ne_true] at hnext
        split at hnext <;> cases hnext
      · next honce =>
        cases h
        obtain ⟨d, moved, hround, hclose, hnext⟩ := once_closed honce
        exact .stop hround hclose hnext.symm
      · next honce =>
        obtain ⟨d, moved, hround, hclose, hnext⟩ := once_closed honce
        exact .again hround hclose hnext.symm (ih h)

/-- A round of twins, where the second publishes one artifact after the other. -/
theorem Twins.step (h : Twins view s₁ s) (hnever : ∀ world m, env.cancelled world m = false)
    (hlike : publishing.LikeInTurn send view Good Inv) (hgood : Good s.world) (hinv : Inv s₁.world)
    {d : Delivery} (hround : (Surroundings.inTurn send).publishing round
      (scanOf (.inTurn send) profile.marker round s).artifacts s.world d world)
    {moved : Bool} (hclose : Rounds.close round (s.pending.map (·.qualifiedName))
      (scanOf (.inTurn send) profile.marker round s) d (Rounds.closing profile.marker s world) =
        (s', moved)) :
    Good s'.world ∧
      (∃ d₁ world₁, publishing round (scanOf env profile.marker round s₁).artifacts s₁.world d₁
        world₁) ∧
      ∀ d₁ world₁ s₁' moved₁,
        publishing round (scanOf env profile.marker round s₁).artifacts s₁.world d₁ world₁ →
        Rounds.close round (s₁.pending.map (·.qualifiedName)) (scanOf env profile.marker round s₁) d₁
          (Rounds.closing profile.marker s₁ world₁) = (s₁', moved₁) →
        Twins view s₁' s' ∧ Inv s₁'.world ∧ next env profile.maxRounds round moved₁ s₁' =
          next (.inTurn send) profile.maxRounds round moved s' := by
  have hscan : scanOf env profile.marker round s₁ =
      scanOf (.inTurn send) profile.marker round s := by
    unfold scanOf answering
    rw [h.registry, h.pending, show (fun done => env.cancelled s₁.world (.scanning round done)) =
      fun _ => false from funext fun _ => hnever _ _]
    rfl
  obtain ⟨hnodup, hnames⟩ := Scan.run_modules (answering profile.marker s)
    (fun _ => false) s.pending (s.registry.report profile.marker).1
  have hturn := (publishRound_iff (Surroundings.inTurn_steady send)).mp hround
  obtain ⟨hgood', hexists, hall⟩ := hlike.same hnodup hnames h.world hgood hinv hturn
  rw [hscan]
  have hworld : s'.world = world := (congrArg (·.1.world) hclose).symm
  refine ⟨hworld ▸ hgood', hexists, fun d₁ world₁ s₁' moved₁ hround₁ hclose₁ => ?_⟩
  obtain ⟨hsame, hview, hinv'⟩ := hall d₁ world₁ hround₁
  have hworld₁ : s₁'.world = world₁ := (congrArg (·.1.world) hclose₁).symm
  rw [close_same hsame, h.pending] at hclose₁
  obtain ⟨htwins, hmoved⟩ := (h.closing profile.marker hview).close round
    (s.pending.map (·.qualifiedName)) (scanOf (.inTurn send) profile.marker round s) d
  rw [hclose₁, hclose] at htwins hmoved
  dsimp only at htwins hmoved
  refine ⟨htwins, hworld₁ ▸ hinv', ?_⟩
  unfold next
  rw [hnever, htwins.pending, hmoved]
  rfl

/-- **Where publishing delivers what publishing one after the other does, a run is the same.** -/
theorem goes_same (hturn : Goes (.inTurn send) profile (Surroundings.inTurn send).publishing fuel round
      s s')
    (hnever : ∀ world m, env.cancelled world m = false)
    (hlike : publishing.LikeInTurn send view Good Inv) (h : Twins view s₁ s) (hgood : Good s.world)
    (hinv : Inv s₁.world) :
    (∃ s₁', Goes env profile publishing fuel round s₁ s₁') ∧
      ∀ s₁', Goes env profile publishing fuel round s₁ s₁' → Twins view s₁' s' := by
  induction hturn generalizing s₁ with
  | out =>
    refine ⟨⟨_, .out⟩, fun s₁' h₁ => ?_⟩
    cases h₁
    exact h.finish false
  | stop hround hclose hnext =>
    obtain ⟨-, ⟨d₁, world₁, hround₁⟩, hall⟩ := h.step hnever hlike hgood hinv hround hclose
    constructor
    · obtain ⟨-, -, hnext₁⟩ := hall d₁ world₁ _ _ hround₁ rfl
      exact ⟨_, .stop hround₁ rfl (hnext₁.trans hnext)⟩
    · intro s₁' h₁
      cases h₁ with
      | stop hround₁ hclose₁ _ => exact (hall _ _ _ _ hround₁ hclose₁).1.finish false
      | again hround₁ hclose₁ hagain _ =>
        have hnext₁ := (hall _ _ _ _ hround₁ hclose₁).2.2
        rw [hagain, hnext] at hnext₁
        cases hnext₁
  | again hround hclose hnext _ ih =>
    obtain ⟨hgood', ⟨d₁, world₁, hround₁⟩, hall⟩ := h.step hnever hlike hgood hinv hround hclose
    constructor
    · obtain ⟨htwins, hinv', hnext₁⟩ := hall d₁ world₁ _ _ hround₁ rfl
      obtain ⟨s₂, hrest⟩ := (ih htwins hgood' hinv').1
      exact ⟨s₂, .again hround₁ rfl (hnext₁.trans hnext) hrest⟩
    · intro s₁' h₁
      cases h₁ with
      | stop hround₁ hclose₁ hstop =>
        have hnext₁ := (hall _ _ _ _ hround₁ hclose₁).2.2
        rw [hstop, hnext] at hnext₁
        cases hnext₁
      | again hround₁ hclose₁ _ hrest =>
        obtain ⟨htwins, hinv', -⟩ := hall _ _ _ _ hround₁ hclose₁
        exact (ih htwins hgood' hinv').2 _ hrest

end Rounds

end FluentBuilders
