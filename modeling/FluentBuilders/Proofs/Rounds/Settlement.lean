import Mathlib.Data.List.Perm.Basic
import FluentBuilders.Proofs.Registry
import FluentBuilders.Proofs.Scan
import FluentBuilders.Rounds

/-!
What is left of a round once its artifacts were published.

1. `Settled`: the outcomes of a round, those whose builders have no place rewritten, still account for
   what waits and what was made.
2. Publishing ends in a delivery where nothing aborts it.
3. `Registry.Grows`: feeding builders back adds modules and takes none away.
4. `Rounds.Stepped`: what a round does, `Rounds.DryStep`: what it does without a publisher, and
   `loop_induct`: what every round keeps, rounds keep.
-/

namespace FluentBuilders

open Text

/-! ## 1. Settled outcomes -/

/-- The settled outcomes of a round over `ds` account for what waits and for the artifacts that are
kept. -/
structure Settled (ds : List Declaration) (outcomes : List Outcome) (pending : List Declaration)
    (artifacts : List Artifact) : Prop where
  declarations : outcomes.map (·.declaration) = ds
  status : ∀ o ∈ outcomes, o.status ≠ .unresolved
  pending : pending.Perm ((outcomes.filter (·.status == .deferred)).map (·.declaration))
  artifacts : List.Forall₂ Outcome.Makes (outcomes.filter (·.status == .generated)) artifacts

theorem Settled.names {ds : List Declaration} {outcomes : List Outcome}
    {pending : List Declaration} {artifacts : List Artifact}
    (h : Settled ds outcomes pending artifacts) :
    outcomes.map Outcome.qualifiedName = ds.map (·.qualifiedName) := by
  rw [← h.declarations, List.map_map]
  rfl

namespace Outcome

variable {o : Outcome}

@[simp] theorem settle_declaration (failures : Table Unpublished) (o : Outcome) :
    (o.settle failures).declaration = o.declaration := by
  unfold settle
  split <;> rfl

@[simp] theorem settle_qualifiedName (failures : Table Unpublished) (o : Outcome) :
    (o.settle failures).qualifiedName = o.qualifiedName :=
  congrArg Declaration.qualifiedName (o.settle_declaration failures)

/-- What settling does to an outcome, by what became of its builder. -/
theorem settle_cases (failures : Table Unpublished) (ho : o.Sound) :
    (o.settle failures = o ∧ o.isPutOff failures = false ∧
        (o.status = .generated → o.artifactModule.bind failures.get? = none)) ∨
      (o.status = .generated ∧ (o.settle failures).status = .deferred ∧
        o.isPutOff failures = true) ∨
      (o.status = .generated ∧ (o.settle failures).status = .failed ∧
        o.isPutOff failures = false) := by
  cases hm : o.artifactModule.bind failures.get? with
  | none => exact .inl ⟨by rw [settle, hm], by rw [isPutOff, hm]; rfl, fun _ => rfl⟩
  | some u =>
    have hgenerated : o.status = .generated := by
      refine ho.module.mp ?_
      cases h : o.artifactModule with
      | none => rw [h] at hm; cases hm
      | some m => rfl
    cases u with
    | cancelled =>
      refine .inr (.inl ⟨hgenerated, ?_, ?_⟩)
      · rw [settle, hm]
        rfl
      · rw [isPutOff, hm]
        rfl
    | failed f =>
      refine .inr (.inr ⟨hgenerated, ?_, ?_⟩)
      · rw [settle, hm]
      · rw [isPutOff, hm]
        rfl

theorem settle_status {failures : Table Unpublished} (ho : o.Sound) :
    (o.settle failures).status ≠ .unresolved := by
  rcases settle_cases failures ho with ⟨e, -⟩ | ⟨-, e, -⟩ | ⟨-, e, -⟩
  · rw [e]
    exact ho.status
  · rw [e]
    decide
  · rw [e]
    decide

end Outcome

/-- Two properties that exclude each other pick items one after the other. -/
theorem filter_or_perm {α : Type} {p q : α → Bool} {l : List α}
    (h : ∀ a ∈ l, p a = true → q a = false) :
    (l.filter p ++ l.filter q).Perm (l.filter fun a => p a || q a) := by
  induction l with
  | nil => exact .nil
  | cons a rest ih =>
    have ih := ih fun b hb => h b (List.mem_cons_of_mem _ hb)
    have ha := h a List.mem_cons_self
    cases hp : p a with
    | true =>
      simp only [List.filter_cons, hp, ha hp, if_true, Bool.true_or, Bool.false_eq_true, if_false,
        List.cons_append]
      exact ih.cons a
    | false =>
      cases hq : q a with
      | true =>
        simp only [List.filter_cons, hp, hq, Bool.false_eq_true, if_false, if_true, Bool.false_or]
        exact List.perm_middle.trans (ih.cons a)
      | false =>
        simpa only [List.filter_cons, hp, hq, Bool.false_eq_true, if_false, Bool.false_or] using ih

/-- Settled outcomes are put off where they were put off before or by what became of their builders. -/
theorem filter_settle_deferred (failures : Table Unpublished) {os : List Outcome}
    (hsound : ∀ o ∈ os, o.Sound) :
    (os.map (Outcome.settle failures)).filter (·.status == .deferred) =
      (os.filter fun o => o.status == .deferred || o.isPutOff failures).map
        (Outcome.settle failures) := by
  rw [List.filter_map]
  refine congrArg _ (List.filter_congr fun o ho => ?_)
  rcases Outcome.settle_cases failures (hsound o ho) with
    ⟨e, e', -⟩ | ⟨e, e', e''⟩ | ⟨e, e', e''⟩
  · simp [e, e']
  · simp [e', e'']
  · simp [e, e', e'']

/-- Settled outcomes have a builder where it was made and nothing became of it but its place. -/
theorem filter_settle_generated (failures : Table Unpublished) (os : List Outcome) :
    (os.map (Outcome.settle failures)).filter (·.status == .generated) =
      (os.filter (·.status == .generated)).filter
        fun o => (o.artifactModule.bind failures.get?).isNone := by
  rw [List.filter_map, List.filter_filter]
  have hsame : ∀ o : Outcome, ((o.settle failures).status == Status.generated) =
      ((o.artifactModule.bind failures.get?).isNone && o.status == .generated) ∧
      ((o.settle failures).status = .generated → o.settle failures = o) := by
    intro o
    unfold Outcome.settle
    split
    · next hm => simp [hm]
    · next hm => simp [hm, Outcome.cancelled, Outcome.without]
    · next hm => simp [hm]
  have hkept : os.filter ((·.status == .generated) ∘ Outcome.settle failures) =
      os.filter fun o => (o.artifactModule.bind failures.get?).isNone && o.status == .generated :=
    List.filter_congr fun o _ => (hsame o).1
  rw [hkept]
  refine (List.map_congr_left (g := id) fun o ho => ?_).trans (List.map_id _)
  obtain ⟨-, hstatus⟩ := List.mem_filter.mp ho
  refine (hsame o).2 ?_
  rw [← (hsame o).1] at hstatus
  simpa using hstatus

theorem Scan.Accounts.settled {ds : List Declaration} {s : Scan} (h : s.Accounts ds)
    (failures : Table Unpublished) :
    Settled ds (s.outcomes.map (Outcome.settle failures))
      (s.pending ++ (s.outcomes.filter (Outcome.isPutOff failures)).map (·.declaration))
      (s.artifacts.filter fun a => !failures.contains a.module) where
  declarations := by
    rw [List.map_map, ← h.declarations]
    exact List.map_congr_left fun o _ => o.settle_declaration failures
  status o ho := by
    obtain ⟨before, hbefore, rfl⟩ := List.mem_map.mp ho
    exact Outcome.settle_status (h.sound before hbefore)
  pending := by
    rw [filter_settle_deferred failures h.sound, h.pending, ← List.map_append, List.map_map]
    have hback : ∀ l : List Outcome, l.map ((·.declaration) ∘ Outcome.settle failures) =
        l.map (·.declaration) := fun l =>
      List.map_congr_left fun o _ => o.settle_declaration failures
    rw [hback]
    refine (filter_or_perm fun o ho hd => ?_).map _
    rcases Outcome.settle_cases failures (h.sound o ho) with
      ⟨-, e, -⟩ | ⟨e, -⟩ | ⟨-, -, e⟩
    · exact e
    · rw [e] at hd
      cases hd
    · exact e
  artifacts := by
    rw [filter_settle_generated]
    refine List.rel_filter ?_ h.artifacts
    intro o a hmakes
    simp only [hmakes.module, Option.bind_some, Table.contains, Bool.not_eq_true',
      Option.isNone_iff_eq_none, Option.isSome_eq_false_iff]

/-- The artifacts that are kept are those whose modules have not failed. -/
theorem mem_kept {failures : Table Unpublished} {artifacts : List Artifact} {a : Artifact} :
    a ∈ artifacts.filter (fun a => !failures.contains a.module) ↔
      a ∈ artifacts ∧ a.module ∉ failures.keys := by
  rw [List.mem_filter, Bool.not_eq_true', ← Bool.not_eq_true, Table.contains_iff]

/-! ## 2. Publishing -/

section Publishing

variable {σ : Type} (env : Surroundings σ)
  {send : Artifact → σ → Except PublishFault Published × σ}

/-- Every artifact is published or refused: nothing aborts the run. -/
def Surroundings.Answers (env : Surroundings σ) : Prop :=
  ∀ send, env.publish = some send → ∀ a world e, (send a world).1 ≠ .error (.aborted e)

theorem publishOne_ok (hsend : ∀ a world e, (send a world).1 ≠ .error (.aborted e)) (round : Nat)
    (a : Artifact) (d : Delivery) (world : σ) :
    ∃ d' world', publishOne env send round a d world = (.ok d', world') := by
  unfold publishOne
  split
  · exact ⟨_, _, rfl⟩
  split
  · exact ⟨_, _, rfl⟩
  · exact ⟨_, _, rfl⟩
  · next e world' h => exact absurd (congrArg Prod.fst h) (hsend a world e)

theorem publishInTurn_ok (hsend : ∀ a world e, (send a world).1 ≠ .error (.aborted e))
    (round : Nat) (artifacts : List Artifact) (d : Delivery) (world : σ) :
    ∃ d' world', publishInTurn env send round artifacts d world = (.ok d', world') := by
  induction artifacts generalizing d world with
  | nil => exact ⟨d, world, rfl⟩
  | cons a rest ih =>
    obtain ⟨d₁, world₁, h⟩ := publishOne_ok env hsend round a d world
    unfold publishInTurn
    rw [h]
    exact ih d₁ world₁

theorem publishAll_ok (hsend : ∀ a world e, (send a world).1 ≠ .error (.aborted e))
    (round : Nat) (artifacts : List Artifact) (d : Delivery) (world : σ) :
    ∃ d' world', publishAll env send round artifacts d world = (.ok d', world') := by
  induction artifacts generalizing d world with
  | nil => exact ⟨d, world, rfl⟩
  | cons a rest ih =>
    obtain ⟨d₁, world₁, h⟩ := publishOne_ok env hsend round a d world
    unfold publishAll
    rw [h]
    exact ih d₁ world₁

/-- A round is always delivered where nothing aborts it. -/
theorem publishRound_ok {env : Surroundings σ} (henv : env.Answers) (round : Nat)
    (artifacts : List Artifact) (world : σ) :
    ∃ d world', publishRound env round artifacts world = (.ok d, world') := by
  unfold publishRound
  split
  · exact ⟨_, _, rfl⟩
  · next send hsend =>
    split
    · exact publishInTurn_ok env (henv send hsend) ..
    · exact publishAll_ok env (henv send hsend) ..

end Publishing

/-! ## 3. Feeding builders back -/

namespace Registry

/-- What feeding builders to a registry keeps: it stays sound, its modules stay in front, and nothing
is reported. -/
structure Grows (g g' : Registry) : Prop where
  sound : g.Sound → g'.Sound
  cursors : g'.cursors = g.cursors
  modules : g.modules.entries <+: g'.modules.entries

namespace Grows

variable {g g₁ g₂ : Registry}

theorem refl (g : Registry) : Grows g g := ⟨id, rfl, List.prefix_rfl⟩

theorem trans (h₁ : Grows g g₁) (h₂ : Grows g₁ g₂) : Grows g g₂ :=
  ⟨h₂.sound ∘ h₁.sound, h₂.cursors.trans h₁.cursors, h₁.modules.trans h₂.modules⟩

theorem addBytes {content : Bytes} {module path : String} {isPackage : Bool}
    (h : g.addBytes content module path isPackage = .ok g₁) : Grows g g₁ := by
  refine ⟨fun hg => hg.addBytes h, ?_, ?_⟩
  · obtain ⟨-, rfl⟩ := addBytes_eq h
    rfl
  · rw [addBytes_entries h]
    exact List.prefix_append ..

/-- What was searched stays searched. -/
theorem searched (h : Grows g g₁) {marker m : String} (hm : m ∈ g.searched marker) :
    m ∈ g₁.searched marker := by
  obtain ⟨more, e⟩ := h.modules
  unfold Registry.searched names Table.keys cursor at hm ⊢
  rw [h.cursors, ← e, List.map_append, List.take_append]
  exact List.mem_append_left _ hm

theorem classAt? (h : Grows g g₁) {key : ClassKey} {r : SymbolTable × ClassInfo}
    (hr : g.classAt? key = some r) : g₁.classAt? key = some r := by
  obtain ⟨more, e⟩ := h.modules
  unfold Registry.classAt? at hr ⊢
  split at hr
  · cases hr
  · next t ht =>
    have ht' : g₁.module? key.module = some t := by
      unfold module? Table.get?
      rw [← e]
      exact Table.find_append ht more
    rw [ht']
    exact hr

theorem names (h : Grows g g₁) {m : String} (hm : m ∈ g.names) : m ∈ g₁.names := by
  obtain ⟨more, e⟩ := h.modules
  unfold Registry.names Table.keys
  rw [← e, List.map_append]
  exact List.mem_append_left _ hm

end Grows

theorem feed_grows (g : Registry) (a : Artifact) (place : Option Published) :
    Grows g (g.feed a place).1 := by
  unfold feed
  split
  · next h => exact .addBytes h
  · exact .refl g

/-- A builder that was fed is there, or another module of its name is. -/
theorem feed_names (g : Registry) (a : Artifact) (place : Option Published) :
    a.module ∈ (g.feed a place).1.names := by
  by_cases hmem : a.module ∈ g.names
  · exact (feed_grows g a place).names hmem
  · obtain ⟨g', h⟩ := addBytes_ok hmem (encode a.text) ((place.map (·.path)).getD a.module) false
    unfold feed addText
    rw [h]
    obtain ⟨-, rfl⟩ := addBytes_eq h
    exact (Table.mem_keys_insert ..).mpr (.inl rfl)

theorem feedAll_grows (g : Registry) (done : Table Published) (artifacts : List Artifact) :
    Grows g (g.feedAll done artifacts).1 := by
  induction artifacts generalizing g with
  | nil => exact .refl g
  | cons a rest ih => exact (feed_grows g a _).trans (ih _)

theorem feedAll_names (g : Registry) (done : Table Published) {artifacts : List Artifact}
    {a : Artifact} (ha : a ∈ artifacts) : a.module ∈ (g.feedAll done artifacts).1.names := by
  induction artifacts generalizing g with
  | nil => cases ha
  | cons b rest ih =>
    rcases List.mem_cons.mp ha with rfl | ha
    · exact (feedAll_grows _ done rest).names (feed_names g a _)
    · exact ih _ ha

/-- A builder under a free name goes in. -/
theorem feedAll_pos (g : Registry) (done : Table Published) {a : Artifact} (rest : List Artifact)
    (h : a.module ∉ g.names) : 0 < (g.feedAll done (a :: rest)).2 := by
  obtain ⟨g', hadd⟩ := addBytes_ok h (encode a.text) (((done.get? a.module).map (·.path)).getD a.module)
    false
  unfold feedAll feed addText
  rw [hadd]
  simp

end Registry

/-! ## 4. Rounds -/

namespace Rounds

variable {σ : Type} {env : Surroundings σ} {profile : Profile}

/-- The declarations that a round works on. -/
def work (marker : String) (s : State σ) : List Declaration :=
  candidates s.pending (s.registry.report marker).1

theorem mem_work {marker : String} {s : State σ} {d : Declaration} (h : d ∈ work marker s) :
    d ∈ s.pending ∨ d ∈ (s.registry.report marker).1 :=
  List.mem_append.mp ((firstOfEach_sublist ..).subset h)

/-- What answers for the declarations of a round. -/
def answering (marker : String) (s : State σ) : Resolver := (s.registry.report marker).2.resolver

/-- The scan of a round. -/
def scanOf (env : Surroundings σ) (marker : String) (round : Nat) (s : State σ) : Scan :=
  Scan.run (answering marker s) (fun done => env.cancelled s.world (.scanning round done)) s.pending
    (s.registry.report marker).1

theorem scanOf_accounts (env : Surroundings σ) (profile : Profile) (round : Nat) (s : State σ) :
    (scanOf env profile.marker round s).Accounts (work profile.marker s) :=
  Scan.run_accounts ..

section Settled

variable {marker : String} {s : State σ} {os : List Outcome} {pending : List Declaration}
  {kept : List Artifact} {o : Outcome}

/-- No name is worked on twice in a round. -/
theorem settled_nodup (hsettled : Settled (work marker s) os pending kept) :
    (os.map Outcome.qualifiedName).Nodup := by
  rw [hsettled.names]
  exact nodup_firstOfEach _ _

/-- The settled outcomes of a round are found under their names. -/
theorem settled_get? (hsettled : Settled (work marker s) os pending kept) (run : Run) (round : Nat)
    (ho : o ∈ os) : (run.addOutcomes round os).outcomes.get? o.qualifiedName = some (round, o) :=
  Table.get?_inserts_of_mem _ (settled_nodup hsettled) ho

/-- So the outcomes of a scan are found, settled by what became of their builders. -/
theorem scanOf_get? (run : Run) {round : Nat} (failures : Table Unpublished)
    (ho : o ∈ (scanOf env profile.marker round s).outcomes) :
    (run.addOutcomes round ((scanOf env profile.marker round s).outcomes.map
      (Outcome.settle failures))).outcomes.get? o.qualifiedName = some (round, o.settle failures) := by
  rw [← o.settle_qualifiedName failures]
  exact settled_get? ((scanOf_accounts env profile round s).settled failures) run round
    (List.mem_map_of_mem ho)

end Settled

/-- A round settles the outcomes of its scan; what waits, what was made and the registry with it go
into the next state. -/
structure Stepped (env : Surroundings σ) (profile : Profile) (round : Nat) (s s' : State σ) :
    Prop where
  settled : ∃ failures artifacts,
    Settled (work profile.marker s)
      ((scanOf env profile.marker round s).outcomes.map (Outcome.settle failures)) s'.pending
      artifacts ∧
    artifacts.Sublist (scanOf env profile.marker round s).artifacts ∧
    s'.run.outcomes = (s.run.addOutcomes round
      ((scanOf env profile.marker round s).outcomes.map (Outcome.settle failures))).outcomes ∧
    s'.run.artifacts = s.run.artifacts ++ artifacts ∧
    s'.run.rounds = s.run.rounds ++ [.ofOutcomes round (scanOf env profile.marker round s).cancelled
      ((scanOf env profile.marker round s).outcomes.map (Outcome.settle failures))]
  registry : Registry.Grows (s.registry.report profile.marker).2 s'.registry

/-- What a round puts off it has worked on. -/
theorem Stepped.mem_pending {round : Nat} {s s' : State σ} (h : Stepped env profile round s s')
    {d : Declaration} (hd : d ∈ s'.pending) : d ∈ work profile.marker s := by
  obtain ⟨_, _, hsettled, -⟩ := h.settled
  obtain ⟨o, ho, rfl⟩ := List.mem_map.mp (hsettled.pending.subset hd)
  rw [← hsettled.declarations]
  exact List.mem_map_of_mem (List.mem_of_mem_filter ho)

/-- Another round follows only before the last one. -/
theorem next_again {maxRounds : Int} {round : Nat} {moved : Bool} {s : State σ}
    (h : next env maxRounds round moved s = .again) : round < maxRounds := by
  unfold next at h
  split at h
  · cases h
  · split at h
    · cases h
    · next hmore =>
      simp only [Bool.or_eq_true, decide_eq_true_eq, not_or] at hmore
      omega

theorem once_stepped {round : Nat} {s s' : State σ} {next : Next} {world : σ}
    (h : once env profile round s = (.ok (s', next), world)) :
    Stepped env profile round s s' ∧ (next = .again → round < profile.maxRounds) := by
  have haccounts := scanOf_accounts env profile round s
  unfold once at h
  dsimp only at h
  split at h
  · cases h
  · next delivery world' _ =>
    cases h
    refine ⟨⟨⟨delivery.failures, _, haccounts.settled delivery.failures, List.filter_sublist, rfl,
      rfl, rfl⟩, Registry.feedAll_grows ..⟩, next_again⟩

/-- Where nothing aborts it, a round gives a state. -/
theorem once_ok (henv : env.Answers) (profile : Profile) (round : Nat) (s : State σ) :
    ∃ s' next world, once env profile round s = (.ok (s', next), world) := by
  obtain ⟨delivery, world, h⟩ := publishRound_ok henv round
    (scanOf env profile.marker round s).artifacts s.world
  unfold scanOf answering at h
  unfold once
  dsimp only
  rw [h]
  exact ⟨_, _, _, rfl⟩

/-- What a round without a publisher makes of its scan. -/
structure DryStep (env : Surroundings σ) (marker : String) (round : Nat) (s s' : State σ)
    (moved : Bool) : Prop where
  registry : s'.registry = ((s.registry.report marker).2.feedAll .empty
    (scanOf env marker round s).artifacts).1
  world : s'.world = s.world
  pending : s'.pending = (scanOf env marker round s).pending
  artifacts : s'.run.artifacts = s.run.artifacts ++ (scanOf env marker round s).artifacts
  outcomes : s'.run.outcomes =
    (s.run.addOutcomes round (scanOf env marker round s).outcomes).outcomes
  rounds : s'.run.rounds = s.run.rounds ++ [.ofOutcomes round (scanOf env marker round s).cancelled
    (scanOf env marker round s).outcomes]
  unresolved : s'.run.unresolved = s.run.unresolved
  cancelled : s'.run.cancelled = s.run.cancelled
  moved : moved = (decide (0 < ((s.registry.report marker).2.feedAll .empty
      (scanOf env marker round s).artifacts).2) ||
    (scanOf env marker round s).outcomes.any fun o =>
      (s.pending.map (·.qualifiedName)).contains o.qualifiedName && o.status != .deferred)

/-- A round without a publisher keeps all that its scan gives, and goes on as far as it moved. -/
theorem once_dry (hdry : env.publish = none) (profile : Profile) (round : Nat) (s : State σ) :
    ∃ s' moved, once env profile round s =
        (.ok (s', next env profile.maxRounds round moved s'), s.world) ∧
      DryStep env profile.marker round s s' moved := by
  have hkept : ∀ l : List Artifact, l.filter (fun a =>
      !(Table.empty : Table Unpublished).contains a.module) = l := fun l =>
    List.filter_eq_self.mpr fun a _ => rfl
  have hnone : ∀ l : List Outcome, l.filter (Outcome.isPutOff .empty) = [] := fun l =>
    List.filter_eq_nil_iff.mpr fun o _ => by cases h : o.artifactModule <;> simp [Outcome.isPutOff, h]
  have hsettled : ∀ l : List Outcome, l.map (Outcome.settle .empty) = l := fun l =>
    (List.map_congr_left fun o _ => by
      unfold Outcome.settle
      cases o.artifactModule <;> rfl).trans (List.map_id _)
  have hdelivery : publishRound env round (scanOf env profile.marker round s).artifacts s.world =
      (.ok .empty, s.world) := by
    unfold publishRound
    rw [hdry]
  unfold scanOf answering at hdelivery
  unfold once
  dsimp only
  rw [hdelivery]
  refine ⟨_, _, rfl, ?_⟩
  unfold close
  dsimp only [Delivery.empty]
  rw [hkept, hnone, hsettled]
  exact ⟨rfl, rfl, List.append_nil _, rfl, rfl, rfl, rfl, rfl, rfl⟩

/-- A builder that goes in under a free name moves a run. -/
theorem DryStep.moves {round : Nat} {s s' : State σ} {moved : Bool} {marker : String} {a : Artifact}
    {rest : List Artifact} (h : DryStep env marker round s s' moved)
    (hartifacts : (scanOf env marker round s).artifacts = a :: rest)
    (hnew : a.module ∉ s.registry.names) : moved = true := by
  have hfed := Registry.feedAll_pos (s.registry.report marker).2 (.empty : Table Published) rest hnew
  rw [h.moved, hartifacts, decide_eq_true hfed, Bool.true_or]

theorem loop_ok (henv : env.Answers) (profile : Profile) (fuel round : Nat) (s : State σ) :
    ∃ s' world, loop env profile fuel round s = (.ok s', world) := by
  induction fuel generalizing round s with
  | zero => exact ⟨_, _, rfl⟩
  | succ fuel ih =>
    obtain ⟨s₁, next, world, honce⟩ := once_ok henv profile round s
    unfold loop
    rw [honce]
    cases next with
    | again => exact ih (round + 1) s₁
    | stop => exact ⟨_, _, rfl⟩
    | cancelled => exact ⟨_, _, rfl⟩

/-- Rounds start with one, which is the last or goes on with the others. -/
theorem loop_once {fuel round : Nat} {s s' : State σ} {world : σ}
    (h : loop env profile (fuel + 1) round s = (.ok s', world)) :
    ∃ s₁ next world₁, once env profile round s = (.ok (s₁, next), world₁) ∧
      ((∃ cancelled, s' = finish s₁ cancelled) ∨
        loop env profile fuel (round + 1) s₁ = (.ok s', world)) := by
  unfold loop at h
  split at h
  · cases h
  · next honce =>
    cases h
    exact ⟨_, _, _, honce, .inl ⟨true, rfl⟩⟩
  · next honce =>
    cases h
    exact ⟨_, _, _, honce, .inl ⟨false, rfl⟩⟩
  · next honce => exact ⟨_, _, _, honce, .inr h⟩

/-- A round that another follows. -/
theorem loop_again {round : Nat} {s s₁ : State σ} {world : σ}
    (h : once env profile round s = (.ok (s₁, .again), world)) (fuel : Nat) :
    loop env profile (fuel + 1) round s = loop env profile fuel (round + 1) s₁ := by
  rw [loop, h]

/-- What every round keeps holds of the state that rounds end in. -/
theorem loop_induct {Q : Nat → State σ → Prop}
    (hstep : ∀ {round s s' next world}, Q round s →
      once env profile round s = (.ok (s', next), world) → Q (round + 1) s')
    {fuel round : Nat} {s s' : State σ} {world : σ} (h : Q round s)
    (hloop : loop env profile fuel round s = (.ok s', world)) :
    ∃ round' last cancelled, s' = finish last cancelled ∧ Q round' last := by
  induction fuel generalizing round s with
  | zero =>
    cases hloop
    exact ⟨round, s, false, rfl, h⟩
  | succ fuel ih =>
    unfold loop at hloop
    split at hloop
    · cases hloop
    · next honce =>
      cases hloop
      exact ⟨round + 1, _, true, rfl, hstep h honce⟩
    · next honce =>
      cases hloop
      exact ⟨round + 1, _, false, rfl, hstep h honce⟩
    · next honce => exact ih (hstep h honce) hloop

/-- Artifacts stay in their order. -/
theorem loop_artifacts {fuel round : Nat} {s s' : State σ} {world : σ}
    (hloop : loop env profile fuel round s = (.ok s', world)) :
    s.run.artifacts <+: s'.run.artifacts := by
  obtain ⟨-, last, cancelled, rfl, h⟩ := loop_induct
    (Q := fun _ r => s.run.artifacts <+: r.run.artifacts)
    (fun h honce => by
      obtain ⟨⟨⟨_, artifacts, -, -, -, hartifacts, -⟩, -⟩, -⟩ := once_stepped honce
      rw [hartifacts]
      exact h.trans (List.prefix_append ..)) List.prefix_rfl hloop
  exact h

end Rounds

end FluentBuilders
