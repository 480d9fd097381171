import Mathlib.Data.List.Forall2
import FluentBuilders.Proofs.Table
import FluentBuilders.Scan

/-!
What one round does to its declarations: each gets one outcome, and the artifacts and the declarations
that wait are told by the outcomes.

1. `generate_source`: an artifact names the declaration that it was made for.
2. `judge`: outcome and artifact of one declaration.
3. `candidates`: the declarations of a round have different names.
4. `Scan.Accounts` and `through_accounts`: the outcomes of a round account for all that it gives.
5. Modules of a round: each is given once, and who comes second is told who came first.
-/

namespace FluentBuilders

/-! ## 1. Artifacts -/

/-- An artifact names the declaration that it was made for, and stands in its module. -/
theorem generate_spec {r : Resolver} {d : Declaration} {a : Artifact} (h : generate r d = .ok a) :
    a.source = d.qualifiedName ∧ a.module = builderModule d.package d.name := by
  unfold generate at h
  split at h
  · cases h
  split at h
  · cases h
  unfold Artifact.record at h
  split at h
  · cases h
  split at h
  · cases h
  · cases h
    exact ⟨rfl, rfl⟩

/-- An artifact depends on the files of its declaration, each once. -/
theorem generate_dependencies {r : Resolver} {d : Declaration} {a : Artifact}
    (h : generate r d = .ok a) :
    ∃ files, r.originatingFiles d = .ok files ∧ a.dependencies = files.eraseDups := by
  unfold generate at h
  split at h
  · cases h
  split at h
  · cases h
  unfold Artifact.record at h
  split at h
  · cases h
  split at h
  · cases h
  · next files hfiles =>
    cases h
    exact ⟨files, hfiles, rfl⟩

/-- The text of an artifact is that of a blueprint without fault. -/
theorem generate_blueprint {r : Resolver} {d : Declaration} {a : Artifact}
    (h : generate r d = .ok a) :
    ∃ properties, d.exposed r = .ok properties ∧ (d.blueprint properties).fault? = none ∧
      a.text = (d.blueprint properties).text := by
  unfold generate at h
  split at h
  · cases h
  next properties hproperties =>
  unfold Blueprint.render at h
  split at h
  · cases h
  next text hrender =>
  split at hrender
  · cases hrender
  next hfault =>
  cases hrender
  refine ⟨properties, hproperties, hfault, ?_⟩
  unfold Artifact.record at h
  split at h
  · cases h
  split at h
  · cases h
  · cases h
    rfl

/-- The properties that a builder exposes are those of its declaration. -/
theorem exposed_spec {r : Resolver} {d : Declaration} {properties : List Property}
    (h : d.exposed r = .ok properties) : r.properties d = .ok properties := by
  unfold Declaration.exposed enumerate at h
  split at h
  · cases h
  next hproperties =>
  split at h
  · cases h
  next henumerate =>
  split at henumerate
  · cases henumerate
  · cases henumerate
    cases h
    exact hproperties

/-- A builder is made where the properties are there and make a usable blueprint. -/
theorem generate_ok {r : Resolver} {d : Declaration} {properties : List Property}
    {files : List FileHandle} (hproperties : d.exposed r = .ok properties)
    (hblueprint : (d.blueprint properties).fault? = none) (hfiles : r.originatingFiles d = .ok files) :
    ∃ a, generate r d = .ok a := by
  unfold generate Blueprint.render Artifact.record
  rw [hproperties]
  dsimp only
  rw [hblueprint]
  simp [hfiles, Declaration.draft]

/-! ## 2. One declaration -/

/-- An outcome and the artifact that it announces. -/
structure Outcome.Makes (o : Outcome) (a : Artifact) : Prop where
  source : a.source = o.qualifiedName
  module : o.artifactModule = some a.module

theorem Outcome.Makes.sources {outcomes : List Outcome} {artifacts : List Artifact}
    (h : List.Forall₂ Outcome.Makes outcomes artifacts) :
    artifacts.map (·.source) = outcomes.map Outcome.qualifiedName := by
  induction h with
  | nil => rfl
  | cons hmakes _ ih => rw [List.map_cons, List.map_cons, ih, hmakes.source]

/-- Every artifact has an outcome that announces it. -/
theorem Outcome.Makes.maker {outcomes : List Outcome} {artifacts : List Artifact}
    (h : List.Forall₂ Outcome.Makes outcomes artifacts) {a : Artifact} (ha : a ∈ artifacts) :
    ∃ o ∈ outcomes, o.Makes a := by
  induction h with
  | nil => cases ha
  | cons hmakes _ ih =>
    rcases List.mem_cons.mp ha with rfl | ha
    · exact ⟨_, List.mem_cons_self, hmakes⟩
    · obtain ⟨o, ho, hmakes⟩ := ih ha
      exact ⟨o, List.mem_cons_of_mem _ ho, hmakes⟩

/-- Each outcome with a builder has an artifact. -/
theorem Outcome.Makes.made {outcomes : List Outcome} {artifacts : List Artifact}
    (h : List.Forall₂ Outcome.Makes outcomes artifacts) {o : Outcome} (ho : o ∈ outcomes) :
    ∃ a ∈ artifacts, o.Makes a := by
  induction h with
  | nil => cases ho
  | cons hmakes _ ih =>
    rcases List.mem_cons.mp ho with rfl | ho
    · exact ⟨_, List.mem_cons_self, hmakes⟩
    · obtain ⟨a, ha, hmakes⟩ := ih ho
      exact ⟨a, List.mem_cons_of_mem _ ha, hmakes⟩

/-- What holds of an outcome by itself: it is not yet left over, and it names a module where a builder
was made and only there. -/
structure Outcome.Sound (o : Outcome) : Prop where
  status : o.status ≠ .unresolved
  module : o.artifactModule.isSome = true ↔ o.status = .generated

theorem Outcome.Sound.without (d : Declaration) {status : Status} (reasons : List String)
    (error : Option String) (h : status ≠ .generated) (h' : status ≠ .unresolved) :
    (Outcome.without d status reasons error).Sound where
  status := h'
  module := ⟨fun e => by simp [Outcome.without] at e, fun e => absurd e h⟩

/-- What the judgement on a declaration consists of. -/
structure Judged (d : Declaration) (r : Outcome × Option Artifact) : Prop where
  declaration : r.1.declaration = d
  sound : r.1.Sound
  artifact : (∃ a, r.2 = some a ∧ r.1.Makes a ∧ r.1.status = .generated ∧
      a.module = builderModule d.package d.name) ∨
    r.2 = none ∧ r.1.status ≠ .generated

theorem Judged.without (d : Declaration) {status : Status} (reasons : List String)
    (error : Option String) (h : status ≠ .generated) (h' : status ≠ .unresolved) :
    Judged d (.without d status reasons error, none) where
  declaration := rfl
  sound := .without d reasons error h h'
  artifact := .inr ⟨rfl, h⟩

theorem grant_judged (claimed : Table String) {d : Declaration} {a : Artifact}
    (h : a.source = d.qualifiedName ∧ a.module = builderModule d.package d.name) :
    Judged d (grant claimed d a) := by
  unfold grant
  split
  · exact .without d _ _ (by decide) (by decide)
  · exact
      { declaration := rfl
        sound := ⟨fun e => (by cases e), by simp⟩
        artifact := .inl ⟨a, rfl, ⟨h.1, rfl⟩, rfl, h.2⟩ }

theorem judge_judged (r : Resolver) (claimed : Table String) (d : Declaration) :
    Judged d (judge r claimed d) := by
  unfold judge
  split
  · exact .without d _ _ (by decide) (by decide)
  · exact .without d _ _ (by decide) (by decide)
  · exact .without d _ _ (by decide) (by decide)
  · split
    · next e _ =>
      cases e with
      | generation g => cases g <;> exact .without d _ _ (fun h => by cases h) (fun h => by cases h)
      | _ => exact .without d _ _ (by decide) (by decide)
    · next a ha => exact grant_judged claimed (generate_spec ha)

/-! ## 3. The declarations of a round -/

theorem firstOfEach_sublist (seen : List String) (ds : List Declaration) :
    (firstOfEach seen ds).Sublist ds := by
  induction ds generalizing seen with
  | nil => exact .slnil
  | cons d rest ih =>
    unfold firstOfEach
    split
    · exact (ih seen).cons d
    · exact (ih _).cons_cons d

theorem mem_firstOfEach_names (seen : List String) (ds : List Declaration) (q : String) :
    q ∈ (firstOfEach seen ds).map (·.qualifiedName) ↔
      q ∈ ds.map (·.qualifiedName) ∧ q ∉ seen := by
  induction ds generalizing seen with
  | nil => simp [firstOfEach]
  | cons d rest ih =>
    unfold firstOfEach
    split
    · next h =>
      have h : d.qualifiedName ∈ seen := by simpa using h
      rw [ih, List.map_cons, List.mem_cons]
      constructor
      · exact fun ⟨h₁, h₂⟩ => ⟨.inr h₁, h₂⟩
      · rintro ⟨rfl | h₁, h₂⟩
        · exact absurd h h₂
        · exact ⟨h₁, h₂⟩
    · next h =>
      have h : d.qualifiedName ∉ seen := by simpa using h
      rw [List.map_cons, List.mem_cons, ih, List.map_cons, List.mem_cons, List.mem_cons]
      by_cases hq : q = d.qualifiedName
      · subst hq
        simp [h]
      · simp [hq]

theorem nodup_firstOfEach (seen : List String) (ds : List Declaration) :
    ((firstOfEach seen ds).map (·.qualifiedName)).Nodup := by
  induction ds generalizing seen with
  | nil => simp [firstOfEach]
  | cons d rest ih =>
    unfold firstOfEach
    split
    · exact ih seen
    · rw [List.map_cons, List.nodup_cons]
      refine ⟨fun h => ?_, ih _⟩
      exact ((mem_firstOfEach_names _ _ _).mp h).2 List.mem_cons_self

/-- Declarations under different names are all first of their names. -/
theorem firstOfEach_of_nodup {seen : List String} {ds : List Declaration}
    (h : (ds.map (·.qualifiedName)).Nodup) (hseen : ∀ d ∈ ds, d.qualifiedName ∉ seen) :
    firstOfEach seen ds = ds := by
  induction ds generalizing seen with
  | nil => rfl
  | cons d rest ih =>
    rw [List.map_cons, List.nodup_cons] at h
    have hnew : seen.contains d.qualifiedName = false := by
      simpa using hseen d List.mem_cons_self
    unfold firstOfEach
    rw [hnew, if_neg Bool.false_ne_true, ih h.2]
    intro e he hmem
    rcases List.mem_cons.mp hmem with heq | hmem
    · exact h.1 (heq ▸ List.mem_map_of_mem he)
    · exact hseen e (List.mem_cons_of_mem _ he) hmem

theorem candidates_of_nodup {pending fresh : List Declaration}
    (h : ((pending ++ fresh).map (·.qualifiedName)).Nodup) :
    candidates pending fresh = pending ++ fresh :=
  firstOfEach_of_nodup h fun _ _ => List.not_mem_nil

/-! ## 4. Rounds -/

/-- The outcomes of a round over `ds` account for all that it gives. -/
structure Scan.Accounts (ds : List Declaration) (s : Scan) : Prop where
  declarations : s.outcomes.map (·.declaration) = ds
  sound : ∀ o ∈ s.outcomes, o.Sound
  pending : s.pending = (s.outcomes.filter (·.status == .deferred)).map (·.declaration)
  artifacts : List.Forall₂ Outcome.Makes (s.outcomes.filter (·.status == .generated)) s.artifacts

namespace Scan

theorem cutShort_accounts (ds : List Declaration) : (cutShort ds).Accounts ds := by
  have hsound : ∀ o ∈ ds.map Outcome.cancelled, o.Sound ∧ o.status = .deferred := by
    intro o ho
    obtain ⟨d, -, rfl⟩ := List.mem_map.mp ho
    exact ⟨.without d _ _ (by decide) (by decide), rfl⟩
  have hall : (ds.map Outcome.cancelled).filter (·.status == .deferred) =
      ds.map Outcome.cancelled := List.filter_eq_self.mpr fun o ho => by simp [(hsound o ho).2]
  have hnone : (ds.map Outcome.cancelled).filter (·.status == .generated) = [] :=
    List.filter_eq_nil_iff.mpr fun o ho => by simp [(hsound o ho).2]
  have hback : (ds.map Outcome.cancelled).map (·.declaration) = ds := by
    rw [List.map_map]
    exact List.map_id ds
  exact
    { declarations := hback
      sound := fun o ho => (hsound o ho).1
      pending := by rw [cutShort, hall, hback]
      artifacts := by rw [cutShort, hnone]; exact .nil }

theorem cons_accounts {d : Declaration} {ds : List Declaration} {r : Outcome × Option Artifact}
    {s : Scan} (hr : Judged d r) (h : s.Accounts ds) : (cons r.1 r.2 s).Accounts (d :: ds) where
  declarations := by rw [cons, List.map_cons, hr.declaration, h.declarations]
  sound o ho := by
    rcases List.mem_cons.mp ho with rfl | ho
    · exact hr.sound
    · exact h.sound o ho
  pending := by
    rw [cons, List.filter_cons, h.pending]
    by_cases hd : r.1.status = .deferred
    · simp [hd]
    · simp [hd]
  artifacts := by
    rw [cons, List.filter_cons]
    rcases hr.artifact with ⟨a, ha, hmakes, hs, -⟩ | ⟨ha, hs⟩
    · simp only [ha, hs, beq_self_eq_true, if_true, Option.toList_some, List.singleton_append]
      exact .cons hmakes h.artifacts
    · simp only [ha, Option.toList_none, List.nil_append]
      rw [if_neg (by simpa using hs)]
      exact h.artifacts

theorem through_accounts (r : Resolver) (signal : List Declaration → Bool)
    (done : List Declaration) (claimed : Table String) (ds : List Declaration) :
    (through r signal done claimed ds).Accounts ds := by
  induction ds generalizing done claimed with
  | nil => exact ⟨rfl, by simp [through, empty], rfl, .nil⟩
  | cons d rest ih =>
    unfold through
    split
    · exact cutShort_accounts _
    · exact cons_accounts (judge_judged r claimed d) (ih _ _)

/-- The outcomes of a round account for all that it gives. -/
theorem run_accounts (r : Resolver) (signal : List Declaration → Bool)
    (pending fresh : List Declaration) :
    (run r signal pending fresh).Accounts (candidates pending fresh) :=
  through_accounts ..

/-! ## 5. Modules -/

/-- Nothing but a claim on its module stands between a declaration and its builder. -/
structure Passes (r : Resolver) (d : Declaration) (a : Artifact) : Prop where
  gate : ∃ reasons, d.gate r = .ok (.ready, reasons)
  generate : generate r d = .ok a

theorem Passes.judge {r : Resolver} {d : Declaration} {a : Artifact} (h : Passes r d a)
    (claimed : Table String) : judge r claimed d = grant claimed d a := by
  obtain ⟨⟨reasons, hgate⟩, hgenerate⟩ := h
  unfold FluentBuilders.judge
  rw [hgate, hgenerate]

/-- An invalid declaration does not pass. -/
theorem Passes.valid {r : Resolver} {d : Declaration} {a : Artifact} (h : Passes r d a) :
    d.state ≠ .invalid := by
  obtain ⟨⟨reasons, hgate⟩, -⟩ := h
  intro hinvalid
  unfold Declaration.gate at hgate
  rw [if_pos hinvalid] at hgate
  cases hgate

/-- An artifact is given to a declaration that passes. -/
theorem judge_passes {r : Resolver} {claimed : Table String} {d : Declaration} {a : Artifact}
    (h : (judge r claimed d).2 = some a) : Passes r d a := by
  unfold FluentBuilders.judge at h
  split at h
  · cases h
  · cases h
  · cases h
  · next reasons hgate =>
    split at h
    · cases h
    · next hgenerate =>
      unfold grant at h
      split at h
      · cases h
      · cases h
        exact ⟨⟨reasons, hgate⟩, hgenerate⟩

/-- Artifacts are made for declarations of the round that pass. -/
theorem through_passes (r : Resolver) (signal : List Declaration → Bool)
    (done : List Declaration) (claimed : Table String) {ds : List Declaration} {a : Artifact}
    (ha : a ∈ (through r signal done claimed ds).artifacts) : ∃ d ∈ ds, Passes r d a := by
  induction ds generalizing done claimed with
  | nil => cases ha
  | cons d rest ih =>
    unfold through at ha
    split at ha
    · cases ha
    · rcases List.mem_append.mp ha with ha | ha
      · exact ⟨d, List.mem_cons_self, judge_passes (Option.mem_toList.mp ha)⟩
      · obtain ⟨d', hd', hpasses⟩ := ih _ _ ha
        exact ⟨d', List.mem_cons_of_mem _ hd', hpasses⟩

theorem through_made (r : Resolver) (signal : List Declaration → Bool) (done : List Declaration)
    (claimed : Table String) {ds : List Declaration} {a : Artifact}
    (ha : a ∈ (through r signal done claimed ds).artifacts) : ∃ d ∈ ds, generate r d = .ok a := by
  obtain ⟨d, hd, hpasses⟩ := through_passes r signal done claimed ha
  exact ⟨d, hd, hpasses.generate⟩

/-- Only a module that is not claimed is given. -/
theorem judge_unclaimed {r : Resolver} {claimed : Table String} {d : Declaration} {a : Artifact}
    (h : (judge r claimed d).2 = some a) : a.module ∉ claimed.keys := by
  rw [← Table.get?_eq_none_iff]
  unfold judge at h
  split at h
  · cases h
  · cases h
  · cases h
  · split at h
    · cases h
    · unfold grant at h
      split at h
      · cases h
      · next hnone =>
        cases h
        exact hnone

/-- The modules of a round are given once each, and none that was claimed before. -/
theorem through_modules (r : Resolver) (signal : List Declaration → Bool)
    (done : List Declaration) (claimed : Table String) (ds : List Declaration) :
    ((through r signal done claimed ds).artifacts.map (·.module)).Nodup ∧
      ∀ a ∈ (through r signal done claimed ds).artifacts, a.module ∉ claimed.keys := by
  induction ds generalizing done claimed with
  | nil => simp [through, empty]
  | cons d rest ih =>
    unfold through
    split
    · simp [cutShort]
    · dsimp only [cons]
      cases h : (judge r claimed d).2 with
      | none =>
        obtain ⟨ih₁, ih₂⟩ := ih (done ++ [d]) claimed
        exact ⟨ih₁, ih₂⟩
      | some a =>
        obtain ⟨ih₁, ih₂⟩ := ih (done ++ [d]) (claimed.insert a.module d.qualifiedName)
        have hrest : ∀ b ∈ (through r signal (done ++ [d])
            (claimed.insert a.module d.qualifiedName) rest).artifacts,
            b.module ≠ a.module ∧ b.module ∉ claimed.keys := by
          intro b hb
          have hnew := ih₂ b hb
          rw [Table.mem_keys_insert, not_or] at hnew
          exact hnew
        refine ⟨?_, fun b hb => ?_⟩
        · rw [Option.toList_some, List.singleton_append, List.map_cons, List.nodup_cons]
          refine ⟨fun hmem => ?_, ih₁⟩
          obtain ⟨b, hb, e⟩ := List.mem_map.mp hmem
          exact (hrest b hb).1 e
        · rw [Option.toList_some, List.singleton_append, List.mem_cons] at hb
          rcases hb with rfl | hb
          · exact judge_unclaimed h
          · exact (hrest b hb).2

/-- How a declaration that passes ends a round: with its builder, put off because the round was cut
short, or told who has its module. -/
def Granted (s : Scan) (claimed : Table String) (d : Declaration) (a : Artifact)
    (o : Outcome) : Prop :=
  o = ⟨d, .generated, [], some a.module, none⟩ ∧ a ∈ s.artifacts ∨
    o = .cancelled d ∧ s.cancelled = true ∨
    ∃ owner, o = .without d .failed [Reason.nameCollision]
        (some (a.module ++ " already generated for " ++ owner)) ∧
      (claimed.get? a.module = some owner ∨
        ∃ b ∈ s.artifacts, b.module = a.module ∧ b.source = owner)

theorem through_granted (r : Resolver) (signal : List Declaration → Bool)
    (done : List Declaration) (claimed : Table String) {ds : List Declaration} {d : Declaration}
    (hd : d ∈ ds) {a : Artifact} (h : Passes r d a) :
    ∃ o ∈ (through r signal done claimed ds).outcomes,
      Granted (through r signal done claimed ds) claimed d a o := by
  induction ds generalizing done claimed with
  | nil => cases hd
  | cons d' rest ih =>
    unfold through
    split
    · exact ⟨.cancelled d, List.mem_map_of_mem hd, .inr (.inl ⟨rfl, rfl⟩)⟩
    · dsimp only
      rcases List.mem_cons.mp hd with rfl | hd
      · rw [h.judge]
        unfold grant
        split
        · next owner howner =>
          exact ⟨_, List.mem_cons_self, .inr (.inr ⟨owner, rfl, .inl howner⟩)⟩
        · exact ⟨_, List.mem_cons_self, .inl ⟨rfl, List.mem_cons_self⟩⟩
      · cases hj : (judge r claimed d').2 with
        | none =>
          obtain ⟨o, ho, hgranted⟩ := ih (done ++ [d']) claimed hd
          exact ⟨o, List.mem_cons_of_mem _ ho, hgranted⟩
        | some b =>
          obtain ⟨o, ho, hgranted⟩ := ih (done ++ [d']) (claimed.insert b.module d'.qualifiedName) hd
          refine ⟨o, List.mem_cons_of_mem _ ho, ?_⟩
          rcases hgranted with ⟨e, ha⟩ | hcut | ⟨owner, e, howner | ⟨b', hb', hb''⟩⟩
          · exact .inl ⟨e, List.mem_cons_of_mem _ ha⟩
          · exact .inr (.inl hcut)
          · refine .inr (.inr ⟨owner, e, ?_⟩)
            rw [Table.get?_insert] at howner
            split at howner
            · next hsame =>
              refine .inr ⟨b, List.mem_cons_self, hsame, ?_⟩
              have hj' := judge_judged r claimed d'
              rcases hj'.artifact with ⟨b', hb', hmakes, -⟩ | ⟨hnone, -⟩
              · rw [hj] at hb'
                cases hb'
                rw [hmakes.source, Outcome.qualifiedName, hj'.declaration]
                exact Option.some.inj howner
              · rw [hj] at hnone
                cases hnone
            · exact .inl howner
          · exact .inr (.inr ⟨owner, e, .inr ⟨b', List.mem_cons_of_mem _ hb', hb''⟩⟩)

/-- A round whose signal is never set is not cut short. -/
theorem through_whole (r : Resolver) {signal : List Declaration → Bool}
    (hsignal : ∀ done, signal done = false) (done : List Declaration) (claimed : Table String)
    (ds : List Declaration) : (through r signal done claimed ds).cancelled = false := by
  induction ds generalizing done claimed with
  | nil => rfl
  | cons d rest ih =>
    unfold through
    rw [hsignal, if_neg Bool.false_ne_true]
    exact ih _ _

end Scan

end FluentBuilders
