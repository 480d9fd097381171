import FluentBuilders.Proofs.Rounds.Conservation

/-!
Which builders of a run share a module: those of different rounds may, those of one round never do.

1. `Account.kept`: an outcome that was not put off is final.
2. `Placed`: artifacts of one module come from rounds one after the other.
3. `Reaches`: the states at which the rounds of a run start, and how the run goes on from each.
4. `modules_apart`: modules inside a round and over a whole run.
5. `modules_shared`: a run in which two classes of one name get the same module one round after the
   other.
-/

namespace FluentBuilders

open Text

namespace Rounds

variable {σ : Type} {env : Surroundings σ} {profile : Profile} {g : Registry} {world : σ}
  {round : Nat} {names : List String} {s s' : State σ}

/-! ## 1. Final outcomes -/

/-- An outcome that was not put off stays as it is. -/
theorem Account.kept (h : Account profile.marker names s) (hstep : Stepped env profile round s s')
    {q : String} {n : Nat} {o : Outcome} (hget : s.run.outcomes.get? q = some (n, o))
    (hfinal : o.status ≠ .deferred) : s'.run.outcomes.get? q = some (n, o) := by
  obtain ⟨failures, kept, hsettled, -, houtcomes, -, -⟩ := hstep.settled
  rw [houtcomes]
  refine (Table.get?_inserts_of_not_mem _ ?_).trans hget
  rw [hsettled.names]
  exact h.settled_once hget hfinal

theorem loop_kept {fuel : Nat} {world' : σ} (h : Account profile.marker names s)
    (hloop : loop env profile fuel round s = (.ok s', world')) {q : String} {n : Nat} {o : Outcome}
    (hget : s.run.outcomes.get? q = some (n, o)) (hfinal : o.status ≠ .deferred) :
    s'.run.outcomes.get? q = some (n, o) := by
  obtain ⟨-, last, cancelled, rfl, -, -, hlast⟩ := loop_induct
    (Q := fun _ s => ∃ names, Account profile.marker names s ∧
      s.run.outcomes.get? q = some (n, o))
    (fun ⟨names, hnames, hget⟩ honce => by
      obtain ⟨hstep, -⟩ := once_stepped honce
      exact ⟨_, hnames.step hstep, hnames.kept hstep hget hfinal⟩) ⟨names, h, hget⟩ hloop
  exact hlast

/-! ## 2. Artifacts and their rounds -/

/-- One artifact was made in an earlier round than the other. -/
def Earlier (run : Run) (a b : Artifact) : Prop :=
  ∃ m n o o', run.outcomes.get? a.source = some (m, o) ∧ run.outcomes.get? b.source = some (n, o') ∧
    m < n

/-- Before the round `round` every artifact has the round that it was made in, and artifacts of one
module come from different rounds. -/
structure Placed (round : Nat) (run : Run) : Prop where
  rounds : ∀ a ∈ run.artifacts, ∃ n o, run.outcomes.get? a.source = some (n, o) ∧ n < round ∧
    o.status = .generated
  modules : run.artifacts.Pairwise fun a b => a.module = b.module → Earlier run a b

theorem Placed.step (h : Placed round s.run) (haccount : Account profile.marker names s)
    (hstep : Stepped env profile round s s') : Placed (round + 1) s'.run := by
  have hkept : ∀ a ∈ s.run.artifacts, ∀ n o, s.run.outcomes.get? a.source = some (n, o) →
      s'.run.outcomes.get? a.source = some (n, o) := by
    intro a ha n o hget
    refine haccount.kept hstep hget ?_
    rw [(haccount.made_iff hget).mp (List.mem_map_of_mem ha)]
    decide
  obtain ⟨failures, artifacts, hsettled, hsublist, houtcomes, hartifacts, -⟩ := hstep.settled
  have hnew : ∀ a ∈ artifacts, ∃ o, s'.run.outcomes.get? a.source = some (round, o) ∧
      o.status = .generated := by
    intro a ha
    obtain ⟨o, ho, hmakes⟩ := Outcome.Makes.maker hsettled.artifacts ha
    obtain ⟨ho, hstatus⟩ := List.mem_filter.mp ho
    refine ⟨o, ?_, by simpa using hstatus⟩
    rw [houtcomes, hmakes.source]
    exact settled_get? hsettled s.run round ho
  refine ⟨fun a ha => ?_, ?_⟩
  · rw [hartifacts, List.mem_append] at ha
    rcases ha with ha | ha
    · obtain ⟨n, o, hget, hn, hstatus⟩ := h.rounds a ha
      exact ⟨n, o, hkept a ha n o hget, by omega, hstatus⟩
    · obtain ⟨o, hget, hstatus⟩ := hnew a ha
      exact ⟨round, o, hget, by omega, hstatus⟩
  · rw [hartifacts, List.pairwise_append]
    refine ⟨?_, ?_, ?_⟩
    · refine h.modules.imp_of_mem fun {a b} ha hb hearlier hsame => ?_
      obtain ⟨m, n, o, o', hm, hn, hlt⟩ := hearlier hsame
      exact ⟨m, n, o, o', hkept a ha m o hm, hkept b hb n o' hn, hlt⟩
    · have hmodules : (artifacts.map (·.module)).Nodup :=
        (Scan.through_modules ..).1.sublist (hsublist.map _)
      exact (List.pairwise_map.mp hmodules).imp fun hne hsame => absurd hsame hne
    · intro a ha b hb _
      obtain ⟨m, o, hm, hlt, -⟩ := h.rounds a ha
      obtain ⟨o', hn, -⟩ := hnew b hb
      exact ⟨m, round, o, o', hkept a ha m o hm, hn, hlt⟩

/-- A whole run ends after a round, and there the artifacts have their rounds. -/
theorem run_placed (hg : g.Loaded) {world' : σ}
    (h : Rounds.run env profile g world = (.ok s, world')) :
    ∃ round last cancelled names, s = finish last cancelled ∧ Placed round last.run ∧
      Account profile.marker names last := by
  have hstart : Placed 1 Run.empty ∧ ∃ names, Account profile.marker names ⟨g, world, [], .empty⟩ :=
    ⟨⟨by simp [Run.empty], by simp [Run.empty]⟩, [], .start profile.marker hg.sound world⟩
  obtain ⟨round, last, cancelled, hlast, hplaced, names, haccount⟩ := loop_induct
    (Q := fun round s => Placed round s.run ∧ ∃ names, Account profile.marker names s)
    (fun hs honce => by
      obtain ⟨hplaced, names, haccount⟩ := hs
      obtain ⟨hstep, -⟩ := once_stepped honce
      exact ⟨hplaced.step haccount hstep, _, haccount.step hstep⟩) hstart h
  exact ⟨round, last, cancelled, names, hlast, hplaced, haccount⟩

/-! ## 3. The rounds of a run -/

/-- The states at which the rounds of a run start. -/
inductive Reaches (env : Surroundings σ) (profile : Profile) (g : Registry) (world : σ) :
    Nat → State σ → Prop
  | start : Reaches env profile g world 1 ⟨g, world, [], .empty⟩
  | again {round : Nat} {s s' : State σ} {world' : σ} : Reaches env profile g world round s →
    once env profile round s = (.ok (s', .again), world') → Reaches env profile g world (round + 1) s'

/-- From each of its rounds a run goes on to the same end. -/
theorem Reaches.run_eq (h : Reaches env profile g world round s) :
    ∃ fuel, round + fuel = max 1 profile.maxRounds.toNat ∧
      Rounds.run env profile g world = loop env profile (fuel + 1) round s := by
  induction h with
  | start =>
    refine ⟨max 1 profile.maxRounds.toNat - 1, by omega, ?_⟩
    unfold Rounds.run
    rw [Nat.sub_add_cancel (by omega)]
  | @again round s s' world' _ honce ih =>
    obtain ⟨fuel, hfuel, e⟩ := ih
    have hmore := (once_stepped honce).2 rfl
    obtain ⟨fuel, rfl⟩ : ∃ n, fuel = n + 1 := ⟨fuel - 1, by omega⟩
    refine ⟨fuel, by omega, e.trans ?_⟩
    exact loop_again honce _

theorem Reaches.account (hg : g.Loaded) (h : Reaches env profile g world round s) :
    ∃ names, Account profile.marker names s := by
  induction h with
  | start => exact ⟨[], .start profile.marker hg.sound world⟩
  | again _ honce ih =>
    obtain ⟨names, hnames⟩ := ih
    exact ⟨_, hnames.step (once_stepped honce).1⟩

/-- The modules that were loaded stay in front. -/
theorem Reaches.modules (h : Reaches env profile g world round s) :
    g.modules.entries <+: s.registry.modules.entries := by
  induction h with
  | start => exact List.prefix_rfl
  | again _ honce ih => exact ih.trans (once_stepped honce).1.registry.modules

/-! ## 4. Modules -/

/-- What a round says of a declaration without a builder is the last word, unless it was put off. -/
theorem Reaches.last_word (hg : g.Loaded) (h : Reaches env profile g world round s) {world' : σ}
    (hrun : Rounds.run env profile g world = (.ok s', world')) {o : Outcome}
    (ho : o ∈ (scanOf env profile.marker round s).outcomes) (hmodule : o.artifactModule = none)
    (hfinal : o.status ≠ .deferred) : s'.run.outcomes.get? o.qualifiedName = some (round, o) := by
  obtain ⟨fuel, -, e⟩ := h.run_eq
  obtain ⟨names, hnames⟩ := h.account hg
  obtain ⟨s₁, next, world₁, honce, hrest⟩ := loop_once (e.symm.trans hrun)
  obtain ⟨hstep, -⟩ := once_stepped honce
  have hget : s₁.run.outcomes.get? o.qualifiedName = some (round, o) := by
    obtain ⟨failures, kept, -, -, houtcomes, -, -⟩ := hstep.settled
    have hsame : o.settle failures = o := by
      unfold Outcome.settle
      rw [hmodule]
      rfl
    rw [houtcomes, scanOf_get? s.run failures ho, hsame]
  rcases hrest with ⟨cancelled, rfl⟩ | hrest
  · exact hget
  · exact loop_kept (hnames.step hstep) hrest hget hfinal

/-- Artifacts of a run that share a module were made for different declarations in different rounds.
In each round modules are given once: a declaration that passes after its module was given to another
one has failed for good, and is told the name of the other, unless the round was cut short before. -/
theorem modules_apart (hg : g.Loaded) {world' : σ}
    (h : Rounds.run env profile g world = (.ok s, world')) :
    (s.run.artifacts.Pairwise fun a b =>
        a.module = b.module → a.source ≠ b.source ∧ Earlier s.run a b) ∧
      ∀ round r, Reaches env profile g world round r →
        ((scanOf env profile.marker round r).artifacts.map (·.module)).Nodup ∧
        ∀ d ∈ work profile.marker r, ∀ a, Scan.Passes (answering profile.marker r) d a →
          ∀ b ∈ (scanOf env profile.marker round r).artifacts, b.module = a.module →
            b.source ≠ d.qualifiedName →
              (scanOf env profile.marker round r).cancelled = true ∧
                  Outcome.cancelled d ∈ (scanOf env profile.marker round r).outcomes ∨
                s.run.outcomes.get? d.qualifiedName =
                  some (round, .without d .failed [Reason.nameCollision]
                    (some (a.module ++ " already generated for " ++ b.source))) := by
  constructor
  · obtain ⟨_, last, cancelled, names, rfl, hplaced, haccount⟩ := run_placed hg h
    have hsources := List.pairwise_map.mp haccount.sources
    refine (hsources.and hplaced.modules).imp ?_
    rintro a b ⟨hne, hearlier⟩ hsame
    exact ⟨hne, hearlier hsame⟩
  · intro round r hr
    have hmodules : ((scanOf env profile.marker round r).artifacts.map (·.module)).Nodup :=
      (Scan.through_modules ..).1
    refine ⟨hmodules, fun d hd a ha b hb hsame hother => ?_⟩
    have hone := List.inj_on_of_nodup_map hmodules
    obtain ⟨o, ho, hgranted⟩ := Scan.through_granted (answering profile.marker r)
      (fun done => env.cancelled r.world (.scanning round done)) [] .empty hd ha
    rcases hgranted with ⟨-, hmem⟩ | ⟨rfl, hcut⟩ | ⟨owner, rfl, howner | ⟨b', hb', hsame', rfl⟩⟩
    · rw [hone hb hmem hsame, (generate_spec ha.generate).1] at hother
      exact absurd rfl hother
    · exact .inl ⟨hcut, ho⟩
    · cases howner
    · rw [hone hb hb' (hsame.trans hsame'.symm)]
      exact .inr (hr.last_word hg h ho rfl (by simp [Outcome.without]))

/-! ## 5. Modules of different rounds -/

/-- Two classes of one name in one package; the second waits for the builder of the first. -/
def twins : Registry :=
  let marked (text : String) : String := "from builder_gen.marker import builder\n" ++ text
  let first := marked "@builder\nclass Foo: pass\n"
  let second := marked "from p import foo_builder\n@builder\nclass Foo:\n y: foo_builder\n"
  ⟨⟨[("p.a", .ofParsed (.ofText first "p/a.py") "p.a" false),
    ("p.b", .ofParsed (.ofText second "p/b.py") "p.b" false)]⟩, .empty⟩

theorem twins_loaded : twins.Loaded :=
  (Registry.Loaded.empty.add_ok List.not_mem_nil _ _ _).add_ok
    (show "p.b" ∉ ["p.a"] by decide) _ _ _

/-- A run that publishes nothing and is never cancelled. -/
def undisturbed : Surroundings Unit where
  publish := none
  cancelled _ _ := false
  workers := 1
  order _ artifacts := artifacts

theorem undisturbed_answers : undisturbed.Answers := by
  intro send hsend
  cases hsend

/-- The state before the first round. -/
def beforeTwins : State Unit := ⟨twins, (), [], .empty⟩

set_option maxRecDepth 100000 in
/-- The first round makes the builder of the first class and puts the second class off. -/
theorem twins_first_round :
    (scanOf undisturbed Profile.standard.marker 1 beforeTwins).artifacts.map (·.module) =
        ["p.foo_builder"] ∧
      (scanOf undisturbed Profile.standard.marker 1 beforeTwins).pending.map
          (fun d => (d.package, d.name, d.module, d.state)) = [("p", "Foo", "p.b", .unresolved)] ∧
      (twins.classAt? ⟨"p.b", "Foo"⟩).map
          (fun r => (r.2.bases, r.2.fields, r.1.resolve "foo_builder")) =
        some ([], [⟨"y", "foo_builder", ["foo_builder"]⟩], some "p.foo_builder") := by
  decide +kernel

/-- Once a module of the name is there, the second class passes. -/
theorem twins_second_passes {s : State Unit}
    (hgrows : Registry.Grows (twins.report Profile.standard.marker).2 s.registry)
    (hmodule : "p.foo_builder" ∈ s.registry.names) {d : Declaration}
    (hd : (d.package, d.name, d.module, d.state) = ("p", "Foo", "p.b", .unresolved)) :
    ∃ a, Scan.Passes (answering Profile.standard.marker s) d a ∧ a.module = "p.foo_builder" := by
  simp only [Prod.mk.injEq] at hd
  obtain ⟨hpackage, hname, hdmodule, hstate⟩ := hd
  obtain ⟨⟨t, info⟩, hclass, hinfo⟩ := Option.map_eq_some_iff.mp twins_first_round.2.2
  simp only [Prod.mk.injEq] at hinfo
  obtain ⟨hbases, hfields, hresolve⟩ := hinfo
  have hthere : (s.registry.report Profile.standard.marker).2.checkName t "foo_builder" =
      some "p.foo_builder" :=
    Registry.checkName_of_module hresolve ((s.registry.modules.contains_iff _).mpr hmodule)
  have hkey : Registry.keyOf d = ⟨"p.b", "Foo"⟩ := by rw [Registry.keyOf, hdmodule, hname]
  have hclass : (s.registry.report Profile.standard.marker).2.classAt? (Registry.keyOf d) =
      some (t, info) := by
    rw [hkey]
    exact hgrows.classAt? hclass
  obtain ⟨hready, hproperties⟩ := Registry.ready_of_plain hclass hbases (by simp [hfields, hthere])
  have hexposed : d.exposed (answering Profile.standard.marker s) = .ok [⟨"y", "foo_builder"⟩] := by
    have hown : Registry.ownProperties info = [⟨"y", "foo_builder"⟩] := by
      rw [Registry.ownProperties, hfields]
      rfl
    have herror : firstError? "p.b.Foo" [] [⟨"y", "foo_builder"⟩] = none := by decide +kernel
    have hqualified : d.qualifiedName = "p.b.Foo" := by
      rw [Declaration.qualifiedName, hdmodule, hname]
      rfl
    unfold Declaration.exposed enumerate answering Registry.resolver
    dsimp only
    rw [hproperties, hown, hqualified]
    dsimp only
    rw [herror]
  have hblueprint : (d.blueprint [⟨"y", "foo_builder"⟩]).fault? = none := by
    rw [Declaration.blueprint, hpackage, hname, hdmodule]
    decide +kernel
  obtain ⟨a, ha⟩ := generate_ok hexposed hblueprint rfl
  refine ⟨a, ⟨⟨[], ?_⟩, ha⟩, ?_⟩
  · have hvalid : d.state ≠ .invalid := by
      rw [hstate]
      decide
    unfold Declaration.gate Declaration.isReady answering Registry.resolver
    rw [if_neg hvalid, if_neg hvalid]
    dsimp only
    rw [hready]
  · rw [(generate_spec ha).2, hpackage, hname]
    decide +kernel

/-- The first round makes the builder of the first class, and another round follows. -/
theorem twins_again : ∃ s world, once undisturbed .standard 1 beforeTwins =
      (.ok (s, .again), world) ∧
    s.run.artifacts.map (·.module) = ["p.foo_builder"] ∧
    (∃ d, s.pending = [d] ∧
      (d.package, d.name, d.module, d.state) = ("p", "Foo", "p.b", .unresolved)) ∧
    Registry.Grows (twins.report Profile.standard.marker).2 s.registry ∧
    "p.foo_builder" ∈ s.registry.names := by
  obtain ⟨hmodules, hpending, -⟩ := twins_first_round
  obtain ⟨s, moved, honce, hstep⟩ := once_dry
    (show undisturbed.publish = none from rfl) .standard 1 beforeTwins
  obtain ⟨a, ha, hmodule⟩ := List.map_eq_singleton_iff.mp hmodules
  obtain ⟨d, hd, hdeclaration⟩ := List.map_eq_singleton_iff.mp hpending
  have hnext : next undisturbed Profile.standard.maxRounds 1 moved s = .again := by
    rw [hstep.moves ha (show a.module ∉ twins.names by rw [hmodule]; decide)]
    unfold next
    rw [hstep.pending, hd]
    rfl
  refine ⟨s, (), ?_, ?_, ⟨d, hstep.pending.trans hd, hdeclaration⟩, ?_, ?_⟩
  · rw [honce, hnext]
  · rw [hstep.artifacts, show beforeTwins.run.artifacts = [] from rfl, List.nil_append]
    exact hmodules
  · rw [hstep.registry]
    exact Registry.feedAll_grows ..
  · rw [hstep.registry, ← hmodule]
    exact Registry.feedAll_names _ _ (ha ▸ List.mem_cons_self)

/-- Two artifacts of a run share a module. -/
theorem modules_shared : ∃ s, twins.Loaded ∧
    Rounds.run undisturbed .standard twins () = (.ok s, ()) ∧
    ¬ (s.run.artifacts.map (·.module)).Nodup := by
  obtain ⟨s', world', hrun⟩ := loop_ok undisturbed_answers .standard 10 1 beforeTwins
  refine ⟨s', twins_loaded, hrun, ?_⟩
  obtain ⟨s₁, world₁, h₁, hmodules, ⟨d, hpending, hd⟩, hgrows, hnames⟩ := twins_again
  obtain ⟨a, ha, hmodule⟩ := twins_second_passes hgrows hnames hd
  -- the second round gives the module again
  obtain ⟨s₂, moved, h₂, hstep⟩ := once_dry
    (show undisturbed.publish = none from rfl) .standard 2 s₁
  have hwork : d ∈ work Profile.standard.marker s₁ := by
    unfold work candidates
    rw [hpending]
    exact List.mem_cons_self
  have hagain : ∃ b ∈ (scanOf undisturbed Profile.standard.marker 2 s₁).artifacts,
      b.module = "p.foo_builder" := by
    obtain ⟨o, -, ⟨-, hmem⟩ | ⟨-, hcut⟩ | ⟨owner, -, howner | ⟨b, hb, hsame, -⟩⟩⟩ :=
      Scan.through_granted (answering Profile.standard.marker s₁) (fun _ => false) [] .empty hwork ha
    · exact ⟨a, hmem, hmodule⟩
    · rw [Scan.through_whole _ (fun _ => rfl)] at hcut
      cases hcut
    · cases howner
    · exact ⟨b, hb, hsame.trans hmodule⟩
  have hkept : s₂.run.artifacts <+: s'.run.artifacts := by
    obtain ⟨s₂', next, world₂, h₂', hrest⟩ := loop_once ((loop_again h₁ 9).symm.trans hrun)
    rw [h₂] at h₂'
    cases h₂'
    rcases hrest with ⟨cancelled, rfl⟩ | hrest
    · exact List.prefix_rfl
    · exact loop_artifacts hrest
  intro hnodup
  obtain ⟨b, hb, hbmodule⟩ := hagain
  have htwice := hnodup.sublist (hkept.sublist.map _)
  rw [hstep.artifacts, List.map_append, hmodules, List.singleton_append, List.nodup_cons] at htwice
  exact htwice.1 (hbmodule ▸ List.mem_map_of_mem hb)

/-- In that run, too, modules are apart inside each round. -/
theorem modules_apart_twins : ∃ s, twins.Loaded ∧
    Rounds.run undisturbed .standard twins () = (.ok s, ()) ∧
    s.run.artifacts.Pairwise fun a b =>
      a.module = b.module → a.source ≠ b.source ∧ Earlier s.run a b := by
  obtain ⟨s, world, hrun⟩ := loop_ok undisturbed_answers .standard 10 1 beforeTwins
  exact ⟨s, twins_loaded, hrun, (modules_apart twins_loaded hrun).1⟩

end Rounds

end FluentBuilders
