import FluentBuilders.Proofs.BuilderText.Lines
import FluentBuilders.Proofs.Rounds.Progress

/-!
What a run keeps, whoever publishes and whoever cancels, and however it ends.

1. `Registry.feedAll_new`: whatever is new in a registry is the module of a builder.
2. `Reaches.origin`: a run never works on more than the marked declarations that were loaded, apart
   from invalid ones. `run_made`: so every artifact is made for one of them.
3. `run_keeps`: what each artifact keeps that is taken up, a run keeps.
-/

namespace FluentBuilders

open Text

/-! ## 1. Feeding builders back -/

namespace Registry

variable {g : Registry}

theorem feed_new (g : Registry) (a : Artifact) (place : Option Published) :
    ∃ more, (g.feed a place).1.modules.entries = g.modules.entries ++ more ∧
      ∀ entry ∈ more, ∃ path, entry.2 = .ofParsed (.ofBytes (encode a.text) path) a.module false := by
  unfold feed addText
  split
  · next hadd =>
    refine ⟨_, addBytes_entries hadd, fun entry hentry => ?_⟩
    rw [List.mem_singleton.mp hentry]
    exact ⟨_, rfl⟩
  · exact ⟨[], (List.append_nil _).symm, fun entry hentry => by cases hentry⟩

/-- Whatever feeding brings in is the module of a builder. -/
theorem feedAll_new (g : Registry) (done : Table Published) (artifacts : List Artifact) :
    ∃ more, (g.feedAll done artifacts).1.modules.entries = g.modules.entries ++ more ∧
      ∀ entry ∈ more, ∃ a ∈ artifacts, ∃ path,
        entry.2 = .ofParsed (.ofBytes (encode a.text) path) a.module false := by
  induction artifacts generalizing g with
  | nil => exact ⟨[], (List.append_nil _).symm, fun entry hentry => by cases hentry⟩
  | cons a rest ih =>
    obtain ⟨first, hfirst, hnew⟩ := feed_new g a (done.get? a.module)
    obtain ⟨more, hmore, hnew'⟩ := ih (g.feed a (done.get? a.module)).1
    refine ⟨first ++ more, ?_, fun entry hentry => ?_⟩
    · rw [← List.append_assoc, ← hfirst, ← hmore]
      rfl
    · rcases List.mem_append.mp hentry with hentry | hentry
      · exact ⟨a, List.mem_cons_self, hnew entry hentry⟩
      · obtain ⟨b, hb, hpath⟩ := hnew' entry hentry
        exact ⟨b, List.mem_cons_of_mem _ hb, hpath⟩

end Registry

namespace Rounds

variable {σ : Type} {env : Surroundings σ} {profile : Profile} {g : Registry} {world world' : σ}
  {round : Nat} {s s' : State σ} {next : Next} {marker : String}

/-! ## 2. What a run works on -/

/-- Whatever a round brings in is the module of a builder that it made. -/
theorem once_new (h : once env profile round s = (.ok (s', next), world)) :
    ∃ more, s'.registry.modules.entries = s.registry.modules.entries ++ more ∧
      ∀ entry ∈ more, ∃ a ∈ (scanOf env profile.marker round s).artifacts, ∃ path,
        entry.2 = .ofParsed (.ofBytes (encode a.text) path) a.module false := by
  obtain ⟨delivery, moved, -, hclose, -⟩ := once_closed h
  obtain ⟨more, hmore, hnew⟩ := Registry.feedAll_new (s.registry.report profile.marker).2
    delivery.done ((scanOf env profile.marker round s).artifacts.filter
      fun a => !delivery.failures.contains a.module)
  refine ⟨more, (congrArg (·.1.registry.modules.entries) hclose).symm.trans hmore,
    fun entry hentry => ?_⟩
  obtain ⟨a, ha, hpath⟩ := hnew entry hentry
  exact ⟨a, List.mem_of_mem_filter ha, hpath⟩

/-- What is reported after a round is of the builders that went in, and invalid. -/
theorem once_reported (hsound : s.registry.Sound)
    (h : once env profile round s = (.ok (s', next), world)) {d : Declaration}
    (hd : d ∈ (s'.registry.report profile.marker).1) : d.state = .invalid := by
  have hgrows := (once_stepped h).1.registry
  obtain ⟨more, hregistry, hnew⟩ := once_new h
  obtain ⟨t, ht, hd⟩ := List.mem_flatMap.mp hd
  obtain ⟨info, hinfo, rfl⟩ := List.mem_map.mp hd
  -- the modules of the round before have been searched
  rw [hgrows.cursor_report] at ht
  unfold Table.values at ht
  rw [← List.map_drop, hregistry, show s.registry.modules.size = s.registry.modules.entries.length
    from rfl, List.drop_left] at ht
  obtain ⟨entry, hentry, rfl⟩ := List.mem_map.mp ht
  obtain ⟨a, ha, path, htable⟩ := hnew entry hentry
  obtain ⟨source, -, hmade⟩ := Scan.through_made _ _ _ _ ha
  rw [htable] at hinfo ⊢
  exact Registry.declarationOf_invalid
    ((hsound.report profile.marker).unmarked hmade _ _ _ info (List.mem_of_mem_filter hinfo))

/-- A run works on the declarations that were loaded, and on none besides but invalid ones. -/
theorem Reaches.origin (hg : g.Loaded) (h : Reaches env profile g world round s) :
    ∀ d ∈ work profile.marker s, d ∈ (g.report profile.marker).1 ∨ d.state = .invalid := by
  induction h with
  | start =>
    intro d hd
    rcases mem_work hd with hd | hd
    · cases hd
    · exact .inl hd
  | again hbefore honce ih =>
    obtain ⟨names, haccount⟩ := hbefore.account hg
    intro d hd
    rcases mem_work hd with hd | hd
    · exact ih d ((once_stepped honce).1.mem_pending hd)
    · exact .inr (once_reported haccount.registry honce hd)

/-- An artifact that was generated for a marked declaration of a registry, from a sound one that has come
of it. -/
def Made (g : Registry) (marker : String) (a : Artifact) : Prop :=
  ∃ g' : Registry, g'.Sound ∧ g.modules.entries <+: g'.modules.entries ∧
    ∃ d ∈ (g.report marker).1, generate g'.resolver d = .ok a

/-- Every artifact of a round is made for a marked declaration that was loaded. -/
theorem Reaches.made (hg : g.Loaded) (h : Reaches env profile g world round s) {a : Artifact}
    (ha : a ∈ (scanOf env profile.marker round s).artifacts) : Made g profile.marker a := by
  obtain ⟨names, haccount⟩ := h.account hg
  obtain ⟨d, hd, hpasses⟩ := Scan.through_passes _ _ _ _ ha
  refine ⟨_, haccount.registry.report profile.marker, h.modules, d, ?_, hpasses.generate⟩
  rcases h.origin hg d hd with hd | hinvalid
  · exact hd
  · exact absurd hinvalid hpasses.valid

/-- An artifact depends on modules that were loaded, and on nothing else. -/
theorem Made.dependencies {a : Artifact} (h : Made g marker a) :
    ∀ f ∈ a.dependencies, ∃ t ∈ g.modules.values, f = Registry.handleOf t := by
  obtain ⟨g', hg', ⟨more, hmodules⟩, d, hd, hgenerate⟩ := h
  obtain ⟨files, hfiles, hdependencies⟩ := generate_dependencies hgenerate
  obtain ⟨t, ht, hd⟩ := List.mem_flatMap.mp hd
  obtain ⟨info, -, rfl⟩ := List.mem_map.mp hd
  replace ht : t ∈ g.modules.values := List.mem_of_mem_drop ht
  intro f hf
  rw [hdependencies, List.mem_eraseDups] at hf
  -- the registry in which it was made knows the module of the declaration by the same table
  obtain ⟨entry, hentry, hvalue⟩ := List.mem_map.mp ht
  have hentry' : entry ∈ g'.modules.entries := hmodules ▸ List.mem_append_left more hentry
  have hmodule : g'.module? t.module = some t := by
    refine Table.get?_of_mem hg'.nodup ?_
    rw [← hvalue, hg'.named entry hentry']
    exact hentry'
  have hfiles : g'.originatingFiles (g.declarationOf t info) = files := Except.ok.inj hfiles
  unfold Registry.originatingFiles at hfiles
  rw [show (g.declarationOf t info).module = t.module from rfl, hmodule] at hfiles
  dsimp only at hfiles
  rw [← hfiles, List.mem_singleton] at hf
  exact ⟨t, ht, hf⟩

theorem once_made (hg : g.Loaded) (h : Reaches env profile g world round s)
    (hs : ∀ a ∈ s.run.artifacts, Made g profile.marker a)
    (honce : once env profile round s = (.ok (s', next), world')) :
    ∀ a ∈ s'.run.artifacts, Made g profile.marker a := by
  obtain ⟨_, artifacts, -, hsublist, -, hartifacts, -⟩ := (once_stepped honce).1.settled
  intro a ha
  rw [hartifacts] at ha
  rcases List.mem_append.mp ha with ha | ha
  · exact hs a ha
  · exact h.made hg (hsublist.subset ha)

/-- Every artifact of a run is made for a marked declaration that was loaded. -/
theorem run_made (hg : g.Loaded) (h : Rounds.run env profile g world = (.ok s, world')) :
    ∀ a ∈ s.run.artifacts, Made g profile.marker a := by
  refine run_induct (Q := fun s => ∀ a ∈ s.run.artifacts, Made g profile.marker a) ?_ ?_ ?_ h
  · exact fun a ha => by cases ha
  · exact fun hreaches hs honce => once_made hg hreaches hs honce
  · exact fun _ _ hs => hs

end Rounds

/-! ## 3. What is kept -/

section Publishing

variable {σ : Type} {env : Surroundings σ} {P : σ → Prop}
  {send : Artifact → σ → Except PublishFault Published × σ} {round : Nat}
  {artifacts : List Artifact}

theorem publishOne_keeps {a : Artifact} (hsend : ∀ world, P world → P (send a world).2)
    (d : Delivery) {world : σ} (h : P world) : P (publishOne env send round a d world).2 := by
  have hsent := hsend world h
  unfold publishOne
  split
  · exact h
  split <;>
  · next hanswer =>
    rw [hanswer] at hsent
    exact hsent

theorem publishInTurn_keeps
    (hsend : ∀ a ∈ artifacts, ∀ world, P world → P (send a world).2) (d : Delivery) {world : σ}
    (h : P world) : P (publishInTurn env send round artifacts d world).2 := by
  induction artifacts generalizing d world with
  | nil => exact h
  | cons a rest ih =>
    have hone : P (publishOne env send round a d world).2 :=
      publishOne_keeps (hsend a List.mem_cons_self) d h
    unfold publishInTurn
    split
    · next honce =>
      rw [honce] at hone
      exact ih (fun b hb => hsend b (List.mem_cons_of_mem _ hb)) _ hone
    · next honce =>
      rw [honce] at hone
      exact hone

theorem publishAll_keeps
    (hsend : ∀ a ∈ artifacts, ∀ world, P world → P (send a world).2) (d : Delivery) {world : σ}
    (h : P world) : P (publishAll env send round artifacts d world).2 := by
  induction artifacts generalizing d world with
  | nil => exact h
  | cons a rest ih =>
    have hone : P (publishOne env send round a d world).2 :=
      publishOne_keeps (hsend a List.mem_cons_self) d h
    have hrest := ih fun b hb => hsend b (List.mem_cons_of_mem _ hb)
    unfold publishAll
    split
    · next honce =>
      rw [honce] at hone
      exact hrest _ hone
    · next honce =>
      rw [honce] at hone
      exact hrest d hone

/-- What each artifact keeps that is taken up, a round keeps. -/
theorem publishRound_keeps
    (hsend : ∀ send, env.publish = some send → ∀ a ∈ batch env round artifacts, ∀ world, P world →
      P (send a world).2) {world : σ} (h : P world) :
    P (publishRound env round artifacts world).2 := by
  unfold batch at hsend
  unfold publishRound
  split
  · exact h
  · next send hpublish =>
    have hsend := hsend send hpublish
    split
    · next hone =>
      rw [if_pos hone] at hsend
      exact publishInTurn_keeps hsend _ h
    · next hpool =>
      rw [if_neg hpool] at hsend
      exact publishAll_keeps hsend _ h

end Publishing

namespace Rounds

variable {σ : Type} {env : Surroundings σ} {profile : Profile} {g : Registry} {world : σ}
  {round : Nat} {s : State σ} {P : σ → Prop}

/-- However a round ends, it leaves the world as publishing does. -/
theorem once_world (env : Surroundings σ) (profile : Profile) (round : Nat) (s : State σ) :
    (once env profile round s).2 =
      (publishRound env round (scanOf env profile.marker round s).artifacts s.world).2 := by
  unfold once scanOf answering
  dsimp only
  split <;> next h => rw [h]

theorem once_state_world {s' : State σ} {next : Next}
    (h : once env profile round s = (.ok (s', next), world)) : s'.world = world := by
  obtain ⟨delivery, moved, -, hclose, -⟩ := once_closed h
  exact (congrArg (·.1.world) hclose).symm

/-- A run that ends well has the world that its last state has. -/
theorem run_state_world {s : State σ} {world' : σ}
    (h : Rounds.run env profile g world = (.ok s, world')) : s.world = world' := by
  obtain ⟨last, before, after, next, -, honce, hnext, -⟩ := run_last h
  have hworld := once_state_world honce
  rcases hnext with ⟨-, rfl⟩ | ⟨-, rfl⟩
  · exact hworld
  · exact hworld

/-- What each artifact keeps that is taken up, a run keeps, however it ends. -/
theorem run_keeps
    (hsend : ∀ {round s}, Reaches env profile g world round s → ∀ send, env.publish = some send →
      ∀ a ∈ batch env round (scanOf env profile.marker round s).artifacts, ∀ world, P world →
        P (send a world).2)
    (h : P world) : P (Rounds.run env profile g world).2 := by
  have hloop : ∀ fuel round s, Reaches env profile g world round s → P s.world →
      P (loop env profile fuel round s).2 := by
    intro fuel
    induction fuel with
    | zero => exact fun _ _ _ hs => hs
    | succ fuel ih =>
      intro round s hreaches hs
      have honce : P (once env profile round s).2 := by
        rw [once_world]
        exact publishRound_keeps (hsend hreaches) hs
      unfold loop
      split
      · next hround =>
        rw [hround] at honce
        exact honce
      · next hround =>
        rw [hround] at honce
        exact honce
      · next hround =>
        rw [hround] at honce
        exact honce
      · next hround =>
        rw [hround] at honce
        refine ih _ _ (hreaches.again hround) ?_
        rw [once_state_world hround]
        exact honce
  exact hloop _ _ _ .start h

end Rounds

end FluentBuilders
