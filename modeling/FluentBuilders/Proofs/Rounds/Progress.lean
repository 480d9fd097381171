import Mathlib.Data.List.Dedup
import FluentBuilders.Proofs.Rounds.FixedPoint

/-!
How many rounds a run takes.

1. What makes a round move: a declaration that is not put off.
2. `Registry.markedNames`: the names that a run can find reported, as long as builders carry no marker.
3. `once_shrinks`: a round that another follows leaves fewer declarations than it had.
4. `run_progresses`: there are no more rounds than marked names, whatever else bounds them.
-/

namespace FluentBuilders

/-! ## 1. Rounds that move -/

/-- Where a builder went in, there was one to feed. -/
theorem Registry.feedAll_fed {g : Registry} {done : Table Published} {artifacts : List Artifact}
    (h : 0 < (g.feedAll done artifacts).2) : artifacts ≠ [] := by
  rintro rfl
  exact absurd h (Nat.lt_irrefl 0)

namespace Rounds

variable {σ : Type} {env : Surroundings σ} {profile : Profile} {g : Registry} {world world' : σ}
  {round : Nat} {s s' : State σ}

/-- A round that moves has an outcome that is not put off. -/
theorem close_settles {waiting : List String} {scan : Scan} {ds : List Declaration}
    {delivery : Delivery} (hscan : scan.Accounts ds)
    (h : (close round waiting scan delivery s).2 = true) :
    ∃ o ∈ scan.outcomes, o.status ≠ .deferred := by
  rcases Bool.or_eq_true_iff.mp h with hfed | hany
  · obtain ⟨a, ha⟩ := List.exists_mem_of_ne_nil _ (Registry.feedAll_fed (of_decide_eq_true hfed))
    obtain ⟨o, ho, -⟩ := Outcome.Makes.maker hscan.artifacts (List.mem_of_mem_filter ha)
    obtain ⟨ho, hstatus⟩ := List.mem_filter.mp ho
    refine ⟨o, ho, ?_⟩
    rw [show o.status = .generated by simpa using hstatus]
    decide
  · obtain ⟨o, ho, hmoved⟩ := List.any_eq_true.mp hany
    rw [Bool.and_eq_true] at hmoved
    exact ⟨o, ho, by simpa using hmoved.2⟩

/-- What a round that another follows leaves is part of what it worked on, and not all of it. -/
theorem once_leaves (hlasting : env.Lasting)
    (h : once env profile round s = (.ok (s', .again), world')) :
    s'.pending.Sublist (work profile.marker s) ∧ s'.pending ≠ [] ∧
      s'.pending.length < (work profile.marker s).length := by
  obtain ⟨delivery, moved, hwhole, hclose, hnext, -⟩ := once_uncut hlasting h (by decide)
  have haccounts := scanOf_accounts env profile round s
  have hgoes : s'.pending ≠ [] ∧ moved = true := by
    unfold Rounds.next at hnext
    split at hnext
    · cases hnext
    · split at hnext
      · cases hnext
      · next hgo =>
        simp only [Bool.or_eq_true, not_or, Bool.not_eq_true, Bool.not_eq_false',
          List.isEmpty_eq_false_iff] at hgo
        exact ⟨hgo.1.1, hgo.1.2⟩
  obtain ⟨hpending, rfl⟩ := hgoes
  obtain ⟨o, ho, hstatus⟩ := close_settles haccounts (congrArg Prod.snd hclose)
  -- nothing was put off at the publisher, so what is left is what the scan put off
  have hleft : s'.pending = ((scanOf env profile.marker round s).outcomes.filter
      (·.status == .deferred)).map (·.declaration) := by
    have hnone : (scanOf env profile.marker round s).outcomes.filter
        (Outcome.isPutOff delivery.failures) = [] :=
      List.filter_eq_nil_iff.mpr fun o _ => by rw [hwhole.isPutOff]; exact Bool.false_ne_true
    rw [show s' = _ from (congrArg Prod.fst hclose).symm, ← haccounts.pending]
    exact (congrArg (fun l => _ ++ l.map (·.declaration)) hnone).trans (List.append_nil _)
  have hwork := haccounts.declarations
  refine ⟨?_, hpending, ?_⟩
  · rw [hleft, ← hwork]
    exact List.filter_sublist.map _
  · rw [hleft, ← hwork, List.length_map, List.length_map]
    exact List.length_filter_lt_length_iff_exists.mpr ⟨o, ho, by simpa using hstatus⟩

end Rounds

/-! ## 2. Marked names -/

/-- The qualified names of the declarations of all modules that carry the marker. -/
def Registry.markedNames (g : Registry) (marker : String) : List String :=
  (g.modules.values.flatMap (g.declarationsOf marker)).map (·.qualifiedName)

/-- The modules that came to `g` until it was `g'` carry no marker. -/
def Registry.Unmarked (g g' : Registry) (marker : String) : Prop :=
  ∀ t ∈ g'.modules.values.drop g.modules.size, ∀ info ∈ t.decorated,
    Registry.isMarked t marker info = false

theorem Registry.Unmarked.refl (g : Registry) (marker : String) : g.Unmarked g marker := by
  intro t ht
  have hnone : g.modules.values.drop g.modules.size = [] :=
    List.drop_eq_nil_of_le (Nat.le_of_eq (List.length_map _))
  rw [hnone] at ht
  cases ht

theorem Registry.Loaded.report_names {g : Registry} (hg : g.Loaded) (marker : String) :
    (g.report marker).1.map (·.qualifiedName) = g.markedNames marker := by
  unfold Registry.report Registry.markedNames
  rw [hg.cursor]
  rfl

/-- Where only modules without markers came, nothing new is reported. -/
theorem Registry.Unmarked.report {g g' : Registry} {marker : String} (h : g.Unmarked g' marker)
    (hcursor : g.modules.size ≤ g'.cursor marker) : (g'.report marker).1 = [] := by
  unfold Registry.report
  rw [List.flatMap_eq_nil_iff]
  intro t ht
  unfold Registry.declarationsOf
  rw [List.map_eq_nil_iff, List.filter_eq_nil_iff]
  intro info hinfo
  have ht : t ∈ g'.modules.values.drop g.modules.size := by
    rw [← Nat.sub_add_cancel hcursor, Nat.add_comm, ← List.drop_drop] at ht
    exact List.mem_of_mem_drop ht
  rw [h t ht info hinfo]
  exact Bool.false_ne_true

/-- The cursor of a marker that was just reported stands behind all modules. -/
theorem Registry.Grows.cursor_report {g g' : Registry} {marker : String}
    (h : Registry.Grows (g.report marker).2 g') : g'.cursor marker = g.modules.size := by
  unfold Registry.cursor
  rw [h.cursors]
  unfold Registry.report
  rw [Table.get?_insert, if_pos rfl]
  rfl

/-! ## 3. Rounds that shrink -/

namespace Rounds

variable {σ : Type} {env : Surroundings σ} {profile : Profile} {g : Registry} {world world' : σ}
  {round : Nat} {s s' : State σ}

/-- From the second round on, all modules that were loaded have been searched. -/
theorem Reaches.cursor (h : Reaches env profile g world round s) (hlater : 1 < round) :
    g.modules.size ≤ s.registry.cursor profile.marker := by
  cases h with
  | start => exact absurd hlater (Nat.lt_irrefl 1)
  | again hbefore honce =>
    rw [(once_stepped honce).1.registry.cursor_report]
    exact hbefore.modules.length_le

/-- The first round works on the marked names, each once. -/
theorem first_work (hg : g.Loaded) (world : σ) :
    (work profile.marker (⟨g, world, [], .empty⟩ : State σ)).length ≤
      (g.markedNames profile.marker).dedup.length := by
  have hnames : ((work profile.marker (⟨g, world, [], .empty⟩ : State σ)).map
      (·.qualifiedName)).Nodup := nodup_firstOfEach _ _
  rw [← List.length_map (f := (·.qualifiedName))]
  refine (List.subperm_of_subset hnames fun q hq => ?_).length_le
  rw [List.mem_dedup, ← hg.report_names]
  rcases (work_names profile.marker _ q).mp hq with hq | hq
  · cases hq
  · exact hq

/-- A later round works on what waits, and on nothing else. -/
theorem Reaches.later_work (hg : g.Loaded) (h : Reaches env profile g world round s)
    (hlater : 1 < round) (hfed : g.Unmarked s.registry profile.marker) :
    work profile.marker s = s.pending := by
  obtain ⟨names, hnames⟩ := h.account hg
  unfold work
  rw [hfed.report (h.cursor hlater)]
  rw [candidates_of_nodup (by rw [List.append_nil]; exact hnames.pendingNames), List.append_nil]

/-- A round that another follows shrinks what waits; the first leaves fewer declarations than there
are marked names. -/
theorem once_shrinks (hlasting : env.Lasting) (hg : g.Loaded)
    (h : Reaches env profile g world round s) (hfed : g.Unmarked s.registry profile.marker)
    (honce : once env profile round s = (.ok (s', .again), world')) :
    (round = 1 → s'.pending.length + 1 ≤ (g.markedNames profile.marker).dedup.length) ∧
      (1 < round → s'.pending.Sublist s.pending ∧ s'.pending.length < s.pending.length) := by
  obtain ⟨hsublist, -, hlength⟩ := once_leaves hlasting honce
  constructor
  · rintro rfl
    cases h with
    | start => exact Nat.lt_of_lt_of_le hlength (first_work hg world)
    | again hbefore _ => have := hbefore.rounds; omega
  · intro hlater
    rw [h.later_work hg hlater hfed] at hsublist hlength
    exact ⟨hsublist, hlength⟩

/-! ## 4. The number of rounds -/

/-- What waits before a round, and the rounds that are over, make no more than the marked names. -/
theorem Reaches.measure (hlasting : env.Lasting) (hg : g.Loaded)
    (hfed : ∀ round r, Reaches env profile g world round r →
      g.Unmarked r.registry profile.marker)
    (h : Reaches env profile g world round s) (hlater : 1 < round) :
    s.pending ≠ [] ∧ s.pending.length + round ≤
      (g.markedNames profile.marker).dedup.length + 1 := by
  induction h with
  | start => exact absurd hlater (Nat.lt_irrefl 1)
  | @again round s s' world' hbefore honce ih =>
    obtain ⟨hfirst, hrest⟩ := once_shrinks hlasting hg hbefore (hfed _ _ hbefore) honce
    refine ⟨(once_leaves hlasting honce).2.1, ?_⟩
    by_cases hone : round = 1
    · have := hfirst hone
      omega
    · have hround : 1 < round := by
        have := hbefore.rounds
        omega
      have := (hrest hround).2
      have := (ih hround).2
      omega

/-- A run takes at most as many rounds as there are marked names, and never more than its profile
allows, but one in any case: as long as builders carry no marker, each round that another follows
leaves fewer declarations waiting than there were. -/
theorem run_progresses (hlasting : env.Lasting) (hg : g.Loaded)
    (hfed : ∀ round r, Reaches env profile g world round r →
      g.Unmarked r.registry profile.marker) :
    (∀ round r, Reaches env profile g world round r →
      round ≤ max 1 (g.markedNames profile.marker).dedup.length ∧
      (round : Int) ≤ max 1 profile.maxRounds ∧
      ∀ r' world', once env profile round r = (.ok (r', .again), world') →
        (round = 1 → r'.pending.length + 1 ≤ (g.markedNames profile.marker).dedup.length) ∧
        (1 < round → r'.pending.Sublist r.pending ∧ r'.pending.length < r.pending.length)) ∧
      ∀ s world', Rounds.run env profile g world = (.ok s, world') →
        s.run.rounds.length ≤ max 1 (g.markedNames profile.marker).dedup.length ∧
        (s.run.rounds.length : Int) ≤ max 1 profile.maxRounds := by
  have hbound : ∀ round r, Reaches env profile g world round r →
      round ≤ max 1 (g.markedNames profile.marker).dedup.length ∧
        (round : Int) ≤ max 1 profile.maxRounds := by
    intro round r h
    obtain ⟨fuel, hfuel, -⟩ := h.run_eq
    refine ⟨?_, by omega⟩
    by_cases hlater : 1 < round
    · obtain ⟨hpending, hmeasure⟩ := h.measure hlasting hg hfed hlater
      have := List.length_pos_iff.mpr hpending
      omega
    · omega
  refine ⟨fun round r h => ⟨(hbound round r h).1, (hbound round r h).2, fun r' world' honce => ?_⟩,
    fun s world' hrun => ?_⟩
  · exact once_shrinks hlasting hg h (hfed round r h) honce
  · obtain ⟨last, before, -, -, hreaches, -, -, hlength⟩ := run_last hrun
    rw [hlength]
    exact hbound last before hreaches

set_option maxRecDepth 100000 in
/-- Where one class waits for a name that nobody supplies, there is one round for one marked name. -/
theorem run_progresses_waiting : (waiting.markedNames Profile.standard.marker).dedup.length = 1 ∧
    ∃ s, Rounds.run undisturbed .standard waiting () = (.ok s, ()) ∧ s.run.rounds.length ≤ 1 := by
  have hnames : waiting.markedNames Profile.standard.marker = ["shop.Order"] := by decide +kernel
  have hstop : (match (once undisturbed .standard 1 ⟨waiting, (), [], .empty⟩).1 with
      | .ok r => decide (r.2 = .stop)
      | .error _ => false) = true := by decide +kernel
  have hloaded : waiting.Loaded := Registry.Loaded.empty.add_ok List.not_mem_nil _ _ _
  have hfed : ∀ round r, Reaches undisturbed .standard waiting () round r →
      waiting.Unmarked r.registry Profile.standard.marker := by
    have honly : ∀ round r, Reaches undisturbed .standard waiting () round r →
        round = 1 ∧ r = ⟨waiting, (), [], .empty⟩ := by
      intro round r h
      induction h with
      | start => exact ⟨rfl, rfl⟩
      | again _ honce ih =>
        obtain ⟨rfl, rfl⟩ := ih
        rw [honce] at hstop
        exact absurd hstop Bool.false_ne_true
    intro round r h
    rw [(honly round r h).2]
    exact .refl waiting _
  obtain ⟨s, world, hrun⟩ := loop_ok undisturbed_answers .standard 10 1 ⟨waiting, (), [], .empty⟩
  have hrun : Rounds.run undisturbed .standard waiting () = (.ok s, ()) := hrun
  have hbound := ((run_progresses undisturbed_lasting hloaded hfed).2 s () hrun).1
  rw [hnames] at hbound ⊢
  exact ⟨rfl, s, hrun, hbound⟩

end Rounds

end FluentBuilders
