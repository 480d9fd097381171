import FluentBuilders.Proofs.Scan

/-!
A declaration that gets no builder leaves no trace in a round: the table of claimed modules is all that
declarations share, and only a builder is entered there.

1. `Scan.through_filter`: a round without some of the declarations that got no builder.
2. `Scan.run_without`: a round without one of them.
-/

namespace FluentBuilders

namespace Scan

/-! ## 1. Rounds over fewer declarations -/

/-- Where the outcome is no builder, there is nothing to claim. -/
theorem judge_unmade {r : Resolver} {claimed : Table String} {d : Declaration}
    (h : (judge r claimed d).1.status ≠ .generated) : (judge r claimed d).2 = none := by
  rcases (judge_judged r claimed d).artifact with ⟨a, -, -, hgenerated, -⟩ | ⟨hnone, -⟩
  · exact absurd hgenerated h
  · exact hnone

section Filter

variable {r : Resolver} {signal : List Declaration → Bool} {keep : Declaration → Bool}

/-- A round that nobody cuts short, without declarations that got no builder in it: all others have the
outcomes that they had, and the builders are the same. -/
theorem through_filter (hsignal : ∀ done, signal done = false) {ds : List Declaration}
    (done done' : List Declaration) {claimed : Table String}
    (hunmade : ∀ o ∈ (through r signal done claimed ds).outcomes,
      keep o.declaration = false → o.status ≠ .generated) :
    (through r signal done' claimed (ds.filter keep)).outcomes =
        (through r signal done claimed ds).outcomes.filter (fun o => keep o.declaration) ∧
      (through r signal done' claimed (ds.filter keep)).artifacts =
        (through r signal done claimed ds).artifacts := by
  induction ds generalizing done done' claimed with
  | nil => exact ⟨rfl, rfl⟩
  | cons d rest ih =>
    have hdeclaration := (judge_judged r claimed d).declaration
    rw [through, if_neg (by rw [hsignal]; exact Bool.false_ne_true)] at hunmade ⊢
    dsimp only [cons] at hunmade ⊢
    rw [List.forall_mem_cons] at hunmade
    rw [List.filter_cons, List.filter_cons, hdeclaration]
    by_cases hkeep : keep d = true
    · obtain ⟨houtcomes, hartifacts⟩ := ih (done ++ [d]) (done' ++ [d]) hunmade.2
      rw [if_pos hkeep, if_pos hkeep, through, if_neg (by rw [hsignal]; exact Bool.false_ne_true)]
      exact ⟨congrArg (_ :: ·) houtcomes, congrArg (_ ++ ·) hartifacts⟩
    · -- the declaration is left out: its judgement claimed nothing, so the rest sees the same table
      have hnone := judge_unmade (hunmade.1 (by rw [hdeclaration]; simpa using hkeep))
      rw [if_neg hkeep, if_neg hkeep]
      rw [hnone] at hunmade ⊢
      exact ih (done ++ [d]) done' hunmade.2

/-- The declarations that wait go with their outcomes. -/
theorem through_filter_pending (hsignal : ∀ done, signal done = false) {ds : List Declaration}
    {claimed : Table String}
    (hunmade : ∀ o ∈ (through r signal [] claimed ds).outcomes,
      keep o.declaration = false → o.status ≠ .generated) :
    (through r signal [] claimed (ds.filter keep)).pending =
      (through r signal [] claimed ds).pending.filter keep := by
  rw [(through_accounts ..).pending, (through_accounts ..).pending,
    (through_filter hsignal [] [] hunmade).1, List.filter_filter, List.filter_map, List.filter_filter]
  congr 2
  funext o
  exact Bool.and_comm _ _

end Filter

/-! ## 2. Rounds without one declaration -/

/-- The round, without what it says about `d`. -/
def without (s : Scan) (d : Declaration) : Scan where
  artifacts := s.artifacts
  pending := s.pending.filter (· ≠ d)
  outcomes := s.outcomes.filter (·.declaration ≠ d)
  cancelled := s.cancelled

/-- Whichever declaration of a round got no builder: without it every other declaration has the same
outcome, the builders are the same, and the same declarations wait. -/
theorem run_without (r : Resolver) {signal : List Declaration → Bool}
    (hsignal : ∀ done, signal done = false) {pending fresh : List Declaration}
    (hnames : ((pending ++ fresh).map (·.qualifiedName)).Nodup) {o : Outcome}
    (ho : o ∈ (run r signal pending fresh).outcomes) (hunmade : o.status ≠ .generated) :
    run r signal (pending.filter (· ≠ o.declaration)) (fresh.filter (· ≠ o.declaration)) =
      (run r signal pending fresh).without o.declaration := by
  have hsplit := List.filter_append (p := (· ≠ o.declaration)) pending fresh
  have hnames' : (((pending.filter (· ≠ o.declaration)) ++
      (fresh.filter (· ≠ o.declaration))).map (·.qualifiedName)).Nodup := by
    rw [← hsplit]
    exact hnames.sublist (List.filter_sublist.map _)
  unfold run at ho ⊢
  rw [candidates_of_nodup hnames] at ho ⊢
  rw [candidates_of_nodup hnames', ← hsplit]
  -- a declaration has one outcome, so that the one left out is the one that got no builder
  have haccounts := through_accounts r signal [] .empty (pending ++ fresh)
  have hone : ∀ o' ∈ (through r signal [] .empty (pending ++ fresh)).outcomes,
      o'.declaration = o.declaration → o' = o := by
    have hnodup : ((through r signal [] .empty (pending ++ fresh)).outcomes.map
        (·.declaration)).Nodup := by
      rw [haccounts.declarations]
      exact .of_map _ hnames
    exact fun o' ho' hsame => List.inj_on_of_nodup_map hnodup ho' ho hsame
  let keep (d : Declaration) : Bool := decide (d ≠ o.declaration)
  have hdropped : ∀ o' ∈ (through r signal [] .empty (pending ++ fresh)).outcomes,
      keep o'.declaration = false → o'.status ≠ .generated := fun o' ho' hsame =>
    hone o' ho' (by simpa [keep] using hsame) ▸ hunmade
  obtain ⟨houtcomes, hartifacts⟩ := through_filter hsignal [] [] hdropped
  have hpending := through_filter_pending hsignal hdropped
  have hwhole := through_whole r hsignal [] .empty ((pending ++ fresh).filter (· ≠ o.declaration))
  have hwhole' := through_whole r hsignal [] .empty (pending ++ fresh)
  unfold without
  rw [← houtcomes, ← hartifacts, ← hpending, hwhole', ← hwhole]

/-- A resolver to whom every declaration is ready and has no properties. -/
def bareResolver : Resolver where
  isReady _ := .ok true
  properties _ := .ok []
  originatingFiles _ := .ok []

/-- Of three declarations the second wants the module of the first. -/
theorem run_without_twin :
    let d (module name : String) : Declaration := ⟨"p", name, module, [], .resolved, []⟩
    run bareResolver (fun _ => false) [d "p.a" "Foo"] [d "p.b" "Bar"] =
      (run bareResolver (fun _ => false) [d "p.a" "Foo"] [d "p.b" "Foo", d "p.b" "Bar"]).without
        (d "p.b" "Foo") := by
  intro d
  have hlost : Outcome.without (d "p.b" "Foo") .failed [Reason.nameCollision]
      (some "p.foo_builder already generated for p.a.Foo") ∈
      (run bareResolver (fun _ => false) [d "p.a" "Foo"] [d "p.b" "Foo", d "p.b" "Bar"]).outcomes := by
    decide +kernel
  exact run_without bareResolver (fun _ => rfl) (by decide +kernel) hlost (by decide)

end Scan

end FluentBuilders
