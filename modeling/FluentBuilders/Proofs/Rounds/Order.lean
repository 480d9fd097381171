import FluentBuilders.Proofs.Registry.Order
import FluentBuilders.Proofs.Rounds.Keeping
import FluentBuilders.Proofs.Scan.Order

/-!
A run without a publisher does not depend on the order in which its modules were loaded.

1. Feeding builders of different modules back: those whose names are free go in.
2. `Surroundings.Dry`: neither a publisher nor a signal; the modules that such a round brings in.
3. `Reaches.apart`: where marked declarations have different builder modules, no two of a round get in
   each other's way.
4. `Reordered`: states that differ in the order of what they hold, and `Reordered.once`: a round keeps
   them so.
5. `run_order`: modules that are added in two orders lead to the same end.
-/

namespace FluentBuilders

open Text

/-! ## 1. Feeding builders back -/

namespace Registry

/-- The module that a builder becomes where no publisher gave it a place. -/
def builderEntry (a : Artifact) : String × SymbolTable :=
  (a.module, .ofParsed (.ofBytes (encode a.text) a.module) a.module false)

variable {g : Registry}

theorem feed_free {a : Artifact} (h : a.module ∉ g.names) :
    (g.feed a none).2 = true ∧
      (g.feed a none).1.modules.entries = g.modules.entries ++ [builderEntry a] := by
  obtain ⟨g', hadd⟩ := addBytes_ok h (encode a.text) a.module false
  have hentries := addBytes_entries hadd
  unfold feed addText
  rw [show ((none : Option Published).map (·.path)).getD a.module = a.module from rfl, hadd]
  exact ⟨rfl, hentries⟩

theorem feed_taken {a : Artifact} (h : a.module ∈ g.names) (place : Option Published) :
    g.feed a place = (g, false) := by
  unfold feed addText
  split
  · next hadd => exact absurd h (addBytes_eq hadd).1
  · rfl

/-- Of builders in different modules those go in whose names are free, in their order. -/
theorem feedAll_apart (g : Registry) {artifacts : List Artifact}
    (h : (artifacts.map (·.module)).Nodup) :
    (g.feedAll .empty artifacts).1.modules.entries = g.modules.entries ++
        (artifacts.filter fun a => !g.modules.contains a.module).map builderEntry ∧
      (g.feedAll .empty artifacts).2 =
        (artifacts.filter fun a => !g.modules.contains a.module).length := by
  induction artifacts generalizing g with
  | nil => simp [feedAll]
  | cons a rest ih =>
    rw [List.map_cons, List.nodup_cons] at h
    unfold feedAll
    dsimp only
    rw [Table.get?_empty]
    by_cases hmem : a.module ∈ g.names
    · rw [feed_taken hmem]
      have htaken : g.modules.contains a.module = true := (g.modules.contains_iff _).mpr hmem
      simp only [List.filter_cons, htaken, Bool.not_true, Bool.false_eq_true, if_false]
      exact ih g h.2
    · obtain ⟨hwent, hentries⟩ := feed_free hmem
      have hfree : g.modules.contains a.module = false := by
        rw [← Bool.not_eq_true, g.modules.contains_iff]
        exact hmem
      -- the others have other modules, so this one takes no name from them
      have hrest : rest.filter (fun b => !(g.feed a none).1.modules.contains b.module) =
          rest.filter fun b => !g.modules.contains b.module := by
        refine List.filter_congr fun b hb => congrArg Bool.not (Bool.eq_iff_iff.mpr ?_)
        have hne : b.module ≠ a.module := fun e => h.1 (e ▸ List.mem_map_of_mem hb)
        rw [Table.contains_iff, Table.contains_iff]
        unfold Table.keys
        rw [hentries]
        simp [builderEntry, hne]
      obtain ⟨ih₁, ih₂⟩ := ih (g.feed a none).1 h.2
      rw [ih₁, ih₂, hwent, hrest, hentries, List.filter_cons_of_pos (by simp [hfree])]
      exact ⟨by simp, rfl⟩

end Registry

/-! ## 2. Rounds without a publisher -/

/-- There is no publisher, and nobody cancels. -/
structure Surroundings.Dry {σ : Type} (env : Surroundings σ) : Prop where
  publish : env.publish = none
  never : ∀ world m, env.cancelled world m = false

namespace Rounds

variable {σ : Type} {env : Surroundings σ} {profile : Profile} {g : Registry} {world world' : σ}
  {round : Nat} {s s' : State σ} {next : Next} {marker : String}

/-- The builders of a round that go in, as modules. -/
def newcomers (env : Surroundings σ) (marker : String) (round : Nat) (s : State σ) :
    List (String × SymbolTable) :=
  ((scanOf env marker round s).artifacts.filter fun a =>
    !s.registry.modules.contains a.module).map Registry.builderEntry

/-- They stand behind the other modules, and the next round searches them for the marker. -/
theorem DryStep.modules {moved : Bool} (h : DryStep env marker round s s' moved) :
    s'.registry.modules.entries = s.registry.modules.entries ++ newcomers env marker round s ∧
      s'.registry.modules.entries.drop (s'.registry.cursor marker) = newcomers env marker round s ∧
      ((s.registry.report marker).2.feedAll .empty (scanOf env marker round s).artifacts).2 =
        (newcomers env marker round s).length := by
  have hmodules := (Scan.through_modules (answering marker s)
    (fun done => env.cancelled s.world (.scanning round done)) [] .empty (work marker s)).1
  obtain ⟨hentries, hcount⟩ := Registry.feedAll_apart (s.registry.report marker).2 hmodules
  have hentries' : s'.registry.modules.entries =
      s.registry.modules.entries ++ newcomers env marker round s := by
    rw [h.registry]
    exact hentries
  have hcursor : s'.registry.cursor marker = s.registry.modules.size := by
    rw [h.registry]
    exact (Registry.feedAll_grows ..).cursor_report
  refine ⟨hentries', ?_, ?_⟩
  · rw [hcursor, hentries']
    exact List.drop_left
  · rw [newcomers, List.length_map]
    exact hcount

end Rounds

/-! ## 3. Declarations apart -/

/-- Different marked declarations have different builder modules. -/
def Registry.Separate (g : Registry) (marker : String) : Prop :=
  ∀ d ∈ (g.report marker).1, ∀ d' ∈ (g.report marker).1,
    builderModule d.package d.name = builderModule d'.package d'.name →
      d.qualifiedName = d'.qualifiedName

instance (g : Registry) (marker : String) : Decidable (g.Separate marker) :=
  inferInstanceAs (Decidable (∀ d ∈ _, ∀ d' ∈ _, _ → _))

namespace Rounds

variable {σ : Type} {env : Surroundings σ} {profile : Profile} {g : Registry} {world world' : σ}
  {round : Nat} {s s' : State σ} {next : Next} {marker : String}

/-- Where marked declarations have different builder modules, no two declarations of a round get in
each other's way. -/
theorem Reaches.apart (hg : g.Loaded) (hseparate : g.Separate profile.marker)
    (h : Reaches env profile g world round s) :
    BuildersApart (answering profile.marker s) (work profile.marker s) := by
  have hmade : ∀ d ∈ work profile.marker s, ∀ a,
      (judgeAlone (answering profile.marker s) d).2 = some a →
        d ∈ (g.report profile.marker).1 ∧ a.module = builderModule d.package d.name := by
    intro d hd a ha
    have hpasses := Scan.judge_passes ha
    refine ⟨?_, (generate_spec hpasses.generate).2⟩
    rcases h.origin hg d hd with hd | hinvalid
    · exact hd
    · exact absurd hinvalid hpasses.valid
  intro d hd d' hd' a a' ha ha' hsame
  obtain ⟨hd, hmodule⟩ := hmade d hd a ha
  obtain ⟨hd', hmodule'⟩ := hmade d' hd' a' ha'
  exact hseparate d hd d' hd' (hmodule.symm.trans (hsame.trans hmodule'))

/-! ## 4. States in another order -/

/-- The blocks in which a round finds its declarations: those that waited, each by itself, and those
of each new module. -/
def blocks (marker : String) (s : State σ) : List (List Declaration) :=
  s.pending.map (fun d => [d]) ++
    (s.registry.modules.entries.drop (s.registry.cursor marker)).map fun entry =>
      s.registry.declarationsOf marker entry.2

theorem work_eq_blocks (marker : String) (s : State σ) :
    work marker s = firstOfEach [] (blocks marker s).flatten := by
  have hpending : (s.pending.map fun d => [d]).flatten = s.pending := by
    rw [← List.flatMap_def, List.flatMap_singleton']
  have hfresh : ((s.registry.modules.entries.drop (s.registry.cursor marker)).map fun entry =>
      s.registry.declarationsOf marker entry.2).flatten = (s.registry.report marker).1 := by
    unfold Registry.report Table.values
    rw [← List.flatMap_def, ← List.map_drop, List.flatMap_map]
  unfold work candidates blocks
  rw [List.flatten_append, hpending, hfresh]

/-- No name is in two blocks: what waits has been reported before, and a name tells its module. -/
theorem Account.namesApart {names : List String} (h : Account marker names s) :
    NamesApart (blocks marker s) := by
  have hreported : ∀ {entry : String × SymbolTable} {d : Declaration},
      entry ∈ s.registry.modules.entries.drop (s.registry.cursor marker) →
        d ∈ s.registry.declarationsOf marker entry.2 → d ∈ (s.registry.report marker).1 := by
    intro entry d hentry hd
    refine List.mem_flatMap.mpr ⟨entry.2, ?_, hd⟩
    unfold Table.values
    rw [← List.map_drop]
    exact List.mem_map_of_mem hentry
  have hwaits : ∀ {d d' : Declaration}, d ∈ s.pending → d' ∈ (s.registry.report marker).1 →
      d.qualifiedName ≠ d'.qualifiedName := by
    intro d d' hd hd' e
    obtain ⟨n, o, hget, -⟩ := h.pending_known (List.mem_map_of_mem hd)
    refine h.fresh hd' ((h.known _).mp ?_)
    by_contra hnone
    rw [← e, ← Table.get?_eq_none_iff, hget] at hnone
    cases hnone
  have hof : ∀ {entry : String × SymbolTable} {d : Declaration},
      entry ∈ s.registry.modules.entries.drop (s.registry.cursor marker) →
        d ∈ s.registry.declarationsOf marker entry.2 → d.IsOf entry.1 := by
    intro entry d hentry hd
    obtain ⟨info, hinfo, rfl⟩ := List.mem_map.mp hd
    have hmem := List.mem_of_mem_drop hentry
    exact ⟨h.registry.named entry hmem, h.registry.plain _ (List.mem_map_of_mem hmem) info
      (List.mem_of_mem_filter hinfo)⟩
  intro b hb b' hb' d hd d' hd' e
  unfold blocks at hb hb'
  rw [List.mem_append, List.mem_map, List.mem_map] at hb hb'
  rcases hb with ⟨w, hw, rfl⟩ | ⟨entry, hentry, rfl⟩ <;>
    rcases hb' with ⟨w', hw', rfl⟩ | ⟨entry', hentry', rfl⟩
  · rw [List.mem_singleton.mp hd, List.mem_singleton.mp hd'] at e
    rw [List.inj_on_of_nodup_map h.pendingNames hw hw' e]
  · rw [List.mem_singleton.mp hd] at e
    exact absurd e (hwaits hw (hreported hentry' hd'))
  · rw [List.mem_singleton.mp hd'] at e
    exact absurd e.symm (hwaits hw' (hreported hentry hd))
  · have hkey := ((hof hentry hd).of_qualifiedName (hof hentry' hd') e).1
    rw [List.inj_on_of_nodup_map (f := Prod.fst) h.registry.nodup (List.mem_of_mem_drop hentry)
      (List.mem_of_mem_drop hentry') hkey]

end Rounds

/-- Runs that did the same, in another order. -/
structure Run.Reorders (run run' : Run) : Prop where
  rounds : run'.rounds = run.rounds
  artifacts : run'.artifacts.Perm run.artifacts
  outcomes : ∀ q, run'.outcomes.get? q = run.outcomes.get? q
  unresolved : run'.unresolved.Perm run.unresolved
  cancelled : run'.cancelled = run.cancelled

/-- The numbers of a round do not depend on the order of its outcomes. -/
theorem RoundReport.ofOutcomes_perm (round : Nat) (cancelled : Bool) {os os' : List Outcome}
    (h : os'.Perm os) : ofOutcomes round cancelled os' = ofOutcomes round cancelled os := by
  unfold ofOutcomes
  rw [h.length_eq, h.countP_eq, h.countP_eq, h.countP_eq, h.countP_eq]

/-- Outcomes of different names are found in every order. -/
theorem addOutcomes_perm {run run' : Run} (round : Nat) {os os' : List Outcome}
    (hos : (os.map Outcome.qualifiedName).Nodup) (h : os'.Perm os)
    (hrun : ∀ q, run'.outcomes.get? q = run.outcomes.get? q) (q : String) :
    (run'.addOutcomes round os').outcomes.get? q = (run.addOutcomes round os).outcomes.get? q := by
  have hos' : (os'.map Outcome.qualifiedName).Nodup := (h.map _).nodup_iff.mpr hos
  rcases Rounds.addOutcomes_get? run round hos q with ⟨o, ho, rfl, e⟩ | ⟨hq, e⟩
  · rw [e]
    exact Table.get?_inserts_of_mem run'.outcomes hos' (h.mem_iff.mpr ho)
  · rw [e, ← hrun q]
    exact Table.get?_inserts_of_not_mem run'.outcomes fun hq' => hq ((h.map _).mem_iff.mp hq')

namespace Rounds

variable {σ : Type} {env : Surroundings σ} {profile : Profile} {g : Registry} {world world' : σ}
  {round : Nat} {s s' : State σ} {next : Next} {marker : String}

/-- States that hold the same, in another order. -/
structure Reordered (marker : String) (s s' : State σ) : Prop where
  registry : s.registry.Reorders s'.registry
  fresh : (s'.registry.modules.entries.drop (s'.registry.cursor marker)).Perm
    (s.registry.modules.entries.drop (s.registry.cursor marker))
  world : s'.world = s.world
  pending : s'.pending.Perm s.pending
  run : s.run.Reorders s'.run

theorem Reordered.work {names : List String} (haccount : Account marker names s)
    (h : Reordered marker s s') : (work marker s').Perm (work marker s) := by
  rw [work_eq_blocks, work_eq_blocks]
  refine firstOfEach_perm ?_ haccount.namesApart
  unfold blocks
  rw [h.registry.declarationsOf]
  exact (h.pending.map _).append (h.fresh.map _)

/-- The scans of both states give the same, in another order. -/
theorem Reordered.scan (hdry : env.Dry) {names : List String} (haccount : Account marker names s)
    (hapart : BuildersApart (answering marker s) (Rounds.work marker s)) (round : Nat)
    (h : Reordered marker s s') :
    (scanOf env marker round s').outcomes.Perm (scanOf env marker round s).outcomes ∧
      (scanOf env marker round s').artifacts.Perm (scanOf env marker round s).artifacts ∧
      (scanOf env marker round s').pending.Perm (scanOf env marker round s).pending ∧
      (scanOf env marker round s').cancelled = (scanOf env marker round s).cancelled := by
  have hnever : ∀ (s : State σ) done, env.cancelled s.world (.scanning round done) = false :=
    fun s done => hdry.never ..
  have hanswering : answering marker s' = answering marker s := (h.registry.report marker).resolver
  obtain ⟨houtcomes, hartifacts, hpending⟩ := Scan.through_perm (hnever s) (hnever s')
    (nodup_firstOfEach [] _) hapart (h.work haccount)
  unfold scanOf Scan.run
  rw [hanswering, Scan.through_whole _ (hnever s), Scan.through_whole _ (hnever s')]
  exact ⟨houtcomes, hartifacts, hpending, rfl⟩

/-- Dry rounds keep states the same but for the order, and move both or none. -/
theorem Reordered.step (hdry : env.Dry) {names : List String}
    (haccount : Account profile.marker names s)
    (hapart : BuildersApart (answering profile.marker s) (Rounds.work profile.marker s))
    (h : Reordered profile.marker s s') {t t' : State σ} {moved moved' : Bool}
    (hstep : DryStep env profile.marker round s t moved)
    (hstep' : DryStep env profile.marker round s' t' moved') :
    moved' = moved ∧ Reordered profile.marker t t' := by
  obtain ⟨houtcomes, hartifacts, hpending, hcancelled⟩ := h.scan hdry haccount hapart round
  have hnames : ((scanOf env profile.marker round s).outcomes.map Outcome.qualifiedName).Nodup := by
    have haccounts := scanOf_accounts env profile round s
    rw [show (scanOf env profile.marker round s).outcomes.map Outcome.qualifiedName =
      ((scanOf env profile.marker round s).outcomes.map (·.declaration)).map (·.qualifiedName) by
        rw [List.map_map]; rfl, haccounts.declarations]
    exact nodup_firstOfEach [] _
  have hnew : (newcomers env profile.marker round s').Perm
      (newcomers env profile.marker round s) := by
    unfold newcomers
    rw [funext h.registry.contains]
    exact (hartifacts.filter _).map _
  obtain ⟨hentries, hfresh, hcount⟩ := hstep.modules
  obtain ⟨hentries', hfresh', hcount'⟩ := hstep'.modules
  constructor
  · rw [hstep.moved, hstep'.moved, hcount, hcount', hnew.length_eq, houtcomes.any_eq]
    simp only [(h.pending.map _).contains_eq]
  exact
    { registry := by
        refine ⟨?_, ?_⟩
        · rw [hstep.registry]
          exact ((Registry.feedAll_grows ..).sound (haccount.registry.report _)).nodup
        · rw [hentries, hentries']
          exact h.registry.modules.append hnew
      fresh := by
        rw [hfresh, hfresh']
        exact hnew
      world := by rw [hstep.world, hstep'.world, h.world]
      pending := by
        rw [hstep.pending, hstep'.pending]
        exact hpending
      run :=
        { rounds := by
            rw [hstep.rounds, hstep'.rounds, h.run.rounds, hcancelled,
              RoundReport.ofOutcomes_perm _ _ houtcomes]
          artifacts := by
            rw [hstep.artifacts, hstep'.artifacts]
            exact h.run.artifacts.append hartifacts
          outcomes := by
            rw [hstep.outcomes, hstep'.outcomes]
            exact addOutcomes_perm round hnames houtcomes h.run.outcomes
          unresolved := by
            rw [hstep.unresolved, hstep'.unresolved]
            exact h.run.unresolved
          cancelled := by rw [hstep.cancelled, hstep'.cancelled, h.run.cancelled] } }

/-- After a dry round another one follows in both or in none. -/
theorem Reordered.once (hdry : env.Dry) {names : List String}
    (haccount : Account profile.marker names s)
    (hapart : BuildersApart (answering profile.marker s) (Rounds.work profile.marker s))
    (round : Nat) (h : Reordered profile.marker s s') :
    ∃ t t' next, Rounds.once env profile round s = (.ok (t, next), s.world) ∧
      Rounds.once env profile round s' = (.ok (t', next), s.world) ∧ t.world = s.world ∧
      Reordered profile.marker t t' := by
  obtain ⟨t, moved, honce, hstep⟩ := once_dry hdry.publish profile round s
  obtain ⟨t', moved', honce', hstep'⟩ := once_dry hdry.publish profile round s'
  obtain ⟨hmoved, hreordered⟩ := h.step hdry haccount hapart hstep hstep'
  have hnext : Rounds.next env profile.maxRounds round moved' t' =
      Rounds.next env profile.maxRounds round moved t := by
    unfold Rounds.next
    rw [hdry.never, hdry.never, hmoved, hreordered.pending.isEmpty_eq]
  rw [hnext, h.world] at honce'
  exact ⟨t, t', _, honce, honce', hstep.world, hreordered⟩

/-! ## 5. Runs in another order -/

theorem Reordered.finish (h : Reordered marker s s') (cancelled : Bool) :
    (Rounds.finish s cancelled).run.Reorders (Rounds.finish s' cancelled).run :=
  ⟨h.run.rounds, h.run.artifacts, h.run.outcomes, h.pending, rfl⟩

/-- Rounds from states that are the same but for the order lead to such states. -/
theorem loop_reordered (hdry : env.Dry) (hg : g.Loaded) (hseparate : g.Separate profile.marker)
    (hreaches : Reaches env profile g world round s) (h : Reordered profile.marker s s')
    (fuel : Nat) : ∃ t t', loop env profile fuel round s = (.ok t, s.world) ∧
      loop env profile fuel round s' = (.ok t', s.world) ∧ t.run.Reorders t'.run := by
  induction fuel generalizing round s s' with
  | zero => exact ⟨_, _, rfl, by rw [loop, h.world], h.finish false⟩
  | succ fuel ih =>
    obtain ⟨names, haccount⟩ := hreaches.account hg
    obtain ⟨t, t', next, honce, honce', hworld, hreordered⟩ :=
      h.once hdry haccount (hreaches.apart hg hseparate) round
    unfold loop
    rw [honce, honce']
    cases next with
    | again =>
      have hnext := ih (hreaches.again honce) hreordered
      rw [hworld] at hnext
      exact hnext
    | stop => exact ⟨_, _, rfl, rfl, hreordered.finish false⟩
    | cancelled => exact ⟨_, _, rfl, rfl, hreordered.finish true⟩

/-- Modules whose marked declarations have different builder modules can be added in any order: all
rounds of a run without a publisher have the same numbers, the same builders are made, every name has
the same outcome from the same round, and the same declarations are left over. -/
theorem run_order (hdry : env.Dry) {sources sources' : List Registry.Source}
    (hload : Registry.empty.addAll sources = .ok g) (horder : sources'.Perm sources)
    (profile : Profile) (hseparate : g.Separate profile.marker) (world : σ) :
    ∃ g' s s', Registry.empty.addAll sources' = .ok g' ∧
      Rounds.run env profile g world = (.ok s, world) ∧
      Rounds.run env profile g' world = (.ok s', world) ∧ s.run.Reorders s'.run := by
  have hg : g.Loaded := Registry.Loaded.empty.addAll hload
  obtain ⟨g', hload', hreorders⟩ := Registry.addAll_perm hload horder
  have hg' : g'.Loaded := Registry.Loaded.empty.addAll hload'
  have hstart : Reordered profile.marker (⟨g, world, [], .empty⟩ : State σ)
      ⟨g', world, [], .empty⟩ :=
    { registry := hreorders
      fresh := by
        rw [hg.cursor, hg'.cursor, List.drop_zero, List.drop_zero]
        exact hreorders.modules
      world := rfl
      pending := .nil
      run := ⟨rfl, .nil, fun _ => rfl, .nil, rfl⟩ }
  obtain ⟨s, s', hrun, hrun', hsame⟩ := loop_reordered hdry hg hseparate .start hstart _
  exact ⟨g', s, s', hload', hrun, hrun', hsame⟩

theorem undisturbed_dry : undisturbed.Dry := ⟨rfl, fun _ _ => rfl⟩

/-- A marked class, and another one that refers to its builder. -/
def pairSources : List Registry.Source :=
  let marker := "from builder_gen.marker import builder\n"
  [⟨encode (marker ++ "@builder\nclass Item:\n price: int\n"), "shop.item", "shop/item.py", false⟩,
    ⟨encode (marker ++ "from shop.item_builder import ItemBuilder\n@builder\nclass Order:\n" ++
      " item: ItemBuilder\n"), "shop.order", "shop/order.py", false⟩]

set_option maxRecDepth 100000 in
/-- The pair can be loaded in both orders. -/
theorem run_order_pair : ∃ g g' s s', Registry.empty.addAll pairSources = .ok g ∧
    Registry.empty.addAll pairSources.reverse = .ok g' ∧
    Rounds.run undisturbed .standard g () = (.ok s, ()) ∧
    Rounds.run undisturbed .standard g' () = (.ok s', ()) ∧ s.run.Reorders s'.run := by
  obtain ⟨g, hload⟩ : ∃ g, Registry.empty.addAll pairSources = .ok g :=
    Registry.addAll_ok (by decide) fun _ _ h => by cases h
  have hseparate : g.Separate Profile.standard.marker := by
    rw [Registry.addAll_eq hload]
    decide +kernel
  obtain ⟨g', s, s', hload', hrun, hrun', hsame⟩ :=
    run_order undisturbed_dry hload (List.reverse_perm _) .standard hseparate ()
  exact ⟨g, g', s, s', hload, hload', hrun, hrun', hsame⟩

end Rounds

end FluentBuilders
