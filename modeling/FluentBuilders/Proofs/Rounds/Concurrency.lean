import FluentBuilders.Proofs.Publication.Steps
import FluentBuilders.Proofs.Rounds.Interleaving
import FluentBuilders.Proofs.Rounds.Keeping

/-!
Whether the artifacts of a round are published in a pool or one after the other makes no difference.

1. `Secluded`: publishers that look at the destination of their artifact and at no other, and change
   no other.
2. `PublishesAlike`: a round, and a run, in whatever order and by whatever steps its artifacts are
   published.
3. `publishes_alike`: secluded publishers and the writer of builders publish alike.
-/

namespace FluentBuilders

open Text

variable {σ κ τ γ : Type}

/-! ## 1. Publishers that keep to their destinations -/

/-- What a publisher does with an artifact depends on what stands at the destination of its module, and
it changes nothing elsewhere. -/
structure Secluded (content : σ → String → γ)
    (send : Artifact → σ → Except PublishFault Published × σ) : Prop where
  answer : ∀ a world world', content world' a.module = content world a.module →
    (send a world').1 = (send a world).1
  own : ∀ a world world', content world' a.module = content world a.module →
    content (send a world').2 a.module = content (send a world).2 a.module
  others : ∀ a world m, m ≠ a.module → content (send a world).2 m = content world m

namespace Worker

/-- Each step of a worker on an artifact depends on what stands at the destination of its module, and
changes nothing elsewhere. -/
structure Secluded (W : Worker σ κ) (content : σ → String → γ) : Prop where
  idle : ∀ a k world, (W.answer? k).isSome = true → W.step a k world = (k, world)
  ends : ∀ a k world, W.answer? k = none → W.left a (W.step a k world).1 < W.left a k
  mind : ∀ a k world world', content world' a.module = content world a.module →
    (W.step a k world').1 = (W.step a k world).1
  own : ∀ a k world world', content world' a.module = content world a.module →
    content (W.step a k world').2 a.module = content (W.step a k world).2 a.module
  others : ∀ a k world m, m ≠ a.module → content (W.step a k world).2 m = content world m

/-- Secluded workers are kept apart. -/
theorem Secluded.separate {W : Worker σ κ} {content : σ → String → γ} (hW : W.Secluded content)
    (Fits : Artifact → Prop) : W.Separate Fits content where
  idle := hW.idle
  ends := hW.ends
  alike a k world world' _ h := by
    have hown := congrFun h a.module
    refine ⟨hW.mind a k world world' hown, funext fun m => ?_⟩
    by_cases hm : m = a.module
    · subst hm
      exact hW.own a k world world' hown
    · rw [hW.others a k world' m hm, hW.others a k world m hm, h]
  apart a k b j world _ _ hab := hW.mind a k _ _ (hW.others b j world a.module hab)
  swap a k b j world _ _ hab := by
    funext m
    by_cases hma : m = a.module
    · subst hma
      rw [hW.own a k _ _ (hW.others b j world a.module hab), hW.others b j _ a.module hab]
    · rw [hW.others a k _ m hma]
      by_cases hmb : m = b.module
      · subst hmb
        exact (hW.own b j _ _ (hW.others a k world b.module hma)).symm
      · rw [hW.others b j _ m hmb, hW.others b j _ m hmb, hW.others a k _ m hma]

/-- A publisher that nobody interrupts. -/
def inOneStep (send : Artifact → σ → Except PublishFault Published × σ) :
    Worker σ (Option (Except PublishFault Published)) where
  start := none
  step a k world :=
    match k with
    | none => (some (send a world).1, (send a world).2)
    | some r => (some r, world)
  answer? k := k
  left _ k := if k.isNone then 1 else 0

variable {content : σ → String → γ} {send : Artifact → σ → Except PublishFault Published × σ}

theorem inOneStep_secluded (hsend : FluentBuilders.Secluded content send) :
    (inOneStep send).Secluded content where
  idle a k world hk := by
    cases k with
    | none => cases hk
    | some r => rfl
  ends a k world hk := by
    cases k with
    | none => exact Nat.zero_lt_one
    | some r => cases hk
  mind a k world world' h := by
    cases k with
    | none => exact congrArg some (hsend.answer a world world' h)
    | some r => rfl
  own a k world world' h := by
    cases k with
    | none => exact hsend.own a world world' h
    | some r => exact h
  others a k world m hm := by
    cases k with
    | none => exact hsend.others a world m hm
    | some r => rfl

theorem inOneStep_send (send : Artifact → σ → Except PublishFault Published × σ) (a : Artifact)
    (world : σ) : (inOneStep send).send a world = send a world := rfl

end Worker

/-! ## 2. Publishing alike -/

/-- What becomes of a pool with `n` workers: it comes to an end, is never stuck before, and has then
collected what `d` says, and left what is seen of `world'`. -/
structure Pool.Settles (W : Worker σ κ) (view : σ → τ) (n : Nat) (artifacts : List Artifact)
    (world : σ) (d : Delivery) (world' : σ) : Prop where
  ends : Acc (fun p' p => Step W n p p') (start artifacts world)
  goesOn : ∀ p, Reaches W n (start artifacts world) p → p.Over ∨ ∃ p', Step W n p p'
  same : ∀ p, Reaches W n (start artifacts world) p → p.Over →
    (∃ d', Delivery.gather p.collected .empty = .ok d' ∧ d'.Same d) ∧ view p.world = view world'

/-- From a world, the artifacts of every round and of every run are published with the same results
in whatever order they are taken up, and by the steps of several workers in whatever order these come. -/
structure PublishesAlike (send : Artifact → σ → Except PublishFault Published × σ) (W : Worker σ κ)
    (view : σ → τ) (world : σ) : Prop where
  round : ∀ (r : Resolver) (signal : List Declaration → Bool) (pending fresh : List Declaration)
    (round : Nat) (d : Delivery) (world' : σ),
    publishRound (.inTurn send) round (Scan.run r signal pending fresh).artifacts world =
      (.ok d, world') →
    (∀ env : Surroundings σ, env.Steady send → ∃ d₁ world₁,
      publishRound env round (Scan.run r signal pending fresh).artifacts world = (.ok d₁, world₁) ∧
        d₁.Same d ∧ view world₁ = view world') ∧
      ∀ n, 0 < n → Pool.Settles W view n (Scan.run r signal pending fresh).artifacts world d world'
  run : ∀ (profile : Profile) (registry : Registry) (s : Rounds.State σ) (world' : σ),
    Rounds.run (.inTurn send) profile registry world = (.ok s, world') →
    (∀ env : Surroundings σ, env.Steady send → ∃ s₁ world₁,
      Rounds.run env profile registry world = (.ok s₁, world₁) ∧ s₁.run = s.run ∧
        view world₁ = view world') ∧
      ∀ workers : Int,
        (∃ s₁, Rounds.Goes (.inTurn send) profile (W.Delivers workers) (max 1 profile.maxRounds.toNat)
          1 ⟨registry, world, [], .empty⟩ s₁) ∧
        ∀ s₁, Rounds.Goes (.inTurn send) profile (W.Delivers workers) (max 1 profile.maxRounds.toNat)
          1 ⟨registry, world, [], .empty⟩ s₁ → s₁.run = s.run ∧ view s₁.world = view world'

section Alike

variable {send : Artifact → σ → Except PublishFault Published × σ} {W : Worker σ κ} {view : σ → τ}
  {Good : σ → Prop} {world world' : σ}

/-- Surroundings that publish in turn take up the artifacts of a round as they come. -/
theorem publishRound_inTurn_iff {round : Nat} {artifacts : List Artifact} {d : Delivery} :
    publishRound (.inTurn send) round artifacts world = (.ok d, world') ↔
      publishInTurn (.inTurn send) send round artifacts .empty world = (.ok d, world') := .rfl

/-- **Separate publishers publish alike.** -/
theorem publishesAlike_of_separate (hW : W.Separate (fun a => IsModuleName a.module) view)
    (hsend : W.Performs (fun a => IsModuleName a.module) Good send) (hworld : Good world) :
    PublishesAlike send W view world where
  round r signal pending fresh round d world' h := by
    obtain ⟨hmodules, hnames⟩ := Scan.run_modules r signal pending fresh
    have hfresh := fresh_apart W hmodules hnames
    obtain ⟨hgather, rfl, -⟩ := publishInTurn_answers hW hsend (Surroundings.inTurn_steady send)
      hfresh hworld (publishRound_inTurn_iff.mp h)
    constructor
    · intro env henv
      obtain ⟨d₁, world₁, hround, hsame, hview, -⟩ :=
        publishRound_same hW hsend henv hfresh rfl hworld hgather
      exact ⟨d₁, world₁, hround, hsame, hview⟩
    · exact fun n hn => ⟨Pool.steps_end hW n _, fun p _ => Pool.goes_on W hn p,
        fun p hp hover => over_same hW hfresh hgather hp hover⟩
  run profile registry s world' h := by
    have hturn : Rounds.Goes (.inTurn send) profile (Surroundings.inTurn send).publishing
        (max 1 profile.maxRounds.toNat) 1 ⟨registry, world, [], .empty⟩ s := by
      rw [Rounds.goes_iff (Surroundings.inTurn_steady send).never, Rounds.run_state_world h]
      exact h
    have hstart := Rounds.Twins.refl view (⟨registry, world, [], .empty⟩ : Rounds.State σ)
    have hlast := Rounds.run_state_world h
    constructor
    · intro env henv
      obtain ⟨⟨s₁, hgoes⟩, hall⟩ := Rounds.goes_same hturn henv.never
        (publishing_likeInTurn hW hsend henv) hstart hworld hworld
      have htwins := hall s₁ hgoes
      exact ⟨s₁, s₁.world, (Rounds.goes_iff henv.never).mp hgoes, htwins.run, hlast ▸ htwins.world⟩
    · intro workers
      obtain ⟨hexists, hall⟩ := Rounds.goes_same hturn (Surroundings.inTurn_steady send).never
        (delivers_likeInTurn hW hsend workers) hstart hworld trivial
      refine ⟨hexists, fun s₁ hgoes => ?_⟩
      have htwins := hall s₁ hgoes
      exact ⟨htwins.run, hlast ▸ htwins.world⟩

end Alike

/-! ## 3. Publishers that publish alike -/

/-- Different modules have different files below every root. -/
theorem artifactPath_nodup (root : FilePath) {artifacts : List Artifact}
    (hmodules : (artifacts.map (·.module)).Nodup) (hnames : ∀ a ∈ artifacts, IsModuleName a.module) :
    (artifacts.map fun a => artifactPath root a.module).Nodup := by
  rw [List.nodup_map_iff_inj_on (List.Nodup.of_map _ hmodules)]
  intro a ha b hb h
  rw [artifactPath_eq (hnames a ha), artifactPath_eq (hnames b hb)] at h
  have hmodule := fileParts_injective (List.append_cancel_left (congrArg FilePath.parts h))
  exact List.inj_on_of_nodup_map hmodules ha hb hmodule

theorem writer_performs {out : Location} (hout : ".." ∉ out) :
    (writer out).Performs (fun a => IsModuleName a.module) FileTree.Sound
      (publish (Location.path out)) where
  alone a t ha hs := by
    unfold Worker.send Worker.answer
    rw [show (writer out).start = .reading from rfl, writer_finish_publish hs hout ha]
    rfl
  good a t ha hs := (publish_later hs hout ha fun _ => False).sound hs

/-- **Publishing in a pool is publishing one after the other.** Publishers that keep to the destinations
of their artifacts deliver the same, and runs go the same way, with any number of workers and whatever
the order in which artifacts are taken up, in which the steps of the workers come and in which answers
are collected. So it is with the writer of builders below a resolved directory, as long as nothing aborts
the run that publishes one artifact after the other; the files of a round differ below every directory,
and the same files stand there in the end. -/
theorem publishes_alike {content : σ → String → γ}
    {send : Artifact → σ → Except PublishFault Published × σ} (hsend : Secluded content send)
    (hanswers : ∀ a world e, (send a world).1 ≠ .error (.aborted e)) (world : σ)
    (directory : FilePath) {t : FileTree} (ht : t.Sound) :
    (PublishesAlike send (Worker.inOneStep send) content world ∧
      (∀ {κ : Type} (W : Worker σ κ), W.Secluded content → (∀ a w, W.send a w = send a w) →
        PublishesAlike send W content world) ∧
      (∀ round artifacts, ∃ d world',
        publishRound (.inTurn send) round artifacts world = (.ok d, world')) ∧
      ∀ profile registry, ∃ s world',
        Rounds.run (.inTurn send) profile registry world = (.ok s, world')) ∧
    (∀ r signal pending fresh (root : FilePath),
      ((Scan.run r signal pending fresh).artifacts.map fun a => artifactPath root a.module).Nodup) ∧
    PublishesAlike (publish (t.resolve directory)) (writer (t.locate directory)) FileTree.get? t := by
  have halike : ∀ {κ : Type} (W : Worker σ κ), W.Secluded content →
      (∀ a w, W.send a w = send a w) → PublishesAlike send W content world := by
    intro κ W hW hperforms
    have hsame : W.Performs (fun a => IsModuleName a.module) (fun _ => True) send :=
      ⟨fun a w _ _ => hperforms a w, fun _ _ _ _ => trivial⟩
    exact publishesAlike_of_separate (hW.separate _) hsame trivial
  have henv : (Surroundings.inTurn send).Answers := fun _ h => Option.some.inj h ▸ hanswers
  refine ⟨⟨halike _ (Worker.inOneStep_secluded hsend) (Worker.inOneStep_send send), halike,
    fun round artifacts => publishRound_ok henv round artifacts world,
    fun profile registry => Rounds.loop_ok henv profile _ 1 _⟩, ?_, ?_⟩
  · intro r signal pending fresh root
    obtain ⟨hmodules, hnames⟩ := Scan.run_modules r signal pending fresh
    exact artifactPath_nodup root hmodules hnames
  · have hout := ht.dots_not_mem_locate directory
    exact publishesAlike_of_separate (writer_separate hout) (writer_performs hout) ht

/-- A publisher that puts texts on a shelf under their modules, unless an empty one stands there. -/
def shelve (a : Artifact) (shelf : Table String) : Except PublishFault Published × Table String :=
  if shelf.get? a.module = some "" then (.error (.refused ⟨a.module, "taken"⟩), shelf)
  else (.ok ⟨a.module, decide (shelf.get? a.module ≠ some a.text)⟩, shelf.insert a.module a.text)

theorem shelve_secluded : Secluded Table.get? shelve where
  answer a shelf shelf' h := by
    unfold shelve
    rw [h]
    split <;> rfl
  own a shelf shelf' h := by
    unfold shelve
    rw [h]
    split
    · exact h
    · dsimp only
      rw [Table.get?_insert, Table.get?_insert, if_pos rfl, if_pos rfl]
  others a shelf m hm := by
    unfold shelve
    split
    · rfl
    · exact (Table.get?_insert ..).trans (if_neg hm.symm)

theorem shelve_answers (a : Artifact) (shelf : Table String) (e : Failure) :
    (shelve a shelf).1 ≠ .error (.aborted e) := by
  unfold shelve
  split <;> exact fun h => by cases h

/-- Two marked classes, which a single round makes builders of. -/
def twoClasses : Registry :=
  let item := "from builder_gen.marker import builder\n@builder\nclass Item: pass\n"
  let order := "from builder_gen.marker import builder\n@builder\nclass Order: pass\n"
  ⟨⟨[("shop.item", .ofParsed (.ofText item "shop/item.py") "shop.item" false),
    ("shop.order", .ofParsed (.ofText order "shop/order.py") "shop.order" false)]⟩, .empty⟩

set_option maxRecDepth 100000 in
/-- On a shelf where one of the two builders is refused, a pool of two workers publishes what one worker
does; and so do writers in a tree without files. -/
theorem publishes_alike_shelf :
    (∃ s shelf,
      Rounds.run (.inTurn shelve) .standard twoClasses ⟨[("shop.order_builder", "")]⟩ = (.ok s, shelf) ∧
        s.run.published.keys = ["shop.item_builder"] ∧ s.run.rounds.map (·.failed) = [1] ∧
        ∀ s₁, Rounds.Goes (.inTurn shelve) .standard ((Worker.inOneStep shelve).Delivers 2) 10 1
          ⟨twoClasses, ⟨[("shop.order_builder", "")]⟩, [], .empty⟩ s₁ →
            s₁.run = s.run ∧ s₁.world.get? = shelf.get?) ∧
      PublishesAlike (publish (Location.path ["out"])) (writer ["out"]) FileTree.get? .empty := by
  have hempty : FileTree.empty.Sound := .of_entries (by decide) (by decide) rfl (by decide)
  obtain ⟨⟨hshelf, -, -, hruns⟩, -, hwriter⟩ := publishes_alike shelve_secluded shelve_answers
    ⟨[("shop.order_builder", "")]⟩ (.ofText "out") hempty
  have hplace : FileTree.empty.resolve (.ofText "out") = Location.path ["out"] := by decide
  have hlocation : FileTree.empty.locate (.ofText "out") = ["out"] := by decide
  rw [hplace, hlocation] at hwriter
  have hnumbers : ((Rounds.run (.inTurn shelve) .standard twoClasses
      ⟨[("shop.order_builder", "")]⟩).1.toOption.map fun s =>
        (s.run.published.keys, s.run.rounds.map (·.failed))) = some (["shop.item_builder"], [1]) := by
    decide +kernel
  obtain ⟨s, shelf, hrun⟩ := hruns .standard twoClasses
  rw [hrun, show (Except.ok s, shelf).1.toOption = some s from rfl, Option.map_some,
    Option.some.injEq, Prod.mk.injEq] at hnumbers
  obtain ⟨-, hall⟩ := (hshelf.run .standard twoClasses s shelf hrun).2 2
  exact ⟨⟨s, shelf, hrun, hnumbers.1, hnumbers.2, hall⟩, hwriter⟩

end FluentBuilders
