import Mathlib.Algebra.Order.Ring.Nat
import Mathlib.Logic.Relation
import Mathlib.Order.WellFounded
import FluentBuilders.Publication

/-!
Publishing in a pool, where several publishers work at the same time.

1. `Worker`: publishing an artifact in steps, between which others may take theirs.
2. `Worker.Separate`: publishers of different modules do not get in each other's way. Then each of
   them comes to the answer that it comes to alone, and the worlds that they leave do not depend on
   who went first (`complete_perm`).
3. `Pool`: artifacts that wait, that are worked on and whose answers were collected, and the steps
   between such states in any order.
4. `Pool.steps_answers`: whatever order the steps come in, the same answers are collected and the same
   world is left. `Pool.reaches_end`: and they come to an end.
-/

namespace FluentBuilders

variable {σ κ τ : Type}

/-! ## 1. Work in steps -/

/-- Publishing in steps; `κ` is what the publisher of an artifact keeps in mind between two of them. -/
structure Worker (σ κ : Type) where
  start : κ
  step : Artifact → κ → σ → κ × σ
  /-- The answer, once there is one. -/
  answer? : κ → Option (Except PublishFault Published)
  /-- A bound on the steps that are left. -/
  left : Artifact → κ → Nat

namespace Worker

variable (W : Worker σ κ)

/-- Where `n` steps in a row lead. -/
def after (a : Artifact) : Nat → κ → σ → κ × σ
  | 0, k, world => (k, world)
  | n + 1, k, world => after a n (W.step a k world).1 (W.step a k world).2

/-- Where the steps that are left lead. -/
def finish (a : Artifact) (k : κ) (world : σ) : κ × σ := W.after a (W.left a k) k world

/-- The answer that the steps that are left lead to. -/
def answer (a : Artifact) (k : κ) (world : σ) : Except PublishFault Published :=
  (W.answer? (W.finish a k world).1).getD default

/-- Publishing an artifact without a break. -/
def send (a : Artifact) (world : σ) : Except PublishFault Published × σ :=
  (W.answer a W.start world, (W.finish a W.start world).2)

/-- The world after artifacts that are worked on were finished one after the other. -/
def complete (jobs : List (Artifact × κ)) (world : σ) : σ :=
  jobs.foldl (fun world job => (W.finish job.1 job.2 world).2) world

/-- The answers to artifacts that are worked on, each as if the others were not there. -/
def answers (jobs : List (Artifact × κ)) (world : σ) :
    List (Artifact × Except PublishFault Published) :=
  jobs.map fun job => (job.1, W.answer job.1 job.2 world)

/-- Artifacts that nobody has taken up. -/
def fresh (artifacts : List Artifact) : List (Artifact × κ) := artifacts.map fun a => (a, W.start)

/-! ## 2. Publishers that are kept apart -/

/-- What publishers do to fit artifacts depends on what is seen of the world, and on nothing that those
of other modules change in it. -/
structure Separate (Fits : Artifact → Prop) (view : σ → τ) : Prop where
  idle : ∀ a k world, (W.answer? k).isSome = true → W.step a k world = (k, world)
  ends : ∀ a k world, W.answer? k = none → W.left a (W.step a k world).1 < W.left a k
  alike : ∀ a k world world', Fits a → view world' = view world →
    (W.step a k world').1 = (W.step a k world).1 ∧
      view (W.step a k world').2 = view (W.step a k world).2
  apart : ∀ a k b j world, Fits a → Fits b → a.module ≠ b.module →
    (W.step a k (W.step b j world).2).1 = (W.step a k world).1
  swap : ∀ a k b j world, Fits a → Fits b → a.module ≠ b.module →
    view (W.step a k (W.step b j world).2).2 = view (W.step b j (W.step a k world).2).2

variable {W} {Fits : Artifact → Prop} {view : σ → τ} {jobs jobs' : List (Artifact × κ)}

/-- Fit artifacts, no two of one module. -/
structure Apart (Fits : Artifact → Prop) (jobs : List (Artifact × κ)) : Prop where
  fits : ∀ job ∈ jobs, Fits job.1
  modules : (jobs.map (·.1.module)).Nodup

theorem Apart.perm (h : Apart Fits jobs) (hperm : jobs.Perm jobs') : Apart Fits jobs' where
  fits job hjob := h.fits job (hperm.mem_iff.mpr hjob)
  modules := (hperm.map _).nodup_iff.mp h.modules

theorem Apart.tail {job : Artifact × κ} (h : Apart Fits (job :: jobs)) : Apart Fits jobs where
  fits job hjob := h.fits job (List.mem_cons_of_mem _ hjob)
  modules := (List.nodup_cons.mp h.modules).2

theorem Apart.ne {job other : Artifact × κ} (h : Apart Fits (job :: jobs)) (hother : other ∈ jobs) :
    other.1.module ≠ job.1.module := fun heq =>
  (List.nodup_cons.mp h.modules).1 (List.mem_map.mpr ⟨other, hother, heq⟩)

namespace Separate

variable {a b : Artifact} {world world' : σ}

/-- Nothing happens once there is an answer. -/
theorem after_idle (hW : W.Separate Fits view) {k : κ} (hk : (W.answer? k).isSome = true) (n : Nat) :
    W.after a n k world = (k, world) := by
  induction n with
  | zero => rfl
  | succ n ih => rw [after, hW.idle a k world hk, ih]

/-- More steps than are left lead no further. -/
theorem after_enough (hW : W.Separate Fits view) {n : Nat} {k : κ} (hn : W.left a k ≤ n) :
    W.after a n k world = W.finish a k world := by
  unfold finish
  induction n using Nat.strong_induction_on generalizing k world with
  | _ n ih =>
    cases hk : W.answer? k with
    | some r =>
      have hsome : (W.answer? k).isSome = true := by rw [hk]; rfl
      rw [hW.after_idle hsome, hW.after_idle hsome]
    | none =>
      have hless := hW.ends a k world hk
      obtain ⟨m, hm⟩ : ∃ m, W.left a k = m + 1 := Nat.exists_eq_succ_of_ne_zero (by omega)
      obtain ⟨n, rfl⟩ : ∃ n', n = n' + 1 := Nat.exists_eq_succ_of_ne_zero (by omega)
      rw [hm, after, after, ih n (by omega) (by omega)]
      by_cases hmn : m = n
      · rw [hmn, ih n (by omega) (by omega)]
      · rw [ih m (by omega) (by omega)]

/-- A step is one of those that were left. -/
theorem finish_step (hW : W.Separate Fits view) {k : κ} (hk : W.answer? k = none) :
    W.finish a (W.step a k world).1 (W.step a k world).2 = W.finish a k world := by
  have hless := hW.ends a k world hk
  rw [← hW.after_enough (n := W.left a k + 1) (Nat.le_succ _), after, hW.after_enough (by omega)]

theorem finish_answered (hW : W.Separate Fits view) {k : κ} (hk : (W.answer? k).isSome = true) :
    W.finish a k world = (k, world) :=
  hW.after_idle hk _

/-- In the end there is an answer. -/
theorem finish_isSome (hW : W.Separate Fits view) (a : Artifact) (k : κ) (world : σ) :
    (W.answer? (W.finish a k world).1).isSome = true := by
  induction hn : W.left a k using Nat.strong_induction_on generalizing k world with
  | _ n ih =>
    cases hk : W.answer? k with
    | some r =>
      rw [hW.finish_answered (by rw [hk]; rfl), hk]
      rfl
    | none =>
      have hless := hW.ends a k world hk
      rw [← hW.finish_step hk]
      exact ih _ (hn ▸ hless) _ _ rfl

theorem after_alike (hW : W.Separate Fits view) (ha : Fits a) (h : view world' = view world)
    (n : Nat) (k : κ) : (W.after a n k world').1 = (W.after a n k world).1 ∧
      view (W.after a n k world').2 = view (W.after a n k world).2 := by
  induction n generalizing k world world' with
  | zero => exact ⟨rfl, h⟩
  | succ n ih =>
    obtain ⟨hmind, hview⟩ := hW.alike a k world world' ha h
    rw [after, after, hmind]
    exact ih hview _

/-- Steps of one publisher and a step of another one can be taken in either order. -/
theorem after_step (hW : W.Separate Fits view) (ha : Fits a) (hb : Fits b)
    (hab : a.module ≠ b.module) (n : Nat) (k j : κ) (world : σ) :
    (W.after a n k (W.step b j world).2).1 = (W.after a n k world).1 ∧
      (W.step b j (W.after a n k world).2).1 = (W.step b j world).1 ∧
      view (W.after a n k (W.step b j world).2).2 = view (W.step b j (W.after a n k world).2).2 := by
  induction n generalizing k world with
  | zero => exact ⟨rfl, rfl, rfl⟩
  | succ n ih =>
    obtain ⟨hmind, hother, hview⟩ := ih (W.step a k world).1 (W.step a k world).2
    obtain ⟨hmind', hview'⟩ := hW.after_alike ha (hW.swap a k b j world ha hb hab) n
      (W.step a k world).1
    rw [after, after, hW.apart a k b j world ha hb hab]
    exact ⟨hmind'.trans hmind, hother.trans (hW.apart b j a k world hb ha hab.symm),
      hview'.trans hview⟩

/-- Steps of two publishers can be taken in either order. -/
theorem after_after (hW : W.Separate Fits view) (ha : Fits a) (hb : Fits b)
    (hab : a.module ≠ b.module) (n m : Nat) (k j : κ) (world : σ) :
    (W.after a n k (W.after b m j world).2).1 = (W.after a n k world).1 ∧
      view (W.after a n k (W.after b m j world).2).2 =
        view (W.after b m j (W.after a n k world).2).2 := by
  induction m generalizing j world with
  | zero => exact ⟨rfl, rfl⟩
  | succ m ih =>
    obtain ⟨hmind, hother, hview⟩ := hW.after_step ha hb hab n k j world
    obtain ⟨hmind', hview'⟩ := ih (W.step b j world).1 (W.step b j world).2
    rw [after, after, hother]
    exact ⟨hmind'.trans hmind, hview'.trans (hW.after_alike hb hview m _).2⟩

/-! ### Finishing what is worked on -/

theorem finish_alike (hW : W.Separate Fits view) (ha : Fits a) (h : view world' = view world)
    (k : κ) : W.answer a k world' = W.answer a k world ∧
      view (W.finish a k world').2 = view (W.finish a k world).2 := by
  obtain ⟨hmind, hview⟩ := hW.after_alike ha h (W.left a k) k
  unfold answer finish
  rw [hmind]
  exact ⟨rfl, hview⟩

theorem answer_step (hW : W.Separate Fits view) (ha : Fits a) (hb : Fits b)
    (hab : a.module ≠ b.module) (k j : κ) (world : σ) :
    W.answer a k (W.step b j world).2 = W.answer a k world := by
  unfold answer finish
  rw [(hW.after_step ha hb hab _ k j world).1]

theorem answer_finish (hW : W.Separate Fits view) (ha : Fits a) (hb : Fits b)
    (hab : a.module ≠ b.module) (k j : κ) (world : σ) :
    W.answer a k (W.finish b j world).2 = W.answer a k world := by
  unfold answer finish
  rw [(hW.after_after ha hb hab _ _ k j world).1]

theorem complete_alike (hW : W.Separate Fits view) (hjobs : Apart Fits jobs)
    (h : view world' = view world) :
    view (W.complete jobs world') = view (W.complete jobs world) := by
  induction jobs generalizing world world' with
  | nil => exact h
  | cons job rest ih =>
    exact ih hjobs.tail (hW.finish_alike (hjobs.fits job List.mem_cons_self) h job.2).2

theorem answers_alike (hW : W.Separate Fits view) (hjobs : Apart Fits jobs)
    (h : view world' = view world) : W.answers jobs world' = W.answers jobs world := by
  refine List.map_congr_left fun job hjob => ?_
  rw [(hW.finish_alike (hjobs.fits job hjob) h job.2).1]

/-- Who is finished first makes no difference to the world. -/
theorem complete_perm (hW : W.Separate Fits view) (hjobs : Apart Fits jobs)
    (hperm : jobs.Perm jobs') (world : σ) :
    view (W.complete jobs' world) = view (W.complete jobs world) := by
  induction hperm generalizing world with
  | nil => rfl
  | cons job _ ih => exact ih hjobs.tail _
  | swap job other rest =>
    have hfits := hjobs.fits
    refine hW.complete_alike hjobs.tail.tail ?_
    exact (hW.after_after (hfits other List.mem_cons_self)
      (hfits job (List.mem_cons_of_mem _ List.mem_cons_self))
      (hjobs.ne List.mem_cons_self).symm _ _ other.2 job.2 world).2
  | trans hfirst _ ih₁ ih₂ => exact (ih₂ (hjobs.perm hfirst) world).trans (ih₁ hjobs world)

/-- The answers to the others do not depend on a publisher that is done. -/
theorem answers_finish (hW : W.Separate Fits view) {job : Artifact × κ}
    (hjobs : Apart Fits (job :: jobs)) (world : σ) :
    W.answers jobs (W.finish job.1 job.2 world).2 = W.answers jobs world := by
  refine List.map_congr_left fun other hother => ?_
  rw [hW.answer_finish (hjobs.tail.fits other hother) (hjobs.fits job List.mem_cons_self)
    (hjobs.ne hother)]

/-- Nor do they depend on a single step of it. -/
theorem answers_step (hW : W.Separate Fits view) {job : Artifact × κ}
    (hjobs : Apart Fits (job :: jobs)) (world : σ) :
    W.answers jobs (W.step job.1 job.2 world).2 = W.answers jobs world := by
  refine List.map_congr_left fun other hother => ?_
  rw [hW.answer_step (hjobs.tail.fits other hother) (hjobs.fits job List.mem_cons_self)
    (hjobs.ne hother)]

end Separate

end Worker

/-! ## 3. Pools -/

/-- Where a pool stands with the artifacts of a round. -/
structure Pool (σ κ : Type) where
  waiting : List Artifact
  /-- The artifacts that are worked on, and those whose answers nobody has asked for yet. -/
  taken : List (Artifact × κ)
  /-- The answers, in the order in which they were asked for. -/
  collected : List (Artifact × Except PublishFault Published)
  world : σ

namespace Pool

/-- A pool before its first step. -/
def start (artifacts : List Artifact) (world : σ) : Pool σ κ := ⟨artifacts, [], [], world⟩

/-- All answers have been collected. -/
def Over (p : Pool σ κ) : Prop := p.waiting = [] ∧ p.taken = []

/-- How many workers of a pool are busy. -/
def busy (W : Worker σ κ) (taken : List (Artifact × κ)) : Nat :=
  taken.countP fun job => (W.answer? job.2).isNone

/-- What can happen next in a pool with so many workers. -/
inductive Step (W : Worker σ κ) (workers : Nat) : Pool σ κ → Pool σ κ → Prop
  /-- A worker that has nothing to do takes up an artifact. -/
  | take (before after : List Artifact) {a : Artifact} {taken : List (Artifact × κ)}
    {collected : List (Artifact × Except PublishFault Published)} {world : σ} :
    busy W taken < workers →
    Step W workers ⟨before ++ a :: after, taken, collected, world⟩
      ⟨before ++ after, (a, W.start) :: taken, collected, world⟩
  /-- A worker goes on with its artifact. -/
  | advance {waiting : List Artifact} (before after : List (Artifact × κ)) {a : Artifact} {k : κ}
    {collected : List (Artifact × Except PublishFault Published)} {world : σ} :
    W.answer? k = none →
    Step W workers ⟨waiting, before ++ (a, k) :: after, collected, world⟩
      ⟨waiting, before ++ (a, (W.step a k world).1) :: after, collected, (W.step a k world).2⟩
  /-- An answer is collected. -/
  | collect {waiting : List Artifact} (before after : List (Artifact × κ)) {a : Artifact} {k : κ}
    {collected : List (Artifact × Except PublishFault Published)} {world : σ}
    {r : Except PublishFault Published} :
    W.answer? k = some r →
    Step W workers ⟨waiting, before ++ (a, k) :: after, collected, world⟩
      ⟨waiting, before ++ after, collected ++ [(a, r)], world⟩

/-- What steps in some order lead to. -/
def Reaches (W : Worker σ κ) (workers : Nat) : Pool σ κ → Pool σ κ → Prop :=
  Relation.ReflTransGen (Step W workers)

/-- The artifacts whose answers are still to be collected. -/
def jobs (W : Worker σ κ) (p : Pool σ κ) : List (Artifact × κ) := p.taken ++ W.fresh p.waiting

/-- The answers that were collected, and those that are to come. -/
def answers (W : Worker σ κ) (p : Pool σ κ) : List (Artifact × Except PublishFault Published) :=
  p.collected ++ W.answers (p.jobs W) p.world

/-! ## 4. Whatever the order -/

section Order

variable {W : Worker σ κ} {Fits : Artifact → Prop} {view : σ → τ} {workers : Nat}
  {p p' : Pool σ κ}

/-- What steps leave as it is: the answers but for their order, and the world in the end. -/
structure Keeps (W : Worker σ κ) (Fits : Artifact → Prop) (view : σ → τ) (p p' : Pool σ κ) :
    Prop where
  apart : Worker.Apart Fits (p'.jobs W)
  answers : (p'.answers W).Perm (p.answers W)
  world : view (W.complete (p'.jobs W) p'.world) = view (W.complete (p.jobs W) p.world)

theorem Keeps.trans {p'' : Pool σ κ} (h : Keeps W Fits view p p') (h' : Keeps W Fits view p' p'') :
    Keeps W Fits view p p'' :=
  ⟨h'.apart, h'.answers.trans h.answers, h'.world.trans h.world⟩

/-- Taking up an artifact only changes the order in which artifacts are listed. -/
theorem keeps_take (hW : W.Separate Fits view) {before after : List Artifact} {a : Artifact}
    {taken : List (Artifact × κ)} {collected : List (Artifact × Except PublishFault Published)}
    {world : σ}
    (h : Worker.Apart Fits
      (jobs W ⟨before ++ a :: after, taken, collected, world⟩)) :
    Keeps W Fits view ⟨before ++ a :: after, taken, collected, world⟩
      ⟨before ++ after, (a, W.start) :: taken, collected, world⟩ := by
  have hperm : (jobs W ⟨before ++ a :: after, taken, collected, world⟩).Perm
      (jobs W ⟨before ++ after, (a, W.start) :: taken, collected, world⟩) := by
    unfold jobs Worker.fresh
    dsimp only
    rw [List.map_append, List.map_append, List.map_cons, ← List.append_assoc, ← List.append_assoc]
    exact List.perm_middle
  exact ⟨h.perm hperm, (hperm.symm.map _).append_left _, hW.complete_perm h hperm world⟩

/-- A step of a worker is a step towards the same answers and the same world. -/
theorem keeps_advance (hW : W.Separate Fits view) {waiting : List Artifact}
    {before after : List (Artifact × κ)} {a : Artifact} {k : κ}
    {collected : List (Artifact × Except PublishFault Published)} {world : σ}
    (hk : W.answer? k = none)
    (h : Worker.Apart Fits (jobs W ⟨waiting, before ++ (a, k) :: after, collected, world⟩)) :
    Keeps W Fits view ⟨waiting, before ++ (a, k) :: after, collected, world⟩
      ⟨waiting, before ++ (a, (W.step a k world).1) :: after, collected, (W.step a k world).2⟩ := by
  -- the artifact that is worked on can be listed first
  have hfirst : ∀ k world, (jobs W ⟨waiting, before ++ (a, k) :: after, collected, world⟩).Perm
      ((a, k) :: jobs W ⟨waiting, before ++ after, collected, world⟩) := by
    intro k world
    unfold jobs
    dsimp only
    rw [List.append_assoc, List.cons_append, List.append_assoc]
    exact List.perm_middle
  have hapart := h.perm (hfirst k world)
  have hapart' : Worker.Apart Fits
      ((a, (W.step a k world).1) :: jobs W ⟨waiting, before ++ after, collected, world⟩) :=
    ⟨fun job hjob => by
      rcases List.mem_cons.mp hjob with rfl | hjob
      · exact hapart.fits (a, k) List.mem_cons_self
      · exact hapart.tail.fits job hjob, hapart.modules⟩
  have hlater := hapart'.perm (hfirst _ (W.step a k world).2).symm
  refine ⟨hlater, ?_, ?_⟩
  · refine (List.Perm.append_left _ ?_)
    refine ((hfirst _ _).map _).trans (List.Perm.trans ?_ ((hfirst k world).map _).symm)
    show ((a, _) :: W.answers _ _).Perm ((a, _) :: W.answers _ _)
    rw [← hW.answers_step hapart world]
    unfold Worker.answer
    rw [hW.finish_step hk]
    rfl
  · rw [← hW.complete_perm hlater (hfirst _ _), ← hW.complete_perm h (hfirst k world)]
    show view (W.complete _ (W.finish a (W.step a k world).1 (W.step a k world).2).2) = _
    rw [hW.finish_step hk]
    rfl

/-- What is collected is the answer that was to come. -/
theorem keeps_collect (hW : W.Separate Fits view) {waiting : List Artifact}
    {before after : List (Artifact × κ)} {a : Artifact} {k : κ}
    {collected : List (Artifact × Except PublishFault Published)} {world : σ}
    {r : Except PublishFault Published} (hk : W.answer? k = some r)
    (h : Worker.Apart Fits (jobs W ⟨waiting, before ++ (a, k) :: after, collected, world⟩)) :
    Keeps W Fits view ⟨waiting, before ++ (a, k) :: after, collected, world⟩
      ⟨waiting, before ++ after, collected ++ [(a, r)], world⟩ := by
  have hfirst : (jobs W ⟨waiting, before ++ (a, k) :: after, collected, world⟩).Perm
      ((a, k) :: jobs W ⟨waiting, before ++ after, collected ++ [(a, r)], world⟩) := by
    unfold jobs
    dsimp only
    rw [List.append_assoc, List.cons_append, List.append_assoc]
    exact List.perm_middle
  have hdone : W.finish a k world = (k, world) := hW.finish_answered (by rw [hk]; rfl)
  have hanswer : W.answer a k world = r := by
    unfold Worker.answer
    rw [hdone, hk]
    rfl
  have hapart := h.perm hfirst
  refine ⟨hapart.tail, ?_, ?_⟩
  · unfold answers
    dsimp only
    rw [List.append_assoc]
    refine List.Perm.append_left _ (List.Perm.trans ?_ (hfirst.map _).symm)
    rw [List.map_cons, hanswer]
    exact .refl _
  · rw [← hW.complete_perm h hfirst]
    show _ = view (W.complete _ (W.finish a k world).2)
    rw [hdone]

theorem Step.keeps (hW : W.Separate Fits view) (h : Step W workers p p')
    (hp : Worker.Apart Fits (p.jobs W)) : Keeps W Fits view p p' := by
  cases h with
  | take => exact keeps_take hW hp
  | advance _ _ hk => exact keeps_advance hW hk hp
  | collect _ _ hk => exact keeps_collect hW hk hp

theorem Reaches.keeps (hW : W.Separate Fits view) (h : Reaches W workers p p')
    (hp : Worker.Apart Fits (p.jobs W)) : Keeps W Fits view p p' := by
  induction h with
  | refl => exact ⟨hp, .refl _, rfl⟩
  | tail _ hstep ih => exact ih.trans (hstep.keeps hW ih.apart)

/-- A pool that is over has collected the answers that artifacts get one by one, in some order, and
leaves the world that they leave. -/
theorem Reaches.over (hW : W.Separate Fits view) {artifacts : List Artifact} {world : σ}
    (h : Reaches W workers (start artifacts world) p)
    (hp : Worker.Apart Fits (W.fresh artifacts)) (hover : p.Over) :
    p.collected.Perm (W.answers (W.fresh artifacts) world) ∧
      view p.world = view (W.complete (W.fresh artifacts) world) := by
  have hkeeps := h.keeps hW hp
  obtain ⟨waiting, taken, collected, last⟩ := p
  obtain ⟨rfl, rfl⟩ := hover
  refine ⟨?_, hkeeps.world⟩
  have hanswers := hkeeps.answers
  unfold answers at hanswers
  rwa [show collected ++ W.answers (jobs W ⟨[], [], collected, last⟩) last = collected from
    List.append_nil collected] at hanswers

end Order

/-! ### The end -/

section End

variable {W : Worker σ κ} {Fits : Artifact → Prop} {view : σ → τ} {workers : Nat}
  {p p' : Pool σ κ}

/-- A bound on the steps of a pool. -/
def size (W : Worker σ κ) (p : Pool σ κ) : Nat :=
  (p.waiting.map fun a => W.left a W.start + 2).sum +
    (p.taken.map fun job => W.left job.1 job.2 + 1).sum

theorem Step.size_lt (hW : W.Separate Fits view) (h : Step W workers p p') :
    p'.size W < p.size W := by
  cases h with
  | take => simp [size]; omega
  | @advance _ _ _ a k _ world hk =>
    have hless := hW.ends a k world hk
    simp [size]
    omega
  | collect => simp [size]

/-- No pool goes on for ever. -/
theorem steps_end (hW : W.Separate Fits view) (workers : Nat) (p : Pool σ κ) :
    Acc (fun p' p => Step W workers p p') p :=
  (Subrelation.wf (fun h => h.size_lt hW) (measure (size W)).wf).apply p

/-- As long as a pool is not over, something can happen in it. -/
theorem goes_on (W : Worker σ κ) (hworkers : 0 < workers) (p : Pool σ κ) :
    p.Over ∨ ∃ p', Step W workers p p' := by
  obtain ⟨waiting, taken, collected, world⟩ := p
  cases taken with
  | cons job rest =>
    refine .inr ?_
    cases hk : W.answer? job.2 with
    | none => exact ⟨_, .advance [] rest hk⟩
    | some r => exact ⟨_, .collect [] rest hk⟩
  | nil =>
    cases waiting with
    | nil => exact .inl ⟨rfl, rfl⟩
    | cons a rest => exact .inr ⟨_, .take [] rest hworkers⟩

/-- Whatever a pool has done, it can get to its end from there. -/
theorem reaches_end (hW : W.Separate Fits view) (hworkers : 0 < workers) (p : Pool σ κ) :
    ∃ p', Reaches W workers p p' ∧ p'.Over := by
  induction steps_end hW workers p with
  | intro p _ ih =>
    rcases goes_on W hworkers p with hover | ⟨p', hstep⟩
    · exact ⟨p, .refl, hover⟩
    · obtain ⟨p'', hreaches, hover⟩ := ih p' hstep
      exact ⟨p'', .head hstep hreaches, hover⟩

end End

end Pool

end FluentBuilders
