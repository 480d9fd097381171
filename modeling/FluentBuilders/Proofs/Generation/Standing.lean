import FluentBuilders.Proofs.Generation.Sparing

/-!
Which builders stand in a tree after the rounds of a run, whenever the run was cancelled.

1. `Confined`: publishers that touch the place of what they publish, and no other.
2. `Delivered`: what the artifacts of one round have become.
3. `Standing`: after any number of rounds, every file that was touched is that of an artifact of the
   run, and everything published has its place.
-/

namespace FluentBuilders

open Text

/-! ## 1. Confined publishers -/

/-- A publisher touches the place of an artifact only where it publishes it, and tells that place. -/
structure Confined (out : Location)
    (send : Artifact → FileTree → Except PublishFault Published × FileTree) : Prop where
  later : ∀ {a t}, t.Sound → IsModuleName a.module →
    FileTree.Later (fun l => l = destination out a.module ∧ ∃ p, (send a t).1 = .ok p)
      (fun _ => False) t (send a t).2
  path : ∀ {a t p}, IsModuleName a.module → (send a t).1 = .ok p →
    p.path = Location.text (destination out a.module)

theorem publish_confined {out : Location} (hout : ".." ∉ out) :
    Confined out (publish (Location.path out)) where
  later {a t} hs ha := by
    have hcases := publish_cases hs hout ha
    generalize (publish (Location.path out) a t).1 = answer at *
    generalize (publish (Location.path out) a t).2 = after at *
    cases hcases with
    | there => exact .refl t
    | written hlater hparent hfree =>
      refine hlater.weaken.trans ?_
      rw [destination_eq] at hfree ⊢
      exact .put_file (hlater.sound hs) hparent hfree ⟨rfl, _, rfl⟩ _
    | blocked => exact .refl t
    | directory _ hlater => exact hlater.weaken
    | aborted => exact .refl t
  path {a t p} ha h := by
    unfold publish at h
    dsimp only at h
    rw [artifactPath_path ha] at h
    split at h
    · cases h
    split at h
    · cases h
      rfl
    split at h
    · cases h
    · cases h
      rfl

theorem compare_confined (out : Location) : Confined out (compare (Location.path out)) where
  later {a t} _ _ := by
    rw [compare_idle]
    exact .refl t
  path {a t p} ha h := by
    unfold compare at h
    dsimp only at h
    rw [artifactPath_path ha] at h
    split at h
    · cases h
    · cases h
      rfl

/-! ## 2. One round -/

/-- What has become of artifacts: files were touched only at the places of those that did not fail, and
whatever is done has its place. -/
structure Delivered (out : Location) (artifacts : List Artifact) (d d' : Delivery)
    (t t' : FileTree) : Prop where
  later : FileTree.Later
    (fun l => ∃ a ∈ artifacts, a.module ∉ d'.failures.keys ∧ l = destination out a.module)
    (fun _ => False) t t'
  failures : ∀ m ∈ d'.failures.keys, m ∈ d.failures.keys ∨ ∃ a ∈ artifacts, m = a.module
  places : ∀ m p, d'.done.get? m = some p →
    d.done.get? m = some p ∨ p.path = Location.text (destination out m)

section Delivery

variable {env : Surroundings FileTree} {out : Location}
  {send : Artifact → FileTree → Except PublishFault Published × FileTree} {round : Nat}
  {a : Artifact} {artifacts : List Artifact} {d d' d'' : Delivery} {t t' t'' : FileTree}

theorem publishOne_delivered (hsend : Confined out send) (hs : t.Sound)
    (ha : IsModuleName a.module) (hnew : a.module ∉ d.failures.keys)
    (h : publishOne env send round a d t = (.ok d', t')) : Delivered out [a] d d' t t' := by
  have hlater := hsend.later hs ha
  have hfailed : ∀ u, ∀ m ∈ (d.fail a.module u).failures.keys,
      m ∈ d.failures.keys ∨ ∃ b ∈ [a], m = b.module := by
    intro u m hm
    rcases (Table.mem_keys_insert ..).mp hm with rfl | hm
    · exact .inr ⟨a, List.mem_singleton_self a, rfl⟩
    · exact .inl hm
  unfold publishOne at h
  split at h
  · cases h
    exact ⟨.refl t, hfailed _, fun _ _ => .inl⟩
  split at h
  · next p t₁ hanswer =>
    cases h
    rw [hanswer] at hlater
    refine ⟨hlater.mono (fun l hl => ⟨a, List.mem_singleton_self a, hnew, hl.1⟩) fun _ => id,
      fun _ => .inl, fun m q hq => ?_⟩
    rw [Delivery.deliver, Table.get?_insert] at hq
    split at hq
    · next hm =>
      cases hq
      subst hm
      exact .inr (hsend.path ha (congrArg Prod.fst hanswer))
    · exact .inl hq
  · next f t₁ hanswer =>
    cases h
    rw [hanswer] at hlater
    refine ⟨hlater.mono (fun l hl => ?_) fun _ => id, hfailed _, fun _ _ => .inl⟩
    obtain ⟨-, p, hp⟩ := hl
    cases hp
  · cases h

/-- Artifacts of other modules change nothing about an artifact. -/
theorem Delivered.cons (h : Delivered out [a] d d' t t') (h' : Delivered out artifacts d' d'' t' t'')
    (hapart : ∀ b ∈ artifacts, a.module ≠ b.module) :
    Delivered out (a :: artifacts) d d'' t t'' where
  later := by
    refine (h.later.mono (fun l hl => ?_) fun _ => id).trans (h'.later.mono (fun l hl => ?_) fun _ => id)
    · obtain ⟨b, hb, hkept, rfl⟩ := hl
      rw [List.mem_singleton] at hb
      subst hb
      refine ⟨b, List.mem_cons_self, fun hfailed => ?_, rfl⟩
      rcases h'.failures _ hfailed with hfailed | ⟨b', hb', hsame⟩
      · exact hkept hfailed
      · exact hapart b' hb' hsame
    · obtain ⟨b, hb, hl⟩ := hl
      exact ⟨b, List.mem_cons_of_mem _ hb, hl⟩
  failures m hm := by
    rcases h'.failures m hm with hm | ⟨b, hb, rfl⟩
    · rcases h.failures m hm with hm | ⟨b, hb, rfl⟩
      · exact .inl hm
      · exact .inr ⟨b, List.mem_singleton.mp hb ▸ List.mem_cons_self, rfl⟩
    · exact .inr ⟨b, List.mem_cons_of_mem _ hb, rfl⟩
  places m p hp := by
    rcases h'.places m p hp with hp | hp
    · exact h.places m p hp
    · exact .inr hp

theorem publishInTurn_delivered (hsend : Confined out send) (hs : t.Sound)
    (hnames : ∀ a ∈ artifacts, IsModuleName a.module) (hnodup : (artifacts.map (·.module)).Nodup)
    (hnew : ∀ a ∈ artifacts, a.module ∉ d.failures.keys)
    (h : publishInTurn env send round artifacts d t = (.ok d', t')) :
    Delivered out artifacts d d' t t' := by
  induction artifacts generalizing d t with
  | nil =>
    cases h
    exact ⟨.refl _, fun _ => .inl, fun _ _ => .inl⟩
  | cons a rest ih =>
    unfold publishInTurn at h
    split at h
    · next d₁ t₁ hone =>
      have hone := publishOne_delivered hsend hs (hnames a List.mem_cons_self)
        (hnew a List.mem_cons_self) hone
      rw [List.map_cons, List.nodup_cons] at hnodup
      have hapart : ∀ b ∈ rest, a.module ≠ b.module := fun b hb heq =>
        hnodup.1 (heq ▸ List.mem_map_of_mem hb)
      refine hone.cons (ih (hone.later.sound hs) (fun b hb => hnames b (List.mem_cons_of_mem _ hb))
        hnodup.2 (fun b hb hfailed => ?_) h) hapart
      rcases hone.failures _ hfailed with hfailed | ⟨b', hb', hsame⟩
      · exact hnew b (List.mem_cons_of_mem _ hb) hfailed
      · exact hapart b hb (List.mem_singleton.mp hb' ▸ hsame.symm)
    · cases h

end Delivery

/-- What is published once more artifacts are added: what was, and what is done of them. -/
theorem Run.addArtifacts_published (run : Run) (done : Table Published) {artifacts : List Artifact}
    {m : String} {p : Published} (h : (run.addArtifacts done artifacts).published.get? m = some p) :
    run.published.get? m = some p ∨ done.get? m = some p ∧ ∃ a ∈ artifacts, m = a.module := by
  unfold Run.addArtifacts at h
  dsimp only at h
  generalize run.published = table at h ⊢
  induction artifacts generalizing table with
  | nil => exact .inl h
  | cons a rest ih =>
    rw [List.foldl_cons] at h
    rcases ih _ h with h | ⟨hdone, b, hb, hm⟩
    · split at h
      · next q hq =>
        rw [Table.get?_insert] at h
        split at h
        · next hm =>
          cases h
          subst hm
          exact .inr ⟨hq, a, List.mem_cons_self, rfl⟩
        · exact .inl h
      · exact .inl h
    · exact .inr ⟨hdone, b, List.mem_cons_of_mem _ hb, hm⟩

/-! ## 3. All rounds -/

namespace Generation

variable {r : Request} {t : FileTree} {cancelled : Moment → Bool} {s s' : Rounds.State FileTree}
  {round : Nat} {rounded : FileTree}

/-- What rounds leave behind them: only files of their artifacts were touched, and what was published
is one of these and has its place. -/
structure Standing (r : Request) (t : FileTree) (s : Rounds.State FileTree) : Prop where
  later : FileTree.Later (fun l => ∃ a ∈ s.run.artifacts, l = destination (r.out t) a.module)
    (fun _ => False) t s.world
  places : ∀ m p, s.run.published.get? m = some p →
    p.path = Location.text (destination (r.out t) m) ∧ ∃ a ∈ s.run.artifacts, m = a.module

theorem surroundings_confined (hs : t.Sound) (r : Request) :
    Confined (r.out t) (if r.check then compare (r.output t) else publish (r.output t)) := by
  split
  · exact compare_confined _
  · exact publish_confined (hs.dots_not_mem_locate _)

/-- The artifacts of a round are published one after the other. -/
theorem surroundings_inTurn {artifacts : List Artifact} {d : Delivery} {world t' : FileTree}
    (h : publishRound (surroundings r (r.output t) cancelled) round artifacts world = (.ok d, t')) :
    publishInTurn (surroundings r (r.output t) cancelled)
      (if r.check then compare (r.output t) else publish (r.output t)) round artifacts .empty world =
        (.ok d, t') := by
  unfold publishRound at h
  split at h
  · next hpublish => cases hpublish
  · next send hpublish =>
    cases hpublish
    split at h
    · exact h
    · exact publishAll_iff.mp h

theorem Standing.once (hs : t.Sound) (h : Standing r t s) {names : List String}
    (haccount : Rounds.Account r.profile.marker names s) {next : Rounds.Next} {world : FileTree}
    (honce : Rounds.once (surroundings r (r.output t) cancelled) r.profile round s =
      (.ok (s', next), world)) : Standing r t s' := by
  obtain ⟨delivery, moved, hround, hclose, -⟩ := Rounds.once_closed honce
  have hnames : ∀ a ∈ (Rounds.scanOf (surroundings r (r.output t) cancelled) r.profile.marker round
      s).artifacts, IsModuleName a.module := fun a ha => (haccount.scan_fit ha).module
  have hdelivered := publishInTurn_delivered (surroundings_confined hs r) (h.later.sound hs) hnames
    (Scan.through_modules ..).1 (fun _ _ => List.not_mem_nil) (surroundings_inTurn hround)
  obtain ⟨rfl, -⟩ := Prod.mk.inj hclose
  refine ⟨?_, fun m p hp => ?_⟩
  · refine (h.later.mono (fun l hl => ?_) fun _ => id).trans
      (hdelivered.later.mono (fun l hl => ?_) fun _ => id)
    · obtain ⟨a, ha, hl⟩ := hl
      exact ⟨a, List.mem_append_left _ ha, hl⟩
    · obtain ⟨a, ha, hgood, hl⟩ := hl
      exact ⟨a, List.mem_append_right _ (mem_kept.mpr ⟨ha, hgood⟩), hl⟩
  · rcases Run.addArtifacts_published _ _ hp with hp | ⟨hp, a, ha, rfl⟩
    · obtain ⟨hpath, a, ha, hm⟩ := h.places m p hp
      exact ⟨hpath, a, List.mem_append_left _ ha, hm⟩
    · refine ⟨?_, a, List.mem_append_right _ ha, rfl⟩
      rcases hdelivered.places _ p hp with hnone | hpath
      · cases hnone
      · exact hpath

/-- After the rounds of a run that ended well, only files of its artifacts were touched. -/
theorem rounds_standing (hs : t.Sound) (h : r.rounds cancelled t = (.ok s, rounded)) :
    Standing r t s ∧ s.world = rounded := by
  refine ⟨Rounds.run_induct (Q := Standing r t) ?_ ?_ ?_ h, Rounds.run_state_world h⟩
  · exact ⟨.refl t, fun m p hp => by cases hp⟩
  · intro round s s' next world hreaches hstanding honce
    obtain ⟨names, haccount⟩ := hreaches.account (load_loaded t (r.root t) r.profile)
    exact hstanding.once hs haccount honce
  · exact fun s cancelled hstanding => ⟨hstanding.later, hstanding.places⟩

theorem rounds_touch (hs : t.Sound) (h : r.rounds cancelled t = (.ok s, rounded)) :
    FileTree.Later (fun l => ∃ a ∈ s.run.artifacts, l = destination (r.out t) a.module)
      (fun _ => False) t rounded := by
  obtain ⟨hstanding, rfl⟩ := rounds_standing hs h
  exact hstanding.later

end Generation

end FluentBuilders
