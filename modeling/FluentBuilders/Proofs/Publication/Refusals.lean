import FluentBuilders.Proofs.Publication

/-!
When a builder is refused, and when publishing it aborts the run.

1. `publish_aborts_iff`, `compare_aborts_iff`: in any tree, nothing but a file that is no text aborts.
2. What is in the way of directories: files, and nothing else. New directories lie on the way.
3. `Blocked`: a directory in the place of a builder, or a file on the way to it. `publish_answers`: where
   text stands or nothing, publishing is refused exactly there.
4. `Kept`: what publishing one builder leaves as it is for all the others.
-/

namespace FluentBuilders

open Text

/-! ## 1. What aborts a run -/

section Aborts

variable {t : FileTree} {root : FilePath} {a : Artifact} {p : FilePath} {e : Failure}

/-- A file that is no text stands where the path leads, and `e` says so. -/
def Garbled (t : FileTree) (p : FilePath) (e : Failure) : Prop :=
  ∃ c u, t.look p = .ok (.file c) ∧ decode? c = .error u ∧ e = .undecodable u

theorem currentText_aborts_iff :
    currentText t p = .error (.aborted e) ↔ Garbled t p e := by
  constructor
  · intro h
    by_cases hfile : ∃ c, t.look p = .ok (.file c)
    · obtain ⟨c, hc⟩ := hfile
      rw [currentText_file hc] at h
      split at h
      · cases h
      · next u hu =>
        cases h
        exact ⟨c, u, hc, hu, rfl⟩
    · rw [currentText_free fun c hc => hfile ⟨c, hc⟩] at h
      cases h
  · rintro ⟨c, u, hc, hu, rfl⟩
    rw [currentText_file hc, hu]

theorem currentText_not_refused (t : FileTree) (p : FilePath) (f : WriteFailure) :
    currentText t p ≠ .error (.refused f) := by
  intro h
  rcases currentText_cases t p with ⟨c, s, -, -, hcurrent⟩ | hcurrent | ⟨e, hcurrent⟩ <;>
  · rw [hcurrent] at h
    cases h

/-- Publishing aborts where the destination is a file that is no text, and leaves it. -/
theorem publish_aborts_iff :
    (publish root a t).1 = .error (.aborted e) ↔ Garbled t (artifactPath root a.module) e := by
  rw [← currentText_aborts_iff]
  unfold publish
  dsimp only
  constructor
  · intro h
    split at h
    · next fault hcurrent =>
      cases h
      exact hcurrent
    · split at h
      · cases h
      · split at h <;> cases h
  · intro h
    rw [h]

theorem compare_aborts_iff :
    (compare root a t).1 = .error (.aborted e) ↔ Garbled t (artifactPath root a.module) e := by
  rw [← currentText_aborts_iff]
  unfold compare
  dsimp only
  constructor
  · intro h
    split at h
    · next fault hcurrent =>
      cases h
      exact hcurrent
    · cases h
  · intro h
    rw [h]

/-- Comparing refuses nothing. -/
theorem compare_not_refused (root : FilePath) (a : Artifact) (t : FileTree) (f : WriteFailure) :
    (compare root a t).1 ≠ .error (.refused f) := by
  unfold compare
  dsimp only
  split
  · next fault hcurrent =>
    intro h
    cases h
    exact currentText_not_refused t _ f hcurrent
  · exact fun h => by cases h

end Aborts

/-! ## 2. What is in the way of directories -/

namespace FileTree

variable {t t' : FileTree} {l k : Location}

/-- A path leads nowhere because of a file that it comes upon. -/
theorem reach_notDirectory_file {parts : List String} (hparts : ".." ∉ parts)
    (h : t.reach l parts = .error .notDirectory) :
    ∃ before c, before <+: parts ∧ t.get? (l ++ before) = some (.file c) := by
  induction parts generalizing l with
  | nil =>
    unfold FileTree.reach at h
    split at h <;> cases h
  | cons name rest ih =>
    obtain ⟨hname, hrest⟩ := List.ne_and_not_mem_of_not_mem_cons hparts
    unfold FileTree.reach at h
    split at h
    · cases h
    · next c hfile => exact ⟨[], c, List.nil_prefix, by rwa [List.append_nil]⟩
    · rw [Location.step, if_neg (Ne.symm hname)] at h
      obtain ⟨before, c, hbefore, hfile⟩ := ih hrest h
      refine ⟨name :: before, c, (List.prefix_cons_inj name).mpr hbefore, ?_⟩
      rwa [List.append_assoc] at hfile

/-- Directories cannot be made where a file stands on the way, and only there. -/
theorem Sound.makeDirectories_fails_iff (hs : t.Sound) (hl : ".." ∉ l) :
    (∃ f, t.makeDirectories (Location.path l) = .error f) ↔
      ∃ k c, k <+: l ∧ t.get? k = some (.file c) := by
  constructor
  · rintro ⟨f, hf⟩
    rcases (hs.makeDirectories_refused hl f).mp hf with ⟨⟨c, hlook⟩, -⟩ | ⟨hlook, -⟩
    · exact ⟨l, c, List.prefix_rfl, (hs.look_iff hl).mp hlook⟩
    · obtain ⟨before, c, hbefore, hfile⟩ := reach_notDirectory_file hl hlook
      exact ⟨before, c, hbefore, hfile⟩
  · rintro ⟨k, c, ⟨rest, rfl⟩, hfile⟩
    cases hmake : t.makeDirectories (Location.path (k ++ rest)) with
    | error f => exact ⟨f, rfl⟩
    | ok ready =>
      -- the file would have to be a directory
      obtain ⟨hlater, hlook⟩ := makeDirectories_ok hs hmake
      have hready := hlater.sound hs
      have hkept := hlater.content k c id id hfile
      have hdirectory := (hready.look_iff hl).mp hlook
      by_cases hrest : rest = []
      · rw [hrest, List.append_nil, hkept] at hdirectory
        cases hdirectory
      · rw [hready.above hrest (by rw [hdirectory]; rfl)] at hkept
        cases hkept

theorem addDirectories_new {parts : List String} (hparts : ".." ∉ parts)
    (h : (t.addDirectories l parts).get? k = some .directory) :
    t.get? k = some .directory ∨ k <+: l ++ parts := by
  induction parts generalizing t l with
  | nil => exact .inl h
  | cons name rest ih =>
    obtain ⟨hname, hrest⟩ := List.ne_and_not_mem_of_not_mem_cons hparts
    rw [addDirectories, Location.step, if_neg (Ne.symm hname)] at h
    rcases ih hrest h with hstep | hway
    · split at hstep
      · exact .inl hstep
      · rw [get?_put _ _ _ _ (by simp)] at hstep
        split at hstep
        · next hk =>
          refine .inr ⟨rest, ?_⟩
          rw [← hk, List.append_assoc]
          rfl
        · exact .inl hstep
    · rw [List.append_assoc] at hway
      exact .inr hway

/-- Directories that are new lie on the way. -/
theorem makeDirectories_new (hl : ".." ∉ l) (h : t.makeDirectories (Location.path l) = .ok t')
    (hk : t'.get? k = some .directory) : t.get? k = some .directory ∨ k <+: l := by
  unfold makeDirectories at h
  split at h
  · cases h
    exact .inl hk
  · cases h
  · split at h
    · cases h
      exact addDirectories_new hl hk
    · cases h
  · cases h

end FileTree

/-! ## 3. Blocked destinations -/

/-- A builder has no place: it is a directory, or a file is on the way to it. -/
def Blocked (out : Location) (m : String) (t : FileTree) : Prop :=
  t.get? (destination out m) = some .directory ∨
    ∃ k c, k <+: (destination out m).dropLast ∧ t.get? k = some (.file c)

/-- What stands in the place of a builder, if it is a file, is text. -/
def Legible (out : Location) (m : String) (t : FileTree) : Prop :=
  ∀ c, t.get? (destination out m) = some (.file c) → ∃ s, decode? c = .ok s

section Answers

variable {t : FileTree} {out : Location} {a : Artifact} {m n : String}

/-- No module's file is on the way to the file of a module. -/
theorem destination_off_way (hn : IsModuleName n) :
    ¬ destination out m <+: (destination out n).dropLast := by
  intro h
  have hsame : m = n := destination_below hn (h.trans (List.dropLast_prefix _))
  subst hsame
  have hlength := h.length_le
  have hpos := List.length_pos_iff.mpr (destination_ne_nil out m)
  rw [List.length_dropLast] at hlength
  omega

/-- A blocked builder has no file. -/
theorem Blocked.free (h : Blocked out m t) (hs : t.Sound) (c : Bytes) :
    t.get? (destination out m) ≠ some (.file c) := by
  intro hc
  rcases h with hdirectory | ⟨k, c', ⟨rest, hway⟩, hfile⟩
  · rw [hc] at hdirectory
    cases hdirectory
  · have habove := destination_above hs (by rw [hc]; rfl)
    rw [← hway] at habove
    by_cases hrest : rest = []
    · rw [hrest, List.append_nil, hfile] at habove
      cases habove
    · rw [hs.above hrest (by rw [habove]; rfl)] at hfile
      cases hfile

theorem Legible.not_garbled (h : Legible out m t) (hs : t.Sound) (hout : ".." ∉ out)
    (hm : IsModuleName m) (e : Failure) :
    ¬ Garbled t (Location.path (destination out m)) e := by
  rintro ⟨c, u, hlook, hu, -⟩
  obtain ⟨s, hdecode⟩ := h c ((hs.look_iff (dots_not_mem_destination hout hm)).mp hlook)
  rw [hdecode] at hu
  cases hu

/-- How publishing makes room for an artifact whose text does not stand there. -/
theorem publish_made_cases (hs : t.Sound) (hout : ".." ∉ out) (ha : IsModuleName a.module)
    (htext : Legible out a.module t) (hother : ¬ Stands out a t) :
    (∃ f : FileFault, t.makeDirectories (Location.path (destination out a.module).dropLast) =
        .error f ∧ publish (Location.path out) a t =
          (.error (.refused ⟨Location.text (destination out a.module), f.message⟩), t)) ∨
      ∃ ready, t.makeDirectories (Location.path (destination out a.module).dropLast) = .ok ready ∧
        ((ready.get? (destination out a.module) = some .directory ∧
            ∃ cause, publish (Location.path out) a t =
              (.error (.refused ⟨Location.text (destination out a.module), cause⟩), ready)) ∨
          ready.get? (destination out a.module) ≠ some .directory ∧
            publish (Location.path out) a t =
              (.ok ⟨Location.text (destination out a.module), true⟩,
                ready.put (destination out a.module) (.file (encode a.text)))) := by
  obtain ⟨current, hcurrent, hnew⟩ : ∃ current,
      currentText t (Location.path (destination out a.module)) = .ok current ∧
        current ≠ some a.text := by
    rcases currentText_cases t (Location.path (destination out a.module)) with
      ⟨c, s, hlook, hdecode, hcurrent⟩ | hcurrent | ⟨e, hcurrent⟩
    · refine ⟨_, hcurrent, fun hsame => hother ⟨c, s, ?_, hdecode, Option.some.inj hsame⟩⟩
      exact (hs.look_iff (dots_not_mem_destination hout ha)).mp hlook
    · exact ⟨none, hcurrent, fun h => by cases h⟩
    · exact absurd (currentText_aborts_iff.mp hcurrent) (htext.not_garbled hs hout ha e)
  cases hmake : t.makeDirectories (Location.path (destination out a.module).dropLast) with
  | error f => exact .inl ⟨f, rfl, publish_blocked hs hout ha hcurrent hnew hmake⟩
  | ok ready =>
    have hmade := publish_made hs hout ha hcurrent hnew hmake
    refine .inr ⟨ready, rfl, ?_⟩
    split at hmade
    · next hdirectory => exact .inl ⟨hdirectory, _, hmade⟩
    · next hfree => exact .inr ⟨hfree, hmade⟩

/-- Once the directories are made, a builder is blocked if its place is a directory, and only then. -/
theorem blocked_of_made (hs : t.Sound) (hout : ".." ∉ out) (hm : IsModuleName m) {ready : FileTree}
    (hmake : t.makeDirectories (Location.path (destination out m).dropLast) = .ok ready) :
    ready.get? (destination out m) = some .directory ↔ Blocked out m t := by
  have hparent : ".." ∉ (destination out m).dropLast := fun h =>
    dots_not_mem_destination hout hm (List.dropLast_subset _ h)
  constructor
  · intro hdirectory
    rcases FileTree.makeDirectories_new hparent hmake hdirectory with hold | hway
    · exact .inl hold
    · exact absurd hway (destination_off_way hm)
  · rintro (hdirectory | hway)
    · exact (FileTree.makeDirectories_ok hs hmake).1.directory _ hdirectory
    · obtain ⟨f, hf⟩ := (hs.makeDirectories_fails_iff hparent).mpr hway
      rw [hmake] at hf
      cases hf

/-- Where text stands in the place of a builder, or nothing, publishing is refused if the place is
blocked, and goes well if it is not. -/
theorem publish_answers (hs : t.Sound) (hout : ".." ∉ out) (ha : IsModuleName a.module)
    (htext : Legible out a.module t) :
    (Blocked out a.module t → ∃ cause, (publish (Location.path out) a t).1 =
        .error (.refused ⟨Location.text (destination out a.module), cause⟩)) ∧
      (¬ Blocked out a.module t → ∃ changed, (publish (Location.path out) a t).1 =
        .ok ⟨Location.text (destination out a.module), changed⟩) := by
  by_cases hstands : Stands out a t
  · rw [publish_there hs hout ha hstands]
    refine ⟨fun hblocked => ?_, fun _ => ⟨false, rfl⟩⟩
    obtain ⟨c, -, hfile, -⟩ := hstands
    exact absurd hfile (hblocked.free hs c)
  · rcases publish_made_cases hs hout ha htext hstands with
      ⟨f, hmake, hpublish⟩ | ⟨ready, hmake, ⟨hdirectory, cause, hpublish⟩ | ⟨hfree, hpublish⟩⟩
    · rw [hpublish]
      refine ⟨fun _ => ⟨_, rfl⟩, fun hopen => absurd (.inr ?_) hopen⟩
      exact (hs.makeDirectories_fails_iff (mem_dropLast_destination hout ha)).mp ⟨f, hmake⟩
    · rw [hpublish]
      have hblocked := (blocked_of_made hs hout ha hmake).mp hdirectory
      exact ⟨fun _ => ⟨cause, rfl⟩, fun hopen => absurd hblocked hopen⟩
    · rw [hpublish]
      exact ⟨fun hblocked => absurd ((blocked_of_made hs hout ha hmake).mpr hblocked) hfree,
        fun _ => ⟨true, rfl⟩⟩

/-- Where text stands in the place of a builder, or nothing, comparing tells its place. -/
theorem compare_answers (hs : t.Sound) (hout : ".." ∉ out) (ha : IsModuleName a.module)
    (htext : Legible out a.module t) :
    ∃ changed, (compare (Location.path out) a t).1 =
      .ok ⟨Location.text (destination out a.module), changed⟩ := by
  cases hanswer : (compare (Location.path out) a t).1 with
  | ok p =>
    refine ⟨p.changed, ?_⟩
    unfold compare at hanswer
    dsimp only at hanswer
    rw [artifactPath_path ha] at hanswer
    split at hanswer
    · cases hanswer
    · cases hanswer
      rfl
  | error fault =>
    cases fault with
    | refused f => exact absurd hanswer (compare_not_refused _ _ _ f)
    | aborted e =>
      have hgarbled := compare_aborts_iff.mp hanswer
      rw [artifactPath_path ha] at hgarbled
      exact absurd hgarbled (htext.not_garbled hs hout ha e)

end Answers

/-! ## 4. What stays for the others -/

section Kept

variable {t t' : FileTree} {out : Location} {a : Artifact} {m : String}

/-- Publishing makes no directory but on the way to its artifact. -/
theorem publish_new (hs : t.Sound) (hout : ".." ∉ out) (ha : IsModuleName a.module)
    (htext : Legible out a.module t) {l : Location}
    (h : (publish (Location.path out) a t).2.get? l = some .directory) :
    t.get? l = some .directory ∨ l <+: (destination out a.module).dropLast := by
  have hparent := mem_dropLast_destination hout ha
  by_cases hstands : Stands out a t
  · rw [publish_there hs hout ha hstands] at h
    exact .inl h
  · rcases publish_made_cases hs hout ha htext hstands with
      ⟨f, hmake, hpublish⟩ | ⟨ready, hmake, ⟨hdirectory, cause, hpublish⟩ | ⟨hfree, hpublish⟩⟩ <;>
      rw [hpublish] at h
    · exact .inl h
    · exact FileTree.makeDirectories_new hparent hmake h
    · dsimp only at h
      rw [FileTree.get?_put _ _ _ _ (destination_ne_nil out a.module)] at h
      split at h
      · cases h
      · exact FileTree.makeDirectories_new hparent hmake h

/-- Publishing an artifact blocks no builder, and makes way for none. -/
theorem publish_blocked_iff (hs : t.Sound) (hout : ".." ∉ out) (ha : IsModuleName a.module)
    (htext : Legible out a.module t) (hm : IsModuleName m) :
    Blocked out m (publish (Location.path out) a t).2 ↔ Blocked out m t := by
  have hlater := publish_later hs hout ha fun _ => False
  constructor
  · rintro (hdirectory | ⟨k, c, hway, hfile⟩)
    · rcases publish_new hs hout ha htext hdirectory with hold | hway
      · exact .inl hold
      · exact absurd hway (destination_off_way ha)
    · refine .inr ⟨k, c, hway, hlater.old k c ?_ hfile⟩
      rintro rfl
      exact destination_off_way hm hway
  · rintro (hdirectory | ⟨k, c, hway, hfile⟩)
    · exact .inl (hlater.directory _ hdirectory)
    · obtain ⟨c', hfile'⟩ := hlater.file k c id hfile
      exact .inr ⟨k, c', hway, hfile'⟩

/-- What publishing leaves is text where there was text. -/
theorem publish_legible (hs : t.Sound) (hout : ".." ∉ out) (ha : IsModuleName a.module)
    (hm : Legible out m t) : Legible out m (publish (Location.path out) a t).2 := by
  generalize hanswer : (publish (Location.path out) a t).1 = answer
  generalize hafter : (publish (Location.path out) a t).2 = after
  have hcases := publish_cases hs hout ha
  rw [hanswer, hafter] at hcases
  cases hcases with
  | there => exact hm
  | @written ready hlater hparent hfree =>
    intro c hc
    rw [FileTree.get?_put _ _ _ _ (destination_ne_nil out a.module)] at hc
    split at hc
    · cases hc
      exact ⟨_, decode?_encode a.text⟩
    · exact hm c (hlater.old _ c id hc)
  | blocked => exact hm
  | directory _ hlater => exact fun c hc => hm c (hlater.old _ c id hc)
  | aborted => exact hm

/-- What a tree keeps of the tree `t` while the builders of modules `P` are published: the same builders
are blocked, and text stands in their places or nothing. -/
structure Kept (out : Location) (P : String → Prop) (t t' : FileTree) : Prop where
  sound : t'.Sound
  blocked : ∀ m, P m → (Blocked out m t' ↔ Blocked out m t)
  legible : ∀ m, P m → Legible out m t'

theorem Kept.publish {P : String → Prop} (h : Kept out P t t') (hout : ".." ∉ out)
    (hnames : ∀ m, P m → IsModuleName m) (ha : P a.module) :
    Kept out P t (FluentBuilders.publish (Location.path out) a t').2 where
  sound := (publish_later h.sound hout (hnames _ ha) fun _ => False).sound h.sound
  blocked m hm := (publish_blocked_iff h.sound hout (hnames _ ha) (h.legible _ ha)
    (hnames m hm)).trans (h.blocked m hm)
  legible m hm := publish_legible h.sound hout (hnames _ ha) (h.legible m hm)

end Kept

end FluentBuilders
