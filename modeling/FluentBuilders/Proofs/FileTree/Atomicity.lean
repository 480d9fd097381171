import Mathlib.Data.List.Infix
import FluentBuilders.Proofs.FileTree.AtomicWrite

/-!
What a write leaves behind wherever it fails, and what can be seen on the way.

1. `FileTree.KeptAt`: nothing is new but directories that a path leads over.
2. The target beside a temporary file.
3. `AtomicWrite.Course`: the ways a write goes.
4. `AtomicWrite.run_atomic`: all or nothing. A target that its own path leads over may become a
directory (`AtomicWrite.run_over_itself`).
-/

namespace FluentBuilders

open Text

namespace FileTree

variable {t t' ready : FileTree} {target p : FilePath} {l k : Location}

/-! ## 1. What is kept -/

/-- The locations that a path leads over, from its start to its end. -/
def way (t : FileTree) (p : FilePath) : List Location := p.parts.inits.map (t.start p).follow

/-- A location is as it was, or it was free and is now a directory that the path leads over. -/
def KeptAt (p : FilePath) (t t' : FileTree) (l : Location) : Prop :=
  t'.get? l = t.get? l ∨ t.get? l = none ∧ t'.get? l = some .directory ∧ l ∈ t.way p

theorem mem_way : l ∈ t.way p ↔ ∃ before, before <+: p.parts ∧ (t.start p).follow before = l := by
  simp [way]

theorem KeptAt.refl (p : FilePath) (t : FileTree) (l : Location) : KeptAt p t t l := .inl rfl

/-- A path without two dots does not lead over its target before its end. -/
theorem locate_not_mem_way (hdots : ".." ∉ target.parts) (hparts : target.parts ≠ []) :
    t.locate target ∉ t.way target.parent := by
  intro hmem
  obtain ⟨before, hbefore, heq⟩ := mem_way.mp hmem
  have hlength := hbefore.length_le
  rw [FilePath.parent, List.length_dropLast] at hlength
  have hplain : ".." ∉ before := fun h =>
    hdots (List.dropLast_subset _ (hbefore.subset h))
  rw [locate, follow_plain hplain, follow_plain hdots,
    show t.start target.parent = t.start target from rfl] at heq
  have := congrArg List.length (List.append_cancel_left heq)
  have := List.length_pos_of_ne_nil hparts
  omega

/-- Without two dots, what stood at the target stands there. -/
theorem KeptAt.eq_of_plain (hs : t.Sound) (hdots : ".." ∉ target.parts)
    (h : KeptAt target.parent t t' (t.locate target)) :
    t'.get? (t.locate target) = t.get? (t.locate target) := by
  rcases h with h | ⟨hfree, -, hway⟩
  · exact h
  · by_cases hparts : target.parts = []
    · rw [locate, hparts, show (t.start target).follow [] = t.start target from rfl,
        hs.get?_start] at hfree
      cases hfree
    · exact absurd hway (locate_not_mem_way hdots hparts)

/-- Directories are made at free steps of the way only. -/
theorem get?_addDirectories (t : FileTree) (l k : Location) (parts : List String) :
    (t.addDirectories l parts).get? k = t.get? k ∨
      t.get? k = none ∧ (t.addDirectories l parts).get? k = some .directory ∧
        ∃ before, before <+: parts ∧ l.follow before = k := by
  induction parts generalizing t l with
  | nil => exact .inl rfl
  | cons name rest ih =>
    rw [addDirectories]
    cases hstep : t.get? (l.step name) with
    | some e =>
      refine (ih t (l.step name)).imp_right ?_
      rintro ⟨hfree, hnew, before, hbefore, rfl⟩
      exact ⟨hfree, hnew, name :: before, (List.prefix_cons_inj name).mpr hbefore, rfl⟩
    | none =>
      have htop : l.step name ≠ [] := by
        intro h
        rw [h] at hstep
        cases hstep
      have hput := fun k => get?_put t (l.step name) k .directory htop
      rcases ih (t.put (l.step name) .directory) (l.step name) with hsame | ⟨hfree, hnew, before,
        hbefore, rfl⟩
      · by_cases hk : l.step name = k
        · subst hk
          rw [hput, if_pos rfl] at hsame
          exact .inr ⟨hstep, hsame, [name], by simp, rfl⟩
        · rw [hput, if_neg hk] at hsame
          exact .inl hsame
      · rw [hput] at hfree
        split at hfree
        · cases hfree
        · exact .inr ⟨hfree, hnew, name :: before, (List.prefix_cons_inj name).mpr hbefore, rfl⟩

/-- Directories at the first steps of a path change nothing else. -/
theorem keptAt_addDirectories {parts : List String} (hparts : parts <+: p.parts) (l : Location) :
    KeptAt p t (t.addDirectories (t.start p) parts) l := by
  refine (t.get?_addDirectories (t.start p) l parts).imp_right ?_
  rintro ⟨hfree, hnew, before, hbefore, heq⟩
  exact ⟨hfree, hnew, mem_way.mpr ⟨before, hbefore.trans hparts, heq⟩⟩

theorem keptAt_makeDirectories (h : t.makeDirectories p = .ok t') (l : Location) :
    KeptAt p t t' l := by
  unfold makeDirectories at h
  split at h
  · cases h
    exact .refl p t l
  · cases h
  · split at h
    · cases h
      exact keptAt_addDirectories List.prefix_rfl l
    · cases h
  · cases h

/-- The first file on the way is at one of its steps. -/
theorem fileOnWay_prefix {passed parts found : List String}
    (h : t.fileOnWay l passed parts = some found) : ∃ some, some <+: parts ∧ found = passed ++ some := by
  induction parts generalizing l passed with
  | nil => cases h
  | cons name rest ih =>
    unfold fileOnWay at h
    split at h
    · cases h
      exact ⟨[name], by simp, rfl⟩
    · obtain ⟨more, hmore, rfl⟩ := ih h
      exact ⟨name :: more, (List.prefix_cons_inj name).mpr hmore, by simp⟩

theorem keptAt_begunDirectories (t : FileTree) (p : FilePath) (l : Location) :
    KeptAt p t (t.begunDirectories p) l := by
  unfold begunDirectories
  split
  · exact .refl p t l
  · next found hfound =>
    obtain ⟨parts, hparts, rfl⟩ := fileOnWay_prefix hfound
    exact keptAt_addDirectories ((List.dropLast_prefix _).trans hparts) l

/-! ## 2. The target beside a temporary file -/

/-- Behind a directory a path goes on from its location. -/
theorem reach_append {parts : List String} (h : t.reach l parts = .ok .directory)
    (rest : List String) : t.reach l (parts ++ rest) = t.reach (l.follow parts) rest := by
  induction parts generalizing l with
  | nil => rfl
  | cons name parts ih =>
    unfold reach at h
    split at h
    · cases h
    · cases h
    · next hdirectory =>
      rw [List.cons_append, reach, hdirectory]
      exact ih h

/-- A path that names nothing below its directory leads to a directory. -/
theorem Sound.look_unnamed (hs : t.Sound) (hlook : t.look target.parent = .ok .directory)
    (hunnamed : target.parts = [] ∨ target.name = "..") : t.look target = .ok .directory := by
  by_cases hparts : target.parts = []
  · simp only [look, hparts, FileTree.reach, hs.get?_start]
  · have hname := hunnamed.resolve_left hparts
    have hreach : t.reach (t.start target) target.parent.parts = .ok .directory := hlook
    have hparent := get?_of_reach hreach
    have hback : t.get? ((t.start target).follow target.parent.parts).dropLast = some .directory := by
      rcases List.eq_nil_or_concat ((t.start target).follow target.parent.parts) with h | ⟨k, last, h⟩
      · rw [h]
        rfl
      · rw [h, List.concat_eq_append] at hparent ⊢
        rw [List.dropLast_concat]
        exact hs.inside k last (by rw [hparent]; rfl)
    rw [look, parts_parent hparts, hname, reach_append hreach, FileTree.reach, hparent]
    dsimp only
    rw [Location.step, if_pos rfl, FileTree.reach, hback]

/-- The temporary file is not in the place of the target. -/
theorem temporary_ne_locate (t : FileTree) (target : FilePath) :
    t.temporary target ≠ t.locate target := by
  obtain ⟨n, hplace, -⟩ := t.temporary_place target
  rw [hplace]
  intro h
  by_cases hparts : target.parts = []
  · have hlength := congrArg List.length h
    simp [locate, FilePath.parent, hparts, start] at hlength
  · by_cases hname : target.name = ".."
    · have hlocate : t.locate target = (t.locate target.parent).dropLast := by
        unfold locate Location.follow
        rw [parts_parent hparts, List.foldl_append, hname]
        rfl
      have hlength := congrArg List.length h
      rw [hlocate, List.length_append, List.length_dropLast, List.length_singleton] at hlength
      omega
    · rw [locate_parent t hparts hname] at h
      exact temporaryName_ne target n (List.singleton_inj.mp (List.append_cancel_left h))

theorem temporary_ne_nil (t : FileTree) (target : FilePath) : t.temporary target ≠ [] := by
  obtain ⟨n, hplace, -⟩ := t.temporary_place target
  simp [hplace]

/-- The tree while the temporary file has a content. -/
def draft (ready : FileTree) (target : FilePath) (content : Bytes) : FileTree :=
  ready.put (ready.temporary target) (.file content)

theorem erase_draft (ready : FileTree) (target : FilePath) (content : Bytes) :
    (draft ready target content).erase (ready.temporary target) = ready :=
  erase_put (ready.temporary_ne_nil target) (ready.temporary_free target) _

theorem draft_put (ready : FileTree) (target : FilePath) (c content : Bytes) :
    (draft ready target c).put (ready.temporary target) (.file content) =
      draft ready target content :=
  put_put ready _ _ _

/-- While the temporary file is written, the target is as it was. -/
theorem get?_draft (ready : FileTree) (target : FilePath) (content : Bytes) :
    (draft ready target content).get? (ready.locate target) = ready.get? (ready.locate target) := by
  rw [draft, get?_put _ _ _ _ (ready.temporary_ne_nil target),
    if_neg (ready.temporary_ne_locate target)]

/-- A target is a directory beside its temporary file if it was one before. -/
theorem isDirectory_draft (hs : ready.Sound) (hlook : ready.look target.parent = .ok .directory)
    (content : Bytes) :
    (draft ready target content).isDirectory target = true ↔
      ready.get? (ready.locate target) = some .directory := by
  obtain ⟨n, hplace, -⟩ := ready.temporary_place target
  have hfree := ready.temporary_free target
  rw [draft, hplace]
  rw [hplace] at hfree
  by_cases hunnamed : target.parts = [] ∨ target.name = ".."
  · have hput : Later (fun _ => True) (fun _ => True) ready
        (ready.put (ready.locate target.parent ++ [temporaryName target n]) (.file content)) :=
      .put_file hs (get?_of_look hlook) (by rw [hfree]; simp) trivial content
    refine iff_of_true (isDirectory_iff.mpr ?_) (get?_of_look (hs.look_unnamed hlook hunnamed))
    exact (hput.sound hs).look_unnamed (hput.reach_directory hlook) hunnamed
  · obtain ⟨hparts, hname⟩ := not_or.mp hunnamed
    exact isDirectory_beside hs hparts hname hlook n hfree content

end FileTree

/-! ## 3. Courses -/

namespace AtomicWrite

open FileTree

variable {t ready : FileTree} {target : FilePath} {content : Bytes} {stop : Option Interruption}
  {w : AtomicWrite}

/-- The ways a write goes: the trees that can be seen, the tree in the end, and why it ends so. -/
inductive Course (t : FileTree) (target : FilePath) (content : Bytes) :
    Option Interruption → AtomicWrite → Prop
  /-- The directory of the target cannot be made. -/
  | refused (stop : Option Interruption) (fault : FileFault) (begun : FileTree)
      (hmake : t.makeDirectories target.parent = .error fault)
      (hbegun : ∀ l, KeptAt target.parent t begun l) :
      Course t target content stop ⟨[t, begun], begun, some fault⟩
  /-- It fails before there is a temporary file. -/
  | begun (i : Interruption) (ready begun : FileTree)
      (hmake : t.makeDirectories target.parent = .ok ready)
      (hbegun : ∀ l, KeptAt target.parent t begun l) :
      Course t target content (some i) ⟨[t, begun], begun, some i.fault⟩
  /-- It fails with a temporary file, which is removed. -/
  | abandoned (stop : Option Interruption) (ready : FileTree) (drafts : List Bytes)
      (fault : FileFault) (hmake : t.makeDirectories target.parent = .ok ready)
      (hstop : stop.isSome ∨ ready.get? (t.locate target) = some .directory)
      (hdrafts : ∀ c ∈ drafts, c <+: content) :
      Course t target content stop
        ⟨[t, ready] ++ drafts.map (draft ready target) ++ [ready], ready, some fault⟩
  /-- The temporary file takes the place of the target. -/
  | finished (ready : FileTree) (drafts : List Bytes)
      (hmake : t.makeDirectories target.parent = .ok ready)
      (hfile : ready.get? (t.locate target) ≠ some .directory)
      (hdrafts : ∀ c ∈ drafts, c <+: content) :
      Course t target content none
        ⟨[t, ready] ++ drafts.map (draft ready target) ++
            [ready.put (t.locate target) (.file content)],
          ready.put (t.locate target) (.file content), none⟩

theorem eq_of_failing {s : Stage} {i : Interruption} (h : failing stop s = some i) :
    stop = some i :=
  (Option.filter_eq_some_iff.mp h).1

/-- A write that fails at no step does not fail. -/
theorem eq_none_of_failing (h : ∀ s, failing stop s = none) : stop = none := by
  cases stop with
  | none => rfl
  | some i => exact absurd (h i.stage) (by simp [failing])

/-- A temporary file is removed whatever its content. -/
theorem abandon_draft (seen : List FileTree) (ready : FileTree) (target : FilePath) (c : Bytes)
    (fault : FileFault) :
    abandon (ready.temporary target) seen (draft ready target c) fault =
      ⟨seen ++ [draft ready target c, ready], ready, some fault⟩ := by
  unfold abandon
  dsimp only
  rw [erase_draft]

/-- It gives up with a second draft. -/
theorem Course.second (hmake : t.makeDirectories target.parent = .ok ready) {c : Bytes}
    (hc : c <+: content)
    (hstop : stop.isSome ∨ ready.get? (t.locate target) = some .directory) (fault : FileFault) :
    Course t target content stop (abandon (ready.temporary target)
      ([t, ready] ++ [draft ready target []]) (draft ready target c) fault) := by
  rw [abandon_draft]
  exact .abandoned _ ready [[], c] fault hmake hstop (by simpa using hc)

/-- The full temporary file is moved, unless the target is a directory. -/
theorem move_course (hs : t.Sound) (hmake : t.makeDirectories target.parent = .ok ready)
    (content : Bytes) :
    Course t target content none (moveInto target content (ready.temporary target)
      ([t, ready] ++ [draft ready target []]) (draft ready target content)) := by
  obtain ⟨hlater, hlook⟩ := makeDirectories_ok hs hmake
  have hlocate : ready.locate target = t.locate target := hlater.locate target
  unfold moveInto
  split
  · next hdirectory =>
    have hdirectory := (isDirectory_draft (hlater.sound hs) hlook content).mp hdirectory
    rw [hlocate] at hdirectory
    exact .second hmake List.prefix_rfl (.inr hdirectory) _
  · next hfile =>
    rw [isDirectory_draft (hlater.sound hs) hlook content, hlocate] at hfile
    rw [erase_draft, show (draft ready target content).locate target = t.locate target from hlocate]
    exact .finished ready [[], content] hmake hfile (by simp)

/-- The temporary file only ever holds a start of the content, and is moved once it is full. -/
theorem fill_course (hs : t.Sound) (hmake : t.makeDirectories target.parent = .ok ready)
    (hparents : failing stop .parents = none) (hcreate : failing stop .create = none)
    (content : Bytes) :
    Course t target content stop
      (fill stop target content (ready.temporary target) [t, ready] (draft ready target [])) := by
  have hsome : ∀ {s i}, failing stop s = some i → stop.isSome := fun h => by
    rw [eq_of_failing h]
    rfl
  unfold fill
  split
  · next i hi =>
    rw [abandon_draft]
    exact .abandoned _ ready [[]] i.fault hmake (.inl (hsome hi)) (by simp)
  next hopening =>
  split
  · next i hi =>
    rw [draft_put]
    exact .second hmake (List.take_prefix _ _) (.inl (hsome hi)) i.fault
  next hwrite =>
  dsimp only
  rw [draft_put]
  split
  · next i hi => exact .second hmake List.prefix_rfl (.inl (hsome hi)) i.fault
  · next i _ hi => exact .second hmake List.prefix_rfl (.inl (hsome hi)) i.fault
  · next i _ _ hi => exact .second hmake List.prefix_rfl (.inl (hsome hi)) i.fault
  next hflush hsync hreplace =>
  have hnone : stop = none := eq_none_of_failing fun s => by cases s <;> assumption
  subst hnone
  exact move_course hs hmake content

/-- Every write goes one of the ways. -/
theorem run_course (hs : t.Sound) (stop : Option Interruption) (target : FilePath)
    (content : Bytes) : Course t target content stop (run stop t target content) := by
  unfold run
  split
  · next fault hmake =>
    exact .refused stop fault _ hmake (t.keptAt_begunDirectories target.parent)
  next ready hmake =>
  split
  · next i hi =>
    rw [eq_of_failing hi]
    exact .begun i ready _ hmake (keptAt_addDirectories (List.take_prefix _ _))
  next hparents =>
  split
  · next i hi =>
    rw [eq_of_failing hi]
    exact .begun i ready ready hmake (keptAt_makeDirectories hmake)
  next hcreate =>
  exact fill_course hs hmake hparents hcreate content

/-! ## 4. All or nothing -/

/-- What a write from `t` may show and leave. Wherever it fails, nothing is new but directories that
the path of the target leads over; where it does not, the target is the only file that changed; and
nobody ever sees a part of the content at the target. -/
structure AllOrNothing (t : FileTree) (target : FilePath) (content : Bytes) (w : AtomicWrite) :
    Prop where
  failed : w.fault?.isSome → ∀ l, KeptAt target.parent t w.tree l
  done : w.fault? = none → w.tree.get? (t.locate target) = some (.file content) ∧
    ∀ l, l ≠ t.locate target → KeptAt target.parent t w.tree l
  seen : ∀ s ∈ w.seen, KeptAt target.parent t s (t.locate target) ∨
    s.get? (t.locate target) = some (.file content)

/-- All that can be seen before the end leaves the target alone. -/
theorem keptAt_seen (hs : t.Sound) (hmake : t.makeDirectories target.parent = .ok ready)
    (drafts : List Bytes) :
    ∀ s ∈ [t, ready] ++ drafts.map (draft ready target),
      KeptAt target.parent t s (t.locate target) := by
  have hready := keptAt_makeDirectories hmake (t.locate target)
  have hlocate := (makeDirectories_ok hs hmake).1.locate target
  intro s hmem
  rw [List.mem_append, List.mem_pair, List.mem_map] at hmem
  rcases hmem with (rfl | rfl) | ⟨c, -, rfl⟩
  · exact .refl _ _ _
  · exact hready
  · unfold KeptAt
    rw [← hlocate, get?_draft, hlocate]
    exact hready

theorem Course.allOrNothing (hs : t.Sound) (h : Course t target content stop w) :
    AllOrNothing t target content w := by
  cases h with
  | refused _ fault begun _ hbegun =>
    refine ⟨fun _ => hbegun, nofun, fun s hmem => .inl ?_⟩
    rcases List.mem_pair.mp hmem with rfl | rfl
    · exact .refl _ _ _
    · exact hbegun _
  | begun i ready begun _ hbegun =>
    refine ⟨fun _ => hbegun, nofun, fun s hmem => .inl ?_⟩
    rcases List.mem_pair.mp hmem with rfl | rfl
    · exact .refl _ _ _
    · exact hbegun _
  | abandoned _ ready drafts fault hmake =>
    refine ⟨fun _ => keptAt_makeDirectories hmake, nofun, fun s hmem => .inl ?_⟩
    rcases List.mem_append.mp hmem with hmem | hmem
    · exact keptAt_seen hs hmake drafts s hmem
    · rw [List.mem_singleton.mp hmem]
      exact keptAt_makeDirectories hmake _
  | finished ready drafts hmake hfile =>
    have htop : t.locate target ≠ [] := by
      intro h
      rw [h] at hfile
      exact hfile rfl
    have hput := fun k => get?_put ready (t.locate target) k (.file content) htop
    have hdone : (ready.put (t.locate target) (.file content)).get? (t.locate target) =
        some (.file content) := by rw [hput, if_pos rfl]
    refine ⟨nofun, fun _ => ⟨hdone, fun l hl => ?_⟩, fun s hmem => ?_⟩
    · unfold KeptAt
      rw [hput, if_neg (Ne.symm hl)]
      exact keptAt_makeDirectories hmake l
    · rcases List.mem_append.mp hmem with hmem | hmem
      · exact .inl (keptAt_seen hs hmake drafts s hmem)
      · rw [List.mem_singleton.mp hmem]
        exact .inr hdone

/-- A write does not fail exactly where no step is made to fail, the directory of the target can be
made, and the target is no directory then. -/
theorem Course.fault_none (h : Course t target content stop w) :
    w.fault? = none ↔ stop = none ∧ ∃ ready, t.makeDirectories target.parent = .ok ready ∧
      ready.get? (t.locate target) ≠ some .directory := by
  cases h with
  | refused _ fault begun hmake => simp [hmake]
  | begun i ready begun hmake => simp
  | abandoned _ ready drafts fault hmake hstop =>
    rcases hstop with hstop | hdirectory
    · simp [Option.isSome_iff_ne_none.mp hstop]
    · simp [hmake, hdirectory]
  | finished ready drafts hmake hfile => simp [hmake, hfile]

/-- **A write is all or nothing**, for every tree, target and text and wherever it is made to fail. It
fails whenever a step is made to fail; whatever fails, no temporary file and no change is left but
directories above the target. Without two dots in its path the target is exactly what it was. -/
theorem run_atomic (hs : t.Sound) (stop : Option Interruption) (target : FilePath) (text : String) :
    AllOrNothing t target (encode text) (run stop t target (encode text)) ∧
      ((run stop t target (encode text)).fault? = none ↔
        stop = none ∧ ∃ ready, t.makeDirectories target.parent = .ok ready ∧
          ready.get? (t.locate target) ≠ some .directory) ∧
      (".." ∉ target.parts →
        ((run stop t target (encode text)).fault?.isSome →
          (run stop t target (encode text)).tree.get? (t.locate target) =
            t.get? (t.locate target)) ∧
        ∀ s ∈ (run stop t target (encode text)).seen,
          s.get? (t.locate target) = t.get? (t.locate target) ∨
            s.get? (t.locate target) = some (.file (encode text))) := by
  have hcourse := run_course hs stop target (encode text)
  have hall := hcourse.allOrNothing hs
  refine ⟨hall, hcourse.fault_none, fun hdots => ⟨fun hfault => ?_, fun s hmem => ?_⟩⟩
  · exact (hall.failed hfault _).eq_of_plain hs hdots
  · exact (hall.seen s hmem).imp_left fun hkept => hkept.eq_of_plain hs hdots

/-- A file whose replacement fails is the old one, and nobody has seen anything else but the new one. -/
theorem run_atomic_kept :
    let t : FileTree := ⟨[(["a"], .directory), (["a", "b"], .file (encode "old"))], []⟩
    let w := run (some ⟨.replace, 0, .about .taken "a/b"⟩) t ⟨false, ["a", "b"]⟩ (encode "new")
    t.Sound ∧ w.fault? ≠ none ∧ w.tree.get? ["a", "b"] = some (.file (encode "old")) := by
  intro t w
  have hs : t.Sound := .of_entries (by decide) (by simp [t, get?, find]) rfl (by simp [t])
  obtain ⟨-, hfault, hplain⟩ := run_atomic hs (some ⟨.replace, 0, .about .taken "a/b"⟩)
    ⟨false, ["a", "b"]⟩ "new"
  have hfailed : w.fault? ≠ none := by
    intro h
    cases (hfault.mp h).1
  exact ⟨hs, hfailed, (hplain (by decide)).1 (Option.isSome_iff_ne_none.mpr hfailed)⟩

/-- The target `out/foo.py/../foo.py` lies in the directory `out/foo.py/..`, and making that one makes
`out/foo.py`: where there was nothing, the failed write leaves a directory. -/
theorem run_over_itself :
    let target : FilePath := ⟨false, ["out", "foo.py", "..", "foo.py"]⟩
    let w := run none .empty target (encode "x = 1\n")
    w.fault?.isSome = true ∧ FileTree.empty.get? (FileTree.empty.locate target) = none ∧
      w.tree.get? (FileTree.empty.locate target) = some .directory := by
  decide

end AtomicWrite

end FluentBuilders
