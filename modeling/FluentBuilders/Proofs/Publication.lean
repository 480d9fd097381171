import FluentBuilders.Proofs.BuilderText.Lines
import FluentBuilders.Proofs.FileTree.AtomicWrite
import FluentBuilders.Publication

/-!
What publishing a builder does to a tree, and what it does the next time.

1. `Artifact.Fit`: builders of a sound registry stand in modules that name files, their lines end in
   line feeds, and they are known as builders.
2. `fileParts`: different modules have different files, and none lies below another.
3. `publish_cases`: all that publishing can do.
4. `publish_later`, `publish_stands`, `publish_headed`, `publish_refused`: a builder's file is the only
   one that publishing touches; its text stands there; it starts as builders do, and where it is
   refused there is none.
5. `publish_again`: as long as that file stays, publishing again gives the same answer and changes
   nothing.
-/

namespace FluentBuilders

open Text

/-! ## 1. Fit artifacts -/

/-- The module of an artifact names a file, and its text is read back as it is and known as that of
a builder. -/
structure Artifact.Fit (a : Artifact) : Prop where
  module : IsModuleName a.module
  text : Lacks '\r' a.text
  generated : FileTree.startsGenerated (encode a.text) = true

/-- The module of a builder names a file. -/
theorem generate_isModuleName {r : Resolver} {d : Declaration} {a : Artifact}
    (h : generate r d = .ok a) : IsModuleName a.module := by
  obtain ⟨properties, -, hfault, -⟩ := generate_blueprint h
  have hmodule := builderModule_isModuleName (Blueprint.usable hfault)
  rw [(generate_spec h).2]
  exact hmodule

/-- Builders of a sound registry are fit. -/
theorem Registry.Sound.fit {g : Registry} (hg : g.Sound) {d : Declaration} {a : Artifact}
    (h : generate g.resolver d = .ok a) : a.Fit := by
  obtain ⟨properties, hexposed, hfault, htext⟩ := generate_blueprint h
  have husable := Blueprint.usable hfault
  have htypes := hg.type_lacks hexposed (c := '\r') (by decide) (by decide)
  refine ⟨generate_isModuleName h, ?_, ?_⟩
  · rw [htext]
    exact Blueprint.lacks_text husable htypes
  · obtain ⟨more, hmore⟩ := (d.blueprint properties).header_first
    unfold FileTree.startsGenerated encode
    rw [htext, ← hmore, List.flatMap_append, List.isPrefixOf_iff_prefix]
    exact List.prefix_append ..

/-! ## 2. Places -/

/-- The names of a module's file below its root. -/
def fileParts (m : String) : List String :=
  (dottedParts m).dropLast ++ [(dottedParts m).getLast?.getD "" ++ ".py"]

theorem dottedParts_injective : Function.Injective dottedParts :=
  Function.LeftInverse.injective joinDotted_dottedParts

theorem fileParts_injective : Function.Injective fileParts := by
  intro m n h
  obtain ⟨hbefore, hlast⟩ := List.append_inj' h rfl
  refine dottedParts_injective ?_
  have hm := List.dropLast_concat_getLast (dottedParts_ne_nil m)
  have hn := List.dropLast_concat_getLast (dottedParts_ne_nil n)
  rw [List.getLast?_eq_some_getLast (dottedParts_ne_nil m),
    List.getLast?_eq_some_getLast (dottedParts_ne_nil n), List.singleton_inj] at hlast
  have hlast := congrArg String.toList hlast
  simp only [String.toList_append, Option.getD_some] at hlast
  rw [← hm, ← hn, hbefore, String.toList_injective (List.append_cancel_right hlast)]

/-- A name that leads one step down from a directory. -/
structure IsEntryName (s : String) : Prop where
  ne_nil : s ≠ ""
  ne_dot : s ≠ "."
  ne_dots : s ≠ ".."
  slash : '/' ∉ s.toList

instance (s : String) : Decidable (IsEntryName s) :=
  decidable_of_iff (s ≠ "" ∧ s ≠ "." ∧ s ≠ ".." ∧ '/' ∉ s.toList)
    ⟨fun h => ⟨h.1, h.2.1, h.2.2.1, h.2.2.2⟩, fun h => ⟨h.1, h.2, h.3, h.4⟩⟩

theorem IsPart.isEntryName {s : String} (h : IsPart s) : IsEntryName s where
  ne_nil := h.1
  ne_dot := by
    rintro rfl
    exact h.dot_not_mem (by decide)
  ne_dots := h.ne_dots
  slash := fun hmem => (h.2 _ hmem).2 rfl

theorem ending_ne_dots (s : String) : s ++ ".py" ≠ ".." := by
  intro h
  have hlast := congrArg (fun s => s.toList.getLast?) h
  simp at hlast

/-- The ending of a source file parts no path. -/
theorem IsPart.isEntryName_file {s : String} (h : IsPart s) : IsEntryName (s ++ ".py") := by
  refine ⟨fun heq => ?_, fun heq => ?_, ending_ne_dots s, ?_⟩
  · have hlength := congrArg (fun s => s.toList.length) heq
    simp at hlength
  · have hlength := congrArg (fun s => s.toList.length) heq
    simp at hlength
  · rw [String.toList_append, List.mem_append, not_or]
    exact ⟨h.isEntryName.slash, by decide⟩

/-- A name without a slash is a path of one part. -/
theorem IsEntryName.ofText {s : String} (h : IsEntryName s) : FilePath.ofText s = ⟨false, [s]⟩ := by
  have hrelative : ['/'].isPrefixOf s.toList = false := by
    have hslash := h.slash
    cases hs : s.toList with
    | nil => rfl
    | cons c rest =>
      rw [hs] at hslash
      have hc : '/' ≠ c := fun heq => hslash (heq ▸ List.mem_cons_self)
      simp [List.isPrefixOf, hc]
  have hparts : FilePath.partsOf s = [s] := by
    unfold FilePath.partsOf
    rw [splitChars_of_not_mem h.slash]
    simp [h.ne_nil, h.ne_dot]
  unfold FilePath.ofText
  rw [hrelative, hparts]

theorem IsEntryName.child {s : String} (h : IsEntryName s) (p : FilePath) :
    p.child s = ⟨p.absolute, p.parts ++ [s]⟩ := by
  unfold FilePath.child
  rw [h.ofText]
  rfl

theorem foldl_child {parts : List String} (h : ∀ part ∈ parts, IsEntryName part) (p : FilePath) :
    parts.foldl FilePath.child p = ⟨p.absolute, p.parts ++ parts⟩ := by
  induction parts generalizing p with
  | nil => simp
  | cons part rest ih =>
    rw [List.foldl_cons, (h part List.mem_cons_self).child,
      ih fun q hq => h q (List.mem_cons_of_mem _ hq)]
    simp

theorem getLast?_dottedParts {m : String} (h : IsModuleName m) :
    ∃ last, (dottedParts m).getLast? = some last ∧ IsPart last :=
  ⟨_, List.getLast?_eq_some_getLast (dottedParts_ne_nil m),
    h _ (List.getLast_mem (dottedParts_ne_nil m))⟩

/-- Files of modules are named by names of entries. -/
theorem isEntryName_fileParts {m : String} (h : IsModuleName m) :
    ∀ part ∈ fileParts m, IsEntryName part := by
  obtain ⟨last, hlast, hpart⟩ := getLast?_dottedParts h
  intro part hmem
  unfold fileParts at hmem
  rw [hlast, List.mem_append, List.mem_singleton] at hmem
  rcases hmem with hmem | rfl
  · exact (h part (List.dropLast_subset _ hmem)).isEntryName
  · exact hpart.isEntryName_file

/-- The file of a module stands at its names below the root. -/
theorem artifactPath_eq {m : String} (h : IsModuleName m) (root : FilePath) :
    artifactPath root m = ⟨root.absolute, root.parts ++ fileParts m⟩ :=
  foldl_child (isEntryName_fileParts h) root

theorem dots_not_mem_fileParts {m : String} (h : IsModuleName m) : ".." ∉ fileParts m :=
  fun hmem => (isEntryName_fileParts h _ hmem).ne_dots rfl

/-- No file of a module lies on the way to the file of another one. -/
theorem fileParts_prefix {m n : String} (hn : IsModuleName n) (h : fileParts m <+: fileParts n) :
    m = n := by
  rcases List.prefix_concat_iff.mp h with heq | hbefore
  · exact fileParts_injective heq
  · exfalso
    have hmem : (dottedParts m).getLast?.getD "" ++ ".py" ∈ (dottedParts n).dropLast :=
      hbefore.subset (List.mem_append_right _ (List.mem_singleton_self _))
    have hpart := hn _ (List.dropLast_subset _ hmem)
    refine (hpart.2 '.' ?_).1 rfl
    rw [String.toList_append, List.mem_append]
    exact .inr (by decide)

/-- The location of a module's file below a directory. -/
def destination (out : Location) (m : String) : Location := out ++ fileParts m

section Destination

variable {out : Location} {m n : String}

theorem artifactPath_path (hm : IsModuleName m) (out : Location) :
    artifactPath (Location.path out) m = Location.path (destination out m) :=
  artifactPath_eq hm _

theorem dots_not_mem_destination (hout : ".." ∉ out) (hm : IsModuleName m) :
    ".." ∉ destination out m := by
  unfold destination
  rw [List.mem_append, not_or]
  exact ⟨hout, dots_not_mem_fileParts hm⟩

theorem destination_below (hn : IsModuleName n) (h : destination out m <+: destination out n) :
    m = n :=
  fileParts_prefix hn ((List.prefix_append_right_inj out).mp h)

theorem destination_injective (out : Location) : Function.Injective (destination out) :=
  fun _ _ h => fileParts_injective (List.append_cancel_left h)

theorem destination_eq (out : Location) (m : String) :
    destination out m =
      (destination out m).dropLast ++ [(dottedParts m).getLast?.getD "" ++ ".py"] := by
  unfold destination fileParts
  rw [← List.append_assoc, List.dropLast_concat]

theorem destination_ne_nil (out : Location) (m : String) : destination out m ≠ [] := by
  rw [destination_eq]
  simp

end Destination

/-! ## 3. What publishing can do -/

section Publish

variable {t t' : FileTree} {out : Location} {a : Artifact} {p : FilePath} {c : Bytes}

theorem currentText_file (h : t.look p = .ok (.file c)) :
    currentText t p =
      match decode? c with
      | .ok s => .ok (some (unifyLines s))
      | .error e => .error (.aborted (.undecodable e)) := by
  unfold currentText FileTree.readText
  rw [if_pos (FileTree.isFile_iff.mpr ⟨c, h⟩), FileTree.readBytes_iff.mpr h]
  dsimp only
  cases decode? c <;> rfl

theorem currentText_free (h : ∀ c, t.look p ≠ .ok (.file c)) : currentText t p = .ok none := by
  unfold currentText
  rw [if_neg]
  intro hfile
  obtain ⟨c, hc⟩ := FileTree.isFile_iff.mp hfile
  exact h c hc

/-- A path leads to a file of text or of something else, or to no file. -/
theorem currentText_cases (t : FileTree) (p : FilePath) :
    (∃ c s, t.look p = .ok (.file c) ∧ decode? c = .ok s ∧
        currentText t p = .ok (some (unifyLines s))) ∨
      currentText t p = .ok none ∨ ∃ e, currentText t p = .error (.aborted e) := by
  by_cases hfile : ∃ c, t.look p = .ok (.file c)
  · obtain ⟨c, hc⟩ := hfile
    cases hdecode : decode? c with
    | ok s => exact .inl ⟨c, s, hc, hdecode, by rw [currentText_file hc, hdecode]⟩
    | error e => exact .inr (.inr ⟨.undecodable e, by rw [currentText_file hc, hdecode]⟩)
  · exact .inr (.inl (currentText_free fun c hc => hfile ⟨c, hc⟩))

/-- The text of an artifact stands at a destination. -/
def Stands (out : Location) (a : Artifact) (t : FileTree) : Prop :=
  ∃ c s, t.get? (destination out a.module) = some (.file c) ∧ decode? c = .ok s ∧
    unifyLines s = a.text

/-- The fault of a write whose target is a directory. -/
def directoryFault (temporary : String) (target : FilePath) : WriteFailure :=
  ⟨target.text, FileFault.message ⟨.isDirectory, temporary, some target.text⟩⟩

/-- What publishing an artifact can do: its text is there, or is written; directories for it cannot be
made, or it is a directory itself; or what is there is no text. -/
inductive Publishes (out : Location) (a : Artifact) (t : FileTree) :
    Except PublishFault Published → FileTree → Prop
  | there : Stands out a t →
    Publishes out a t (.ok ⟨Location.text (destination out a.module), false⟩) t
  | written {ready : FileTree} : FileTree.Later (fun _ => False) (fun _ => False) t ready →
    ready.get? (destination out a.module).dropLast = some .directory →
    ready.get? (destination out a.module) ≠ some .directory →
    Publishes out a t (.ok ⟨Location.text (destination out a.module), true⟩)
      (ready.put (destination out a.module) (.file (encode a.text)))
  | blocked {f : FileFault} :
    t.makeDirectories (Location.path (destination out a.module).dropLast) = .error f →
    Publishes out a t
      (.error (.refused ⟨Location.text (destination out a.module), f.message⟩)) t
  | directory {ready : FileTree} (temporary : String) :
    FileTree.Later (fun _ => False) (fun _ => False) t ready →
    ready.get? (destination out a.module) = some .directory →
    Publishes out a t
      (.error (.refused (directoryFault temporary (Location.path (destination out a.module)))))
      ready
  | aborted (e : Failure) : Publishes out a t (.error (.aborted e)) t

theorem mem_dropLast_destination (hout : ".." ∉ out) (ha : IsModuleName a.module) :
    ".." ∉ (destination out a.module).dropLast := fun h =>
  dots_not_mem_destination hout ha (List.dropLast_subset _ h)

/-- What stands at the place of a builder stands in a directory. -/
theorem destination_above (hs : t.Sound) {m : String}
    (h : (t.get? (destination out m)).isSome = true) :
    t.get? (destination out m).dropLast = some .directory := by
  rw [destination_eq] at h ⊢
  rw [List.dropLast_concat]
  exact hs.inside _ _ h

/-- There is no file where the directories for it cannot be made. -/
theorem look_blocked (hs : t.Sound) (hout : ".." ∉ out) (ha : IsModuleName a.module) {f : FileFault}
    (h : t.makeDirectories (Location.path (destination out a.module).dropLast) = .error f)
    (c : Bytes) : t.look (Location.path (destination out a.module)) ≠ .ok (.file c) := by
  intro hlook
  have hget := (hs.look_iff (dots_not_mem_destination hout ha)).mp hlook
  have hdirectory := destination_above hs (by rw [hget]; rfl)
  rw [FileTree.makeDirectories_there
    ((hs.look_iff (mem_dropLast_destination hout ha)).mpr hdirectory)] at h
  cases h

/-- An artifact that is not there is written. -/
theorem publish_write (ha : IsModuleName a.module) {current : Option String}
    (hcurrent : currentText t (Location.path (destination out a.module)) = .ok current)
    (hother : current ≠ some a.text) :
    publish (Location.path out) a t =
      match t.write (Location.path (destination out a.module)) (encode a.text) with
      | (some fault, t) =>
        (.error (.refused ⟨Location.text (destination out a.module), fault.message⟩), t)
      | (none, t) => (.ok ⟨Location.text (destination out a.module), true⟩, t) := by
  unfold publish
  dsimp only
  rw [artifactPath_path ha, hcurrent]
  dsimp only
  rw [if_neg hother]
  rfl

theorem destination_parts (out : Location) (m : String) :
    (Location.path (destination out m)).parts ≠ [] ∧
      (Location.path (destination out m)).name ≠ ".." := by
  constructor
  · exact destination_ne_nil out m
  · show (destination out m).getLast?.getD "" ≠ ".."
    rw [destination_eq, List.getLast?_concat]
    exact ending_ne_dots _

/-- An artifact whose text stands at its place is not written. -/
theorem publish_there (hs : t.Sound) (hout : ".." ∉ out) (ha : IsModuleName a.module)
    (h : Stands out a t) : publish (Location.path out) a t =
      (.ok ⟨Location.text (destination out a.module), false⟩, t) := by
  obtain ⟨c, s, hget, hdecode, hunify⟩ := h
  have hlook := (hs.look_iff (dots_not_mem_destination hout ha)).mpr hget
  unfold publish
  dsimp only
  rw [artifactPath_path ha, currentText_file hlook, hdecode]
  dsimp only
  rw [hunify, if_pos rfl]
  rfl

/-- Where something stands that is no text, publishing aborts the run. -/
theorem publish_aborted (ha : IsModuleName a.module) {e : Failure}
    (hcurrent : currentText t (Location.path (destination out a.module)) = .error (.aborted e)) :
    publish (Location.path out) a t = (.error (.aborted e), t) := by
  unfold publish
  dsimp only
  rw [artifactPath_path ha, hcurrent]

section Write

variable {current : Option String}

/-- Where the directories for an artifact cannot be made, it is refused. -/
theorem publish_blocked (hs : t.Sound) (hout : ".." ∉ out) (ha : IsModuleName a.module)
    (hcurrent : currentText t (Location.path (destination out a.module)) = .ok current)
    (hother : current ≠ some a.text) {f : FileFault}
    (hmake : t.makeDirectories (Location.path (destination out a.module).dropLast) = .error f) :
    publish (Location.path out) a t =
      (.error (.refused ⟨Location.text (destination out a.module), f.message⟩), t) := by
  have hparent : (Location.path (destination out a.module)).parent =
      Location.path (destination out a.module).dropLast := rfl
  rw [← hparent] at hmake
  rw [publish_write ha hcurrent hother, FileTree.write_refused hmake, hparent,
    hs.begunDirectories (mem_dropLast_destination hout ha)]

/-- Where they are made, it is written, unless a directory is in its place. -/
theorem publish_made (hs : t.Sound) (hout : ".." ∉ out) (ha : IsModuleName a.module)
    (hcurrent : currentText t (Location.path (destination out a.module)) = .ok current)
    (hother : current ≠ some a.text) {ready : FileTree}
    (hmake : t.makeDirectories (Location.path (destination out a.module).dropLast) = .ok ready) :
    if ready.get? (destination out a.module) = some .directory then
      publish (Location.path out) a t =
        (.error (.refused (directoryFault
          (ready.temporary (Location.path (destination out a.module))).text
          (Location.path (destination out a.module)))), ready)
    else publish (Location.path out) a t =
      (.ok ⟨Location.text (destination out a.module), true⟩,
        ready.put (destination out a.module) (.file (encode a.text))) := by
  obtain ⟨hparts, hname⟩ := destination_parts out a.module
  have hwrite := FileTree.write_made hs hparts hname hmake (encode a.text)
  rw [FileTree.locate_path t (dots_not_mem_destination hout ha)] at hwrite
  rw [publish_write ha hcurrent hother]
  split at hwrite
  · next hdirectory =>
    rw [if_pos hdirectory, hwrite]
    rfl
  · next hfree =>
    rw [if_neg hfree, hwrite]

/-- Whatever text stands at the place of an artifact gives way to it, be it of a builder or not. -/
theorem publish_replaces (hs : t.Sound) (hout : ".." ∉ out) (ha : IsModuleName a.module)
    (hfile : t.get? (destination out a.module) = some (.file c)) {text : String}
    (hdecode : decode? c = .ok text) (hother : unifyLines text ≠ a.text) :
    publish (Location.path out) a t =
      (.ok ⟨Location.text (destination out a.module), true⟩,
        t.put (destination out a.module) (.file (encode a.text))) := by
  have hlook := (hs.look_iff (dots_not_mem_destination hout ha)).mpr hfile
  have hparent := (hs.look_iff (mem_dropLast_destination hout ha)).mpr
    (destination_above hs (by rw [hfile]; rfl))
  have hcurrent : currentText t (Location.path (destination out a.module)) =
      .ok (some (unifyLines text)) := by
    rw [currentText_file hlook, hdecode]
  have hmade := publish_made hs hout ha hcurrent (fun h => hother (Option.some.inj h))
    (FileTree.makeDirectories_there hparent)
  rwa [if_neg (by rw [hfile]; exact fun h => by cases h)] at hmade

/-- What publishing does with an artifact that is not there. -/
theorem publish_absent (hs : t.Sound) (hout : ".." ∉ out) (ha : IsModuleName a.module)
    (hcurrent : currentText t (Location.path (destination out a.module)) = .ok current)
    (hother : current ≠ some a.text) :
    Publishes out a t (publish (Location.path out) a t).1 (publish (Location.path out) a t).2 := by
  cases hmake : t.makeDirectories (Location.path (destination out a.module).dropLast) with
  | error f =>
    rw [publish_blocked hs hout ha hcurrent hother hmake]
    exact .blocked hmake
  | ok ready =>
    obtain ⟨hlater, hlook⟩ := FileTree.makeDirectories_ok hs hmake
    have hmade := publish_made hs hout ha hcurrent hother hmake
    split at hmade
    · next hdirectory =>
      rw [hmade]
      exact .directory _ hlater hdirectory
    · next hfree =>
      rw [hmade]
      refine .written hlater ?_ hfree
      exact ((hlater.sound hs).look_iff (mem_dropLast_destination hout ha)).mp hlook

end Write

theorem publish_cases (hs : t.Sound) (hout : ".." ∉ out) (ha : IsModuleName a.module) :
    Publishes out a t (publish (Location.path out) a t).1 (publish (Location.path out) a t).2 := by
  rcases currentText_cases t (Location.path (destination out a.module)) with
    ⟨c, s, hlook, hdecode, hcurrent⟩ | hcurrent | ⟨e, hcurrent⟩
  · by_cases hsame : unifyLines s = a.text
    · have hget := (hs.look_iff (dots_not_mem_destination hout ha)).mp hlook
      have hstands : Stands out a t := ⟨c, s, hget, hdecode, hsame⟩
      rw [publish_there hs hout ha hstands]
      exact .there hstands
    · exact publish_absent hs hout ha hcurrent fun h => hsame (Option.some.inj h)
  · exact publish_absent hs hout ha hcurrent fun h => by cases h
  · rw [publish_aborted ha hcurrent]
    exact .aborted e

/-! ## 4. What publishing leaves -/

/-- Publishing touches the file of its artifact and no other. -/
theorem publish_later (hs : t.Sound) (hout : ".." ∉ out) (ha : IsModuleName a.module)
    (removed : Location → Prop) :
    FileTree.Later (· = destination out a.module) removed t
      (publish (Location.path out) a t).2 := by
  generalize hanswer : (publish (Location.path out) a t).1 = answer
  generalize hafter : (publish (Location.path out) a t).2 = after
  have hcases := publish_cases hs hout ha
  rw [hanswer, hafter] at hcases
  cases hcases with
  | there => exact .refl t
  | written hlater hparent hfree =>
    refine hlater.weaken.trans ?_
    rw [destination_eq] at hfree ⊢
    refine .put_file (hlater.sound hs) hparent hfree ?_ _
    rfl
  | blocked => exact .refl t
  | directory _ hlater => exact hlater.weaken
  | aborted => exact .refl t

theorem stands_put (hfit : a.Fit) (t : FileTree) :
    Stands out a (t.put (destination out a.module) (.file (encode a.text))) :=
  ⟨_, _, (FileTree.get?_put _ _ _ _ (destination_ne_nil out a.module)).trans (if_pos rfl),
    decode?_encode a.text, unifyLines_eq hfit.text⟩

/-- What was published stands. -/
theorem publish_stands (hs : t.Sound) (hout : ".." ∉ out) (hfit : a.Fit) {p : Published}
    (h : (publish (Location.path out) a t).1 = .ok p) :
    Stands out a (publish (Location.path out) a t).2 := by
  have hcases := publish_cases hs hout hfit.module
  generalize (publish (Location.path out) a t).2 = after at *
  rw [h] at hcases
  cases hcases with
  | there hstands => exact hstands
  | written => exact stands_put hfit _

/-- The text of an artifact stays where others write. -/
theorem Stands.later {written removed : Location → Prop} (h : Stands out a t)
    (hlater : FileTree.Later written removed t t') (hwritten : ¬ written (destination out a.module))
    (hremoved : ¬ removed (destination out a.module)) : Stands out a t' := by
  obtain ⟨c, s, hget, hdecode, hunify⟩ := h
  exact ⟨c, s, hlater.content _ c hremoved hwritten hget, hdecode, hunify⟩

/-- Where a module's file stands, if anywhere, it starts as builders do. -/
def Headed (out : Location) (m : String) (t : FileTree) : Prop :=
  ∀ c, t.get? (destination out m) = some (.file c) → FileTree.startsGenerated c = true

/-- Publishing puts builders in the place of builders. -/
theorem publish_headed (hs : t.Sound) (hout : ".." ∉ out) (hfit : a.Fit) {m : String}
    (hm : Headed out m t) : Headed out m (publish (Location.path out) a t).2 := by
  generalize hanswer : (publish (Location.path out) a t).1 = answer
  generalize hafter : (publish (Location.path out) a t).2 = after
  have hcases := publish_cases hs hout hfit.module
  rw [hanswer, hafter] at hcases
  cases hcases with
  | there => exact hm
  | @written ready hlater hparent hfree =>
    intro c hc
    rw [FileTree.get?_put _ _ _ _ (destination_ne_nil out a.module)] at hc
    split at hc
    · cases hc
      exact hfit.generated
    · exact hm c (hlater.old _ c id hc)
  | blocked => exact hm
  | directory _ hlater => exact fun c hc => hm c (hlater.old _ c id hc)
  | aborted => exact hm

/-- Where an artifact was refused there is no file, and none comes there by what others write. -/
theorem publish_refused (hs : t.Sound) (hout : ".." ∉ out) (ha : IsModuleName a.module)
    {f : WriteFailure} (hf : (publish (Location.path out) a t).1 = .error (.refused f))
    {written : Location → Prop}
    (hlater : FileTree.Later written (fun _ => False) (publish (Location.path out) a t).2 t')
    (c : Bytes) : t'.get? (destination out a.module) ≠ some (.file c) := by
  have hdots := dots_not_mem_destination hout ha
  have hafter := (publish_later hs hout ha fun _ => False).sound hs
  have hcases := publish_cases hs hout ha
  generalize (publish (Location.path out) a t).2 = after at *
  rw [hf] at hcases
  cases hcases with
  | blocked hblocked =>
    have hblocked' := hlater.makeDirectories_refused hs (mem_dropLast_destination hout ha)
      (fun _ _ => id) hblocked
    intro hc
    have hlook := ((hlater.sound hafter).look_iff hdots).mpr hc
    exact look_blocked (hlater.sound hafter) hout ha hblocked' c hlook
  | directory _ _ hdirectory =>
    rw [hlater.directory _ hdirectory]
    exact fun h => by cases h

/-! ## 5. Publishing again -/

/-- Two failures are the same, but perhaps for the name of a temporary file. -/
def WriteFailure.Resembles (f f' : WriteFailure) : Prop :=
  f' = f ∨ ∃ target temporary temporary', f = directoryFault temporary target ∧
    f' = directoryFault temporary' target

/-- What an answer to publishing is the next time. -/
inductive Republished : Except PublishFault Published → Except PublishFault Published → Prop
  | ok (p : Published) : Republished (.ok p) (.ok ⟨p.path, false⟩)
  | refused {f f' : WriteFailure} : f.Resembles f' →
    Republished (.error (.refused f)) (.error (.refused f'))

/-- Once an artifact was published or refused, publishing it again gives the same answer and changes
nothing, as long as nobody touches its file or what stands on the way. -/
theorem publish_again {written removed : Location → Prop} (hs : t.Sound) (hout : ".." ∉ out)
    (hfit : a.Fit)
    (hgoes : ∀ e, (publish (Location.path out) a t).1 ≠ .error (.aborted e))
    (hlater : FileTree.Later written removed (publish (Location.path out) a t).2 t')
    (hwritten : ¬ written (destination out a.module))
    (hremoved : ∀ k, k <+: destination out a.module → ¬ removed k) :
    ∃ answer, publish (Location.path out) a t' = (answer, t') ∧
      Republished (publish (Location.path out) a t).1 answer := by
  have ha := hfit.module
  have hafter := (publish_later hs hout ha removed).sound hs
  have hs' := hlater.sound hafter
  have hdots := dots_not_mem_destination hout ha
  have hcases := publish_cases hs hout ha
  generalize (publish (Location.path out) a t).1 = answer at *
  generalize (publish (Location.path out) a t).2 = after at *
  have hstands : Stands out a after → publish (Location.path out) a t' =
      (.ok ⟨Location.text (destination out a.module), false⟩, t') := fun h =>
    publish_there hs' hout ha (h.later hlater hwritten (hremoved _ List.prefix_rfl))
  cases hcases with
  | there h => exact ⟨_, hstands h, .ok ⟨_, false⟩⟩
  | written => exact ⟨_, hstands (stands_put hfit _), .ok ⟨_, true⟩⟩
  | @blocked f hblocked =>
    have hremoved' : ∀ k, k <+: (destination out a.module).dropLast → ¬ removed k := fun k hk =>
      hremoved k (hk.trans (List.dropLast_prefix _))
    have hblocked' := hlater.makeDirectories_refused hs (mem_dropLast_destination hout ha) hremoved'
      hblocked
    have hfree := look_blocked hs' hout ha hblocked'
    exact ⟨_, publish_blocked hs' hout ha (currentText_free hfree) (by simp) hblocked',
      .refused (.inl rfl)⟩
  | directory temporary hready hdirectory =>
    have hdirectory' := hlater.directory _ hdirectory
    have hfree : ∀ c, t'.look (Location.path (destination out a.module)) ≠ .ok (.file c) := by
      intro c hc
      rw [(hs'.look_iff hdots).mp hc] at hdirectory'
      cases hdirectory'
    have hparent : t'.look (Location.path (destination out a.module).dropLast) =
        .ok .directory :=
      (hs'.look_iff (mem_dropLast_destination hout ha)).mpr
        (destination_above hs' (by rw [hdirectory']; rfl))
    have hmade := publish_made hs' hout ha (currentText_free hfree) (by simp)
      (FileTree.makeDirectories_there hparent)
    rw [if_pos hdirectory'] at hmade
    exact ⟨_, hmade, .refused (.inr ⟨_, temporary, _, rfl, rfl⟩)⟩
  | aborted e => exact absurd rfl (hgoes e)

end Publish

end FluentBuilders
