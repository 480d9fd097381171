import FluentBuilders.Generation
import FluentBuilders.Proofs.Manifest
import FluentBuilders.Proofs.Publication

/-!
What is left of a tree when a run is over.

1. Orphans: only builders of modules that are not current are removed.
2. Outputs: report and manifest are the only files that are written. Where the same manifest stands
   already, only the report is new, and there are no orphans.
-/

namespace FluentBuilders

open Text

namespace Generation

variable {t t' : FileTree} {out : Location} {current : List String}

/-! ## 1. Orphans -/

/-- Where a builder stands whose module is not current. -/
def OrphanAt (current : List String) (out : Location) (t : FileTree) (l : Location) : Prop :=
  ∃ m c, IsModuleName m ∧ m ∉ current ∧ l = destination out m ∧ t.get? l = some (.file c) ∧
    FileTree.startsGenerated c = true

theorem isGenerated_iff {p : FilePath} :
    t.isGenerated p = true ↔ ∃ c, t.look p = .ok (.file c) ∧ FileTree.startsGenerated c = true := by
  unfold FileTree.isGenerated
  cases hread : t.readBytes p with
  | ok c =>
    have hlook := FileTree.readBytes_iff.mp hread
    simp [hlook]
  | error f =>
    constructor
    · intro h
      cases h
    · rintro ⟨c, hlook, -⟩
      rw [FileTree.readBytes_iff.mpr hlook] at hread
      cases hread

section Taken

variable {e : ManifestEntry} {output : FilePath}

/-- The file of an orphan is removed if it starts as builders do. -/
theorem removeOrphans_taken {c : Bytes} (rest : List ManifestEntry)
    (horphan : isOrphan t current e = true)
    (hlook : t.look (artifactPath output e.module) = .ok (.file c))
    (hheader : FileTree.startsGenerated c = true) :
    removeOrphans current output (e :: rest) t =
      ((artifactPath output e.module).text :: (removeOrphans current output rest
          (t.erase (t.locate (artifactPath output e.module)))).1,
        (removeOrphans current output rest
          (t.erase (t.locate (artifactPath output e.module)))).2) := by
  rw [removeOrphans, if_pos]
  rw [horphan, FileTree.isFile_iff.mpr ⟨c, hlook⟩, isGenerated_iff.mpr ⟨c, hlook, hheader⟩]
  rfl

/-- An entry has its file removed or is passed over. -/
theorem removeOrphans_cases (current : List String) (output : FilePath) (e : ManifestEntry)
    (t : FileTree) :
    (∃ c, isOrphan t current e = true ∧ t.look (artifactPath output e.module) = .ok (.file c) ∧
        FileTree.startsGenerated c = true) ∨
      ∀ rest, removeOrphans current output (e :: rest) t = removeOrphans current output rest t := by
  cases horphan : isOrphan t current e &&
      t.isFile (artifactPath output e.module) && t.isGenerated (artifactPath output e.module) with
  | true =>
    rw [Bool.and_eq_true, Bool.and_eq_true] at horphan
    obtain ⟨c, hlook, hheader⟩ := isGenerated_iff.mp horphan.2
    exact .inl ⟨c, horphan.1.1, hlook, hheader⟩
  | false =>
    refine .inr fun rest => ?_
    rw [removeOrphans, if_neg]
    rw [horphan]
    exact Bool.false_ne_true

end Taken

/-- What the removal of each orphan keeps, the removal of all keeps. -/
theorem removeOrphans_keeps {entries : List ManifestEntry} {output : FilePath}
    {P : FileTree → Prop}
    (herase : ∀ e ∈ entries, ∀ t c, P t → isOrphan t current e = true →
      t.look (artifactPath output e.module) = .ok (.file c) →
      FileTree.startsGenerated c = true → P (t.erase (t.locate (artifactPath output e.module))))
    (h : P t) : P (removeOrphans current output entries t).2 := by
  induction entries generalizing t with
  | nil => exact h
  | cons e rest ih =>
    have hrest := fun {t} => ih (t := t) fun e he => herase e (List.mem_cons_of_mem _ he)
    rcases removeOrphans_cases current output e t with ⟨c, horphan, hlook, hheader⟩ | hpassed
    · rw [removeOrphans_taken rest horphan hlook hheader]
      exact hrest (herase e List.mem_cons_self t c h horphan hlook hheader)
    · rw [hpassed]
      exact hrest h

/-- A file that is gone was removed when the turn of its entry came. -/
theorem removeOrphans_turn {entries : List ManifestEntry} {output : FilePath} {l : Location}
    {c : Bytes} (hfile : t.get? l = some (.file c))
    (hgone : (removeOrphans current output entries t).2.get? l ≠ some (.file c)) :
    ∃ before e after, entries = before ++ e :: after ∧
      isOrphan (removeOrphans current output before t).2 current e = true ∧
      t.locate (artifactPath output e.module) = l ∧ FileTree.startsGenerated c = true ∧
      (artifactPath output e.module).text ∈ (removeOrphans current output entries t).1 := by
  induction entries generalizing t with
  | nil => exact absurd hfile hgone
  | cons e rest ih =>
    rcases removeOrphans_cases current output e t with ⟨c', horphan, hlook, hheader⟩ | hpassed
    · have htaken := fun rest => removeOrphans_taken rest horphan hlook hheader
      have hget := FileTree.get?_of_look hlook
      rw [htaken] at hgone ⊢
      by_cases hl : t.locate (artifactPath output e.module) = l
      · rw [hl, hfile] at hget
        cases hget
        exact ⟨[], e, rest, rfl, horphan, hl, hheader, List.mem_cons_self⟩
      · have hne : t.locate (artifactPath output e.module) ≠ [] := by
          intro hnil
          rw [hnil] at hget
          cases hget
        obtain ⟨before, e', after, rfl, horphan', hplace, hheader', hlisted⟩ :=
          ih (by rw [FileTree.get?_erase _ _ _ hne, if_neg hl]; exact hfile) hgone
        refine ⟨e :: before, e', after, rfl, ?_, hplace, hheader', List.mem_cons_of_mem _ hlisted⟩
        rw [htaken]
        exact horphan'
    · rw [hpassed] at hgone ⊢
      obtain ⟨before, e', after, rfl, horphan', hplace⟩ := ih hfile hgone
      refine ⟨e :: before, e', after, rfl, ?_, hplace⟩
      rw [hpassed]
      exact horphan'

theorem isOrphan_module {e : ManifestEntry} (h : isOrphan t current e = true) :
    e.module ∉ current := by
  unfold isOrphan at h
  rw [Bool.and_eq_true] at h
  simpa using h.1

/-- Whatever the manifest of the run before says, only files that start as builders do are removed. -/
theorem removeOrphans_builders (current : List String) (output : FilePath)
    (entries : List ManifestEntry) (t : FileTree) :
    FileTree.Later (fun _ => False)
      (fun l => ∃ c, t.get? l = some (.file c) ∧ FileTree.startsGenerated c = true) t
      (removeOrphans current output entries t).2 := by
  refine removeOrphans_keeps (fun e _ t' c hlater _ hlook hheader => ?_) (.refl t)
  have hget := FileTree.get?_of_look hlook
  exact hlater.trans (.erase hget ⟨c, hlater.old _ c id hget, hheader⟩)

/-- Only orphans are removed, where the manifest of the run before names modules. -/
theorem removeOrphans_later {entries : List ManifestEntry} (hs : t.Sound) (hout : ".." ∉ out)
    (hentries : ∀ e ∈ entries, IsModuleName e.module) :
    FileTree.Later (fun _ => False) (OrphanAt current out t) t
      (removeOrphans current (Location.path out) entries t).2 := by
  refine removeOrphans_keeps (fun e he t' c hlater horphan hlook hheader => ?_) (.refl t)
  have hdots := dots_not_mem_destination hout (hentries e he)
  rw [artifactPath_path (hentries e he)] at hlook ⊢
  have hget := ((hlater.sound hs).look_iff hdots).mp hlook
  rw [FileTree.locate_path t' hdots]
  exact hlater.trans (.erase hget ⟨e.module, c, hentries e he, isOrphan_module horphan, rfl,
    hlater.old _ c id hget, hheader⟩)

/-- What is out of date stays so when files are erased. -/
theorem isStale_erase {l : Location} (hl : l ≠ []) {dependencies : List FileHandle}
    (h : isStale dependencies (digestAt t) = true) :
    isStale dependencies (digestAt (t.erase l)) = true := by
  unfold isStale at h ⊢
  rw [List.any_eq_true] at h ⊢
  obtain ⟨f, hf, hdiffers⟩ := h
  refine ⟨f, hf, ?_⟩
  rw [bne_iff_ne] at hdiffers ⊢
  intro hsame
  refine hdiffers ?_
  rw [← hsame]
  unfold digestAt at hsame ⊢
  split at hsame
  · next hfile =>
    -- the file that is left is the one that was there
    obtain ⟨c, hlook⟩ := FileTree.isFile_iff.mp hfile
    have hlook' : t.look (.ofText f.path) = .ok (.file c) :=
      FileTree.reach_less (fun _ _ => FileTree.get?_of_erase hl) hlook
    rw [if_pos hfile, if_pos (FileTree.isFile_iff.mpr ⟨c, hlook'⟩),
      FileTree.readBytes_iff.mpr hlook, FileTree.readBytes_iff.mpr hlook']
  · cases hsame

/-- No builder is left of an entry that is out of date and not current. -/
theorem removeOrphans_takes {entries : List ManifestEntry} {e : ManifestEntry} (hs : t.Sound)
    (hout : ".." ∉ out) (hentries : ∀ e ∈ entries, IsModuleName e.module) (he : e ∈ entries)
    (hnew : e.module ∉ current) (hstale : isStale e.dependencies (digestAt t) = true) {c : Bytes}
    (hleft : (removeOrphans current (Location.path out) entries t).2.get? (destination out e.module) =
      some (.file c)) : FileTree.startsGenerated c = false := by
  induction entries generalizing t with
  | nil => cases he
  | cons e' rest ih =>
    have he' := hentries e' List.mem_cons_self
    have hrest : ∀ e ∈ rest, IsModuleName e.module := fun e he =>
      hentries e (List.mem_cons_of_mem _ he)
    rcases List.mem_cons.mp he with rfl | he
    · -- its turn is now: a builder that stands there is removed, and nothing comes back
      have hdots := dots_not_mem_destination hout he'
      have hget := (removeOrphans_later hs hout hentries).old _ c id hleft
      have horphan : isOrphan t current e = true := by
        unfold isOrphan
        simp [hnew, hstale]
      cases hheader : FileTree.startsGenerated c with
      | false => rfl
      | true =>
        have hlook := (hs.look_iff hdots).mpr hget
        rw [← artifactPath_path he' out] at hlook
        rw [removeOrphans_taken rest horphan hlook hheader, artifactPath_path he',
          FileTree.locate_path t hdots] at hleft
        have hback := (removeOrphans_later (hs.erase hget) hout hrest).old _ c id hleft
        rw [FileTree.get?_erase _ _ _ (destination_ne_nil out _), if_pos rfl] at hback
        cases hback
    · rcases removeOrphans_cases current (Location.path out) e' t with
        ⟨c', horphan, hlook, hheader⟩ | hpassed
      · have hget := FileTree.get?_of_look hlook
        rw [removeOrphans_taken rest horphan hlook hheader] at hleft
        refine ih (hs.erase hget) hrest he (isStale_erase ?_ hstale) hleft
        intro hnil
        rw [hnil] at hget
        cases hget
      · rw [hpassed] at hleft
        exact ih hs hrest he hstale hleft

/-- Where there are no orphans, nothing is removed. -/
theorem removeOrphans_none {entries : List ManifestEntry} (output : FilePath)
    (hentries : ∀ e ∈ entries, isOrphan t current e = false) :
    removeOrphans current output entries t = ([], t) := by
  induction entries with
  | nil => rfl
  | cons e rest ih =>
    unfold removeOrphans
    dsimp only
    rw [hentries e List.mem_cons_self, Bool.false_and, Bool.false_and, if_neg Bool.false_ne_true]
    exact ih fun e he => hentries e (List.mem_cons_of_mem _ he)

/-- Current modules are no orphans. -/
theorem removeOrphans_current {entries : List ManifestEntry} (output : FilePath)
    (hentries : ∀ e ∈ entries, e.module ∈ current) :
    removeOrphans current output entries t = ([], t) := by
  refine removeOrphans_none output fun e he => ?_
  unfold isOrphan
  simp [hentries e he]

/-! ## 2. Outputs -/

/-- A name of an output. -/
structure IsOutput (name : String) : Prop where
  child : ∀ p : FilePath, p.child name = ⟨p.absolute, p.parts ++ [name]⟩
  plain : name ≠ ".."

theorem IsOutput.of_isEntryName {name : String} (h : IsEntryName name) : IsOutput name :=
  ⟨h.child, h.ne_dots⟩

theorem isOutput_report : IsOutput reportName := .of_isEntryName (by decide)

theorem isOutput_manifest : IsOutput manifestName := .of_isEntryName (by decide)

section Outputs

variable {directory : FilePath} {name : String} {report : Report} {manifest : Manifest}
  {time : String}

theorem IsOutput.parent (h : IsOutput name) (directory : FilePath) :
    (directory.child name).parent = directory := by
  rw [h.child, FilePath.parent, List.dropLast_concat]

theorem IsOutput.locate (h : IsOutput name) (t : FileTree) (directory : FilePath) :
    t.locate (directory.child name) = t.locate directory ++ [name] := by
  have hname : (directory.child name).name = name := by
    rw [h.child, FilePath.name, List.getLast?_concat, Option.getD_some]
  rw [FileTree.locate_parent t (by simp [h.child]) (by rw [hname]; exact h.plain), h.parent, hname]

/-- In a directory that is there an output is written, unless it is a directory. -/
theorem IsOutput.write (h : IsOutput name) (hs : t.Sound)
    (hlook : t.look directory = .ok .directory) (content : Bytes) :
    if t.get? (t.locate directory ++ [name]) = some .directory then
      ∃ f, t.write (directory.child name) content = (some f, t)
    else t.write (directory.child name) content =
      (none, t.put (t.locate directory ++ [name]) (.file content)) := by
  have hname : (directory.child name).name ≠ ".." := by
    rw [h.child, FilePath.name, List.getLast?_concat, Option.getD_some]
    exact h.plain
  have hmake : t.makeDirectories (directory.child name).parent = .ok t := by
    rw [h.parent]
    exact FileTree.makeDirectories_there hlook
  have hwrite := FileTree.write_made hs (by simp [h.child]) hname hmake content
  rw [h.locate] at hwrite
  split at hwrite
  · next hdirectory =>
    rw [if_pos hdirectory]
    exact ⟨_, hwrite⟩
  · next hdirectory =>
    rw [if_neg hdirectory]
    exact hwrite

/-- However it ends, writing an output touches no other file. -/
theorem IsOutput.write_later (h : IsOutput name) (hs : t.Sound)
    (hlook : t.look directory = .ok .directory) (content : Bytes) {written : Location → Prop}
    (hwritten : written (t.locate directory ++ [name])) :
    FileTree.Later written (fun _ => False) t (t.write (directory.child name) content).2 := by
  have hwrite := h.write hs hlook content
  split at hwrite
  · obtain ⟨f, hwrite⟩ := hwrite
    rw [hwrite]
    exact .refl t
  · next hfree =>
    rw [hwrite]
    exact .put_file hs (FileTree.get?_of_look hlook) hfree hwritten content

/-- However it ends, writing the outputs touches no other files. -/
theorem writeOutputs_later (hs : t.Sound) (directory : FilePath) (report : Report)
    (manifest : Manifest) (time : String) :
    FileTree.Later (fun l => l = t.locate directory ++ [reportName] ∨
        l = t.locate directory ++ [manifestName]) (fun _ => False) t
      (writeOutputs directory report manifest time t).2 := by
  unfold writeOutputs
  split
  · exact (FileTree.begunDirectories_later hs directory).weaken
  next ready hmake =>
  obtain ⟨hready, hlook⟩ := FileTree.makeDirectories_ok hs hmake
  have hs₁ := hready.sound hs
  have hreport : FileTree.Later (fun l => l = t.locate directory ++ [reportName] ∨
      l = t.locate directory ++ [manifestName]) (fun _ => False) ready _ :=
    isOutput_report.write_later hs₁ hlook (encode (report.text time)) (.inl (by rw [hready.locate]))
  split
  · next hwrite =>
    rw [hwrite] at hreport
    exact hready.weaken.trans hreport
  · next t₂ hwrite =>
    rw [hwrite] at hreport
    have hlook₂ : t₂.look directory = .ok .directory := by
      rw [FileTree.look, hreport.start]
      exact hreport.reach_directory hlook
    refine hready.weaken.trans (hreport.trans ?_)
    refine isOutput_manifest.write_later (hreport.sound hs₁) hlook₂ _ (.inr ?_)
    rw [hreport.locate, hready.locate]

/-- The tree once outputs were written: the directory is there, with both files. -/
structure Outputs (directory : FilePath) (manifest : Manifest) (t : FileTree) : Prop where
  there : t.look directory = .ok .directory
  report : ∃ c, t.get? (t.locate directory ++ [reportName]) = some (.file c)
  manifest : t.get? (t.locate directory ++ [manifestName]) = some (.file (encode manifest.text))

theorem report_ne_manifest (l : Location) : l ++ [reportName] ≠ l ++ [manifestName] := by
  intro h
  have hname := List.singleton_inj.mp (List.append_cancel_left h)
  exact absurd hname (by decide)

theorem writeOutputs_ok (hs : t.Sound)
    (h : writeOutputs directory report manifest time t = (none, t')) :
    FileTree.Later (fun l => l = t.locate directory ++ [reportName] ∨
        l = t.locate directory ++ [manifestName]) (fun _ => False) t t' ∧
      Outputs directory manifest t' := by
  unfold writeOutputs at h
  split at h
  · cases h
  next ready hmake =>
  obtain ⟨hready, hlook⟩ := FileTree.makeDirectories_ok hs hmake
  have hs₁ := hready.sound hs
  have hwrite := isOutput_report.write hs₁ hlook (encode (report.text time))
  split at hwrite
  · obtain ⟨f, hwrite⟩ := hwrite
    rw [hwrite] at h
    cases h
  next hfree =>
  rw [hwrite] at h
  dsimp only at h
  rw [← hready.locate directory]
  have hparent := FileTree.get?_of_look hlook
  have hfirst : FileTree.Later (fun l => l = ready.locate directory ++ [reportName] ∨
      l = ready.locate directory ++ [manifestName]) (fun _ => False) ready
      (ready.put (ready.locate directory ++ [reportName]) (.file (encode (report.text time)))) :=
    .put_file hs₁ hparent hfree (.inl rfl) _
  have hlook₂ : (ready.put (ready.locate directory ++ [reportName])
      (.file (encode (report.text time)))).look directory = .ok .directory := by
    rw [FileTree.look, hfirst.start]
    exact hfirst.reach_directory hlook
  have hwrite₂ := isOutput_manifest.write (hfirst.sound hs₁) hlook₂ (encode manifest.text)
  split at hwrite₂
  · obtain ⟨f, hwrite₂⟩ := hwrite₂
    rw [hwrite₂] at h
    cases h
  next hfree₂ =>
  rw [hwrite₂] at h
  cases h
  rw [hfirst.locate directory] at hfree₂ ⊢
  have hsecond : FileTree.Later (fun l => l = ready.locate directory ++ [reportName] ∨
      l = ready.locate directory ++ [manifestName]) (fun _ => False)
      (ready.put (ready.locate directory ++ [reportName]) (.file (encode (report.text time)))) _ :=
    .put_file (hfirst.sound hs₁) (hfirst.directory _ hparent) hfree₂ (.inr rfl) (encode manifest.text)
  refine ⟨hready.weaken.trans (hfirst.trans hsecond), ?_, ?_, ?_⟩
  · rw [FileTree.look, hsecond.start]
    exact hsecond.reach_directory hlook₂
  · refine ⟨encode (report.text time), ?_⟩
    rw [hsecond.locate, hfirst.locate, FileTree.get?_put _ _ _ _ (by simp),
      if_neg (report_ne_manifest _).symm, FileTree.get?_put _ _ _ _ (by simp), if_pos rfl]
  · rw [hsecond.locate, hfirst.locate, FileTree.get?_put _ _ _ _ (by simp), if_pos rfl]

/-- Outputs stay where nobody touches them. -/
theorem Outputs.later {written removed : Location → Prop} (ht : Outputs directory manifest t)
    (h : FileTree.Later written removed t t')
    (hkept : ∀ l, l = t.locate directory ++ [reportName] ∨ l = t.locate directory ++ [manifestName] →
      ¬ written l ∧ ¬ removed l) : Outputs directory manifest t' where
  there := by
    rw [FileTree.look, h.start]
    exact h.reach_directory ht.there
  report := by
    obtain ⟨c, hc⟩ := ht.report
    obtain ⟨hwritten, hremoved⟩ := hkept _ (.inl rfl)
    rw [h.locate]
    exact ⟨c, h.content _ c hremoved hwritten hc⟩
  manifest := by
    obtain ⟨hwritten, hremoved⟩ := hkept _ (.inr rfl)
    rw [h.locate]
    exact h.content _ _ hremoved hwritten ht.manifest

/-- Where their directory can be made, outputs are written, unless one of them is a directory. -/
theorem writeOutputs_made (hs : t.Sound) {ready : FileTree}
    (hmake : t.makeDirectories directory = .ok ready)
    (hreport : ready.get? (t.locate directory ++ [reportName]) ≠ some .directory)
    (hmanifest : ready.get? (t.locate directory ++ [manifestName]) ≠ some .directory) :
    writeOutputs directory report manifest time t =
      (none, (ready.put (t.locate directory ++ [reportName]) (.file (encode (report.text time)))).put
        (t.locate directory ++ [manifestName]) (.file (encode manifest.text))) := by
  obtain ⟨hready, hlook⟩ := FileTree.makeDirectories_ok hs hmake
  have hs₁ := hready.sound hs
  rw [← hready.locate] at hreport hmanifest ⊢
  have hwrite := isOutput_report.write hs₁ hlook (encode (report.text time))
  rw [if_neg hreport] at hwrite
  have hfirst : FileTree.Later (· = ready.locate directory ++ [reportName]) (fun _ => False) ready
      (ready.put (ready.locate directory ++ [reportName]) (.file (encode (report.text time)))) := by
    refine .put_file hs₁ (FileTree.get?_of_look hlook) hreport ?_ _
    rfl
  have hlook₂ : (ready.put (ready.locate directory ++ [reportName])
      (.file (encode (report.text time)))).look directory = .ok .directory := by
    rw [FileTree.look, hfirst.start]
    exact hfirst.reach_directory hlook
  have hwrite₂ := isOutput_manifest.write (hfirst.sound hs₁) hlook₂ (encode manifest.text)
  rw [hfirst.locate, FileTree.get?_put _ _ _ _ (by simp), if_neg (report_ne_manifest _),
    if_neg hmanifest] at hwrite₂
  unfold writeOutputs
  rw [hmake]
  dsimp only
  rw [hwrite]
  dsimp only
  rw [hwrite₂]

/-- Where outputs stand already, both are written over. -/
theorem writeOutputs_there (hs : t.Sound) {previous : Manifest} (ht : Outputs directory previous t)
    (report : Report) (manifest : Manifest) (time : String) :
    writeOutputs directory report manifest time t =
      (none, (t.put (t.locate directory ++ [reportName]) (.file (encode (report.text time)))).put
        (t.locate directory ++ [manifestName]) (.file (encode manifest.text))) := by
  obtain ⟨c, hreport⟩ := ht.report
  refine writeOutputs_made hs (FileTree.makeDirectories_there ht.there) ?_ ?_
  · rw [hreport]
    exact fun h => by cases h
  · rw [ht.manifest]
    exact fun h => by cases h

/-- Where the manifest stands already, only the report is new. -/
theorem writeOutputs_again (hs : t.Sound) (ht : Outputs directory manifest t) :
    writeOutputs directory report manifest time t =
      (none, t.put (t.locate directory ++ [reportName]) (.file (encode (report.text time)))) := by
  rw [writeOutputs_there hs ht, FileTree.put_same (by simp)]
  rw [FileTree.get?_put _ _ _ _ (by simp), if_neg (report_ne_manifest _), ht.manifest]

theorem Outputs.load? (ht : Outputs directory manifest t)
    (hversion : versionFault? manifest.schemaVersion = none) :
    Manifest.load? t (directory.child manifestName) = some manifest := by
  refine Manifest.load?_written hversion ?_
  have hname : manifestName ≠ ".." := isOutput_manifest.plain
  rw [isOutput_manifest.child, FileTree.look]
  refine (FileTree.reach_concat hname ht.there).trans ?_
  rw [show (t.start directory).follow directory.parts = t.locate directory from rfl, ht.manifest]

/-- Where the outputs of a run with the same manifest stand, a run finds no orphan and leaves all but
the report as it is. -/
theorem conclude_again {r : Request} (hcheck : r.check = false) (hs : t.Sound)
    (ht : Outputs directory manifest t) (hversion : versionFault? manifest.schemaVersion = none)
    (output : FilePath) (report : Report) :
    conclude r output directory false report manifest t =
      (.ok ({ report with removedOrphans := [] }, manifest),
        t.put (t.locate directory ++ [reportName])
          (.file (encode (({ report with removedOrphans := [] } : Report).text r.time)))) := by
  unfold conclude
  rw [hcheck, Bool.false_or, if_neg Bool.false_ne_true, ht.load? hversion]
  dsimp only
  rw [Option.map_some, Option.getD_some,
    removeOrphans_current output fun e he => List.mem_map_of_mem he]
  dsimp only
  rw [show sortTexts [] = [] from rfl, writeOutputs_again hs ht]

end Outputs

end Generation

end FluentBuilders
