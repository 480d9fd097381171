import FluentBuilders.Proofs.Generation.Conclusion

/-!
Manifests come back from the files that they are written into.

1. `readManifest_version`: a manifest that is read has an accepted version.
2. `Manifest.attempt`: loading a manifest together with the failures that it passes on. It passes on
   none.
3. `manifest_reread`: what is written is loaded, and whatever a file holds, loading ends with an
   accepted manifest or with none.
-/

namespace FluentBuilders

open Text

/-! ## 1. Accepted versions -/

section Readers

variable {α β : Type}

/-- A function and its argument have a result where both have one. -/
theorem Checked.ok_of_seq {f : Checked (α → β)} {c : Checked α} {b : β} (h : f <*> c = .ok b) :
    ∃ g a, f = .ok g ∧ c = .ok a ∧ g a = b := by
  cases f with
  | ok g =>
    cases c with
    | ok a =>
      cases h
      exact ⟨g, a, rfl, rfl, rfl⟩
    | faults all => cases h
  | faults first => cases c <;> cases h

theorem Checked.ok_of_under {step : String} {c : Checked α} {a : α} (h : c.under step = .ok a) :
    c = .ok a := by
  cases c with
  | ok b =>
    cases h
    rfl
  | faults all => cases h

/-- A field with a default is as the default is, or as what is read. -/
theorem withDefault_ok {P : α → Prop} {j : Json} {key : String} {default : α} {read : FieldReader α}
    {a : α} (h : withDefault j key default read = .ok a) (hdefault : P default)
    (hread : ∀ v b, read v = .ok b → P b) : P a := by
  unfold withDefault at h
  split at h
  · exact hread _ a (Checked.ok_of_under h)
  · cases h
    exact hdefault

end Readers

/-- The reader of versions lets only those pass that are accepted. -/
theorem readVersion_ok {v : Json} {version : String} (h : readVersion v = .ok version) :
    versionFault? version = none := by
  unfold readVersion at h
  split at h
  · split at h
    · next haccepted =>
      cases h
      exact Option.isNone_iff_eq_none.mp haccepted
    · cases h
  · cases h

/-- A manifest that is read has an accepted version: the one it names, or that of this layout. -/
theorem readManifest_version {j : Json} {m : Manifest} (h : readManifest j = .ok m) :
    versionFault? m.schemaVersion = none := by
  unfold readManifest readObject at h
  split at h
  · -- the fields from the last to the first
    obtain ⟨withProfile, artifacts, h, -, hm⟩ := Checked.ok_of_seq h
    obtain ⟨withVersion, profile, h, -, hprofile⟩ := Checked.ok_of_seq h
    obtain ⟨withGenerator, version, h, hread, hversion⟩ := Checked.ok_of_seq h
    obtain ⟨withTool, generator, h, -, hgenerator⟩ := Checked.ok_of_seq h
    obtain ⟨make, tool, h, -, htool⟩ := Checked.ok_of_seq h
    cases h
    subst hm hprofile hversion hgenerator htool
    exact withDefault_ok (P := fun version => versionFault? version = none) hread versionFault?_current
      fun v version hversion => readVersion_ok hversion
  · cases h

/-! ## 2. Loading -/

namespace Manifest

/-- Whether loading a manifest answers a failure with none: where the file system refuses, or a value
is bad, as a text is that cannot be decoded. -/
def answers : Failure → Bool
  | .fileSystem _ | .undecodable _ | .badValue _ => true
  | .generation _ | .crash _ => false

/-- The manifest in a file, or a failure that loading it does not answer. -/
def attempt (t : FileTree) (p : FilePath) : Except Failure (Option Manifest) :=
  if t.isFile p then
    match t.readText p with
    | .ok s => .ok (ofText? s)
    | .error e => if answers e then .ok none else .error e
  else .ok none

/-- Loading answers whatever can stand in the way of reading a file as a text. -/
theorem answers_readText {t : FileTree} {p : FilePath} {e : Failure} (h : t.readText p = .error e) :
    answers e = true := by
  unfold FileTree.readText at h
  split at h
  · cases h
    rfl
  split at h
  · cases h
    rfl
  · cases h

theorem attempt_eq (t : FileTree) (p : FilePath) : attempt t p = .ok (load? t p) := by
  unfold attempt load?
  split
  · cases hread : t.readText p with
    | ok s => rfl
    | error e => exact if_pos (answers_readText hread)
  · rfl

theorem load?_version {t : FileTree} {p : FilePath} {m : Manifest} (h : load? t p = some m) :
    versionFault? m.schemaVersion = none := by
  unfold load? at h
  split at h
  · split at h
    · next s hread =>
      obtain ⟨j, -, hresult⟩ := Option.bind_eq_some_iff.mp h
      refine readManifest_version (j := j) ?_
      cases hmanifest : readManifest j with
      | ok m' =>
        rw [hmanifest] at hresult
        exact congrArg Checked.ok (Option.some.inj hresult)
      | faults all =>
        rw [hmanifest] at hresult
        cases hresult
    · cases h
  · cases h

end Manifest

/-! ## 3. Round trip -/

namespace Generation

/-- A manifest with an accepted version is written wherever there is room for the outputs, whatever its
texts are, and comes back from where it was written as it is. Loading never fails, whatever a file
holds: it ends with none, or with a manifest whose version is accepted. -/
theorem manifest_reread :
    (∀ (t : FileTree) (directory : FilePath) (report : Report) (m : Manifest) (time : String),
      t.Sound → versionFault? m.schemaVersion = none →
      (∀ ready, t.makeDirectories directory = .ok ready →
        ready.get? (t.locate directory ++ [reportName]) ≠ some .directory →
        ready.get? (t.locate directory ++ [manifestName]) ≠ some .directory →
        (writeOutputs directory report m time t).1 = none) ∧
      ∀ t', writeOutputs directory report m time t = (none, t') →
        Manifest.load? t' (directory.child manifestName) = some m) ∧
    ∀ (t : FileTree) (p : FilePath), Manifest.attempt t p = .ok (Manifest.load? t p) ∧
      ∀ m, Manifest.load? t p = some m → versionFault? m.schemaVersion = none := by
  refine ⟨fun t directory report m time hs hversion => ⟨fun ready hmake hreport hmanifest => ?_,
    fun t' hwrite => ?_⟩, fun t p => ⟨Manifest.attempt_eq t p, fun m => Manifest.load?_version⟩⟩
  · rw [writeOutputs_made hs hmake hreport hmanifest]
  · exact (writeOutputs_ok hs hwrite).2.load? hversion

/-- A manifest whose texts have marks, controls and characters of every width. -/
def motley : Manifest := .current "\"\\/"
  [⟨"p.\n\r", "\t\x00\x7f", "é\u2028", "😀", none, "", true, [⟨"\ud7ff\ue000", "\r\n"⟩, ⟨"", "/"⟩]⟩]

theorem empty_sound : FileTree.empty.Sound := .of_entries (by decide) (by decide) rfl (by decide)

/-- Such a manifest is written into a tree without entries, and loaded again. -/
theorem manifest_reread_motley : ∃ t',
    writeOutputs ⟨true, ["out"]⟩ default motley "" .empty = (none, t') ∧
      Manifest.load? t' (FilePath.child ⟨true, ["out"]⟩ manifestName) = some motley := by
  obtain ⟨hwritten, hcomes⟩ := manifest_reread.1 .empty ⟨true, ["out"]⟩ default motley "" empty_sound
    versionFault?_current
  have hmake : FileTree.empty.makeDirectories ⟨true, ["out"]⟩ =
      .ok ⟨[(["out"], .directory)], []⟩ := rfl
  have hdone := hwritten _ hmake (by decide) (by decide)
  exact ⟨_, Prod.ext hdone rfl, hcomes _ (Prod.ext hdone rfl)⟩

end Generation

end FluentBuilders
