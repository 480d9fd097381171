import Mathlib.Data.List.Sublists
import FluentBuilders.FileTree.AtomicWrite
import FluentBuilders.Proofs.FileTree

/-!
What a write does when no step of it is made to fail.

1. `temporary_free`: the name of the temporary file is free.
2. `FileTree.write`: the three ways it ends. It only ever changes its target.
-/

namespace FluentBuilders

open Text

/-! ## 1. The temporary file -/

theorem stamp_injective : Function.Injective stamp := by
  intro m n h
  have hvalue : ∀ n, Nat.ofDigitChars 10 (stamp n).toList 0 = n := by
    intro n
    unfold stamp
    dsimp only
    rw [String.toList_ofList, Nat.ofDigitChars_append, Nat.ofDigitChars_replicate_zero]
    simp
  rw [← hvalue m, h, hvalue n]

namespace FileTree

variable {t t' : FileTree} {target : FilePath}

theorem temporaryName_injective (target : FilePath) :
    Function.Injective (temporaryName target) := by
  intro m n h
  unfold temporaryName at h
  have h := congrArg String.toList h
  simp only [String.toList_append] at h
  have h := List.append_cancel_left (List.append_cancel_right h)
  exact stamp_injective (String.toList_injective h)

/-- The temporary file is beside its target, and the names before it are taken; it is free unless all
that are looked at are taken. -/
theorem temporaryFrom_spec (t : FileTree) (target : FilePath) (fuel n : Nat) :
    ∃ m, t.temporaryFrom target fuel n = t.locate target.parent ++ [temporaryName target m] ∧
      (∀ i, n ≤ i → i < m →
        (t.get? (t.locate target.parent ++ [temporaryName target i])).isSome = true) ∧
      (t.get? (t.locate target.parent ++ [temporaryName target m]) = none ∨ n + fuel ≤ m) := by
  induction fuel generalizing n with
  | zero => exact ⟨n, rfl, fun i hi hlt => absurd hlt (by omega), .inr (by omega)⟩
  | succ fuel ih =>
    unfold temporaryFrom
    dsimp only
    split
    · next htaken =>
      obtain ⟨m, hplace, hbefore, hend⟩ := ih (n + 1)
      refine ⟨m, hplace, fun i hi hlt => ?_, hend.imp_right (by omega)⟩
      rcases Nat.eq_or_lt_of_le hi with rfl | hi
      · exact htaken
      · exact hbefore i hi hlt
    · next hfree =>
      exact ⟨n, rfl, fun i hi hlt => absurd hlt (by omega), .inl (by simpa using hfree)⟩

/-- There are more names for temporary files than entries, and so one of them is free. -/
theorem exists_free (t : FileTree) (l : Location) (target : FilePath) :
    ∃ n, n ≤ t.entries.length ∧ t.get? (l ++ [temporaryName target n]) = none := by
  by_contra htaken
  let candidate (n : Nat) : Location := l ++ [temporaryName target n]
  have hinj : Function.Injective candidate := by
    intro m n h
    exact temporaryName_injective target (List.singleton_inj.mp (List.append_cancel_left h))
  have hsubset : (List.range (t.entries.length + 1)).map candidate ⊆ t.entries.map (·.1) := by
    intro k hk
    obtain ⟨n, hn, rfl⟩ := List.mem_map.mp hk
    rw [List.mem_range] at hn
    rw [← find_isSome_iff, find_of_get? (by simp [candidate]), Option.isSome_iff_ne_none]
    exact fun hfree => htaken ⟨n, by omega, hfree⟩
  have hlength := (List.subperm_of_subset (List.nodup_range.map hinj) hsubset).length_le
  simp only [List.length_map, List.length_range] at hlength
  omega

theorem temporary_free (t : FileTree) (target : FilePath) :
    t.get? (t.temporary target) = none := by
  obtain ⟨m, hplace, htaken, hfree | hfar⟩ := t.temporaryFrom_spec target (t.entries.length + 1) 0
  · rw [temporary, hplace]
    exact hfree
  · obtain ⟨n, hn, hfree⟩ := t.exists_free (t.locate target.parent) target
    have hsome := htaken n (Nat.zero_le n) (by omega)
    rw [hfree] at hsome
    cases hsome

/-- The temporary file has the first free name. -/
theorem temporary_place (t : FileTree) (target : FilePath) :
    ∃ n, t.temporary target = t.locate target.parent ++ [temporaryName target n] ∧
      ∀ i, i < n → (t.get? (t.locate target.parent ++ [temporaryName target i])).isSome = true := by
  obtain ⟨n, hplace, htaken, -⟩ := t.temporaryFrom_spec target (t.entries.length + 1) 0
  exact ⟨n, hplace, fun i => htaken i (Nat.zero_le i)⟩

/-! ## 2. The whole write -/

theorem temporaryName_ne (target : FilePath) (n : Nat) : temporaryName target n ≠ target.name := by
  intro h
  have hlength := congrArg (fun s => s.toList.length) h
  simp [temporaryName] at hlength
  omega

theorem write_refused {f : FileFault} (h : t.makeDirectories target.parent = .error f)
    (content : Bytes) :
    t.write target content = (some f, t.begunDirectories target.parent) := by
  unfold write AtomicWrite.run
  rw [h]

theorem parts_parent (htarget : target.parts ≠ []) :
    target.parts = target.parent.parts ++ [target.name] := by
  unfold FilePath.parent FilePath.name
  rw [List.getLast?_eq_some_getLast htarget]
  exact (List.dropLast_concat_getLast htarget).symm

theorem locate_parent (t : FileTree) (htarget : target.parts ≠ []) (hname : target.name ≠ "..") :
    t.locate target = t.locate target.parent ++ [target.name] := by
  unfold locate Location.follow
  rw [parts_parent htarget, List.foldl_append]
  exact if_neg hname

/-- Beside a temporary file the target is what it was. -/
theorem isDirectory_beside (hs : t.Sound) (htarget : target.parts ≠ []) (hname : target.name ≠ "..")
    (hlook : t.look target.parent = .ok .directory) (n : Nat)
    (hfree : t.get? (t.locate target.parent ++ [temporaryName target n]) = none) (content : Bytes) :
    (t.put (t.locate target.parent ++ [temporaryName target n]) (.file content)).isDirectory target =
      true ↔ t.get? (t.locate target) = some .directory := by
  have hdirectory := get?_of_look hlook
  have hput : Later (fun _ => True) (fun _ => True) t
      (t.put (t.locate target.parent ++ [temporaryName target n]) (.file content)) :=
    .put_file hs hdirectory (by rw [hfree]; simp) trivial content
  have hparent : (t.put (t.locate target.parent ++ [temporaryName target n])
      (.file content)).reach (t.start target) target.parent.parts = .ok .directory :=
    hput.reach_directory hlook
  have hget : (t.put (t.locate target.parent ++ [temporaryName target n]) (.file content)).get?
      (t.locate target) = t.get? (t.locate target) := by
    rw [get?_put _ _ _ _ (by simp), if_neg]
    rw [locate_parent t htarget hname]
    exact fun h => temporaryName_ne target n (List.singleton_inj.mp (List.append_cancel_left h))
  rw [isDirectory_iff, look, hput.start, parts_parent htarget, reach_concat hname hparent,
    show (t.start target).follow target.parent.parts = t.locate target.parent from rfl,
    ← locate_parent t htarget hname, hget]
  cases t.get? (t.locate target) <;> simp

/-- Once the directory of its target is there, a write is refused where the target is a directory;
else the file is there, and nothing else is new. -/
theorem write_made (hs : t.Sound) (htarget : target.parts ≠ []) (hname : target.name ≠ "..")
    {ready : FileTree} (h : t.makeDirectories target.parent = .ok ready) (content : Bytes) :
    if ready.get? (t.locate target) = some .directory then
      t.write target content =
        (some ⟨.isDirectory, (ready.temporary target).text, some target.text⟩, ready)
    else t.write target content = (none, ready.put (t.locate target) (.file content)) := by
  obtain ⟨hlater, hlook⟩ := makeDirectories_ok hs h
  obtain ⟨n, hplace, -⟩ := ready.temporary_place target
  have hfree := ready.temporary_free target
  rw [hplace] at hfree
  have hbeside := isDirectory_beside (hlater.sound hs) htarget hname hlook n hfree content
  have herase := erase_put (by simp) hfree (.file content)
  have hfill : t.write target content =
      let w := AtomicWrite.moveInto target content (ready.temporary target)
        [t, ready, ready.put (ready.temporary target) (.file [])]
        (ready.put (ready.temporary target) (.file content))
      (w.fault?, w.tree) := by
    unfold write AtomicWrite.run
    rw [h, ← put_put ready _ (.file []) (.file content)]
    rfl
  rw [hfill, hplace]
  unfold AtomicWrite.moveInto
  dsimp only
  rw [← hlater.locate target]
  split
  · next hdirectory =>
    rw [if_pos (hbeside.mpr hdirectory)]
    unfold AtomicWrite.abandon
    dsimp only
    rw [herase]
  · next hdirectory =>
    rw [if_neg (fun hfalse => hdirectory (hbeside.mp hfalse))]
    dsimp only
    rw [herase]
    rfl

end FileTree

end FluentBuilders
