import Mathlib.Data.Nat.Find
import FluentBuilders.Proofs.Publication
import FluentBuilders.Proofs.Rounds.Pool

/-!
Writing builders step by step, so that the steps of several writers can come in any order.

1. `Edit`: what a step changes in a tree, location by location.
2. `Owned`: the locations that the writer of a module has for itself: its file, and the temporary files
   beside it.
3. `Writing`: how far a writer is with an artifact, and its next step.
4. `writer_separate`: writers of different modules share nothing but directories, which each of them
   makes where they are missing.
5. `writer_finish_publish`: a writer that nobody interrupts does what `publish` does.
-/

namespace FluentBuilders

open Text

/-! ## 1. Edits -/

/-- What one step does to a tree. -/
inductive Edit
  | nothing
  /-- A directory is made where nothing stands. -/
  | directory (l : Location)
  | file (l : Location) (content : Bytes)
  | erase (l : Location)
  /-- The file at `source` takes the place of whatever stands at `target`. -/
  | move (source target : Location) (content : Bytes)

namespace Edit

/-- The tree after an edit. -/
def apply (t : FileTree) : Edit → FileTree
  | nothing => t
  | directory l => if (t.get? l).isSome then t else t.put l .directory
  | file l c => t.put l (.file c)
  | erase l => t.erase l
  | move source target c => (t.erase source).put target (.file c)

/-- What an edit makes of the entry at a location. -/
def change (k : Location) (entry : Option Entry) : Edit → Option Entry
  | nothing => entry
  | directory l => if l = k then some (entry.getD .directory) else entry
  | file l c => if l = k then some (.file c) else entry
  | erase l => if l = k then none else entry
  | move source target c => if target = k then some (.file c) else if source = k then none else entry

/-- The locations that an edit is about. -/
def places : Edit → List Location
  | nothing => []
  | directory l => [l]
  | file l _ => [l]
  | erase l => [l]
  | move source target _ => [source, target]

variable {e f : Edit} {t : FileTree} {k : Location}

/-- An edit changes each location by itself. -/
theorem get?_apply (hplaces : [] ∉ e.places) (t : FileTree) (k : Location) :
    (e.apply t).get? k = e.change k (t.get? k) := by
  cases e with
  | nothing => rfl
  | directory l =>
    have hl : l ≠ [] := fun h => hplaces (h ▸ List.mem_singleton_self _)
    rw [apply, change]
    split
    · next hsome =>
      split
      · next hk =>
        subst hk
        obtain ⟨e, he⟩ := Option.isSome_iff_exists.mp hsome
        rw [he]
        rfl
      · rfl
    · next hnone =>
      rw [FileTree.get?_put _ _ _ _ hl]
      split
      · next hk =>
        subst hk
        rw [Option.not_isSome_iff_eq_none.mp hnone]
        rfl
      · rfl
  | file l c => exact FileTree.get?_put _ _ _ _ fun h => hplaces (h ▸ List.mem_singleton_self _)
  | erase l => exact FileTree.get?_erase _ _ _ fun h => hplaces (h ▸ List.mem_singleton_self _)
  | move source target c =>
    have hsource : source ≠ [] := fun h => hplaces (h ▸ List.mem_cons_self)
    have htarget : target ≠ [] := fun h =>
      hplaces (h ▸ List.mem_cons_of_mem _ (List.mem_singleton_self _))
    rw [apply, change, FileTree.get?_put _ _ _ _ htarget, FileTree.get?_erase _ _ _ hsource]

theorem change_elsewhere (h : k ∉ e.places) (entry : Option Entry) : e.change k entry = entry := by
  cases e <;> simp_all [change, places, eq_comm]

/-- Edits of different locations can be made in either order, and so can directories. -/
theorem apply_apply (he : [] ∉ e.places) (hf : [] ∉ f.places)
    (h : ∀ k, k ∈ e.places → k ∈ f.places → e = .directory k ∧ f = .directory k) (t : FileTree) :
    (e.apply (f.apply t)).get? = (f.apply (e.apply t)).get? := by
  funext k
  rw [get?_apply he, get?_apply hf, get?_apply hf, get?_apply he]
  by_cases hke : k ∈ e.places
  · by_cases hkf : k ∈ f.places
    · obtain ⟨rfl, rfl⟩ := h k hke hkf
      rfl
    · rw [change_elsewhere hkf, change_elsewhere hkf]
  · rw [change_elsewhere hke, change_elsewhere hke]

end Edit

/-! ## 2. What a writer has for itself -/

section Owned

variable {out l : Location} {m n : String}

/-- The name of a module's file. -/
def fileName (m : String) : String := (dottedParts m).getLast?.getD "" ++ ".py"

/-- The directory of a module's file. -/
def folder (out : Location) (m : String) : Location := out ++ (dottedParts m).dropLast

theorem destination_folder (out : Location) (m : String) :
    destination out m = folder out m ++ [fileName m] := by
  unfold destination fileParts folder fileName
  rw [List.append_assoc]

theorem dropLast_destination (out : Location) (m : String) :
    (destination out m).dropLast = folder out m := by
  rw [destination_folder, List.dropLast_concat]

theorem dots_not_mem_folder (hout : ".." ∉ out) (hm : IsModuleName m) : ".." ∉ folder out m := by
  rw [← dropLast_destination]
  exact fun h => dots_not_mem_destination hout hm (List.dropLast_subset _ h)

/-- The temporary file of a module with the number `n`. -/
def temporaryAt (out : Location) (m : String) (n : Nat) : Location :=
  folder out m ++ [FileTree.temporaryName (Location.path (destination out m)) n]

/-- Locations that only the writer of a module touches. -/
def Owned (out : Location) (m : String) (l : Location) : Prop :=
  l = destination out m ∨ ∃ n, l = temporaryAt out m n

theorem temporaryName_eq (out : Location) (m : String) (n : Nat) :
    FileTree.temporaryName (Location.path (destination out m)) n =
      "." ++ fileName m ++ "." ++ stamp n ++ ".tmp" := by
  unfold FileTree.temporaryName
  rw [show (Location.path (destination out m)).name = fileName m from by
    show (destination out m).getLast?.getD "" = _
    rw [destination_folder, List.getLast?_concat]
    rfl]

/-- The last part of a module's name, which its file is named after, has no dot. -/
theorem fileName_eq (hm : IsModuleName m) :
    ∃ leaf, fileName m = leaf ++ ".py" ∧ leaf ≠ "" ∧ '.' ∉ leaf.toList := by
  obtain ⟨leaf, hleaf, hpart⟩ := getLast?_dottedParts hm
  refine ⟨leaf, by rw [fileName, hleaf]; rfl, hpart.1, fun h => (hpart.2 _ h).1 rfl⟩

/-- A name that is not hidden is none of a temporary file. -/
theorem fileName_ne_temporary (hm : IsModuleName m) (out : Location) (n' : String) (i : Nat) :
    fileName m ≠ FileTree.temporaryName (Location.path (destination out n')) i := by
  intro h
  obtain ⟨leaf, hleaf, hne, hdot⟩ := fileName_eq hm
  rw [temporaryName_eq, hleaf] at h
  have h := congrArg String.toList h
  simp only [String.toList_append] at h
  cases hchars : leaf.toList with
  | nil => exact hne (String.toList_injective hchars)
  | cons c rest =>
    rw [hchars] at h hdot
    obtain ⟨rfl, -⟩ := List.cons.inj h
    exact hdot List.mem_cons_self

/-- Temporary files are named after the files that they are made for. -/
theorem temporaryName_fileName (hm : IsModuleName m) (hn : IsModuleName n) {i j : Nat}
    (h : FileTree.temporaryName (Location.path (destination out m)) i =
      FileTree.temporaryName (Location.path (destination out n)) j) : fileName m = fileName n := by
  obtain ⟨leaf, hleaf, -, hdot⟩ := fileName_eq hm
  obtain ⟨leaf', hleaf', -, hdot'⟩ := fileName_eq hn
  -- what stands before the dot of the ending is told by the first dot after the leading one
  have hfirst : ∀ {leaf : List Char} (rest : List Char), '.' ∉ leaf →
      (leaf ++ (".py".toList ++ rest)).takeWhile (· != '.') = leaf := by
    intro leaf rest hdot
    have hplain : ∀ c ∈ leaf, (c != '.') = true := by
      intro c hc
      rw [bne_iff_ne]
      rintro rfl
      exact hdot hc
    rw [List.takeWhile_append_of_pos hplain]
    simp
  rw [temporaryName_eq, temporaryName_eq, hleaf, hleaf'] at h
  have h := congrArg String.toList h
  simp only [String.toList_append, List.append_assoc] at h
  have hchars := congrArg (List.takeWhile (· != '.')) (List.append_cancel_left h)
  rw [hfirst _ hdot, hfirst _ hdot'] at hchars
  rw [hleaf, hleaf', String.toList_injective hchars]

/-- No two modules have a file in common, be it a temporary one. -/
theorem owned_apart (hm : IsModuleName m) (hn : IsModuleName n) (h : Owned out m l)
    (h' : Owned out n l) : m = n := by
  have hsame : folder out m = folder out n → fileName m = fileName n → m = n := by
    intro hfolder hname
    have heq : destination out m = destination out n := by
      rw [destination_folder, destination_folder, hfolder, hname]
    exact destination_injective out heq
  rcases h with rfl | ⟨i, rfl⟩
  · rcases h' with h' | ⟨j, h'⟩
    · rw [destination_folder, destination_folder] at h'
      obtain ⟨hfolder, hname⟩ := List.append_inj' h' rfl
      exact hsame hfolder (List.singleton_inj.mp hname)
    · rw [destination_folder] at h'
      have hname := List.singleton_inj.mp (List.append_inj' h' rfl).2
      exact absurd hname (fileName_ne_temporary hm out n j)
  · rcases h' with h' | ⟨j, h'⟩
    · rw [destination_folder] at h'
      have hname := List.singleton_inj.mp (List.append_inj' h' rfl).2
      exact absurd hname.symm (fileName_ne_temporary hn out m i)
    · obtain ⟨hfolder, hname⟩ := List.append_inj' h' rfl
      exact hsame hfolder (temporaryName_fileName hm hn (List.singleton_inj.mp hname))

/-- Files of modules are not on the way to others: directories have no dot in their names. -/
theorem owned_off_way (hn : IsModuleName n) (h : Owned out m l) : ¬ l <+: folder out n := by
  obtain ⟨name, hname, rfl⟩ : ∃ name, '.' ∈ name.toList ∧ l = folder out m ++ [name] := by
    rcases h with rfl | ⟨i, rfl⟩
    · refine ⟨fileName m, ?_, destination_folder out m⟩
      rw [fileName, String.toList_append, List.mem_append]
      exact .inr (by decide)
    · refine ⟨_, ?_, rfl⟩
      rw [temporaryName_eq]
      simp
  intro hprefix
  unfold folder at hprefix
  rw [List.append_assoc, List.prefix_append_right_inj] at hprefix
  have hmem := hprefix.subset (List.mem_append_right _ (List.mem_singleton_self name))
  exact ((hn _ (List.dropLast_subset _ hmem)).2 '.' hname).1 rfl

theorem owned_ne_nil (h : Owned out m l) : l ≠ [] := by
  rcases h with rfl | ⟨i, rfl⟩
  · rw [destination_folder]
    simp
  · simp [temporaryAt]

end Owned

/-! ## 3. Writers -/

/-- The number of the first temporary file of a module that does not exist. -/
def freeNumber (out : Location) (m : String) (t : FileTree) : Nat :=
  Nat.find ((t.exists_free (folder out m) (Location.path (destination out m))).imp fun _ h => h.2)

/-- How far a writer is with an artifact. -/
inductive Writing
  /-- It looks whether the text of the artifact is there. -/
  | reading
  /-- It looks whether its directories can be made. -/
  | entering
  /-- The first `n` directories on the way are there. -/
  | making (n : Nat)
  /-- It looks for a temporary file. -/
  | creating
  /-- The temporary file with that number is there and empty. -/
  | filling (n : Nat)
  /-- The temporary file is full. -/
  | moving (n : Nat)
  | answered (r : Except PublishFault Published)

namespace Writing

/-- The answer of a writer that has published its artifact, or found it there. -/
def published (out : Location) (a : Artifact) (changed : Bool) : Writing :=
  answered (.ok ⟨Location.text (destination out a.module), changed⟩)

/-- The answer of a writer that was refused. -/
def refused (out : Location) (a : Artifact) (f : FileFault) : Writing :=
  answered (.error (.refused ⟨Location.text (destination out a.module), f.message⟩))

/-- The next step of the writer of an artifact, and what it does to the tree. -/
def step (out : Location) (a : Artifact) (t : FileTree) : Writing → Writing × Edit
  | reading =>
    match t.get? (destination out a.module) with
    | some (.file c) =>
      match decode? c with
      | .ok s => (if unifyLines s = a.text then published out a false else entering, .nothing)
      | .error e => (answered (.error (.aborted (.undecodable e))), .nothing)
    | _ => (entering, .nothing)
  | entering =>
    match t.fileOnWay [] [] (folder out a.module) with
    | none => (making 0, .nothing)
    | some found =>
      let cause := if found = folder out a.module then FileCause.taken else .notDirectory
      (refused out a (.about cause (Location.text (folder out a.module))), .nothing)
  | making n =>
    if n < (folder out a.module).length then
      (making (n + 1), .directory ((folder out a.module).take (n + 1)))
    else (creating, .nothing)
  | creating =>
    let n := freeNumber out a.module t
    (filling n, .file (temporaryAt out a.module n) [])
  | filling n => (moving n, .file (temporaryAt out a.module n) (encode a.text))
  | moving n =>
    if t.get? (destination out a.module) = some .directory then
      (refused out a ⟨.isDirectory, (temporaryAt out a.module n).text,
        some (Location.text (destination out a.module))⟩, .erase (temporaryAt out a.module n))
    else
      (published out a true,
        .move (temporaryAt out a.module n) (destination out a.module) (encode a.text))
  | answered r => (answered r, .nothing)

/-- The answer, once there is one. -/
def answer? : Writing → Option (Except PublishFault Published)
  | answered r => some r
  | _ => none

/-- How many steps are left at most. -/
def left (out : Location) (a : Artifact) : Writing → Nat
  | reading => (folder out a.module).length + 6
  | entering => (folder out a.module).length + 5
  | making n => (folder out a.module).length - n + 4
  | creating => 3
  | filling _ => 2
  | moving _ => 1
  | answered _ => 0

end Writing

/-- The writer of builders below a directory. -/
def writer (out : Location) : Worker FileTree Writing where
  start := .reading
  step a k t := ((k.step out a t).1, (k.step out a t).2.apply t)
  answer? := Writing.answer?
  left := Writing.left out

/-! ## 4. Several writers -/

section Writers

variable {out : Location} {a b : Artifact} {t t' : FileTree} {k j : Writing}

/-- What a step changes is a missing directory on the way of its artifact, or its own. -/
inductive Edit.Within (out : Location) (m : String) : Edit → Prop
  | way {l : Location} : l ≠ [] → l <+: folder out m → Within out m (.directory l)
  | own {e : Edit} : (∀ l ∈ e.places, Owned out m l) → Within out m e

theorem step_within (k : Writing) (out : Location) (a : Artifact) (t : FileTree) :
    (k.step out a t).2.Within out a.module := by
  have hnothing : Edit.nothing.Within out a.module := .own fun l hl => by cases hl
  cases k with
  | reading =>
    rw [Writing.step]
    split
    · split <;> exact hnothing
    · exact hnothing
  | entering =>
    rw [Writing.step]
    split <;> exact hnothing
  | making n =>
    rw [Writing.step]
    split
    · next hn =>
      refine .way (fun h => ?_) (List.take_prefix _ _)
      have hlength := congrArg List.length h
      rw [List.length_take, List.length_nil] at hlength
      omega
    · exact hnothing
  | creating => exact .own fun l hl => .inr ⟨_, List.mem_singleton.mp hl⟩
  | filling n => exact .own fun l hl => .inr ⟨n, List.mem_singleton.mp hl⟩
  | moving n =>
    rw [Writing.step]
    split
    · exact .own fun l hl => .inr ⟨n, List.mem_singleton.mp hl⟩
    · refine .own fun l hl => ?_
      rcases List.mem_cons.mp hl with rfl | hl
      · exact .inr ⟨n, rfl⟩
      · exact .inl (List.mem_singleton.mp hl)
  | answered r => exact hnothing

theorem Edit.Within.places {m : String} {e : Edit} (h : e.Within out m) : [] ∉ e.places := by
  cases h with
  | way hne _ => exact fun hmem => hne (List.mem_singleton.mp hmem).symm
  | own h => exact fun hmem => owned_ne_nil (h _ hmem) rfl

/-- What a writer sees of a tree. -/
structure Glance (out : Location) (m : String) (t t' : FileTree) : Prop where
  own : ∀ l, Owned out m l → t'.get? l = t.get? l
  way : ∀ l, l <+: folder out m → ∀ c, t'.get? l = some (.file c) ↔ t.get? l = some (.file c)

theorem Glance.of_get? {m : String} (h : t'.get? = t.get?) : Glance out m t t' :=
  ⟨fun l _ => congrFun h l, fun l _ c => by rw [h]⟩

/-- A step depends on what its writer sees. -/
theorem Glance.step (hout : ".." ∉ out) (ha : IsModuleName a.module) (h : Glance out a.module t t')
    (k : Writing) : k.step out a t' = k.step out a t := by
  have hdestination := h.own _ (.inl rfl)
  have hway : t'.fileOnWay [] [] (folder out a.module) = t.fileOnWay [] [] (folder out a.module) :=
    FileTree.fileOnWay_congr [] (dots_not_mem_folder hout ha) h.way
  have hfree : freeNumber out a.module t' = freeNumber out a.module t := by
    unfold freeNumber
    exact Nat.find_congr' fun {n} => by
      rw [h.own (folder out a.module ++ [FileTree.temporaryName _ n]) (.inr ⟨n, rfl⟩)]
  unfold Writing.step
  rw [hdestination, hway, hfree]

/-- Steps for other modules are not seen. -/
theorem Edit.Within.glance (ha : IsModuleName a.module) (hb : IsModuleName b.module)
    (hab : a.module ≠ b.module) {e : Edit} (h : e.Within out b.module) :
    Glance out a.module t (e.apply t) := by
  refine ⟨fun l hl => ?_, fun l hl c => ?_⟩ <;> rw [get?_apply h.places]
  · refine change_elsewhere (fun hmem => ?_) _
    cases h with
    | way _ hway => exact owned_off_way hb hl (List.mem_singleton.mp hmem ▸ hway)
    | own h => exact hab (owned_apart ha hb hl (h l hmem))
  · cases h with
    | way _ hway =>
      rw [change]
      split
      · cases t.get? l <;> simp
      · exact .rfl
    | own h =>
      rw [change_elsewhere]
      exact fun hmem => owned_off_way ha (h l hmem) hl

/-- Steps for different modules can be made in either order. -/
theorem Edit.Within.apply_apply (ha : IsModuleName a.module) (hb : IsModuleName b.module)
    (hab : a.module ≠ b.module) {e f : Edit} (he : e.Within out a.module)
    (hf : f.Within out b.module) (t : FileTree) :
    (e.apply (f.apply t)).get? = (f.apply (e.apply t)).get? := by
  refine Edit.apply_apply he.places hf.places (fun l hle hlf => ?_) t
  cases he with
  | way _ hway =>
    cases hf with
    | way _ hway' =>
      rw [List.mem_singleton.mp hle] at hlf ⊢
      rw [List.mem_singleton.mp hlf]
      exact ⟨rfl, rfl⟩
    | own hf => exact absurd (List.mem_singleton.mp hle ▸ hway) (owned_off_way ha (hf l hlf))
  | own he =>
    cases hf with
    | way _ hway => exact absurd (List.mem_singleton.mp hlf ▸ hway) (owned_off_way hb (he l hle))
    | own hf => exact absurd (owned_apart ha hb (he l hle) (hf l hlf)) hab

/-- **Writers of different modules do not get in each other's way.** -/
theorem writer_separate (hout : ".." ∉ out) :
    (writer out).Separate (fun a => IsModuleName a.module) FileTree.get? where
  idle a k t hk := by
    cases k with
    | answered r => rfl
    | _ => cases hk
  ends a k t hk := by
    show ((k.step out a t).1).left out a < k.left out a
    cases k with
    | reading =>
      rw [Writing.step]
      split
      · split
        · dsimp only
          split <;> simp [Writing.left, Writing.published]
        · simp [Writing.left]
      · simp [Writing.left]
    | entering =>
      rw [Writing.step]
      split <;> simp [Writing.left, Writing.refused]
    | making n =>
      rw [Writing.step]
      split
      · simp only [Writing.left]
        omega
      · simp [Writing.left]
    | creating => simp [Writing.step, Writing.left]
    | filling n => simp [Writing.step, Writing.left]
    | moving n =>
      rw [Writing.step]
      split <;> simp [Writing.left, Writing.refused, Writing.published]
    | answered r => cases hk
  alike a k t t' ha h := by
    have hstep := (Glance.of_get? h).step hout ha k
    show (k.step out a t').1 = _ ∧ ((k.step out a t').2.apply t').get? = _
    rw [hstep]
    refine ⟨rfl, funext fun l => ?_⟩
    have hplaces := (step_within k out a t).places
    rw [Edit.get?_apply hplaces, h, ← Edit.get?_apply hplaces]
    rfl
  apart a k b j t ha hb hab := by
    have hstep := ((step_within j out b t).glance ha hb hab).step (t := t) hout ha k
    show (k.step out a ((j.step out b t).2.apply t)).1 = (k.step out a t).1
    rw [hstep]
  swap a k b j t ha hb hab := by
    have hfirst := step_within k out a t
    have hsecond := step_within j out b t
    show ((k.step out a ((j.step out b t).2.apply t)).2.apply _).get? =
      ((j.step out b ((k.step out a t).2.apply t)).2.apply _).get?
    rw [(hsecond.glance ha hb hab).step hout ha k, (hfirst.glance hb ha hab.symm).step hout hb j]
    exact hfirst.apply_apply ha hb hab hsecond t

end Writers

/-! ## 5. One writer alone -/

section Alone

variable {out : Location} {a : Artifact} {t ready : FileTree}

/-- A writer goes on from where a step has led it. -/
theorem writer_finish (hout : ".." ∉ out) {k : Writing} (hk : k.answer? = none) (t : FileTree) :
    (writer out).finish a k t =
      (writer out).finish a (k.step out a t).1 ((k.step out a t).2.apply t) :=
  ((writer_separate hout).finish_step hk).symm

theorem writer_answered (hout : ".." ∉ out) (r : Except PublishFault Published) (t : FileTree) :
    (writer out).finish a (.answered r) t = (.answered r, t) :=
  (writer_separate hout).finish_answered rfl

/-- The first free temporary file is that of an atomic write. -/
theorem temporary_freeNumber (hout : ".." ∉ out) (ha : IsModuleName a.module) (t : FileTree) :
    t.temporary (Location.path (destination out a.module)) =
      temporaryAt out a.module (freeNumber out a.module t) := by
  have hfree := t.temporary_free (Location.path (destination out a.module))
  obtain ⟨n, hplace, htaken⟩ := t.temporary_place (Location.path (destination out a.module))
  have hparent : t.locate (Location.path (destination out a.module)).parent =
      folder out a.module := by
    rw [show (Location.path (destination out a.module)).parent =
      Location.path (destination out a.module).dropLast from rfl, dropLast_destination]
    exact t.locate_path (dots_not_mem_folder hout ha)
  rw [hparent] at hplace htaken
  rw [hplace] at hfree ⊢
  have hnumber : freeNumber out a.module t = n := by
    unfold freeNumber
    rw [Nat.find_eq_iff]
    refine ⟨hfree, fun i hi hnone => ?_⟩
    have hsome := htaken i hi
    rw [hnone] at hsome
    cases hsome
  rw [hnumber]
  rfl

theorem temporaryAt_ne (ha : IsModuleName a.module) (out : Location) (n : Nat) :
    temporaryAt out a.module n ≠ destination out a.module := by
  intro h
  rw [destination_folder] at h
  exact fileName_ne_temporary ha out a.module n (List.singleton_inj.mp (List.append_inj' h rfl).2).symm

/-- Once its directories are there, a writer fills a temporary file and moves it; a directory in the
place of its file refuses that. -/
theorem writer_creating (hout : ".." ∉ out) (ha : IsModuleName a.module) (ready : FileTree) :
    (writer out).finish a .creating ready =
      if ready.get? (destination out a.module) = some .directory then
        (.answered (.error (.refused (directoryFault
          (ready.temporary (Location.path (destination out a.module))).text
          (Location.path (destination out a.module))))), ready)
      else (.answered (.ok ⟨Location.text (destination out a.module), true⟩),
        ready.put (destination out a.module) (.file (encode a.text))) := by
  rw [temporary_freeNumber hout ha]
  have hfree : ready.get? (temporaryAt out a.module (freeNumber out a.module ready)) = none :=
    Nat.find_spec ((ready.exists_free _ _).imp fun _ h => h.2)
  generalize hnumber : freeNumber out a.module ready = n at hfree
  have hne : temporaryAt out a.module n ≠ [] := by simp [temporaryAt]
  rw [writer_finish hout rfl, writer_finish hout rfl, writer_finish hout rfl]
  dsimp only [Writing.step, Edit.apply]
  rw [hnumber, FileTree.put_put, FileTree.get?_put _ _ _ _ hne, if_neg (temporaryAt_ne ha out n)]
  split
  · dsimp only
    rw [FileTree.erase_put hne hfree]
    exact writer_answered hout _ _
  · dsimp only
    rw [FileTree.erase_put hne hfree]
    exact writer_answered hout _ _

/-- A writer makes the directories that are missing, from the top. -/
theorem writer_making (hout : ".." ∉ out) (ha : IsModuleName a.module) (n : Nat) (t : FileTree) :
    (writer out).finish a (.making n) t = (writer out).finish a .creating
      (t.addDirectories ((folder out a.module).take n) ((folder out a.module).drop n)) := by
  induction hleft : (folder out a.module).length - n generalizing n t with
  | zero =>
    have hn : ¬ n < (folder out a.module).length := by omega
    rw [writer_finish hout rfl, List.drop_eq_nil_of_le (by omega)]
    dsimp only [Writing.step]
    rw [if_neg hn]
    rfl
  | succ left ih =>
    have hn : n < (folder out a.module).length := by omega
    have hname : (folder out a.module)[n] ≠ ".." := fun h =>
      dots_not_mem_folder hout ha (h ▸ List.getElem_mem hn)
    rw [writer_finish hout rfl, List.drop_eq_getElem_cons hn]
    dsimp only [Writing.step]
    rw [if_pos hn, ih (n + 1) _ (by omega), FileTree.addDirectories, Location.step, if_neg hname,
      List.take_append_getElem]
    rfl

/-- What a writer looks for before it makes directories decides whether they can be made. -/
theorem writer_entering (hs : t.Sound) (hout : ".." ∉ out) (ha : IsModuleName a.module) :
    (∀ f, t.makeDirectories (Location.path (folder out a.module)) = .error f →
      (writer out).finish a .entering t =
        (.answered (.error (.refused ⟨Location.text (destination out a.module), f.message⟩)), t)) ∧
    (∀ ready, t.makeDirectories (Location.path (folder out a.module)) = .ok ready →
      (writer out).finish a .entering t = (writer out).finish a .creating ready) := by
  have hdots := dots_not_mem_folder hout ha
  obtain ⟨hdirectory, hfile, hblocked⟩ :=
    FileTree.fileOnWay_reach (t := t) (l := []) [] hdots rfl
  simp only [List.nil_append] at hfile hblocked
  constructor
  · intro f hf
    rw [writer_finish hout rfl]
    dsimp only [Writing.step]
    rcases (hs.makeDirectories_refused hdots f).mp hf with ⟨⟨c, hlook⟩, rfl⟩ | ⟨hlook, rfl⟩
    · rw [hfile c hlook]
      dsimp only
      rw [if_pos rfl]
      exact writer_answered hout _ _
    · obtain ⟨found, hfound, hne⟩ := hblocked hlook
      rw [hfound]
      dsimp only
      rw [if_neg hne]
      exact writer_answered hout _ _
  · intro ready hready
    have hway : t.fileOnWay [] [] (folder out a.module) = none ∧
        t.addDirectories [] (folder out a.module) = ready := by
      unfold FileTree.makeDirectories at hready
      split at hready
      · next hlook =>
        cases hready
        exact ⟨hdirectory hlook, FileTree.addDirectories_there hlook⟩
      · cases hready
      · split at hready
        · next hnone =>
          cases hready
          exact ⟨hnone, rfl⟩
        · cases hready
      · cases hready
    rw [writer_finish hout rfl]
    dsimp only [Writing.step]
    rw [hway.1]
    dsimp only [Edit.apply]
    rw [writer_making hout ha, List.take_zero, List.drop_zero, hway.2]

/-- A writer that has found something else writes its artifact as `publish` does. -/
theorem writer_absent (hs : t.Sound) (hout : ".." ∉ out) (ha : IsModuleName a.module)
    {current : Option String}
    (hcurrent : currentText t (Location.path (destination out a.module)) = .ok current)
    (hother : current ≠ some a.text) :
    (writer out).finish a .entering t =
      (.answered (publish (Location.path out) a t).1, (publish (Location.path out) a t).2) := by
  obtain ⟨hrefused, hready⟩ := writer_entering hs hout ha
  cases hmake : t.makeDirectories (Location.path (folder out a.module)) with
  | error f =>
    rw [hrefused f hmake]
    rw [← dropLast_destination] at hmake
    rw [publish_blocked hs hout ha hcurrent hother hmake]
  | ok ready =>
    rw [hready ready hmake, writer_creating hout ha]
    rw [← dropLast_destination] at hmake
    have hmade := publish_made hs hout ha hcurrent hother hmake
    split at hmade
    · next hdirectory => rw [if_pos hdirectory, hmade]
    · next hfree => rw [if_neg hfree, hmade]

/-- What a writer does alone is what publishing does. -/
theorem writer_finish_publish (hs : t.Sound) (hout : ".." ∉ out) (ha : IsModuleName a.module) :
    (writer out).finish a .reading t =
      (.answered (publish (Location.path out) a t).1, (publish (Location.path out) a t).2) := by
  have hdots := dots_not_mem_destination hout ha
  rw [writer_finish hout rfl]
  by_cases hfile : ∃ c, t.get? (destination out a.module) = some (.file c)
  · obtain ⟨c, hget⟩ := hfile
    have hcurrent := currentText_file ((hs.look_iff hdots).mpr hget)
    dsimp only [Writing.step]
    rw [hget]
    dsimp only
    cases hdecode : decode? c with
    | error e =>
      rw [hdecode] at hcurrent
      rw [publish_aborted ha hcurrent]
      exact writer_answered hout _ _
    | ok s =>
      rw [hdecode] at hcurrent
      dsimp only
      by_cases hsame : unifyLines s = a.text
      · rw [if_pos hsame, publish_there hs hout ha ⟨c, s, hget, hdecode, hsame⟩]
        exact writer_answered hout _ _
      · rw [if_neg hsame]
        exact writer_absent hs hout ha hcurrent fun h => hsame (Option.some.inj h)
  · have hcurrent : currentText t (Location.path (destination out a.module)) = .ok none :=
      currentText_free fun c hlook => hfile ⟨c, (hs.look_iff hdots).mp hlook⟩
    have hstep : Writing.reading.step out a t = (.entering, .nothing) := by
      rw [Writing.step]
      split
      · next c hget => exact absurd ⟨c, hget⟩ hfile
      · rfl
    rw [hstep]
    exact writer_absent hs hout ha hcurrent (by simp)

end Alone

end FluentBuilders
