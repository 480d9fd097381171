import Mathlib.Data.List.Induction
import Mathlib.Data.List.Nodup
import FluentBuilders.FileTree

/-!
File systems that are trees, and what a change leaves of them.

1. Entries: what a list of locations says after a change.
2. `FileTree.Sound`: nothing stands outside of a directory.
3. Paths without two dots lead where their parts say.
4. `FileTree.Later`: directories stay, and files do where no builder was written or removed.
5. Directories that are made.
-/

namespace FluentBuilders

namespace FileTree

variable {t t' t'' : FileTree} {l k : Location} {e : Entry}

/-! ## 1. Entries -/

theorem find_isSome_iff (l : Location) (es : List (Location × Entry)) :
    (find l es).isSome = true ↔ l ∈ es.map (·.1) := by
  induction es with
  | nil => simp [find]
  | cons x rest ih =>
    obtain ⟨k, e⟩ := x
    by_cases hk : k = l
    · simp [find, hk]
    · simp [find, hk, Ne.symm hk, ih]

theorem find_eq_none_iff (l : Location) (es : List (Location × Entry)) :
    find l es = none ↔ l ∉ es.map (·.1) := by
  rw [← find_isSome_iff, Bool.not_eq_true, Option.isSome_eq_false_iff, Option.isNone_iff_eq_none]

theorem mem_of_find {es : List (Location × Entry)} (h : find l es = some e) : (l, e) ∈ es := by
  induction es with
  | nil => cases h
  | cons x rest ih =>
    obtain ⟨k, old⟩ := x
    unfold find at h
    split at h
    · next hk =>
      cases h
      rw [hk]
      exact List.mem_cons_self
    · exact List.mem_cons_of_mem _ (ih h)

theorem place_of_none (h : find l t.entries = none) (e : Entry) :
    place l e t.entries = t.entries ++ [(l, e)] := by
  generalize t.entries = es at h
  induction es with
  | nil => rfl
  | cons x rest ih =>
    obtain ⟨k, old⟩ := x
    unfold find at h
    split at h
    · cases h
    · next hk => rw [place, if_neg hk, ih h, List.cons_append]

theorem keys_place (l : Location) (e : Entry) (es : List (Location × Entry)) :
    (place l e es).map (·.1) =
      if l ∈ es.map (·.1) then es.map (·.1) else es.map (·.1) ++ [l] := by
  induction es with
  | nil => simp [place]
  | cons x rest ih =>
    obtain ⟨k, old⟩ := x
    by_cases hk : k = l
    · simp [place, hk]
    · by_cases hm : l ∈ rest.map (·.1)
      · simp [place, hk, Ne.symm hk, ih, hm]
      · simp [place, hk, Ne.symm hk, ih, hm]

theorem find_of_get? (hl : l ≠ []) : find l t.entries = t.get? l := by
  rw [get?, if_neg hl]

/-- What is put at a free location and erased again leaves nothing behind. -/
theorem erase_put (hl : l ≠ []) (h : t.get? l = none) (e : Entry) : (t.put l e).erase l = t := by
  rw [← find_of_get? hl] at h
  have hkeys := (find_eq_none_iff l t.entries).mp h
  have hkept : t.entries.filter (fun x => x.1 != l) = t.entries := by
    refine List.filter_eq_self.mpr fun x hx => ?_
    have hne : x.1 ≠ l := fun heq => hkeys (heq ▸ List.mem_map_of_mem hx)
    simpa using hne
  unfold put erase
  rw [place_of_none h]
  simp [List.filter_append, hkept]

theorem put_put (t : FileTree) (l : Location) (e e' : Entry) :
    (t.put l e).put l e' = t.put l e' := by
  have hplace : ∀ es, place l e' (place l e es) = place l e' es := by
    intro es
    induction es with
    | nil => simp [place]
    | cons x rest ih =>
      obtain ⟨k, old⟩ := x
      by_cases hk : k = l
      · simp [place, hk]
      · simp [place, hk, ih]
  unfold put
  rw [hplace]

/-- Putting an entry where it stands changes nothing. -/
theorem put_same (hl : l ≠ []) (h : t.get? l = some e) : t.put l e = t := by
  rw [← find_of_get? hl] at h
  have hplace : ∀ es, find l es = some e → place l e es = es := by
    intro es h
    induction es with
    | nil => cases h
    | cons x rest ih =>
      obtain ⟨k, old⟩ := x
      unfold find at h
      unfold place
      split at h
      · next hk =>
        cases h
        rw [if_pos hk]
      · next hk => rw [if_neg hk, ih h]
  unfold put
  rw [hplace _ h]

@[simp] theorem get?_top (t : FileTree) : t.get? [] = some .directory := rfl

/-! ## 2. Sound trees -/

/-- Nothing is listed twice, and whatever is there lies in a directory. Relative paths start at a
directory. -/
structure Sound (t : FileTree) : Prop where
  keys : (t.entries.map (·.1)).Nodup
  inside : ∀ l name, (t.get? (l ++ [name])).isSome = true → t.get? l = some .directory
  start : t.get? t.here = some .directory
  plain : ".." ∉ t.here

/-- A tree is sound if each of its entries lies in a directory, and none is listed twice. -/
theorem Sound.of_entries (hkeys : (t.entries.map (·.1)).Nodup)
    (hinside : ∀ x ∈ t.entries, t.get? x.1.dropLast = some .directory)
    (hstart : t.get? t.here = some .directory) (hplain : ".." ∉ t.here) : t.Sound where
  keys := hkeys
  inside l name h := by
    rw [← find_of_get? (by simp), find_isSome_iff] at h
    obtain ⟨x, hx, hkey⟩ := List.mem_map.mp h
    have hdirectory := hinside x hx
    rwa [hkey, List.dropLast_concat] at hdirectory
  start := hstart
  plain := hplain

/-- Above everything that is there are directories. -/
theorem Sound.above (hs : t.Sound) {rest : List String} (hrest : rest ≠ [])
    (h : (t.get? (l ++ rest)).isSome = true) : t.get? l = some .directory := by
  induction rest using List.reverseRecOn with
  | nil => exact absurd rfl hrest
  | append_singleton rest name ih =>
    rw [← List.append_assoc] at h
    have hdir := hs.inside _ _ h
    by_cases hnil : rest = []
    · rw [hnil, List.append_nil] at hdir
      exact hdir
    · exact ih hnil (by rw [hdir]; rfl)

/-- A new entry in a directory keeps a tree sound, if only directories take the place of directories. -/
theorem Sound.put (hs : t.Sound) {name : String} (hk : t.get? k = some .directory)
    (he : t.get? (k ++ [name]) = some .directory → e = .directory) : (t.put (k ++ [name]) e).Sound := by
  have hl : k ++ [name] ≠ [] := by simp
  have hdirectory : ∀ l, t.get? l = some .directory →
      (t.put (k ++ [name]) e).get? l = some .directory := by
    intro l hdir
    rw [get?_put _ _ _ _ hl]
    split
    · next heq =>
      subst heq
      rw [he hdir]
    · exact hdir
  refine ⟨?_, fun l other hsome => hdirectory l ?_, hdirectory _ hs.start, hs.plain⟩
  · show ((place _ e t.entries).map (·.1)).Nodup
    rw [keys_place]
    split
    · exact hs.keys
    · next hnew => exact hs.keys.append (List.nodup_singleton _) (by simpa using hnew)
  · rw [get?_put _ _ _ _ hl] at hsome
    split at hsome
    · next heq =>
      rw [List.append_inj_left' heq rfl] at hk
      exact hk
    · exact hs.inside l other hsome

/-- A file that is erased leaves a sound tree. -/
theorem Sound.erase (hs : t.Sound) {c : Text.Bytes} (hl : t.get? l = some (.file c)) :
    (t.erase l).Sound := by
  have hne : l ≠ [] := by
    rintro rfl
    cases hl
  have hdirectory : ∀ k, t.get? k = some .directory → (t.erase l).get? k = some .directory := by
    intro k hdir
    rw [get?_erase _ _ _ hne, if_neg, hdir]
    rintro rfl
    rw [hl] at hdir
    cases hdir
  refine ⟨?_, fun k name hsome => hdirectory k ?_, hdirectory _ hs.start, hs.plain⟩
  · exact hs.keys.sublist (List.filter_sublist.map _)
  · rw [get?_erase _ _ _ hne] at hsome
    split at hsome
    · cases hsome
    · exact hs.inside k name hsome

/-- An erased location takes nothing but its own entry with it. -/
theorem get?_of_erase (hl : l ≠ []) (h : (t.erase l).get? k = some e) : t.get? k = some e := by
  rw [get?_erase _ _ _ hl] at h
  split at h
  · cases h
  · exact h

/-! ## 3. Paths -/

theorem follow_plain {parts : List String} (h : ".." ∉ parts) (l : Location) :
    l.follow parts = l ++ parts := by
  unfold Location.follow
  induction parts generalizing l with
  | nil => simp
  | cons name rest ih =>
    obtain ⟨hname, hrest⟩ := List.ne_and_not_mem_of_not_mem_cons h
    rw [List.foldl_cons, Location.step, if_neg (Ne.symm hname), ih hrest, List.append_assoc]
    rfl

/-- Behind a path, parts lead down one by one. -/
theorem locate_append (t : FileTree) (root : FilePath) {parts : List String} (h : ".." ∉ parts) :
    t.locate ⟨root.absolute, root.parts ++ parts⟩ = t.locate root ++ parts := by
  unfold FileTree.locate Location.follow
  rw [List.foldl_append]
  exact follow_plain h _

/-- Where a path leads is told without two dots. -/
theorem dots_not_mem_follow (hl : ".." ∉ l) (parts : List String) : ".." ∉ l.follow parts := by
  unfold Location.follow
  induction parts generalizing l with
  | nil => exact hl
  | cons name rest ih =>
    refine ih ?_
    unfold Location.step
    split
    · exact fun h => hl (List.dropLast_subset _ h)
    · next hname =>
      rw [List.mem_append, List.mem_singleton, not_or]
      exact ⟨hl, Ne.symm hname⟩

theorem Sound.dots_not_mem_locate (hs : t.Sound) (p : FilePath) : ".." ∉ t.locate p := by
  refine dots_not_mem_follow ?_ p.parts
  unfold FileTree.start
  split
  · exact List.not_mem_nil
  · exact hs.plain

/-- What a path is found to lead to stands at its location. -/
theorem get?_of_reach {parts : List String} (h : t.reach l parts = .ok e) :
    t.get? (l.follow parts) = some e := by
  induction parts generalizing l with
  | nil =>
    unfold reach at h
    split at h
    · cases h
    · next he =>
      cases h
      exact he
  | cons name rest ih =>
    unfold reach at h
    split at h
    · cases h
    · cases h
    · exact ih h

theorem get?_of_look {p : FilePath} (h : t.look p = .ok e) : t.get? (t.locate p) = some e :=
  get?_of_reach h

/-- Where less stands, paths lead to no more. -/
theorem reach_less (hless : ∀ l e, t'.get? l = some e → t.get? l = some e) {parts : List String}
    (h : t'.reach l parts = .ok e) : t.reach l parts = .ok e := by
  induction parts generalizing l with
  | nil =>
    have hget := hless _ _ (get?_of_reach h)
    rw [FileTree.reach]
    rw [show l.follow [] = l from rfl] at hget
    rw [hget]
  | cons name rest ih =>
    unfold FileTree.reach at h
    split at h
    · cases h
    · cases h
    · next hdir =>
      rw [FileTree.reach, hless _ _ hdir]
      exact ih h

/-- What stands at the location of a path without two dots is found. -/
theorem Sound.reach (hs : t.Sound) {parts : List String} (hparts : ".." ∉ parts)
    (h : t.get? (l ++ parts) = some e) : t.reach l parts = .ok e := by
  induction parts generalizing l with
  | nil =>
    rw [List.append_nil] at h
    rw [FileTree.reach, h]
  | cons name rest ih =>
    obtain ⟨hname, hrest⟩ := List.ne_and_not_mem_of_not_mem_cons hparts
    have hdir : t.get? l = some .directory :=
      hs.above (List.cons_ne_nil name rest) (by rw [h]; rfl)
    rw [FileTree.reach, hdir]
    dsimp only
    rw [Location.step, if_neg (Ne.symm hname)]
    exact ih hrest (by rw [List.append_assoc]; exact h)

variable {c : Text.Bytes}

/-- A path from the top leads to what stands at its parts. -/
theorem Sound.look_iff (hs : t.Sound) (hl : ".." ∉ l) :
    t.look (Location.path l) = .ok e ↔ t.get? l = some e := by
  constructor
  · intro h
    have hget := get?_of_look h
    rwa [locate, show (Location.path l).parts = l from rfl, follow_plain hl] at hget
  · exact fun h => hs.reach hl h

/-- Below a directory a path leads to what stands there. -/
theorem reach_concat {parts : List String} {name : String} (hname : name ≠ "..")
    (h : t.reach l parts = .ok .directory) :
    t.reach l (parts ++ [name]) =
      match t.get? (l.follow parts ++ [name]) with
      | none => .error .missing
      | some e => .ok e := by
  induction parts generalizing l with
  | nil =>
    have hget : t.get? l = some .directory := get?_of_reach h
    rw [List.nil_append, reach, hget]
    dsimp only
    rw [Location.step, if_neg hname, reach]
    rfl
  | cons first rest ih =>
    unfold reach at h
    split at h
    · cases h
    · cases h
    · next hget =>
      rw [List.cons_append, reach, hget]
      exact ih h

/-- A path that goes on leads through a directory. -/
theorem reach_before {parts rest : List String} (hrest : rest ≠ [])
    (h : t.reach l (parts ++ rest) = .ok e) : t.reach l parts = .ok .directory := by
  induction parts generalizing l with
  | nil =>
    obtain ⟨name, rest, rfl⟩ := List.exists_cons_of_ne_nil hrest
    rw [List.nil_append, reach] at h
    rw [reach]
    split at h
    · cases h
    · cases h
    · next hget => rw [hget]
  | cons name parts ih =>
    rw [List.cons_append, reach] at h
    rw [reach]
    split at h
    · cases h
    · cases h
    · exact ih h

theorem isFile_iff {p : FilePath} : t.isFile p = true ↔ ∃ c, t.look p = .ok (.file c) := by
  unfold isFile
  split
  · next c h => simp [h]
  · next h =>
    constructor
    · intro hfalse
      cases hfalse
    · rintro ⟨c, hc⟩
      exact absurd hc (h c)

theorem isDirectory_iff {p : FilePath} : t.isDirectory p = true ↔ t.look p = .ok .directory := by
  unfold isDirectory
  split
  · next h => simp [h]
  · next h => simpa using h

theorem readBytes_iff {p : FilePath} : t.readBytes p = .ok c ↔ t.look p = .ok (.file c) := by
  unfold readBytes
  split
  · next c' h => simp [h]
  · next h => simp [h]
  · next h => simp [h]

theorem locate_path (t : FileTree) (hl : ".." ∉ l) : t.locate (Location.path l) = l :=
  follow_plain hl []

/-! ## 4. Later trees -/

variable {written removed : Location → Prop}

/-- What became of a tree: directories stay, and so do files where none was removed, with their
contents where none was written; a file that is new was written. -/
structure Later (written removed : Location → Prop) (t t' : FileTree) : Prop where
  here : t'.here = t.here
  sound : t.Sound → t'.Sound
  directory : ∀ l, t.get? l = some .directory → t'.get? l = some .directory
  file : ∀ l c, ¬ removed l → t.get? l = some (.file c) → ∃ c', t'.get? l = some (.file c')
  content : ∀ l c, ¬ removed l → ¬ written l → t.get? l = some (.file c) →
    t'.get? l = some (.file c)
  old : ∀ l c, ¬ written l → t'.get? l = some (.file c) → t.get? l = some (.file c)

namespace Later

theorem refl (t : FileTree) : Later written removed t t :=
  ⟨rfl, id, fun _ => id, fun _ c _ h => ⟨c, h⟩, fun _ _ _ _ => id, fun _ _ _ => id⟩

theorem trans (h₁ : Later written removed t t') (h₂ : Later written removed t' t'') :
    Later written removed t t'' where
  here := h₂.here.trans h₁.here
  sound := h₂.sound ∘ h₁.sound
  directory l := h₂.directory l ∘ h₁.directory l
  file l c hl h := by
    obtain ⟨c', h'⟩ := h₁.file l c hl h
    exact h₂.file l c' hl h'
  content l c hl hw h := h₂.content l c hl hw (h₁.content l c hl hw h)
  old l c hw h := h₁.old l c hw (h₂.old l c hw h)

theorem mono {written' removed' : Location → Prop} (h : Later written removed t t')
    (hw : ∀ l, written l → written' l) (hr : ∀ l, removed l → removed' l) :
    Later written' removed' t t' where
  here := h.here
  sound := h.sound
  directory := h.directory
  file l c hl := h.file l c (hl ∘ hr l)
  content l c hl hl' := h.content l c (hl ∘ hr l) (hl' ∘ hw l)
  old l c hl := h.old l c (hl ∘ hw l)

/-- Where nothing was written and nothing removed, whatever was is there. -/
theorem weaken (h : Later (fun _ => False) (fun _ => False) t t') : Later written removed t t' :=
  h.mono (fun _ => False.elim) (fun _ => False.elim)

theorem put_file (hs : t.Sound) {name : String} (hk : t.get? k = some .directory)
    (hfree : t.get? (k ++ [name]) ≠ some .directory) (hwritten : written (k ++ [name]))
    (c : Text.Bytes) : Later written removed t (t.put (k ++ [name]) (.file c)) := by
  have hget : ∀ l, (t.put (k ++ [name]) (.file c)).get? l =
      if k ++ [name] = l then some (.file c) else t.get? l :=
    fun l => get?_put t _ l _ (by simp)
  refine ⟨rfl, fun _ => hs.put hk fun h => absurd h hfree, fun l h => ?_, fun l c' _ h => ?_,
    fun l c' _ hw h => ?_, fun l c' hw h => ?_⟩
  · rw [hget, if_neg, h]
    rintro rfl
    exact hfree h
  · rw [hget]
    split
    · exact ⟨c, rfl⟩
    · exact ⟨c', h⟩
  · rw [hget, if_neg, h]
    rintro rfl
    exact hw hwritten
  · rw [hget, if_neg] at h
    · exact h
    · rintro rfl
      exact hw hwritten

theorem put_directory (hs : t.Sound) {name : String} (hk : t.get? k = some .directory)
    (hfree : t.get? (k ++ [name]) = none) :
    Later written removed t (t.put (k ++ [name]) .directory) := by
  have hget : ∀ l, (t.put (k ++ [name]) .directory).get? l =
      if k ++ [name] = l then some .directory else t.get? l :=
    fun l => get?_put t _ l _ (by simp)
  have hkept : ∀ l e, t.get? l = some e → (t.put (k ++ [name]) .directory).get? l = some e := by
    intro l e h
    rw [hget, if_neg, h]
    rintro rfl
    rw [hfree] at h
    cases h
  refine ⟨rfl, fun _ => hs.put hk fun _ => rfl, fun l => hkept l _, fun l c _ h => ⟨c, hkept l _ h⟩,
    fun l c _ _ => hkept l _, fun l c _ h => ?_⟩
  rw [hget] at h
  split at h
  · cases h
  · exact h

theorem erase {c : Text.Bytes} (hl : t.get? l = some (.file c)) (hremoved : removed l) :
    Later written removed t (t.erase l) := by
  have hne : l ≠ [] := by
    rintro rfl
    cases hl
  have hget := fun k => get?_erase t l k hne
  refine ⟨rfl, fun hs => hs.erase hl, fun k h => ?_, fun k c' hk h => ?_, fun k c' hk _ h => ?_,
    fun k c' _ h => ?_⟩
  · rw [hget, if_neg, h]
    rintro rfl
    rw [hl] at h
    cases h
  · refine ⟨c', ?_⟩
    rw [hget, if_neg, h]
    rintro rfl
    exact hk hremoved
  · rw [hget, if_neg, h]
    rintro rfl
    exact hk hremoved
  · rw [hget] at h
    split at h
    · cases h
    · exact h

/-- Paths start where they started. -/
theorem start (h : Later written removed t t') (p : FilePath) : t'.start p = t.start p := by
  unfold FileTree.start
  rw [h.here]

theorem locate (h : Later written removed t t') (p : FilePath) : t'.locate p = t.locate p := by
  unfold FileTree.locate
  rw [h.start]

/-- Directories that a path leads over stay. -/
theorem reach_directory {parts : List String} (h : Later written removed t t')
    (hl : t.reach l parts = .ok .directory) : t'.reach l parts = .ok .directory := by
  induction parts generalizing l with
  | nil =>
    have hget := h.directory _ (get?_of_reach hl)
    rw [FileTree.reach]
    rw [show l.follow [] = l from rfl] at hget
    rw [hget]
  | cons name rest ih =>
    unfold FileTree.reach at hl
    split at hl
    · cases hl
    · cases hl
    · next hdir =>
      rw [FileTree.reach, h.directory _ hdir]
      exact ih hl

/-- A file that a path leads to stays as it is, unless it was written or removed. -/
theorem reach_file {parts : List String} {c : Text.Bytes} (h : Later written removed t t')
    (hremoved : ¬ removed (l.follow parts)) (hwritten : ¬ written (l.follow parts))
    (hl : t.reach l parts = .ok (.file c)) : t'.reach l parts = .ok (.file c) := by
  induction parts generalizing l with
  | nil =>
    have hget := h.content _ c hremoved hwritten (get?_of_reach hl)
    rw [FileTree.reach]
    rw [show l.follow [] = l from rfl] at hget
    rw [hget]
  | cons name rest ih =>
    unfold FileTree.reach at hl
    split at hl
    · cases hl
    · cases hl
    · next hdir =>
      rw [FileTree.reach, h.directory _ hdir]
      exact ih hremoved hwritten hl

theorem look_file {p : FilePath} {c : Text.Bytes} (h : Later written removed t t')
    (hremoved : ¬ removed (t.locate p)) (hwritten : ¬ written (t.locate p))
    (hl : t.look p = .ok (.file c)) : t'.look p = .ok (.file c) := by
  rw [FileTree.look, h.start]
  exact h.reach_file hremoved hwritten hl

/-- A file that stands in the way of a path stays there. -/
theorem reach_notDirectory {parts : List String} (h : Later written removed t t')
    (hparts : ".." ∉ parts)
    (hremoved : ∀ before, before <+: parts → before ≠ parts → ¬ removed (l ++ before))
    (hl : t.reach l parts = .error .notDirectory) : t'.reach l parts = .error .notDirectory := by
  induction parts generalizing l with
  | nil =>
    unfold FileTree.reach at hl
    split at hl <;> cases hl
  | cons name rest ih =>
    obtain ⟨hname, hrest⟩ := List.ne_and_not_mem_of_not_mem_cons hparts
    unfold FileTree.reach at hl
    split at hl
    · cases hl
    · next c hfile =>
      have hkept := hremoved [] List.nil_prefix (List.cons_ne_nil name rest).symm
      rw [List.append_nil] at hkept
      obtain ⟨c', hfile'⟩ := h.file l c hkept hfile
      rw [FileTree.reach, hfile']
    · next hdir =>
      rw [FileTree.reach, h.directory _ hdir]
      dsimp only
      rw [Location.step, if_neg (Ne.symm hname)] at hl ⊢
      refine ih hrest (fun before hbefore hne => ?_) hl
      have hkept := hremoved (name :: before) (List.cons_prefix_cons.mpr ⟨rfl, hbefore⟩)
        (fun heq => hne (List.cons_inj_right name |>.mp heq))
      rwa [List.append_assoc]

end Later

/-! ## 5. Making directories -/

/-- Where fewer files stand, no more of them are on the way. -/
theorem fileOnWay_none {passed : List String} {parts : List String}
    (hfiles : ∀ l c, t'.get? l = some (.file c) → t.get? l = some (.file c))
    (h : t.fileOnWay l passed parts = none) : t'.fileOnWay l passed parts = none := by
  induction parts generalizing l passed with
  | nil => rfl
  | cons name rest ih =>
    unfold fileOnWay at h ⊢
    split at h
    · cases h
    · next hfree =>
      split
      · next c hc => exact absurd (hfiles _ c hc) (hfree c)
      · exact ih h

/-- Where no file is on the way, all directories are made. -/
theorem addDirectories_spec (hs : t.Sound) {passed parts : List String}
    (hl : t.get? l = some .directory) (hway : t.fileOnWay l passed parts = none) :
    Later (fun _ => False) (fun _ => False) t (t.addDirectories l parts) ∧
      (t.addDirectories l parts).reach l parts = .ok .directory := by
  induction parts generalizing t l passed with
  | nil => exact ⟨.refl t, by rw [addDirectories, reach, hl]⟩
  | cons name rest ih =>
    unfold fileOnWay at hway
    split at hway
    · cases hway
    next hfree =>
    -- the first step leads to a directory, be it a new one
    obtain ⟨hfirst, hnext⟩ : Later (fun _ => False) (fun _ => False) t
          (if (t.get? (l.step name)).isSome then t else t.put (l.step name) .directory) ∧
        (if (t.get? (l.step name)).isSome then t else t.put (l.step name) .directory).get?
          (l.step name) = some .directory := by
      cases hget : t.get? (l.step name) with
      | none =>
        have hname : name ≠ ".." := by
          rintro rfl
          rw [Location.step, if_pos rfl] at hget
          rcases List.eq_nil_or_concat l with rfl | ⟨k, last, rfl⟩
          · cases hget
          · rw [List.concat_eq_append] at hl hget
            rw [List.dropLast_concat, hs.inside k last (by rw [hl]; rfl)] at hget
            cases hget
        rw [Location.step, if_neg hname] at hget ⊢
        refine ⟨.put_directory hs hl hget, ?_⟩
        exact (get?_put t _ _ _ (by simp)).trans (if_pos rfl)
      | some e =>
        refine ⟨.refl t, ?_⟩
        cases e with
        | file c => exact absurd hget (hfree c)
        | directory => exact hget
    have hrest := fileOnWay_none (fun l c => hfirst.old l c id) hway
    obtain ⟨hlater, hreach⟩ := ih (hfirst.sound hs) hnext hrest
    refine ⟨hfirst.trans hlater, ?_⟩
    rw [reach, addDirectories, (hfirst.trans hlater).directory l hl]
    exact hreach

/-- Directories that are there are not made again. -/
theorem addDirectories_there {parts : List String} (h : t.reach l parts = .ok .directory) :
    t.addDirectories l parts = t := by
  induction parts generalizing l with
  | nil => rfl
  | cons name rest ih =>
    unfold reach at h
    split at h
    · cases h
    · cases h
    · have hthere : (t.get? (l.step name)).isSome = true := by
        cases rest <;> unfold reach at h <;> split at h <;> simp_all
      rw [addDirectories, if_pos hthere]
      exact ih h

/-- Nothing stands below what is not there. -/
theorem Sound.fileOnWay_below (hs : t.Sound) {passed parts : List String} (hparts : ".." ∉ parts)
    (hl : t.get? l = none) : t.fileOnWay l passed parts = none := by
  induction parts generalizing l passed with
  | nil => rfl
  | cons name rest ih =>
    obtain ⟨hname, hrest⟩ := List.ne_and_not_mem_of_not_mem_cons hparts
    have hfree : t.get? (l ++ [name]) = none := by
      cases hget : t.get? (l ++ [name]) with
      | none => rfl
      | some e =>
        rw [hs.inside l name (by rw [hget]; rfl)] at hl
        cases hl
    rw [fileOnWay, Location.step, if_neg (Ne.symm hname), hfree]
    exact ih hrest hfree

/-- A path without two dots that ends nowhere meets no file. -/
theorem Sound.fileOnWay_missing (hs : t.Sound) {passed parts : List String} (hparts : ".." ∉ parts)
    (h : t.reach l parts = .error .missing) : t.fileOnWay l passed parts = none := by
  induction parts generalizing l passed with
  | nil => rfl
  | cons name rest ih =>
    obtain ⟨hname, hrest⟩ := List.ne_and_not_mem_of_not_mem_cons hparts
    unfold FileTree.reach at h
    split at h
    · next hl => exact hs.fileOnWay_below hparts hl
    · cases h
    · unfold fileOnWay
      split
      · next c hfile => cases rest <;> simp [FileTree.reach, hfile] at h
      · exact ih hrest h

/-- From a directory, a path without two dots that leads to another one meets no file; the first file
that a path to a file meets is that file, and a path that leads nowhere because of a file has met one
before its end. -/
theorem fileOnWay_reach (passed : List String) {parts : List String} (hparts : ".." ∉ parts)
    (hl : t.get? l = some .directory) :
    (t.reach l parts = .ok .directory → t.fileOnWay l passed parts = none) ∧
      (∀ c, t.reach l parts = .ok (.file c) → t.fileOnWay l passed parts = some (passed ++ parts)) ∧
      (t.reach l parts = .error .notDirectory →
        ∃ found, t.fileOnWay l passed parts = some found ∧ found ≠ passed ++ parts) := by
  induction parts generalizing l passed with
  | nil => simp [FileTree.reach, fileOnWay, hl]
  | cons name rest ih =>
    obtain ⟨hname, hrest⟩ := List.ne_and_not_mem_of_not_mem_cons hparts
    rw [FileTree.reach, hl, fileOnWay, Location.step, if_neg (Ne.symm hname)]
    dsimp only
    cases hget : t.get? (l ++ [name]) with
    | none => cases rest <;> simp [FileTree.reach, hget]
    | some e =>
      cases e with
      | file c => cases rest <;> simp [FileTree.reach, hget]
      | directory =>
        obtain ⟨hdirectory, hfile, hnone⟩ := ih (passed ++ [name]) hrest hget
        rw [List.append_assoc] at hfile hnone
        exact ⟨hdirectory, hfile, hnone⟩

/-- The first file on the way depends only on the files that stand on it. -/
theorem fileOnWay_congr (passed : List String) {parts : List String} (hparts : ".." ∉ parts)
    (h : ∀ k, k <+: parts → ∀ c, t'.get? (l ++ k) = some (.file c) ↔ t.get? (l ++ k) = some (.file c)) :
    t'.fileOnWay l passed parts = t.fileOnWay l passed parts := by
  induction parts generalizing l passed with
  | nil => rfl
  | cons name rest ih =>
    obtain ⟨hname, hrest⟩ := List.ne_and_not_mem_of_not_mem_cons hparts
    have hstep := h [name] (by simp)
    have hmore := ih (l := l ++ [name]) (passed ++ [name]) hrest fun k hk c => by
      have hlong := h (name :: k) ((List.prefix_cons_inj name).mpr hk) c
      rwa [List.append_cons] at hlong
    rw [fileOnWay, fileOnWay, Location.step, if_neg (Ne.symm hname)]
    split
    · next c hfile => rw [(hstep c).mp hfile]
    · next hfree =>
      split
      · next c hfile => exact absurd ((hstep c).mpr hfile) (hfree c)
      · exact hmore

/-- The first file on the way of a path without two dots stands behind directories. -/
theorem fileOnWay_some {passed parts found : List String} (hparts : ".." ∉ parts)
    (h : t.fileOnWay l passed parts = some found) :
    ∃ before name c, found = passed ++ before ++ [name] ∧ ".." ∉ before ∧
      t.get? (l ++ before ++ [name]) = some (.file c) := by
  induction parts generalizing l passed with
  | nil => cases h
  | cons name rest ih =>
    obtain ⟨hname, hrest⟩ := List.ne_and_not_mem_of_not_mem_cons hparts
    unfold fileOnWay at h
    rw [Location.step, if_neg (Ne.symm hname)] at h
    split at h
    · next c hfile =>
      cases h
      exact ⟨[], name, c, by simp, List.not_mem_nil, by simpa using hfile⟩
    · obtain ⟨before, last, c, rfl, hbefore, hfile⟩ := ih hrest h
      refine ⟨name :: before, last, c, by simp, ?_, by simpa using hfile⟩
      rw [List.mem_cons, not_or]
      exact ⟨hname, hbefore⟩

/-- Where making directories fails on a path without two dots, nothing was made. -/
theorem Sound.begunDirectories (hs : t.Sound) (hl : ".." ∉ l) :
    t.begunDirectories (Location.path l) = t := by
  unfold FileTree.begunDirectories
  split
  · rfl
  · next found hfound =>
    obtain ⟨before, name, c, rfl, hbefore, hfile⟩ := fileOnWay_some hl hfound
    rw [List.nil_append, List.dropLast_concat]
    refine addDirectories_there (hs.reach hbefore ?_)
    exact hs.inside _ name (by rw [hfile]; rfl)

/-- Before the first file on the way there is none. -/
theorem fileOnWay_before {passed parts found : List String}
    (h : t.fileOnWay l passed parts = some found) :
    ∃ before name, found = passed ++ before ++ [name] ∧
      ∀ others, t.fileOnWay l others before = none := by
  induction parts generalizing l passed with
  | nil => cases h
  | cons name rest ih =>
    unfold fileOnWay at h
    split at h
    · cases h
      exact ⟨[], name, by simp, fun _ => rfl⟩
    · next hfree =>
      obtain ⟨before, last, rfl, hbefore⟩ := ih h
      refine ⟨name :: before, last, by simp, fun others => ?_⟩
      unfold fileOnWay
      split
      · next c hc => exact absurd hc (hfree c)
      · exact hbefore _

theorem Sound.get?_start (hs : t.Sound) (p : FilePath) : t.get? (t.start p) = some .directory := by
  unfold FileTree.start
  split
  · rfl
  · exact hs.start

/-- Where making directories fails, no more than directories are new. -/
theorem begunDirectories_later (hs : t.Sound) (p : FilePath) :
    Later (fun _ => False) (fun _ => False) t (t.begunDirectories p) := by
  unfold FileTree.begunDirectories
  split
  · exact .refl t
  · next found hfound =>
    obtain ⟨before, name, rfl, hbefore⟩ := fileOnWay_before hfound
    rw [List.nil_append, List.dropLast_concat]
    exact (addDirectories_spec hs (hs.get?_start p) (hbefore [])).1

/-- After directories were made, the path leads to one, and whatever was is there. -/
theorem makeDirectories_ok (hs : t.Sound) {p : FilePath} (h : t.makeDirectories p = .ok t') :
    Later (fun _ => False) (fun _ => False) t t' ∧ t'.look p = .ok .directory := by
  unfold makeDirectories at h
  split at h
  · next hlook =>
    cases h
    exact ⟨.refl t, hlook⟩
  · cases h
  · split at h
    · next hway =>
      cases h
      obtain ⟨hlater, hreach⟩ := addDirectories_spec hs (hs.get?_start p) hway
      refine ⟨hlater, ?_⟩
      rw [look, hlater.start]
      exact hreach
    · cases h
  · cases h

theorem makeDirectories_there {p : FilePath} (h : t.look p = .ok .directory) :
    t.makeDirectories p = .ok t := by
  unfold makeDirectories
  rw [h]

theorem reach_error {parts : List String} {cause : FileCause} (h : t.reach l parts = .error cause) :
    cause = .missing ∨ cause = .notDirectory := by
  induction parts generalizing l with
  | nil =>
    unfold reach at h
    split at h <;> simp_all
  | cons name rest ih =>
    unfold reach at h
    split at h
    · simp_all
    · simp_all
    · exact ih h

/-- Why directories are not made on a path without two dots. -/
theorem Sound.makeDirectories_refused (hs : t.Sound) (hl : ".." ∉ l) (f : FileFault) :
    t.makeDirectories (Location.path l) = .error f ↔
      (∃ c, t.look (Location.path l) = .ok (.file c)) ∧ f = .about .taken (Location.text l) ∨
        t.look (Location.path l) = .error .notDirectory ∧
          f = .about .notDirectory (Location.text l) := by
  unfold makeDirectories
  cases hlook : t.look (Location.path l) with
  | ok e =>
    cases e with
    | file c => simp [Location.text, eq_comm]
    | directory => simp
  | error cause =>
    rcases reach_error hlook with rfl | rfl
    · have hway : t.fileOnWay [] [] l = none := hs.fileOnWay_missing hl hlook
      rw [show t.start (Location.path l) = [] from rfl, show (Location.path l).parts = l from rfl]
      simp [hway]
    · simp [Location.text, eq_comm]

/-- Where a file stands in the way of directories, it stands there later. -/
theorem Later.makeDirectories_refused {written removed : Location → Prop} (hs : t.Sound)
    (h : Later written removed t t') (hl : ".." ∉ l) (hremoved : ∀ k, k <+: l → ¬ removed k)
    {f : FileFault} (hf : t.makeDirectories (Location.path l) = .error f) :
    t'.makeDirectories (Location.path l) = .error f := by
  rw [hs.makeDirectories_refused hl] at hf
  rw [(h.sound hs).makeDirectories_refused hl]
  rcases hf with ⟨⟨c, hlook⟩, hf⟩ | ⟨hlook, hf⟩
  · obtain ⟨c', hfile⟩ := h.file l c (hremoved l List.prefix_rfl) ((hs.look_iff hl).mp hlook)
    exact .inl ⟨⟨c', ((h.sound hs).look_iff hl).mpr hfile⟩, hf⟩
  · exact .inr ⟨h.reach_notDirectory hl (fun k hk _ => hremoved k hk) hlook, hf⟩

end FileTree

end FluentBuilders
