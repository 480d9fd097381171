import FluentBuilders.FileTree.FilePath
import FluentBuilders.FileTree.Fault
import FluentBuilders.Text.Utf8

/-!
File systems as values.

1. `Entry`, `FileTree`: what stands at each location.
2. Looking: what a path leads to, or why it leads nowhere.
3. Changing: putting, erasing, making directories.
4. Reading files.
5. What a change does to look-ups.
-/

namespace FluentBuilders

open Text

/-! ## 1. Trees -/

/-- A file with its content, or a directory. -/
inductive Entry
  | file (content : Bytes)
  | directory
  deriving DecidableEq, Repr, Inhabited

/-- A file system: the entry at each location, and the directory where relative paths start. The top
is always a directory. -/
structure FileTree where
  entries : List (Location × Entry)
  here : Location
  deriving Repr, Inhabited

namespace FileTree

/-- The tree without entries. -/
def empty : FileTree := ⟨[], []⟩

/-! ## 2. Looking -/

/-- The entry of a location in a list: the first one counts. -/
def find (l : Location) : List (Location × Entry) → Option Entry
  | [] => none
  | (k, e) :: rest => if k = l then some e else find l rest

/-- The entry at a location. -/
def get? (t : FileTree) (l : Location) : Option Entry :=
  if l = [] then some .directory else find l t.entries

/-- The location where a path starts. -/
def start (t : FileTree) (p : FilePath) : Location := if p.absolute then [] else t.here

/-- Where a path leads. -/
def locate (t : FileTree) (p : FilePath) : Location := (t.start p).follow p.parts

/-- The entry that is reached from the location `before` over directories by further parts, of which
two dots lead back one step. -/
def reach (t : FileTree) (before : Location) : List String → Except FileCause Entry
  | [] =>
    match t.get? before with
    | none => .error .missing
    | some e => .ok e
  | name :: rest =>
    match t.get? before with
    | none => .error .missing
    | some (.file _) => .error .notDirectory
    | some .directory => reach t (before.step name) rest

/-- The entry that a path leads to, or why it leads nowhere. -/
def look (t : FileTree) (p : FilePath) : Except FileCause Entry := t.reach (t.start p) p.parts

/-- Whether a path leads to a file. -/
def isFile (t : FileTree) (p : FilePath) : Bool :=
  match t.look p with
  | .ok (.file _) => true
  | _ => false

/-- Whether a path leads to a directory. -/
def isDirectory (t : FileTree) (p : FilePath) : Bool :=
  match t.look p with
  | .ok .directory => true
  | _ => false

/-- A path from the top. -/
def resolve (t : FileTree) (p : FilePath) : FilePath := Location.path (t.locate p)

/-! ## 3. Changing -/

/-- Puts an entry into a list, in the place of the one that its location had. -/
def place (l : Location) (e : Entry) : List (Location × Entry) → List (Location × Entry)
  | [] => [(l, e)]
  | (k, old) :: rest => if k = l then (k, e) :: rest else (k, old) :: place l e rest

/-- The tree with an entry at a location. -/
def put (t : FileTree) (l : Location) (e : Entry) : FileTree :=
  { t with entries := place l e t.entries }

/-- The tree without the entry of a location. -/
def erase (t : FileTree) (l : Location) : FileTree :=
  { t with entries := t.entries.filter fun (k, _) => k != l }

/-- The tree without all that lies at a location or below it. -/
def eraseAll (t : FileTree) (l : Location) : FileTree :=
  { t with entries := t.entries.filter fun (k, _) => !k.isWithin l }

/-- The tree with directories at each missing step from `before` over further parts. -/
def addDirectories (t : FileTree) (before : Location) : List String → FileTree
  | [] => t
  | name :: rest =>
    let l := before.step name
    addDirectories (if (t.get? l).isSome then t else t.put l .directory) l rest

/-- The parts of a path up to the first file that a step from `before` leads to; `passed` are the
parts before. -/
def fileOnWay (t : FileTree) (before : Location) (passed : List String) :
    List String → Option (List String)
  | [] => none
  | name :: rest =>
    match t.get? (before.step name) with
    | some (.file _) => some (passed ++ [name])
    | _ => fileOnWay t (before.step name) (passed ++ [name]) rest

/-- The tree with a directory at a path and all those it lies in. A file that stands behind a missing
directory and two dots is met on the way. -/
def makeDirectories (t : FileTree) (p : FilePath) : Except FileFault FileTree :=
  match t.look p with
  | .ok .directory => .ok t
  | .ok (.file _) => .error (.about .taken p.text)
  | .error .missing =>
    match t.fileOnWay (t.start p) [] p.parts with
    | none => .ok (t.addDirectories (t.start p) p.parts)
    | some passed => .error (.about .taken (FilePath.text ⟨p.absolute, passed⟩))
  | .error cause => .error (.about cause p.text)

/-- The tree once making a directory at a path has failed: the directories before the first file on
the way are there. -/
def begunDirectories (t : FileTree) (p : FilePath) : FileTree :=
  match t.fileOnWay (t.start p) [] p.parts with
  | none => t
  | some passed => t.addDirectories (t.start p) passed.dropLast

/-! ## 4. Reading -/

/-- The content of a file. -/
def readBytes (t : FileTree) (p : FilePath) : Except FileFault Bytes :=
  match t.look p with
  | .ok (.file content) => .ok content
  | .ok .directory => .error (.about .isDirectory p.text)
  | .error cause => .error (.about cause p.text)

/-- The locations below another one, with their entries. -/
def below (t : FileTree) (l : Location) : List (Location × Entry) :=
  t.entries.filter fun (k, _) => k.isWithin l && k != l

/-! ## 5. Look-ups after a change -/

theorem find_place (l k : Location) (e : Entry) (es : List (Location × Entry)) :
    find k (place l e es) = if l = k then some e else find k es := by
  induction es with
  | nil => simp [place, find]
  | cons x rest ih =>
    obtain ⟨m, old⟩ := x
    by_cases hm : m = l
    · subst hm
      by_cases hk : m = k <;> simp [place, find, hk]
    · by_cases hk : m = k
      · subst hk
        simp [place, find, hm, Ne.symm hm]
      · simp [place, find, hm, hk, ih]

/-- A change is seen at its location and nowhere else. -/
theorem get?_put (t : FileTree) (l k : Location) (e : Entry) (hl : l ≠ []) :
    (t.put l e).get? k = if l = k then some e else t.get? k := by
  by_cases hk : k = []
  · subst hk
    simp [get?, hl]
  · simp [get?, hk, put, find_place]

theorem find_erase (l k : Location) (es : List (Location × Entry)) :
    find k (es.filter fun (m, _) => m != l) = if l = k then none else find k es := by
  induction es with
  | nil => simp [find]
  | cons x rest ih =>
    obtain ⟨m, e⟩ := x
    by_cases hm : m = l
    · subst hm
      by_cases hk : m = k <;> simp_all [find]
    · by_cases hk : m = k
      · subst hk
        simp [find, hm, Ne.symm hm]
      · simp [find, hm, hk, ih]

/-- An erased entry is gone, and nothing else is. -/
theorem get?_erase (t : FileTree) (l k : Location) (hl : l ≠ []) :
    (t.erase l).get? k = if l = k then none else t.get? k := by
  by_cases hk : k = []
  · subst hk
    simp [get?, hl]
  · simp [get?, hk, erase, find_erase]

end FileTree

end FluentBuilders
