import FluentBuilders.FileTree

/-!
Writing a file so that nobody ever sees half of it: the content goes into a new file beside the
target, and that file then takes the target's place.

1. `temporary`: a name that no file has.
2. `Stage`, `Interruption`: the steps, and a failure at one of them.
3. `AtomicWrite.run`: the trees that can be seen on the way, and how it ended.
-/

namespace FluentBuilders

open Text

/-! ## 1. The temporary file -/

/-- The decimal digits of a number, at least eight of them. -/
def stamp (n : Nat) : String :=
  let digits := (toString n).toList
  String.ofList (List.replicate (8 - digits.length) '0' ++ digits)

namespace FileTree

/-- The `n`th name for a temporary file beside a target. -/
def temporaryName (target : FilePath) (n : Nat) : String :=
  "." ++ target.name ++ "." ++ stamp n ++ ".tmp"

/-- The location of the first temporary file that does not exist, of `fuel` from the `n`th on. -/
def temporaryFrom (t : FileTree) (target : FilePath) : Nat → Nat → Location
  | 0, n => t.locate target.parent ++ [temporaryName target n]
  | fuel + 1, n =>
    let l := t.locate target.parent ++ [temporaryName target n]
    if (t.get? l).isSome then temporaryFrom t target fuel (n + 1) else l

/-- A location beside the target that no file has. -/
def temporary (t : FileTree) (target : FilePath) : Location :=
  t.temporaryFrom target (t.entries.length + 1) 0

end FileTree

/-! ## 2. Steps -/

/-- The steps of writing a file. -/
inductive Stage
  | parents
  | create
  | opening
  | write
  | flush
  | sync
  | replace
  deriving DecidableEq, Repr, Inhabited

/-- A failure at a step. -/
structure Interruption where
  stage : Stage
  /-- How far the step had come: directories made, or bytes written. -/
  progress : Nat
  fault : FileFault
  deriving DecidableEq, Repr, Inhabited

/-! ## 3. The whole write -/

/-- How a write went. -/
structure AtomicWrite where
  /-- The trees that could be seen after each step, in order. -/
  seen : List FileTree
  /-- The tree in the end. -/
  tree : FileTree
  fault? : Option FileFault
  deriving Repr, Inhabited

namespace AtomicWrite

/-- The failure that is to happen at a step. -/
def failing (stop : Option Interruption) (s : Stage) : Option Interruption :=
  stop.filter fun i => i.stage = s

/-- Gives up after the trees `seen`: the temporary file is removed from the last of them. -/
def abandon (temporary : Location) (seen : List FileTree) (last : FileTree) (fault : FileFault) :
    AtomicWrite :=
  let clean := last.erase temporary
  ⟨seen ++ [last, clean], clean, some fault⟩

/-- Puts the finished temporary file into the place of the target. -/
def moveInto (target : FilePath) (content : Bytes) (temporary : Location) (seen : List FileTree)
    (full : FileTree) : AtomicWrite :=
  if full.isDirectory target then
    abandon temporary seen full ⟨.isDirectory, temporary.text, some target.text⟩
  else
    let done := (full.erase temporary).put (full.locate target) (.file content)
    ⟨seen ++ [full, done], done, none⟩

/-- Fills the temporary file, which exists in `created`, and moves it. -/
def fill (stop : Option Interruption) (target : FilePath) (content : Bytes) (temporary : Location)
    (seen : List FileTree) (created : FileTree) : AtomicWrite :=
  match failing stop .opening with
  | some i => abandon temporary seen created i.fault
  | none =>
    match failing stop .write with
    | some i =>
      abandon temporary (seen ++ [created])
        (created.put temporary (.file (content.take i.progress))) i.fault
    | none =>
      let full := created.put temporary (.file content)
      match failing stop .flush, failing stop .sync, failing stop .replace with
      | some i, _, _ | none, some i, _ | none, none, some i =>
        abandon temporary (seen ++ [created]) full i.fault
      | none, none, none => moveInto target content temporary (seen ++ [created]) full

/-- Writes a file, with a failure at one step where `stop` says so. -/
def run (stop : Option Interruption) (t : FileTree) (target : FilePath) (content : Bytes) :
    AtomicWrite :=
  match t.makeDirectories target.parent with
  | .error fault =>
    let begun := t.begunDirectories target.parent
    ⟨[t, begun], begun, some fault⟩
  | .ok ready =>
    match failing stop .parents with
    | some i =>
      let begun :=
        t.addDirectories (t.start target.parent) (target.parent.parts.take i.progress)
      ⟨[t, begun], begun, some i.fault⟩
    | none =>
      match failing stop .create with
      | some i => ⟨[t, ready], ready, some i.fault⟩
      | none =>
        let temporary := ready.temporary target
        fill stop target content temporary [t, ready] (ready.put temporary (.file []))

end AtomicWrite

/-- Writes a file: the tree in the end, or why it could not be written. -/
def FileTree.write (t : FileTree) (target : FilePath) (content : Bytes) :
    Option FileFault × FileTree :=
  let w := AtomicWrite.run none t target content
  (w.fault?, w.tree)

end FluentBuilders
