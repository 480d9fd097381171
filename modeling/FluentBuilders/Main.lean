import FluentBuilders.CommandLine
import FluentBuilders.Text.Timestamp

/-!
The program: what a command needs of the disk becomes a `FileTree`, the command runs on that, and what
it changed goes back to the disk.

1. From the disk to a tree.
2. Back to the disk.
3. The time, and `main`.
-/

open FluentBuilders Text

namespace Program

/-! ## 1. From the disk -/

/-- Whether the content of a file can matter to a run: sources, builders, manifests. -/
def isRead (name : String) : Bool :=
  [".py", ".json"].any fun ending => ending.toList.isSuffixOf name.toList

/-- The content of a file on disk. -/
def readContent (l : Location) : IO Bytes := do
  return (← IO.FS.readBinFile l.text).toList

/-- The tree with what stands at a location on disk and below it. Directories that are reached through
a link are not entered. -/
partial def loadBelow (t : FileTree) (l : Location) : IO FileTree := do
  try
    let real ← IO.FS.realPath l.text
    if ← real.isDir then
      let mut t := t.addDirectories [] l
      if real.toString == l.text || (t.below l).isEmpty && l.isEmpty then
        for e in ← real.readDir do
          t ← loadBelow t (l ++ [e.fileName])
      return t
    else
      let content ← if isRead (l.getLast?.getD "") then readContent l else pure []
      return t.put l (.file content)
  catch _ => return t

/-- All that a list starts with, from nothing to the whole of it. -/
def begins (names : List String) : List (List String) :=
  (List.range (names.length + 1)).map names.take

/-- The tree with the directories that lead to a location on disk, as far as there are any, and all
that stands there. A link on the way counts as the directory it leads to. -/
def loadAt (t : FileTree) (p : FilePath) : IO FileTree := do
  let mut t := t
  let start := t.start p
  let l := t.locate p
  for before in begins start ++ (begins p.parts).map start.follow do
    if before == [] || before == l then continue
    try
      let real ← IO.FS.realPath (Location.text before)
      if (t.get? before).isNone then
        t := t.put before (if ← real.isDir then .directory else .file [])
    catch _ => pure ()
  loadBelow t l

/-- The tree with a file that a manifest names. -/
def loadFile (t : FileTree) (path : String) : IO FileTree := do
  let p := FilePath.ofText path
  if (t.get? (t.locate p)).isSome && isRead p.name then return t
  try
    let real ← IO.FS.realPath path
    if ← real.isDir then return t
    let content ← IO.FS.readBinFile path
    return (t.addDirectories [] (t.locate p).dropLast).put (t.locate p) (.file content.toList)
  catch _ => return t

/-- What a run needs of the disk. -/
def loadFor (r : Generation.Request) (here : Location) : IO FileTree := do
  let mut t : FileTree := ⟨[], here⟩
  t ← loadAt t r.sourceRoot
  t ← loadAt t (r.output t)
  t ← loadAt t (r.reports t)
  match Manifest.load? t ((r.reports t).child Generation.manifestName) with
  | none => return t
  | some m =>
    for e in m.artifacts do
      for f in e.dependencies do
        t ← loadFile t f.path
    return t

/-! ## 2. Back to the disk -/

/-- Writes a file beside its target and moves it there. -/
def writeFile (l : Location) (content : Bytes) : IO Unit := do
  let temporary := (l.dropLast ++ [FileTree.temporaryName (Location.path l) 0] : Location)
  IO.FS.writeBinFile (Location.text temporary) (ByteArray.mk content.toArray)
  IO.FS.rename (Location.text temporary) l.text

/-- Brings what differs between two trees to the disk. -/
def store (before after : FileTree) : IO Unit := do
  for (l, e) in after.entries do
    if before.get? l != some e then
      match e with
      | .directory => IO.FS.createDirAll l.text
      | .file content => writeFile l content
  for (l, e) in before.entries do
    match e, after.get? l with
    | .file _, none => IO.FS.removeFile l.text
    | _, _ => pure ()

/-! ## 3. The program -/

/-- The time, as a new file shows it. -/
def now : IO String := do
  let (_, path) ← IO.FS.createTempFile
  let modified := (← path.metadata).modified
  IO.FS.removeFile path
  return timestamp modified.sec.toNat (modified.nsec.toNat / 1000)

/-- The words after a wrong command line. -/
def usage : String :=
  "usage: builder_gen [-h] [-o OUTPUT_DIR] [--report-dir REPORT_DIR] [--check] [-j JOBS] [-v] source_root"

/-- Runs a command on the disk. -/
def runCommand (c : CommandLine.Command) : IO UInt32 := do
  let here := FilePath.partsOf (← IO.currentDir).toString
  let time ← now
  let before ← loadFor (c.generation time) here
  let (result, after) := c.run time before
  store before after
  match result with
  | .ok e =>
    for line in e.lines do
      IO.println line
    return UInt32.ofNat e.code
  | .error e =>
    IO.eprintln e.message
    return 1

end Program

/-- The command line program. -/
def main (args : List String) : IO UInt32 := do
  match CommandLine.read args with
  | .error .usage =>
    IO.eprintln Program.usage
    return 2
  | .error .help =>
    IO.println Program.usage
    return 0
  | .ok c => Program.runCommand c
