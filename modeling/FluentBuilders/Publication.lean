import FluentBuilders.Declaration
import FluentBuilders.Failure
import FluentBuilders.FileTree.AtomicWrite
import FluentBuilders.Profile

/-!
Builders on disk.

1. `artifactPath`: where the module of a builder goes.
2. `readText`, `startsGenerated`: what stands there already.
3. `publish` writes a builder unless its text is there; `compare` only tells whether it would.
-/

namespace FluentBuilders

open Text

/-! ## 1. Places -/

/-- The file of a module below a directory. -/
def artifactPath (root : FilePath) (module : String) : FilePath :=
  let parts := dottedParts module
  (parts.dropLast ++ [parts.getLast?.getD "" ++ ".py"]).foldl FilePath.child root

/-! ## 2. What is there -/

namespace FileTree

/-- The text of a file; its lines end in line feeds, however the file ends them. -/
def readText (t : FileTree) (p : FilePath) : Except Failure String :=
  match t.readBytes p with
  | .error fault => .error (.fileSystem fault)
  | .ok content =>
    match decode? content with
    | .error e => .error (.undecodable e)
    | .ok s => .ok (unifyLines s)

/-- Whether a content starts as builders do. -/
def startsGenerated (content : Bytes) : Bool := (encode generatedHeader).isPrefixOf content

/-- Whether a path leads to a file that starts as builders do. -/
def isGenerated (t : FileTree) (p : FilePath) : Bool :=
  match t.readBytes p with
  | .ok content => startsGenerated content
  | .error _ => false

end FileTree

/-! ## 3. Publishing -/

/-- Where an artifact is, and whether that is news. -/
structure Published where
  path : String
  changed : Bool
  deriving DecidableEq, Repr, Inhabited

/-- Why an artifact was not published. -/
inductive PublishFault
  /-- Its destination refused; other artifacts are not concerned. -/
  | refused (f : WriteFailure)
  /-- The run cannot go on. -/
  | aborted (e : Failure)
  deriving DecidableEq, Repr, Inhabited

/-- A failure at the destination `p`: what the file system says is a refusal. -/
def PublishFault.ofFailure (p : FilePath) (e : Failure) : PublishFault :=
  match e with
  | .fileSystem fault => .refused ⟨p.text, fault.message⟩
  | other => .aborted other

/-- The text at a destination, if there is a file. -/
def currentText (t : FileTree) (p : FilePath) : Except PublishFault (Option String) :=
  if t.isFile p then
    match t.readText p with
    | .ok s => .ok (some s)
    | .error e => .error (.ofFailure p e)
  else .ok none

/-- Writes an artifact below a directory, unless its text is there. -/
def publish (root : FilePath) (a : Artifact) (t : FileTree) :
    Except PublishFault Published × FileTree :=
  let p := artifactPath root a.module
  match currentText t p with
  | .error fault => (.error fault, t)
  | .ok current =>
    if current = some a.text then (.ok ⟨p.text, false⟩, t)
    else
      match t.write p (encode a.text) with
      | (some fault, t) => (.error (.refused ⟨p.text, fault.message⟩), t)
      | (none, t) => (.ok ⟨p.text, true⟩, t)

/-- Tells whether publishing an artifact would change its file. -/
def compare (root : FilePath) (a : Artifact) (t : FileTree) :
    Except PublishFault Published × FileTree :=
  let p := artifactPath root a.module
  match currentText t p with
  | .error fault => (.error fault, t)
  | .ok current => (.ok ⟨p.text, decide (current ≠ some a.text)⟩, t)

end FluentBuilders
