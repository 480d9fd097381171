import FluentBuilders.Text.Quoted

/-!
Why the file system refuses, with the words in which it says so.
-/

namespace FluentBuilders

open Text

/-- Why the file system refuses. -/
inductive FileCause
  /-- There is no such file, or no directory that it could be in. -/
  | missing
  /-- Something stands where a directory is to be made. -/
  | taken
  /-- A file stands where the path needs a directory. -/
  | notDirectory
  /-- A directory stands where a file is needed. -/
  | isDirectory
  deriving DecidableEq, Repr, Inhabited

/-- The number of the cause. -/
def FileCause.number : FileCause → Nat
  | missing => 2
  | taken => 17
  | notDirectory => 20
  | isDirectory => 21

/-- The cause in words. -/
def FileCause.words : FileCause → String
  | missing => "No such file or directory"
  | taken => "File exists"
  | notDirectory => "Not a directory"
  | isDirectory => "Is a directory"

/-- A refusal, with the path it is about and, for a file to be moved, where it was to go. -/
structure FileFault where
  cause : FileCause
  path : String
  target : Option String
  deriving DecidableEq, Repr, Inhabited

/-- A refusal about one path. -/
def FileFault.about (cause : FileCause) (path : String) : FileFault := ⟨cause, path, none⟩

/-- The refusal in words. -/
def FileFault.message (f : FileFault) : String :=
  "[Errno " ++ toString f.cause.number ++ "] " ++ f.cause.words ++ ": " ++ quoted f.path ++
    match f.target with
    | none => ""
    | some target => " -> " ++ quoted target

end FluentBuilders
