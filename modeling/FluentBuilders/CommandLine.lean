import FluentBuilders.Generation

/-!
The command line.

1. The options, by their spellings.
2. Words of the command line: which of them are options. A long option may be cut short as long as it
   stays the only one that starts so, and short options may stand in one word.
3. `Command.read`: the options and the one argument.
4. `Command.run`: the run that they ask for, with what is printed.
-/

namespace FluentBuilders

open Text

namespace CommandLine

/-! ## 1. Options -/

/-- What an option is about. -/
inductive OptionName
  | help
  | output
  | reports
  | check
  | jobs
  | verbose
  deriving DecidableEq, Repr, Inhabited

/-- The spellings of the options. -/
def spellings : List (String × OptionName) :=
  [("-h", .help), ("--help", .help), ("-o", .output), ("--output-dir", .output),
    ("--report-dir", .reports), ("--check", .check), ("-j", .jobs), ("--jobs", .jobs),
    ("-v", .verbose), ("--verbose", .verbose)]

/-- The option with exactly this spelling. -/
def exactly? (word : String) : Option OptionName :=
  (spellings.find? fun (spelling, _) => spelling == word).map (·.2)

/-- Whether a value belongs to the option. -/
def OptionName.takesValue : OptionName → Bool
  | .output | .reports | .jobs => true
  | .help | .check | .verbose => false

/-! ## 2. Words -/

/-- What a word of the command line is. -/
inductive Word
  | argument (s : String)
  /-- An option that is spelled with one dash, and what follows it in the same word. -/
  | short (name : OptionName) (tail : List Char)
  /-- An option that is spelled with two dashes, and a value in the same word. -/
  | long (name : OptionName) (value : Option String)
  /-- Two dashes, after which nothing is an option. -/
  | terminator
  /-- A word that looks like an option and is none. -/
  | unknown
  deriving DecidableEq, Repr, Inhabited

/-- The part of a word before its first equals sign, and the part after it. -/
def splitEquals (word : String) : String × Option String :=
  let cs := word.toList
  (String.ofList (cs.takeWhile (· ≠ '=')),
    if cs.contains '=' then some (String.ofList ((cs.dropWhile (· ≠ '=')).drop 1)) else none)

/-- The options whose spellings start so. -/
def abbreviated (start : String) : List OptionName :=
  (spellings.filter fun (spelling, _) => start.toList.isPrefixOf spelling.toList).map (·.2)

/-- What a word is that starts with two dashes, if it is an option; none if it could be several. -/
def classifyLong (word : String) : Option (Option Word) :=
  let (start, value) := splitEquals word
  match exactly? start, abbreviated start with
  | some name, _ | none, [name] => some (some (.long name value))
  | none, [] => some none
  | none, _ :: _ :: _ => none

/-- Whether a word is a negative number, which is no option. -/
def isNegativeNumber (word : String) : Bool :=
  let isDigit (c : Char) : Bool := (digitValue? c).isSome
  match word.toList with
  | '-' :: rest =>
    let whole := rest.takeWhile isDigit
    match rest.dropWhile isDigit with
    | [] => !whole.isEmpty
    | '.' :: fraction => !fraction.isEmpty && fraction.all isDigit
    | _ => false
  | _ => false

/-- What a word is that looks like an option and is none. -/
def classifyOther (word : String) : Word :=
  if isNegativeNumber word || word.toList.contains ' ' then .argument word else .unknown

/-- What a word is, unless it could be several options. -/
def classify (word : String) : Option Word :=
  match word.toList with
  | '-' :: '-' :: _ => (classifyLong word).map fun found => found.getD (classifyOther word)
  | '-' :: letter :: tail =>
    match exactly? (String.ofList ['-', letter]) with
    | some name => some (.short name tail)
    | none => some (classifyOther word)
  | _ => some (.argument word)

/-- The words of a command line, unless one of them could be several options. -/
def classifyAll : List String → Option (List Word)
  | [] => some []
  | word :: rest =>
    if word = "--" then some (.terminator :: rest.map .argument)
    else
      match classify word, classifyAll rest with
      | some w, some ws => some (w :: ws)
      | _, _ => none

/-! ## 3. Commands -/

/-- What a command line asks for. -/
structure Command where
  sourceRoot : Option String
  output : Option String
  reports : Option String
  check : Bool
  jobs : Int
  verbose : Bool
  deriving DecidableEq, Repr, Inhabited

/-- A command line that asks for nothing yet. -/
def Command.empty : Command := ⟨none, none, none, false, 1, false⟩

/-- What ends the reading of a command line early. -/
inductive Halt
  /-- A request for help. -/
  | help
  /-- A wrong command line. -/
  | usage
  deriving DecidableEq, Repr, Inhabited

/-- The command after an option; of those without a value the text says nothing. -/
def Command.take (c : Command) (name : OptionName) (value : String) : Except Halt Command :=
  match name with
  | .help => .error .help
  | .check => .ok { c with check := true }
  | .verbose => .ok { c with verbose := true }
  | .output => .ok { c with output := some value }
  | .reports => .ok { c with reports := some value }
  | .jobs =>
    match readInteger value with
    | some n => .ok { c with jobs := n }
    | none => .error .usage

/-- The command after several options. -/
def Command.takeAll (c : Command) : List (OptionName × String) → Except Halt Command
  | [] => .ok c
  | (name, value) :: rest =>
    match c.take name value with
    | .ok c => takeAll c rest
    | .error halt => .error halt

/-- The options of one word. -/
structure Cluster where
  /-- The options, with the values that they have in the word. -/
  options : List (OptionName × String)
  /-- A last option whose value is the next word. -/
  waiting : Option OptionName
  /-- Whether something is left that is no option. -/
  surplus : Bool

/-- A word with one option without a value. -/
def Cluster.alone (name : OptionName) : Cluster :=
  if name.takesValue then ⟨[], some name, false⟩ else ⟨[(name, "")], none, false⟩

/-- A word with one option and its value. -/
def Cluster.valued (name : OptionName) (value : String) : Cluster := ⟨[(name, value)], none, false⟩

/-- The options of a word from the short option `name` on, unless a value follows one that takes
none. -/
def Cluster.ofShort? (name : OptionName) : List Char → Option Cluster
  | [] => some (alone name)
  | c :: rest =>
    if name.takesValue then
      some (valued name (String.ofList (if c = '=' then rest else c :: rest)))
    else if c = '=' || c = '-' then none
    else
      match exactly? (String.ofList ['-', c]) with
      | none => some ⟨[(name, "")], none, true⟩
      | some other =>
        (ofShort? other rest).map fun found => { found with options := (name, "") :: found.options }

/-- The option of a word, unless there is a value and it takes none. -/
def Cluster.ofLong? (name : OptionName) : Option String → Option Cluster
  | none => some (alone name)
  | some value => if name.takesValue then some (valued name value) else none

/-- All options of a word with their values, where `next` is the word after it. None if a value is
missing. -/
def Cluster.settled? (found : Cluster) (next : Option Word) : Option (List (OptionName × String)) :=
  match found.waiting, next with
  | none, _ => some found.options
  | some name, some (.argument value) => some (found.options ++ [(name, value)])
  | some _, _ => none

/-- Where reading stands between two words. -/
structure Progress where
  command : Command
  /-- Whether the word before was the argument. -/
  afterArgument : Bool
  /-- Whether there was a word that nothing takes. -/
  surplus : Bool
  /-- Whether the next word is the value of an option. -/
  taken : Bool

namespace Progress

/-- Before the first word. -/
def start : Progress := ⟨.empty, false, false, false⟩

/-- After a word that nothing takes. -/
def pass (p : Progress) : Progress := ⟨p.command, false, true, false⟩

/-- After an argument. -/
def argument (p : Progress) (s : String) : Progress :=
  if p.taken then ⟨p.command, false, p.surplus, false⟩
  else if p.command.sourceRoot.isNone then
    ⟨{ p.command with sourceRoot := some s }, true, p.surplus, false⟩
  else p.pass

/-- After a word with options, where `next` is the word after it. -/
def options (p : Progress) (found : Option Cluster) (next : Option Word) : Except Halt Progress :=
  match found with
  | none => .error .usage
  | some found =>
    match found.settled? next with
    | none => .error .usage
    | some options =>
      match p.command.takeAll options with
      | .error halt => .error halt
      | .ok c => .ok ⟨c, false, p.surplus || found.surplus, found.waiting.isSome⟩

/-- After one more word, where `next` is the word after it. Two dashes are part of the argument before
or after them. -/
def after (p : Progress) (w : Word) (next : Option Word) : Except Halt Progress :=
  match w with
  | .argument s => .ok (p.argument s)
  | .terminator =>
    if p.afterArgument || p.command.sourceRoot.isNone then
      .ok ⟨p.command, false, p.surplus, false⟩
    else .ok p.pass
  | .unknown => .ok p.pass
  | .short name tail => p.options (Cluster.ofShort? name tail) next
  | .long name value => p.options (Cluster.ofLong? name value) next

/-- After all words: there has to be an argument, and nothing may be left over. -/
def finish (p : Progress) : Except Halt Command :=
  if p.command.sourceRoot.isNone || p.surplus then .error .usage else .ok p.command

end Progress

/-- Reads words one after the other. -/
def readWords (p : Progress) : List Word → Except Halt Command
  | [] => p.finish
  | w :: rest =>
    match p.after w rest.head? with
    | .ok p => readWords p rest
    | .error halt => .error halt

/-- Reads a command line. -/
def read (words : List String) : Except Halt Command :=
  match classifyAll words with
  | none => .error .usage
  | some ws => readWords .start ws

/-! ## 4. Running a command -/

/-- How a command ends: its exit code and the lines that it prints. -/
structure Exit where
  code : Nat
  lines : List String
  deriving DecidableEq, Repr, Inhabited

/-- What a command asks a run to do. -/
def Command.generation (c : Command) (time : String) : Generation.Request where
  sourceRoot := .ofText (c.sourceRoot.getD "")
  outputDirectory := c.output.map .ofText
  reportDirectory := c.reports.map .ofText
  profile := .standard
  check := c.check
  workers := c.jobs
  time := time

/-- The lines about a run. -/
def summary (r : Report) : List String :=
  ["Rounds: " ++ toString r.rounds.length,
    "Declarations: " ++ toString r.counts.total ++
      " (generated=" ++ toString r.counts.generated ++
      ", invalid=" ++ toString r.counts.invalid ++
      ", failed=" ++ toString r.counts.failed ++
      ", unresolved=" ++ toString r.counts.unresolved ++ ")"] ++
  if r.checkOnly then r.staleArtifacts.map ("out of date: " ++ ·)
  else
    ["Written: " ++ toString r.written.length ++ ", unchanged: " ++ toString r.unchanged.length]

/-- Whether a run ended well: nothing failed and nothing is out of date. -/
def succeeded (r : Report) : Bool := r.counts.failed = 0 && (!r.checkOnly || r.staleArtifacts.isEmpty)

/-- Runs a command. -/
def Command.run (c : Command) (time : String) (t : FileTree) : Except Failure Exit × FileTree :=
  let request := c.generation time
  if t.isDirectory request.sourceRoot then
    match Generation.run request (fun _ => false) t with
    | (.error e, t) => (.error e, t)
    | (.ok (report, _), t) => (.ok ⟨if succeeded report then 0 else 1, summary report⟩, t)
  else (.ok ⟨1, []⟩, t)

/-- Runs a command line. A wrong one ends with code two, a request for help with code zero. -/
def run (words : List String) (time : String) (t : FileTree) : Except Failure Exit × FileTree :=
  match read words with
  | .error .usage => (.ok ⟨2, []⟩, t)
  | .error .help => (.ok ⟨0, []⟩, t)
  | .ok c => c.run time t

end CommandLine

end FluentBuilders
