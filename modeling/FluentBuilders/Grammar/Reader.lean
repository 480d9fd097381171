import FluentBuilders.Grammar.Cursor

/-!
Readers: functions from a cursor to a piece of tree and the cursor behind it.

1. `Fragment`: consecutive nodes; `branch` puts them under one node and leaves comments at either
   end outside.
2. `Reader`, its failures, and repetition.
3. Looking at and taking tokens.
4. `Knot`: the readers that call each other through any depth.
-/

namespace FluentBuilders.Grammar

open Text

/-! ## 1. Fragments -/

/-- Consecutive nodes under one parent. -/
abbrev Fragment := List Node

/-- Puts a fragment under one node; what `loose` holds at either end stays outside. -/
def enclose (loose : Node → Bool) (kind : Kind) (fragment : Fragment) : Fragment :=
  let leading := fragment.takeWhile loose
  let others := (fragment.dropWhile loose).reverse
  let trailing := (others.takeWhile loose).reverse
  let inner := (others.dropWhile loose).reverse
  leading ++ .tree kind .none inner :: trailing

/-- Puts a fragment under one node; extras at its ends stay outside. -/
def branch (kind : Kind) (fragment : Fragment) : Fragment := enclose Node.isExtra kind fragment

/-- Puts statements under a block. Lines that could not be read belong to it, comments at its ends do
not. -/
def block (fragment : Fragment) : Fragment :=
  enclose (fun n => n.isExtra && n.kind != .error) .block fragment

/-- The fragment with every node in a role, extras, keywords and marks apart. -/
def Fragment.withRole (role : Role) (fragment : Fragment) : Fragment :=
  fragment.map fun n => if n.isExtra || !n.isNamed then n else n.withRole role

/-- The one node of a fragment that is no extra. -/
def Fragment.sole? (fragment : Fragment) : Option Node :=
  match fragment.filter fun n => !n.isExtra with
  | [n] => some n
  | _ => none

/-- Whether the fragment is a single name. -/
def Fragment.isName (fragment : Fragment) : Bool :=
  match fragment.sole? with
  | some n => n.kind == .identifier
  | none => false

/-! ## 2. Readers -/

/-- Where a reader stopped: the token it could not use and the tokens before it. -/
structure Stuck where
  offset : Nat
  length : Nat
  trail : List (Nat × Nat)
  deriving Repr, Inhabited

/-- A function from a cursor to a value and the cursor behind it. -/
abbrev Reader := StateT Cursor (Except Stuck)

/-- Gives up at a token. -/
def failAt {α : Type} (s : Sight) : Reader α := fun c =>
  .error ⟨s.cursor.offset, s.length, c.trail⟩

/-- Repeats a step until it has nothing to add; `fuel` bounds the number of steps. -/
def repeatFrom {α : Type} (step : α → Reader (Option α)) : Nat → α → Reader α
  | 0, a => pure a
  | fuel + 1, a => do
    match ← step a with
    | none => pure a
    | some b => repeatFrom step fuel b

/-- Repeats a step until it has nothing to add. -/
def repeating {α : Type} (a : α) (step : α → Reader (Option α)) : Reader α := do
  repeatFrom step (← get).budget a

/-- The first reader, or from the same place the second if the first fails. -/
def orElse {α : Type} (p q : Reader α) : Reader α := fun c =>
  match p c with
  | .ok r => .ok r
  | .error _ => q c

/-! ## 3. Tokens -/

/-- The next token where one is needed: line ends do not count. -/
def look : Reader Sight := do return (← get).look false

/-- The next token where the clause may also be over. -/
def lookOn : Reader Sight := do
  let c ← get
  return c.look c.lineBound

/-- Takes a token of `length` characters that was looked at. -/
def takeLength (s : Sight) (kind : Kind) (length : Nat) : Reader Fragment := do
  let before ← get
  match s.supplied with
  | some name =>
    set s.cursor
    return s.extras ++ [.absent name before.position]
  | none =>
    set { s.cursor.advance length with trail := (s.cursor.offset, length) :: before.trail }
    return s.extras ++ [.leaf kind .none s.gap (s.cursor.spell length) s.cursor.position]

/-- Takes a token that was looked at. -/
def take (s : Sight) (kind : Kind) : Reader Fragment := takeLength s kind s.length

/-- Whether the token is the given word. -/
def Sight.isWord (s : Sight) (w : String) : Bool := s.token == .word w

/-- Whether the token is the given mark. -/
def Sight.isMark (s : Sight) (m : String) : Bool := s.token == .mark m

/-- The given word. -/
def word (w : String) : Reader Fragment := do
  let s ← look
  if s.isWord w then take s .keyword else failAt s

/-- The given mark. -/
def mark (m : String) : Reader Fragment := do
  let s ← look
  if s.isMark m then take s .mark else failAt s

/-- A name. -/
def identifier : Reader Fragment := do
  let s ← look
  match s.token with
  | .word w => if w.isEmpty then failAt s else take s .identifier
  | _ => failAt s

/-- What stands between brackets: line ends do not count, and the brackets are part of it. -/
def bracketed (opening closing : String) (inner : Reader Fragment) : Reader Fragment := do
  let first ← mark opening
  modify fun c => { c with brackets := c.brackets + 1 }
  let middle ← inner
  let last ← mark closing
  modify fun c => { c with brackets := c.brackets - 1 }
  return first ++ middle ++ last

/-- A clause with its own rule on line ends. -/
def withEnds (ends : Bool) (p : Reader Fragment) : Reader Fragment := do
  let outer := (← get).ends
  modify fun c => { c with ends := ends }
  let fragment ← p
  modify fun c => { c with ends := outer }
  return fragment

/-- Whether a token can start an expression. -/
def Token.startsExpression : Token → Bool
  | .word w =>
    !(["in", "is", "and", "or", "if", "else", "for", "as", "from", "import", "async"].contains w)
  | .number | .quote => true
  | .mark m => ["(", "[", "\x7b", "-", "+", "~", "*", "..."].contains m
  | _ => false

/-- Items with commas between them, and possibly one after the last; `starts` tells whether an item
follows a comma. The answer tells whether there was a comma. -/
def commaList (starts : Token → Bool) (item : Reader Fragment) : Reader (Fragment × Bool) := do
  let first ← item
  let (all, several, _) ← repeating (first, false, false) fun (sofar, _, ended) => do
    if ended then return none
    let s ← lookOn
    if !s.isMark "," then return none
    let comma ← take s .mark
    let next ← lookOn
    if starts next.token then return some (sofar ++ comma ++ (← item), true, false)
    else return some (sofar ++ comma, true, true)
  return (all, several)

/-! ## 4. Recursion -/

/-- The readers that are called through any depth. -/
structure Knot where
  /-- An expression; the switch allows a condition at its top (`a if b else c`). -/
  expression : Bool → Reader Fragment
  /-- A replacement field of a string, from its opening brace. -/
  interpolation : Reader Fragment
  /-- A statement with its line end. -/
  statement : Reader Fragment

/-- Readers that fail, for texts nested deeper than they are long. -/
def Knot.none : Knot :=
  let give : Reader Fragment := do failAt (← look)
  ⟨fun _ => give, give, give⟩

end FluentBuilders.Grammar
