import FluentBuilders.Grammar.Expression
import FluentBuilders.Sorting

/-!
Statements.

1. Imports.
2. Simple statements, and lines of them.
3. Blocks by indentation.
4. Definitions and their parts.
5. Compound statements.
6. Repair: a statement that cannot be read is read with the cheapest change that makes it readable,
   and else its line is passed over.
-/

namespace FluentBuilders.Grammar

open Text

/-! ## 1. Imports -/

/-- A dotted name. -/
def dottedName : Reader Fragment := do
  let first ← identifier
  let all ← repeating first fun sofar => do
    let s ← lookOn
    if s.isMark "." then
      let dot ← take s .mark
      return some (sofar ++ dot ++ (← identifier))
    else return none
  return branch .dottedName all

/-- A dotted name, possibly under another name. -/
def importItem : Reader Fragment := do
  let name ← dottedName
  let s ← lookOn
  if s.isWord "as" then
    let keyword ← take s .keyword
    return branch .aliasedImport
      (name.withRole .name ++ keyword ++ (← identifier).withRole .localName)
  else return name

/-- What may start an item of an import. -/
def Token.startsItem : Token → Bool
  | .word _ => true
  | _ => false

/-- The items of an import. -/
def importItems : Reader Fragment := do
  return (← commaList Token.startsItem importItem).1.withRole .item

/-- The items of an import from a module: all names, or items with or without brackets. -/
def importedNames (wildcard : Bool) : Reader Fragment := do
  let s ← look
  if wildcard && s.isMark "*" then take s .wildcard
  else if s.isMark "(" then bracketed "(" ")" importItems
  else importItems

/-- The dots of a relative import; blanks may stand between them. -/
def importDots : Reader Fragment := do
  let dots ← repeating [] fun sofar => do
    let s ← look
    match s.token with
    | .mark "." => return some (sofar ++ (← take s .mark))
    | .mark "..." => return some (sofar ++ (← takeLength s .mark 1))
    | _ => return none
  return branch .importPrefix dots

/-- `from … import …`. -/
def importFrom (s : Sight) : Reader Fragment := do
  let keyword ← take s .keyword
  let s ← look
  match s.token with
  | .word "__future__" => do
    let future ← take s .keyword
    let next ← word "import"
    return branch .importFuture (keyword ++ future ++ next ++ (← importedNames false))
  | .mark "." | .mark "..." => do
    let dots ← importDots
    let next ← look
    let source ← if next.isWord "import" then pure dots else pure (dots ++ (← dottedName))
    let place := (branch .relativeImport source).withRole .moduleName
    let next ← word "import"
    return branch .importFrom (keyword ++ place ++ next ++ (← importedNames true))
  | _ => do
    let place := (← dottedName).withRole .moduleName
    let next ← word "import"
    return branch .importFrom (keyword ++ place ++ next ++ (← importedNames true))

/-! ## 2. Simple statements -/

/-- The marks that update a target. -/
def updateMarks : List String :=
  ["+=", "-=", "*=", "/=", "@=", "//=", "%=", "**=", ">>=", "<<=", "&=", "^=", "|="]

/-- Targets of an assignment from expressions already read; `s` is the mark that makes them
targets. -/
def targetsOf (s : Sight) (left : Fragment × Bool) : Reader Fragment := do
  match left.1.asTargets? (← get).budget with
  | some targets =>
    return (if left.2 then branch .patternList targets else targets).withRole .left
  | none => failAt s

/-- What follows a mark of assignment: expressions, which may be targets of a further assignment.
`fuel` bounds the number of assignments in a row. -/
def assigned (k : Knot) : Nat → Reader Fragment
  | 0 => do failAt (← look)
  | fuel + 1 => do
    let value ← expressions k
    let s ← lookOn
    match s.token with
    | .mark m =>
      if m = "=" then
        let left ← targetsOf s value
        let equals ← take s .mark
        return branch .assignment (left ++ equals ++ (← assigned k fuel).withRole .right)
      else if updateMarks.contains m then
        let left ← targetsOf s value
        let update ← take s .mark
        return branch .augmentedAssignment (left ++ update ++ (← assigned k fuel).withRole .right)
      else return value.1
    | _ => return value.1

/-- Expressions, or an assignment. -/
def expressionStatement (k : Knot) : Reader Fragment := do
  let left ← expressions k
  let s ← lookOn
  let budget := (← get).budget
  match s.token with
  | .mark m =>
    if m = "=" then
      let targets ← targetsOf s left
      let equals ← take s .mark
      let value := (← assigned k budget).withRole .right
      return branch .expressionStatement (branch .assignment (targets ++ equals ++ value))
    else if m = ":" then
      let targets ← targetsOf s left
      let colon ← take s .mark
      let type := (← typeHint k true).withRole .type
      let next ← lookOn
      let value ←
        if next.isMark "=" then do
          let equals ← take next .mark
          pure (equals ++ (← assigned k budget).withRole .right)
        else pure []
      return branch .expressionStatement (branch .assignment (targets ++ colon ++ type ++ value))
    else if updateMarks.contains m then
      let targets ← targetsOf s left
      let update ← take s .mark
      let value := (← assigned k budget).withRole .right
      return branch .expressionStatement (branch .augmentedAssignment (targets ++ update ++ value))
    else return branch .expressionStatement left.1
  | _ => return branch .expressionStatement left.1

/-- A keyword with the expressions after it, if there are any. -/
def keywordStatement (k : Knot) (s : Sight) : Reader Fragment := do
  let keyword ← take s .keyword
  let next ← lookOn
  let values ← if next.token.startsExpression then pure (← expressions k).1 else pure []
  let next ← lookOn
  let cause ←
    if next.isWord "from" then do
      let source ← take next .keyword
      pure (source ++ (← k.expression true))
    else pure []
  return branch .otherStatement (keyword ++ values ++ cause)

/-- A statement that ends here: with its line, or before a semicolon. -/
def atStatementEnd (p : Reader Fragment) : Reader Fragment := do
  let fragment ← p
  let s ← lookOn
  if s.token == .lineEnd || s.isMark ";" then return fragment else failAt s

/-- `print`, with what it prints written after it. -/
def printStatement (k : Knot) (s : Sight) : Reader Fragment := do
  let keyword ← take s .keyword
  return branch .otherStatement (keyword ++ (← expressions k).1)

/-- `exec`, with code and possibly the names it runs among. -/
def execStatement (k : Knot) (s : Sight) : Reader Fragment := do
  let keyword ← take s .keyword
  let next ← look
  let code ← if next.token == .quote then string k else identifier
  let next ← lookOn
  let names ←
    if next.isWord "in" then do
      let among ← take next .keyword
      pure (among ++ (← expressions k).1)
    else pure []
  return branch .otherStatement (keyword ++ code ++ names)

/-- A name for a type. -/
def typeAlias (k : Knot) (s : Sight) : Reader Fragment := do
  let keyword ← take s .keyword
  let name ← identifier
  let parameters ← typeParameters k
  let left := (branch .typeHint (name ++ parameters)).withRole .left
  let equals ← mark "="
  return branch .typeAlias (keyword ++ left ++ equals ++ (← typeHint k true).withRole .right)

/-- A simple statement. Words that are also names make a statement of their own only where the line
cannot be read as expressions. -/
def simpleStatement (k : Knot) : Reader Fragment := do
  let s ← look
  match s.token with
  | .word "import" => do
    let keyword ← take s .keyword
    return branch .importStatement (keyword ++ (← importItems))
  | .word "from" => importFrom s
  | .word "pass" | .word "break" | .word "continue" =>
    return branch .otherStatement (← take s .keyword)
  | .word "return" | .word "raise" => keywordStatement k s
  | .word "assert" | .word "del" | .word "global" | .word "nonlocal" => do
    let keyword ← take s .keyword
    return branch .otherStatement (keyword ++ (← expressions k).1)
  | .word "print" => orElse (atStatementEnd (expressionStatement k)) (printStatement k s)
  | .word "exec" => orElse (atStatementEnd (expressionStatement k)) (execStatement k s)
  | .word "type" => orElse (atStatementEnd (expressionStatement k)) (typeAlias k s)
  | _ => expressionStatement k

/-- A line of simple statements, up to the line end. -/
def simpleLine (k : Knot) : Reader Fragment :=
  withEnds true do
    let first ← simpleStatement k
    let (all, _) ← repeating (first, false) fun (sofar, ended) => do
      if ended then return none
      let s ← lookOn
      if s.isMark ";" then
        let semicolon ← take s .mark
        let next ← lookOn
        if next.token == .lineEnd then return some (sofar ++ semicolon, true)
        else return some (sofar ++ semicolon ++ (← simpleStatement k), false)
      else return none
    let s ← lookOn
    if s.token == .lineEnd then
      set s.cursor
      return all ++ s.extras
    else failAt s

/-! ## 3. Blocks -/

/-- Where the next line with a token stands: its indentation, or nothing at the end of the text. -/
def nextIndent : Reader (Option Nat) := do
  let g := (← get).gap false
  return if g.cursor.rest.isEmpty then none else some g.indent

/-- The statements of a block whose indentation is open, up to the line that leaves it. -/
def blockLines (k : Knot) : Reader Fragment := do
  let width := (← get).indent
  let all ← repeating [] fun sofar => do
    match ← nextIndent with
    | some indent => if indent < width then return none else return some (sofar ++ (← k.statement))
    | none => return none
  modify fun c => { c with indents := c.indents.tail }
  return all

/-- What stands after the colon of a compound statement: statements on the same line, an indented
block, or nothing. -/
def suite (k : Knot) : Reader Fragment := do
  let outer := (← get).ends
  modify fun c => { c with ends := true }
  let s ← lookOn
  modify fun c => { c with ends := outer }
  if s.token == .lineEnd then
    set { s.cursor with ends := outer }
    let width := (← get).indent
    let inner ←
      match ← nextIndent with
      | some indent =>
        if width < indent then do
          modify fun c => { c with indents := indent :: c.indents }
          blockLines k
        else pure []
      | none => pure []
    return s.extras ++ (block inner).withRole .body
  else return (block (← simpleLine k)).withRole .body

/-- A colon and what stands after it. -/
def body (k : Knot) : Reader Fragment := do
  let colon ← mark ":"
  return colon ++ (← suite k)

/-! ## 4. Definitions -/

/-- A parameter of a function. -/
def parameter (k : Knot) : Reader Fragment := do
  let s ← look
  let typed (name : Fragment) : Reader Fragment := do
    let s ← look
    let type ←
      if s.isMark ":" then do
        let colon ← take s .mark
        pure (colon ++ (← typeHint k true).withRole .type)
      else pure []
    let s ← look
    let value ←
      if s.isMark "=" then do
        let equals ← take s .mark
        pure (equals ++ (← k.expression true).withRole .value)
      else pure []
    return if type.isEmpty && value.isEmpty then name else branch .parameter (name ++ type ++ value)
  match s.token with
  | .mark "*" => do
    let star ← take s .mark
    let next ← look
    match next.token with
    | .word _ => return branch .parameter (star ++ (← typed (← identifier)))
    | _ => return star
  | .mark "**" => do
    let stars ← take s .mark
    return branch .parameter (stars ++ (← typed (← identifier)))
  | .mark "/" => take s .mark
  | .mark "(" => do typed (← loopTarget k)
  | _ => do typed (← identifier)

/-- A function, from its first word; `start` holds the words before it. -/
def functionDefinition (k : Knot) (start : Fragment) (s : Sight) : Reader Fragment := do
  let keyword ← take s .keyword
  let name := (← identifier).withRole .name
  let types ← typeParameters k
  let parameters ← bracketed "(" ")" do
    let s ← look
    if s.isMark ")" then pure []
    else return (← commaList Token.startsParameter (parameter k)).1
  let s ← look
  let result ←
    if s.isMark "->" then do
      let arrow ← take s .mark
      pure (arrow ++ (← typeHint k false))
    else pure []
  return branch .functionDefinition
    (start ++ keyword ++ name ++ types ++ branch .parameters parameters ++ result ++ (← body k))

/-- A class, from its first word. -/
def classDefinition (k : Knot) (s : Sight) : Reader Fragment := do
  let keyword ← take s .keyword
  let name := (← identifier).withRole .name
  let types ← typeParameters k
  let s ← look
  let bases ←
    if s.isMark "(" then pure ((← argumentList k (loopTarget k)).withRole .superclasses)
    else pure []
  return branch .classDefinition (keyword ++ name ++ types ++ bases ++ (← body k))

/-- One decorator, from its sign to its line end. -/
def decorator (k : Knot) (s : Sight) : Reader Fragment := do
  let sign ← take s .mark
  withEnds true do
    let value ← k.expression true
    let s ← lookOn
    if s.token == .lineEnd then
      set s.cursor
      return branch .decorator (sign ++ value) ++ s.extras
    else failAt s

/-- A class or function with its decorators. -/
def decorated (k : Knot) (s : Sight) : Reader Fragment := do
  let decorators ← repeating (← decorator k s) fun sofar => do
    let s ← look
    if s.isMark "@" then return some (sofar ++ (← decorator k s)) else return none
  let s ← look
  let definition ←
    match s.token with
    | .word "class" => classDefinition k s
    | .word "def" => functionDefinition k [] s
    | .word "async" => do
      let start ← take s .keyword
      let next ← look
      if next.isWord "def" then functionDefinition k start next else failAt next
    | _ => failAt s
  return branch .decorated (decorators ++ definition.withRole .definition)

/-! ## 5. Compound statements -/

/-- A clause of a compound statement: its word, what `head` reads, and its block. -/
def clause (k : Knot) (s : Sight) (head : Reader Fragment) : Reader Fragment := do
  let keyword ← take s .keyword
  let inner ← head
  return branch .clause (keyword ++ inner ++ (← body k))

/-- Clauses of a compound statement as long as `choose` knows the next word; the answer of `choose`
reads what stands between the word and the colon. -/
def clauses (k : Knot) (choose : String → Option (Reader Fragment)) : Reader Fragment :=
  repeating [] fun sofar => do
    let s ← look
    match s.token with
    | .word w =>
      match choose w with
      | some head => return some (sofar ++ (← clause k s head))
      | none => return none
    | _ => return none

/-- What stands between `except` and its colon: nothing, or types with a name. -/
def exceptHead (k : Knot) : Reader Fragment := do
  let s ← look
  let star ← if s.isMark "*" then take s .mark else pure []
  let s ← look
  if s.isMark ":" then return star else return star ++ (← expressions k).1

/-- `if`, from its first word. -/
def ifStatement (k : Knot) (s : Sight) : Reader Fragment := do
  let keyword ← take s .keyword
  let test ← k.expression true
  let first ← body k
  let rest ← clauses k fun
    | "elif" => some (k.expression true)
    | "else" => some (pure [])
    | _ => none
  return branch .ifStatement (keyword ++ test ++ first ++ rest)

/-- `while`, from its first word. -/
def whileStatement (k : Knot) (s : Sight) : Reader Fragment := do
  let keyword ← take s .keyword
  let test ← k.expression true
  let first ← body k
  let rest ← clauses k fun w => if w = "else" then some (pure []) else none
  return branch .loopStatement (keyword ++ test ++ first ++ rest)

/-- `for`, from its first word; `start` holds the words before it. -/
def forStatement (k : Knot) (start : Fragment) (s : Sight) : Reader Fragment := do
  let keyword ← take s .keyword
  let targets ← forTargets (loopTarget k)
  let member ← word "in"
  let source ← expressions k
  let first ← body k
  let rest ← clauses k fun w => if w = "else" then some (pure []) else none
  return branch .loopStatement (start ++ keyword ++ targets ++ member ++ source.1 ++ first ++ rest)

/-- `try`, from its first word. -/
def tryStatement (k : Knot) (s : Sight) : Reader Fragment := do
  let keyword ← take s .keyword
  let first ← body k
  let rest ← clauses k fun
    | "except" => some (exceptHead k)
    | "else" => some (pure [])
    | "finally" => some (pure [])
    | _ => none
  if rest.isEmpty then failAt (← look)
  else return branch .tryStatement (keyword ++ first ++ rest)

/-- `with`, from its first word; `start` holds the words before it. -/
def withStatement (k : Knot) (start : Fragment) (s : Sight) : Reader Fragment := do
  let keyword ← take s .keyword
  let items ← expressions k
  return branch .withStatement (start ++ keyword ++ items.1 ++ (← body k))

/-- `match`, from its first word. -/
def matchStatement (k : Knot) (s : Sight) : Reader Fragment := do
  let keyword ← take s .keyword
  let subjects ← expressions k
  let colon ← mark ":"
  let width := (← get).indent
  match ← nextIndent with
  | some indent =>
    if width < indent then
      modify fun c => { c with indents := indent :: c.indents }
      let cases ← clauses k fun w =>
        if w = "case" then
          some do
            let patterns ← commaList Token.startsElement do
              let s ← look
              if s.isMark "**" then element k else k.expression false
            let s ← look
            if s.isWord "if" then
              let guard ← take s .keyword
              return patterns.1 ++ guard ++ (← k.expression true)
            else return patterns.1
        else none
      match ← nextIndent with
      | some left => if left < indent then pure () else failAt (← look)
      | none => pure ()
      modify fun c => { c with indents := c.indents.tail }
      return branch .matchStatement
        (keyword ++ subjects.1 ++ colon ++ (block cases).withRole .body)
    else
      return branch .matchStatement
        (keyword ++ subjects.1 ++ colon ++ (block []).withRole .body)
  | none =>
    return branch .matchStatement
      (keyword ++ subjects.1 ++ colon ++ (block []).withRole .body)

/-- A statement with its line end. -/
def plainStatement (k : Knot) : Reader Fragment := do
  modify fun c => { c with trail := [], ends := false, brackets := 0 }
  let s ← look
  match s.token with
  | .word "if" => ifStatement k s
  | .word "while" => whileStatement k s
  | .word "for" => forStatement k [] s
  | .word "try" => tryStatement k s
  | .word "with" => withStatement k [] s
  | .word "def" => functionDefinition k [] s
  | .word "class" => classDefinition k s
  | .mark "@" => decorated k s
  | .word "match" => orElse (simpleLine k) (matchStatement k s)
  | .word "async" => do
    let before ← get
    let start ← take s .keyword
    let next ← lookOn
    match next.token with
    | .word "def" => functionDefinition k start next
    | .word "for" => forStatement k start next
    | .word "with" => withStatement k start next
    | _ =>
      set before
      simpleLine k
  | _ => simpleLine k

/-! ## 6. Repair -/

/-- The number of bytes of `count` characters that start at `offset`. -/
def Cursor.bytesBetween (c : Cursor) (offset count : Nat) : Nat :=
  ((c.rest.drop (offset - c.offset)).take count).foldl (fun n g => n + g.width) 0

/-- What it costs to pass over tokens: something for the fault, more for each token and byte. -/
def dropCost (tokens bytes : Nat) : Nat := 500 + 100 * tokens + bytes

/-- What it costs to supply a token that the text lacks. -/
def supplyCost : Nat := 610

/-- Passing over the last tokens before the failure: each with its cost. A change that leaves
nothing of the statement before the failure goes before others of its cost. -/
def dropsBefore (c : Cursor) (f : Stuck) : List (Nat × Repair) :=
  match f.trail with
  | [] => []
  | (lastOffset, lastLength) :: _ =>
    let stop := lastOffset + lastLength
    let total := f.trail.length
    f.trail.zipIdx.map fun ((offset, _), i) =>
      let count := stop - offset
      let cost := 3 * dropCost (i + 1) (c.bytesBetween offset count)
      (if i + 1 = total then cost else cost + 2, .drop offset count)

/-- The changes worth trying after a failure, with their costs. -/
def repairs (c : Cursor) (f : Stuck) : List (Nat × Repair) :=
  let skip :=
    if f.length = 0 then []
    else [(3 * dropCost 1 (c.bytesBetween f.offset f.length) + 1, Repair.drop f.offset f.length)]
  let supplies := [")", "]", "\x7d", "identifier"].map fun t => (3 * supplyCost, Repair.supply f.offset t)
  sortItems (fun a b => decide (a.1 ≤ b.1)) (skip ++ dropsBefore c f ++ supplies)

/-- A line that cannot be read, as an error up to its end. -/
def brokenLine : Reader Fragment := do
  let s ← look
  let count := lineLength s.cursor.rest
  let node := errorNode s.gap s.cursor (max count 1)
  set (s.cursor.advance (max count 1))
  return s.extras ++ [node]

/-- A statement, if need be with the cheapest change that makes it readable. -/
def statement (k : Knot) : Reader Fragment := fun c =>
  match plainStatement k c with
  | .ok r => .ok r
  | .error f =>
    let attempt (r : Nat × Repair) : Option (Fragment × Cursor) :=
      match plainStatement k { c with repair := some r.2 } with
      | .ok (fragment, after) =>
        if after.repair.isNone then some (fragment, after) else none
      | .error _ => none
    match (repairs c f).findSome? attempt with
    | some r => .ok r
    | none => brokenLine { c with repair := none, brackets := 0, ends := false }

end FluentBuilders.Grammar
