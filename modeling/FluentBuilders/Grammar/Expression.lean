import FluentBuilders.Grammar.Reader

/-!
Expressions, from the smallest up. Operators of one tier are kept as a chain from the left, since
nothing here evaluates them.

1. Strings and their replacement fields.
2. Displays: what stands between round, square and curly brackets.
3. Names, numbers and what can follow them: members, subscripts, calls.
4. Operators, by tier.
5. Conditions, assignments inside expressions, anonymous functions.
6. Targets of assignments.
7. Annotations.
-/

namespace FluentBuilders.Grammar

open Text

/-! ## 1. Strings -/

/-- How a string is written: its quote, how often, and which rules its content follows. -/
structure StringForm where
  quote : Char
  tripled : Bool
  format : Bool
  raw : Bool
  bytes : Bool

/-- The form that opening letters and quotes announce. -/
def StringForm.ofOpening (opening : List Char) : StringForm :=
  let has (c : Char) : Bool := opening.contains c
  { quote := opening.getLast?.getD '"'
    tripled := (opening.filter isQuote).length == 3
    format := has 'f' || has 'F' || has 't' || has 'T'
    raw := has 'r' || has 'R'
    bytes := has 'b' || has 'B' }

/-- The characters that close the string. -/
def StringForm.closing (f : StringForm) : List Char :=
  if f.tripled then [f.quote, f.quote, f.quote] else [f.quote]

/-- The number of characters that a backslash takes with it, itself included. -/
def escapeLength (f : StringForm) (rest : List Glyph) : Nat :=
  match rest with
  | [] => 1
  | g :: more =>
    if g.char = f.quote ∨ g.char = '\\' ∨ g.char = '\n' then 2
    else if g.char = '\r' then (if startsWithChars ['\n'] more then 3 else 2)
    else if g.char = '\'' ∨ g.char = '"' then 2
    else if g.char = 'N' && !f.raw && !f.bytes && startsWithChars ['{'] more then
      2 + runLength (· ≠ '}') more
    else 1

/-- Why a run of string content ends. -/
inductive ContentEnd
  | closed
  | field
  | broken
  deriving DecidableEq

/-- The number of characters of string content at the front, and what ends it. `skip` characters
belong to what came before; `empty` says that there was nothing yet. -/
def contentLength (f : StringForm) (skip : Nat) (empty : Bool) : List Glyph → Nat × ContentEnd
  | [] => (0, .broken)
  | g :: rest =>
    let more (skip : Nat) : Nat × ContentEnd :=
      let r := contentLength f skip false rest
      (r.1 + 1, r.2)
    match skip with
    | k + 1 => more k
    | 0 =>
      if g.char = '\\' then more (escapeLength f rest - 1)
      else if startsWithChars f.closing (g :: rest) then (0, .closed)
      else if g.char = '\n' && !empty && !f.tripled then (0, .broken)
      else if f.format && g.char = '{' then
        if startsWithChars ['{'] rest then more 1 else (0, .field)
      else if f.format && g.char = '}' then
        if startsWithChars ['}'] rest then more 1 else (0, .broken)
      else more 0

/-- The next `count` characters as a piece of a string. -/
def stringPiece (count : Nat) : Reader Fragment := do
  let c ← get
  set (c.advance count)
  return if count = 0 then [] else [.leaf .stringPart .none "" (c.spell count) c.position]

/-- Content and replacement fields up to the closing quotes. -/
def stringContent (k : Knot) (f : StringForm) : Reader Fragment := do
  let r ← repeating (([] : Fragment), false) fun (sofar, done) => do
    if done then return none
    let c ← get
    let (count, ending) := contentLength f 0 true c.rest
    match ending with
    | .broken => throw ⟨c.offset, 1, c.trail⟩
    | .closed =>
      let content ← stringPiece count
      let closing ← stringPiece f.closing.length
      return some (sofar ++ content ++ closing, true)
    | .field =>
      let content ← stringPiece count
      return some (sofar ++ content ++ (← k.interpolation), false)
  return r.1

/-- One string, or several in a row. -/
def string (k : Knot) : Reader Fragment := do
  let one (s : Sight) : Reader Fragment := do
    let opening := ((s.cursor.rest.take s.length).map (·.char))
    let first ← take s .stringPart
    return branch .string (first ++ (← stringContent k (.ofOpening opening)))
  let first ← one (← look)
  let (all, several) ← repeating (first, false) fun (sofar, _) => do
    let s ← lookOn
    if s.token == .quote then return some (sofar ++ (← one s), true) else return none
  return if several then branch .concatenation all else all

/-- The format of a replacement field, after its colon. -/
def formatSpecification (k : Knot) : Reader Fragment :=
  repeating [] fun sofar => do
    let c ← get
    let count := runLength (fun x => x ≠ '{' && x ≠ '}' && x ≠ '\n') c.rest
    if count > 0 then return some (sofar ++ (← stringPiece count))
    else if startsWithChars ['{'] c.rest then return some (sofar ++ (← k.interpolation))
    else return none

/-- A replacement field of a string, from its opening brace. -/
def interpolation (k : Knot) : Reader Fragment := do
  let opening ← stringPiece 1
  modify fun c => { c with brackets := c.brackets + 1 }
  let (value, _) ← commaList Token.startsExpression (k.expression true)
  let s ← look
  let equals ← if s.isMark "=" then take s .mark else pure []
  let s ← look
  let conversion ←
    if s.token == .other && s.cursor.spell 1 == "!" then takeLength s .stringPart 2 else pure []
  let s ← look
  let specification ←
    if s.isMark ":" then do
      let colon ← take s .mark
      pure (colon ++ (← formatSpecification k))
    else pure []
  let closing ← mark "\x7d"
  modify fun c => { c with brackets := c.brackets - 1 }
  return branch .interpolation (opening ++ value ++ equals ++ conversion ++ specification ++ closing)

/-! ## 2. Displays -/

/-- The names bound by the `for` of a comprehension or a loop: targets with commas. -/
def forTargets (target : Reader Fragment) : Reader Fragment := do
  let starts : Token → Bool
    | .word w => w ≠ "in"
    | .mark m => m = "(" || m = "[" || m = "*"
    | _ => false
  let (all, several) ← commaList starts target
  return (if several then branch .patternList all else all).withRole .left

/-- The clauses of a comprehension after its element. -/
def comprehensionClauses (k : Knot) (target : Reader Fragment) : Reader Fragment :=
  repeating [] fun sofar => do
    let s ← lookOn
    match s.token with
    | .word "async" => return some (sofar ++ (← take s .keyword))
    | .word "for" => do
      let keyword ← take s .keyword
      let targets ← forTargets target
      let member ← word "in"
      let (source, _) ← commaList Token.startsExpression (k.expression false)
      return some (sofar ++
        branch .comprehensionClause (keyword ++ targets ++ member ++ source.withRole .right))
    | .word "if" => do
      let keyword ← take s .keyword
      return some (sofar ++ branch .comprehensionClause (keyword ++ (← k.expression false)))
    | _ => return none

/-- Whether a token starts the clauses of a comprehension. -/
def Token.startsClauses (t : Token) : Bool := t == .word "for" || t == .word "async"

/-- An element of a display: an expression, or one spread out with stars. -/
def element (k : Knot) : Reader Fragment := do
  let s ← look
  if s.isMark "**" then
    let stars ← take s .mark
    return branch .splat (stars ++ (← k.expression true))
  else k.expression true

/-- What may start an element of a display. -/
def Token.startsElement (t : Token) : Bool := t.startsExpression || t == .mark "**"

/-- What stands between round brackets: nothing, one expression, several, or a generator. -/
def roundDisplay (k : Knot) (target : Reader Fragment) : Reader Fragment := do
  let opening ← mark "("
  modify fun c => { c with brackets := c.brackets + 1 }
  let close (kind : Kind) (inner : Fragment) : Reader Fragment := do
    let closing ← mark ")"
    modify fun c => { c with brackets := c.brackets - 1 }
    return branch kind (opening ++ inner ++ closing)
  let s ← look
  if s.isMark ")" then close .tuple []
  else
    let (elements, several) ← commaList Token.startsElement (element k)
    let s ← look
    if several then close .tuple elements
    else if s.token.startsClauses then
      close .generator (elements ++ (← comprehensionClauses k target))
    else close .parenthesized elements

/-- What stands between square brackets. -/
def squareDisplay (k : Knot) (target : Reader Fragment) : Reader Fragment := do
  let opening ← mark "["
  modify fun c => { c with brackets := c.brackets + 1 }
  let close (kind : Kind) (inner : Fragment) : Reader Fragment := do
    let closing ← mark "]"
    modify fun c => { c with brackets := c.brackets - 1 }
    return branch kind (opening ++ inner ++ closing)
  let s ← look
  if s.isMark "]" then close .list []
  else
    let (elements, several) ← commaList Token.startsElement (element k)
    let s ← look
    if !several && s.token.startsClauses then
      close .comprehension (elements ++ (← comprehensionClauses k target))
    else close .list elements

/-- An element of a set or an entry of a dictionary. -/
def entry (k : Knot) : Reader Fragment := do
  let key ← element k
  let s ← look
  if s.isMark ":" then
    let colon ← take s .mark
    return branch .pair (key ++ colon ++ (← k.expression true).withRole .value)
  else return key

/-- What stands between curly brackets. -/
def curlyDisplay (k : Knot) (target : Reader Fragment) : Reader Fragment := do
  let opening ← mark "\x7b"
  modify fun c => { c with brackets := c.brackets + 1 }
  let close (kind : Kind) (inner : Fragment) : Reader Fragment := do
    let closing ← mark "\x7d"
    modify fun c => { c with brackets := c.brackets - 1 }
    return branch kind (opening ++ inner ++ closing)
  let s ← look
  if s.isMark "\x7d" then close .display []
  else
    let (entries, several) ← commaList Token.startsElement (entry k)
    let s ← look
    if !several && s.token.startsClauses then
      close .comprehension (entries ++ (← comprehensionClauses k target))
    else close .display entries

/-! ## 3. Primaries -/

/-- An argument of a call or a base of a class. -/
def argument (k : Knot) (target : Reader Fragment) : Reader Fragment := do
  let value ← element k
  let s ← look
  if s.isMark "=" && value.isName then
    let equals ← take s .mark
    return branch .keywordArgument
      (value.withRole .name ++ equals ++ (← k.expression true).withRole .value)
  else if s.token.startsClauses then
    return branch .generator (value ++ (← comprehensionClauses k target))
  else return value

/-- The arguments of a call or the bases of a class, with their brackets. -/
def argumentList (k : Knot) (target : Reader Fragment) : Reader Fragment := do
  let all ← bracketed "(" ")" do
    let s ← look
    if s.isMark ")" then pure []
    else return (← commaList Token.startsElement (argument k target)).1
  return branch .argumentList all

/-- One subscript: an expression or a slice. -/
def subscript (k : Knot) : Reader Fragment := do
  let s ← look
  let first ← if s.isMark ":" then pure [] else element k
  let s ← look
  if !s.isMark ":" then return first
  let rest ← repeating [] fun sofar => do
    let s ← look
    if !s.isMark ":" then return none
    let colon ← take s .mark
    let next ← look
    if next.token.startsExpression then
      return some (sofar ++ colon ++ (← k.expression true))
    else return some (sofar ++ colon)
  return branch .slice (first ++ rest)

/-- What may start a subscript. -/
def Token.startsSubscript (t : Token) : Bool := t.startsElement || t == .mark ":"

/-- What can follow a primary: a member, subscripts, or the arguments of a call. -/
def trailers (k : Knot) (target : Reader Fragment) (head : Fragment) : Reader Fragment :=
  repeating head fun sofar => do
    let s ← lookOn
    match s.token with
    | .mark "." => do
      let dot ← take s .mark
      return some (branch .attribute (sofar ++ dot ++ (← identifier)))
    | .mark "[" => do
      let subscripts ← bracketed "[" "]" do
        return (← commaList Token.startsSubscript (subscript k)).1
      return some (branch .subscript (sofar.withRole .value ++ subscripts))
    | .mark "(" => do
      let arguments ← argumentList k target
      return some (branch .call (sofar.withRole .function ++ arguments.withRole .arguments))
    | _ => return none

/-- A name, a literal or a display, without what can follow it. -/
def atom (k : Knot) (target : Reader Fragment) : Reader Fragment := do
  let s ← look
  match s.token with
  | .word w =>
    if w = "None" ∨ w = "True" ∨ w = "False" then take s .constant else take s .identifier
  | .number => take s .number
  | .quote => string k
  | .mark "(" => roundDisplay k target
  | .mark "[" => squareDisplay k target
  | .mark "\x7b" => curlyDisplay k target
  | .mark "..." => take s .ellipsis
  | _ => failAt s

/-- A target of an assignment as a tree: names, members and subscripts stay, displays become
patterns, and nothing else is a target. -/
def asTarget : Nat → Node → Option Node
  | 0, _ => none
  | depth + 1, n =>
    let inside (kind : Kind) (children : List Node) : Option Node :=
      (children.mapM fun child =>
        if child.isExtra || !child.isNamed then some child else asTarget depth child).map
          (Node.tree kind n.role)
    match n with
    | .leaf .identifier .. => some n
    | .tree .attribute .. | .tree .subscript .. => some n
    | .tree .tuple _ children | .tree .parenthesized _ children => inside .tuplePattern children
    | .tree .list _ children => inside .listPattern children
    | .tree .splat _ children => inside .splatPattern children
    | .absent .. => some n
    | _ => none

/-- A fragment of expressions as targets. -/
def Fragment.asTargets? (depth : Nat) (fragment : Fragment) : Option Fragment :=
  fragment.mapM fun n => if n.isExtra || !n.isNamed then some n else asTarget depth n

/-- A primary with all that follows it. The targets inside its comprehensions are primaries too, and
come from `target`. -/
def primary (k : Knot) (target : Reader Fragment) : Reader Fragment := do
  trailers k target (← atom k target)

/-- A target of a loop: a primary, possibly spread out with a star. Comprehensions inside it have no
targets of their own. -/
def loopTarget (k : Knot) : Reader Fragment := do
  let s ← look
  let star ← if s.isMark "*" then take s .mark else pure []
  let inner ← primary k (do failAt (← look))
  let all := if star.isEmpty then inner else branch .splat (star ++ inner)
  match all.asTargets? (← get).budget with
  | some targets => return targets
  | none => failAt s

/-! ## 4. Operators -/

/-- Whether a token can start the operand of `await`. -/
def Token.startsAwaited : Token → Bool
  | .mark m => ["(", "[", "\x7b", "...", "-", "+", "~"].contains m
  | .word w => !(["in", "is", "and", "or", "not", "if", "else", "for", "as", "from"].contains w)
  | .number | .quote => true
  | _ => false

/-- A primary with the signs before it. -/
def signed (k : Knot) : Reader Fragment := do
  let signs ← repeating [] fun sofar => do
    let s ← look
    match s.token with
    | .mark "-" | .mark "+" | .mark "~" => return some (sofar ++ (← take s .mark))
    | .word "await" => do
      let before ← get
      let keyword ← take s .keyword
      if (← lookOn).token.startsAwaited then return some (sofar ++ keyword)
      else
        set before
        return none
    | _ => return none
  let operand ← primary k (loopTarget k)
  return if signs.isEmpty then operand else branch .operation (signs ++ operand)

/-- The marks of arithmetic. -/
def arithmeticMarks : List String :=
  ["+", "-", "*", "/", "//", "%", "@", "&", "|", "^", "<<", ">>", "**"]

/-- Operands with arithmetic between them. -/
def arithmetic (k : Knot) : Reader Fragment := do
  repeating (← signed k) fun sofar => do
    let s ← lookOn
    match s.token with
    | .mark m =>
      if arithmeticMarks.contains m then
        let operator ← take s .mark
        return some (branch .operation (sofar ++ operator ++ (← signed k)))
      else return none
    | _ => return none

/-- The marks that compare. -/
def comparisonMarks : List String := ["<", ">", "==", ">=", "<=", "!=", "<>"]

/-- Operands with comparisons between them. -/
def comparison (k : Knot) : Reader Fragment := do
  repeating (← arithmetic k) fun sofar => do
    let s ← lookOn
    let join (operator : Fragment) : Reader (Option Fragment) := do
      return some (branch .comparison (sofar ++ operator ++ (← arithmetic k)))
    match s.token with
    | .mark m => if comparisonMarks.contains m then join (← take s .mark) else return none
    | .word "in" => join (← take s .keyword)
    | .word "not" => do
      let negation ← take s .keyword
      join (negation ++ (← word "in"))
    | .word "is" => do
      let operator ← take s .keyword
      let next ← look
      if next.isWord "not" then join (operator ++ (← take next .keyword)) else join operator
    | _ => return none

/-- A comparison with the negations before it. -/
def negated (k : Knot) : Reader Fragment := do
  let negations ← repeating [] fun sofar => do
    let s ← look
    if s.isWord "not" then return some (sofar ++ (← take s .keyword)) else return none
  let operand ← comparison k
  return if negations.isEmpty then operand else branch .operation (negations ++ operand)

/-- Operands with `and` and `or` between them. -/
def disjunction (k : Knot) : Reader Fragment := do
  repeating (← negated k) fun sofar => do
    let s ← lookOn
    if s.isWord "and" || s.isWord "or" then
      let operator ← take s .keyword
      return some (branch .operation (sofar ++ operator ++ (← negated k)))
    else return none

/-! ## 5. Whole expressions -/

/-- A parameter of an anonymous function. -/
def lambdaParameter (k : Knot) : Reader Fragment := do
  let s ← look
  match s.token with
  | .mark "*" => do
    let star ← take s .mark
    let next ← look
    match next.token with
    | .word _ => return branch .parameter (star ++ (← identifier))
    | _ => return star
  | .mark "**" => do
    let stars ← take s .mark
    return branch .parameter (stars ++ (← identifier))
  | .mark "/" => take s .mark
  | _ => do
    let name ← identifier
    let next ← look
    if next.isMark "=" then
      let equals ← take next .mark
      return branch .parameter (name ++ equals ++ (← k.expression true).withRole .value)
    else return name

/-- What may start a parameter. -/
def Token.startsParameter : Token → Bool
  | .word _ => true
  | .mark m => m = "*" || m = "**" || m = "/" || m = "("
  | _ => false

/-- An anonymous function, from its first word. -/
def lambda (k : Knot) (conditions : Bool) (s : Sight) : Reader Fragment := do
  let keyword ← take s .keyword
  let next ← look
  let parameters ←
    if next.isMark ":" then pure []
    else pure (branch .parameters (← commaList Token.startsParameter (lambdaParameter k)).1)
  let colon ← mark ":"
  return branch .lambda (keyword ++ parameters ++ colon ++ (← k.expression conditions))

/-- What a generator gives to its caller, from its first word. -/
def yielded (k : Knot) (s : Sight) : Reader Fragment := do
  let keyword ← take s .keyword
  let next ← lookOn
  if next.isWord "from" then
    let source ← take next .keyword
    return branch .yield (keyword ++ source ++ (← k.expression true))
  else if next.token.startsExpression then
    return branch .yield (keyword ++ (← commaList Token.startsExpression (k.expression true)).1)
  else return branch .yield keyword

/-- An expression. With `conditions` it may be a conditional one at its top. -/
def expression (k : Knot) (conditions : Bool) : Reader Fragment := do
  let s ← look
  let head ←
    match s.token with
    | .word "lambda" => lambda k conditions s
    | .word "yield" => yielded k s
    | .mark "*" => do
      let star ← take s .mark
      pure (branch .splat (star ++ (← k.expression conditions)))
    | _ => disjunction k
  let next ← lookOn
  let value ←
    if next.isMark ":=" && head.isName then do
      let becomes ← take next .mark
      pure (branch .named (head ++ becomes ++ (← k.expression conditions)))
    else if conditions && next.isWord "if" then do
      let condition ← take next .keyword
      let test ← withEnds false (k.expression true)
      let otherwise ← word "else"
      pure (branch .conditional (head ++ condition ++ test ++ otherwise ++ (← k.expression true)))
    else pure head
  let next ← lookOn
  if next.isWord "as" then
    let keyword ← take next .keyword
    return branch .aliased (value ++ keyword ++ (← k.expression conditions))
  else return value

/-- One or more expressions; with commas they are still consecutive nodes. -/
def expressions (k : Knot) : Reader (Fragment × Bool) :=
  commaList Token.startsExpression (k.expression true)

/-! ## 6. Annotations -/

/-- A type. With `bounds` a colon may follow that bounds it. -/
def typeHint (k : Knot) (bounds : Bool) : Reader Fragment := do
  let first ← element k
  let s ← lookOn
  if bounds && s.isMark ":" then
    let colon ← take s .mark
    return branch .typeHint (first ++ colon ++ (← element k))
  else return branch .typeHint first

/-- The type parameters of a definition, with their brackets, if there are any. -/
def typeParameters (k : Knot) : Reader Fragment := do
  let s ← look
  if !s.isMark "[" then return []
  let all ← bracketed "[" "]" do
    let item : Reader Fragment := do
      let bound ← typeHint k true
      let s ← look
      if s.isMark "=" then
        let equals ← take s .mark
        return bound ++ equals ++ (← typeHint k false)
      else return bound
    return (← commaList Token.startsElement item).1
  return branch .typeParameters all

end FluentBuilders.Grammar
