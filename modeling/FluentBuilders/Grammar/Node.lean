/-!
Syntax trees of Python modules.

1. `Position`, `Kind`, `Role`: where a node starts, what it is, and what it is to its parent.
2. `Node`: a leaf keeps its own text and the blanks before it, so the text of every node can be
   rebuilt; an absent leaf stands for a token that the text lacks.
3. Look-ups: children by role, named children, text, leaves, faults.
4. `faults`: every error and every absent token, in the order of the tree.
-/

namespace FluentBuilders.Grammar

/-! ## 1. Places and labels -/

/-- A place in a source text: lines count line feeds, columns count bytes, both from zero. -/
structure Position where
  line : Nat
  column : Nat
  deriving DecidableEq, Repr, Inhabited

/-- What a node is. -/
inductive Kind
  -- leaves
  | keyword | mark | identifier | number | constant | ellipsis | stringPart | wildcard
  | comment | continuation | stray
  -- statements and their parts
  | module | block | expressionStatement | assignment | augmentedAssignment | typeAlias
  | importStatement | importFrom | importFuture | otherStatement
  | classDefinition | functionDefinition | decorated | decorator
  | ifStatement | tryStatement | withStatement | loopStatement | matchStatement | clause
  | dottedName | aliasedImport | relativeImport | importPrefix
  | parameters | parameter | argumentList | typeParameters | typeHint
  -- expressions
  | attribute | subscript | slice | call | keywordArgument | generator
  | string | concatenation | interpolation
  | operation | comparison | conditional | lambda | await | yield | named | aliased | splat
  | parenthesized | tuple | list | display | pair | comprehension | comprehensionClause
  -- targets of assignments
  | patternList | tuplePattern | listPattern | splatPattern
  -- what could not be read
  | error
  deriving DecidableEq, Repr, Inhabited

/-- What a node is to its parent. -/
inductive Role
  | none | name | superclasses | body | left | right | type | definition | function | arguments
  | value | localName | moduleName | item
  deriving DecidableEq, Repr, Inhabited

/-! ## 2. Nodes -/

/-- A node of a syntax tree. -/
inductive Node
  /-- A token with its text and the blanks before it. -/
  | leaf (kind : Kind) (role : Role) (gap text : String) (position : Position)
  /-- A token that the text lacks, known by what it should have been. -/
  | absent (what : String) (position : Position)
  /-- A node over its children, in the order of the text. -/
  | tree (kind : Kind) (role : Role) (children : List Node)
  deriving Repr, Inhabited

namespace Node

/-- What the node is; an absent token counts as a mark or, for a name, as an identifier. -/
def kind : Node → Kind
  | leaf kind .. => kind
  | absent what _ => if what = "identifier" then .identifier else .mark
  | tree kind .. => kind

/-- What the node is to its parent. -/
def role : Node → Role
  | leaf _ role .. => role
  | absent .. => .none
  | tree _ role _ => role

/-- The children of the node. -/
def children : Node → List Node
  | tree _ _ children => children
  | _ => []

/-- The node in another role. -/
def withRole (r : Role) : Node → Node
  | leaf kind _ gap text position => leaf kind r gap text position
  | absent what position => absent what position
  | tree kind _ children => tree kind r children

@[simp] theorem kind_withRole (r : Role) (n : Node) : (n.withRole r).kind = n.kind := by
  cases n <;> rfl

@[simp] theorem children_withRole (r : Role) (n : Node) :
    (n.withRole r).children = n.children := by
  cases n <;> rfl

/-! ## 3. Look-ups -/

/-- Whether the node is more than a keyword or a mark. -/
def isNamed (n : Node) : Bool :=
  match n.kind with
  | .keyword | .mark => false
  | _ => true

/-- The children that are more than keywords and marks. -/
def namedChildren (n : Node) : List Node := n.children.filter isNamed

/-- The first child in a role. -/
def child? (n : Node) (r : Role) : Option Node := n.children.find? (·.role == r)

/-- All children in a role. -/
def childrenIn (n : Node) (r : Role) : List Node := n.children.filter (·.role == r)

/-- A token of a tree: its kind, its text and the blanks before it. -/
structure Leaf where
  kind : Kind
  gap : String
  text : String
  position : Position
  deriving DecidableEq, Repr, Inhabited

mutual
/-- The tokens below a node, in the order of the text. -/
def leaves : Node → List Leaf
  | leaf kind _ gap text position => [⟨kind, gap, text, position⟩]
  | absent _ position => [⟨.mark, "", "", position⟩]
  | tree _ _ children => leavesAll children

/-- The tokens below a list of nodes. -/
def leavesAll : List Node → List Leaf
  | [] => []
  | n :: rest => leaves n ++ leavesAll rest
end

/-- The text of a list of tokens, without the blanks before the first. -/
def textOf : List Leaf → String
  | [] => ""
  | first :: rest => rest.foldl (fun s l => s ++ l.gap ++ l.text) first.text

/-- The text of the node as it stands in the source. -/
def text (n : Node) : String := textOf n.leaves

/-- Where the node starts. -/
def start (n : Node) : Position :=
  match n.leaves with
  | [] => ⟨0, 0⟩
  | first :: _ => first.position

mutual
/-- Whether the node is, or holds, an error or an absent token. -/
def hasError : Node → Bool
  | leaf kind .. => kind == .error
  | absent .. => true
  | tree kind _ children => kind == .error || anyHasError children

/-- Whether one of the nodes is, or holds, an error or an absent token. -/
def anyHasError : List Node → Bool
  | [] => false
  | n :: rest => hasError n || anyHasError rest
end

/-- Whether the node stands between tokens without being part of the grammar there: a comment, a
joined line, or text that was passed over. -/
def isExtra (n : Node) : Bool :=
  match n.kind with
  | .comment | .continuation | .error => true
  | _ => false

end Node

/-! ## 4. Faults -/

/-- A place where a text departs from the grammar. -/
structure Fault where
  position : Position
  message : String
  deriving DecidableEq, Repr, Inhabited

mutual
/-- Every error and every absent token of a node, in the order of the tree. -/
def Node.faults : Node → List Fault
  | .leaf kind _ _ _ position => if kind == .error then [⟨position, "ERROR"⟩] else []
  | .absent what position => [⟨position, "MISSING(" ++ what ++ ")"⟩]
  | .tree kind role children =>
    let own := if kind == .error then [⟨(Node.tree kind role children).start, "ERROR"⟩] else []
    own ++ Node.faultsAll children

/-- Every error and every absent token of a list of nodes. -/
def Node.faultsAll : List Node → List Fault
  | [] => []
  | n :: rest => Node.faults n ++ Node.faultsAll rest
end

end FluentBuilders.Grammar
