import FluentBuilders.Proofs.Grammar.Rereading
import FluentBuilders.Proofs.SymbolTable

/-!
Annotations and the types that are recorded of them.

1. `Node.nodes`: what stands below a node.
2. `IsAnnotated`: in a text without faults, annotations were read as such.
3. `annotation_reread`: the type that is recorded of an annotation has its tokens, unless the annotation
   needs its blanks.
4. `literal_closed_up`: a string literal in an annotation does not keep its blanks.
-/

namespace FluentBuilders

open Text Grammar

/-! ## 1. Below a node -/

namespace Grammar

mutual
/-- The node and all nodes below it, in the order of the text. -/
def Node.nodes : Node → List Node
  | .leaf kind role gap text p => [.leaf kind role gap text p]
  | .absent what p => [.absent what p]
  | .tree kind role children => .tree kind role children :: Node.nodesAll children

/-- The nodes of a list and all nodes below them. -/
def Node.nodesAll : List Node → List Node
  | [] => []
  | n :: rest => Node.nodes n ++ Node.nodesAll rest
end

variable {P : Node → Prop}

mutual
theorem Node.everywhere_iff : ∀ n : Node, n.Everywhere P ↔ ∀ m ∈ n.nodes, P m
  | .leaf .. => by simp [Node.Everywhere, Node.nodes]
  | .absent .. => by simp [Node.Everywhere, Node.nodes]
  | .tree _ _ children => by
    rw [Node.Everywhere, Node.nodes, List.forall_mem_cons, Node.everywhereIn_iff_nodes children]

theorem Node.everywhereIn_iff_nodes : ∀ l : List Node,
    Node.EverywhereIn P l ↔ ∀ m ∈ Node.nodesAll l, P m
  | [] => by simp [Node.EverywhereIn, Node.nodesAll]
  | n :: rest => by
    rw [Node.EverywhereIn, Node.nodesAll, List.forall_mem_append, Node.everywhere_iff n,
      Node.everywhereIn_iff_nodes rest]
end

mutual
/-- Without faults, there is no error. -/
theorem Node.hasError_of_faults : ∀ n : Node, n.faults = [] → n.hasError = false
  | .leaf kind .., h => by
    rw [Node.hasError]
    by_contra herror
    rw [Node.faults, if_pos (by simpa using herror)] at h
    cases h
  | .absent .., h => by cases h
  | .tree kind _ children, h => by
    rw [Node.faults, List.append_eq_nil_iff] at h
    rw [Node.hasError, Node.anyHasError_of_faults children h.2, Bool.or_false]
    by_contra herror
    rw [if_pos (by simpa using herror)] at h
    cases h.1

theorem Node.anyHasError_of_faults : ∀ l : List Node, Node.faultsAll l = [] → Node.anyHasError l = false
  | [], _ => rfl
  | n :: rest, h => by
    rw [Node.faultsAll, List.append_eq_nil_iff] at h
    rw [Node.anyHasError, Node.hasError_of_faults n h.1, Node.anyHasError_of_faults rest h.2]
    rfl
end

end Grammar

/-! ## 2. Annotations in their places -/

/-- Between the parts of an assignment without comments and joined lines, an annotation was read as
such. -/
def IsAnnotated (c : Cursor) (n : Node) : Prop :=
  n.kind = .assignment → c.Fed → c.repair = none → (∀ m ∈ n.children, m.isExtra = false) →
    ∀ m ∈ n.children, m.role = .type → IsHint m

theorem isAnnotated_buildable : Buildable IsAnnotated where
  leaf _ _ _ _ _ _ _ _ _ m hm := by cases hm
  absent _ _ _ _ _ _ _ m hm := by cases hm
  tree _ _ _ _ hformed _ := hformed.hints
  role _ n r _ h := by
    unfold IsAnnotated
    rw [Node.kind_withRole, Node.children_withRole]
    exact h
  definition _ n _ h := by
    unfold IsAnnotated
    rw [Node.kind_withRole, Node.children_withRole]
    exact h
  pattern _ _ _ _ _ _ hkind _ _ hnew := by cases hkind <;> cases hnew

namespace SymbolTable

/-- In a text without faults, the annotations of assignments were read as such. -/
theorem isHint_of_sound {content : Bytes} {path : String}
    (hsound : (Parsed.ofBytes content path).isSound = true) {n hint : Node}
    (hn : n ∈ (Parsed.ofBytes content path).tree.nodes) (hkind : n.kind = .assignment)
    (hplain : ∀ m ∈ n.children, m.isExtra = false) (hhint : n.child? .type = some hint) :
    IsHint hint := by
  have herror : (parseModule (glyphs content)).hasError = false :=
    Node.hasError_of_faults _ (List.isEmpty_iff.mp hsound)
  have hall := parseModule_behind isAnnotated_buildable (glyphs content)
  rw [herror] at hall
  obtain ⟨d, hrest, hbudget, hrepair, hd⟩ := (Node.everywhere_iff _).mp hall n hn
  have hfed : d.Fed := by
    have hlength := hrest.length_le
    unfold Cursor.Fed
    rw [hbudget]
    change d.rest.length ≤ (glyphs content).length at hlength
    change d.rest.length < (glyphs content).length + 2
    omega
  obtain ⟨hmem, hrole⟩ := Node.child?_spec hhint
  exact hd hkind hfed (hrepair rfl rfl) hplain hint hmem hrole

/-! ## 3. Types read again -/

theorem field?_type {n : Node} {f : FieldInfo} (h : field? n = some f) :
    n.kind = .assignment ∧ ∃ hint, n.child? .type = some hint ∧ f.type = collapse hint.text := by
  unfold field? at h
  split at h
  · cases h
  next hkind =>
  split at h
  · next left hint _ hhint =>
    split at h
    · cases h
    dsimp only at h
    split at h
    · cases h
    · cases h
      exact ⟨by simpa using hkind, hint, hhint, rfl⟩
  · cases h

/-- In a text without faults, the type that is recorded of a field reads as an annotation with the tokens
of the one in the text, if closing up blanks leaves the nodes of that alone and the assignment has no
comments and joined lines between its parts. -/
theorem annotation_reread {content : Bytes} {path : String}
    (hsound : (Parsed.ofBytes content path).isSound = true) {n hint : Node} {f : FieldInfo}
    (hn : n ∈ (Parsed.ofBytes content path).tree.nodes) (hf : field? n = some f)
    (hhint : n.child? .type = some hint) (hplain : ∀ m ∈ n.children, m.isExtra = false)
    (hstays : ∀ m ∈ hint.nodes, m.stays = true) : ReadsAs f.type hint.tokens := by
  obtain ⟨hkind, hint', hhint', htype⟩ := field?_type hf
  obtain rfl := Option.some.inj (hhint.symm.trans hhint')
  rw [htype]
  exact (isHint_of_sound hsound hn hkind hplain hhint).reread ((Node.everywhere_iff _).mpr hstays)

/-- The text of a class with a field whose annotation stands on two lines. -/
def spread : Bytes := encode "class A:\n x: L[a,\n  'b c']\n"

set_option maxRecDepth 100000 in
theorem annotation_reread_spread : (Parsed.ofBytes spread "a.py").isSound = true ∧
    ∃ n ∈ (Parsed.ofBytes spread "a.py").tree.nodes, ∃ f, field? n = some f ∧ f.type = "L[a, 'b c']" ∧
      ReadsAs f.type ["L", "[", "a", ",", "'", "b c", "'", "]"] := by
  have hsound : (Parsed.ofBytes spread "a.py").isSound = true := by decide +kernel
  have hfield : (Parsed.ofBytes spread "a.py").tree.nodes.any fun n =>
      (field? n).any (·.type == "L[a, 'b c']") && n.children.all (!·.isExtra) &&
        (n.child? .type).any fun hint => hint.nodes.all (·.stays) &&
          hint.tokens == ["L", "[", "a", ",", "'", "b c", "'", "]"] := by decide +kernel
  obtain ⟨n, hn, h⟩ := List.any_eq_true.mp hfield
  simp only [Bool.and_eq_true, Option.any_eq_true, List.all_eq_true, Bool.not_eq_true',
    beq_iff_eq] at h
  obtain ⟨⟨⟨f, hf, htype⟩, hplain⟩, hint, hhint, hstays, htokens⟩ := h
  exact ⟨hsound, n, hn, f, hf, htype, htokens ▸ annotation_reread hsound hn hf hhint hplain hstays⟩

/-! ## 4. Blanks in literals -/

/-- The tokens of the annotation with which an expression declares a field, and those of the type that
is recorded, read as an expression. -/
def readAgain? (n : Node) : Option (List String × List String) :=
  match field? n, n.child? .type with
  | some f, some hint => some (hint.tokens, (parseModule (glyphs (encode f.type))).tokens)
  | _, _ => none

/-- A class with a field whose annotation holds a string with two blanks. -/
def spaced : Parsed := .ofText "class A:\n x: L[\"a  b\"]\n" "a.py"

set_option maxRecDepth 100000 in
/-- The blanks of a string literal are closed up like any others: the type is recorded with another
string in it. -/
theorem literal_closed_up : spaced.isSound = true ∧
    (ofParsed spaced "a" false).classes.values.map (·.fields.map (·.type)) = [["L[\"a b\"]"]] ∧
    spaced.tree.nodes.filterMap readAgain? =
      [(["L", "[", "\"", "a  b", "\"", "]"], ["L", "[", "\"", "a b", "\"", "]"])] := by
  decide +kernel

end SymbolTable

end FluentBuilders
