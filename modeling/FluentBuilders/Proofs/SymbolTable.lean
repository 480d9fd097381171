import FluentBuilders.Proofs.Grammar.Statements
import FluentBuilders.Proofs.SymbolTable.Findings

/-!
What the walk over a syntax tree leaves alone: the module of the table stays the one it was made for,
only definitions whose names have no dot are listed with their decorators, and the fields of classes
have their types on one line.

1. `definedName_plain`: the name of a definition has no dot.
2. `ClassInfo.OnOneLine`: the types of fields.
3. `Settled`: what is found at module scope.
4. `ofParsed_grows`, and with it the names of decorated definitions.
-/

namespace FluentBuilders

open Text Grammar

/-! ## 1. Names of definitions -/

/-- Only classes and functions, under names without dots, stand below decorators; a class without
error does so where its text signs one. -/
structure IsSettled (gs : List Glyph) (n : Node) : Prop where
  definition : n.role = .definition → IsDefinition n
  signs : n.kind = .decorated → n.hasError = false →
    ∀ m ∈ n.children, m.role = .definition → m.kind = .classDefinition → SignsClass gs

theorem isSettled_buildable : Buildable fun c => IsSettled c.rest where
  leaf _ _ _ _ _ := ⟨fun h => (by cases h), fun _ _ m hm => by cases hm⟩
  absent _ _ _ := ⟨fun h => (by cases h), fun _ _ m hm => by cases hm⟩
  tree c _ kind children hformed _ := by
    refine ⟨fun h => (by cases h), fun hkind herror m hm hrole hclass => ?_⟩
    rw [Node.hasError, Bool.or_eq_false_iff] at herror
    exact hformed.signs hkind herror.2 m hm hrole hclass
  role _ n r hr h := by
    refine ⟨fun hrole => ?_, ?_⟩
    · cases n with
      | leaf => exact absurd hrole hr
      | absent => cases hrole
      | tree => exact absurd hrole hr
    · rw [Node.kind_withRole, Node.hasError_withRole, Node.children_withRole]
      exact h.signs
  definition _ n hn h := by
    refine ⟨fun _ => ⟨?_, ?_⟩, ?_⟩
    · rw [Node.kind_withRole]
      exact hn.1
    · rw [Node.children_withRole]
      exact hn.2
    · rw [Node.kind_withRole, Node.hasError_withRole, Node.children_withRole]
      exact h.signs
  pattern _ old new role before after hkind _ h := by
    refine ⟨fun hrole => ?_, fun hnew => ?_⟩
    · have hold := (h.definition hrole).1
      cases hkind <;> simp [Node.kind] at hold
    · cases hkind <;> cases hnew

/-- What a text signs from some rest on, it signs. -/
theorem IsSettled.of_suffix {gs rest : List Glyph} {n : Node} (hrest : rest <:+ gs)
    (hn : IsSettled rest n) : IsSettled gs n := by
  refine ⟨hn.definition, fun hkind herror m hm hrole hclass => ?_⟩
  obtain ⟨sign, line, hsign, hline⟩ := hn.signs hkind herror m hm hrole hclass
  exact ⟨sign, line, hsign.trans hrest, hline⟩

/-- What a decorated definition of a text tells: its name has no dot, and a class without error stands
where the text signs one. -/
structure DecoratedInfo.IsSettled (gs : List Glyph) (info : DecoratedInfo) : Prop where
  plain : '.' ∉ info.name.toList
  signs : info.kind = .ofClass → info.hasError = false → SignsClass gs

/-- The types of the fields are annotations on one line. -/
def ClassInfo.OnOneLine (info : ClassInfo) : Prop :=
  ∀ f ∈ info.fields, ∃ s, f.type = collapse s

namespace SymbolTable

variable {gs : List Glyph}

theorem definedName_plain {n : Node} (h : IsDefinition n) : '.' ∉ (definedName n).toList := by
  unfold definedName
  split
  · next m hm =>
    obtain ⟨hmem, hrole⟩ := Node.child?_spec hm
    exact h.2 m hmem hrole
  · simp

theorem decorated?_settled {n : Node} (h : n.Everywhere (IsSettled gs)) (hkind : n.kind = .decorated)
    {topLevel : Bool} {info : DecoratedInfo} (hinfo : decorated? n topLevel = some info) :
    info.IsSettled gs := by
  unfold decorated? at hinfo
  obtain ⟨definition, hd, rfl⟩ := Option.map_eq_some_iff.mp hinfo
  obtain ⟨hmem, hrole⟩ := Node.child?_spec hd
  refine ⟨definedName_plain ((h.child hmem).here.definition hrole), fun hclass herror => ?_⟩
  refine h.here.signs hkind herror definition hmem hrole ?_
  dsimp only at hclass
  split at hclass
  · next hdefinition => simpa using hdefinition
  · cases hclass

mutual
theorem nestedIn_settled : ∀ n : Node, n.Everywhere (IsSettled gs) →
    ∀ info ∈ nestedIn n, info.IsSettled gs
  | .leaf .., _, info, hinfo => by cases hinfo
  | .absent .., _, info, hinfo => by cases hinfo
  | .tree _ _ children, h, info, hinfo => nestedInAll_settled children h.2 info hinfo

theorem nestedInAll_settled : ∀ l : List Node, Node.EverywhereIn (IsSettled gs) l →
    ∀ info ∈ nestedInAll l, info.IsSettled gs
  | [], _, info, hinfo => by cases hinfo
  | n :: rest, h, info, hinfo => by
    rw [nestedInAll, List.mem_append, List.mem_append] at hinfo
    rcases hinfo with (hinfo | hinfo) | hinfo
    · split at hinfo
      · next hkind => exact decorated?_settled h.1 (by simpa using hkind) (Option.mem_toList.mp hinfo)
      · cases hinfo
    · exact nestedIn_settled n h.1 info hinfo
    · exact nestedInAll_settled rest h.2 info hinfo
end

/-! ## 2. Types of fields -/

theorem field?_onOneLine {n : Node} {f : FieldInfo} (h : field? n = some f) :
    ∃ s, f.type = collapse s := by
  unfold field? at h
  split at h
  · cases h
  split at h
  · split at h
    · cases h
    · next left type _ _ _ =>
      dsimp only at h
      split at h
      · cases h
      · cases h
        exact ⟨type.text, rfl⟩
  · cases h

theorem classOf_onOneLine (definition : Node) (decorators : List String) :
    (classOf definition decorators).OnOneLine := by
  intro f hf
  unfold classOf at hf
  dsimp only at hf
  split at hf
  · next body _ =>
    obtain ⟨statement, -, hf⟩ := List.mem_flatMap.mp hf
    split at hf
    · obtain ⟨n, -, hn⟩ := List.mem_filterMap.mp hf
      exact field?_onOneLine hn
    · cases hf
  · cases hf

/-! ## 3. Settled findings -/

/-- Decorated definitions that are found are settled, and the types of fields are on one line. -/
def Finding.IsSettled (gs : List Glyph) : Finding → Prop
  | .decorated info => info.IsSettled gs
  | .classed _ info => info.OnOneLine
  | _ => True

/-- Findings all of which are settled. -/
def Settled (gs : List Glyph) (l : List Finding) : Prop := ∀ f ∈ l, f.IsSettled gs

theorem Settled.append {l l' : List Finding} (h : Settled gs l) (h' : Settled gs l') :
    Settled gs (l ++ l') :=
  fun f hf => (List.mem_append.mp hf).elim (h f) (h' f)

theorem Plain.settled {l : List Finding} (h : Plain l) : Settled gs l := by
  intro f hf
  have hplain := h f hf
  cases f <;> first | exact trivial | cases hplain

theorem nestedFindings_settled {n : Node} (h : n.Everywhere (IsSettled gs)) :
    Settled gs (nestedFindings n) := by
  intro f hf
  obtain ⟨info, hinfo, rfl⟩ := List.mem_map.mp hf
  exact nestedIn_settled n h info hinfo

theorem settled_walkKeeps : WalkKeeps (fun n => n.Everywhere (IsSettled gs)) (Settled gs) where
  below _ _ hn hm := hn.child hm
  append _ _ := Settled.append
  plain _ h := h.settled
  ofClass n hn := by
    refine Settled.append (fun f hf => ?_) (nestedFindings_settled hn)
    rcases List.mem_cons.mp hf with rfl | hf
    · exact trivial
    · rw [List.mem_singleton.mp hf]
      exact classOf_onOneLine n []
  ofFunction n hn := (functionName_plain n).settled.append (nestedFindings_settled hn)
  ofDecorated n hn hkind := by
    unfold decoratedFindings
    split
    · next info definition hinfo hd =>
      have hdefinition := hn.child (Node.child?_spec hd).1
      refine Settled.append (Settled.append ?_ ?_) (nestedFindings_settled hdefinition)
      · intro f hf
        rcases List.mem_cons.mp hf with rfl | hf
        · exact decorated?_settled hn hkind hinfo
        · rw [List.mem_singleton.mp hf]
          exact trivial
      · split
        · intro f hf
          rw [List.mem_singleton.mp hf]
          exact classOf_onOneLine definition info.decorators
        · exact Plain.nil.settled
    · exact Plain.nil.settled

/-! ## 4. The table of a module -/

/-- The table of a parsed module keeps to what the module was read from. -/
theorem ofParsed_grows (content : Bytes) (path module : String) (isPackage : Bool) :
    let parsed := Parsed.ofBytes content path
    let t := ofParsed parsed module isPackage
    t.module = module ∧ t.path = path ∧ t.digest = parsed.digest ∧ t.isPackage = isPackage ∧
      t.sound = parsed.isSound ∧ (∀ info ∈ t.decorated, info.IsSettled (glyphs content)) ∧
      ∀ info ∈ t.classes.values, info.OnOneLine := by
  have htree : (Parsed.ofBytes content path).tree.Everywhere (IsSettled (glyphs content)) :=
    (parseModule_everywhere isSettled_buildable _).mono fun _ hn => by
      obtain ⟨d, hrest, -, hn⟩ := hn
      exact hn.of_suffix hrest
  have hsettled : Settled (glyphs content)
      (moduleFindings (Parsed.ofBytes content path) module isPackage) :=
    settled_walkKeeps.allFindings _ _ fun n hn => htree.child hn
  have h := ofParsed_sameModule (Parsed.ofBytes content path) module isPackage
  refine ⟨h.module, h.path, h.digest, h.isPackage, h.sound, fun info hinfo => ?_, fun info hinfo => ?_⟩
  · rw [ofParsed_decoratedOf] at hinfo
    exact hsettled _ (mem_decoratedOf.mp hinfo)
  · obtain ⟨name, hmem⟩ := ofParsed_values _ _ _ hinfo
    exact hsettled _ hmem

end SymbolTable

end FluentBuilders
