import FluentBuilders.Proofs.Grammar.Statements
import FluentBuilders.Proofs.SymbolTable.Findings
import FluentBuilders.Proofs.Text.Dotted
import FluentBuilders.Proofs.Text.Identifier

/-!
What relative imports bind, by the dots before the name of the module.

1. `isSmooth`: nodes between whose tokens nothing but blanks stands.
2. The text of a node from its tokens.
3. Dots, and names with dots between them, as tokens.
4. `relativeBase` by the number of dots and the names behind them.
5. `addFrom_relative`: each dot but the first leads one package up. One dot more than there are
   packages leads to the names behind the dots alone (`addFrom_beyond`), and further dots nowhere.
-/

namespace FluentBuilders

open Text Grammar

namespace SymbolTable

/-! ## 1. Nodes without extras -/

mutual
/-- Whether nothing but blanks stands between the tokens of a node, and all of them are there. -/
def isSmooth : Node → Bool
  | .leaf kind role gap text p => !(Node.leaf kind role gap text p).isExtra && isAllBlank gap
  | .absent .. => false
  | .tree kind role children => !(Node.tree kind role children).isExtra && areSmooth children

/-- The same of consecutive nodes. -/
def areSmooth : List Node → Bool
  | [] => true
  | n :: rest => isSmooth n && areSmooth rest
end

variable {n : Node} {l : List Node}

theorem areSmooth_iff : areSmooth l = true ↔ ∀ n ∈ l, isSmooth n = true := by
  induction l with
  | nil => simp [areSmooth]
  | cons n rest ih => simp [areSmooth, ih]

theorem isExtra_of_isSmooth (h : isSmooth n = true) : n.isExtra = false := by
  cases n with
  | absent => cases h
  | _ => simpa using (Bool.and_eq_true_iff.mp h).1

theorem core_of_areSmooth (h : areSmooth l = true) : Fragment.core l = l :=
  List.filter_eq_self.mpr fun n hn => by
    rw [isExtra_of_isSmooth (areSmooth_iff.mp h n hn)]
    rfl

mutual
/-- The gaps between the tokens are blank. -/
theorem gap_of_isSmooth : ∀ n : Node, isSmooth n = true → ∀ t ∈ n.leaves, isAllBlank t.gap = true
  | .leaf .., h, t, ht => by
    rw [Node.leaves, List.mem_singleton] at ht
    subst ht
    exact (Bool.and_eq_true_iff.mp h).2
  | .absent .., h, _, _ => by cases h
  | .tree _ _ children, h, t, ht =>
    gap_of_areSmooth children (Bool.and_eq_true_iff.mp h).2 t ht

theorem gap_of_areSmooth : ∀ l : List Node, areSmooth l = true →
    ∀ t ∈ Node.leavesAll l, isAllBlank t.gap = true
  | [], _, _, ht => by cases ht
  | n :: rest, h, t, ht => by
    rw [areSmooth, Bool.and_eq_true] at h
    rw [Node.leavesAll, List.mem_append] at ht
    exact ht.elim (gap_of_isSmooth n h.1 t) (gap_of_areSmooth rest h.2 t)
end

/-- A token that is there. -/
theorem leaf_of_isSmooth {p : String → Prop} (h : isSmooth n = true) (htoken : n.IsToken p) :
    ∃ t : Node.Leaf, n.leaves = [t] ∧ p t.text := by
  cases htoken with
  | leaf kind gap text position htext => exact ⟨_, rfl, htext⟩
  | absent => cases h

/-! ## 2. Texts of tokens -/

/-- What is not blank in a text whose gaps are blank. -/
theorem filter_textOf {tokens : List Node.Leaf} (h : ∀ t ∈ tokens, isAllBlank t.gap = true)
    {p : Char → Bool} (hp : ∀ c, isBlank c = true → p c = false) :
    (Node.textOf tokens).toList.filter p =
      (tokens.map (·.text)).flatMap fun s => s.toList.filter p := by
  cases tokens with
  | nil => rfl
  | cons first rest =>
    rw [Node.textOf_toList, List.filter_append, List.filter_flatMap, List.map_cons, List.flatMap_cons,
      List.flatMap_map]
    congr 1
    refine List.flatMap_congr fun t ht => ?_
    have hgap : t.gap.toList.filter p = [] := List.filter_eq_nil_iff.mpr fun c hc => by
      rw [hp c (List.all_eq_true.mp (h t (List.mem_cons_of_mem _ ht)) c hc)]
      exact Bool.false_ne_true
    rw [List.filter_append, hgap, List.nil_append]

/-! ## 3. Dots and names -/

/-- Dots as tokens. -/
theorem dots_tokens (hsmooth : areSmooth l = true) (h : ∀ n ∈ l, n.IsToken (· = ".")) :
    (Node.leavesAll l).map (·.text) = List.replicate l.length "." := by
  induction l with
  | nil => rfl
  | cons n rest ih =>
    rw [areSmooth, Bool.and_eq_true] at hsmooth
    obtain ⟨t, ht, htext⟩ := leaf_of_isSmooth hsmooth.1 (h n List.mem_cons_self)
    rw [Node.leavesAll, ht, List.map_append, ih hsmooth.2 fun m hm => h m (List.mem_cons_of_mem _ hm),
      List.map_singleton, htext]
    rfl

/-- There are as many dots in the text of dots. -/
theorem count_dots {role : Role} (hsmooth : areSmooth l = true) (h : ∀ n ∈ l, n.IsToken (· = ".")) :
    (Node.tree .importPrefix role l).text.toList.count '.' = l.length := by
  have hblank : ∀ c, isBlank c = true → (c == '.') = false := fun c hc => by
    rw [beq_eq_false_iff_ne]
    rintro rfl
    exact absurd hc (by decide)
  rw [List.count_eq_length_filter, Node.text, Node.leaves,
    filter_textOf (gap_of_areSmooth l hsmooth) hblank, dots_tokens hsmooth h]
  simp

/-- One more name stands behind one more dot. -/
theorem intersperse_concat {names : List String} (hne : names ≠ []) (name : String) :
    (names ++ [name]).intersperse "." = names.intersperse "." ++ [".", name] := by
  induction names with
  | nil => exact absurd rfl hne
  | cons first rest ih =>
    cases rest with
    | nil => rfl
    | cons second rest =>
      rw [List.cons_append, List.cons_append, List.intersperse_cons_cons,
        List.intersperse_cons_cons, ← List.cons_append, ih (List.cons_ne_nil _ _)]
      rfl

theorem mem_intersperse {names : List String} {s : String} (h : s ∈ names.intersperse ".") :
    s ∈ names ∨ s = "." := by
  induction names with
  | nil => cases h
  | cons first rest ih =>
    cases rest with
    | nil => exact .inl h
    | cons second rest =>
      rw [List.intersperse_cons_cons, List.mem_cons, List.mem_cons] at h
      rcases h with rfl | rfl | h
      · exact .inl List.mem_cons_self
      · exact .inr rfl
      · exact (ih h).imp_left (List.mem_cons_of_mem _)

/-- Names with dots between them as tokens. -/
theorem namesDotted_tokens (h : NamesDotted l) (hsmooth : areSmooth l = true) :
    ∃ names, names ≠ [] ∧ (∀ name ∈ names, IsName name) ∧
      (Node.leavesAll l).map (·.text) = names.intersperse "." := by
  induction h with
  | @one name hname =>
    rw [areSmooth, Bool.and_eq_true] at hsmooth
    obtain ⟨t, ht, htext⟩ := leaf_of_isSmooth hsmooth.1 hname
    refine ⟨[t.text], by simp, by simpa using htext, ?_⟩
    rw [Node.leavesAll, ht]
    rfl
  | @more l dot name _ hdot hname ih =>
    have hall := areSmooth_iff.mp hsmooth
    obtain ⟨names, hne, hnames, htexts⟩ := ih (areSmooth_iff.mpr fun n hn => hall n (by simp [hn]))
    obtain ⟨d, hd, hdtext⟩ := leaf_of_isSmooth (hall dot (by simp)) hdot
    obtain ⟨t, ht, htext⟩ := leaf_of_isSmooth (hall name (by simp)) hname
    refine ⟨names ++ [t.text], by simp, fun s hs => ?_, ?_⟩
    · rcases List.mem_append.mp hs with hs | hs
      · exact hnames s hs
      · rwa [List.mem_singleton.mp hs]
    · rw [Node.leavesAll_append, List.map_append, htexts, intersperse_concat hne, Node.leavesAll,
        Node.leavesAll, Node.leavesAll, hd, ht, ← hdtext]
      rfl

/-- A dotted name consists of its parts and the dots between them. -/
theorem joinDotted_toList (names : List String) :
    (joinDotted names).toList = (names.intersperse ".").flatMap String.toList := by
  unfold joinDotted
  rw [String.toList_intercalate, List.intercalate]
  induction names with
  | nil => rfl
  | cons first rest ih =>
    cases rest with
    | nil => simp
    | cons second rest =>
      rw [List.map_cons, List.map_cons, List.intersperse_cons_cons, List.intersperse_cons_cons,
        List.flatten_cons, List.flatten_cons, ← List.map_cons, ih]
      rfl

/-- The dotted name that its tokens spell. -/
theorem dotted_names {role : Role} {names : List String} (hsmooth : areSmooth l = true)
    (hnames : ∀ name ∈ names, IsName name)
    (htexts : (Node.leavesAll l).map (·.text) = names.intersperse ".") :
    dotted (.tree .dottedName role l) = joinDotted names := by
  refine String.toList_injective ?_
  unfold dotted dropBlanks Node.text
  rw [String.toList_ofList, Node.leaves, filter_textOf (gap_of_areSmooth l hsmooth)
    (fun c hc => by rw [hc]; rfl), htexts, joinDotted_toList]
  refine List.flatMap_congr fun s hs => List.filter_eq_self.mpr fun c hc => ?_
  rw [Bool.not_eq_true', Bool.eq_false_iff]
  intro hblank
  -- neither a name nor a dot has a blank
  rcases mem_intersperse hs with hname | rfl
  · have hchar := (hnames s hname).2 c hc
    rw [isNameChar_of_isBlank hblank] at hchar
    cases hchar
  · rw [List.mem_singleton.mp hc] at hblank
    exact absurd hblank (by decide)

/-- A dotted name at the end of a dotted name. -/
theorem joinDotted_nested (parts : List String) {names : List String} (hne : names ≠ []) :
    joinDotted (parts ++ [joinDotted names]) = joinDotted (parts ++ names) := by
  refine String.toList_injective ?_
  rw [joinDotted_toList, joinDotted_toList]
  induction parts with
  | nil =>
    rw [List.nil_append, List.nil_append, ← joinDotted_toList names, List.intersperse_singleton,
      List.flatMap_singleton]
  | cons first rest ih =>
    obtain ⟨x, l, hx⟩ := List.exists_cons_of_ne_nil (l := rest ++ [joinDotted names]) (by simp)
    obtain ⟨y, l', hy⟩ := List.exists_cons_of_ne_nil (l := rest ++ names) (by simp [hne])
    rw [hx, hy] at ih
    rw [List.cons_append, List.cons_append, hx, hy, List.intersperse_cons_cons,
      List.intersperse_cons_cons, List.flatMap_cons, List.flatMap_cons, List.flatMap_cons,
      List.flatMap_cons, ih]

/-! ## 4. The module of a relative import -/

/-- The parts of the name of a package; there are none at the top. -/
def partsOf (package : String) : List String :=
  if package.isEmpty then [] else dottedParts package

/-- The module that dots and a dotted name lead to. -/
theorem relativeBase_eq (package : String) (role : Role) {dots : List Node} (named : List Node)
    (hsmooth : areSmooth dots = true) (hdots : ∀ n ∈ dots, n.IsToken (· = "."))
    (hnamed : named.filter (·.kind == .importPrefix) = []) :
    relativeBase package (.tree .relativeImport role (.tree .importPrefix .none dots :: named)) =
      if (partsOf package).length + 1 < dots.length then none
      else some (joinDotted ((partsOf package).take ((partsOf package).length - (dots.length - 1)) ++
        (named.filter (·.kind == .dottedName)).map dotted)) := by
  unfold relativeBase
  dsimp only [Node.children]
  rw [List.filter_cons_of_pos rfl, hnamed, List.foldl_cons, List.foldl_nil, Nat.zero_add,
    count_dots hsmooth hdots, List.filter_cons_of_neg (by exact Bool.false_ne_true)]
  rfl

/-- The place of a relative import by its tokens. -/
theorem place_tokens {children : List Node} (hplace : IsPlace children)
    (hsmooth : areSmooth children = true) :
    ∃ level names, (∀ name ∈ names, IsName name) ∧
      (Node.leavesAll children).map (·.text) =
        List.replicate level "." ++ names.intersperse "." ∧
      ∀ package role, relativeBase package (.tree .relativeImport role children) =
        if (partsOf package).length + 1 < level then none
        else some (joinDotted
          ((partsOf package).take ((partsOf package).length - (level - 1)) ++ names)) := by
  obtain ⟨dots, named, hcore, hdots, hnamed⟩ := hplace
  rw [core_of_areSmooth hsmooth] at hcore
  subst hcore
  rw [areSmooth, Bool.and_eq_true, isSmooth, Bool.and_eq_true] at hsmooth
  obtain ⟨⟨-, hsmoothDots⟩, hsmoothNamed⟩ := hsmooth
  rw [core_of_areSmooth hsmoothDots] at hdots
  rw [Node.leavesAll, List.map_append, Node.leaves, dots_tokens hsmoothDots hdots]
  refine ⟨dots.length, ?_⟩
  rcases hnamed with rfl | ⟨parts, rfl, hparts⟩
  · refine ⟨[], by simp, rfl, fun package role => ?_⟩
    exact relativeBase_eq package role [] hsmoothDots hdots rfl
  · rw [areSmooth, Bool.and_eq_true, isSmooth, Bool.and_eq_true] at hsmoothNamed
    obtain ⟨⟨-, hsmoothParts⟩, -⟩ := hsmoothNamed
    rw [core_of_areSmooth hsmoothParts] at hparts
    obtain ⟨names, hne, hnames, htexts⟩ := namesDotted_tokens hparts hsmoothParts
    refine ⟨names, hnames, ?_, fun package role => ?_⟩
    · rw [Node.leavesAll, Node.leavesAll, Node.leaves, List.append_nil, htexts]
    · rw [relativeBase_eq package role _ hsmoothDots hdots rfl, List.filter_cons_of_pos rfl,
        List.filter_nil, List.map_singleton, dotted_names hsmoothParts hnames htexts,
        joinDotted_nested _ hne]

/-! ## 5. What relative imports bind -/

/-- A place of a relative import has dots and possibly a name. -/
theorem isPlace_buildable : Buildable fun _ n =>
    ∀ role children, n = .tree .relativeImport role children → IsPlace children where
  leaf _ _ _ _ _ := nofun
  absent _ _ _ := nofun
  tree _ _ kind children hformed _ := by
    rintro role children' e
    cases e
    exact hformed.place rfl
  role _ n r _ h := by
    rintro role children e
    cases n <;> cases e
    exact h _ _ rfl
  definition _ n _ h := by
    rintro role children e
    cases n <;> cases e
    exact h _ _ rfl
  pattern _ old new role before after hkind _ _ := by
    rintro role' children e
    cases e
    cases hkind

/-- An import from a place that starts with `level` dots, wherever it stands in a text. With at most as
many dots as the package has parts, it binds its names under the package without `level - 1` of its
last parts, followed by the names behind the dots. One dot more leaves only those names, and with
further dots nothing is bound. Only blanks may stand between the tokens of the place. -/
theorem addFrom_relative (content : Bytes) (path : String) :
    (Parsed.ofBytes content path).tree.Everywhere fun n => ∀ role children,
      n.child? .moduleName = some (.tree .relativeImport role children) →
      areSmooth children = true →
      ∃ level names, (Node.leavesAll children).map (·.text) =
          List.replicate level "." ++ names.intersperse "." ∧
        (∀ name ∈ names, IsName name) ∧
        ∀ t : SymbolTable,
          (level ≤ (partsOf t.package).length →
            t.addFrom n = t.noteAll (importFromFindings (joinDotted
              ((partsOf t.package).take ((partsOf t.package).length - (level - 1)) ++ names)) n)) ∧
          (level = (partsOf t.package).length + 1 →
            t.addFrom n = t.noteAll (importFromFindings (joinDotted names) n)) ∧
          ((partsOf t.package).length + 1 < level → t.addFrom n = t) := by
  have htree := parseModule_everywhere isPlace_buildable (glyphs content)
  refine (Node.Everywhere.below _ htree).mono (fun n hn role children hplace hsmooth => ?_) _
  obtain ⟨-, -, -, hchild⟩ := (hn.child (Node.child?_spec hplace).1).here
  obtain ⟨level, names, hnames, htokens, hbase⟩ := place_tokens (hchild _ _ rfl) hsmooth
  refine ⟨level, names, htokens, hnames, fun t => ?_⟩
  have hadd : t.addFrom n = t.noteAll
      ((relativeBase t.package (.tree .relativeImport role children)).elim []
        (importFromFindings · n)) := by
    rw [addFrom_eq, fromFindings]
    simp only [hplace]
    rw [if_pos (show ((Node.tree .relativeImport role children).kind == .relativeImport) = true
      from rfl)]
    cases relativeBase t.package (.tree .relativeImport role children) <;> rfl
  rw [hadd, hbase]
  refine ⟨fun hlevel => ?_, fun hlevel => ?_, fun hlevel => ?_⟩
  · rw [if_neg (by omega)]
    rfl
  · have hnone : (partsOf t.package).length - (level - 1) = 0 := by omega
    rw [if_neg (by omega), hnone, List.take_zero, List.nil_append]
    rfl
  · rw [if_pos hlevel]
    rfl

/-- A module at the top that imports from its own package binds the name, as if it were that of a
module. -/
theorem addFrom_beyond :
    let t := ofParsed (.ofText "from . import x\n" "m.py") "m" false
    t.sound = true ∧ t.package = "" ∧ t.imports.get? "x" = some "x" := by
  decide +kernel

end SymbolTable

end FluentBuilders
