import FluentBuilders.Proofs.Grammar.Reading

/-!
What readers of expressions do with the text that they pass over: they take tokens and pieces of strings,
put them under nodes, name roles and turn expressions into targets. Nothing else is needed to know what
holds of a fragment that they read.

1. `Passage`: a fragment that was read in this way between two cursors.
2. Tokens and lists.
3. Targets of assignments.
4. `Passage.spans`: a passage keeps every property that building trees keeps.
-/

namespace FluentBuilders.Grammar

open Text

/-! ## 1. Passages -/

/-- The token was looked at from the cursor. -/
def Cursor.Saw (c : Cursor) (s : Sight) : Prop := ∃ stop, c.look stop = s

theorem Cursor.Saw.seen {c : Cursor} {s : Sight} (h : c.Saw s) : c.Seen s := by
  obtain ⟨stop, rfl⟩ := h
  exact c.look_seen stop

/-- The cursors stand in the same place of the text, before the same repair. -/
structure Cursor.Beside (c d : Cursor) : Prop where
  rest : c.rest = d.rest
  offset : c.offset = d.offset
  budget : c.budget = d.budget
  repair : c.repair = d.repair

theorem Cursor.Beside.refl (c : Cursor) : c.Beside c := ⟨rfl, rfl, rfl, rfl⟩

/-- Kinds of nodes that any expressions may stand below: the node is no extra, no statements stand below
it, and nothing has to be told of its children. -/
def Kind.isOpen (kind : Kind) : Bool :=
  !kind.isTold && !kind.holdsStatements && !(Node.tree kind .none []).isExtra

/-- A fragment that was read between two cursors from tokens and pieces of strings alone. -/
inductive Passage : Cursor → Fragment → Cursor → Prop
  | nil (c : Cursor) : Passage c [] c
  | token {c c' : Cursor} {s : Sight} {kind : Kind} {n : Nat} {f : Fragment} : c.Saw s →
    (Node.tree kind .none []).isExtra = false → takeLength s kind n c = .ok (f, c') → Passage c f c'
  | piece {c c' : Cursor} {count : Nat} {f : Fragment} : stringPiece count c = .ok (f, c') →
    Passage c f c'
  | append {c c₁ c' : Cursor} {f g : Fragment} : Passage c f c₁ → Passage c₁ g c' →
    Passage c (f ++ g) c'
  | branch {c c' : Cursor} {f : Fragment} {kind : Kind} : Passage c f c' → kind.isOpen = true →
    Passage c (Grammar.branch kind f) c'
  | withRole {c c' : Cursor} {f : Fragment} {r : Role} : Passage c f c' → r ≠ .definition →
    Passage c (f.withRole r) c'
  | targets {c c' : Cursor} {f g : Fragment} {depth : Nat} : Passage c f c' →
    f.asTargets? depth = some g → Passage c g c'
  | beside {c c' d d' : Cursor} {f : Fragment} : Passage d f d' → c.Beside d → c'.Beside d' →
    Passage c f c'

section Tokens

variable {c c' d : Cursor} {f : Fragment} {s : Sight} {kind : Kind}

/-- A cursor at the same place counts as the same. -/
theorem Passage.before (h : Passage d f c') (hrest : d.rest = c.rest) (hoffset : d.offset = c.offset)
    (hbudget : d.budget = c.budget) (hrepair : d.repair = c.repair) : Passage c f c' :=
  h.beside ⟨hrest.symm, hoffset.symm, hbudget.symm, hrepair.symm⟩ (.refl c')

/-- A cursor at the same place counts as the same. -/
theorem Passage.behind (h : Passage c f d) (hrest : c'.rest = d.rest) (hoffset : c'.offset = d.offset)
    (hbudget : c'.budget = d.budget) (hrepair : c'.repair = d.repair) : Passage c f c' :=
  h.beside (.refl c) ⟨hrest, hoffset, hbudget, hrepair⟩

/-! ## 2. Tokens and lists -/

theorem Ensures.see {β : Type} {p : Sight → Reader β} {Q : β → Cursor → Prop}
    (h : ∀ s, c.Saw s → Ensures (p s) c Q) : Ensures (Grammar.look >>= p) c Q :=
  h _ ⟨false, rfl⟩

theorem Ensures.seeOn {β : Type} {p : Sight → Reader β} {Q : β → Cursor → Prop}
    (h : ∀ s, c.Saw s → Ensures (p s) c Q) : Ensures (Grammar.lookOn >>= p) c Q :=
  h _ ⟨c.lineBound, rfl⟩

theorem takeLength_passes (hs : c.Saw s) (hkind : (Node.tree kind .none []).isExtra = false) (n : Nat) :
    Ensures (takeLength s kind n) c (Passage c) := fun _ _ e => .token hs hkind e

theorem take_passes (hs : c.Saw s) (hkind : (Node.tree kind .none []).isExtra = false) :
    Ensures (take s kind) c (Passage c) := takeLength_passes hs hkind _

theorem stringPiece_passes (count : Nat) : Ensures (stringPiece count) c (Passage c) :=
  fun _ _ e => .piece e

theorem word_passes (w : String) : Ensures (word w) c (Passage c) := by
  unfold word
  refine .see fun s hs => ?_
  split
  · exact take_passes hs (by decide)
  · exact .failAt s

theorem mark_passes (m : String) : Ensures (mark m) c (Passage c) := by
  unfold mark
  refine .see fun s hs => ?_
  split
  · exact take_passes hs (by decide)
  · exact .failAt s

theorem identifier_passes : Ensures identifier c (Passage c) := by
  unfold identifier
  refine .see fun s hs => ?_
  split
  · split
    · exact .failAt s
    · exact take_passes hs (by decide)
  · exact .failAt s

theorem bracketed_passes {opening closing : String} {inner : Reader Fragment}
    (hinner : ∀ c, Ensures inner c (Passage c)) :
    Ensures (bracketed opening closing inner) c (Passage c) := by
  unfold bracketed
  refine (mark_passes _).bind fun first c₁ h₁ => .modify ?_
  refine (hinner _).bind fun middle c₂ h₂ => (mark_passes _).bind fun last c₃ h₃ => .modify ?_
  have h := (h₁.append (h₂.before rfl rfl rfl rfl)).append h₃
  exact .pure (h.behind rfl rfl rfl rfl)

theorem withEnds_passes {ends : Bool} {p : Reader Fragment} (hp : ∀ c, Ensures p c (Passage c)) :
    Ensures (withEnds ends p) c (Passage c) := by
  unfold withEnds
  refine .get (.modify ?_)
  refine (hp _).bind fun f c₁ h₁ => .modify (.pure ?_)
  have h : Passage c f c₁ := h₁.before rfl rfl rfl rfl
  exact h.behind rfl rfl rfl rfl

theorem commaList_passes {starts : Token → Bool} {item : Reader Fragment}
    (hitem : ∀ c, Ensures item c (Passage c)) :
    Ensures (commaList starts item) c fun r c' => Passage c r.1 c' := by
  unfold commaList
  refine (hitem c).bind fun first c₁ h₁ => ?_
  refine (Ensures.repeating (Q := fun r c' => Passage c r.1 c') h₁ ?_).bind fun r c₂ h₂ => .pure h₂
  rintro ⟨sofar, several, ended⟩ c₂ h₂
  dsimp only
  split
  · exact .pure h₂
  refine .seeOn fun s hs => ?_
  split
  · exact .pure h₂
  refine (take_passes hs (by decide)).bind fun comma c₃ h₃ => .seeOn fun next _ => ?_
  split
  · exact (hitem _).bind fun f c₄ h₄ => .pure ((h₂.append h₃).append h₄)
  · exact .pure (h₂.append h₃)

end Tokens

variable {P : Cursor → Node → Prop} {c : Cursor}

/-! ## 3. Targets -/

/-- What holds of an item that was turned into another one one by one. -/
theorem mem_of_mapM {α β : Type} {f : α → Option β} {l : List α} {l' : List β}
    (h : l.mapM f = some l') :
    (∀ b ∈ l', ∃ a ∈ l, f a = some b) ∧ ∀ a ∈ l, ∃ b ∈ l', f a = some b := by
  induction l generalizing l' with
  | nil =>
    cases h
    simp
  | cons a rest ih =>
    rw [List.mapM_cons] at h
    obtain ⟨b, hb, h⟩ := Option.bind_eq_some_iff.mp h
    obtain ⟨bs, hbs, h⟩ := Option.bind_eq_some_iff.mp h
    cases h
    obtain ⟨h₁, h₂⟩ := ih hbs
    constructor
    · intro b' hb'
      rcases List.mem_cons.mp hb' with rfl | hb'
      · exact ⟨a, List.mem_cons_self, hb⟩
      · obtain ⟨a', ha', e⟩ := h₁ b' hb'
        exact ⟨a', List.mem_cons_of_mem _ ha', e⟩
    · intro a' ha'
      rcases List.mem_cons.mp ha' with rfl | ha'
      · exact ⟨b, List.mem_cons_self, hb⟩
      · obtain ⟨b', hb', e⟩ := h₂ a' ha'
        exact ⟨b', List.mem_cons_of_mem _ hb', e⟩

/-- What a target shares with the expression that it was. -/
structure TargetOf (P : Cursor → Node → Prop) (n m : Node) : Prop where
  everywhere : ∀ c broken, n.Everywhere (Behind P c broken) → m.Everywhere (Behind P c broken)
  loose : (n.isExtra = true ∨ n.isNamed = false → n.role = .none) →
    m.isExtra = true ∨ m.isNamed = false → m.role = .none
  houses : m.holdsStatements = true → n.holdsStatements = true
  hasError : n.hasError = true → m.hasError = true

theorem TargetOf.same (n : Node) : TargetOf P n n := ⟨fun _ _ => id, id, id, id⟩

/-- An expression with other expressions inside as targets. -/
theorem TargetOf.inside (hP : Buildable P) {old new : Kind} (hkind : BecomesPattern old new)
    {role : Role} {before after : List Node}
    (h₁ : ∀ m ∈ after, ∃ n ∈ before, TargetOf P n m)
    (h₂ : ∀ n ∈ before, ∃ m ∈ after, TargetOf P n m) :
    TargetOf P (.tree old role before) (.tree new role after) where
  everywhere c broken h := by
    have hin := Node.everywhereIn_iff.mpr fun m (hm : m ∈ after) => by
      obtain ⟨n, hn, t⟩ := h₁ m hm
      exact t.everywhere c broken (h.child hn)
    have hholds : ∀ m ∈ after, m.holdsStatements = true → ∃ n ∈ before, n.holdsStatements = true := by
      intro m hm hholds
      obtain ⟨n, hn, t⟩ := h₁ m hm
      exact ⟨n, hn, t.houses hholds⟩
    obtain ⟨d, hrest, hbudget, hplain, hnode⟩ := h.here
    exact ⟨⟨d, hrest, hbudget, hplain, hP.pattern d old new role before after hkind hholds hnode⟩, hin⟩
  loose _ h := by cases hkind <;> simp [Node.isExtra, Node.isNamed, Node.kind] at h
  houses h := by cases hkind <;> cases h
  hasError h := by
    have hold : (old == Kind.error) = false := by cases hkind <;> rfl
    rw [Node.hasError, hold, Bool.false_or] at h
    obtain ⟨n, hn, he⟩ := Node.anyHasError_eq_true.mp h
    obtain ⟨m, hm, t⟩ := h₂ n hn
    rw [Node.hasError, Node.anyHasError_eq_true.mpr ⟨m, hm, t.hasError he⟩, Bool.or_true]

/-- An item of a list of targets: extras, keywords and marks stay as they are. -/
theorem TargetOf.item {depth : Nat} {n m : Node}
    (ih : ∀ {n m : Node}, asTarget depth n = some m → TargetOf P n m)
    (h : (if n.isExtra || !n.isNamed then some n else asTarget depth n) = some m) :
    TargetOf P n m := by
  split at h
  · cases h
    exact .same n
  · exact ih h

theorem asTarget_targetOf (hP : Buildable P) {depth : Nat} {n m : Node}
    (h : asTarget depth n = some m) : TargetOf P n m := by
  induction depth generalizing n m with
  | zero => cases h
  | succ depth ih =>
    have hinside : ∀ {old new role before}, BecomesPattern old new →
        (before.mapM fun child =>
          if child.isExtra || !child.isNamed then some child else asTarget depth child).map
            (Node.tree new role) = some m → TargetOf P (.tree old role before) m := by
      intro old new role before hkind h
      obtain ⟨after, hafter, rfl⟩ := Option.map_eq_some_iff.mp h
      obtain ⟨h₁, h₂⟩ := mem_of_mapM hafter
      refine .inside hP hkind (fun b hb => ?_) fun a ha => ?_
      · obtain ⟨a, ha, e⟩ := h₁ b hb
        exact ⟨a, ha, .item ih e⟩
      · obtain ⟨b, hb, e⟩ := h₂ a ha
        exact ⟨b, hb, .item ih e⟩
    unfold asTarget at h
    dsimp only at h
    split at h
    · cases h
      exact .same _
    · cases h
      exact .same _
    · cases h
      exact .same _
    · exact hinside .tuple h
    · exact hinside .parenthesized h
    · exact hinside .list h
    · exact hinside .splat h
    · cases h
      exact .same _
    · cases h

theorem asTargets_spans (hP : Buildable P) {depth : Nat} {f targets : Fragment} {c' : Cursor}
    (h : Spans P c f c') (ht : f.asTargets? depth = some targets) : Spans P c targets c' := by
  obtain ⟨h₁, h₂⟩ := mem_of_mapM ht
  have hone : ∀ n m, (if n.isExtra || !n.isNamed then some n else asTarget depth n) = some m →
      TargetOf P n m := fun _ _ => .item (asTarget_targetOf hP)
  refine h.replace (fun m hm => ?_) (fun m hm => ?_) (fun m hm hholds => ?_) fun herr => ?_
  · obtain ⟨n, hn, e⟩ := h₁ m hm
    exact (hone n m e).everywhere _ _ (h.nodes n hn)
  · obtain ⟨n, hn, e⟩ := h₁ m hm
    exact (hone n m e).loose (h.loose n hn)
  · obtain ⟨n, hn, e⟩ := h₁ m hm
    exact h.houses n hn ((hone n m e).houses hholds)
  · obtain ⟨n, hn, he⟩ := Node.anyHasError_eq_true.mp herr
    obtain ⟨m, hm, e⟩ := h₂ n hn
    exact Node.anyHasError_eq_true.mpr ⟨m, hm, (hone n m e).hasError he⟩

/-! ## 4. What passages keep -/

theorem stringPiece_spans (hP : Buildable P) (count : Nat) :
    Ensures (stringPiece count) c (Spans P c) := by
  unfold stringPiece
  refine .get (.set (.pure ?_))
  refine
    { forward := .of_advance c count
      budget := c.advance_budget count
      nodes := fun n hn => ?_
      loose := fun n hn _ => ?_
      houses := fun n hn => ?_
      repair := .inl (c.advance_repair count) }
  all_goals
    split at hn
    · cases hn
    rw [List.mem_singleton.mp hn]
  · exact Behind.here (hP.leaf ..)
  · rfl
  · exact nofun

/-- A passage keeps every property that building trees keeps. -/
theorem Passage.spans (hP : Buildable P) {f : Fragment} {c' : Cursor} (h : Passage c f c') :
    Spans P c f c' := by
  induction h with
  | nil c => exact .nil c
  | token hs _ e => exact takeLength_spans hP hs.seen _ _ _ _ e
  | piece e => exact stringPiece_spans hP _ _ _ e
  | append _ _ ih₁ ih₂ => exact ih₁.append ih₂
  | branch _ hkind ih =>
    simp only [Kind.isOpen, Bool.and_eq_true, Bool.not_eq_true'] at hkind
    exact ih.branch hP hkind.1
  | withRole _ hr ih => exact ih.withRole hP hr
  | targets _ ht ih => exact asTargets_spans hP ih ht
  | beside _ hc hc' ih =>
    exact (ih.before hc.rest.symm hc.offset.symm hc.budget.symm hc.repair.symm).behind
      hc'.rest hc'.offset hc'.budget hc'.repair

theorem Ensures.spans (hP : Buildable P) {p : Reader Fragment} (h : Ensures p c (Passage c)) :
    Ensures p c (Spans P c) := h.mono fun _ _ h => h.spans hP

end FluentBuilders.Grammar
