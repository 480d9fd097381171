import FluentBuilders.Proofs.Grammar.Expressions
import FluentBuilders.Proofs.Grammar.Mirror

/-!
Reading a text and reading it with its blanks closed up.

1. `Node.bare`: a node without places and blanks. Two values are `Alike` if they differ in those only.
2. `Node.Stays`: nodes that closing up blanks does not touch.
3. `Echoes`: what one reader gives from the text, another gives from the closed-up text. What is known
   of the end of a reading goes back to its start.
4. The steps of readers.
5. Tokens, brackets and lists.
-/

namespace FluentBuilders.Grammar

open Text

/-! ## 1. Nodes without places and blanks -/

mutual
/-- The node without places and blanks. -/
def Node.bare : Node → Node
  | .leaf kind role _ text _ => .leaf kind role "" text ⟨0, 0⟩
  | .absent what _ => .absent what ⟨0, 0⟩
  | .tree kind role children => .tree kind role (Node.bareAll children)

/-- The nodes without places and blanks. -/
def Node.bareAll : List Node → List Node
  | [] => []
  | n :: rest => Node.bare n :: Node.bareAll rest
end

theorem Node.bareAll_eq (l : List Node) : Node.bareAll l = l.map Node.bare := by
  induction l with
  | nil => rfl
  | cons n rest ih => rw [Node.bareAll, ih, List.map_cons]

@[simp] theorem Node.kind_bare (n : Node) : n.bare.kind = n.kind := by
  cases n <;> simp [Node.bare, Node.kind]

@[simp] theorem Node.isExtra_bare (n : Node) : n.bare.isExtra = n.isExtra := by
  simp [Node.isExtra]

@[simp] theorem Node.isNamed_bare (n : Node) : n.bare.isNamed = n.isNamed := by
  simp [Node.isNamed]

theorem Node.bare_withRole (r : Role) (n : Node) : (n.withRole r).bare = n.bare.withRole r := by
  cases n <;> simp [Node.bare, Node.withRole]

/-- The kind and the text of a token. -/
def Node.Leaf.label (t : Node.Leaf) : Kind × String := (t.kind, t.text)

mutual
/-- The tokens stay as they are, but for places and blanks. -/
theorem Node.leaves_bare : ∀ n : Node, n.bare.leaves.map (·.label) = n.leaves.map (·.label)
  | .leaf .. => by simp [Node.bare, Node.leaves, Node.Leaf.label]
  | .absent .. => by simp [Node.bare, Node.leaves, Node.Leaf.label]
  | .tree _ _ children => by
    rw [Node.bare, Node.leaves, Node.leaves, Node.leavesAll_bare children]

theorem Node.leavesAll_bare : ∀ l : List Node,
    (Node.leavesAll (Node.bareAll l)).map (·.label) = (Node.leavesAll l).map (·.label)
  | [] => rfl
  | n :: rest => by
    rw [Node.bareAll, Node.leavesAll, Node.leavesAll, List.map_append, List.map_append,
      Node.leaves_bare n, Node.leavesAll_bare rest]
end

/-- Values with nodes in them, of which places and blanks can be left out. -/
class Bare (α : Type) where
  bare : α → α

instance : Bare Fragment := ⟨List.map Node.bare⟩

instance : Bare Bool := ⟨id⟩

instance {α β : Type} [Bare α] [Bare β] : Bare (α × β) := ⟨Prod.map Bare.bare Bare.bare⟩

instance {α : Type} [Bare α] : Bare (Option α) := ⟨Option.map Bare.bare⟩

/-- The values differ in places and blanks only. -/
def Alike {α : Type} [Bare α] (a b : α) : Prop := Bare.bare a = Bare.bare b

section Alike

variable {α β : Type} [Bare α] [Bare β] {f f' g g' : Fragment}

theorem Alike.refl (a : α) : Alike a a := rfl

theorem alike_prod {a a' : α} {b b' : β} : Alike (a, b) (a', b') ↔ Alike a a' ∧ Alike b b' :=
  Prod.mk.injEq .. ▸ Iff.rfl

theorem alike_bool {b b' : Bool} : Alike b b' ↔ b = b' := Iff.rfl

theorem alike_some {a a' : α} : Alike (some a) (some a') ↔ Alike a a' := Option.some_inj

theorem alike_fragment : Alike f f' ↔ f.map Node.bare = f'.map Node.bare := Iff.rfl

theorem Alike.append (hf : Alike f f') (hg : Alike g g') : Alike (f ++ g) (f' ++ g') := by
  rw [alike_fragment] at hf hg ⊢
  rw [List.map_append, List.map_append, hf, hg]

theorem bare_branch (kind : Kind) (f : Fragment) :
    (branch kind f).map Node.bare = branch kind (f.map Node.bare) := by
  have hextra : Node.isExtra ∘ Node.bare = Node.isExtra := funext Node.isExtra_bare
  simp only [branch, enclose, List.takeWhile_map, List.dropWhile_map, ← List.map_reverse, hextra,
    List.map_append, List.map_cons, Node.bare, Node.bareAll_eq]

theorem Alike.branch (h : Alike f f') (kind : Kind) :
    Alike (Grammar.branch kind f) (Grammar.branch kind f') := by
  rw [alike_fragment] at h ⊢
  rw [bare_branch, bare_branch, h]

theorem bare_withRole (r : Role) (f : Fragment) :
    (f.withRole r).map Node.bare = Fragment.withRole r (f.map Node.bare) := by
  simp only [Fragment.withRole, List.map_map]
  refine List.map_congr_left fun n _ => ?_
  simp only [Function.comp, Node.isExtra_bare, Node.isNamed_bare]
  split
  · rfl
  · exact Node.bare_withRole r n

theorem Alike.withRole (h : Alike f f') (r : Role) : Alike (f.withRole r) (f'.withRole r) := by
  rw [alike_fragment] at h ⊢
  rw [bare_withRole, bare_withRole, h]

theorem Alike.isEmpty (h : Alike f f') : f'.isEmpty = f.isEmpty := by
  rw [alike_fragment] at h
  rw [← List.isEmpty_map (f := Node.bare), ← h, List.isEmpty_map]

theorem isName_bare (f : Fragment) : Fragment.isName (f.map Node.bare) = f.isName := by
  have hextra : (fun n : Node => !n.isExtra) ∘ Node.bare = fun n => !n.isExtra :=
    funext fun n => congrArg _ n.isExtra_bare
  unfold Fragment.isName Fragment.sole?
  rw [List.filter_map, hextra]
  generalize f.filter (fun n => !n.isExtra) = named
  rcases named with _ | ⟨n, _ | ⟨m, rest⟩⟩
  · rfl
  · exact congrArg (· == Kind.identifier) n.kind_bare
  · rfl

theorem Alike.isName (h : Alike f f') : f'.isName = f.isName := by
  rw [← isName_bare, ← isName_bare f, ← alike_fragment.mp h]

theorem mapM_bare {h : Node → Option Node} (hbare : ∀ n, h n.bare = (h n).map Node.bare)
    (l : List Node) : (l.map Node.bare).mapM h = (l.mapM h).map (List.map Node.bare) := by
  induction l with
  | nil => rfl
  | cons n rest ih =>
    rw [List.map_cons, List.mapM_cons, List.mapM_cons, hbare, ih]
    cases h n with
    | none => rfl
    | some m => cases rest.mapM h <;> rfl

theorem asTarget_bare (depth : Nat) (n : Node) :
    asTarget depth n.bare = (asTarget depth n).map Node.bare := by
  induction depth generalizing n with
  | zero => rfl
  | succ depth ih =>
    have hinside : ∀ (kind : Kind) (role : Role) (children : List Node),
        ((children.map Node.bare).mapM fun child =>
          if child.isExtra || !child.isNamed then some child else asTarget depth child).map
            (Node.tree kind role) =
        ((children.mapM fun child =>
          if child.isExtra || !child.isNamed then some child else asTarget depth child).map
            (Node.tree kind role)).map Node.bare := by
      intro kind role children
      rw [mapM_bare fun child => by
        simp only [Node.isExtra_bare, Node.isNamed_bare]
        split
        · rfl
        · exact ih child]
      simp only [Option.map_map]
      congr 1
      funext l
      simp [Node.bare, Node.bareAll_eq]
    cases n with
    | leaf kind role gap text p => cases kind <;> rfl
    | absent what p => rfl
    | tree kind role children =>
      rw [Node.bare, Node.bareAll_eq]
      cases kind <;> first | exact hinside _ role children | rfl | skip
      all_goals simp [asTarget, Node.bare, Node.bareAll_eq]

theorem Alike.asTargets? (h : Alike f f') (depth : Nat) :
    Alike (f.asTargets? depth) (f'.asTargets? depth) := by
  have hbare : ∀ f : Fragment, Fragment.asTargets? depth (f.map Node.bare) =
      (f.asTargets? depth).map (List.map Node.bare) := fun f => mapM_bare (fun n => by
    simp only [Node.isExtra_bare, Node.isNamed_bare]
    split
    · rfl
    · exact asTarget_bare depth n) f
  exact (hbare f).symm.trans ((congrArg _ h).trans (hbare f'))

end Alike

/-! ## 2. Nodes that stay -/

/-- Whether a line ends in the blanks before a token. -/
def Node.startsLine : Node → Bool
  | .leaf _ _ gap _ _ => gap.toList.contains '\n'
  | _ => false

/-- Whether the text of a token is the same with its blanks closed up, and no line ends right before the
closing brace of a replacement field: a space in its stead could belong to the format. The name `await`
is told from the operator by what follows on its line. -/
def Node.isClosedUp : Node → Bool
  | .leaf kind _ _ text _ =>
    collapseChars false text.toList == text.toList && !(kind == .identifier && text == "await")
  | .absent .. => true
  | .tree kind _ children =>
    kind != .interpolation || children.getLast?.all fun last => !last.startsLine

/-- Whether closing up blanks leaves a node as it is, apart from the blanks before tokens: it is no
comment and no joined line, and nothing inside it needs its blanks. -/
def Node.stays (n : Node) : Bool := !n.isExtra && n.isClosedUp

/-- The nodes of the fragment and all below them stay. -/
def Fragment.Stays (f : Fragment) : Prop := Node.EverywhereIn (·.stays = true) f

section Stays

variable {f g : Fragment}

theorem Node.isExtra_of_stays {n : Node} (h : n.stays = true) : n.isExtra = false := by
  unfold Node.stays at h
  simp_all

@[simp] theorem stays_append : Fragment.Stays (f ++ g) ↔ f.Stays ∧ g.Stays := by
  simp only [Fragment.Stays, Node.everywhereIn_iff, List.mem_append]
  exact ⟨fun h => ⟨fun n hn => h n (.inl hn), fun n hn => h n (.inr hn)⟩,
    fun h n hn => hn.elim (h.1 n) (h.2 n)⟩

theorem stays_of_branch {kind : Kind} (h : Fragment.Stays (branch kind f)) : f.Stays := by
  obtain ⟨before, inner, after, rfl, e, -⟩ := enclose_parts Node.isExtra kind f
  have h : Fragment.Stays (before ++ ([.tree kind .none inner] ++ after)) := e ▸ h
  rw [stays_append, stays_append] at h
  rw [stays_append, stays_append]
  exact ⟨⟨h.1, h.2.1.1.2⟩, h.2.2⟩

theorem stays_of_withRole {r : Role} (h : (f.withRole r).Stays) : f.Stays := by
  rw [Fragment.Stays, Node.everywhereIn_iff] at h ⊢
  intro n hn
  have hn := h _ (List.mem_map_of_mem hn)
  split at hn
  · exact hn
  · cases n with
    | leaf => exact hn
    | absent => exact hn
    | tree => exact hn

theorem stays_of_asTarget {depth : Nat} {n m : Node} (h : asTarget depth n = some m)
    (hm : m.Everywhere (·.stays = true)) : n.Everywhere (·.stays = true) := by
  induction depth generalizing n m with
  | zero => cases h
  | succ depth ih =>
    have hinside : ∀ {new : Kind} {role : Role} {before : List Node},
        (before.mapM fun child =>
          if child.isExtra || !child.isNamed then some child else asTarget depth child).map
            (Node.tree new role) = some m → Node.EverywhereIn (·.stays = true) before := by
      intro new role before h
      obtain ⟨after, hafter, rfl⟩ := Option.map_eq_some_iff.mp h
      rw [Node.everywhereIn_iff]
      intro n hn
      obtain ⟨b, hb, e⟩ := (mem_of_mapM hafter).2 n hn
      have hb := Node.everywhereIn_iff.mp hm.2 b hb
      split at e
      · cases e
        exact hb
      · exact ih e hb
    unfold asTarget at h
    dsimp only at h
    split at h
    · cases h
      exact hm
    · cases h
      exact hm
    · cases h
      exact hm
    · exact ⟨rfl, hinside h⟩
    · exact ⟨rfl, hinside h⟩
    · exact ⟨rfl, hinside h⟩
    · exact ⟨rfl, hinside h⟩
    · cases h
      exact hm
    · cases h

theorem stays_of_asTargets {depth : Nat} {targets : Fragment}
    (h : f.asTargets? depth = some targets) (ht : targets.Stays) : f.Stays := by
  rw [Fragment.Stays, Node.everywhereIn_iff] at ht ⊢
  intro n hn
  obtain ⟨m, hm, e⟩ := (mem_of_mapM h).2 n hn
  split at e
  · cases e
    exact ht _ hm
  · exact stays_of_asTarget e (ht m hm)

end Stays

/-! ## 3. Echoes -/

/-- No repair is to come, and there are steps enough. -/
structure Cursor.Plain (c : Cursor) : Prop where
  repair : c.repair = none
  fed : c.Fed

theorem Cursor.Plain.forward {c d : Cursor} (hc : c.Plain) (h : Forward c d)
    (hbudget : d.budget = c.budget) (hrepair : d.repair = c.repair) : d.Plain :=
  ⟨hrepair.trans hc.repair, hc.fed.forward h hbudget⟩

/-- There is a token before `T`: one on the same line if line ends count, unless it is one of `idle`. -/
def Cursor.Ahead (T : List Char) (idle : List Token) (c : Cursor) : Prop :=
  c.Next T ∧ (c.look c.lineBound = c.look false ∨ (c.look false).token ∈ idle)

/-- The text is read up to `T`, or there is a token before `T`. -/
def Cursor.Settled (T : List Char) (idle : List Token) (c : Cursor) : Prop :=
  chars c.rest = T ∨ c.Ahead T idle

variable {α β : Type} [Bare α] [Bare β] {whole T : List Char} {idle : List Token} {c : Cursor}
  {R R' : Cursor → Cursor → Prop}

theorem Cursor.Settled.within (h : c.Settled T idle) : c.Within T := by
  rcases h with h | h
  · exact h ▸ List.suffix_rfl
  · exact h.1.within

theorem Cursor.Settled.mono {more : List Token} (h : c.Settled T idle)
    (hidle : ∀ t ∈ idle, t ∈ more) : c.Settled T more :=
  h.imp_right fun h => ⟨h.1, h.2.imp_right (hidle _)⟩

theorem Cursor.Settled.next (h : c.Settled T idle) : chars c.rest = T ∨ c.Next T :=
  h.imp_right And.left

theorem Cursor.Next.settled (h : c.Next T) (hidle : (c.look false).token ∈ idle) :
    c.Settled T idle := .inr ⟨h, .inr hidle⟩

theorem Cursor.Next.settledOn (h : c.Next T) (hline : c.look c.lineBound = c.look false) :
    c.Settled T idle := .inr ⟨h, .inl hline⟩

/-- Where `p` gives `a` from a plain cursor `c`, it leaves a plain cursor `d`. If `F` holds of `a` and
`d`, then `H` does, and from every cursor that `R` relates to `c` the reader `p'` gives the like and
leaves a cursor that `R'` relates to `d`. -/
def Echoes (R : Cursor → Cursor → Prop) (p p' : Reader α) (c : Cursor) (F : α → Cursor → Prop)
    (H : Prop) (R' : Cursor → Cursor → Prop) : Prop :=
  ∀ a d, c.Plain → p c = .ok (a, d) → d.Plain ∧ (F a d → H ∧
    ∀ c', R c c' → ∃ a' d', p' c' = .ok (a', d') ∧ Alike a a' ∧ R' d d')

/-- The same between two tokens. -/
abbrev Echo (whole T : List Char) (p p' : Reader α) (c : Cursor) (F : α → Cursor → Prop) (H : Prop) :
    Prop := Echoes (Mirrors whole T false true) p p' c F H (Mirrors whole T false true)

/-! ## 4. Steps -/

/-- The change leaves the place as it is. -/
def Still (g : Cursor → Cursor) : Prop :=
  ∀ c, (g c).rest = c.rest ∧ (g c).budget = c.budget ∧ (g c).repair = c.repair


namespace Echoes

variable {F : α → Cursor → Prop} {G : β → Cursor → Prop} {H : Prop} {p p' : Reader α}

theorem mono {F₁ : α → Cursor → Prop} {H₁ : Prop} {R₁ R₁' : Cursor → Cursor → Prop}
    (h : Echoes R p p' c F H R') (hF : ∀ a d, F₁ a d → F a d) (hH : ∀ a d, F₁ a d → H → H₁)
    (hR : ∀ c', R₁ c c' → R c c') (hR' : ∀ d d', R' d d' → R₁' d d') :
    Echoes R₁ p p' c F₁ H₁ R₁' := by
  intro a d hc e
  obtain ⟨hd, h⟩ := h a d hc e
  refine ⟨hd, fun hfinal => ?_⟩
  obtain ⟨hstart, h⟩ := h (hF a d hfinal)
  refine ⟨hH a d hfinal hstart, fun c' hc' => ?_⟩
  obtain ⟨a', d', e', hlike, hd'⟩ := h c' (hR c' hc')
  exact ⟨a', d', e', hlike, hR' d d' hd'⟩

/-- What is needed of the end may be more, and what is told of the start less. -/
theorem weaken {E : α → Cursor → Prop} {I : Prop} (h : Echoes R p p' c F H R')
    (hF : ∀ a d, E a d → F a d) (hH : ∀ a d, E a d → H → I) : Echoes R p p' c E I R' :=
  h.mono hF hH (fun _ => id) fun _ _ => id

/-- What `F` rules out need not be followed. -/
theorem never (h : ∀ a d, c.Plain → p c = .ok (a, d) → d.Plain ∧ ¬ F a d) :
    Echoes R p p' c F H R' := fun a d hc e =>
  ⟨(h a d hc e).1, fun hF => absurd hF (h a d hc e).2⟩

/-- What is known of all that `p` gives may be used. -/
theorem given {Q F₁ : α → Cursor → Prop} (hQ : Ensures p c Q) (h : Echoes R p p' c F H R')
    (hF : ∀ a d, F₁ a d → Q a d → F a d) : Echoes R p p' c F₁ H R' := by
  intro a d hc e
  obtain ⟨hd, h⟩ := h a d hc e
  exact ⟨hd, fun hfinal => h (hF a d hfinal (hQ a d e))⟩

/-- The second reader may be another that does the same wherever it is to run. -/
theorem congr {q : Reader α} (h : Echoes R p q c F H R')
    (hq : ∀ c', c.Plain → R c c' → H → p' c' = q c') : Echoes R p p' c F H R' := by
  intro a d hc e
  obtain ⟨hd, h⟩ := h a d hc e
  refine ⟨hd, fun hfinal => ?_⟩
  obtain ⟨hH, h⟩ := h hfinal
  refine ⟨hH, fun c' hc' => ?_⟩
  rw [hq c' hc hc' hH]
  exact h c' hc'

theorem pure {a a' : α} (ha : Alike a a') (h : F a c → H) (hR : ∀ c', R c c' → R' c c') :
    Echoes R (Pure.pure a) (Pure.pure a') c F H R' := by
  intro b d hc e
  cases e
  exact ⟨hc, fun hF => ⟨h hF, fun c' hc' => ⟨a', c', rfl, ha, hR c' hc'⟩⟩⟩

/-- Steps that have nothing to add. -/
theorem nothing {step step' : Reader (Option α)} {F : Option α → Cursor → Prop}
    (h : step = Pure.pure none) (h' : step' = Pure.pure none) (hF : F none c → H) :
    Echoes R step step' c F H R := by
  rw [h, h']
  exact .pure rfl hF fun _ => id

theorem failAt (s : Sight) : Echoes R (Grammar.failAt s) p' c F H R' := by
  intro a d hc e
  cases e

/-- One reader after another, where something is known of all that the first gives. -/
theorem bindOf {H₁ : Prop} {R₁ : Cursor → Cursor → Prop} {f f' : α → Reader β}
    {Q : α → Cursor → Prop} (hQ : Ensures p c Q) (hp : Echoes R p p' c F H₁ R₁)
    (hf : ∀ a a' c₁, Alike a a' → Q a c₁ →
      Echoes R₁ (f a) (f' a') c₁ G (F a c₁ ∧ (H₁ → H)) R') :
    Echoes R (p >>= f) (p' >>= f') c G H R' := by
  intro b d hc e
  cases hpc : p c with
  | error s => simp [Bind.bind, StateT.bind, hpc, Except.bind] at e
  | ok r =>
    obtain ⟨a, c₁⟩ := r
    simp only [Bind.bind, StateT.bind, hpc, Except.bind] at e
    obtain ⟨hc₁, hfirst⟩ := hp a c₁ hc hpc
    obtain ⟨hd, hlast⟩ := hf a a c₁ (.refl a) (hQ a c₁ hpc) b d hc₁ e
    refine ⟨hd, fun hG => ?_⟩
    obtain ⟨⟨hF, hH⟩, -⟩ := hlast hG
    obtain ⟨hstart, hfirst⟩ := hfirst hF
    refine ⟨hH hstart, fun c' hc' => ?_⟩
    obtain ⟨a', c₁', e₁, hlike, hc₁'⟩ := hfirst c' hc'
    obtain ⟨b', d', e₂, hlike', hd'⟩ := ((hf a a' c₁ hlike (hQ a c₁ hpc) b d hc₁ e).2 hG).2 c₁' hc₁'
    refine ⟨b', d', ?_, hlike', hd'⟩
    simp only [Bind.bind, StateT.bind, e₁, Except.bind]
    exact e₂

theorem bind {H₁ : Prop} {R₁ : Cursor → Cursor → Prop} {f f' : α → Reader β}
    (hp : Echoes R p p' c F H₁ R₁)
    (hf : ∀ a a' c₁, Alike a a' → Echoes R₁ (f a) (f' a') c₁ G (F a c₁ ∧ (H₁ → H)) R') :
    Echoes R (p >>= f) (p' >>= f') c G H R' :=
  bindOf (Q := fun _ _ => True) (fun _ _ _ => trivial) hp fun a a' c₁ ha _ => hf a a' c₁ ha

/-- The place is used, but only in what both have in common. -/
theorem get {f f' : Cursor → Reader β} (h : Echoes R (f c) (f' c) c G H R')
    (hf : ∀ c', c.Plain → R c c' → H → f' c' = f' c) :
    Echoes R (MonadState.get >>= f) (MonadState.get >>= f') c G H R' :=
  Echoes.congr (q := f' c) (p := f c) h fun c' hc hc' hH => congrFun (hf c' hc hc' hH) c'

/-- The places are used, each in its own text. -/
theorem get_both {f f' : Cursor → Reader β} (h : ∀ c', Echoes R (f c) (f' c') c G H R') :
    Echoes R (MonadState.get >>= f) (MonadState.get >>= f') c G H R' := by
  intro b d hc e
  obtain ⟨hd, hunary⟩ := h c b d hc e
  refine ⟨hd, fun hG => ⟨(hunary hG).1, fun c' hc' => ?_⟩⟩
  exact ((h c' b d hc e).2 hG).2 c' hc'

/-- Counting brackets and minding line ends does not move a cursor. -/
theorem modify_both {g g' : Cursor → Cursor} {f f' : PUnit → Reader β} {exact ended : Bool}
    (hg : Still g) (hg' : Still g')
    (h : Echoes (Mirrors whole T exact ended) (f ⟨⟩) (f' ⟨⟩) (g c) G H R') :
    Echoes (Mirrors whole T exact ended) (modify g >>= f) (modify g' >>= f') c G H R' := by
  intro b d hc e
  obtain ⟨hrest, hbudget, hrepair⟩ := hg c
  have hplain : (g c).Plain :=
    ⟨hrepair.trans hc.repair, by unfold Cursor.Fed; rw [hrest, hbudget]; exact hc.fed⟩
  obtain ⟨hd, hlast⟩ := h b d hplain e
  refine ⟨hd, fun hG => ?_⟩
  obtain ⟨hH, hlast⟩ := hlast hG
  refine ⟨hH, fun c' hc' => hlast (g' c') ?_⟩
  obtain ⟨hrest', hbudget', hrepair'⟩ := hg' c'
  exact ⟨hrepair'.trans hc'.repair, by rw [hbudget, hbudget', hc'.budget],
    by rw [hrest, hrest']; exact hc'.text, by rw [hrest]; exact hc'.read⟩

theorem modify {g : Cursor → Cursor} {f f' : PUnit → Reader β} {exact ended : Bool} (hg : Still g)
    (h : Echoes (Mirrors whole T exact ended) (f ⟨⟩) (f' ⟨⟩) (g c) G H R') :
    Echoes (Mirrors whole T exact ended) (modify g >>= f) (modify g >>= f') c G H R' :=
  modify_both hg hg h

/-- That no repair is to come is known on the way. -/
theorem plain (h : c.Plain → Echoes R p p' c F H R') : Echoes R p p' c F H R' :=
  fun a d hc e => h hc a d hc e

/-- What goes back over one step goes back over its repetition; of the end of the last step more may
have to be known. -/
theorem repeatingTo {I : α → Cursor → Prop} {step step' : α → Reader (Option α)}
    (hbudget : ∀ c c', R c c' → c'.budget = c.budget) (hend : ∀ a c, F a c → I a c)
    (hstep : ∀ a a' c, Alike a a' →
      Echoes R (step a) (step' a') c (fun r d => r.elim (F a d) fun b => I b d) (I a c) R)
    {a a' : α} (ha : Alike a a') :
    Echoes R (Grammar.repeating a step) (Grammar.repeating a' step') c F (I a c) R := by
  have hfrom : ∀ fuel a a' c, Alike a a' →
      Echoes R (repeatFrom step fuel a) (repeatFrom step' fuel a') c F (I a c) R := by
    intro fuel
    induction fuel with
    | zero => exact fun a a' c ha => .pure ha (hend a c) fun _ => id
    | succ fuel ih =>
      intro a a' c ha
      refine (hstep a a' c ha).bind fun r r' c₁ hr => ?_
      cases r with
      | none =>
        cases r' with
        | none => exact .pure ha (fun hF => ⟨hF, id⟩) fun _ => id
        | some b' => cases hr
      | some b =>
        cases r' with
        | none => cases hr
        | some b' =>
          exact (ih b b' c₁ (alike_some.mp hr)).weaken (fun _ _ => id) fun _ _ _ h => ⟨h, id⟩
  unfold Grammar.repeating
  refine .get (hfrom c.budget a a' c ha) fun c' _ hc' _ => ?_
  rw [hbudget c c' hc']

/-- What goes back over one step goes back over its repetition. -/
theorem repeating {step step' : α → Reader (Option α)}
    (hbudget : ∀ c c', R c c' → c'.budget = c.budget)
    (hstep : ∀ a a' c, Alike a a' →
      Echoes R (step a) (step' a') c (fun r d => F (r.getD a) d) (F a c) R)
    {a a' : α} (ha : Alike a a') :
    Echoes R (Grammar.repeating a step) (Grammar.repeating a' step') c F (F a c) R :=
  repeatingTo hbudget (fun _ _ => id) (fun a a' c ha => (hstep a a' c ha).weaken
    (fun r _ h => by cases r <;> exact h) fun _ _ _ => id) ha

end Echoes

/-! ## 5. Tokens -/

/-- A fragment that stays, behind which the text still ends with `T`. -/
def Taken (T : List Char) (f : Fragment) (d : Cursor) : Prop := f.Stays ∧ d.Within T

/-- A fragment that stays, behind which nothing can follow but what is idle. -/
def Fine (T : List Char) (idle : List Token) (f : Fragment) (d : Cursor) : Prop :=
  f.Stays ∧ d.Settled T idle

/-- The second cursor is where `s'` was looked at. -/
def Looks (R : Cursor → Cursor → Prop) (s' : Sight) (c c' : Cursor) : Prop :=
  R c c' ∧ ∃ stop, c'.look stop = s'

namespace Echoes

variable {F : α → Cursor → Prop} {G : β → Cursor → Prop} {H : Prop} {p p' : Reader α}
  {B B' : Sight → Reader β} {exact ended : Bool} {s s' : Sight}

/-- A token was looked at, but does not matter. -/
theorem looked (h : Echoes R p p' c F H R') : Echoes (Looks R s') p p' c F H R' :=
  h.mono (fun _ _ => id) (fun _ _ _ => id) (fun _ hc' => hc'.1) fun _ _ => id

/-- A token is looked at, and there is one before `T`. -/
theorem look_next (h : ∀ s s', c.look false = s → s.Same s' →
      Echoes (Looks (Mirrors whole T exact ended) s') (B s) (B' s') c G (c.Next T ∧ H) R') :
    Echoes (Mirrors whole T exact ended) (Grammar.look >>= B) (Grammar.look >>= B') c G H R' := by
  intro b d hc e
  have hboth := fun s' hs' => h (c.look false) s' rfl hs' b d hc e
  obtain ⟨hd, hunary⟩ := hboth (c.look false) (.refl _)
  refine ⟨hd, fun hG => ?_⟩
  obtain ⟨⟨hnext, hH⟩, -⟩ := hunary hG
  refine ⟨hH, fun c' hc' => ?_⟩
  obtain ⟨hsame, -⟩ := hnext.look hc.repair hc.fed hc' false
  exact ((hboth (c'.look false) hsame).2 hG).2 c' ⟨hc', false, rfl⟩

/-- A token is looked at. If it is not `active`, the end of the text would do as well. -/
theorem look (active : Token → Bool) (hend : active .lineEnd = false)
    (htake : ∀ s s', c.look false = s → s'.token = s.token → active s.token = true →
      Echoes (Looks (Mirrors whole T exact ended) s') (B s) (B' s') c G (c.Next T ∧ H) R')
    (hpass : ∀ s s', active s.token = false → active s'.token = false →
      Echoes (Mirrors whole T exact ended) (B s) (B' s') c G ((chars c.rest = T ∨ c.Next T) ∧ H) R') :
    Echoes (Mirrors whole T exact ended) (Grammar.look >>= B) (Grammar.look >>= B') c G H R' := by
  intro b d hc e
  cases hactive : active (c.look false).token with
  | true =>
    exact look_next (B := B) (fun s s' hs hs' => htake s s' hs hs'.token (hs ▸ hactive)) b d hc e
  | false =>
    obtain ⟨hd, hunary⟩ := hpass (c.look false) (c.look false) hactive hactive b d hc e
    refine ⟨hd, fun hG => ?_⟩
    obtain ⟨⟨hahead, hH⟩, -⟩ := hunary hG
    refine ⟨hH, fun c' hc' => ?_⟩
    have hinactive : active (c'.look false).token = false := by
      rcases hahead with hall | hnext
      · rw [hc'.look_end hall]
        exact hend
      · rw [(hnext.look hc.repair hc.fed hc' false).1.token]
        exact hactive
    exact ((hpass (c.look false) (c'.look false) hactive hinactive b d hc e).2 hG).2 c' hc'

/-- A token is looked at where the clause may be over. If it is not `active`, neither are the tokens
that may stand on the next line. -/
theorem lookOn (idle : List Token) (active : Token → Bool) (hend : active .lineEnd = false)
    (hidle : ∀ t ∈ idle, active t = false) (htext : ∀ t, active t = true → t.isText = true)
    (htake : ∀ s s', c.look false = s → c.look c.lineBound = c.look false → s'.token = s.token →
      active s.token = true →
        Echoes (Looks (Mirrors whole T exact ended) s') (B s) (B' s') c G (c.Next T ∧ H) R')
    (hpass : ∀ s s', active s.token = false → active s'.token = false →
      Echoes (Mirrors whole T exact ended) (B s) (B' s') c G (c.Settled T idle ∧ H) R') :
    Echoes (Mirrors whole T exact ended) (Grammar.lookOn >>= B) (Grammar.lookOn >>= B') c G H R' := by
  intro b d hc e
  cases hactive : active (c.look c.lineBound).token with
  | true =>
    have hline := Cursor.look_onLine hc.repair (htext _ hactive)
    have hboth := fun s' (hs' : s'.token = (c.look c.lineBound).token) =>
      htake (c.look c.lineBound) s' hline hline.symm hs' hactive b d hc e
    obtain ⟨hd, hunary⟩ := hboth (c.look c.lineBound) rfl
    refine ⟨hd, fun hG => ?_⟩
    obtain ⟨⟨hnext, hH⟩, -⟩ := hunary hG
    refine ⟨hH, fun c' hc' => ?_⟩
    obtain ⟨hsame, -⟩ := hnext.look hc.repair hc.fed hc' c'.lineBound
    exact ((hboth _ (hsame.token.trans (congrArg _ hline))).2 hG).2 c' ⟨hc', _, rfl⟩
  | false =>
    obtain ⟨hd, hunary⟩ := hpass (c.look c.lineBound) (c.look c.lineBound) hactive hactive b d hc e
    refine ⟨hd, fun hG => ?_⟩
    obtain ⟨⟨hsettled, hH⟩, -⟩ := hunary hG
    refine ⟨hH, fun c' hc' => ?_⟩
    have hinactive : active (c'.look c'.lineBound).token = false := by
      rcases hsettled with hall | ⟨hnext, hline⟩
      · rw [hc'.look_end hall]
        exact hend
      · rw [(hnext.look hc.repair hc.fed hc' _).1.token]
        rcases hline with hline | hline
        · rw [← hline]
          exact hactive
        · exact hidle _ hline
    exact ((hpass (c.look c.lineBound) _ hactive hinactive b d hc e).2 hG).2 c' hc'

/-- A token that was looked at is taken. -/
theorem takeExact {kind : Kind} (hs : c.look false = s) (htoken : s.token.isText = true) :
    Echoes (Looks (Mirrors whole T exact ended) s') (Grammar.take s kind) (Grammar.take s' kind) c
      (Taken T) (c.Next T) (Mirrors whole T true true) := by
  subst hs
  intro f d hc e
  have hsees := Cursor.look_sees hc.repair false
  have hseen := c.look_seen false
  have htake : Grammar.take (c.look false) kind c = .ok ((c.look false).extras ++
      [.leaf kind .none (c.look false).gap ((c.look false).cursor.spell (c.look false).length)
        (c.look false).cursor.position], (c.look false).behind c) := by
    unfold Grammar.take takeLength
    rw [hsees.supplied]
    rfl
  cases htake.symm.trans e
  obtain ⟨first, more, behind, htext, hlength, hsolid, hpassed⟩ :=
    tokenAt_text (hsees.token htoken) htoken
  have hbehind : chars ((c.look false).behind c).rest = behind := by
    rw [Sight.chars_behind, htext, ← hlength]
    exact List.drop_left ..
  have hplain : ((c.look false).behind c).Plain :=
    ⟨(Cursor.advance_repair ..).trans (Cursor.look_repair hc.repair false),
      hc.fed.forward (d := (c.look false).behind c) (hseen.forward.trans (.of_advance ..))
        ((Cursor.advance_budget ..).trans hseen.budget)⟩
  refine ⟨hplain, fun hF => ?_⟩
  obtain ⟨hstays, hwithin⟩ := hF
  rw [stays_append] at hstays
  have hextras : (c.look false).extras = [] := by
    cases hcons : (c.look false).extras with
    | nil => rfl
    | cons n rest =>
      have hn := Node.isExtra_of_stays (Node.everywhereIn_iff.mp hstays.1 n (by simp [hcons])).here
      rw [(hseen.extras n (by simp [hcons])).isExtra] at hn
      cases hn
  obtain ⟨more', hmore⟩ := hwithin
  have hnext : c.Next T :=
    { extras := hextras
      token := hsees.token htoken
      text := ⟨first, more ++ more', by rw [htext, ← hbehind, ← hmore]; simp, by simp [← hlength],
        hsolid first List.mem_cons_self, hpassed⟩ }
  refine ⟨hnext, fun c' hc' => ?_⟩
  obtain ⟨hmirrors, stop, rfl⟩ := hc'
  obtain ⟨hsame, hextras', hsupplied, -⟩ := hnext.look hc.repair hc.fed hmirrors stop
  refine ⟨(c'.look stop).extras ++ [.leaf kind .none (c'.look stop).gap
    ((c'.look stop).cursor.spell (c'.look stop).length) (c'.look stop).cursor.position],
    (c'.look stop).behind c', ?_, ?_, hnext.behind hc.repair hc.fed hmirrors stop⟩
  · unfold Grammar.take takeLength
    rw [hsupplied]
    rfl
  · have hspell : (c'.look stop).cursor.spell (c'.look stop).length =
        (c.look false).cursor.spell (c.look false).length := congrArg String.ofList hsame.text
    rw [hextras, hextras', hspell]
    rfl

theorem take {kind : Kind} (hs : c.look false = s) (htoken : s.token.isText = true) :
    Echoes (Looks (Mirrors whole T exact ended) s') (Grammar.take s kind) (Grammar.take s' kind) c
      (Taken T) (c.Next T) (Mirrors whole T false true) :=
  (takeExact hs htoken).mono (fun _ _ => id) (fun _ _ _ => id) (fun _ => id)
    fun _ _ h => h.mono nofun id

end Echoes

theorem mark_echoes (m : String) {exact ended : Bool} :
    Echoes (Mirrors whole T exact ended) (mark m) (mark m) c (Taken T)
      (c.Next T ∧ (c.look false).token = .mark m) (Mirrors whole T true true) := by
  unfold mark
  refine .look_next fun s s' hs hs' => ?_
  split
  · next hmark =>
    have hm : s.token = .mark m := by simpa [Sight.isMark] using hmark
    rw [if_pos (by rw [Sight.isMark, hs'.token, hm]; exact beq_self_eq_true _)]
    exact (Echoes.takeExact hs (hm ▸ rfl)).weaken (fun _ _ => id) fun _ _ _ h => ⟨h, h, hs ▸ hm⟩
  · exact .failAt s

/-- Between tokens, a mark. -/
theorem mark_echo (m : String) : Echo whole T (mark m) (mark m) c (Taken T)
    (c.Next T ∧ (c.look false).token = .mark m) :=
  (mark_echoes m).mono (fun _ _ => id) (fun _ _ _ => id) (fun _ => id) fun _ _ h => h.mono nofun id

theorem word_echo (w : String) : Echo whole T (word w) (word w) c (Taken T)
    (c.Next T ∧ (c.look false).token = .word w) := by
  unfold word
  refine .look_next fun s s' hs hs' => ?_
  split
  · next hword =>
    have hw : s.token = .word w := by simpa [Sight.isWord] using hword
    rw [if_pos (by rw [Sight.isWord, hs'.token, hw]; exact beq_self_eq_true _)]
    exact (Echoes.take hs (hw ▸ rfl)).weaken (fun _ _ => id) fun _ _ _ h => ⟨h, h, hs ▸ hw⟩
  · exact .failAt s

theorem identifier_echo : Echo whole T identifier identifier c (Taken T) (c.Next T) := by
  unfold identifier
  refine .look_next fun s s' hs hs' => ?_
  rw [hs'.token]
  split
  · next w hw =>
    split
    · exact .failAt s
    · exact (Echoes.take hs (hw ▸ rfl)).weaken (fun _ _ => id) fun _ _ _ h => ⟨h, h⟩
  · exact .failAt s

/-- What stands between brackets. -/
theorem bracketed_echo {opening closing : String} {inner : Reader Fragment}
    (hinner : ∀ c, Echo whole T inner inner c
      (fun f d => f.Stays ∧ d.Next T ∧ (d.look false).token = .mark closing) (c.Within T)) :
    Echo whole T (bracketed opening closing inner) (bracketed opening closing inner) c
      (Taken T) (c.Next T) := by
  unfold bracketed
  refine (mark_echo opening).bind fun first first' c₁ hfirst => .modify (fun _ => ⟨rfl, rfl, rfl⟩) ?_
  refine (hinner _).bind fun middle middle' c₂ hmiddle => ?_
  refine (mark_echo closing).bind fun last last' c₃ hlast => .modify (fun _ => ⟨rfl, rfl, rfl⟩) ?_
  refine .pure ((hfirst.append hmiddle).append hlast) (fun hF => ?_) fun _ => id
  obtain ⟨hstays, hwithin⟩ := hF
  simp only [stays_append] at hstays
  exact ⟨⟨hstays.2, hwithin⟩,
    fun h₂ => ⟨⟨hstays.1.2, h₂⟩, fun h₁ => ⟨⟨hstays.1.1, h₁⟩, And.left⟩⟩⟩

/-- Items with commas between them. What is known of the place behind an item is at least that what
follows is idle there, and at most that it follows on the same line. -/
theorem commaList_echo {starts : Token → Bool} {item : Reader Fragment} {E : Cursor → Prop}
    (hitem : ∀ c, Echo whole T item item c (fun f d => f.Stays ∧ E d) (c.Next T))
    (hE : ∀ c, E c → c.Settled T idle) (hon : ∀ c, c.Ahead T [] → E c)
    (hstarts : ∀ t, starts t = true → t.isText = true)
    (hidle : ∀ t ∈ idle, starts t = false ∧ (t == .mark ",") = false) :
    Echo whole T (commaList starts item) (commaList starts item) c
      (fun r d => r.1.Stays ∧ E d) (c.Next T) := by
  have hend : starts .lineEnd = false := Bool.eq_false_iff.mpr fun h => by cases hstarts _ h
  unfold commaList
  refine (hitem c).bind fun first first' c₁ hfirst => ?_
  refine Echoes.bind (.repeating (F := fun (r : Fragment × Bool × Bool) d => r.1.Stays ∧ E d)
    (fun _ _ h => h.budget) (fun r r' c₂ hr => ?_) (alike_prod.mpr ⟨hfirst, rfl⟩))
      fun r r' c₂ hr => ?_
  · obtain ⟨sofar, several, ended⟩ := r
    obtain ⟨sofar', several', ended'⟩ := r'
    simp only [alike_prod, alike_bool] at hr
    obtain ⟨hsofar, rfl, rfl⟩ := hr
    dsimp only
    split
    · exact .pure rfl id fun _ => id
    refine .lookOn idle (· == .mark ",") rfl (fun t ht => (hidle t ht).2)
      (fun t ht => by rw [eq_of_beq ht]; rfl) ?_ ?_
    · intro s s' hs hline hs' hcomma
      have hcomma' : s'.isMark "," = true := by rw [Sight.isMark, hs', hcomma]
      simp only [show s.isMark "," = true from hcomma, hcomma', Bool.not_true, Bool.false_eq_true,
        if_false]
      refine (Echoes.take hs (by rw [eq_of_beq hcomma]; rfl)).bind fun comma comma' c₃ hcomma => ?_
      refine .lookOn idle starts hend (fun t ht => (hidle t ht).1) hstarts ?_ ?_
      · intro next next' hnext _ hnext' hstart
        rw [if_pos hstart, if_pos (hnext' ▸ hstart)]
        refine (hitem c₃).looked.bind fun f f' c₄ hf => ?_
        refine .pure (alike_some.mpr (alike_prod.mpr ⟨(hsofar.append hcomma).append hf, rfl⟩))
          (fun hF => ?_) fun _ => id
        obtain ⟨hstays, hd⟩ := hF
        simp only [Option.getD_some, stays_append] at hstays
        exact ⟨⟨hstays.2, hd⟩, fun h₃ => ⟨h₃, ⟨hstays.1.2, h₃.within⟩,
          fun h₂ => ⟨h₂, hstays.1.1, hon c₂ ⟨h₂, .inl hline⟩⟩⟩⟩
      · intro next next' hstart hstart'
        rw [if_neg (by simp [hstart]), if_neg (by simp [hstart'])]
        refine .pure (alike_some.mpr (alike_prod.mpr ⟨hsofar.append hcomma, rfl⟩))
          (fun hF => ?_) fun _ => id
        obtain ⟨hstays, hd⟩ := hF
        simp only [Option.getD_some, stays_append] at hstays
        exact ⟨hE c₃ hd, ⟨hstays.2, (hE c₃ hd).within⟩,
          fun h₂ => ⟨h₂, hstays.1, hon c₂ ⟨h₂, .inl hline⟩⟩⟩
    · intro s s' hs hs'
      have hno : s.isMark "," = false := hs
      have hno' : s'.isMark "," = false := hs'
      simp only [hno, hno', Bool.not_false, if_true]
      exact .pure rfl (fun hF => ⟨hE c₂ hF.2, hF⟩) fun _ => id
  · obtain ⟨all, several, ended⟩ := r
    obtain ⟨all', several', ended'⟩ := r'
    simp only [alike_prod, alike_bool] at hr
    obtain ⟨hall, rfl, rfl⟩ := hr
    exact .pure (alike_prod.mpr ⟨hall, rfl⟩) (fun hF => ⟨hF, fun hfirst => ⟨hfirst, id⟩⟩) fun _ => id

/-- A clause with its own rule on line ends, before a token that is idle in it. -/
theorem withEnds_echo {ends : Bool} {p : Reader Fragment}
    (hp : ∀ c, Echo whole T p p c (Fine T idle) (c.Next T)) :
    Echo whole T (withEnds ends p) (withEnds ends p) c
      (fun f d => f.Stays ∧ d.Next T ∧ (d.look false).token ∈ idle) (c.Next T) := by
  have hends : ∀ outer outer', Echo whole T
      (do
        modify fun c => { c with ends := ends }
        let fragment ← p
        modify fun c => { c with ends := outer }
        return fragment)
      (do
        modify fun c => { c with ends := ends }
        let fragment ← p
        modify fun c => { c with ends := outer' }
        return fragment) c
      (fun f d => f.Stays ∧ d.Next T ∧ (d.look false).token ∈ idle) (c.Next T) := by
    intro outer outer'
    refine .plain fun hc => .modify (fun _ => ⟨rfl, rfl, rfl⟩) ?_
    refine (hp _).bind fun f f' c₁ hf => .plain fun hc₁ => ?_
    refine .modify_both (fun _ => ⟨rfl, rfl, rfl⟩) (fun _ => ⟨rfl, rfl, rfl⟩)
      (.pure hf (fun hF => ?_) fun _ => id)
    obtain ⟨hstays, hnext, htoken⟩ := hF
    have hsame : ({ c₁ with ends := outer } : Cursor).look false = _ :=
      Cursor.look_withEnds hc₁.repair outer false
    rw [hsame] at htoken
    refine ⟨⟨hstays, Cursor.Next.settled ?_ htoken⟩, fun h => ?_⟩
    · exact Cursor.Next.withEnds (c := { c₁ with ends := outer }) hc₁.repair hnext c₁.ends
    · exact Cursor.Next.withEnds (c := { c with ends := ends }) hc.repair h c.ends
  intro f d hc e
  refine ⟨(hends c.ends c.ends f d hc e).1, fun hF => ?_⟩
  exact ⟨((hends c.ends c.ends f d hc e).2 hF).1,
    fun c' hc' => ((hends c.ends c'.ends f d hc e).2 hF).2 c' hc'⟩

end FluentBuilders.Grammar
