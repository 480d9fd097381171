import FluentBuilders.Proofs.Grammar.Echo

/-!
The text that readers of expressions pass over is spelled out by the tokens that they leave.

1. The tokens below nodes that were enclosed, named by a role or turned into targets.
2. `Passage.spells`: the text between two cursors.
3. `Passage.ends`: a passage ends with a token or a piece of a string.
-/

namespace FluentBuilders.Grammar

open Text

variable {c c' : Cursor} {f g : Fragment}

/-! ## 1. Tokens -/

/-- The characters of tokens with the blanks before them. -/
def Fragment.spelled (f : Fragment) : List Char :=
  (Node.leavesAll f).flatMap fun t => t.gap.toList ++ t.text.toList

/-- Blanks alone stand before the tokens. -/
def Fragment.Spaced (f : Fragment) : Prop :=
  ∀ t ∈ Node.leavesAll f, ∀ ch ∈ t.gap.toList, isGapBlank ch = true

theorem leavesAll_branch (kind : Kind) (f : Fragment) :
    Node.leavesAll (branch kind f) = Node.leavesAll f := by
  obtain ⟨before, inner, after, rfl, e, -⟩ := enclose_parts Node.isExtra kind f
  unfold branch
  rw [e, Node.leavesAll_append, Node.leavesAll_append, Node.leavesAll_append, Node.leavesAll,
    Node.leaves, List.append_assoc]

theorem leaves_withRole (r : Role) (n : Node) : (n.withRole r).leaves = n.leaves := by
  cases n <;> simp [Node.withRole, Node.leaves]

theorem leavesAll_withRole (r : Role) (f : Fragment) :
    Node.leavesAll (f.withRole r) = Node.leavesAll f := by
  induction f with
  | nil => rfl
  | cons n rest ih =>
    unfold Fragment.withRole at ih ⊢
    rw [List.map_cons, Node.leavesAll, Node.leavesAll, ih]
    split
    · rfl
    · rw [leaves_withRole]

/-- What is turned into other nodes one by one, each with the same tokens. -/
theorem leavesAll_of_mapM {h : Node → Option Node} (hh : ∀ n m, h n = some m → m.leaves = n.leaves)
    (he : f.mapM h = some g) : Node.leavesAll g = Node.leavesAll f := by
  induction f generalizing g with
  | nil =>
    cases he
    rfl
  | cons n rest ih =>
    rw [List.mapM_cons] at he
    obtain ⟨m, hm, he⟩ := Option.bind_eq_some_iff.mp he
    obtain ⟨ms, hms, he⟩ := Option.bind_eq_some_iff.mp he
    cases he
    rw [Node.leavesAll, Node.leavesAll, hh n m hm, ih hms]

theorem leaves_asTarget {depth : Nat} {n m : Node} (h : asTarget depth n = some m) :
    m.leaves = n.leaves := by
  induction depth generalizing n m with
  | zero => cases h
  | succ depth ih =>
    have hinside : ∀ {new old : Kind} {role : Role} {before : List Node},
        (before.mapM fun child =>
          if child.isExtra || !child.isNamed then some child else asTarget depth child).map
            (Node.tree new role) = some m → m.leaves = (Node.tree old role before).leaves := by
      intro new old role before h
      obtain ⟨after, hafter, rfl⟩ := Option.map_eq_some_iff.mp h
      refine leavesAll_of_mapM (fun n m e => ?_) hafter
      split at e
      · cases e
        rfl
      · exact ih e
    unfold asTarget at h
    dsimp only at h
    split at h
    · cases h
      rfl
    · cases h
      rfl
    · cases h
      rfl
    · exact hinside h
    · exact hinside h
    · exact hinside h
    · exact hinside h
    · cases h
      rfl
    · cases h

theorem leavesAll_asTargets {depth : Nat} (h : f.asTargets? depth = some g) :
    Node.leavesAll g = Node.leavesAll f := by
  refine leavesAll_of_mapM (fun n m e => ?_) h
  split at e
  · cases e
    rfl
  · exact leaves_asTarget e

theorem spelled_append (f g : Fragment) :
    Fragment.spelled (f ++ g) = f.spelled ++ g.spelled := by
  unfold Fragment.spelled
  rw [Node.leavesAll_append, List.flatMap_append]

theorem Fragment.Spaced.append (hf : f.Spaced) (hg : g.Spaced) : Fragment.Spaced (f ++ g) := by
  intro t ht
  rw [Node.leavesAll_append] at ht
  exact (List.mem_append.mp ht).elim (hf t) (hg t)

/-- A text is its tokens with the blanks before them, but for those before the first. -/
theorem Node.text_spelled (n : Node) : ∃ gap : List Char,
    Fragment.spelled [n] = gap ++ n.text.toList ∧
      (Fragment.Spaced [n] → ∀ ch ∈ gap, isGapBlank ch = true) := by
  have hall : Node.leavesAll [n] = n.leaves := by
    rw [Node.leavesAll, Node.leavesAll, List.append_nil]
  unfold Fragment.spelled Fragment.Spaced Node.text
  rw [hall]
  cases n.leaves with
  | nil => exact ⟨[], rfl, fun _ => nofun⟩
  | cons first rest =>
    refine ⟨first.gap.toList, ?_, fun h => h first List.mem_cons_self⟩
    rw [Node.textOf_toList, List.flatMap_cons, List.append_assoc]

/-! ## 2. The text between two cursors -/

theorem trivial_buildable : Buildable fun _ _ => True where
  leaf _ _ _ _ _ := trivial
  absent _ _ _ := trivial
  tree _ _ _ _ _ _ := trivial
  role _ _ _ _ _ := trivial
  definition _ _ _ _ := trivial
  pattern _ _ _ _ _ _ _ _ _ := trivial

theorem Passage.plain (h : Passage c f c') (hc : c.Plain) : c'.Plain := by
  have hspans := h.spans trivial_buildable
  refine ⟨?_, hc.fed.forward hspans.forward hspans.budget⟩
  rcases hspans.repair with e | ⟨e, -⟩
  · exact e.trans hc.repair
  · exact e

/-- The tokens that stay spell out the text, with nothing but blanks between them. -/
theorem Passage.spells (h : Passage c f c') (hc : c.Plain) (hf : f.Stays) :
    chars c.rest = f.spelled ++ chars c'.rest ∧ f.Spaced := by
  induction h with
  | nil c => exact ⟨rfl, List.forall_mem_nil _⟩
  | @token c c' s kind n f hs _ e =>
    obtain ⟨stop, rfl⟩ := hs
    have hsupplied := (Cursor.look_sees hc.repair stop).supplied
    unfold takeLength at e
    rw [hsupplied] at e
    cases e
    have hextras : (c.look stop).extras = [] := by
      refine List.eq_nil_iff_forall_not_mem.mpr fun n hn => ?_
      have hstays := (Node.everywhereIn_iff.mp hf n (List.mem_append_left _ hn)).here
      have hextra := ((c.look_seen stop).extras n hn).isExtra
      rw [Node.isExtra_of_stays hstays] at hextra
      cases hextra
    obtain ⟨passed, htext, hpassed, hgap⟩ := Cursor.look_passed hc.repair hc.fed hextras
    constructor
    · rw [htext, hextras]
      simp only [Fragment.spelled, List.nil_append, Node.leavesAll, Node.leaves, List.append_nil,
        List.flatMap_cons, List.flatMap_nil, hgap, String.toList_ofList, Cursor.spell_toList,
        List.append_assoc]
      rw [Cursor.advance_rest, chars, chars, List.map_drop, List.take_append_drop]
    · intro t ht
      rw [hextras] at ht
      simp only [List.nil_append, Node.leavesAll, Node.leaves, List.append_nil,
        List.mem_singleton] at ht
      rw [ht, hgap, String.toList_ofList]
      exact hpassed
  | @piece c c' count f e =>
    have hrest : chars c.rest = (chars c.rest).take count ++ chars (c.advance count).rest := by
      rw [Cursor.advance_rest, chars, chars, List.map_drop, List.take_append_drop]
    unfold stringPiece at e
    cases e
    split
    · next hnone =>
      rw [hnone] at hrest ⊢
      exact ⟨hrest, List.forall_mem_nil _⟩
    · refine ⟨?_, fun t ht => ?_⟩
      · simpa [Fragment.spelled, Node.leavesAll, Node.leaves, Cursor.spell_toList] using hrest
      · simp only [Node.leavesAll, Node.leaves, List.append_nil, List.mem_singleton] at ht
        rw [ht]
        exact List.forall_mem_nil _
  | @append c c₁ c' f g h₁ _ ih₁ ih₂ =>
    obtain ⟨hf, hg⟩ := stays_append.mp hf
    obtain ⟨htext₁, hspaced₁⟩ := ih₁ hc hf
    obtain ⟨htext₂, hspaced₂⟩ := ih₂ (h₁.plain hc) hg
    exact ⟨by rw [htext₁, htext₂, spelled_append, List.append_assoc], hspaced₁.append hspaced₂⟩
  | @branch c c' f kind _ _ ih =>
    unfold Fragment.spelled Fragment.Spaced at ih ⊢
    rw [leavesAll_branch]
    exact ih hc (stays_of_branch hf)
  | @withRole c c' f r _ _ ih =>
    unfold Fragment.spelled Fragment.Spaced at ih ⊢
    rw [leavesAll_withRole]
    exact ih hc (stays_of_withRole hf)
  | @targets c c' f g depth _ ht ih =>
    unfold Fragment.spelled Fragment.Spaced at ih ⊢
    rw [leavesAll_asTargets ht]
    exact ih hc (stays_of_asTargets ht hf)
  | @beside c c' d d' f _ hd hd' ih =>
    rw [hd.rest, hd'.rest]
    refine ih ⟨hd.repair ▸ hc.repair, ?_⟩ hf
    unfold Cursor.Fed
    rw [← hd.rest, ← hd.budget]
    exact hc.fed

/-! ## 3. The end of a passage -/

theorem Node.isExtra_absent (what : String) (p : Position) : (Node.absent what p).isExtra = false := by
  by_cases hname : what = "identifier" <;> simp [Node.isExtra, Node.kind, hname]

theorem asTarget_isExtra {depth : Nat} {n m : Node} (h : asTarget depth n = some m) :
    m.isExtra = false := by
  cases depth with
  | zero => cases h
  | succ depth =>
    have hinside : ∀ {new : Kind} {role : Role} {children : Option (List Node)},
        (Node.tree new .none []).isExtra = false → children.map (Node.tree new role) = some m →
          m.isExtra = false := by
      intro new role children hnew h
      obtain ⟨after, -, rfl⟩ := Option.map_eq_some_iff.mp h
      exact hnew
    unfold asTarget at h
    dsimp only at h
    split at h
    · cases h
      rfl
    · cases h
      rfl
    · cases h
      rfl
    · exact hinside rfl h
    · exact hinside rfl h
    · exact hinside rfl h
    · exact hinside rfl h
    · cases h
      exact Node.isExtra_absent ..
    · cases h

/-- The last of what was turned into other nodes one by one comes from the last. -/
theorem getLast?_of_mapM {h : Node → Option Node} (he : f.mapM h = some g) :
    ∀ m ∈ g.getLast?, ∃ n ∈ f.getLast?, h n = some m := by
  induction f generalizing g with
  | nil =>
    cases he
    exact nofun
  | cons n rest ih =>
    rw [List.mapM_cons] at he
    obtain ⟨m, hm, he⟩ := Option.bind_eq_some_iff.mp he
    obtain ⟨ms, hms, he⟩ := Option.bind_eq_some_iff.mp he
    cases he
    cases rest with
    | nil =>
      cases hms
      exact fun _ h => ⟨n, rfl, Option.some.inj h ▸ hm⟩
    | cons n' rest =>
      cases ms with
      | nil =>
        obtain ⟨b, hb, -⟩ := (mem_of_mapM hms).2 n' List.mem_cons_self
        cases hb
      | cons m' ms =>
        rw [List.getLast?_cons_cons, List.getLast?_cons_cons]
        exact ih hms

/-- What was read does not end with an extra. -/
theorem Passage.ends (h : Passage c f c') : ∀ n ∈ f.getLast?, n.isExtra = false := by
  induction h with
  | nil c => exact nofun
  | @token c c' s kind n f _ hkind e =>
    obtain ⟨init, last, rfl, hlast⟩ : ∃ init last, f = init ++ [last] ∧ last.isExtra = false := by
      unfold takeLength at e
      cases hsupplied : s.supplied with
      | none =>
        rw [hsupplied] at e
        cases e
        exact ⟨_, _, rfl, hkind⟩
      | some what =>
        rw [hsupplied] at e
        cases e
        exact ⟨_, _, rfl, Node.isExtra_absent ..⟩
    simpa using hlast
  | @piece c c' count f e =>
    unfold stringPiece at e
    cases e
    split
    · exact nofun
    · intro n hn
      cases hn
      rfl
  | @append c c₁ c' f g _ _ ih₁ ih₂ =>
    intro n hn
    rw [List.getLast?_append] at hn
    rcases Option.or_eq_some_iff.mp hn with hn | ⟨-, hn⟩
    · exact ih₂ n hn
    · exact ih₁ n hn
  | @branch c c' f kind _ hkind ih =>
    obtain ⟨before, inner, after, rfl, e, hends⟩ := enclose_parts Node.isExtra kind f
    have hafter : after = [] := by
      by_contra hne
      have hlast := ih (after.getLast hne) (by
        rw [List.getLast?_append, List.getLast?_eq_some_getLast hne]
        rfl)
      rw [hends _ (List.mem_append_right _ (List.getLast_mem hne))] at hlast
      cases hlast
    rw [Grammar.branch, e, hafter]
    simp only [Kind.isOpen, Bool.and_eq_true, Bool.not_eq_true'] at hkind
    intro n hn
    rw [List.getLast?_append] at hn
    cases hn
    exact hkind.2
  | @withRole c c' f r _ _ ih =>
    intro n hn
    unfold Fragment.withRole at hn
    rw [List.getLast?_map] at hn
    obtain ⟨m, hm, rfl⟩ := Option.map_eq_some_iff.mp hn
    split
    · exact ih m hm
    · unfold Node.isExtra
      rw [Node.kind_withRole]
      exact ih m hm
  | @targets c c' f g depth _ ht ih =>
    intro m hm
    obtain ⟨n, hn, e⟩ := getLast?_of_mapM ht m hm
    split at e
    · cases e
      exact ih _ hn
    · exact asTarget_isExtra e
  | beside _ _ _ ih => exact ih

end FluentBuilders.Grammar
