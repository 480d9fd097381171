import FluentBuilders.Proofs.Grammar.Echo.Fields
import FluentBuilders.Proofs.Grammar.Spelling
import FluentBuilders.Proofs.Grammar.Statements
import FluentBuilders.Proofs.Text.Utf8

/-!
Annotations read again from their own text, closed up to one line.

1. `ReadsAs`: a text that is an annotation as a whole.
2. `IsHint.reread`: the closed-up text of an annotation that stays is an annotation with the same tokens.
-/

namespace FluentBuilders.Grammar

open Text

/-! ## 1. Texts that are annotations -/

/-- The cursor at the start of a text from which `budget` steps are allowed. -/
def Cursor.startOf (text : String) (budget : Nat) : Cursor :=
  { Cursor.start (glyphs (encode text)) with budget := budget }

theorem Cursor.chars_startOf (text : String) (budget : Nat) :
    chars (Cursor.startOf text budget).rest = text.toList := glyphs_encode text

/-- The texts of the tokens below a node, without the comments. -/
def Node.tokens (n : Node) : List String := (n.leaves.filter (·.kind != .comment)).map (·.text)

/-- Tokens do not depend on places and blanks. -/
theorem Node.tokens_bare (n : Node) : n.bare.tokens = n.tokens := by
  have hlabel : ∀ l : List Node.Leaf, (l.filter (·.kind != .comment)).map (·.text) =
      ((l.map (·.label)).filter (·.1 != .comment)).map (·.2) := fun l => by
    rw [List.filter_map, List.map_map]
    rfl
  rw [Node.tokens, Node.tokens, hlabel, hlabel, Node.leaves_bare]

/-- The whole text reads as one annotation with the given tokens. -/
def ReadsAs (text : String) (tokens : List String) : Prop :=
  ∃ depth budget hint c', typeHint (Knot.tied depth) true (Cursor.startOf text budget) = .ok ([hint], c') ∧
    c'.rest = [] ∧ hint.tokens = tokens

/-! ## 2. Closed-up annotations -/

variable {c c' : Cursor} {depth budget : Nat}

/-- An annotation that stays is all that was read. -/
theorem typeHint_alone {m : Node} {after : Fragment} (hm : m.isExtra = false)
    (h : typeHint (Knot.tied depth) true c = .ok (m :: after, c')) : after = [] := by
  obtain ⟨n, hcore⟩ := typeHint_core true _ _ h
  have hends := (typeHint_passes (Knot.tied_passes depth) true _ _ h).ends
  by_contra hne
  have hextra : (after.getLast hne).isExtra = false := hends _ (by
    rw [List.getLast?_cons, List.getLast?_eq_some_getLast hne]
    rfl)
  have hnone : Fragment.core after = [] := by
    rw [Fragment.core, List.filter_cons_of_pos (by simp [hm])] at hcore
    exact (List.cons.inj hcore).2
  exact List.filter_eq_nil_iff.mp hnone _ (List.getLast_mem hne) (by simp [hextra])

/-- Reading the closed-up text of an annotation. -/
theorem IsHint.reread {hint : Node} (h : IsHint hint) (hstays : hint.Everywhere (·.stays = true)) :
    ReadsAs (collapse hint.text) hint.tokens := by
  obtain ⟨depth, c, m, after, c', hfed, hrepair, hread, rfl⟩ := h
  have hm : m.Everywhere (·.stays = true) := by
    cases m <;> exact hstays
  rw [Node.text, Node.tokens, leaves_withRole]
  change ReadsAs (collapse m.text) m.tokens
  obtain rfl := typeHint_alone (Node.isExtra_of_stays hm.here) hread
  have hplain : c.Plain := ⟨hrepair, hfed⟩
  have hf : Fragment.Stays [m] := ⟨hm, trivial⟩
  obtain ⟨htext, hspaced⟩ :=
    (typeHint_passes (Knot.tied_passes depth) true _ _ hread).spells hplain hf
  obtain ⟨gap, hspelled, hgap⟩ := m.text_spelled
  rw [hspelled] at htext
  have hecho := (typeHint_echo (Knot.tied_echoes (chars c.rest) (chars c'.rest) depth) true
    [m] c' hplain hread).2 ⟨hf, .inl rfl⟩
  have hmirrors : Mirrors (chars c.rest) (chars c'.rest) false true c
      (Cursor.startOf (String.ofList (collapseChars true m.text.toList)) c.budget) :=
    { repair := rfl
      budget := rfl
      text := ⟨gap, m.text.toList, true, htext, by rw [Cursor.chars_startOf, String.toList_ofList],
        hgap hspaced, (absurd · Bool.false_ne_true)⟩
      read := ⟨[], rfl, fun _ _ h => absurd h (Option.not_mem_none _)⟩ }
  obtain ⟨f, d, hagain, halike, hend⟩ := hecho.2 _ hmirrors
  have hlast : ∀ ch ∈ m.text.toList.getLast?, isBlank ch = false := by
    obtain ⟨read, hwhole, hended⟩ := hend.read
    obtain rfl := List.append_cancel_right (htext.symm.trans hwhole)
    intro ch hch
    exact hended rfl ch (by rw [List.getLast?_append, hch]; rfl)
  have hrest : d.rest = [] := by
    obtain ⟨skipped, left, inRun, hleft, hright, -⟩ := hend.text
    have hnone := List.self_eq_append_left.mp hleft
    rw [(List.append_eq_nil_iff.mp hnone).2] at hright
    exact List.map_eq_nil_iff.mp hright
  obtain ⟨m', rfl, hbare⟩ : ∃ m', f = [m'] ∧ m'.bare = m.bare :=
    List.map_eq_singleton_iff.mp (alike_fragment.mp halike).symm
  refine ⟨depth, c.budget, m', d, ?_, hrest, ?_⟩
  · rw [collapse, trimChars_collapseChars hlast]
    exact hagain
  · rw [← Node.tokens_bare, hbare, Node.tokens_bare]

end FluentBuilders.Grammar
