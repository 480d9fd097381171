import FluentBuilders.Proofs.Publication

/-!
Which bytes publishing leaves at the place of a builder.

1. `Holds`: the file of an artifact has exactly the bytes of its text. `Stands`, which is what publishing
   looks for, reads the file and unifies its lines: the two agree where there are no returns.
2. `publish_exact`: what a publication that succeeds has done, and what it does the next time.
-/

namespace FluentBuilders

open Text

variable {t t' : FileTree} {out : Location} {a : Artifact}

/-! ## 1. Bytes and lines -/

/-- The file of an artifact has the bytes of its text, and no others. -/
def Holds (out : Location) (a : Artifact) (t : FileTree) : Prop :=
  t.get? (destination out a.module) = some (.file (encode a.text))

/-- There is no return in what stands at the place of an artifact. -/
def Returnless (out : Location) (a : Artifact) (t : FileTree) : Prop :=
  ∀ c, t.get? (destination out a.module) = some (.file c) → 0x0D ∉ c

/-- What is read from a file has no returns. -/
theorem Stands.lacks (h : Stands out a t) : Lacks '\r' a.text := by
  obtain ⟨c, s, -, -, hunify⟩ := h
  rw [← hunify]
  exact return_not_mem_unifyLines s

theorem Stands.holds (h : Stands out a t) (hreturn : Returnless out a t) : Holds out a t := by
  obtain ⟨c, s, hget, hdecode, hunify⟩ := h
  have hbytes := encode_of_decode? hdecode
  have hlacks : '\r' ∉ s.toList := fun hmem =>
    hreturn c hget (hbytes ▸ mem_encode_return hmem)
  rw [unifyLines_eq hlacks] at hunify
  unfold Holds
  rw [hget, ← hunify, hbytes]

theorem Holds.stands (h : Holds out a t) (hlacks : Lacks '\r' a.text) : Stands out a t :=
  ⟨_, _, h, decode?_encode a.text, unifyLines_eq hlacks⟩

/-- Without returns at its place an artifact stands there where its bytes do. -/
theorem stands_iff_holds (hreturn : Returnless out a t) : Stands out a t ↔ Holds out a t := by
  refine ⟨fun h => h.holds hreturn, fun h => h.stands fun hmem => ?_⟩
  exact hreturn _ h (mem_encode_return hmem)

/-! ## 2. Publishing -/

/-- Publishing an artifact with a return writes its bytes even where they are already. -/
theorem publish_rewrites (hs : t.Sound) (hout : ".." ∉ out) (ha : IsModuleName a.module)
    (h : Holds out a t) (hreturn : ¬ Lacks '\r' a.text) :
    publish (Location.path out) a t =
      (.ok ⟨Location.text (destination out a.module), true⟩, t) := by
  have hother : unifyLines a.text ≠ a.text := fun heq =>
    hreturn (heq ▸ return_not_mem_unifyLines a.text)
  rw [publish_replaces hs hout ha h (decode?_encode a.text) hother,
    FileTree.put_same (destination_ne_nil out a.module) h]

/-- A publication that succeeds tells whether the text was there, as it is read with its lines
unified. If it was not, exactly its bytes are there now; if it was, nothing was touched. Where there had
been no return, its bytes are there in any case, and it tells whether they had been before. Once more, it
finds the text there unless the text itself has a return. -/
theorem publish_exact (hs : t.Sound) (hout : ".." ∉ out) (ha : IsModuleName a.module)
    {p : Published} (h : publish (Location.path out) a t = (.ok p, t')) :
    (p.changed = false ↔ Stands out a t) ∧
      (p.changed = true → Holds out a t') ∧ (p.changed = false → t' = t) ∧
      (Returnless out a t → Holds out a t' ∧ (p.changed = false ↔ Holds out a t)) ∧
      publish (Location.path out) a t' = (.ok ⟨p.path, decide ('\r' ∈ a.text.toList)⟩, t') := by
  have hafter := (publish_later hs hout ha fun _ => False).sound hs
  have hstays : Stands out a t →
      publish (Location.path out) a t = (.ok ⟨Location.text (destination out a.module), false⟩, t) :=
    publish_there hs hout ha
  have hcases := publish_cases hs hout ha
  rw [h] at hafter hcases hstays
  dsimp only at hafter hcases
  cases hcases with
  | there hstands =>
    have hholds : Returnless out a t → Holds out a t := hstands.holds
    refine ⟨⟨fun _ => hstands, fun _ => rfl⟩, fun h => (by cases h), fun _ => rfl,
      fun hreturn => ⟨hholds hreturn, fun _ => hholds hreturn, fun _ => rfl⟩, ?_⟩
    rw [decide_eq_false hstands.lacks, h]
  | @written ready hlater hparent hfree =>
    have hholds : Holds out a (ready.put (destination out a.module) (.file (encode a.text))) :=
      (FileTree.get?_put _ _ _ _ (destination_ne_nil out a.module)).trans (if_pos rfl)
    have hnot : ¬ Stands out a t := fun hstands => by
      have hanswer := (Prod.mk.inj (hstays hstands)).1
      cases hanswer
    refine ⟨⟨fun h => (by cases h), fun h => absurd h hnot⟩, fun _ => hholds,
      fun h => (by cases h), fun hreturn => ⟨hholds, fun h => (by cases h), fun h => ?_⟩, ?_⟩
    · exact absurd ((stands_iff_holds hreturn).mpr h) hnot
    · by_cases hreturn : Lacks '\r' a.text
      · rw [decide_eq_false hreturn, publish_there hafter hout ha (hholds.stands hreturn)]
      · rw [decide_eq_true (not_not.mp hreturn), publish_rewrites hafter hout ha hholds hreturn]

/-- A builder with a text. -/
def builderOf (text : String) : Artifact where
  package := "p"
  typeName := "FooBuilder"
  module := "p.foo_builder"
  text := text
  source := "p.a.Foo"
  dependencies := []
  aggregating := false

/-- A tree in which the file of the builder has a content. -/
def placed (content : String) : FileTree where
  entries := [(["p"], .directory), (["p", "foo_builder.py"], .file (encode content))]
  here := []

/-- A new text takes the place of the old one, and is there the next time. -/
theorem publish_exact_line :
    publish (Location.path []) (builderOf "x = 1\n") (placed "x = 0\n") =
        (.ok ⟨"/p/foo_builder.py", true⟩, placed "x = 1\n") ∧
      Holds [] (builderOf "x = 1\n") (placed "x = 1\n") ∧
      publish (Location.path []) (builderOf "x = 1\n") (placed "x = 1\n") =
        (.ok ⟨"/p/foo_builder.py", false⟩, placed "x = 1\n") := by
  have h : publish (Location.path []) (builderOf "x = 1\n") (placed "x = 0\n") =
      (.ok ⟨"/p/foo_builder.py", true⟩, placed "x = 1\n") := rfl
  have hs : (placed "x = 0\n").Sound := .of_entries (by decide) (by decide) rfl (by decide)
  obtain ⟨-, hholds, -, -, hagain⟩ :=
    publish_exact hs (by decide) (isModuleName_of_isDotted (by decide +kernel)) h
  exact ⟨h, hholds rfl, hagain⟩

/-- Where the line ends in a return and a line feed, the text is taken to be there although its bytes
are not. A text with such a line is written although its bytes are there. -/
theorem publish_translates :
    publish (Location.path []) (builderOf "x = 1\n") (placed "x = 1\r\n") =
        (.ok ⟨"/p/foo_builder.py", false⟩, placed "x = 1\r\n") ∧
      ¬ Holds [] (builderOf "x = 1\n") (placed "x = 1\r\n") ∧
      publish (Location.path []) (builderOf "x = 1\r\n") (placed "x = 1\r\n") =
        (.ok ⟨"/p/foo_builder.py", true⟩, placed "x = 1\r\n") ∧
      Holds [] (builderOf "x = 1\r\n") (placed "x = 1\r\n") := by
  refine ⟨rfl, ?_, rfl, rfl⟩
  unfold Holds
  decide

end FluentBuilders
