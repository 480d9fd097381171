import FluentBuilders.Text.Blank

/-!
Texts on one line: the only blank in them is the space.

1. What is left of the characters of a text.
2. Texts that are closed up in parts, and those that stay as they are.
3. Blanks at the ends.
-/

namespace FluentBuilders.Text

variable {c : Char} {cs : List Char}

/-! ## 1. Characters -/

theorem mem_trimWhile {drop : Char → Bool} (h : c ∈ trimWhile drop cs) : c ∈ cs := by
  have hfront := (List.dropWhile_sublist drop).subset (List.mem_reverse.mp h)
  exact (List.dropWhile_sublist drop).subset (List.mem_reverse.mp hfront)

theorem mem_collapseChars {inRun : Bool} (h : c ∈ collapseChars inRun cs) :
    c = ' ' ∨ isBlank c = false := by
  induction cs generalizing inRun with
  | nil => cases h
  | cons d rest ih =>
    unfold collapseChars at h
    split at h
    · split at h
      · exact ih h
      · rcases List.mem_cons.mp h with rfl | h
        · exact .inl rfl
        · exact ih h
    · next hd =>
      rcases List.mem_cons.mp h with rfl | h
      · exact .inr (by simpa using hd)
      · exact ih h

theorem mem_collapse {s : String} (h : c ∈ (collapse s).toList) : c = ' ' ∨ isBlank c = false := by
  unfold collapse at h
  rw [String.toList_ofList] at h
  exact mem_collapseChars (mem_trimWhile h)

/-- Closing up blanks brings in nothing but spaces. -/
theorem mem_of_mem_collapseChars {inRun : Bool} (h : c ∈ collapseChars inRun cs)
    (hc : isBlank c = false) : c ∈ cs := by
  induction cs generalizing inRun with
  | nil => cases h
  | cons d rest ih =>
    unfold collapseChars at h
    split at h
    · split at h
      · exact List.mem_cons_of_mem _ (ih h)
      · rcases List.mem_cons.mp h with rfl | h
        · cases hc
        · exact List.mem_cons_of_mem _ (ih h)
    · rcases List.mem_cons.mp h with rfl | h
      · exact List.mem_cons_self
      · exact List.mem_cons_of_mem _ (ih h)

theorem length_collapseChars_le (inRun : Bool) (cs : List Char) :
    (collapseChars inRun cs).length ≤ cs.length := by
  induction cs generalizing inRun with
  | nil => exact Nat.le_refl 0
  | cons d rest ih =>
    have h₁ := ih true
    have h₂ := ih false
    unfold collapseChars
    split
    · split <;> simp only [List.length_cons] <;> omega
    · simp only [List.length_cons]
      omega

/-! ## 2. Parts of texts -/

/-- Behind a character that is no blank, a new run starts. -/
theorem collapseChars_solid (inRun : Bool) (h : isBlank c = false) (cs : List Char) :
    collapseChars inRun (c :: cs) = c :: collapseChars false cs := by
  rw [collapseChars, if_neg (by simp [h])]

theorem collapseChars_append {rest : List Char} (inRun : Bool) (h : isBlank c = false) :
    collapseChars inRun (cs ++ c :: rest) =
      collapseChars inRun cs ++ c :: collapseChars false rest := by
  induction cs generalizing inRun with
  | nil => exact collapseChars_solid inRun h rest
  | cons d cs ih =>
    rw [List.cons_append, collapseChars, collapseChars, ih, ih]
    split
    · split <;> rfl
    · rfl

/-- A text is closed up part by part; whether a run goes on is told by the last character before. -/
theorem collapseChars_parts (inRun : Bool) (cs rest : List Char) :
    collapseChars inRun (cs ++ rest) =
      collapseChars inRun cs ++ collapseChars (cs.getLast?.elim inRun isBlank) rest := by
  induction cs generalizing inRun with
  | nil => rfl
  | cons c cs ih =>
    have hlast : (c :: cs).getLast?.elim inRun isBlank = cs.getLast?.elim (isBlank c) isBlank := by
      cases cs with
      | nil => rfl
      | cons d cs => rw [List.getLast?_cons_cons]; cases h : (d :: cs).getLast? <;> simp_all
    rw [List.cons_append, collapseChars, collapseChars, ih, ih, hlast]
    cases isBlank c with
    | false => rfl
    | true => cases inRun <;> rfl

/-- Characters without blanks stay, and so does what the blanks behind them become. -/
theorem collapseChars_plain {rest : List Char} (h : ∀ c ∈ cs, isBlank c = false) :
    collapseChars false (cs ++ rest) = cs ++ collapseChars false rest := by
  induction cs with
  | nil => rfl
  | cons c cs ih =>
    rw [List.forall_mem_cons] at h
    rw [List.cons_append, collapseChars_solid false h.1, ih h.2, List.cons_append]

/-! ## 3. The ends -/

theorem dropWhile_collapseChars (cs : List Char) :
    (collapseChars false cs).dropWhile isBlank = collapseChars true cs := by
  have hsolid : ∀ cs, (collapseChars true cs).dropWhile isBlank = collapseChars true cs := by
    intro cs
    induction cs with
    | nil => rfl
    | cons c cs ih =>
      cases hc : isBlank c with
      | true => rwa [collapseChars, if_pos hc, if_pos rfl]
      | false => rw [collapseChars_solid true hc, List.dropWhile_cons_of_neg (by simp [hc])]
  cases cs with
  | nil => rfl
  | cons c cs =>
    cases hc : isBlank c with
    | true =>
      rw [collapseChars, if_pos hc, if_neg Bool.false_ne_true, collapseChars, if_pos hc, if_pos rfl,
        List.dropWhile_cons_of_pos (by decide), hsolid]
    | false =>
      rw [collapseChars_solid false hc, collapseChars_solid true hc,
        List.dropWhile_cons_of_neg (by simp [hc])]

/-- A text that does not end with a blank is closed up to itself as if it stood behind one. -/
theorem trimChars_collapseChars (h : ∀ c ∈ cs.getLast?, isBlank c = false) :
    trimChars (collapseChars false cs) = collapseChars true cs := by
  rw [trimChars, trimWhile, dropWhile_collapseChars]
  rcases List.eq_nil_or_concat cs with rfl | ⟨init, c, rfl⟩
  · rfl
  · have hc : isBlank c = false := h c (by simp)
    rw [List.concat_eq_append, collapseChars_append true hc, collapseChars, List.reverse_append,
      List.reverse_singleton, List.singleton_append, List.dropWhile_cons_of_neg (by simp [hc]),
      List.reverse_cons, List.reverse_reverse]

end FluentBuilders.Text
