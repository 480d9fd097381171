import FluentBuilders.Proofs.Naming
import FluentBuilders.Proofs.Text.LowerCase.Idempotence

/-!
Where the words of a name begin.

1. `beginsWord`, `wordsApart`: the rule that tells from the neighbours of a capital whether it
   begins a word, and a name with a mark before each of these capitals.
2. `markCapitals_markWords`: the two passes together set exactly these marks. A capital that the
   first pass takes no notice of, since it stands right behind a marked word, follows a small
   letter, so the second pass finds it.
3. `snakeCase_wordsApart`: names in small letters, made once or twice.
-/

namespace FluentBuilders

open Text

/-! ## 1. The rule -/

/-- Whether a word begins at the position: a capital stands there, behind a small letter or a digit
or before a small letter. The first character begins no word. -/
def beginsWord (cs : List Char) (i : Nat) : Bool :=
  1 ≤ i && cs[i]?.any isCapital && (cs[i - 1]?.any isSmallOrDigit || cs[i + 1]?.any isSmall)

/-- The characters with one mark before each position at which a word begins. -/
def wordsApart (cs : List Char) : List Char :=
  cs.zipIdx.flatMap fun ci => if beginsWord cs ci.2 then ['_', ci.1] else [ci.1]

/-- The characters behind `before`, with the marks that the rule sets among them. -/
def wordsBehind (before : Char) : List Char → List Char
  | [] => []
  | c :: rest =>
    if isCapital c && (isSmallOrDigit before || rest.head?.any isSmall) then
      '_' :: c :: wordsBehind c rest
    else c :: wordsBehind c rest

theorem beginsWord_behind (passed : List Char) (before c : Char) (rest : List Char) :
    beginsWord (passed ++ before :: c :: rest) (passed.length + 1) =
      (isCapital c && (isSmallOrDigit before || rest.head?.any isSmall)) := by
  have hrest : (passed ++ before :: c :: rest)[passed.length + 2]? = rest.head? := by
    rw [List.getElem?_append_right (by omega), Nat.add_sub_cancel_left, List.head?_eq_getElem?]
    rfl
  unfold beginsWord
  rw [hrest, List.getElem?_append_right (by omega), Nat.add_sub_cancel_left, Nat.add_sub_cancel,
    List.getElem?_append_right (Nat.le_refl _), Nat.sub_self]
  simp

theorem wordsBehind_eq (passed : List Char) (before : Char) (rest : List Char) :
    (rest.zipIdx (passed.length + 1)).flatMap
      (fun ci => if beginsWord (passed ++ before :: rest) ci.2 then ['_', ci.1] else [ci.1]) =
        wordsBehind before rest := by
  induction rest generalizing passed before with
  | nil => rfl
  | cons c rest ih =>
    have hrest := ih (passed ++ [before]) c
    rw [List.length_append, List.length_singleton, ← List.append_cons] at hrest
    rw [List.zipIdx_cons, List.flatMap_cons, hrest, wordsBehind]
    dsimp only
    rw [beginsWord_behind]
    split <;> rfl

/-- The rule goes by the neighbours of a character alone. -/
theorem wordsApart_cons (c : Char) (rest : List Char) :
    wordsApart (c :: rest) = c :: wordsBehind c rest := by
  have hrest := wordsBehind_eq [] c rest
  rw [List.nil_append, List.length_nil] at hrest
  unfold wordsApart
  rw [List.zipIdx_cons, List.flatMap_cons, hrest]
  rfl

/-! ## 2. The two passes -/

theorem isCapital_iff {c : Char} : isCapital c = true ↔ 65 ≤ c.toNat ∧ c.toNat ≤ 90 := by
  unfold isCapital
  rw [Bool.and_eq_true, decide_eq_true_eq, decide_eq_true_eq, Char.le_def, Char.le_def,
    UInt32.le_iff_toNat_le, UInt32.le_iff_toNat_le]
  rfl

theorem isSmallOrDigit_of_isCapital {c : Char} (h : isCapital c = true) :
    isSmallOrDigit c = false := by
  have hcode : c.val.toNat = c.toNat := rfl
  rw [isCapital_iff] at h
  unfold isSmallOrDigit isSmall
  simp only [Bool.or_eq_false_iff, Bool.and_eq_false_iff, decide_eq_false_iff_not, Char.le_def,
    UInt32.le_iff_toNat_le, hcode, Char.reduceVal, UInt32.reduceToNat]
  omega

theorem isCapital_of_isSmall {c : Char} (h : isSmall c = true) : isCapital c = false := by
  rw [← Bool.not_eq_true]
  intro hcapital
  have hnone := isSmallOrDigit_of_isCapital hcapital
  unfold isSmallOrDigit at hnone
  rw [h] at hnone
  cases hnone

/-- Behind a capital or a mark the second pass sets no mark. -/
theorem markCapitals_passes {c : Char} (h : isSmallOrDigit c = false) (rest : List Char) :
    markCapitals (c :: rest) = c :: markCapitals rest := by
  cases rest with
  | nil => rfl
  | cons d rest => rw [markCapitals, h, Bool.false_and, if_neg Bool.false_ne_true]

/-- The second pass marks a capital by the character before it. -/
theorem markCapitals_cons_cons (c d : Char) (rest : List Char) :
    markCapitals (c :: d :: rest) =
      if isSmallOrDigit c && isCapital d then c :: '_' :: markCapitals (d :: rest)
      else c :: markCapitals (d :: rest) := by
  rw [markCapitals]
  split
  · next h =>
    rw [Bool.and_eq_true] at h
    rw [markCapitals_passes (isSmallOrDigit_of_isCapital h.2)]
  · rfl

/-- A mark that the first pass set is not set again. -/
theorem markCapitals_marked (c : Char) (rest : List Char) :
    markCapitals (c :: '_' :: rest) = c :: '_' :: markCapitals rest := by
  rw [markCapitals_cons_cons, show isCapital '_' = false by decide, Bool.and_false,
    if_neg Bool.false_ne_true, markCapitals_passes (by decide)]

theorem startsWord_eq (c : Char) (rest : List Char) :
    startsWord (c :: rest) = (isCapital c && rest.head?.any isSmall) := by
  cases rest with
  | nil => rw [List.head?_nil, Option.any_none, Bool.and_false]; rfl
  | cons d rest => rfl

/-- Outside of a word that was marked, the first pass goes by the characters to come. -/
theorem markWords_outside {c : Char} (hc : c ≠ '\n') (rest : List Char) :
    markWords .outside (c :: rest) =
      if startsWord rest then c :: '_' :: markWords .capital rest
      else c :: markWords .outside rest := by
  rw [markWords]
  simp [hc]

/-- At the end of a word that was marked, the first pass goes on as outside of it. -/
theorem markWords_inside {c : Char} (hc : isSmall c = false) (rest : List Char) :
    markWords .inside (c :: rest) = markWords .outside (c :: rest) := by
  rw [markWords.eq_def .inside, markWords.eq_def .outside]
  simp [hc]

/-- Both passes over what follows a character. Inside of a word that was marked, a capital is passed
over in the first pass only behind a small letter. -/
theorem markCapitals_markWords_cons {rest : List Char} (hrest : '\n' ∉ rest) (c : Char) :
    (c ≠ '\n' → markCapitals (markWords .outside (c :: rest)) = c :: wordsBehind c rest) ∧
      ((isSmall c = true ∨ rest.head?.any isSmall = true) →
        markCapitals (c :: markWords .inside rest) = c :: wordsBehind c rest) := by
  induction rest generalizing c with
  | nil => exact ⟨fun hc => by rw [markWords_outside hc]; rfl, fun _ => rfl⟩
  | cons d rest ih =>
    obtain ⟨hd, hrest⟩ := List.ne_and_not_mem_of_not_mem_cons hrest
    obtain ⟨houtside, hinside⟩ := ih hrest d
    -- where the first pass sets no mark, the second one sets it by the character before
    have hunmarked : startsWord (d :: rest) = false ∨ isSmall c = true →
        markCapitals (c :: markWords .outside (d :: rest)) = c :: wordsBehind c (d :: rest) := by
      intro h
      have hrule : (isSmallOrDigit c && isCapital d) =
          (isCapital d && (isSmallOrDigit c || rest.head?.any isSmall)) := by
        rcases h with h | h
        · rw [startsWord_eq] at h
          rw [Bool.and_or_distrib_left, h, Bool.or_false, Bool.and_comm]
        · rw [show isSmallOrDigit c = true by unfold isSmallOrDigit; rw [h, Bool.true_or],
            Bool.true_and, Bool.true_or, Bool.and_true]
      obtain ⟨more, hmore⟩ := markWords_cons .outside d rest
      rw [hmore, markCapitals_cons_cons, ← hmore, houtside hd.symm, wordsBehind, hrule]
      split <;> rfl
    refine ⟨fun hc => ?_, fun h => ?_⟩
    · rw [markWords_outside hc]
      split
      · next hword =>
        rw [startsWord_eq, Bool.and_eq_true] at hword
        rw [markCapitals_marked, markWords, hinside (.inr hword.2), wordsBehind, hword.1, hword.2,
          Bool.or_true, Bool.and_true, if_pos rfl]
      · next hno => exact hunmarked (.inl (Bool.eq_false_iff.mpr hno))
    · cases hsmall : isSmall d with
      | true =>
        rw [markWords, hsmall, if_pos rfl, markCapitals_cons_cons, wordsBehind,
          isCapital_of_isSmall hsmall, Bool.and_false, Bool.false_and, if_neg Bool.false_ne_true,
          if_neg Bool.false_ne_true, hinside (.inl hsmall)]
      | false =>
        rw [markWords_inside hsmall]
        exact hunmarked (.inr (h.resolve_right (by simp [hsmall])))

/-- Both passes set exactly the marks of the rule. -/
theorem markCapitals_markWords {cs : List Char} (h : '\n' ∉ cs) :
    markCapitals (markWords .outside cs) = wordsApart cs := by
  cases cs with
  | nil => rfl
  | cons c rest =>
    obtain ⟨hc, hrest⟩ := List.ne_and_not_mem_of_not_mem_cons h
    rw [wordsApart_cons, (markCapitals_markWords_cons hrest c).1 hc.symm]

/-! ## 3. Names in small letters -/

/-- Without capitals there is nothing to mark. -/
theorem markWords_of_no_capital {cs : List Char} (h : ∀ c ∈ cs, isCapital c = false) :
    markWords .outside cs = cs := by
  induction cs with
  | nil => rfl
  | cons c rest ih =>
    obtain ⟨-, hrest⟩ := List.forall_mem_cons.mp h
    have hstart : startsWord rest = false := by
      cases rest with
      | nil => rfl
      | cons d rest => rw [startsWord_eq, hrest d List.mem_cons_self, Bool.false_and]
    rw [markWords, hstart, Bool.and_false, if_neg Bool.false_ne_true, ih hrest]

theorem markCapitals_of_no_capital {cs : List Char} (h : ∀ c ∈ cs, isCapital c = false) :
    markCapitals cs = cs := by
  induction cs with
  | nil => rfl
  | cons c rest ih =>
    obtain ⟨-, hrest⟩ := List.forall_mem_cons.mp h
    cases rest with
    | nil => rfl
    | cons d rest =>
      rw [markCapitals_cons_cons, hrest d List.mem_cons_self, Bool.and_false,
        if_neg Bool.false_ne_true, ih hrest]

theorem isCapital_of_isLowered {c : Char} (h : IsLowered c) : isCapital c = false := by
  have hascii : ∀ c : Char, c.toNat < 128 → isCapital c = true → c.toLower ≠ c :=
    forall_ascii (by decide +kernel)
  rw [← Bool.not_eq_true]
  intro hcapital
  have hle : c.toNat < 128 := by
    have hcode := isCapital_iff.mp hcapital
    omega
  exact hascii c hle hcapital (h.toLower hle)

/-- The words of a name begin where the rule says so, and a name in small letters has no word left
to set apart. -/
theorem snakeCase_wordsApart (name : String) :
    ('\n' ∉ name.toList → snakeCase name = lowerCase (String.ofList (wordsApart name.toList))) ∧
      snakeCase (snakeCase name) = snakeCase name := by
  refine ⟨fun h => by rw [snakeCase, markCapitals_markWords h], ?_⟩
  have hsmall : ∀ c ∈ (snakeCase name).toList, isCapital c = false := fun c hc =>
    isCapital_of_isLowered (isLowered_of_mem_lowerCase hc)
  rw [snakeCase.eq_def (snakeCase name), markWords_of_no_capital hsmall,
    markCapitals_of_no_capital hsmall, String.ofList_toList]
  exact lowerCase_lowerCase _

/-- A capital that begins no word, words behind capitals, digits and small letters, a capital behind
a mark, and a letter beyond ASCII. -/
theorem snakeCase_wordsApart_mixed :
    '\n' ∉ "HTTPServer2GoABc_DéEf".toList ∧
      snakeCase "HTTPServer2GoABc_DéEf" = "http_server2_go_a_bc_dé_ef" ∧
      snakeCase "http_server2_go_a_bc_dé_ef" = "http_server2_go_a_bc_dé_ef" := by
  have hno : '\n' ∉ "HTTPServer2GoABc_DéEf".toList := by decide +kernel
  have hrule : lowerCase (String.ofList (wordsApart "HTTPServer2GoABc_DéEf".toList)) =
      "http_server2_go_a_bc_dé_ef" := by decide +kernel
  obtain ⟨hfirst, hagain⟩ := snakeCase_wordsApart "HTTPServer2GoABc_DéEf"
  have hname := (hfirst hno).trans hrule
  rw [hname] at hagain
  exact ⟨hno, hname, hagain⟩

/-- Behind a line feed a capital begins no word. -/
example : snakeCase "a\nBc" = "a\nbc" ∧ wordsApart "a\nBc".toList = "a\n_Bc".toList := by
  decide +kernel

end FluentBuilders
