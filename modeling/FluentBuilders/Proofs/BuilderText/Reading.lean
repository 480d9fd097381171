import FluentBuilders.Proofs.BuilderText
import FluentBuilders.Proofs.Grammar.Execution.Statements

/-!
How the text of a builder is read, from its expressions up to its class.

1. The first token of a line.
2. Expressions.
3. Lines.
4. Methods.
5. The class.

Each part has its text as a function of what follows it (`storeText`, `setterText`, `classText`), and a
lemma that says what a reader gives there.
-/

namespace FluentBuilders

open Text Grammar

variable {s s' : Place} {t : Token} {n : Nat} {conditions : Bool} {w w' behind behind' : List Char}
  {x v : String}

/-! ## 1. Lines -/

/-- Line ends, and spaces before the first token of a line. -/
def newline (lines width : Nat) : List Char := List.replicate lines '\n' ++ List.replicate width ' '

theorem indentation_newline (lines width : Nat) : indentation 0 (newline lines width) = width := by
  have hspaces : ∀ width n, indentation n (List.replicate width ' ') = n + width := by
    intro width
    induction width with
    | zero => exact fun n => rfl
    | succ width ih =>
      intro n
      rw [List.replicate_succ, indentation, if_neg (by decide), ih]
      omega
  induction lines with
  | zero => simpa [newline] using hspaces width 0
  | succ lines ih => simpa [newline, List.replicate_succ, indentation] using ih

theorem newline_spacing {lines width : Nat} : ∀ c ∈ newline lines width, c = ' ' ∨ c = '\n' := by
  simp only [newline, List.mem_append, List.mem_replicate]
  rintro c (⟨-, rfl⟩ | ⟨-, rfl⟩) <;> simp

/-- The first token of a line. -/
theorem ahead_newline {lines width : Nat} (htext : s.text = newline lines width ++ (w ++ behind))
    (hopens : Opens t w behind) (hindent : s.indents.headD 0 ≤ width) : s.Ahead false t w behind :=
  Place.ahead htext (fun c hc => (newline_spacing c hc).imp_right fun h => ⟨rfl, h⟩) hopens
    fun _ _ => by rwa [indentation_newline]

theorem leads_newline {lines width : Nat} (hopens : Opens t w behind) :
    Leads (newline lines width ++ (w ++ behind)) width := by
  obtain ⟨c, cs, rfl, hc⟩ := hopens.solid
  exact ⟨_, c, cs ++ behind, rfl, newline_spacing, hc, indentation_newline ..⟩

/-! ## 2. Expressions -/

/-- A name as an expression. -/
theorem name_gives {k : Knot} (hv : isPlainWord v = true)
    (hstart : s.Ahead false (.word v) w behind)
    (hidle : (s.at behind).Idle) :
    Gives (expression k conditions) s (IsLeaf .identifier w) (s.at behind) := by
  obtain ⟨t, ht, w', behind', hend⟩ := hidle
  have hprimary : Gives (primary k (loopTarget k)) s (IsLeaf .identifier w) (s.at behind) :=
    .primary (.atom_name hstart hv) (.nil hend (idle_plain ht).1)
  refine .expression_primary hstart ?_ hprimary ⟨t, ht, w', behind', hend⟩
  simp only [isPlainWord, Bool.not_eq_true', List.contains_eq_mem, decide_eq_false_iff_not,
    List.mem_cons, not_or] at hv
  simp [Token.startsPrimary, hv]

/-- The value of a variable that was not set. -/
theorem none_gives {k : Knot} (hstart : s.Ahead false (.word "None") w behind)
    (hidle : (s.at behind).Idle) :
    Gives (expression k conditions) s Clean (s.at behind) := by
  obtain ⟨t, ht, w', behind', hend⟩ := hidle
  have hprimary : Gives (primary k (loopTarget k)) s (IsLeaf .constant w) (s.at behind) :=
    .primary (.atom_none hstart) (.nil hend (idle_plain ht).1)
  exact (Gives.expression_primary hstart rfl hprimary ⟨t, ht, w', behind', hend⟩).ofLeaf rfl

theorem unescaped_name (hx : isIdentifier x = true) : Unescaped '"' x.toList := by
  intro c hc
  have hchar := isNameChar_of_isIdentifier hx c hc
  refine ⟨?_, ?_, ?_⟩ <;> rintro rfl <;> exact absurd hchar (by decide)

/-- A quote before such a content opens a string. -/
theorem quote_opens {q : Char} {content : List Char} (hq : q = '"' ∨ q = '\'')
    (hcontent : Unescaped q content) (hne : content ≠ []) :
    Opens .quote [q] (content ++ behind) := by
  refine .quote hq fun hhead => ?_
  obtain ⟨c, rest, rfl⟩ := List.exists_cons_of_ne_nil hne
  exact (hcontent c List.mem_cons_self).2.1 (Option.some.inj hhead)

theorem quote_ahead {stop : Bool} (hx : isIdentifier x = true)
    (htext : s.text = '"' :: (x.toList ++ behind)) :
    s.Ahead stop .quote ['"'] (x.toList ++ behind) := by
  refine Place.ahead_here htext (quote_opens (.inl rfl) (unescaped_name hx) fun hnil => ?_)
  obtain ⟨c, rest, hcons, -⟩ := isIdentifier_iff.mp hx
  rw [hcons] at hnil
  cases hnil

/-- A string between two quotes. -/
theorem quoted_string {k : Knot} {q : Char} {content : List Char} (hq : q = '"' ∨ q = '\'')
    (hcontent : Unescaped q content)
    (hstart : s.Ahead false .quote [q] (content ++ (q :: behind)))
    (hend : (s.at behind).Ahead s.lineBound t w' behind') (ht : t ≠ .quote) :
    Gives (string k) s (IsTree .string) (s.at behind) := by
  rcases hq with rfl | rfl
  · exact .string (f := .ofOpening ['"']) rfl rfl (by decide) hcontent hstart hend ht
  · exact .string (f := .ofOpening ['\'']) rfl rfl (by decide) hcontent hstart hend ht

/-- The name of a property as a string. -/
theorem quoted_gives {k : Knot} (hx : isIdentifier x = true)
    (htext : s.text = '"' :: (x.toList ++ ('"' :: behind))) (hidle : (s.at behind).Idle) :
    Gives (expression k conditions) s Clean (s.at behind) := by
  obtain ⟨t, ht, w', behind', hend⟩ := hidle
  have hplain := idle_plain ht
  have hstart : s.Ahead false .quote ['"'] (x.toList ++ ('"' :: behind)) := quote_ahead hx htext
  have hprimary : Gives (primary k (loopTarget k)) s (IsTree .string) (s.at behind) :=
    .primary (.atom_string hstart
      (quoted_string (.inl rfl) (unescaped_name hx) hstart hend hplain.2.2.2.2)) (.nil hend hplain.1)
  exact (Gives.expression_primary hstart rfl hprimary ⟨t, ht, w', behind', hend⟩).ofTree rfl

theorem idle_mark {m : String} (h : s.Ahead s.lineBound (.mark m) w behind)
    (hm : .mark m ∈ idleTokens) : s.Idle := ⟨.mark m, hm, w, behind, h⟩

section Trails

variable {k : Knot} {target : Reader Fragment} {K K' : Fragment → Prop}

theorem trails_end (h : s.Idle) : Trails k target K s K s := by
  obtain ⟨t, ht, w, behind, hend⟩ := h
  exact .nil hend (idle_plain ht).1

/-- A member behind its dot. -/
theorem trails_member (hK : ∀ f, K f → Clean f) (htext : s.text = '.' :: (v.toList ++ behind))
    (hv : isIdentifier v = true) (hends : endsName behind = true)
    (hrest : Trails k target (IsTree .attribute) (s.at behind) K' s') :
    Trails k target K s K' s' := by
  refine .member hK (Place.ahead_here htext (.point (m := ".") (by simp) (endsPoint_name hv)))
    (Place.ahead_here rfl (.word hv hends)) ?_ ?_ hrest
  · rintro rfl
    cases hv
  · rw [htext, List.length_cons, List.length_append]
    omega

/-- The name of a property as a subscript. -/
theorem trails_key (hK : ∀ f, K f → Clean f)
    (htext : s.text = '[' :: '"' :: (x.toList ++ ('"' :: ']' :: behind)))
    (hx : isIdentifier x = true)
    (hrest : Trails (.tied (n + 1)) target (IsTree .subscript) (s.at behind) K' s') :
    Trails (.tied (n + 1)) target K s K' s' := by
  have hopening : ∀ stop, s.Ahead stop (.mark "[") "[".toList
      ('"' :: (x.toList ++ ('"' :: ']' :: behind))) := fun stop =>
    Place.ahead_here htext (.sign (by decide) _)
  have hclosing : ∀ stop, (s.at (']' :: behind)).inside.Ahead stop (.mark "]") "]".toList behind :=
    fun stop => Place.ahead_here rfl (.sign (by decide) _)
  have hkey : Gives ((Knot.tied (n + 1)).expression true)
      (s.at ('"' :: (x.toList ++ ('"' :: ']' :: behind)))).inside Clean
      (s.at (']' :: behind)).inside :=
    quoted_gives hx rfl (idle_mark (hclosing _) (by decide))
  refine .subscript hK (hopening _) (hopening _) (m := ']' :: behind)
    (.subscript (quote_ahead hx rfl) (by decide) hkey (hclosing _) (by simp))
    (.nil (hclosing _) (by simp)) (hclosing _) ?_ hrest
  simp [htext]
  omega

/-- A call with the name of a property. -/
theorem trails_call (hK : ∀ f, K f → Clean f)
    (htext : s.text = '(' :: '"' :: (x.toList ++ ('"' :: ')' :: behind)))
    (hx : isIdentifier x = true)
    (hrest : Trails (.tied (n + 1)) target (IsTree .call) (s.at behind) K' s') :
    Trails (.tied (n + 1)) target K s K' s' := by
  have hopening : ∀ stop, s.Ahead stop (.mark "(") "(".toList
      ('"' :: (x.toList ++ ('"' :: ')' :: behind))) := fun stop =>
    Place.ahead_here htext (.sign (by decide) _)
  have hclosing : ∀ stop, (s.at (')' :: behind)).inside.Ahead stop (.mark ")") ")".toList behind :=
    fun stop => Place.ahead_here rfl (.sign (by decide) _)
  have hvalue : Gives ((Knot.tied (n + 1)).expression true)
      (s.at ('"' :: (x.toList ++ ('"' :: ')' :: behind)))).inside Clean
      (s.at (')' :: behind)).inside :=
    quoted_gives hx rfl (idle_mark (hclosing _) (by decide))
  refine .call hK (hopening _) (.argumentList (hopening _) (quote_ahead hx rfl) (by simp)
    (.argument (quote_ahead hx rfl) (by simp) hvalue (hclosing _) (by simp))
    (.nil (hclosing _) (by simp)) (hclosing _)) ?_ hrest
  simp [htext]
  omega

end Trails

/-- The value of a property: `self._values["x"]`. -/
theorem stored_gives (hx : isIdentifier x = true) (hstart : s.Ahead false (.word "self") w
      ('.' :: (valueStore.toList ++ ('[' :: '"' :: (x.toList ++ ('"' :: ']' :: behind))))))
    (hidle : (s.at behind).Idle) :
    Gives (expression (.tied (n + 1)) conditions) s (IsTree .subscript) (s.at behind) :=
  .expression_primary hstart rfl (.primary (.atom_name hstart rfl)
    (trails_member (fun _ h => h.clean rfl) rfl rfl rfl
      (trails_key (fun _ h => h.clean rfl) rfl hx (trails_end hidle)))) hidle

/-- The store itself: `self._values`. -/
theorem store_gives {k : Knot}
    (hstart : s.Ahead false (.word "self") w ('.' :: (valueStore.toList ++ behind)))
    (hends : endsName behind = true) (hidle : (s.at behind).Idle) :
    Gives (expression k conditions) s (IsTree .attribute) (s.at behind) :=
  .expression_primary hstart rfl (.primary (.atom_name hstart rfl)
    (trails_member (fun _ h => h.clean rfl) rfl rfl hends (trails_end hidle))) hidle

/-- Whether a property was set: `self._values.get("x") is None`. -/
theorem unset_gives (hx : isIdentifier x = true) (hstart : s.Ahead false (.word "self") w
      ('.' :: (valueStore.toList ++ ('.' :: ("get".toList ++ ('(' :: '"' :: (x.toList ++
        ('"' :: ')' :: ' ' :: ("is".toList ++ (' ' :: ("None".toList ++ behind)))))))))))
    (hends : endsName behind = true) (hidle : (s.at behind).Idle) :
    Gives (expression (.tied (n + 1)) conditions) s Clean (s.at behind) := by
  have his : ∀ stop, (s.at (' ' :: ("is".toList ++ (' ' :: ("None".toList ++ behind))))).Ahead stop
      (.word "is") "is".toList (' ' :: ("None".toList ++ behind)) := fun stop =>
    Place.ahead_spaced rfl (.word rfl rfl)
  have hnone : (s.at (' ' :: ("None".toList ++ behind))).Ahead false (.word "None") "None".toList
      behind := Place.ahead_spaced rfl (.word rfl hends)
  obtain ⟨t, ht, w', behind', hend⟩ := hidle
  obtain ⟨htrailer, harithmetic, hcomparison, hjunction, -⟩ := idle_plain ht
  have hleft : Gives (arithmetic (.tied (n + 1))) s Clean
      (s.at (' ' :: ("is".toList ++ (' ' :: ("None".toList ++ behind))))) :=
    .arithmetic hstart rfl ((Gives.primary (.atom_name hstart rfl)
      (trails_member (fun _ h => h.clean rfl) rfl rfl rfl
        (trails_member (fun _ h => h.clean rfl) rfl rfl rfl
          (trails_call (fun _ h => h.clean rfl) rfl hx (.nil (his _) rfl))))).ofTree rfl)
      (his _) rfl
  have hright : Gives (arithmetic (.tied (n + 1))) (s.at (' ' :: ("None".toList ++ behind))) Clean
      (s.at behind) :=
    .arithmetic hnone rfl ((Gives.primary (.atom_none hnone) (.nil hend htrailer)).ofLeaf rfl) hend
      harithmetic
  refine .expression hstart rfl
    (.comparison_is hleft (his _) hnone (by simp) hright ?_ hend hcomparison) hend hjunction
  simp [Place.at]
  omega

/-- The error for a property that was not set: `MissingRequiredField("x")`. -/
theorem missing_gives (hx : isIdentifier x = true)
    (hstart : s.Ahead false (.word "MissingRequiredField") w
      ('(' :: '"' :: (x.toList ++ ('"' :: ')' :: behind)))) (hidle : (s.at behind).Idle) :
    Gives (expression (.tied (n + 1)) conditions) s Clean (s.at behind) :=
  (Gives.expression_primary hstart rfl (.primary (.atom_name hstart rfl)
    (trails_call (fun _ h => h.clean rfl) rfl hx (trails_end hidle))) hidle).ofTree rfl

/-- The documentation of a builder. -/
theorem doc_gives {k : Knot} {name : String} (hname : isIdentifier name = true)
    (hstart : s.Ahead false .quote ['"', '"', '"'] ("Fluent builder for :class:`".toList ++
      (name.toList ++ ('`' :: '.' :: '"' :: '"' :: '"' :: behind)))) (hidle : (s.at behind).Idle) :
    Gives (expression k conditions) s Clean (s.at behind) := by
  obtain ⟨t, ht, w', behind', hend⟩ := hidle
  have hplain := idle_plain ht
  have hcontent : Unescaped '"'
      ("Fluent builder for :class:`".toList ++ (name.toList ++ ['`', '.'])) := by
    have hplain : ∀ cs : List Char, cs.all (fun c => c != '\\' && c != '"' && c != '\n') = true →
        Unescaped '"' cs := by
      intro cs h c hc
      simpa [and_assoc] using List.all_eq_true.mp h c hc
    exact List.forall_mem_append.mpr ⟨hplain _ (by decide),
      List.forall_mem_append.mpr ⟨unescaped_name hname, hplain _ (by decide)⟩⟩
  have hstring : Gives (string k) s (IsTree .string) (s.at behind) := by
    refine .string (f := .ofOpening ['"', '"', '"']) rfl rfl (by decide) hcontent ?_ hend hplain.2.2.2.2
    simpa [StringForm.closing, StringForm.ofOpening, isQuote] using hstart
  have hprimary : Gives (primary k (loopTarget k)) s (IsTree .string) (s.at behind) :=
    .primary (.atom_string hstart hstring) (.nil hend hplain.1)
  exact (Gives.expression_primary hstart rfl hprimary ⟨t, ht, w', behind', hend⟩).ofTree rfl

/-- An empty display. -/
theorem braces_gives {k : Knot} (htext : s.text = ' ' :: '\x7b' :: '\x7d' :: behind)
    (hidle : (s.at behind).Idle) : Gives (expression k conditions) s Clean (s.at behind) := by
  have hopening : s.Ahead false (.mark "\x7b") "\x7b".toList ('\x7d' :: behind) :=
    Place.ahead_spaced htext (.sign (by decide) _)
  have hclosing : (s.at ('\x7d' :: behind)).inside.Ahead false (.mark "\x7d") "\x7d".toList
      behind := Place.ahead_here rfl (.sign (by decide) _)
  exact (Gives.expression_primary hopening rfl (.primary (.atom_braces hopening hclosing)
    (trails_end hidle)) hidle).ofTree rfl

/-- A name as an annotation. -/
theorem hint_gives {bounds : Bool} (hv : isPlainWord v = true) (hword : isIdentifier v = true)
    (htext : s.text = ' ' :: (v.toList ++ behind)) (hends : endsName behind = true)
    (hend : (s.at behind).Ahead s.lineBound t w' behind') (ht : t ∈ idleTokens)
    (hbounds : bounds = true → t ≠ .mark ":") :
    Gives (typeHint (.tied (n + 1)) bounds) s Clean (s.at behind) := by
  have hstart : s.Ahead false (.word v) v.toList behind :=
    Place.ahead_spaced htext (.word hword hends)
  have hname : Gives (expression (.tied n) true) s (IsLeaf .identifier v.toList) (s.at behind) :=
    name_gives hv hstart ⟨t, ht, w', behind', hend⟩
  exact (Gives.typeHint (k := .tied (n + 1)) hstart (by simp)
    (hname.ofLeaf rfl) hend hbounds).ofTree rfl

theorem hint_none_gives {bounds : Bool} (htext : s.text = ' ' :: ("None".toList ++ behind))
    (hends : endsName behind = true) (hend : (s.at behind).Ahead s.lineBound t w' behind')
    (ht : t ∈ idleTokens) (hbounds : bounds = true → t ≠ .mark ":") :
    Gives (typeHint (.tied (n + 1)) bounds) s Clean (s.at behind) := by
  have hstart : s.Ahead false (.word "None") "None".toList behind :=
    Place.ahead_spaced htext (.word rfl hends)
  have hnone : Gives (expression (.tied n) true) s Clean (s.at behind) :=
    none_gives hstart ⟨t, ht, w', behind', hend⟩
  exact (Gives.typeHint (k := .tied (n + 1)) hstart (by simp) hnone hend hbounds).ofTree rfl

/-- The annotation of the values: `Dict[str, Any]`. -/
theorem dict_gives (htext : s.text = ' ' :: ("Dict".toList ++ ('[' :: ("str".toList ++
      (',' :: ' ' :: ("Any".toList ++ (']' :: behind)))))))
    (hend : (s.at behind).Ahead s.lineBound t w' behind') (ht : t ∈ idleTokens)
    (hcolon : t ≠ .mark ":") :
    Gives (typeHint (.tied (n + 2)) true) s Clean (s.at behind) := by
  let closing := ']' :: behind
  let value := ' ' :: ("Any".toList ++ closing)
  let comma := ',' :: value
  let key := "str".toList ++ comma
  have hstart : s.Ahead false (.word "Dict") "Dict".toList ('[' :: key) :=
    Place.ahead_spaced htext (.word rfl rfl)
  have hopening : ∀ stop, (s.at ('[' :: key)).Ahead stop (.mark "[") "[".toList key :=
    fun stop => Place.ahead_here rfl (.sign (by decide) _)
  have hstr : (s.at key).inside.Ahead false (.word "str") "str".toList comma :=
    Place.ahead_here rfl (.word rfl rfl)
  have hcomma : ∀ stop, (s.at comma).inside.Ahead stop (.mark ",") ",".toList value :=
    fun stop => Place.ahead_here rfl (.sign (by decide) _)
  have hany : ∀ stop, (s.at value).inside.Ahead stop (.word "Any") "Any".toList closing :=
    fun stop => Place.ahead_spaced rfl (.word rfl rfl)
  have hclosing : ∀ stop, (s.at closing).inside.Ahead stop (.mark "]") "]".toList behind :=
    fun stop => Place.ahead_here rfl (.sign (by decide) _)
  have hkey : Gives (expression (.tied n) true) (s.at key).inside Clean (s.at comma).inside :=
    (name_gives rfl hstr (idle_mark (hcomma _) (by decide))).ofLeaf rfl
  have hvalue : Gives (expression (.tied n) true) (s.at value).inside Clean (s.at closing).inside :=
    (name_gives rfl (hany _) (idle_mark (hclosing _) (by decide))).ofLeaf rfl
  have hidle : (s.at behind).Idle := ⟨t, ht, w', behind', hend⟩
  have hsubscript : Trails (.tied (n + 1)) (loopTarget (.tied (n + 1)))
      (IsLeaf .identifier "Dict".toList) (s.at ('[' :: key)) (IsTree .subscript) (s.at behind) := by
    refine .subscript (fun _ h => h.clean rfl) (hopening _) (hopening _) (m := closing)
      (.subscript (k := .tied (n + 1)) hstr (by simp) hkey (hcomma _) (by simp))
      (.cons (hcomma _) (hany _) (by decide)
        (.subscript (k := .tied (n + 1)) (hany _) (by simp) hvalue (hclosing _) (by simp)) ?_
        (.nil (hclosing _) (by simp))) (hclosing _) ?_ (trails_end hidle)
    · simp [Place.at, Place.inside, comma, value]
      omega
    · simp [Place.at, key, comma, value, closing]
      omega
  have hexpression : Gives (expression (.tied (n + 1)) true) s (IsTree .subscript) (s.at behind) :=
    .expression_primary hstart rfl (.primary (.atom_name hstart rfl) hsubscript) hidle
  exact (Gives.typeHint (k := .tied (n + 2)) hstart (by simp)
    (hexpression.ofTree rfl) hend (fun _ => hcolon)).ofTree rfl

/-! ## 3. Lines -/

section Lines

variable {k : Knot} {text rest : List Char} {indents : List Nat} {lines width : Nat}

/-- The text goes on with another line. -/
def OnLine (rest : List Char) : Prop := rest.head? = some '\n'

theorem OnLine.endsName (h : OnLine rest) : endsName rest = true := by
  cases rest with
  | nil => rfl
  | cons c rest =>
    cases h
    rfl

theorem OnLine.endsPoint (h : OnLine rest) : endsPoint rest = true := by
  cases rest with
  | nil => rfl
  | cons c rest =>
    cases h
    rfl

theorem OnLine.atEnd (h : OnLine rest) (indents : List Nat) :
    ((Place.flat rest indents).ending true).AtEnd :=
  ⟨rfl, fun _ hc => (Option.some.inj (h.symm.trans hc)).symm⟩

/-- A line with one simple statement. -/
theorem line_gives {Q : Fragment → Prop} (htext : text = newline lines width ++ (w ++ behind))
    (hopens : Opens t w behind) (hindent : indents.headD 0 ≤ width) (ht : t.startsLine = true) (hrest : OnLine rest)
    (h : ((Place.flat text indents).ending true).Ahead false t w behind →
      Gives (simpleStatement k) ((Place.flat text indents).ending true) Q
        ((Place.flat rest indents).ending true)) :
    Gives (statement k) (.flat text indents) Q (.flat rest indents) :=
  .statement (.plain_line (ahead_newline htext hopens hindent) ht
    (.simpleLine (h (ahead_newline htext hopens hindent)) (hrest.atEnd indents).head))

/-- The line that keeps a value. -/
def storeText (x : String) (rest : List Char) : List Char :=
  newline 1 8 ++ ("self".toList ++ ('.' :: (valueStore.toList ++ ('[' :: '"' :: (x.toList ++
    ('"' :: ']' :: ' ' :: '=' :: ' ' :: ("value".toList ++ rest)))))))

theorem store_line_gives (hx : isIdentifier x = true) (hindent : indents.headD 0 ≤ 8)
    (hrest : OnLine rest) :
    Gives (statement (.tied (n + 2))) (.flat (storeText x rest) indents) Clean
      (.flat rest indents) := by
  refine line_gives (t := .word "self") rfl (.word rfl rfl) hindent rfl hrest fun hstart => ?_
  let s := (Place.flat (storeText x rest) indents).ending true
  let value := ' ' :: ("value".toList ++ rest)
  have hequals : ∀ stop, (s.at (' ' :: '=' :: value)).Ahead stop (.mark "=") "=".toList value :=
    fun stop => Place.ahead_spaced rfl (.point (by simp) rfl)
  have hvalue : (s.at value).Ahead false (.word "value") "value".toList rest :=
    Place.ahead_spaced rfl (.word rfl hrest.endsName)
  have hend := hrest.atEnd indents
  exact .simple_expression hstart rfl (.assignment (.inr rfl)
    (stored_gives (n := n) hx hstart (idle_mark (hequals _) (by decide))) (hequals _)
    ((name_gives rfl hvalue hend.idle).ofLeaf rfl) hend)

/-- The line that gives the builder back. -/
def returnText (rest : List Char) : List Char :=
  newline 1 8 ++ ("return".toList ++ (' ' :: ("self".toList ++ rest)))

theorem return_line_gives (hindent : indents.headD 0 ≤ 8) (hrest : OnLine rest) :
    Gives (statement (.tied (n + 1))) (.flat (returnText rest) indents) Clean
      (.flat rest indents) := by
  refine line_gives (t := .word "return") rfl (.word rfl rfl) hindent rfl hrest fun hstart => ?_
  let s := (Place.flat (returnText rest) indents).ending true
  have hself : ∀ stop, (s.at (' ' :: ("self".toList ++ rest))).Ahead stop (.word "self")
      "self".toList rest := fun stop => Place.ahead_spaced rfl (.word rfl hrest.endsName)
  have hend := hrest.atEnd indents
  exact .simple_keyword (.inl rfl) hstart (hself _) rfl
    ((name_gives rfl (hself _) hend.idle).ofLeaf rfl) hend

/-- The line that makes room for the values. -/
def roomText (rest : List Char) : List Char :=
  newline 1 8 ++ ("self".toList ++ ('.' :: (valueStore.toList ++ (':' :: ' ' :: ("Dict".toList ++
    ('[' :: ("str".toList ++ (',' :: ' ' :: ("Any".toList ++ (']' :: ' ' :: '=' :: ' ' ::
      '\x7b' :: '\x7d' :: rest))))))))))

theorem room_line_gives (hindent : indents.headD 0 ≤ 8) (hrest : OnLine rest) :
    Gives (statement (.tied (n + 2))) (.flat (roomText rest) indents) Clean
      (.flat rest indents) := by
  refine line_gives (t := .word "self") rfl (.word rfl rfl) hindent rfl hrest fun hstart => ?_
  let s := (Place.flat (roomText rest) indents).ending true
  let value := ' ' :: '\x7b' :: '\x7d' :: rest
  let type := ' ' :: ("Dict".toList ++ ('[' :: ("str".toList ++ (',' :: ' ' :: ("Any".toList ++
    (']' :: ' ' :: '=' :: value))))))
  have hcolon : ∀ stop, (s.at (':' :: type)).Ahead stop (.mark ":") ":".toList type :=
    fun stop => Place.ahead_here rfl (.point (by simp) rfl)
  have hequals : ∀ stop, (s.at (' ' :: '=' :: value)).Ahead stop (.mark "=") "=".toList value :=
    fun stop => Place.ahead_spaced rfl (.point (by simp) rfl)
  have hend := hrest.atEnd indents
  exact .simple_expression hstart rfl (.assignment_typed (.inl rfl)
    (store_gives hstart rfl (idle_mark (hcolon _) (by decide))) (hcolon _)
    (dict_gives rfl (hequals _) (by decide) (by decide)) (hequals _)
    (braces_gives rfl hend.idle) hend)

/-- The line that reports a property that was not set. -/
def raiseText (x : String) (rest : List Char) : List Char :=
  newline 1 12 ++ ("raise".toList ++ (' ' :: ("MissingRequiredField".toList ++
    ('(' :: '"' :: (x.toList ++ ('"' :: ')' :: rest))))))

theorem raise_line_gives (hx : isIdentifier x = true) (hindent : indents.headD 0 ≤ 12)
    (hrest : OnLine rest) :
    Gives (statement (.tied (n + 2))) (.flat (raiseText x rest) indents) Clean
      (.flat rest indents) := by
  refine line_gives (t := .word "raise") rfl (.word rfl rfl) hindent rfl hrest fun hstart => ?_
  let s := (Place.flat (raiseText x rest) indents).ending true
  have herror : ∀ stop, (s.at (' ' :: ("MissingRequiredField".toList ++ ('(' :: '"' :: (x.toList ++
      ('"' :: ')' :: rest)))))).Ahead stop (.word "MissingRequiredField") "MissingRequiredField".toList
        ('(' :: '"' :: (x.toList ++ ('"' :: ')' :: rest))) :=
    fun stop => Place.ahead_spaced rfl (.word rfl rfl)
  have hend := hrest.atEnd indents
  exact .simple_keyword (.inr rfl) hstart (herror _) rfl
    (missing_gives (n := n) hx (herror _) hend.idle) hend

/-- The line that documents the builder. -/
def docText (name : String) (rest : List Char) : List Char :=
  newline 1 4 ++ (['"', '"', '"'] ++ ("Fluent builder for :class:`".toList ++ (name.toList ++
    ('`' :: '.' :: '"' :: '"' :: '"' :: rest))))

theorem doc_line_gives (hname : isIdentifier v = true) (hindent : indents.headD 0 ≤ 4)
    (hrest : OnLine rest) :
    Gives (statement (.tied (n + 1))) (.flat (docText v rest) indents) Clean
      (.flat rest indents) := by
  refine line_gives (t := .quote) rfl (.quotes _) hindent rfl hrest fun hstart => ?_
  have hend := hrest.atEnd indents
  exact .simple_expression hstart rfl (.expressionStatement (doc_gives hname hstart hend.idle) hend)

end Lines

/-! ## 4. Methods -/

section Methods

variable {k : Knot} {body rest : List Char}

/-- What stands behind the parameters of a method. -/
def resultText (result : String) (body : List Char) : List Char :=
  ')' :: ' ' :: '-' :: '>' :: ' ' :: (result.toList ++ (':' :: body))

/-- The body of a method is a block of its own. -/
structure IsBody (k : Knot) (body rest : List Char) : Prop where
  line : OnLine body
  leads : Leads body 8
  block : Block k 8 [4, 0] body rest

theorem IsBody.gives (h : IsBody k body rest) :
    Gives (Grammar.body k) (.flat (':' :: body) [4, 0]) Clean (.flat rest [4, 0]) :=
  .body rfl h.line h.leads (by decide) h.block

/-- A method with what stands between its first parameter and the closing bracket. -/
def methodText (name : String) (parameters : List Char) (result : String) (body : List Char) :
    List Char :=
  newline 2 4 ++ ("def".toList ++ (' ' :: (name.toList ++ ('(' :: ("self".toList ++
    (parameters ++ resultText result body))))))

/-- The place of a text inside of the brackets of a method. -/
def inMethod (text : List Char) : Place := ⟨text, [4, 0], 1, false⟩

theorem result_closes {result : String} (stop : Bool) :
    (inMethod (resultText result body)).Ahead stop (.mark ")") ")".toList
      (' ' :: '-' :: '>' :: ' ' :: (result.toList ++ (':' :: body))) :=
  Place.ahead_here rfl (.sign (by decide) _)

/-- A method, given the parameters behind the first. -/
theorem method_gives {parameters : List Char} {result : String} (hname : isIdentifier v = true)
    (hends : endsName (parameters ++ resultText result body) = true)
    (hnext : (inMethod (parameters ++ resultText result body)).Ahead false t w behind)
    (ht : t ≠ .mark ":" ∧ t ≠ .mark "=")
    (hparameters : Items Token.startsParameter (parameter k)
      (inMethod (parameters ++ resultText result body)) (inMethod (resultText result body)))
    (hresult : Gives (typeHint k false) (.flat (' ' :: (result.toList ++ (':' :: body))) [4, 0]) Clean
      (.flat (':' :: body) [4, 0])) (hbody : IsBody k body rest) :
    Gives (statement k) (.flat (methodText v parameters result body) [4, 0]) Clean
      (.flat rest [4, 0]) := by
  let s := Place.flat (methodText v parameters result body) [4, 0]
  let self := "self".toList ++ (parameters ++ resultText result body)
  have hne : v ≠ "" := by
    rintro rfl
    cases hname
  have hword : (s.at (' ' :: (v.toList ++ ('(' :: self)))).Ahead false (.word v) v.toList
      ('(' :: self) := Place.ahead_spaced rfl (.word hname rfl)
  have hopening : (s.at ('(' :: self)).Ahead false (.mark "(") "(".toList self :=
    Place.ahead_here rfl (.sign (by decide) _)
  have hself : (inMethod self).Ahead false (.word "self") "self".toList
      (parameters ++ resultText result body) := Place.ahead_here rfl (.word rfl hends)
  have harrow : (s.at (' ' :: '-' :: '>' :: ' ' :: (result.toList ++ (':' :: body)))).Ahead false
      (.mark "->") "->".toList (' ' :: (result.toList ++ (':' :: body))) :=
    Place.ahead_spaced rfl (.sign (by decide) _)
  have hdef := ahead_newline (s := s) (t := .word "def") (w := "def".toList) rfl (.word rfl rfl)
    (show 4 ≤ 4 from Nat.le_refl _)
  exact .statement (.plain_def hdef fun σ hσ =>
    .functionDefinition hσ hword hne hopening hself (by simp) (.parameter hself (by simp) hnext ht)
      hparameters (result_closes _) harrow hresult hbody.gives)

/-- A method without parameters of its own. -/
theorem plain_method_gives {result : String} (hname : isIdentifier v = true)
    (hresult : Gives (typeHint k false) (.flat (' ' :: (result.toList ++ (':' :: body))) [4, 0]) Clean
      (.flat (':' :: body) [4, 0])) (hbody : IsBody k body rest) :
    Gives (statement k) (.flat (methodText v [] result body) [4, 0]) Clean (.flat rest [4, 0]) :=
  method_gives hname rfl (result_closes _) (by simp) (.nil (result_closes _) (by simp)) hresult hbody

/-- The parameter of a setter. -/
def valueText (type : String) : List Char :=
  ',' :: ' ' :: ("value".toList ++ (':' :: ' ' :: type.toList))

/-- The method that sets a property. -/
def setterText (x type builder : String) (rest : List Char) : List Char :=
  methodText x (valueText type) builder (storeText x (returnText rest))

/-- Where the statements of a block may end. -/
def Leaving (width : Nat) (rest : List Char) : Prop :=
  Leaves rest ∨ ∃ indent < width, Leads rest indent

theorem setter_gives {type builder : String} (hx : isIdentifier x = true)
    (hbuilder : isPlainWord builder = true) (hword : isIdentifier builder = true)
    (htype : Gives (typeHint (.tied (n + 3)) true)
      (inMethod (' ' :: (type.toList ++ resultText builder (storeText x (returnText rest))))) Clean
      (inMethod (resultText builder (storeText x (returnText rest)))))
    (hrest : OnLine rest) (hleaving : Leaving 8 rest) :
    Gives (statement (.tied (n + 3))) (.flat (setterText x type builder rest) [4, 0]) Clean
      (.flat rest [4, 0]) := by
  let body := storeText x (returnText rest)
  let hint := ' ' :: (type.toList ++ resultText builder body)
  let value := ' ' :: ("value".toList ++ (':' :: hint))
  have hcomma : ∀ stop, (inMethod (',' :: value)).Ahead stop (.mark ",") ",".toList value :=
    fun stop => Place.ahead_here rfl (.sign (by decide) _)
  have hvalue : ∀ stop, (inMethod value).Ahead stop (.word "value") "value".toList (':' :: hint) :=
    fun stop => Place.ahead_spaced rfl (.word rfl rfl)
  have hcolon : (inMethod (':' :: hint)).Ahead false (.mark ":") ":".toList hint :=
    Place.ahead_here rfl (.point (by simp) rfl)
  have hparameters : Items Token.startsParameter (parameter (.tied (n + 3)))
      (inMethod (',' :: value)) (inMethod (resultText builder body)) := by
    refine .cons (hcomma _) (hvalue _) rfl
      (.parameter_typed (hvalue _) (by simp) hcolon htype (result_closes _) (by simp)) ?_
      (.nil (result_closes _) (by simp))
    simp only [inMethod, value, hint, body, List.length_append, List.length_cons]
    omega
  have hend : (Place.flat (':' :: body) [4, 0]).Ahead false (.mark ":") ":".toList body :=
    Place.ahead_here rfl (.point (by simp) rfl)
  have hreturn : OnLine (returnText rest) := rfl
  have hbody : IsBody (.tied (n + 3)) body rest := by
    refine ⟨rfl, leads_newline (.word rfl rfl), ?_⟩
    refine .cons (leads_newline (.word rfl rfl)) (Nat.le_refl _)
      (store_line_gives hx (Nat.le_refl _) hreturn) ?_ (.cons (leads_newline (.word rfl rfl))
        (Nat.le_refl _) (return_line_gives (Nat.le_refl _) hrest) ?_ (.nil hleaving))
    · simp only [body, storeText, List.length_append, List.length_cons]
      omega
    · simp only [returnText, newline, List.length_append, List.length_cons]
      omega
  exact method_gives hx rfl (hcomma _) (by simp) hparameters
    (hint_gives hbuilder hword rfl rfl hend (by decide) (by simp)) hbody

/-- What is no keyword names something in an expression. -/
theorem plain_of_not_keyword (h : isKeyword v = false) :
    isPlainWord v = true ∧ Token.startsExpression (.word v) = true ∧
      Token.startsPrimary (.word v) = true := by
  have hno : ∀ l : List String, (∀ w ∈ l, isKeyword w = true) → l.contains v = false := by
    intro l hl
    rw [Bool.eq_false_iff]
    intro hmem
    rw [hl v (by simpa using hmem)] at h
    cases h
  refine ⟨?_, ?_, ?_⟩
  · rw [isPlainWord, hno _ (by decide)]
    rfl
  · rw [Token.startsExpression, hno _ (by decide)]
    rfl
  · rw [Token.startsPrimary, hno _ (by decide)]
    rfl

/-- A statement that gives back what the class makes of the arguments behind its name. -/
theorem return_call_gives {indents : List Nat} {arguments : List Char} (hv : isKeyword v = false)
    (hword : isIdentifier v = true) (hindent : indents.headD 0 ≤ 8) (hrest : OnLine rest)
    (harguments : Gives (argumentList (.tied (n + 1)) (loopTarget (.tied (n + 1))))
      ((Place.flat ('(' :: arguments) indents).ending true) Clean ((Place.flat rest indents).ending true))
    (hless : rest.length ≤ arguments.length) :
    Gives (statement (.tied (n + 2)))
      (.flat (newline 1 8 ++ ("return".toList ++ (' ' :: (v.toList ++ '(' :: arguments)))) indents)
      Clean (.flat rest indents) := by
  obtain ⟨hplain, hstarts, hprimary⟩ := plain_of_not_keyword hv
  refine line_gives (t := .word "return") rfl (.word rfl rfl) hindent rfl hrest fun hstart => ?_
  let s := (Place.flat (' ' :: (v.toList ++ '(' :: arguments)) indents).ending true
  have hname : ∀ stop, s.Ahead stop (.word v) v.toList ('(' :: arguments) :=
    fun stop => Place.ahead_spaced rfl (.word hword rfl)
  have hopening : ∀ stop, (s.at ('(' :: arguments)).Ahead stop (.mark "(") "(".toList arguments :=
    fun stop => Place.ahead_here rfl (.sign (by decide) _)
  have hend := hrest.atEnd indents
  have hcall : Trails (.tied (n + 1)) (loopTarget (.tied (n + 1))) (IsLeaf .identifier v.toList)
      (s.at ('(' :: arguments)) (IsTree .call) (s.at rest) :=
    .call (fun _ h => h.clean rfl) (hopening _) harguments (Nat.lt_succ_of_le hless)
      (trails_end hend.idle)
  have hvalue : Gives (expression (.tied (n + 1)) true) s (IsTree .call) (s.at rest) :=
    .expression_primary (hname _) hprimary (.primary (.atom_name (hname _) hplain) hcall) hend.idle
  exact .simple_keyword (.inl rfl) hstart (hname _) hstarts (hvalue.ofTree rfl) hend

/-- The line that makes an object without properties. -/
def makeText (name : String) (rest : List Char) : List Char :=
  newline 1 8 ++ ("return".toList ++ (' ' :: (name.toList ++ ('(' :: ')' :: rest))))

theorem make_line_gives {indents : List Nat} (hv : isKeyword v = false)
    (hword : isIdentifier v = true) (hindent : indents.headD 0 ≤ 8) (hrest : OnLine rest) :
    Gives (statement (.tied (n + 2))) (.flat (makeText v rest) indents) Clean
      (.flat rest indents) := by
  let s := (Place.flat ('(' :: ')' :: rest) indents).ending true
  have hopening : s.Ahead false (.mark "(") "(".toList (')' :: rest) :=
    Place.ahead_here rfl (.sign (by decide) _)
  have hclosing : (s.at (')' :: rest)).inside.Ahead false (.mark ")") ")".toList rest :=
    Place.ahead_here rfl (.sign (by decide) _)
  exact return_call_gives hv hword hindent hrest (.argumentList_nil hopening hclosing)
    (Nat.le_succ _)

/-- The check that a property was set. -/
def checkText (x : String) (rest : List Char) : List Char :=
  newline 1 8 ++ ("if".toList ++ (' ' :: ("self".toList ++ ('.' :: (valueStore.toList ++ ('.' ::
    ("get".toList ++ ('(' :: '"' :: (x.toList ++ ('"' :: ')' :: ' ' :: ("is".toList ++ (' ' ::
      ("None".toList ++ (':' :: raiseText x rest))))))))))))))

theorem check_gives {v : String} (hx : isIdentifier x = true) (hrest : OnLine rest)
    (hleads : Leads rest 8)
    (hnext : (Place.flat rest [8, 4, 0]).Ahead false (.word v) w behind)
    (hv : v ≠ "elif" ∧ v ≠ "else") :
    Gives (statement (.tied (n + 3))) (.flat (checkText x rest) [8, 4, 0]) Clean
      (.flat rest [8, 4, 0]) := by
  let s := Place.flat (checkText x rest) [8, 4, 0]
  let test := ' ' :: ("self".toList ++ ('.' :: (valueStore.toList ++ ('.' ::
    ("get".toList ++ ('(' :: '"' :: (x.toList ++ ('"' :: ')' :: ' ' :: ("is".toList ++ (' ' ::
      ("None".toList ++ (':' :: raiseText x rest))))))))))))
  have hif : s.Ahead false (.word "if") "if".toList test :=
    ahead_newline rfl (.word rfl rfl) (show 8 ≤ 8 from Nat.le_refl _)
  have hself : (s.at test).Ahead false (.word "self") "self".toList _ :=
    Place.ahead_spaced rfl (.word rfl rfl)
  have hcolon : (s.at (':' :: raiseText x rest)).Ahead s.lineBound (.mark ":") ":".toList _ :=
    Place.ahead_here rfl (.point (by simp) rfl)
  have htest : Gives ((Knot.tied (n + 3)).expression true) (s.at test) Clean
      (s.at (':' :: raiseText x rest)) :=
    unset_gives hx hself rfl (idle_mark hcolon (by decide))
  refine .statement (.plain_if hif fun σ hσ => .ifStatement hσ htest
    (.body rfl rfl (leads_newline (.word rfl rfl)) (show 8 < 12 by decide)
      (.cons (leads_newline (.word rfl rfl)) (Nat.le_refl _)
        (raise_line_gives hx (Nat.le_refl _) hrest) ?_ (.nil (.inr ⟨8, by decide, hleads⟩))))
    hnext hv)
  simp only [raiseText, newline, List.length_append, List.length_cons]
  omega

/-- The argument that passes a property on. -/
def argumentText (x : String) (more : List Char) : List Char :=
  newline 1 12 ++ (x.toList ++ ('=' :: ("self".toList ++ ('.' :: (valueStore.toList ++
    ('[' :: '"' :: (x.toList ++ ('"' :: ']' :: ',' :: more))))))))

/-- All arguments. -/
def argumentsText (xs : List String) (closing : List Char) : List Char :=
  xs.foldr argumentText closing

/-- An argument is read up to its comma. -/
theorem argument_gives {target : Reader Fragment} {more : List Char} (hx : isIdentifier x = true)
    (hplain : isKeyword x = false) (hindent : s.indents.headD 0 ≤ 12)
    (htext : s.text = argumentText x more) :
    Gives (argument (.tied (n + 2)) target) s Clean (s.at (',' :: more)) := by
  let value := "self".toList ++ ('.' :: (valueStore.toList ++ ('[' :: '"' ::
    (x.toList ++ ('"' :: ']' :: ',' :: more)))))
  have hstart : s.Ahead false (.word x) x.toList ('=' :: value) :=
    ahead_newline htext (.word hx rfl) hindent
  have hequals : ∀ stop, (s.at ('=' :: value)).Ahead stop (.mark "=") "=".toList value :=
    fun stop => Place.ahead_here rfl (.point (by simp) rfl)
  have hself : (s.at value).Ahead false (.word "self") "self".toList _ :=
    Place.ahead_here rfl (.word rfl rfl)
  have hcomma : ∀ stop, (s.at (',' :: more)).Ahead stop (.mark ",") ",".toList more :=
    fun stop => Place.ahead_here rfl (.sign (by decide) _)
  have hname : Gives ((Knot.tied (n + 2)).expression true) s (IsLeaf .identifier x.toList)
      (s.at ('=' :: value)) :=
    name_gives (plain_of_not_keyword hplain).1 hstart (idle_mark (hequals _) (by decide))
  have hvalue : Gives ((Knot.tied (n + 2)).expression true) ((s.at ('=' :: value)).at value)
      (IsTree .subscript) (s.at (',' :: more)) :=
    stored_gives hx hself (idle_mark (hcomma _) (by decide))
  exact .argument_named hstart (by simp) hname (hequals _) (hvalue.ofTree rfl)

theorem length_argumentsText (xs : List String) (closing : List Char) :
    closing.length ≤ (argumentsText xs closing).length := by
  induction xs with
  | nil => exact Nat.le_refl _
  | cons x xs ih =>
    rw [argumentsText, List.foldr_cons, ← argumentsText]
    simp only [argumentText, List.length_append, List.length_cons]
    omega

/-- The arguments behind the first, up to the closing bracket. -/
theorem arguments_items {target : Reader Fragment} {xs : List String} {rest : List Char}
    (hxs : ∀ x ∈ xs, isIdentifier x = true ∧ isKeyword x = false) (hindent : s.indents.headD 0 ≤ 8)
    (hbound : s.lineBound = false) :
    Items Token.startsElement (argument (.tied (n + 2)) target)
      (s.at (',' :: argumentsText xs (newline 1 8 ++ (')' :: rest))))
      (s.at (newline 1 8 ++ (')' :: rest))) := by
  induction xs with
  | nil =>
    have hcomma : ∀ stop, (s.at (',' :: (newline 1 8 ++ (')' :: rest)))).Ahead stop (.mark ",")
        ",".toList (newline 1 8 ++ (')' :: rest)) :=
      fun stop => Place.ahead_here rfl (.sign (by decide) _)
    have hclosing : (s.at (newline 1 8 ++ (')' :: rest))).Ahead false (.mark ")") ")".toList rest :=
      ahead_newline rfl (.sign (by decide) _) hindent
    exact .last (hcomma _) (hbound ▸ hclosing) rfl (Nat.lt_succ_self _)
  | cons x xs ih =>
    rw [List.forall_mem_cons] at hxs
    let more := argumentsText xs (newline 1 8 ++ (')' :: rest))
    have hcomma : ∀ stop, (s.at (',' :: argumentText x more)).Ahead stop (.mark ",") ",".toList
        (argumentText x more) := fun stop => Place.ahead_here rfl (.sign (by decide) _)
    have hname : (s.at (argumentText x more)).Ahead false (.word x) x.toList _ :=
      ahead_newline rfl (.word hxs.1.1 rfl) (Nat.le_trans hindent (by decide))
    refine .cons (hcomma _) (hbound ▸ hname) ?_
      (argument_gives hxs.1.1 hxs.1.2 (Nat.le_trans hindent (by decide)) rfl) ?_ (ih hxs.2)
    · rw [Token.startsElement, (plain_of_not_keyword hxs.1.2).2.1, Bool.true_or]
    · show (more.length + 1) < (argumentText x more).length + 1
      simp only [argumentText, List.length_append, List.length_cons]
      omega

/-- The lines that make an object from its properties. -/
def passText (name x : String) (xs : List String) (rest : List Char) : List Char :=
  newline 1 8 ++ ("return".toList ++ (' ' :: (name.toList ++ ('(' ::
    argumentText x (argumentsText xs (newline 1 8 ++ (')' :: rest)))))))

theorem pass_lines_give {indents : List Nat} {xs : List String} {rest : List Char}
    (hv : isKeyword v = false) (hword : isIdentifier v = true) (hx : isIdentifier x = true)
    (hplain : isKeyword x = false) (hxs : ∀ x ∈ xs, isIdentifier x = true ∧ isKeyword x = false)
    (hindent : indents.headD 0 ≤ 8) (hrest : OnLine rest) :
    Gives (statement (.tied (n + 3))) (.flat (passText v x xs rest) indents) Clean
      (.flat rest indents) := by
  let closing := newline 1 8 ++ (')' :: rest)
  let more := argumentsText xs closing
  let s := (Place.flat ('(' :: argumentText x more) indents).ending true
  have hopening : s.Ahead false (.mark "(") "(".toList (argumentText x more) :=
    Place.ahead_here rfl (.sign (by decide) _)
  have hclosing : (s.at closing).inside.Ahead false (.mark ")") ")".toList rest :=
    ahead_newline rfl (.sign (by decide) _) hindent
  have hindent' : indents.headD 0 ≤ 12 := Nat.le_trans hindent (by decide)
  have hfirst : (s.at (argumentText x more)).inside.Ahead false (.word x) x.toList _ :=
    ahead_newline rfl (.word hx rfl) hindent'
  refine return_call_gives (n := n + 1) hv hword hindent hrest
    (.argumentList hopening hfirst (by simp) (argument_gives hx hplain hindent' rfl)
      (arguments_items (s := s.inside) hxs hindent rfl) hclosing) ?_
  have hlength := length_argumentsText xs closing
  simp only [closing, List.length_append, List.length_cons] at hlength
  simp only [argumentText, List.length_append, List.length_cons]
  omega

/-- The text goes on with a statement of the method. -/
structure GoesOn (rest : List Char) : Prop where
  line : OnLine rest
  leads : Leads rest 8
  next : ∃ v w behind, (Place.flat rest [8, 4, 0]).Ahead false (.word v) w behind ∧
    v ≠ "elif" ∧ v ≠ "else"

theorem GoesOn.of_word {v : String} {w behind : List Char} (hopens : Opens (.word v) w behind)
    (hv : v ≠ "elif" ∧ v ≠ "else") : GoesOn (newline 1 8 ++ (w ++ behind)) :=
  ⟨rfl, leads_newline hopens, v, w, behind, ahead_newline rfl hopens (Nat.le_refl _), hv⟩

/-- All checks. -/
def checksText (xs : List String) (last : List Char) : List Char := xs.foldr checkText last

/-- The statement that makes the object. -/
def resultLines (name : String) (xs : List String) (rest : List Char) : List Char :=
  match xs with
  | [] => makeText name rest
  | x :: xs => passText name x xs rest

variable {xs : List String}

theorem result_lines_give (hv : isKeyword v = false) (hword : isIdentifier v = true)
    (hxs : ∀ x ∈ xs, isIdentifier x = true ∧ isKeyword x = false) (hrest : OnLine rest) :
    GoesOn (resultLines v xs rest) ∧ rest.length < (resultLines v xs rest).length ∧
      Gives (statement (.tied (n + 3))) (.flat (resultLines v xs rest) [8, 4, 0]) Clean
        (.flat rest [8, 4, 0]) := by
  cases xs with
  | nil =>
    refine ⟨.of_word (.word rfl rfl) (by decide), ?_, make_line_gives (n := n + 1) hv hword
      (Nat.le_refl _) hrest⟩
    simp only [resultLines, makeText, List.length_append, List.length_cons]
    omega
  | cons x xs =>
    rw [List.forall_mem_cons] at hxs
    refine ⟨.of_word (.word rfl rfl) (by decide), ?_,
      pass_lines_give hv hword hxs.1.1 hxs.1.2 hxs.2 (Nat.le_refl _) hrest⟩
    have hlength := length_argumentsText xs (newline 1 8 ++ (')' :: rest))
    simp only [List.length_append, List.length_cons] at hlength
    simp only [resultLines, passText, argumentText, List.length_append, List.length_cons]
    omega

/-- The body of the method that makes the object. -/
theorem build_body (hv : isKeyword v = false) (hword : isIdentifier v = true)
    (hxs : ∀ x ∈ xs, isIdentifier x = true ∧ isKeyword x = false) {ys : List String}
    (hys : ∀ y ∈ ys, isIdentifier y = true) (hrest : OnLine rest) (hleaving : Leaving 8 rest) :
    GoesOn (checksText ys (resultLines v xs rest)) ∧
      Block (.tied (n + 4)) 8 [4, 0] (checksText ys (resultLines v xs rest)) rest := by
  obtain ⟨hgoes, hless, hresult⟩ := result_lines_give (n := n) hv hword hxs hrest
  induction ys with
  | nil =>
    exact ⟨hgoes, .cons hgoes.leads (Nat.le_refl _) hresult hless (.nil hleaving)⟩
  | cons y ys ih =>
    rw [List.forall_mem_cons] at hys
    obtain ⟨hgoes', hblock⟩ := ih hys.2
    have hhere : GoesOn (checksText (y :: ys) (resultLines v xs rest)) :=
      .of_word (.word rfl rfl) (by decide)
    obtain ⟨v', w, behind, hnext, hv'⟩ := hgoes'.next
    refine ⟨hhere, .cons hhere.leads (Nat.le_refl _)
      (check_gives (n := n) hys.1 hgoes'.line hgoes'.leads hnext hv') ?_ hblock⟩
    show (checksText ys (resultLines v xs rest)).length <
      (checkText y (checksText ys (resultLines v xs rest))).length
    simp only [checkText, raiseText, List.length_append, List.length_cons]
    omega

/-- The method that makes the object. -/
def buildText (name : String) (xs : List String) (rest : List Char) : List Char :=
  methodText "build" [] name (checksText xs (resultLines name xs rest))

theorem build_gives (hv : isKeyword v = false) (hword : isIdentifier v = true)
    (hxs : ∀ x ∈ xs, isIdentifier x = true ∧ isKeyword x = false) (hrest : OnLine rest)
    (hleaving : Leaving 8 rest) :
    Gives (statement (.tied (n + 4))) (.flat (buildText v xs rest) [4, 0]) Clean
      (.flat rest [4, 0]) := by
  obtain ⟨hgoes, hblock⟩ := build_body (n := n) hv hword hxs (fun x hx => (hxs x hx).1)
    hrest hleaving
  have hend : (Place.flat (':' :: checksText xs (resultLines v xs rest)) [4, 0]).Ahead false
      (.mark ":") ":".toList _ :=
    Place.ahead_here rfl (.point (by simp) (OnLine.endsPoint hgoes.line))
  exact plain_method_gives rfl
    (hint_gives (plain_of_not_keyword hv).1 hword rfl rfl hend (by decide) (by simp))
    ⟨hgoes.line, hgoes.leads, hblock⟩

/-- The method that makes room for the values. -/
def constructorText (rest : List Char) : List Char := methodText "__init__" [] "None" (roomText rest)

theorem constructor_gives (hrest : OnLine rest) (hleaving : Leaving 8 rest) :
    Gives (statement (.tied (n + 4))) (.flat (constructorText rest) [4, 0]) Clean
      (.flat rest [4, 0]) := by
  have hend : (Place.flat (':' :: roomText rest) [4, 0]).Ahead false (.mark ":") ":".toList _ :=
    Place.ahead_here rfl (.point (by simp) rfl)
  refine plain_method_gives rfl (hint_none_gives rfl rfl hend (by decide) (by simp))
    ⟨rfl, leads_newline (.word rfl rfl), .cons (leads_newline (.word rfl rfl)) (Nat.le_refl _)
      (room_line_gives (n := n + 1) (Nat.le_refl _) hrest) ?_ (.nil hleaving)⟩
  simp only [roomText, newline, List.length_append, List.length_cons]
  omega

end Methods

/-! ## 5. The class -/

/-- A text that is read as one annotation inside of brackets, up to the closing one. -/
def IsAnnotation (type : String) : Prop :=
  ∀ (depth : Nat) (s : Place) (behind : List Char), type.length < depth → 0 < s.brackets →
    s.text = ' ' :: (type.toList ++ ')' :: behind) →
    Gives (typeHint (.tied depth) true) s Clean (s.at (')' :: behind))

section Class

variable {rest : List Char} {properties : List Property} {builder : String}

/-- The text goes on with a method, or ends. -/
structure Between (rest : List Char) : Prop where
  line : OnLine rest
  leaves : Leaves rest ∨ Leads rest 4

theorem Between.leaving (h : Between rest) : Leaving 8 rest :=
  h.leaves.imp_right fun h => ⟨4, by decide, h⟩

/-- All setters. -/
def settersText (builder : String) (properties : List Property) (rest : List Char) : List Char :=
  properties.foldr (fun p rest => setterText p.name p.type builder rest) rest

theorem between_method {behind : List Char} :
    Between (newline 2 4 ++ ("def".toList ++ ' ' :: behind)) :=
  ⟨rfl, .inr (leads_newline (t := .word "def") (.word rfl rfl))⟩

theorem setters_block {width : Nat} {outer : List Nat} (hindents : width :: outer = [4, 0])
    (hbuilder : isPlainWord builder = true) (hword : isIdentifier builder = true)
    (hnames : ∀ p ∈ properties, isIdentifier p.name = true)
    (htypes : ∀ p ∈ properties, IsAnnotation p.type ∧ p.type.length < n + 3) {behind : List Char}
    (hrest : Between rest) (hblock : Block (.tied (n + 4)) width outer rest behind) :
    Block (.tied (n + 4)) width outer (settersText builder properties rest) behind ∧
      Between (settersText builder properties rest) := by
  cases hindents
  induction properties with
  | nil => exact ⟨hblock, hrest⟩
  | cons p properties ih =>
    -- a setter ends where the next line starts that stands further left than its body
    rw [List.forall_mem_cons] at hnames htypes
    obtain ⟨hblock', hbetween⟩ := ih hnames.2 htypes.2
    let more := settersText builder properties rest
    have hhere : Between (setterText p.name p.type builder more) := between_method
    have htype := htypes.1.1 (n + 3) (inMethod (' ' :: (p.type.toList ++
      resultText builder (storeText p.name (returnText more))))) _ htypes.1.2 Nat.one_pos rfl
    refine ⟨.cons (leads_newline (t := .word "def") (.word rfl rfl)) (Nat.le_refl _)
      (setter_gives (n := n) hnames.1 hbuilder hword htype hbetween.line hbetween.leaving) ?_
      hblock', hhere⟩
    show more.length < (setterText p.name p.type builder more).length
    simp only [setterText, methodText, resultText, storeText, returnText, List.length_append,
      List.length_cons]
    omega

/-- The methods of a builder. -/
def methodsText (name : String) (properties : List Property) (rest : List Char) : List Char :=
  let build := buildText name (properties.map (·.name)) rest
  if properties.isEmpty then build
  else constructorText (settersText (builderTypeName name) properties build)

theorem builder_plain {name : String} (hname : isIdentifier name = true) :
    isIdentifier (builderTypeName name) = true ∧ isPlainWord (builderTypeName name) = true := by
  have hending : ("Builder".toList.all isNameChar) = true := by decide
  refine ⟨isIdentifier_append hname (List.all_eq_true.mp hending), ?_⟩
  have hlong : ∀ v ∈ ["None", "True", "False", "lambda", "yield", "not", "await"],
    v.length < 7 := by
    decide
  rw [isPlainWord, Bool.not_eq_true', Bool.eq_false_iff]
  intro hmem
  have hlength := hlong _ (by simpa using hmem)
  have hseven : "Builder".length = 7 := rfl
  rw [builderTypeName, String.length_append] at hlength
  omega

theorem methods_block {name : String} (hname : isIdentifier name = true)
    (hkeyword : isKeyword name = false)
    (hproperties : ∀ p ∈ properties, isIdentifier p.name = true ∧ isKeyword p.name = false)
    (htypes : ∀ p ∈ properties, IsAnnotation p.type ∧ p.type.length < n + 4) :
    Block (.tied (n + 5)) 4 [0] (methodsText name properties ['\n']) ['\n'] ∧
      Between (methodsText name properties ['\n']) := by
  have hend : Leaves ['\n'] := by simp [Leaves]
  have hxs : ∀ x ∈ properties.map (·.name), isIdentifier x = true ∧ isKeyword x = false := by
    simpa using hproperties
  let build := buildText name (properties.map (·.name)) ['\n']
  have hbuild : Block (.tied (n + 5)) 4 [0] build ['\n'] := by
    refine .cons (leads_newline (t := .word "def") (.word rfl rfl)) (Nat.le_refl _)
      (build_gives (n := n) hkeyword hname hxs rfl (.inl hend)) ?_ (.nil (.inl hend))
    simp [build, buildText, methodText, newline]
  unfold methodsText
  dsimp only
  split
  · exact ⟨hbuild, between_method⟩
  · obtain ⟨hword, hplain⟩ := builder_plain hname
    obtain ⟨hsetters, hbetween⟩ := setters_block (n := n + 1) rfl hplain hword
      (fun p hp => (hproperties p hp).1) htypes between_method hbuild
    refine ⟨.cons (leads_newline (t := .word "def") (.word rfl rfl)) (Nat.le_refl _)
      (constructor_gives (n := n) hbetween.line hbetween.leaving) ?_ hsetters, between_method⟩
    simp only [constructorText, methodText, resultText, roomText, List.length_append,
      List.length_cons]
    omega

/-- The class of a builder. -/
def classText (name : String) (properties : List Property) (rest : List Char) : List Char :=
  newline 3 0 ++ ("class".toList ++ (' ' :: ((builderTypeName name).toList ++
    (':' :: docText name (methodsText name properties rest)))))

theorem class_gives {name : String} (hname : isIdentifier name = true)
    (hkeyword : isKeyword name = false)
    (hproperties : ∀ p ∈ properties, isIdentifier p.name = true ∧ isKeyword p.name = false)
    (htypes : ∀ p ∈ properties, IsAnnotation p.type ∧ p.type.length < n + 4) :
    Gives (statement (.tied (n + 5))) (.flat (classText name properties ['\n']) [0])
      (IsClass (builderTypeName name)) (.flat ['\n'] [0]) := by
  let s := Place.flat (classText name properties ['\n']) [0]
  let body := docText name (methodsText name properties ['\n'])
  obtain ⟨hword, -⟩ := builder_plain hname
  obtain ⟨hmethods, hbetween⟩ := methods_block (n := n) hname hkeyword hproperties htypes
  have hne : builderTypeName name ≠ "" := by
    intro hempty
    rw [hempty] at hword
    cases hword
  have hclass : s.Ahead false (.word "class") "class".toList
      (' ' :: ((builderTypeName name).toList ++ (':' :: body))) :=
    ahead_newline rfl (.word rfl rfl) (Nat.zero_le _)
  have hnamed : (s.at (' ' :: ((builderTypeName name).toList ++ (':' :: body)))).Ahead false
      (.word (builderTypeName name)) (builderTypeName name).toList (':' :: body) :=
    Place.ahead_spaced rfl (.word hword rfl)
  have hcolon : (s.at (':' :: body)).Ahead false (.mark ":") ":".toList body :=
    Place.ahead_here rfl (.point (by simp) rfl)
  refine .statement (.plain_class hclass fun σ hσ => .classDefinition hσ hnamed hne hcolon
    (.body rfl rfl (leads_newline (.quotes _)) (show 0 < 4 by decide)
    (.cons (leads_newline (.quotes _)) (Nat.le_refl _)
      (doc_line_gives (n := n + 3) hname (Nat.le_refl _) hbetween.line) ?_ hmethods)))
  show (methodsText name properties ['\n']).length <
    (docText name (methodsText name properties ['\n'])).length
  simp only [docText, List.length_append, List.length_cons]
  omega

end Class

end FluentBuilders
