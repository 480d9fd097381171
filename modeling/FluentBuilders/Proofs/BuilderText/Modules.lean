import FluentBuilders.Proofs.BuilderText.Reading
import FluentBuilders.Proofs.SymbolTable.Relative
import FluentBuilders.Proofs.Text.Dotted

/-!
The text of a builder is read as a module without errors.

1. Imports.
2. The head: two comments, and the import that takes them along.
3. The module, statement by statement.
4. The lines of a builder in order.
5. The text of a builder.
-/

namespace FluentBuilders

namespace Grammar

/-- What stands between tokens before clean nodes stays outside of their tree. -/
theorem Clean.branch_behind {f extras : Fragment} {kind : Kind} (hf : Clean f) (hne : f ≠ [])
    (hextras : ∀ n ∈ extras, n.isExtra = true) :
    Grammar.branch kind (extras ++ f) = extras ++ [.tree kind .none f] := by
  obtain ⟨first, more, rfl⟩ := List.exists_cons_of_ne_nil hne
  have hclean := List.forall_mem_cons.mp hf
  obtain ⟨inner, after, rfl, hafter, hbranch⟩ :=
    enclose_leading Node.isExtra kind more hextras hclean.1.1
  have hnone : after = [] := List.eq_nil_iff_forall_not_mem.mpr fun n hn => by
    have hextra := (hclean.2 n (List.mem_append_right _ hn)).1
    rw [hafter n hn] at hextra
    cases hextra
  rw [Grammar.branch, hbranch, hnone, List.append_nil]

end Grammar

open Text Grammar

variable {s s' : Place} {t : Token} {n : Nat} {w w' behind behind' : List Char} {x v : String}

/-! ## 1. Imports -/

section Imports

variable {k : Knot} {rest : List Char} {lines : Nat} {first : String} {names : List String}

/-- One name as an item of an import. -/
def IsItem (v : String) (f : Fragment) : Prop :=
  ∃ l, f = [.tree .dottedName .item l] ∧ Spells [v] l

/-- The words of an import, with what it imports behind them. -/
def fromText (lines : Nat) (first : String) (names : List String) (items : List Char) : List Char :=
  newline lines 0 ++ ("from".toList ++ (' ' :: (first.toList ++ (membersText names ++
    (' ' :: ("import".toList ++ (' ' :: items)))))))

theorem from_line_gives {P : Fragment → Prop} {items : List Char}
    (hfirst : isIdentifier first = true)
    (hfuture : first ≠ "__future__") (hnames : ∀ v ∈ names, isIdentifier v = true)
    (hrest : OnLine rest) {s : Place} (hs : s = (Place.flat (' ' :: items) [0]).ending true)
    (hstart : s.Ahead false (.word v) w behind)
    (hitems : Gives importItems s (fun f => P f ∧ Clean f) ((Place.flat rest [0]).ending true)) :
    Gives (statement k) (.flat (fromText lines first names items) [0]) (IsImport first names P)
      (.flat rest [0]) := by
  subst hs
  refine line_gives (t := .word "from") rfl (.word rfl rfl) (Nat.zero_le _) rfl hrest
    fun hfrom => ?_
  refine .look hfrom fun σ hσ => ?_
  simp only [hσ.token]
  exact .importFrom hσ hfirst hfuture hnames rfl hstart (by simp) hitems

/-- The import of one name. -/
theorem import_line_gives (hfirst : isIdentifier first = true) (hfuture : first ≠ "__future__")
    (hnames : ∀ v ∈ names, isIdentifier v = true) (hv : isIdentifier v = true)
    (hrest : OnLine rest) :
    Gives (statement k) (.flat (fromText lines first names (v.toList ++ rest)) [0])
      (IsImport first names (IsItem v)) (.flat rest [0]) := by
  let s := (Place.flat (' ' :: (v.toList ++ rest)) [0]).ending true
  have hend := hrest.atEnd [0]
  have hname : s.Ahead false (.word v) v.toList rest :=
    Place.ahead_spaced rfl (.word hv hrest.endsName)
  have hitem : Gives importItem s (IsDottedName v []) (s.at rest) :=
    .importItem hv rfl hrest.endsName hend.ahead
      (by decide)
  refine from_line_gives hfirst hfuture hnames hrest rfl hname ?_
  refine (Gives.single hitem hend.ahead (by simp)).bind fun r hr =>
    .pure ⟨?_, hr.1.clean.withRole .item⟩
  obtain ⟨⟨l, hl, htexts⟩, -⟩ := hr
  exact ⟨l, by rw [hl]; rfl, htexts⟩

/-- The import of two names. -/
theorem import_pair_gives {v' : String} (hfirst : isIdentifier first = true)
    (hfuture : first ≠ "__future__") (hnames : ∀ v ∈ names, isIdentifier v = true)
    (hv : isIdentifier v = true) (hv' : isIdentifier v' = true) (hrest : OnLine rest) :
    Gives (statement k)
      (.flat (fromText lines first names (v.toList ++ (',' :: ' ' :: (v'.toList ++ rest)))) [0]) (IsImport first names fun _ => True) (.flat rest [0]) := by
  let second := ' ' :: (v'.toList ++ rest)
  let s := (Place.flat (' ' :: (v.toList ++ (',' :: second))) [0]).ending true
  have hend := hrest.atEnd [0]
  have hname : s.Ahead false (.word v) v.toList (',' :: second) :=
    Place.ahead_spaced rfl (.word hv rfl)
  have hcomma : ∀ stop, (s.at (',' :: second)).Ahead stop (.mark ",") ",".toList second :=
    fun stop => Place.ahead_here rfl (.sign (by decide) _)
  have hsecond : ∀ stop, (s.at second).Ahead stop (.word v') v'.toList rest :=
    fun stop => Place.ahead_spaced rfl (.word hv' hrest.endsName)
  have hitem : Gives importItem s Clean (s.at (',' :: second)) :=
    (Gives.importItem hv rfl rfl (hcomma _) (by decide)).mono fun _ h => h.clean
  have hitem' : Gives importItem (s.at second) Clean (s.at rest) :=
    (Gives.importItem (s := s.at second) hv' rfl hrest.endsName hend.ahead (by decide)).mono
      fun _ h => h.clean
  refine from_line_gives hfirst hfuture hnames hrest rfl hname ?_
  refine (Gives.commaList hitem (.cons (hcomma _) (hsecond _) rfl hitem' ?_
    (.nil hend.ahead (by simp)))).bind fun r hr => .pure ⟨trivial, hr.withRole .item⟩
  simp only [Place.at, second, List.length_append, List.length_cons]
  omega

end Imports

/-! ## 2. The head -/

section Head

variable {k : Knot} {line line' rest : List Char}

/-- Whether nothing that was read so far is an error. -/
def Unbroken (f : Fragment) : Prop := Node.anyHasError f = false

theorem Unbroken.append {f f' : Fragment} (h : Unbroken f) (h' : Unbroken f') :
    Unbroken (f ++ f') := by
  unfold Unbroken at h h' ⊢
  rw [Bool.eq_false_iff, ne_eq, Node.anyHasError_eq_true] at h h' ⊢
  rintro ⟨n, hn, herror⟩
  exact (List.mem_append.mp hn).elim (fun hn => h ⟨n, hn, herror⟩) fun hn => h' ⟨n, hn, herror⟩

/-- Whether a node is a comment. -/
def IsComment (n : Node) : Prop := n.kind = .comment ∧ n.hasError = false

/-- Comments before the nodes of a branch stay outside of it, and nothing of it is broken. -/
theorem unbroken_behind {kind : Kind} {extras f : Fragment} (hextras : ∀ n ∈ extras, IsComment n)
    (hf : Clean f) (hne : f ≠ []) (hkind : kind.isProper = true) :
    Unbroken (branch kind (extras ++ f)) := by
  have htree : Clean [.tree kind .none f] := IsTree.clean ⟨f, rfl, hf⟩ hkind
  rw [hf.branch_behind hne fun n hn => by rw [Node.isExtra, (hextras n hn).1]]
  refine Unbroken.append ?_ htree.anyHasError
  rw [Unbroken, Bool.eq_false_iff, ne_eq, Node.anyHasError_eq_true]
  rintro ⟨n, hn, herror⟩
  rw [(hextras n hn).2] at herror
  cases herror

/-- A line reaches up to the line end. -/
theorem lineLength_chars {gs : List Glyph} (h : chars gs = line ++ '\n' :: rest)
    (hline : '\n' ∉ line) :
    lineLength gs = line.length := by
  induction line generalizing gs with
  | nil =>
    obtain ⟨g, more, rfl, hg, -⟩ := chars_cons h
    simp [lineLength, hg]
  | cons c line ih =>
    obtain ⟨g, more, rfl, rfl, hmore⟩ := chars_cons h
    rw [List.mem_cons, not_or] at hline
    simp [lineLength, Ne.symm hline.1, ih hmore hline.2]

/-- A comment takes its line, and the gap goes on behind it. -/
theorem gap_read_comment (fuel : Nat) (g : Gap)
    (htext : chars g.cursor.rest = '#' :: (line ++ '\n' :: rest)) (hline : '\n' ∉ line) :
    ∃ g' : Gap, Gap.read false (fuel + 2) g = Gap.read false fuel g' ∧
      g'.cursor = g.cursor.advance (line.length + 2) ∧ g'.blanks = ['\n'] ∧ g'.indent = 0 ∧
        ∃ n, IsComment n ∧ g'.extras = n :: g.extras := by
  have hwhole : '\n' ∉ '#' :: line := by simp [hline]
  have hcount : lineLength g.cursor.rest = line.length + 1 := lineLength_chars htext hwhole
  let h := g.extra .comment (line.length + 1)
  have hbehind : chars h.cursor.rest = '\n' :: rest := by
    have hdrop : chars (g.cursor.rest.drop (line.length + 1)) = '\n' :: rest := by
      unfold chars at htext ⊢
      rw [List.map_drop, htext, List.drop_succ_cons, List.drop_left]
    simpa [h, Gap.extra] using hdrop
  have hfirst : Gap.read false (fuel + 2) g = Gap.read false (fuel + 1) h := by
    obtain ⟨first, more, hrest, hchar, -⟩ := chars_cons htext
    rw [Gap.read, hrest]
    dsimp only
    rw [← hrest, hcount, hchar]
    rfl
  obtain ⟨next, more, hrest, hchar, -⟩ := chars_cons hbehind
  refine ⟨{ h.blank '\n' 0 with crossed := true }, ?_, ?_, rfl, rfl, _, ⟨rfl, rfl⟩, rfl⟩
  · rw [hfirst, Gap.read, hrest]
    dsimp only
    rw [hchar]
    rfl
  · show (g.cursor.advance (line.length + 1)).advance 1 = _
    rw [Cursor.advance_add]

/-- The text behind two lines of comments. -/
def commented (line line' rest : List Char) : List Char :=
  '#' :: (line ++ '\n' :: '#' :: (line' ++ '\n' :: rest))

/-- The gap passes over both comments. -/
theorem head_gap {c : Cursor} (hline : '\n' ∉ line) (hline' : '\n' ∉ line')
    (hopens : Opens t w behind)
    (hc : c.Plain) (hs : c.place = s) (htext : s.text = commented line line' (w ++ behind)) :
    (c.gap false).cursor.place = s.at (w ++ behind) ∧ (c.gap false).cursor.Plain ∧
      (c.gap false).blanks = ['\n'] ∧ (c.gap false).indent = 0 ∧
        ∀ n ∈ (c.gap false).extras, IsComment n := by
  have hchars : chars c.rest = commented line line' (w ++ behind) :=
    (congrArg Place.text hs).trans htext
  have hlength := congrArg List.length hchars
  have hfed := hc.fed
  unfold Cursor.Fed at hfed
  rw [length_chars, commented] at hlength
  simp only [List.length_cons, List.length_append] at hlength
  -- two steps for each comment: its line, and the line end
  obtain ⟨fuel, hfuel⟩ : ∃ fuel, c.budget = fuel + 2 + 2 :=
    ⟨c.budget - 4, by omega⟩
  obtain ⟨g₁, hread₁, hcursor₁, -, -, n₁, hn₁, hextras₁⟩ :=
    gap_read_comment (fuel + 2) ⟨c, [], [], false, 0⟩ hchars hline
  have hplace₁ : g₁.cursor.place = s.at ('#' :: (line' ++ '\n' :: (w ++ behind))) := by
    rw [hcursor₁]
    have hgo : (c.advance ('#' :: (line ++ ['\n'])).length).place =
        s.at ('#' :: (line' ++ '\n' :: (w ++ behind))) :=
      Cursor.place_advance hs (by simp [htext, commented])
    simpa using hgo
  obtain ⟨g₂, hread₂, hcursor₂, hblanks, hindent, n₂, hn₂, hextras₂⟩ :=
    gap_read_comment fuel g₁ (congrArg Place.text hplace₁) hline'
  have hplace₂ : g₂.cursor.place = s.at (w ++ behind) := by
    rw [hcursor₂]
    have hgo : (g₁.cursor.advance ('#' :: (line' ++ ['\n'])).length).place =
        (s.at ('#' :: (line' ++ '\n' :: (w ++ behind)))).at (w ++ behind) :=
      Cursor.place_advance hplace₁ (by simp [Place.at])
    simpa [Place.at] using hgo
  have hgap : c.gap false = g₂ := by
    obtain ⟨d, cs, rfl, hd⟩ := hopens.solid
    obtain ⟨first, more, hrest, hchar, -⟩ := chars_cons (congrArg Place.text hplace₂)
    rw [Cursor.gap, hfuel, hread₁, hread₂, Gap.read_stop fuel hrest (hchar ▸ hd)]
  rw [hgap]
  refine ⟨hplace₂, ?_, hblanks, hindent, ?_⟩
  · rw [hcursor₂, hcursor₁]
    exact (hc.advance _).advance _
  · rw [hextras₂, hextras₁]
    exact List.forall_mem_cons.mpr ⟨hn₂, List.forall_mem_singleton.mpr hn₁⟩

/-- What is seen of a token with nothing but comments before it. -/
def Sight.Follows (σ : Sight) (s : Place) (t : Token) (w behind : List Char) : Prop :=
  σ.Tells s t w behind ∧ ∀ n ∈ σ.extras, IsComment n

/-- The first token behind both comments. -/
theorem head_look {c : Cursor} (hline : '\n' ∉ line) (hline' : '\n' ∉ line')
    (hopens : Opens t w behind)
    (hc : c.Plain) (hs : c.place = s) (htext : s.text = commented line line' (w ++ behind))
    (hindent : s.indents.headD 0 = 0) : Sight.Follows (c.look false) s t w behind := by
  obtain ⟨hplace, hplain, hblanks, hwidth, hextras⟩ := head_gap hline hline' hopens hc hs htext
  have htoken := hopens.reads _ (congrArg Place.text hplace)
  have hbound : ¬ (c.gap false).indent < c.indent := by
    subst hs
    rw [hwidth, show c.indent = 0 from hindent]
    exact Nat.lt_irrefl 0
  obtain ⟨d, cs, rfl, -⟩ := hopens.solid
  obtain ⟨first, more, hrest, -⟩ := chars_cons (congrArg Place.text hplace)
  rw [Cursor.look_plain hc.repair]
  unfold Gap.sight.ordinary
  simp only [hrest, hbound, decide_false, Bool.and_false, Bool.false_and, Bool.false_eq_true,
    if_false]
  rw [← hrest, htoken]
  refine ⟨⟨rfl, rfl, rfl, ?_, hplace, hplain⟩, fun n hn => hextras n (List.mem_reverse.mp hn)⟩
  simp [Gap.spelled, hblanks, isAllBlank]
  decide

/-- The first token behind both comments stands at the margin. -/
theorem head_indent (hline : '\n' ∉ line) (hline' : '\n' ∉ line') (hopens : Opens t w behind)
    (htext : s.text = commented line line' (w ++ behind)) :
    Gives nextIndent s (· = some 0) s := by
  refine .get fun c hc hs => .pure ?_
  obtain ⟨hplace, -, -, hwidth, -⟩ := head_gap hline hline' hopens hc hs htext
  obtain ⟨d, cs, rfl, -⟩ := hopens.solid
  obtain ⟨first, more, hrest, -⟩ := chars_cons (congrArg Place.text hplace)
  rw [hrest, hwidth]
  rfl

/-- The first import, behind its word. -/
def futureText (rest : List Char) : List Char :=
  ' ' :: ("__future__".toList ++
  (' ' :: ("import".toList ++ (' ' :: ("annotations".toList ++ rest)))))

/-- The first import, whose first word brings the comments before it along. -/
theorem future_import {σ : Sight} (hs : s = (Place.flat s.text [0]).ending true)
    (hrest : OnLine rest)
    (hσ : Sight.Follows σ s (.word "from") "from".toList (futureText rest)) :
    Gives (importFrom σ) s Unbroken (s.at rest) := by
  let items := ' ' :: ("annotations".toList ++ rest)
  have hend : (s.at rest).AtEnd := by
    rw [hs]
    exact hrest.atEnd [0]
  have hfuture : (s.at (futureText rest)).Ahead false (.word "__future__") "__future__".toList
      (' ' :: ("import".toList ++ items)) := Place.ahead_spaced rfl (.word rfl rfl)
  have himport : (s.at (' ' :: ("import".toList ++ items))).Ahead false (.word "import")
    "import".toList
      items := Place.ahead_spaced rfl (.word rfl rfl)
  have hname : (s.at items).Ahead false (.word "annotations") "annotations".toList rest :=
    Place.ahead_spaced rfl (.word rfl hrest.endsName)
  have hitem : Gives importItem (s.at items) (IsDottedName "annotations" []) (s.at rest) :=
    .importItem rfl rfl hrest.endsName hend.ahead (by decide)
  have hitems : Gives importItems (s.at items) Clean (s.at rest) :=
    (Gives.single hitem hend.ahead (by simp)).bind fun r hr => .pure (hr.1.clean.withRole .item)
  refine (Gives.take_behind hσ.1 .keyword).bind fun f hf => ?_
  obtain ⟨keyword, rfl, hkeyword⟩ := hf
  refine .look hfuture fun σ₁ hσ₁ => ?_
  simp only [hσ₁.token]
  refine (Gives.take hσ₁ .keyword).bind fun future hfuture => ?_
  refine (Gives.word himport).bind fun next hnext => ?_
  refine (Gives.importedNames hname (by simp) hitems).bind fun imported himported => .pure ?_
  have hclean : Clean (keyword ++ (future ++ (next ++ imported))) :=
    (hkeyword.clean rfl).append ((hfuture.clean rfl).append ((hnext.clean rfl).append himported))
  simp only [List.append_assoc]
  refine unbroken_behind hσ.2 hclean ?_ rfl
  obtain ⟨gap, position, -, rfl⟩ := hkeyword
  exact List.cons_ne_nil _ _

/-- The first line with the comments above it. -/
theorem future_gives (hline : '\n' ∉ line) (hline' : '\n' ∉ line') (hrest : OnLine rest) :
    Gives (statement k) (.flat (commented line line' ("from".toList ++ futureText rest)) [0])
    Unbroken
      (.flat rest [0]) := by
  let text := commented line line' ("from".toList ++ futureText rest)
  let s := (Place.flat text [0]).ending true
  have hopens : Opens (.word "from") "from".toList (futureText rest) := .word rfl rfl
  have hsimple : Gives (simpleStatement k) s Unbroken (s.at rest) := by
    refine .looked (Sight.Follows · s (.word "from") "from".toList (futureText rest))
      (fun c hc hs => head_look hline hline' hopens hc hs rfl rfl) fun σ hσ => ?_
    simp only [hσ.1.token]
    exact future_import rfl hrest hσ
  refine .statement (.modify (fun _ => ⟨rfl, rfl, rfl⟩) (m := .flat text [0]) (fun c hc => ?_) ?_)
  · simp only [Cursor.place, Place.flat, Place.mk.injEq] at hc
    simp [Cursor.place, Place.flat, hc, text]
  · refine .looked (Sight.Follows · (.flat text [0]) (.word "from") "from".toList (futureText rest))
      (fun c hc hs => head_look hline hline' hopens hc hs rfl rfl) fun σ hσ => ?_
    simp only [hσ.1.token]
    exact .simpleLine hsimple (hrest.atEnd [0]).head

end Head

/-! ## 3. The module -/

section Module

variable {k : Knot} {A B P Q : Fragment → Prop} {first name : String} {names : List String}
  {properties : List Property} {line line' rest : List Char} {s₁ : Place}

/-- One more statement of a module. -/
def moduleStep (k : Knot) (sofar : Fragment) : Reader (Option Fragment) := do
  match ← nextIndent with
  | some _ => return some (sofar ++ (← k.statement))
  | none => return none

theorem module_more (hindent : Gives nextIndent s (· = some 0) s)
    (hstatement : Gives k.statement s P s₁)
    (hless : s₁.text.length < s.text.length) (hB : ∀ sofar f, A sofar → P f → B (sofar ++ f))
    (hrest : GivesOn (moduleStep k) B s₁ Q s') : GivesOn (moduleStep k) A s Q s' := by
  refine .more (fun sofar hsofar => ?_) hless hrest
  refine hindent.bind fun r hr => ?_
  subst hr
  exact hstatement.bind fun f hf => .pure ⟨_, rfl, hB sofar f hsofar hf⟩

/-- The imports behind the first. -/
def importsText (first : String) (names : List String) (name : String) (bare : Bool)
    (rest : List Char) :
    List Char :=
  if bare then fromText 2 first names (name.toList ++ rest)
  else fromText 2 "typing" [] ("Any".toList ++ (',' :: ' ' :: ("Dict".toList ++
    fromText 2 toolName ["errors"] ("MissingRequiredField".toList ++
      fromText 1 first names (name.toList ++ rest)))))

/-- The text of a module with a builder. -/
def moduleText (line line' : List Char) (first : String) (names : List String) (name : String)
    (properties : List Property) : List Char :=
  commented line line' ("from".toList ++ futureText (importsText first names name properties.isEmpty
    (classText name properties ['\n'])))

/-- The statements of a module that end with the import of a class and the class of its builder. -/
def IsBuilder (first : String) (names : List String) (name : String) (f : Fragment) : Prop :=
  ∃ before origin builder, f = before ++ origin ++ builder ∧ Unbroken before ∧
    IsImport first names (IsItem name) origin ∧ IsClass (builderTypeName name) builder

/-- The import of the class is the last that was read. -/
def EndsOnImport (first : String) (names : List String) (name : String) (f : Fragment) : Prop :=
  ∃ before origin, f = before ++ origin ∧ Unbroken before ∧ IsImport first names
  (IsItem name) origin

/-- One more import. -/
theorem import_more {lines : Nat} {items : List Char} (hlead : Gives (k.statement)
      (.flat (fromText lines first names items) [0]) P (.flat rest [0]))
    (hless : rest.length < (fromText lines first names items).length)
    (hB : ∀ sofar f, A sofar → P f → B (sofar ++ f))
    (hrest : GivesOn (moduleStep k) B (.flat rest [0]) Q s') :
    GivesOn (moduleStep k) A (.flat (fromText lines first names items) [0]) Q s' :=
  module_more (.nextIndent (leads_newline (t := .word "from") (.word rfl rfl))) hlead hless hB hrest

theorem fromText_length {lines : Nat} (items : List Char) :
    items.length + 1 < (fromText lines first names items).length := by
  simp only [fromText, List.length_append, List.length_cons]
  omega

theorem imports_on {bare : Bool} (hfirst : isIdentifier first = true)
    (hfuture : first ≠ "__future__")
    (hnames : ∀ v ∈ names, isIdentifier v = true) (hname : isIdentifier name = true)
    (hon : OnLine rest)
    (hrest : GivesOn (moduleStep (.tied (n + 1))) (EndsOnImport first names name)
    (.flat rest [0]) Q s') :
    GivesOn (moduleStep (.tied (n + 1))) Unbroken
      (.flat (importsText first names name bare rest) [0]) Q s' := by
  -- the import of the class is the last one in both kinds of modules
  have horigin : ∀ lines, GivesOn (moduleStep (.tied (n + 1))) Unbroken
      (.flat (fromText lines first names (name.toList ++ rest)) [0]) Q s' := by
    intro lines
    refine import_more (import_line_gives hfirst hfuture hnames hname hon) ?_
      (fun sofar f hsofar hf => ⟨sofar, f, rfl, hsofar, hf⟩) hrest
    refine Nat.lt_of_le_of_lt ?_ (Nat.lt_of_succ_lt (fromText_length _))
    simp
  cases bare with
  | true => exact horigin 2
  | false =>
    have hkeep : ∀ {first names P}, ∀ sofar f, Unbroken sofar → IsImport first names P f →
        Unbroken (sofar ++ f) := fun sofar f hsofar hf => hsofar.append hf.clean.anyHasError
    have herrors : OnLine (fromText 2 toolName ["errors"] ("MissingRequiredField".toList ++
        fromText 1 first names (name.toList ++ rest))) := rfl
    refine import_more (import_pair_gives rfl (by decide) (List.forall_mem_nil _) rfl rfl herrors)
      ?_ hkeep
      (import_more (import_line_gives rfl (by decide) (List.forall_mem_singleton.mpr rfl) rfl rfl)
      ?_ hkeep (horigin 1))
    · refine Nat.lt_of_le_of_lt ?_ (Nat.lt_of_succ_lt (fromText_length _))
      simp only [List.length_append, List.length_cons]
      omega
    · refine Nat.lt_of_le_of_lt ?_ (Nat.lt_of_succ_lt (fromText_length _))
      rw [List.length_append]
      exact Nat.le_add_left ..

theorem module_gives (hline : '\n' ∉ line) (hline' : '\n' ∉ line')
    (hfirst : isIdentifier first = true)
    (hfuture : first ≠ "__future__") (hnames : ∀ v ∈ names, isIdentifier v = true)
    (hname : isIdentifier name = true) (hkeyword : isKeyword name = false)
    (hproperties : ∀ p ∈ properties, isIdentifier p.name = true ∧ isKeyword p.name = false)
    (htypes : ∀ p ∈ properties, IsAnnotation p.type ∧ p.type.length < n + 4) :
    Gives (moduleLines (.tied (n + 6)))
    (.flat (moduleText line line' first names name properties) [0])
      (IsBuilder first names name) (.flat ['\n'] [0]) := by
  have hend : Leaves ['\n'] := by simp [Leaves]
  let imports := importsText first names name properties.isEmpty (classText name properties ['\n'])
  have hon : OnLine imports := by
    unfold imports importsText
    split <;> rfl
  have hsteps : GivesOn (moduleStep (.tied (n + 6))) (· = [])
      (.flat (moduleText line line' first names name properties) [0]) (IsBuilder first names name)
      (.flat ['\n'] [0]) := by
    refine module_more (B := Unbroken)
      (head_indent hline hline' (t := .word "from") (.word rfl rfl) rfl)
      (future_gives hline hline' hon) ?_ (fun sofar f hsofar hf => ?_)
      (imports_on hfirst hfuture hnames hname rfl
        (module_more (.nextIndent (leads_newline (t := .word "class") (.word rfl rfl)))
          (class_gives (n := n) hname hkeyword hproperties htypes) ?_ ?_
          (.stop fun sofar _ => (Gives.nextIndent_none hend).bind fun r hr => ?_)))
    · simp only [Place.flat, moduleText, commented, futureText, List.length_append,
        List.length_cons]
      omega
    · rw [hsofar]
      exact hf
    · simp only [Place.flat, classText, List.length_append, List.length_cons, List.length_nil]
      omega
    · rintro sofar f ⟨before, origin, rfl, hbefore, horigin⟩ hf
      exact ⟨before, origin, f, rfl, hbefore, horigin, hf⟩
    · subst hr
      exact .pure rfl
  refine (Gives.repeating hsteps rfl).bind fun all hall => ?_
  refine .look (Place.ahead_end hend) fun σ hσ => .pure ?_
  rw [hσ.extras, List.append_nil]
  exact hall

end Module

/-! ## 4. The lines -/

/-- Further lines behind a line. -/
def goingOn (lines : List String) : List Char := '\n' :: spread lines

theorem goingOn_cons (line : String) (lines : List String) :
    goingOn (line :: lines) = '\n' :: (line.toList ++ goingOn lines) := by
  simp [goingOn, spread]

namespace Blueprint

variable {lines : List String} {b : Blueprint} {p : Property} {builder : String}
  {properties : List Property}

theorem goingOn_setter : goingOn ("" :: setter builder p ++ lines) =
    setterText p.name p.type builder (goingOn lines) := by
  simp only [setter, goingOn_cons, List.cons_append, List.nil_append, String.toList_append,
    List.append_assoc, setterText, methodText, valueText, storeText, returnText, resultText]
  rfl

theorem goingOn_check : goingOn (check p ++ lines) = checkText p.name (goingOn lines) := by
  simp only [check, goingOn_cons, List.cons_append, List.nil_append, String.toList_append,
    List.append_assoc, checkText, raiseText]
  rfl

theorem goingOn_argument : goingOn (argument p :: lines) = argumentText p.name (goingOn lines) := by
  simp only [argument, goingOn_cons, String.toList_append, List.append_assoc, argumentText]
  rfl

theorem goingOn_constructor :
    goingOn ("" :: constructor ++ lines) = constructorText (goingOn lines) := by
  simp only [constructor, goingOn_cons, List.cons_append, List.nil_append, String.toList_append,
    List.append_assoc, constructorText, methodText, resultText, roomText]
  rfl

theorem goingOn_setters : goingOn (properties.flatMap (fun p => "" :: setter builder p) ++ lines) =
    settersText builder properties (goingOn lines) := by
  induction properties with
  | nil => rfl
  | cons p properties ih =>
    rw [List.flatMap_cons, List.append_assoc, goingOn_setter, ih]
    rfl

theorem goingOn_checks : goingOn (properties.flatMap check ++ lines) =
    checksText (properties.map (·.name)) (goingOn lines) := by
  induction properties with
  | nil => rfl
  | cons p properties ih =>
    rw [List.flatMap_cons, List.append_assoc, goingOn_check, ih]
    rfl

theorem goingOn_arguments : goingOn (properties.map argument ++ lines) =
    argumentsText (properties.map (·.name)) (goingOn lines) := by
  induction properties with
  | nil => rfl
  | cons p properties ih =>
    rw [List.map_cons, List.cons_append, goingOn_argument, ih]
    rfl

theorem goingOn_build : goingOn ("" :: b.build) =
    buildText b.name (b.properties.map (·.name)) (goingOn []) := by
  have hhead : ∀ lines, goingOn ("" :: (step ++ "def build(self) -> " ++ b.name ++ ":") :: lines) =
      methodText "build" [] b.name (goingOn lines) := by
    intro lines
    simp only [goingOn_cons, String.toList_append, List.append_assoc, methodText, resultText]
    rfl
  unfold build buildText
  rw [hhead]
  cases hproperties : b.properties with
  | nil =>
    simp only [List.isEmpty_nil, if_true, goingOn_cons, String.toList_append, List.append_assoc,
      List.map_nil, resultLines, makeText]
    rfl
  | cons p properties =>
    simp only [List.isEmpty_cons, Bool.false_eq_true, if_false]
    rw [goingOn_checks, List.map_cons, List.map_cons, List.cons_append, goingOn_cons,
      goingOn_argument, goingOn_arguments]
    simp only [goingOn_cons, String.toList_append, List.append_assoc, resultLines, passText]
    rfl

theorem goingOn_class : goingOn (["", ""] ++ b.classHead ++
    (if b.properties.isEmpty then [] else "" :: constructor) ++
      b.properties.flatMap (fun p => "" :: setter (builderTypeName b.name) p) ++ "" :: b.build) =
    classText b.name b.properties ['\n'] := by
  have hhead : ∀ lines, goingOn (["", ""] ++ b.classHead ++ lines) =
      newline 3 0 ++ ("class".toList ++ (' ' :: ((builderTypeName b.name).toList ++
        (':' :: docText b.name (goingOn lines))))) := by
    intro lines
    simp only [classHead, List.cons_append, List.nil_append, goingOn_cons, String.toList_append,
      List.append_assoc, docText]
    rfl
  rw [List.append_assoc, List.append_assoc, hhead, classText, methodsText]
  congr 5
  split
  · next hempty =>
    have hnil := List.isEmpty_iff.mp hempty
    rw [hnil, List.flatMap_nil, List.nil_append, List.nil_append, goingOn_build, hnil]
    rfl
  · rw [goingOn_constructor, goingOn_setters, goingOn_build]
    rfl

theorem goingOn_imports {first : String} {names : List String}
    (horigin : b.origin.toList = first.toList ++ membersText names) :
    goingOn ("" :: ((if b.properties.isEmpty then [] else
      ["from typing import Any, Dict", "", "from " ++ toolName ++
      ".errors import MissingRequiredField"]) ++
        ("from " ++ b.origin ++ " import " ++ b.name) :: lines)) =
      importsText first names b.name b.properties.isEmpty (goingOn lines) := by
  cases b.properties.isEmpty with
  | true =>
    simp only [if_true, List.nil_append, goingOn_cons, String.toList_append, horigin,
      List.append_assoc, importsText, fromText]
    rfl
  | false =>
    simp only [Bool.false_eq_true, if_false, List.cons_append, List.nil_append, goingOn_cons,
      String.toList_append, horigin, List.append_assoc, importsText, fromText]
    rfl

/-- The text of a builder. -/
theorem text_moduleText {first : String} {names : List String} (hb : b.Usable)
    (horigin : b.origin.toList = first.toList ++ membersText names) :
    ∃ line line', '\n' ∉ line ∧ '\n' ∉ line' ∧
      b.text.toList = moduleText line line' first names b.name b.properties := by
  have hlacks := lacks_header foreign_lineFeed (hb.lack foreign_lineFeed)
  have hlines : b.lines =
    (generatedHeader ++ " " ++ generatorVersion ++ " from " ++ b.origin ++ "." ++
      b.name ++ ". Do not edit.") :: ("# namespace: " ++ b.package) ::
        "from __future__ import annotations" :: "" :: ((if b.properties.isEmpty then [] else
          ["from typing import Any, Dict", "",
            "from " ++ toolName ++ ".errors import MissingRequiredField"]) ++
          ("from " ++ b.origin ++ " import " ++ b.name) :: (["", ""] ++ b.classHead ++
            (if b.properties.isEmpty then [] else "" :: constructor) ++
              b.properties.flatMap (fun p => "" :: setter (builderTypeName b.name) p) ++
              "" :: b.build)) := by
    simp [lines, header]
  obtain ⟨line, hline⟩ : ∃ line,
    (generatedHeader ++ " " ++ generatorVersion ++ " from " ++ b.origin ++
      "." ++ b.name ++ ". Do not edit.").toList = '#' :: line := by
    simp only [String.toList_append, List.append_assoc]
    exact ⟨_, rfl⟩
  obtain ⟨line', hline'⟩ : ∃ line, ("# namespace: " ++ b.package).toList = '#' :: line := by
    rw [String.toList_append]
    exact ⟨_, rfl⟩
  refine ⟨line, line', fun hmem => ?_, fun hmem => ?_, ?_⟩
  · exact hlacks _ (by simp [header]) (hline ▸ List.mem_cons_of_mem _ hmem)
  · exact hlacks _ (by simp [header]) (hline' ▸ List.mem_cons_of_mem _ hmem)
  · have hspread : ∀ line line' lines,
      spread (line :: line' :: "from __future__ import annotations" :: lines) =
        line.toList ++ '\n' :: (line'.toList ++ '\n' ::
          ("from".toList ++ futureText (goingOn lines))) := by
      intro line line' lines
      simp only [spread, goingOn, List.flatMap_cons, List.append_assoc, List.singleton_append,
        futureText]
      rfl
    rw [text_toList, hlines, hspread, hline, hline', goingOn_imports horigin, goingOn_class]
    rfl

end Blueprint

/-! ## 5. The text of a builder -/

theorem intersperse_names (first : String) (names : List String) :
    (first :: names).intersperse "." = first :: names.flatMap fun v => [".", v] := by
  induction names generalizing first with
  | nil => rfl
  | cons v names ih =>
    rw [List.intersperse_cons_cons, ih]
    rfl

theorem length_spread {line : String} {lines : List String} (h : line ∈ lines) :
    line.length < (spread lines).length := by
  have hsub : (line.toList ++ ['\n']).Sublist (spread lines) :=
    List.sublist_flatten_of_mem (List.mem_map_of_mem (f := fun line => line.toList ++ ['\n']) h)
  have hlength := hsub.length_le
  rw [List.length_append, String.length_toList] at hlength
  exact hlength

namespace Blueprint

variable {b : Blueprint} {first : String} {names : List String}

/-- The parts of the module that the class is imported from, as they stand in the text. -/
theorem origin_toList (hparts : dottedParts b.origin = first :: names) :
    b.origin.toList = first.toList ++ membersText names := by
  rw [← joinDotted_dottedParts b.origin, hparts, SymbolTable.joinDotted_toList, intersperse_names,
    List.flatMap_cons, membersText, List.flatMap_assoc]
  exact congrArg _ (List.flatMap_congr fun v _ => by simp)

/-- A type is shorter than the text that it stands in. -/
theorem type_length {p : Property} (hp : p ∈ b.properties) : p.type.length < b.text.length := by
  have hmem : step ++ "def " ++ p.name ++ "(self, value: " ++ p.type ++ ") -> " ++
      builderTypeName b.name ++ ":" ∈ b.lines := by
    rw [lines_eq]
    refine List.mem_append_right _ (List.mem_append_left _ (List.mem_flatMap.mpr ⟨p, hp, ?_⟩))
    simp [setter]
  have hlength := length_spread hmem
  rw [← text_toList, String.length_toList] at hlength
  simp only [String.length_append] at hlength
  omega

/-- The text of a usable blueprint is read as the module of a builder, if its types are read as
annotations. -/
theorem text_read (hb : b.Usable) (hparts : dottedParts b.origin = first :: names)
    (hfuture : first ≠ "__future__") (hkeyword : isKeyword b.name = false)
    (hproperties : ∀ p ∈ b.properties, isKeyword p.name = false)
    (htypes : ∀ p ∈ b.properties, IsAnnotation p.type) :
    ∃ f, parseModule (glyphs (encode b.text)) = .tree .module .none f ∧
      IsBuilder first names b.name f := by
  have hnames : ∀ v ∈ first :: names, isIdentifier v = true := fun v hv =>
    List.all_eq_true.mp hb.module v (by rwa [hparts])
  obtain ⟨line, line', hline, hline', htext⟩ := text_moduleText hb (origin_toList hparts)
  have hchars : chars (glyphs (encode b.text)) = b.text.toList := glyphs_encode b.text
  have hcount : (glyphs (encode b.text)).length = b.text.length := by
    rw [← length_chars, hchars, String.length_toList]
  obtain ⟨n, hn⟩ : ∃ n, b.text.length = n + 4 := by
    have hlong : 4 ≤ b.text.length := by
      rw [← String.length_toList, htext, moduleText, commented]
      simp only [List.length_append, List.length_cons]
      omega
    exact ⟨b.text.length - 4, by omega⟩
  have hgives := module_gives (n := n) hline hline' (hnames first List.mem_cons_self) hfuture
    (fun v hv => hnames v (List.mem_cons_of_mem _ hv)) hb.name hkeyword
    (fun p hp => ⟨(hb.properties p hp).1, hproperties p hp⟩)
    fun p hp => ⟨htypes p hp, hn ▸ type_length hp⟩
  have hplain : ∀ gs : List Glyph, (Cursor.start gs).Plain := fun gs =>
    ⟨rfl, Nat.lt_add_of_pos_right (Nat.zero_lt_succ 1)⟩
  have hplace : ∀ gs : List Glyph, (Cursor.start gs).place = .flat (chars gs) [0] := fun _ => rfl
  obtain ⟨f, c, hread, -, -, hf⟩ := hgives (Cursor.start (glyphs (encode b.text))) (hplain _) (by
    rw [hplace, hchars, htext])
  refine ⟨f, ?_, hf⟩
  have hbudget : (Cursor.start (glyphs (encode b.text))).budget = n + 6 := by
    show (glyphs (encode b.text)).length + 2 = n + 6
    rw [hcount, hn]
  unfold parseModule
  dsimp only
  rw [hbudget, hread]

end Blueprint

end FluentBuilders
