import FluentBuilders.Profile
import FluentBuilders.Proofs.Naming
import FluentBuilders.Proofs.Registry
import FluentBuilders.Proofs.Scan
import FluentBuilders.Proofs.Text.Blank

/-!
Builders line by line, as texts and as modules.

1. Lines behind which no class opens.
2. The lines of a builder from its first setter on.
3. `generated_lines`: no annotation breaks a line of its builder.
4. `joined_unreadable`: inside its line an annotation can still break the builder.
5. `Registry.Sound.unmarked`: what is decorated in a builder's module is invalid, as the sign of a
   decorator can stand in nothing but the type of a property, and no class opens behind that line.
-/

namespace FluentBuilders

open Text Grammar

/-! ## 1. Lines without classes -/

section Lines

variable {cs rest : List Char} {lines : List String}

/-- Whether characters start, behind spaces, with one that no gap passes over and that the word for a
class does not start with. -/
def startsPlainly : List Char → Bool
  | [] => false
  | c :: rest =>
    if c = ' ' then startsPlainly rest
    else c != 'c' && c != '#' && c != '\\' && !isGapBlank c

theorem startsPlainly_append (h : startsPlainly cs = true) (rest : List Char) :
    startsPlainly (cs ++ rest) = true := by
  induction cs with
  | nil => cases h
  | cons c cs ih =>
    rw [startsPlainly] at h
    rw [List.cons_append, startsPlainly]
    split at h
    · next hc =>
      rw [if_pos hc]
      exact ih h
    · next hc =>
      rw [if_neg hc]
      exact h

/-- The word for a class starts with its first letter. -/
theorem startsClass_of_ne {c : Char} (hc : c ≠ 'c') (rest : List Char) :
    startsClass (c :: rest) = false := by
  unfold startsClass
  rw [List.takeWhile_cons]
  split
  · simp [hc]
  · rfl

theorem opensClass_of_startsPlainly (h : startsPlainly cs = true) : opensClass cs = false := by
  induction cs with
  | nil => cases h
  | cons c cs ih =>
    rw [startsPlainly] at h
    rw [opensClass]
    split at h
    · next hc =>
      rw [if_pos (by rw [hc]; rfl)]
      exact ih h
    · next hc =>
      simp only [Bool.and_eq_true, bne_iff_ne, Bool.not_eq_true'] at h
      obtain ⟨⟨⟨hclass, hcomment⟩, hjoined⟩, hblank⟩ := h
      rw [if_neg (by simp [hblank]), startsClass_of_ne hclass]
      simp [hcomment, hjoined]

/-- A name that is given a value opens no class, whatever the name is. -/
theorem opensClass_assigned (h : ∀ c ∈ cs, isNameChar c = true) :
    opensClass (cs ++ '=' :: rest) = false := by
  have hcomment : isNameChar '#' = false := by decide
  have hjoined : isNameChar '\\' = false := by decide
  have hequals : ¬ isNameChar '=' = true := by decide
  induction cs with
  | nil =>
    rw [List.nil_append, opensClass, if_neg (by decide), startsClass_of_ne (by decide)]
    rfl
  | cons c cs ih =>
    rw [List.cons_append, opensClass]
    split
    · exact ih fun c hc => h c (List.mem_cons_of_mem _ hc)
    · have hvalue : startsClass (c :: (cs ++ '=' :: rest)) = false := by
        unfold startsClass
        rw [← List.cons_append, List.dropWhile_append_of_pos h, List.dropWhile_cons_of_neg hequals]
        simp
      have hc := h c List.mem_cons_self
      have hne : c ≠ '#' ∧ c ≠ '\\' := by
        constructor <;> rintro rfl <;> simp_all
      rw [hvalue]
      simp [hne]

/-- Whatever follows the line, no class opens with it. -/
structure Quiet (line : String) : Prop where
  whole : Lacks '\n' line
  opens : line = "" ∨ ∀ rest, opensClass (line.toList ++ rest) = false

theorem Quiet.of_startsPlainly {line : String} (hwhole : Lacks '\n' line)
    (h : startsPlainly line.toList = true) : Quiet line :=
  ⟨hwhole, .inr fun rest => opensClass_of_startsPlainly (startsPlainly_append h rest)⟩

theorem opensClass_spread (h : ∀ line ∈ lines, Quiet line) : opensClass (spread lines) = false := by
  induction lines with
  | nil => rfl
  | cons line lines ih =>
    rw [List.forall_mem_cons] at h
    unfold spread
    rw [List.flatMap_cons, List.append_assoc]
    rcases h.1.opens with rfl | hopens
    · exact ih h.2
    · exact hopens _

/-- The end of two texts is an end of the second, or the second behind an end of the first. -/
theorem suffix_append_cases {α : Type} {l l₁ l₂ : List α} (h : l <:+ l₁ ++ l₂) :
    l <:+ l₂ ∨ ∃ a l', a :: l' <:+ l₁ ∧ l = a :: l' ++ l₂ := by
  obtain ⟨before, h⟩ := h
  rcases List.append_eq_append_iff.mp h with ⟨l', rfl, rfl⟩ | ⟨l', rfl, hl⟩
  · cases l' with
    | nil => exact .inl List.suffix_rfl
    | cons a l' => exact .inr ⟨a, l', List.suffix_append .., rfl⟩
  · exact .inl ⟨l', hl.symm⟩

/-- At the end of a line the lines behind it follow. -/
theorem suffix_spread (hlines : ∀ line ∈ lines, Lacks '\n' line) (h : cs <:+ spread lines)
    (hhead : cs.head? = some '\n') : ∃ rest, rest <:+ lines ∧ cs = '\n' :: spread rest := by
  induction lines with
  | nil =>
    rw [List.suffix_nil.mp h] at hhead
    cases hhead
  | cons line lines ih =>
    rw [List.forall_mem_cons] at hlines
    unfold spread at h
    rw [List.flatMap_cons, List.append_assoc] at h
    rcases suffix_append_cases h with h | ⟨c, cs', hend, rfl⟩
    · rcases List.suffix_cons_iff.mp h with rfl | h
      · exact ⟨lines, List.suffix_cons .., rfl⟩
      · obtain ⟨rest, hrest, rfl⟩ := ih hlines.2 h
        exact ⟨rest, hrest.trans (List.suffix_cons ..), rfl⟩
    · obtain rfl : c = '\n' := by simpa using hhead
      exact absurd (hend.subset List.mem_cons_self) hlines.1

/-- A text signs no class, where only lines that open none are behind the first sign. -/
theorem not_signsClass {gs : List Glyph} {front : List Char} (h : chars gs = front ++ spread lines)
    (hfront : '@' ∉ front) (hlines : ∀ line ∈ lines, Quiet line) : ¬ SignsClass gs := by
  rintro ⟨sign, line, hsign, hline, hat, hhead, hopens⟩
  have hbehind : chars sign <:+ spread lines := by
    have hends : chars sign <:+ front ++ spread lines := by
      rw [← h]
      exact hsign.map _
    rcases suffix_append_cases hends with hbehind | ⟨c, cs, hend, hcs⟩
    · exact hbehind
    · rw [hcs] at hat
      obtain rfl : c = '@' := by simpa using hat
      exact absurd (hend.subset List.mem_cons_self) hfront
  obtain ⟨rest, hrest, hspread⟩ := suffix_spread (fun line hline => (hlines line hline).whole)
    ((hline.map _).trans hbehind) hhead
  rw [show chars line = _ from hspread] at hopens
  have hnone := opensClass_spread fun line hline => hlines line (hrest.subset hline)
  rw [opensClass, if_pos (by rfl), hnone] at hopens
  cases hopens

end Lines

/-! ## 2. The lines of a builder -/

namespace Blueprint

variable {b : Blueprint}

/-- An identifier that is given a value opens no class. -/
theorem opensClass_identifier {s : String} (h : isIdentifier s = true) (rest : List Char) :
    opensClass (s.toList ++ '=' :: rest) = false :=
  opensClass_assigned (isNameChar_of_isIdentifier h)

/-- A line that passes on a property opens no class. -/
theorem quiet_argument {p : Property} (hname : isIdentifier p.name = true)
    (hwhole : Lacks '\n' (argument p)) : Quiet (argument p) := by
  refine ⟨hwhole, .inr fun rest => ?_⟩
  obtain ⟨tail, htail⟩ : ∃ tail, (argument p).toList ++ rest =
      (step ++ step ++ step).toList ++ (p.name.toList ++ '=' :: tail) := by
    refine ⟨("self." ++ valueStore ++ "[\"" ++ p.name ++ "\"],").toList ++ rest, ?_⟩
    unfold argument
    simp
  rw [htail]
  exact opensClass_identifier hname tail

/-- A line of the text from the first setter on: it is empty, passes on a property, or starts
plainly. -/
theorem methods_cases (b : Blueprint) : ∀ line ∈ b.methods, line = "" ∨
    (∃ p ∈ b.properties, line = argument p) ∨ startsPlainly line.toList = true := by
  have hplain : ∀ {line : String}, startsPlainly line.toList = true → line = "" ∨
      (∃ p ∈ b.properties, line = argument p) ∨ startsPlainly line.toList = true :=
    fun h => .inr (.inr h)
  unfold methods build
  simp only [List.forall_mem_append, List.forall_mem_cons, List.forall_mem_flatMap]
  refine ⟨fun p _ => ⟨.inl trivial, ?_⟩, .inl trivial, hplain ?_, ?_⟩
  · intro line hline
    refine hplain ?_
    simp only [setter, List.mem_cons, List.not_mem_nil, or_false] at hline
    rcases hline with rfl | rfl | rfl <;> simp [step, startsPlainly, isGapBlank]
  · simp [step, startsPlainly, isGapBlank]
  · split
    · refine List.forall_mem_singleton.mpr (hplain ?_)
      simp [step, startsPlainly, isGapBlank]
    · simp only [List.forall_mem_append, List.forall_mem_cons, List.forall_mem_flatMap,
        List.forall_mem_map]
      refine ⟨fun p _ line hline => hplain ?_, hplain ?_, fun p hp => .inr (.inl ⟨p, hp, rfl⟩),
        hplain ?_, by simp⟩
      · simp only [check, List.mem_cons, List.not_mem_nil, or_false] at hline
        rcases hline with rfl | rfl <;> simp [step, startsPlainly, isGapBlank]
      · simp [step, startsPlainly, isGapBlank]
      · simp [step, startsPlainly, isGapBlank]

/-- No line from the first setter on opens a class. -/
theorem quiet_methods (h : b.Usable) (htypes : ∀ p ∈ b.properties, Lacks '\n' p.type) :
    ∀ line ∈ b.methods, Quiet line := by
  have hwhole := lacks_methods foreign_lineFeed (h.lack foreign_lineFeed) htypes
  intro line hline
  rcases b.methods_cases line hline with rfl | ⟨p, hp, rfl⟩ | hplain
  · exact ⟨List.not_mem_nil, .inl rfl⟩
  · exact quiet_argument (h.properties p hp).1 (hwhole _ hline)
  · exact .of_startsPlainly (hwhole line hline) hplain

/-- The text of a usable blueprint whose types are on one line signs no class. -/
theorem text_not_signsClass (h : b.Usable) (htypes : ∀ p ∈ b.properties, Lacks '\n' p.type) :
    ¬ SignsClass (glyphs (encode b.text)) := by
  have hchars : chars (glyphs (encode b.text)) = spread b.opening ++ spread b.methods := by
    unfold chars
    rw [glyphs_encode, text_toList, lines_eq]
    exact List.flatMap_append ..
  refine not_signsClass hchars (fun hat => ?_) (quiet_methods h htypes)
  obtain ⟨line, hline, hat⟩ := List.mem_flatMap.mp hat
  rcases List.mem_append.mp hat with hat | hat
  · exact lacks_opening foreign_at (h.lack foreign_at) line hline hat
  · exact absurd (List.mem_singleton.mp hat) (by decide)

end Blueprint

/-! ## 3. Lines and types -/

/-- A text falls into its lines, if there is no line feed inside of them; nothing follows the last. -/
theorem splitChars_spread {lines : List String} (h : ∀ line ∈ lines, Lacks '\n' line) :
    splitChars '\n' (spread lines) = lines.map (·.toList) ++ [[]] := by
  induction lines with
  | nil => rfl
  | cons line lines ih =>
    rw [List.forall_mem_cons] at h
    unfold spread
    rw [List.flatMap_cons, List.append_assoc, List.singleton_append, splitChars_append,
      splitChars_of_not_mem h.1]
    exact congrArg (_ :: ·) (ih h.2)

/-- The lines of a text whose types are each on one line, with nothing after the last line feed. -/
theorem Blueprint.splitChars_text {b : Blueprint} (h : b.Usable)
    (htypes : ∀ p ∈ b.properties, Lacks '\n' p.type) :
    splitChars '\n' b.text.toList = b.lines.map (·.toList) ++ [[]] := by
  have hlack := h.lack foreign_lineFeed
  rw [text_toList, splitChars_spread]
  rw [lines_eq]
  exact List.forall_mem_append.mpr
    ⟨lacks_opening foreign_lineFeed hlack, lacks_methods foreign_lineFeed hlack htypes⟩

/-- The types of a builder's properties have no blank but spaces. -/
theorem Registry.Sound.type_lacks {g : Registry} (hg : g.Sound) {d : Declaration}
    {properties : List Property} (h : d.exposed g.resolver = .ok properties) {c : Char}
    (hspace : c ≠ ' ') (hblank : isBlank c = true) : ∀ p ∈ properties, Lacks c p.type := by
  intro p hp hmem
  obtain ⟨s, hs⟩ := hg.properties (exposed_spec h) p hp
  rw [hs] at hmem
  rcases mem_collapse hmem with hc | hc
  · exact hspace hc
  · rw [hblank] at hc
    cases hc

/-- A generated text falls into the lines of its blueprint, whatever its annotations are. -/
theorem Registry.Sound.generated_lines {g : Registry} (hg : g.Sound) {d : Declaration} {a : Artifact}
    (h : generate g.resolver d = .ok a) :
    ∃ properties, d.exposed g.resolver = .ok properties ∧
      splitChars '\n' a.text.toList =
        (d.blueprint properties).lines.map (·.toList) ++ [[]] := by
  obtain ⟨properties, hexposed, hfault, htext⟩ := generate_blueprint h
  refine ⟨properties, hexposed, ?_⟩
  rw [htext]
  exact Blueprint.splitChars_text (Blueprint.usable hfault)
    (hg.type_lacks hexposed (by decide) (by decide))

/-! ## 4. A type that breaks its line -/

/-- A class with an annotation that goes on in a second line. -/
def joined : Registry :=
  let source := "from builder_gen.marker import builder\n@builder\nclass A:\n x: A | \\\n  A\n"
  ⟨⟨[("a", .ofParsed (.ofText source "a.py") "a" false)]⟩, .empty⟩

set_option maxRecDepth 100000 in
/-- The mark that joins the lines of an annotation stays in the type, and no line ends behind it: the
module keeps to the grammar, and its builder does not. -/
theorem joined_unreadable : joined.Loaded ∧ (∀ t ∈ joined.modules.values, t.sound = true) ∧
    ∃ d ∈ (joined.report Profile.standard.marker).1, ∃ a, generate joined.resolver d = .ok a ∧
      ∀ path, (Parsed.ofText a.text path).isSound = false := by
  have hsound : ∀ t ∈ joined.modules.values, t.sound = true := by decide +kernel
  have hmarked : ∃ d ∈ (joined.report Profile.standard.marker).1,
      (d.name, d.package, d.module) = ("A", "", "a") ∧
        (d.exposed joined.resolver).toOption = some [⟨"x", "A | \\ A"⟩] := by decide +kernel
  have hfaults : (parseModule (glyphs (encode
      (⟨"A", "", [⟨"x", "A | \\ A"⟩], some "a"⟩ : Blueprint).text))).faults.isEmpty = false := by
    unfold encode
    rw [Blueprint.text_toList]
    decide +kernel
  obtain ⟨d, hd, hnames, hexposed⟩ := hmarked
  simp only [Prod.mk.injEq] at hnames
  obtain ⟨hname, hpackage, hmodule⟩ := hnames
  have hblueprint : ∀ properties, d.blueprint properties = ⟨"A", "", properties, some "a"⟩ := by
    intro properties
    unfold Declaration.blueprint
    rw [hname, hpackage, hmodule]
  have hexposed : d.exposed joined.resolver = .ok [⟨"x", "A | \\ A"⟩] := by
    cases hresult : d.exposed joined.resolver with
    | error e =>
      rw [hresult] at hexposed
      cases hexposed
    | ok properties =>
      rw [hresult] at hexposed
      exact congrArg Except.ok (Option.some.inj hexposed)
  obtain ⟨a, ha⟩ := generate_ok hexposed (by rw [hblueprint]; decide +kernel) rfl
  refine ⟨Registry.Loaded.empty.add_ok List.not_mem_nil _ _ _, hsound, d, hd, a, ha, fun path => ?_⟩
  obtain ⟨properties, hproperties, -, htext⟩ := generate_blueprint ha
  rw [hexposed] at hproperties
  cases hproperties
  unfold Parsed.isSound Parsed.faults Parsed.ofText Parsed.ofBytes
  dsimp only
  rw [htext, hblueprint]
  exact hfaults

/-! ## 5. Decorators -/

namespace Registry

/-- What is decorated in the module of a builder never gets a builder itself. -/
theorem Sound.unmarked {g : Registry} (hg : g.Sound) {d : Declaration} {a : Artifact}
    (h : generate g.resolver d = .ok a) (path module : String) (isPackage : Bool) :
    ∀ info ∈ (SymbolTable.ofParsed (.ofBytes (encode a.text) path) module isPackage).decorated,
      invalidReasons info ≠ [] := by
  obtain ⟨properties, hexposed, hfault, htext⟩ := generate_blueprint h
  have hsigns := Blueprint.text_not_signsClass (Blueprint.usable hfault)
    (hg.type_lacks hexposed (by decide) (by decide))
  rw [← htext] at hsigns
  obtain ⟨-, -, -, -, -, hsettled, -⟩ :=
    SymbolTable.ofParsed_grows (encode a.text) path module isPackage
  intro info hinfo hreasons
  unfold invalidReasons at hreasons
  split at hreasons
  · cases hreasons
  next hkind =>
  split at hreasons
  · cases hreasons
  split at hreasons
  · cases hreasons
  next herror =>
  exact hsigns ((hsettled info hinfo).signs (by simpa using hkind) (by simpa using herror))

end Registry

end FluentBuilders
