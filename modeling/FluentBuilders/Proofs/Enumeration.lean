import Mathlib.Data.List.Induction
import Mathlib.Data.List.Nodup
import FluentBuilders.Proofs.BuilderText.Decoding
import FluentBuilders.Proofs.Text.Normalization

/-!
Which lists of properties a builder can expose.

1. `Property.key`: the name of a property as the language compares it. `Exposable`: lists of properties
   whose names a builder can have methods of.
2. `Refusal`: why a property cannot stand behind others.
3. `enumerate_eq_ok`, `enumerate_eq_error`: a list is taken as it is where it is exposable; otherwise the
   first property is told that cannot stand where it does.
4. `Blueprint.methodNames`: the methods of a builder, which `methodsOf` finds in the lines of its text.
5. `exposed_exactly`: no method of a builder has the name of another one or of the store of its values.
-/

namespace FluentBuilders

open Text

/-! ## 1. Names that a builder can expose -/

/-- The name of a property as the language compares it. -/
def Property.key (p : Property) : String := normalize p.name

/-- A word that the language takes for a name. -/
def IsWord (s : String) : Prop := isIdentifier s = true ∧ isKeyword s = false

instance (s : String) : Decidable (IsWord s) := inferInstanceAs (Decidable (_ ∧ _))

/-- A builder can have a method for each of the properties. -/
structure Exposable (l : List Property) : Prop where
  words : ∀ p ∈ l, IsWord p.key
  free : ∀ p ∈ l, ¬ IsTaken p.key
  distinct : (l.map Property.key).Nodup

/-! ## 2. Refusals -/

/-- What is told of a property that cannot stand behind others, of which `seen` are the names as the
language compares them. The name is told as it was written. -/
inductive Refusal (owner : String) (seen : List String) (p : Property) : GenerationError → Prop
  /-- The name is no word. -/
  | malformed (h : ¬ IsWord p.key) :
    Refusal owner seen p
      (.invalid owner ("property name " ++ quoted p.name ++ " is not an identifier"))
  /-- The name is a word that is taken. -/
  | taken (hword : IsWord p.key) (h : IsTaken p.key) : Refusal owner seen p (.reserved owner p.name)
  /-- The name is a word that is free, and another property has it. -/
  | repeated (hword : IsWord p.key) (hfree : ¬ IsTaken p.key) (h : p.key ∈ seen) :
    Refusal owner seen p (.duplicate owner p.name)

section Enumeration

variable {owner : String} {seen seen' : List String} {p : Property} {l l' : List Property}
  {e : GenerationError}

theorem Refusal.congr (h : Refusal owner seen p e) (hseen : ∀ s ∈ seen, s ∈ seen') :
    Refusal owner seen' p e := by
  cases h with
  | malformed h => exact .malformed h
  | taken hword h => exact .taken hword h
  | repeated hword hfree h => exact .repeated hword hfree (hseen _ h)

/-- The checks of one property, in their order. -/
theorem propertyError?_eq (owner : String) (seen : List String) (p : Property) :
    propertyError? owner seen p =
      if ¬ IsWord p.key then
        some (.invalid owner ("property name " ++ quoted p.name ++ " is not an identifier"))
      else if isReserved p.key = true then some (.reserved owner p.name)
      else if p.key ∈ seen then some (.duplicate owner p.name)
      else none := by
  have hword : (!isIdentifier p.key || isKeyword p.key) = true ↔ ¬ IsWord p.key := by
    unfold IsWord
    cases isIdentifier p.key <;> cases isKeyword p.key <;> decide
  simp only [← hword, ← List.contains_iff_mem]
  rfl

theorem propertyError?_eq_none :
    propertyError? owner seen p = none ↔ IsWord p.key ∧ ¬ IsTaken p.key ∧ p.key ∉ seen := by
  rw [propertyError?_eq, ← isReserved_iff]
  split
  · next hword => simp [hword]
  split
  · next htaken => simp [htaken]
  split
  · next hseen => simp [hseen]
  · next hword htaken hseen => simp [not_not.mp hword, htaken, hseen]

theorem propertyError?_eq_some :
    propertyError? owner seen p = some e ↔ Refusal owner seen p e := by
  rw [propertyError?_eq]
  constructor
  · intro h
    split at h
    · next hword =>
      cases h
      exact .malformed hword
    next hword =>
    split at h
    · next htaken =>
      cases h
      exact .taken (not_not.mp hword) (isReserved_iff.mp htaken)
    next htaken =>
    split at h
    · next hseen =>
      cases h
      exact .repeated (not_not.mp hword) (mt isReserved_iff.mpr htaken) hseen
    · cases h
  · rintro (hword | ⟨hword, htaken⟩ | ⟨hword, hfree, hseen⟩)
    · rw [if_pos hword]
    · rw [if_neg (not_not.mpr hword), if_pos (isReserved_iff.mpr htaken)]
    · rw [if_neg (not_not.mpr hword), if_neg (mt isReserved_iff.mp hfree), if_pos hseen]

/-! ## 3. Lists of properties -/

theorem exposable_nil : Exposable [] := ⟨by simp, by simp, .nil⟩

theorem exposable_append_singleton : Exposable (l ++ [p]) ↔
    Exposable l ∧ IsWord p.key ∧ ¬ IsTaken p.key ∧ p.key ∉ l.map Property.key := by
  constructor
  · rintro ⟨hwords, hfree, hdistinct⟩
    have hp : p ∈ l ++ [p] := List.mem_append_right _ (List.mem_singleton_self p)
    rw [List.map_append, List.map_singleton, List.nodup_append_comm, List.singleton_append,
      List.nodup_cons] at hdistinct
    exact ⟨⟨fun q hq => hwords q (List.mem_append_left _ hq),
      fun q hq => hfree q (List.mem_append_left _ hq), hdistinct.2⟩, hwords p hp, hfree p hp,
      hdistinct.1⟩
  · rintro ⟨⟨hwords, hfree, hdistinct⟩, hword, htaken, hnew⟩
    refine ⟨?_, ?_, ?_⟩
    · simpa [or_imp, forall_and] using ⟨hwords, hword⟩
    · simpa [or_imp, forall_and] using ⟨hfree, htaken⟩
    · rw [List.map_append, List.map_singleton, List.nodup_append_comm, List.singleton_append]
      exact List.nodup_cons.mpr ⟨hnew, hdistinct⟩

theorem firstError?_append (owner : String) (seen : List String) (l l' : List Property) :
    firstError? owner seen (l ++ l') =
      (firstError? owner seen l).or
        (firstError? owner ((l.map Property.key).reverse ++ seen) l') := by
  induction l generalizing seen with
  | nil => rfl
  | cons p rest ih =>
    rw [List.cons_append, firstError?, firstError?]
    cases propertyError? owner seen p with
    | some e => rfl
    | none =>
      change firstError? owner (p.key :: seen) (rest ++ l') = _
      rw [ih, List.map_cons, List.reverse_cons, List.append_assoc]
      rfl

/-- The list is taken property by property: what was taken is exposable, or some property of it was
refused behind those before it. -/
theorem firstError?_cases (owner : String) (l : List Property) :
    (firstError? owner [] l = none ∧ Exposable l) ∨
      ∃ before p after e, l = before ++ p :: after ∧ Exposable before ∧
        firstError? owner [] l = some e ∧ Refusal owner (before.map Property.key) p e := by
  induction l using List.reverseRecOn with
  | nil => exact .inl ⟨rfl, exposable_nil⟩
  | append_singleton l p ih =>
    rw [firstError?_append]
    rcases ih with ⟨hnone, hl⟩ | ⟨before, q, after, e, rfl, hbefore, hsome, hrefusal⟩
    · rw [hnone, Option.none_or, firstError?]
      cases herror : propertyError? owner ((l.map Property.key).reverse ++ []) p with
      | none =>
        obtain ⟨hword, hfree, hnew⟩ := propertyError?_eq_none.mp herror
        refine .inl ⟨rfl, exposable_append_singleton.mpr ⟨hl, hword, hfree, ?_⟩⟩
        simpa using hnew
      | some e =>
        refine .inr ⟨l, p, [], e, rfl, hl, rfl, ?_⟩
        exact (propertyError?_eq_some.mp herror).congr fun s hs => by simpa using hs
    · exact .inr ⟨before, q, after ++ [p], e, by simp, hbefore, by rw [hsome, Option.some_or],
        hrefusal⟩

/-- A property that is refused behind others is the only one of which this can be said. -/
theorem Refusal.not_exposable {before after : List Property}
    (h : Refusal owner (before.map Property.key) p e) : ¬ Exposable (before ++ p :: after) := by
  rintro ⟨hwords, hfree, hdistinct⟩
  have hp : p ∈ before ++ p :: after := List.mem_append_right _ List.mem_cons_self
  cases h with
  | malformed hword => exact hword (hwords p hp)
  | taken _ htaken => exact hfree p hp htaken
  | repeated _ _ hseen =>
    rw [List.map_append, List.map_cons] at hdistinct
    exact List.disjoint_of_nodup_append hdistinct hseen List.mem_cons_self

theorem Refusal.unique {e' : GenerationError} (h : Refusal owner seen p e)
    (h' : Refusal owner seen p e') : e = e' :=
  Option.some.inj ((propertyError?_eq_some.mpr h).symm.trans (propertyError?_eq_some.mpr h'))

/-- A list is taken as it is, where it is exposable. -/
theorem enumerate_eq_ok : enumerate owner l = .ok l' ↔ l' = l ∧ Exposable l := by
  unfold enumerate
  rcases firstError?_cases owner l with ⟨hnone, hl⟩ | ⟨before, p, after, e, rfl, -, hsome, hrefusal⟩
  · rw [hnone]
    exact ⟨fun h => ⟨(Except.ok.inj h).symm, hl⟩, fun h => congrArg _ h.1.symm⟩
  · rw [hsome]
    constructor
    · intro h
      cases h
    · exact fun h => absurd h.2 hrefusal.not_exposable

/-- What is told of a list is what is told of the first property that is refused behind those before it. -/
theorem enumerate_eq_error : enumerate owner l = .error e ↔
    ∃ before p after, l = before ++ p :: after ∧ Exposable before ∧
      Refusal owner (before.map Property.key) p e := by
  unfold enumerate
  rcases firstError?_cases owner l with ⟨hnone, hl⟩ | ⟨before, p, after, e', rfl, hbefore, hsome, hrefusal⟩
  · rw [hnone]
    constructor
    · intro h
      cases h
    · rintro ⟨before, p, after, rfl, -, hrefusal⟩
      exact absurd hl hrefusal.not_exposable
  · rw [hsome]
    constructor
    · intro h
      cases h
      exact ⟨before, p, after, rfl, hbefore, hrefusal⟩
    · rintro ⟨before', p', after', heq, hbefore', hrefusal'⟩
      rcases List.append_eq_append_iff.mp heq with ⟨more, rfl, hmore⟩ | ⟨more, rfl, hmore⟩
      · cases more with
        | nil =>
          cases hmore
          rw [List.append_nil] at hrefusal'
          rw [hrefusal.unique hrefusal']
        | cons q more =>
          cases hmore
          exact absurd hbefore' hrefusal.not_exposable
      · cases more with
        | nil =>
          cases hmore
          rw [List.append_nil] at hrefusal
          rw [hrefusal.unique hrefusal']
        | cons q more =>
          cases hmore
          exact absurd hbefore hrefusal'.not_exposable

end Enumeration

/-! ## 4. The methods of a builder -/

/-- The method that a line of a builder starts. -/
def method? (line : List Char) : Option String := (named? "    def " '(' line).map (·.1)

/-- The methods that the lines of a text start. -/
def methodsOf (text : String) : List String := (splitChars '\n' text.toList).filterMap method?

namespace Blueprint

/-- The methods of a builder: the constructor, if there is anything to keep, the setters, and the one
that makes the object. -/
def methodNames (b : Blueprint) : List String :=
  (if b.properties.isEmpty then [] else ["__init__"]) ++ b.properties.map (·.name) ++ ["build"]

section Methods

variable {b : Blueprint} {p : Property}

theorem method?_none {line : String} (h : line.toList.dropPrefix? "    def ".toList = none) :
    method? line.toList = none := by
  rw [method?, named?_none h, Option.map_none]

theorem method?_some {line : String} (name : String) (rest : List Char) (hname : '(' ∉ name.toList)
    (hline : line.toList = "    def ".toList ++ (name.toList ++ '(' :: rest)) :
    method? line.toList = some name := by
  rw [method?, named?_line hname hline, Option.map_some]

/-- The methods that lines start. -/
def methodsIn (lines : List String) : List String := lines.filterMap fun line => method? line.toList

theorem methodsIn_append (lines lines' : List String) :
    methodsIn (lines ++ lines') = methodsIn lines ++ methodsIn lines' :=
  List.filterMap_append

theorem methodsIn_blank (rest : List String) : methodsIn ("" :: rest) = methodsIn rest :=
  List.filterMap_cons_none rfl

theorem methodsIn_cons_some {line name : String} (h : method? line.toList = some name)
    (rest : List String) : methodsIn (line :: rest) = name :: methodsIn rest :=
  List.filterMap_cons_some h

theorem methodsIn_none {lines : List String}
    (h : ∀ line ∈ lines, line.toList.dropPrefix? "    def ".toList = none) : methodsIn lines = [] :=
  List.filterMap_eq_nil_iff.mpr fun line hline => method?_none (h line hline)

theorem methodsIn_header (b : Blueprint) : methodsIn b.header = [] := by
  refine methodsIn_none ?_
  unfold header
  split <;> simp [generatedHeader, List.dropPrefix?]

theorem methodsIn_constructor : methodsIn ("" :: constructor) = ["__init__"] := by
  have hmethod : method? (step ++ "def __init__(self) -> None:").toList = some "__init__" :=
    method?_some "__init__" "self) -> None:".toList (by simp) (by simp [step])
  rw [constructor, methodsIn_blank, methodsIn_cons_some hmethod, methodsIn_none (by simp [step, List.dropPrefix?])]

theorem methodsIn_setter (builder : String) (h : isIdentifier p.name = true) :
    methodsIn ("" :: setter builder p) = [p.name] := by
  have hmethod : method? (step ++ "def " ++ p.name ++ "(self, value: " ++ p.type ++ ") -> " ++
      builder ++ ":").toList = some p.name :=
    method?_some p.name ("self, value: ".toList ++ (p.type ++ ") -> " ++ builder ++ ":").toList)
      (mark_not_mem h (by decide)) (by simp [step])
  rw [setter, methodsIn_blank, methodsIn_cons_some hmethod, methodsIn_none (by simp [step, List.dropPrefix?])]

theorem methodsIn_build (b : Blueprint) : methodsIn ("" :: b.build) = ["build"] := by
  have hmethod : method? (step ++ "def build(self) -> " ++ b.name ++ ":").toList = some "build" :=
    method?_some "build" ("self) -> " ++ b.name ++ ":").toList (by simp) (by simp [step])
  rw [build, methodsIn_blank, methodsIn_cons_some hmethod, methodsIn_none]
  split
  · simp [step, List.dropPrefix?]
  · have hchecks : ∀ line ∈ b.properties.flatMap check,
        line.toList.dropPrefix? "    def ".toList = none := by
      intro line hline
      obtain ⟨p, -, hline⟩ := List.mem_flatMap.mp hline
      rcases List.mem_pair.mp hline with rfl | rfl <;> simp [step, List.dropPrefix?]
    have harguments : ∀ line ∈ b.properties.map argument,
        line.toList.dropPrefix? "    def ".toList = none := by
      intro line hline
      obtain ⟨p, -, rfl⟩ := List.mem_map.mp hline
      simp [argument, step, List.dropPrefix?]
    simp only [List.forall_mem_append, List.forall_mem_cons]
    refine ⟨hchecks, by simp [step, List.dropPrefix?], harguments, by simp [step, List.dropPrefix?],
      by simp⟩

/-- The methods that the lines of a usable blueprint start. -/
theorem methodsIn_lines (h : b.Usable) : methodsIn b.lines = b.methodNames := by
  have hhead : methodsIn (["", ""] ++ b.classHead) = [] :=
    methodsIn_none (by simp [classHead, step, List.dropPrefix?])
  have hconstructor : methodsIn (if b.properties.isEmpty then [] else "" :: constructor) =
      if b.properties.isEmpty then [] else ["__init__"] := by
    split
    · rfl
    · exact methodsIn_constructor
  have hsetters : methodsIn
      (b.properties.flatMap fun p => "" :: setter (builderTypeName b.name) p) =
      b.properties.map (·.name) := by
    rw [methodsIn, List.filterMap_flatMap, List.map_eq_flatMap]
    exact List.flatMap_congr fun p hp => methodsIn_setter _ (h.properties p hp).1
  unfold lines methodNames
  rw [List.append_assoc b.header, methodsIn_append, methodsIn_append, methodsIn_append,
    methodsIn_append, methodsIn_header, hhead, hconstructor, hsetters, methodsIn_build]
  rfl

/-- The methods that the lines of a text start, where each type is on one line. -/
theorem methodsOf_text (h : b.Usable) (htypes : ∀ p ∈ b.properties, Lacks '\n' p.type) :
    methodsOf b.text = b.methodNames := by
  rw [methodsOf, splitChars_text h htypes, List.filterMap_append, List.filterMap_map]
  exact (congrArg (· ++ _) (methodsIn_lines h)).trans (List.append_nil _)

end Methods

end Blueprint

/-! ## 5. Builders -/

/-- The names of the methods of a builder and that of its store are different, as the language compares
them. -/
theorem Exposable.methods {l : List Property} (h : Exposable l) (d : Declaration) :
    (((d.blueprint l).methodNames.map normalize) ++ [valueStore]).Nodup := by
  have hascii : ∀ s ∈ ["__init__", "build"], normalize s = s := by
    simpa using ⟨normalize_ascii (by decide), normalize_ascii (by decide)⟩
  have hnew : ∀ s, IsTaken s → s ∉ l.map Property.key := by
    intro s hs hmem
    obtain ⟨p, hp, rfl⟩ := List.mem_map.mp hmem
    exact h.free p hp hs
  have hkeys : (d.blueprint l).methodNames.map normalize =
      (if l.isEmpty then [] else ["__init__"]) ++ l.map Property.key ++ ["build"] := by
    change List.map normalize ((if l.isEmpty then [] else ["__init__"]) ++ l.map (·.name) ++ ["build"]) = _
    rw [List.map_append, List.map_append, List.map_map, List.map_singleton, hascii "build" (by simp)]
    cases l.isEmpty with
    | true => rfl
    | false =>
      rw [if_neg Bool.false_ne_true, List.map_singleton, hascii "__init__" (by simp)]
      rfl
  have hsublist : List.Sublist (if l.isEmpty then [] else ["__init__"]) ["__init__"] := by
    split
    · exact List.nil_sublist _
    · exact List.Sublist.refl _
  have hstart := hnew "__init__" (.inr (.inr ⟨"init__", by decide⟩))
  have hbuild := hnew "build" (.inl rfl)
  have hstore := hnew valueStore (.inr (.inl rfl))
  rw [hkeys]
  refine .sublist (((hsublist.append_right _).append_right _).append_right _) ?_
  simp only [List.nodup_append, List.nodup_singleton, List.mem_append, List.mem_singleton]
  refine ⟨⟨⟨trivial, h.distinct, ?_⟩, trivial, ?_⟩, trivial, ?_⟩
  · rintro s rfl s' hs' rfl
    exact hstart hs'
  · rintro s (rfl | hs) s' rfl
    · decide
    · rintro rfl
      exact hbuild hs
  · rintro s ((rfl | hs) | rfl) s' rfl
    · decide
    · rintro rfl
      exact hstore hs
    · decide

section Exposing

variable {r : Resolver} {d : Declaration} {l : List Property}

theorem exposed_eq_ok (h : r.properties d = .ok l) (l' : List Property) :
    d.exposed r = .ok l' ↔ l' = l ∧ Exposable l := by
  rw [← @enumerate_eq_ok d.qualifiedName]
  unfold Declaration.exposed
  rw [h]
  dsimp only
  cases enumerate d.qualifiedName l <;> simp

theorem exposed_eq_error (h : r.properties d = .ok l) (e : Failure) :
    d.exposed r = .error e ↔ ∃ before p after g, l = before ++ p :: after ∧
      Exposable before ∧ Refusal d.qualifiedName (before.map Property.key) p g ∧
      e = .generation g := by
  have herror : d.exposed r = .error e ↔ ∃ g, enumerate d.qualifiedName l = .error g ∧
      e = .generation g := by
    unfold Declaration.exposed
    rw [h]
    dsimp only
    cases enumerate d.qualifiedName l <;> simp [eq_comm]
  rw [herror]
  constructor
  · rintro ⟨g, hg, rfl⟩
    obtain ⟨before, p, after, hl, hbefore, hrefusal⟩ := enumerate_eq_error.mp hg
    exact ⟨before, p, after, g, hl, hbefore, hrefusal, rfl⟩
  · rintro ⟨before, p, after, g, hl, hbefore, hrefusal, rfl⟩
    exact ⟨g, enumerate_eq_error.mpr ⟨before, p, after, hl, hbefore, hrefusal⟩, rfl⟩

/-- The properties of a declaration are exposed as they are where a builder can have a method for each.
Otherwise the first one is told that no builder can have behind those before it. So the methods of a
builder and the store of its values have different names. -/
theorem exposed_exactly (h : r.properties d = .ok l) :
    (∀ l', d.exposed r = .ok l' ↔ l' = l ∧ Exposable l) ∧
    (∀ e, d.exposed r = .error e ↔ ∃ before p after g, l = before ++ p :: after ∧
      Exposable before ∧ Refusal d.qualifiedName (before.map Property.key) p g ∧
      e = .generation g) ∧
    ∀ a, generate r d = .ok a →
      Exposable l ∧ a.text = (d.blueprint l).text ∧
      ((d.blueprint l).methodNames.map normalize ++ [valueStore]).Nodup ∧
      ((∀ p ∈ l, Lacks '\n' p.type) → methodsOf a.text = (d.blueprint l).methodNames) := by
  refine ⟨exposed_eq_ok h, exposed_eq_error h, fun a ha => ?_⟩
  obtain ⟨l', hl', hfault, htext⟩ := generate_blueprint ha
  obtain ⟨rfl, hexposable⟩ := (exposed_eq_ok h l').mp hl'
  refine ⟨hexposable, htext, hexposable.methods d, fun htypes => ?_⟩
  rw [htext]
  exact Blueprint.methodsOf_text (Blueprint.usable hfault) htypes

end Exposing

/-- A host that knows a list of properties, whatever it is asked for. -/
def listing (l : List Property) : Resolver where
  isReady _ := .ok true
  properties _ := .ok l
  originatingFiles d := .ok d.files

/-- A class of a module of a package. -/
def listed : Declaration := ⟨"p", "Foo", "p.m", [], .resolved, []⟩

/-- A letter that was met before in another shape is refused under the shape it has. With another letter
there is a builder, which has its own methods beside the two setters. -/
theorem exposed_exactly_raised :
    listed.exposed (listing [⟨"ª", "int"⟩, ⟨"a", "str"⟩]) =
      .error (.generation (.duplicate "p.m.Foo" "a")) ∧
    ∃ a, generate (listing [⟨"x", "int"⟩, ⟨"a", "str"⟩]) listed = .ok a ∧
      methodsOf a.text = ["__init__", "x", "a", "build"] := by
  have hkey : Property.key ⟨"ª", "int"⟩ = "a" := normalize_raised
  have hkey' : Property.key ⟨"a", "str"⟩ = "a" := normalize_ascii (by decide)
  have hword : IsWord "a" := by decide
  have hfree : ¬ IsTaken "a" := mt isReserved_iff.mpr (by decide)
  have hx : Property.key ⟨"x", "int"⟩ = "x" := normalize_ascii (by decide)
  constructor
  · refine ((exposed_exactly rfl).2.1 _).mpr ⟨[⟨"ª", "int"⟩], ⟨"a", "str"⟩, [], _, rfl, ?_, ?_, rfl⟩
    · exact ⟨by simpa [hkey], by simpa [hkey], by simp⟩
    · have hrefusal : Refusal "p.m.Foo" ["a"] ⟨"a", "str"⟩ (.duplicate "p.m.Foo" "a") :=
        .repeated (by rwa [hkey']) (by rwa [hkey']) (by rw [hkey']; exact List.mem_singleton_self _)
      rwa [List.map_singleton, hkey]
  · have hexposable : Exposable [⟨"x", "int"⟩, ⟨"a", "str"⟩] := by
      refine ⟨?_, ?_, ?_⟩
      · simpa [hx, hkey'] using ⟨by decide, hword⟩
      · simpa [hx, hkey'] using ⟨mt isReserved_iff.mpr (by decide), hfree⟩
      · simp [hx, hkey']
    have hexposed := ((exposed_exactly (r := listing _) (d := listed) rfl).1 _).mpr ⟨rfl, hexposable⟩
    obtain ⟨a, ha⟩ := generate_ok hexposed (by decide +kernel) rfl
    refine ⟨a, ha, ?_⟩
    exact ((exposed_exactly rfl).2.2 a ha).2.2.2 (by decide)

end FluentBuilders
