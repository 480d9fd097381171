import FluentBuilders.Proofs.Enumeration
import FluentBuilders.Proofs.Registry.Properties

/-!
Fields that override inherited ones.

An inherited field is passed by where a field before it is spelled as it is. The language takes two fields for
one where their names have the same normal form, however they are spelled. Main statements:

* `isReady_properties`: the properties of a class have the names of the fields of the class and of all classes
  below it, each name once where the class itself does not repeat one.
* `overriding_exact`: no two properties are one to the language exactly where all fields with one normal form
  are spelled alike. Only then can a field of the class and one that it overrides get into each other's way.
* `respelled_duplicate`: a class that overrides a field in another spelling.
-/

namespace FluentBuilders

open Relation

namespace Registry

variable {g : Registry} {key : ClassKey} {d : Declaration} {p : Property}

/-- A field of the class or of a class below it. -/
def Reached (g : Registry) (key : ClassKey) (p : Property) : Prop :=
  ∃ k, ReflTransGen g.Extends key k ∧ p ∈ g.fieldsOf k

/-- Fields of the class and of the classes below it that the language takes for one are spelled alike. -/
def SpelledAlike (g : Registry) (key : ClassKey) : Prop :=
  ∀ p q, g.Reached key p → g.Reached key q → p.key = q.key → p.name = q.name

/-- The properties of a class that is ready: its own fields, and fields of the classes below it under new names,
each once. No name is lost. -/
theorem isReady_properties (h : g.isReady d = true) : ∃ inherited,
    g.properties d = .ok (g.fieldsOf (keyOf d) ++ inherited) ∧
    (inherited.map (·.name)).Nodup ∧
    (∀ name ∈ inherited.map (·.name), name ∉ (g.fieldsOf (keyOf d)).map (·.name)) ∧
    ∀ name, name ∈ (g.fieldsOf (keyOf d) ++ inherited).map (·.name) ↔
      ∃ p, g.Reached (keyOf d) p ∧ p.name = name := by
  obtain ⟨hknown, hgrounded⟩ := isReady_iff.mp h
  have hmissing : g.unresolvedSymbols d = [] := isReady_iff_symbols.mp h
  obtain ⟨walked, hwalks⟩ := (Trail.start hknown).walks hgrounded
  have hreached : ∀ p, p ∈ walked ↔ g.Reached (keyOf d) p := fun p => hwalks.mem_iff
  cases hwalks with
  | enter below hbelow =>
    obtain ⟨hnodup, hnew⟩ := nodup_firstOfName ((g.fieldsOf (keyOf d)).map (·.name))
      ((g.baseKeys (keyOf d)).flatMap below)
    refine ⟨_, ?_, hnodup, hnew, fun name => ?_⟩
    · unfold properties
      rw [hmissing, ← hgrounded.collect hknown hbelow]
      rfl
    · rw [List.map_append, List.mem_append, mem_names_firstOfName, ← List.mem_append, ← List.map_append,
        List.mem_map]
      exact exists_congr fun p => and_congr_left fun _ => hreached p

/-- In a class that is ready and has no field twice, no two properties are one to the language exactly where all
fields with one normal form are spelled alike: then each field that the language takes for one before it is passed
by. A property is told as a duplicate only where it is inherited and spelled otherwise than the one before it. -/
theorem overriding_exact (h : g.isReady d = true)
    (hown : ((g.fieldsOf (keyOf d)).map Property.key).Nodup) : ∃ inherited,
    g.properties d = .ok (g.fieldsOf (keyOf d) ++ inherited) ∧
    (((g.fieldsOf (keyOf d) ++ inherited).map Property.key).Nodup ↔ g.SpelledAlike (keyOf d)) ∧
    ∀ name, d.exposed g.resolver = .error (.generation (.duplicate d.qualifiedName name)) →
      ¬ g.SpelledAlike (keyOf d) ∧ ∃ p ∈ inherited, p.name = name ∧
        ∃ q ∈ g.fieldsOf (keyOf d) ++ inherited, q.key = p.key ∧ q.name ≠ p.name := by
  obtain ⟨inherited, hproperties, hinherited, hnew, hreached⟩ := isReady_properties h
  have hkeys : ∀ l : List Property, l.map Property.key = (l.map (·.name)).map Text.normalize :=
    fun l => (List.map_map ..).symm
  have hnames : ((g.fieldsOf (keyOf d) ++ inherited).map (·.name)).Nodup := by
    rw [hkeys] at hown
    rw [List.map_append]
    exact List.nodup_append.mpr ⟨hown.of_map _, hinherited, fun name hname name' hname' heq =>
      hnew name' hname' (heq ▸ hname)⟩
  have hspelled : ((g.fieldsOf (keyOf d) ++ inherited).map Property.key).Nodup ↔
      g.SpelledAlike (keyOf d) := by
    rw [hkeys, List.nodup_map_iff_inj_on hnames]
    constructor
    · intro hinj p q hp hq
      exact hinj p.name ((hreached _).mpr ⟨p, hp, rfl⟩) q.name ((hreached _).mpr ⟨q, hq, rfl⟩)
    · intro halike name hname name' hname'
      obtain ⟨p, hp, rfl⟩ := (hreached name).mp hname
      obtain ⟨q, hq, rfl⟩ := (hreached name').mp hname'
      exact halike p q hp hq
  refine ⟨inherited, hproperties, hspelled, fun name hduplicate => ?_⟩
  obtain ⟨before, p, after, e, hl, -, hrefusal, he⟩ := (exposed_eq_error hproperties _).mp hduplicate
  cases he
  cases hrefusal with
  | repeated _ _ hseen =>
  obtain ⟨q, hq, hkey⟩ := List.mem_map.mp hseen
  -- the property comes after the fields of the class, since no two of those are one
  have hp : p ∈ inherited := by
    rcases List.append_eq_append_iff.mp hl with ⟨more, -, hmore⟩ | ⟨more, howned, hmore⟩
    · rw [hmore]
      exact List.mem_append_right _ List.mem_cons_self
    · cases more with
      | nil =>
        rw [List.nil_append] at hmore
        exact hmore ▸ List.mem_cons_self
      | cons p' more =>
        cases hmore
        rw [howned, List.map_append, List.map_cons] at hown
        exact absurd List.mem_cons_self (List.disjoint_of_nodup_append hown hseen)
  have hname : q.name ≠ p.name := by
    rw [hl, List.map_append, List.map_cons] at hnames
    intro heq
    exact List.disjoint_of_nodup_append hnames (List.mem_map_of_mem hq) (heq ▸ List.mem_cons_self)
  refine ⟨fun halike => ?_, p, hp, rfl, q, hl ▸ List.mem_append_left _ hq, hkey, hname⟩
  have hdistinct := hspelled.mpr halike
  rw [hl, List.map_append, List.map_cons] at hdistinct
  exact List.disjoint_of_nodup_append hdistinct hseen List.mem_cons_self

set_option maxRecDepth 100000 in
/-- A class overrides a field of a shared base in the same spelling, and another one does below it. -/
theorem overriding_exact_diamond :
    diamond.isReady ⟨"p", "D", "p.a", [], .resolved, []⟩ = true ∧
    diamond.properties ⟨"p", "D", "p.a", [], .resolved, []⟩ =
      .ok [⟨"x", "str"⟩, ⟨"y", "int"⟩, ⟨"z", "int"⟩, ⟨"w", "int"⟩] ∧
    diamond.SpelledAlike ⟨"p.a", "D"⟩ := by
  have hdiamond : diamond.isReady ⟨"p", "D", "p.a", [], .resolved, []⟩ = true ∧
      diamond.fieldsOf (keyOf ⟨"p", "D", "p.a", [], .resolved, []⟩) = [⟨"x", "str"⟩] ∧
      diamond.properties ⟨"p", "D", "p.a", [], .resolved, []⟩ =
        .ok [⟨"x", "str"⟩, ⟨"y", "int"⟩, ⟨"z", "int"⟩, ⟨"w", "int"⟩] := by decide +kernel
  obtain ⟨hready, hfields, hproperties⟩ := hdiamond
  obtain ⟨inherited, heq, hspelled, -⟩ := overriding_exact hready (by
    rw [hfields]
    exact List.nodup_singleton _)
  rw [hproperties, Except.ok.injEq] at heq
  refine ⟨hready, hproperties, hspelled.mp ?_⟩
  rw [← heq]
  decide

/-! ## A field in two spellings -/

/-- A module with a class, and a class that overrides its field in another spelling. -/
def respelling : SymbolTable where
  module := "m"
  path := "m.py"
  digest := ""
  isPackage := false
  sound := true
  imports := ⟨[("builder", "builder_gen.marker.builder")]⟩
  wildcards := []
  definitions := ["A", "B"]
  classes := ⟨[("A", ⟨"A", 1, [], [⟨"ª", "int", ["int"]⟩], [], false⟩),
    ("B", ⟨"B", 4, ["A"], [⟨"a", "int", ["int"]⟩], ["builder"], false⟩)]⟩
  decorated := [⟨"B", .ofClass, 4, ["builder"], true, false⟩]

def respelled : Registry := ⟨⟨[("m", respelling)]⟩, .empty⟩

/-- The class that overrides. -/
def respeller : Declaration := ⟨"", "B", "m", [⟨"m.py", ""⟩], .resolved, []⟩

theorem respelled_facts :
    (respelled.report "builder_gen.marker.builder").1 = [respeller] ∧
    respelled.isReady respeller = true ∧
    respelled.fieldsOf (keyOf respeller) = [⟨"a", "int"⟩] ∧
    respelled.properties respeller = .ok [⟨"a", "int"⟩, ⟨"ª", "int"⟩] := by decide +kernel

/-- A class overrides a field in another spelling, and fails. -/
theorem respelled_duplicate :
    (respelled.report "builder_gen.marker.builder").1 = [respeller] ∧
    respelled.isReady respeller = true ∧
    ((respelled.fieldsOf (keyOf respeller)).map Property.key).Nodup ∧
    respeller.exposed respelled.resolver = .error (.generation (.duplicate "m.B" "ª")) := by
  obtain ⟨hreport, hready, hfields, hproperties⟩ := respelled_facts
  have hown : Property.key ⟨"a", "int"⟩ = "a" := Text.normalize_ascii (by decide)
  have hraised : Property.key ⟨"ª", "int"⟩ = "a" := Text.normalize_raised
  have hword : IsWord "a" := by decide
  have hfree : ¬ IsTaken "a" := mt isReserved_iff.mpr (by decide)
  refine ⟨hreport, hready, by rw [hfields]; exact List.nodup_singleton _,
    (exposed_eq_error hproperties _).mpr
      ⟨[⟨"a", "int"⟩], ⟨"ª", "int"⟩, [], _, rfl, ?_, ?_, rfl⟩⟩
  · exact ⟨by simpa [hown], by simpa [hown], by simp⟩
  · have hrefusal : Refusal "m.B" ["a"] ⟨"ª", "int"⟩ (.duplicate "m.B" "ª") :=
      .repeated (by rwa [hraised]) (by rwa [hraised]) (by rw [hraised]; exact List.mem_singleton_self _)
    rwa [List.map_singleton, hown]

end Registry

end FluentBuilders
