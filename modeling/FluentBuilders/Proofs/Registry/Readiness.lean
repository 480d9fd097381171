import Mathlib.Data.List.Perm.Subperm
import Mathlib.Logic.Relation
import FluentBuilders.Proofs.Registry

/-!
When a class is ready.

1. `Extends`, `Closed`: the classes that the bases of a class lead to, and whether all names that a
   class uses are there.
2. `Trail`: the classes on the way to a class, each once; there are never more of them than classes.
3. `Searches`: the search for what is missing, with no bound on its depth. It ends, and each class
   that it enters is known: `unresolvedFrom` is such a search.
4. `unresolved_eq_nil_iff`: nothing is missing where all classes below are closed and none of them
   lies on a circle.
-/

namespace FluentBuilders

open Relation

/-- The names that a class looks up in its module: those of its annotations, and its bases. -/
def ClassInfo.uses (info : ClassInfo) : List String :=
  info.fields.flatMap (·.typeNames) ++ info.bases

namespace Registry

variable {g : Registry} {key baseKey : ClassKey} {t : SymbolTable} {info : ClassInfo}

/-! ## 1. Classes and their bases -/

/-- A base of the first class leads to the second one. -/
def Extends (g : Registry) (key baseKey : ClassKey) : Prop :=
  ∃ t info, g.classAt? key = some (t, info) ∧
    ∃ base ∈ info.bases, (g.checkName t base).bind g.findClass = some baseKey

/-- Every name that the class uses is there. -/
def Closed (g : Registry) (key : ClassKey) : Prop :=
  ∀ t info, g.classAt? key = some (t, info) →
    ∀ name ∈ info.uses, (g.checkName t name).isSome = true

theorem extends_iff (hclass : g.classAt? key = some (t, info)) : g.Extends key baseKey ↔
    ∃ base ∈ info.bases, (g.checkName t base).bind g.findClass = some baseKey := by
  constructor
  · rintro ⟨t', info', hclass', h⟩
    rw [hclass, Option.some.injEq, Prod.mk.injEq] at hclass'
    obtain ⟨rfl, rfl⟩ := hclass'
    exact h
  · exact fun h => ⟨t, info, hclass, h⟩

theorem closed_iff (hclass : g.classAt? key = some (t, info)) :
    g.Closed key ↔ ∀ name ∈ info.uses, (g.checkName t name).isSome = true := by
  constructor
  · exact fun h => h t info hclass
  · intro h t' info' hclass'
    rw [hclass, Option.some.injEq, Prod.mk.injEq] at hclass'
    obtain ⟨rfl, rfl⟩ := hclass'
    exact h

/-- Names are followed to classes that are known. -/
theorem findClassWithin_known {hops : Nat} {qualified : String}
    (h : g.findClassWithin hops qualified = some key) : (g.classAt? key).isSome = true := by
  induction hops generalizing qualified with
  | zero => cases h
  | succ hops ih =>
    unfold findClassWithin at h
    dsimp only at h
    split at h
    · cases h
    next t ht =>
    split at h
    · next hclass =>
      cases h
      unfold classAt?
      rw [ht]
      simpa [Table.contains] using hclass
    split at h
    · exact ih h
    · obtain ⟨star, -, hstar⟩ := List.exists_of_findSome?_eq_some h
      exact ih hstar

theorem Extends.known (h : g.Extends key baseKey) : (g.classAt? baseKey).isSome = true := by
  obtain ⟨t, info, -, base, -, hbase⟩ := h
  obtain ⟨qualified, -, hfind⟩ := Option.bind_eq_some_iff.mp hbase
  exact findClassWithin_known hfind

/-! ## 2. Trails -/

/-- The classes that are known, module by module. -/
def classKeys (g : Registry) : List ClassKey :=
  g.modules.entries.flatMap fun entry => entry.2.classes.keys.map fun name => ⟨entry.1, name⟩

theorem mem_classKeys (h : (g.classAt? key).isSome = true) : key ∈ g.classKeys := by
  obtain ⟨r, hr⟩ := Option.isSome_iff_exists.mp h
  obtain ⟨ht, hinfo⟩ := classAt?_spec hr
  refine List.mem_flatMap.mpr ⟨_, Table.mem_of_get? ht, List.mem_map.mpr ⟨key.name, ?_, rfl⟩⟩
  exact List.mem_map.mpr ⟨_, Table.mem_of_get? hinfo, rfl⟩

theorem length_classKeys (g : Registry) : g.classKeys.length = g.classCount := by
  have hcount : ∀ (entries : List (String × SymbolTable)) (n : Nat),
      (entries.map (·.2)).foldl (fun n t => n + t.classes.size) n =
        n + (entries.flatMap fun entry =>
          entry.2.classes.keys.map fun name => (⟨entry.1, name⟩ : ClassKey)).length := by
    intro entries
    induction entries with
    | nil => exact fun n => rfl
    | cons entry rest ih =>
      intro n
      rw [List.map_cons, List.foldl_cons, ih, List.flatMap_cons, List.length_append,
        List.length_map, Nat.add_assoc]
      exact congrArg (fun k => n + (k + _)) (List.length_map _).symm
  have h := hcount g.modules.entries 0
  rw [Nat.zero_add] at h
  exact h.symm

/-- What leads to a class leads to its bases. -/
theorem Extends.way {before : List ClassKey} (h : g.Extends key baseKey)
    (hway : ∀ k ∈ before, TransGen g.Extends k key) :
    ∀ k ∈ key :: before, TransGen g.Extends k baseKey := by
  intro k hk
  rcases List.mem_cons.mp hk with rfl | hk
  · exact .single h
  · exact (hway k hk).tail h

/-- The known classes `before` lead to the class `key`, none of them twice, and `fuel` is enough to
enter all the others. -/
structure Trail (g : Registry) (fuel : Nat) (key : ClassKey) (before : List ClassKey) : Prop where
  known : ∀ k ∈ key :: before, (g.classAt? k).isSome = true
  way : ∀ k ∈ before, TransGen g.Extends k key
  nodup : (key :: before).Nodup
  enough : g.classCount < before.length + fuel

namespace Trail

variable {fuel : Nat} {before : List ClassKey}

theorem start (h : (g.classAt? key).isSome = true) : g.Trail (g.classCount + 1) key [] where
  known k hk := by
    rw [List.mem_singleton.mp hk]
    exact h
  way k hk := by cases hk
  nodup := List.nodup_singleton key
  enough := by
    rw [List.length_nil]
    omega

/-- There is fuel left wherever a trail leads: no trail has more classes than there are. -/
theorem fuel_pos (h : g.Trail fuel key before) : 0 < fuel := by
  have hlength := (List.subperm_of_subset h.nodup fun k hk => mem_classKeys (h.known k hk)).length_le
  rw [length_classKeys, List.length_cons] at hlength
  have henough := h.enough
  omega

theorem next (h : g.Trail (fuel + 1) key before) (hextends : g.Extends key baseKey)
    (hnew : baseKey ∉ key :: before) : g.Trail fuel baseKey (key :: before) where
  known k hk := by
    rcases List.mem_cons.mp hk with rfl | hk
    · exact hextends.known
    · exact h.known k hk
  way := hextends.way h.way
  nodup := List.nodup_cons.mpr ⟨hnew, h.nodup⟩
  enough := by
    have henough := h.enough
    rw [List.length_cons]
    omega

end Trail

/-! ## 3. Searches -/

/-- What a base adds to what is missing; `below` tells what is missing below the class that the base
leads to. -/
def missingOf (g : Registry) (t : SymbolTable) (visiting : List ClassKey)
    (below : ClassKey → List String) (base : String) : List String :=
  match g.checkName t base with
  | none => [base]
  | some qualified =>
    match g.findClass qualified with
    | none => []
    | some baseKey =>
      if visiting.contains baseKey then [base ++ " (cyclic)"] else below baseKey

/-- What is missing for a class and below it, each name once. -/
def missing (g : Registry) (t : SymbolTable) (info : ClassInfo) (visiting : List ClassKey)
    (below : ClassKey → List String) : List String :=
  (g.unresolvedTypes t info ++ info.bases.flatMap (g.missingOf t visiting below)).eraseDups

/-- A search that has come from the classes `visiting` to a class ends there with what is missing: the
class is known, and the searches of the classes that its bases lead to end, apart from those that it
came from. -/
inductive Searches (g : Registry) : ClassKey → List ClassKey → List String → Prop
  | enter {key : ClassKey} {visiting : List ClassKey} {t : SymbolTable} {info : ClassInfo}
      (below : ClassKey → List String) :
    g.classAt? key = some (t, info) →
    (∀ baseKey, g.Extends key baseKey → baseKey ∉ key :: visiting →
      Searches g baseKey (key :: visiting) (below baseKey)) →
    Searches g key visiting (g.missing t info (key :: visiting) below)

section Searches

variable {visiting : List ClassKey} {below below' : ClassKey → List String} {found : List String}

/-- What is missing depends on the classes that bases lead to, and on no others. -/
theorem missing_congr (hclass : g.classAt? key = some (t, info))
    (h : ∀ baseKey, g.Extends key baseKey → baseKey ∉ visiting → below baseKey = below' baseKey) :
    g.missing t info visiting below = g.missing t info visiting below' := by
  unfold missing
  congr 2
  refine List.flatMap_congr fun base hbase => ?_
  unfold missingOf
  split
  · rfl
  next qualified hcheck =>
  split
  · rfl
  next baseKey hfind =>
  split
  · rfl
  next hnew =>
  refine h baseKey ((extends_iff hclass).mpr ⟨base, hbase, by rw [hcheck]; exact hfind⟩) fun hmem => ?_
  exact hnew (List.contains_iff_mem.mpr hmem)

/-- A search ends in one way only. -/
theorem Searches.unique {found' : List String} (h : g.Searches key visiting found)
    (h' : g.Searches key visiting found') : found = found' := by
  induction h generalizing found' with
  | @enter key visiting t info below hclass _ ih =>
    cases h' with
    | @enter _ _ t' info' below' hclass' hbelow' =>
      rw [hclass, Option.some.injEq, Prod.mk.injEq] at hclass'
      obtain ⟨rfl, rfl⟩ := hclass'
      exact missing_congr hclass fun baseKey hextends hnew =>
        ih baseKey hextends hnew (hbelow' baseKey hextends hnew)

/-- Where a trail leads, the bounded search is one without a bound. -/
theorem Trail.searches {fuel : Nat} (h : g.Trail fuel key visiting) :
    g.Searches key visiting (g.unresolvedFrom fuel key visiting) := by
  induction fuel generalizing key visiting with
  | zero => exact absurd h.fuel_pos (Nat.lt_irrefl 0)
  | succ fuel ih =>
    obtain ⟨⟨t, info⟩, hclass⟩ := Option.isSome_iff_exists.mp (h.known key List.mem_cons_self)
    have hstep : g.unresolvedFrom (fuel + 1) key visiting =
        g.missing t info (key :: visiting) fun k => g.unresolvedFrom fuel k (key :: visiting) := by
      rw [unresolvedFrom, hclass]
      rfl
    rw [hstep]
    exact .enter _ hclass fun baseKey hextends hnew => ih (h.next hextends hnew)

/-- The search from a known class ends, and what it ends with is what keeps the class from being
ready. -/
theorem searches_iff (h : (g.classAt? key).isSome = true) :
    g.Searches key [] found ↔ found = g.unresolved key := by
  have hends : g.Searches key [] (g.unresolved key) := (Trail.start h).searches
  constructor
  · exact fun hfound => hfound.unique hends
  · rintro rfl
    exact hends

/-! ## 4. Classes for which nothing is missing -/

theorem mem_missingOf {base symbol : String} : symbol ∈ g.missingOf t visiting below base ↔
    (g.checkName t base = none ∧ symbol = base) ∨
      ∃ baseKey, (g.checkName t base).bind g.findClass = some baseKey ∧
        ((baseKey ∈ visiting ∧ symbol = base ++ " (cyclic)") ∨
          (baseKey ∉ visiting ∧ symbol ∈ below baseKey)) := by
  unfold missingOf
  cases hcheck : g.checkName t base with
  | none => simp
  | some qualified =>
    rw [Option.bind_some]
    cases hfind : g.findClass qualified with
    | none => simp [hfind]
    | some baseKey =>
      by_cases hmem : baseKey ∈ visiting <;> simp [hfind, hmem]

/-- What is missing for a class: the names that it uses and that are not there, and what its bases lead
to. -/
theorem mem_missing {symbol : String} : symbol ∈ g.missing t info visiting below ↔
    (symbol ∈ info.uses ∧ g.checkName t symbol = none) ∨
      ∃ base ∈ info.bases, ∃ baseKey, (g.checkName t base).bind g.findClass = some baseKey ∧
        ((baseKey ∈ visiting ∧ symbol = base ++ " (cyclic)") ∨
          (baseKey ∉ visiting ∧ symbol ∈ below baseKey)) := by
  unfold missing unresolvedTypes ClassInfo.uses
  simp only [List.mem_eraseDups, List.mem_append, List.mem_filter, List.mem_flatMap (b := symbol),
    Option.isNone_iff_eq_none, mem_missingOf]
  constructor
  · rintro (⟨hname, hnone⟩ | ⟨base, hbase, ⟨hnone, rfl⟩ | hbelow⟩)
    exacts [.inl ⟨.inl hname, hnone⟩, .inl ⟨.inr hbase, hnone⟩, .inr ⟨base, hbase, hbelow⟩]
  · rintro (⟨hname | hbase, hnone⟩ | ⟨base, hbase, hbelow⟩)
    exacts [.inl ⟨hname, hnone⟩, .inr ⟨symbol, hbase, .inl ⟨hnone, rfl⟩⟩,
      .inr ⟨base, hbase, .inr hbelow⟩]

/-- Nothing is missing for a closed class whose bases lead on, to classes for which nothing is. -/
theorem missing_eq_nil_iff (hclass : g.classAt? key = some (t, info)) :
    g.missing t info visiting below = [] ↔
      g.Closed key ∧
        ∀ baseKey, g.Extends key baseKey → baseKey ∉ visiting ∧ below baseKey = [] := by
  rw [List.eq_nil_iff_forall_not_mem, closed_iff hclass]
  constructor
  · intro hnone
    refine ⟨fun name hname => Option.isSome_iff_ne_none.mpr fun hcheck =>
      hnone name (mem_missing.mpr (.inl ⟨hname, hcheck⟩)), fun baseKey hextends => ?_⟩
    obtain ⟨base, hbase, hfind⟩ := (extends_iff hclass).mp hextends
    have hnew : baseKey ∉ visiting := fun hmem => hnone (base ++ " (cyclic)")
      (mem_missing.mpr (.inr ⟨base, hbase, baseKey, hfind, .inl ⟨hmem, rfl⟩⟩))
    refine ⟨hnew, List.eq_nil_iff_forall_not_mem.mpr fun symbol hsymbol => hnone symbol ?_⟩
    exact mem_missing.mpr (.inr ⟨base, hbase, baseKey, hfind, .inr ⟨hnew, hsymbol⟩⟩)
  · rintro ⟨hnames, hbases⟩ symbol hsymbol
    rcases mem_missing.mp hsymbol with ⟨hname, hnone⟩ | ⟨base, hbase, baseKey, hfind, hbelow⟩
    · have hthere := hnames symbol hname
      rw [hnone] at hthere
      cases hthere
    · obtain ⟨hnew, hnil⟩ := hbases baseKey ((extends_iff hclass).mpr ⟨base, hbase, hfind⟩)
      rcases hbelow with ⟨hmem, -⟩ | ⟨-, hmem⟩
      · exact hnew hmem
      · rw [hnil] at hmem
        cases hmem

/-- A class and all classes below it are closed, and none of them lies on a circle. -/
def Grounded (g : Registry) (key : ClassKey) : Prop :=
  ∀ k, ReflTransGen g.Extends key k → g.Closed k ∧ ¬ TransGen g.Extends k k

theorem Grounded.base (h : g.Grounded key) (hextends : g.Extends key baseKey) :
    g.Grounded baseKey := fun k hk => h k (hk.head hextends)

/-- A base of a grounded class is none of the classes on the way to it. -/
theorem Grounded.new (h : g.Grounded key) (hway : ∀ k ∈ visiting, TransGen g.Extends k key)
    (hextends : g.Extends key baseKey) : baseKey ∉ key :: visiting := fun hmem =>
  (h baseKey (.single hextends)).2 (hextends.way hway baseKey hmem)

/-- Where a search finds nothing, all classes below are closed, and none leads back to a class on the
way to it. -/
theorem Searches.grounded (h : g.Searches key visiting found) (hnone : found = []) :
    g.Grounded key ∧ ∀ k, TransGen g.Extends key k → k ∉ key :: visiting := by
  induction h with
  | @enter key visiting t info below hclass _ ih =>
    obtain ⟨hclosed, hbases⟩ := (missing_eq_nil_iff hclass).mp hnone
    have hbelow := fun baseKey hextends =>
      ih baseKey hextends (hbases baseKey hextends).1 (hbases baseKey hextends).2
    have haway : ∀ k, TransGen g.Extends key k → k ∉ key :: visiting := by
      intro k hk
      obtain ⟨baseKey, hextends, hk⟩ := TransGen.head'_iff.mp hk
      rcases (reflTransGen_iff_eq_or_transGen.mp hk) with rfl | hk
      · exact (hbases _ hextends).1
      · exact fun hmem => (hbelow baseKey hextends).2 k hk (List.mem_cons_of_mem _ hmem)
    refine ⟨fun k hk => ?_, haway⟩
    rcases hk.cases_head with rfl | ⟨baseKey, hextends, hk⟩
    · exact ⟨hclosed, fun hcircle => haway _ hcircle List.mem_cons_self⟩
    · exact (hbelow baseKey hextends).1 k hk

/-- A search from a grounded class finds nothing, on whatever way it came there. -/
theorem Grounded.searches (hgrounded : g.Grounded key) (hway : ∀ k ∈ visiting, TransGen g.Extends k key)
    (h : g.Searches key visiting found) : found = [] := by
  induction h with
  | @enter key visiting t info below hclass _ ih =>
    refine (missing_eq_nil_iff hclass).mpr ⟨(hgrounded key .refl).1, fun baseKey hextends => ?_⟩
    have hnew := hgrounded.new hway hextends
    exact ⟨hnew, ih baseKey hextends hnew (hgrounded.base hextends) (hextends.way hway)⟩

/-- Nothing is missing for the grounded classes, and for no others. -/
theorem unresolved_eq_nil_iff (h : (g.classAt? key).isSome = true) :
    g.unresolved key = [] ↔ g.Grounded key := by
  have hends := (searches_iff h).mpr rfl
  exact ⟨fun hnone => (hends.grounded hnone).1, fun hgrounded =>
    hgrounded.searches (fun k hk => by cases hk) hends⟩

/-- The declarations that are ready are those of known, grounded classes. -/
theorem isReady_iff {d : Declaration} :
    g.isReady d = true ↔ (g.classAt? (keyOf d)).isSome = true ∧ g.Grounded (keyOf d) := by
  unfold isReady knows
  rw [Bool.and_eq_true, List.isEmpty_iff]
  exact and_congr_right unresolved_eq_nil_iff

theorem isReady_iff_symbols {d : Declaration} :
    g.isReady d = true ↔ g.unresolvedSymbols d = [] := by
  unfold isReady unresolvedSymbols
  cases g.knows d <;> simp

/-- The search for what keeps a known class from being ready ends and enters no class that is not
known. It finds nothing exactly where all names of the class and of the classes below it are there,
and none of these classes lies on a circle. -/
theorem search_settles (h : (g.classAt? key).isSome = true) :
    (∀ found, g.Searches key [] found ↔ found = g.unresolved key) ∧
      (g.unresolved key = [] ↔
        ∀ k, ReflTransGen g.Extends key k → g.Closed k ∧ ¬ TransGen g.Extends k k) :=
  ⟨fun _ => searches_iff h, unresolved_eq_nil_iff h⟩

end Searches

/-- Classes that share a base, and beside them two that are bases of each other. -/
def family : Registry :=
  let source := "class A: pass\nclass B(A): pass\nclass C(A): pass\nclass D(B, C): pass\nclass E(F): pass\nclass F(E): pass\n"
  ⟨⟨[("p.a", .ofParsed (.ofText source "p/a.py") "p.a" false)]⟩, .empty⟩

set_option maxRecDepth 100000 in
/-- The class with two bases is ready and so is all below it; one on the circle is not. -/
theorem search_settles_family :
    (∀ k, ReflTransGen family.Extends ⟨"p.a", "D"⟩ k →
        family.Closed k ∧ ¬ TransGen family.Extends k k) ∧
      ¬ ∀ k, ReflTransGen family.Extends ⟨"p.a", "E"⟩ k →
        family.Closed k ∧ ¬ TransGen family.Extends k k := by
  have hfamily : (family.classAt? ⟨"p.a", "D"⟩).isSome = true ∧
      (family.classAt? ⟨"p.a", "E"⟩).isSome = true ∧ family.unresolved ⟨"p.a", "D"⟩ = [] ∧
      family.unresolved ⟨"p.a", "E"⟩ = ["E (cyclic)"] := by decide +kernel
  obtain ⟨hD, hE, hready, hcircle⟩ := hfamily
  refine ⟨(search_settles hD).2.mp hready, fun h => ?_⟩
  rw [(search_settles hE).2.mpr h] at hcircle
  cases hcircle

end Registry

end FluentBuilders
