import FluentBuilders.Proofs.Registry.Following

/-!
Names that modules import from each other.

1. `Relayed`: a name that is handed on from module to module, up to the class that it stands for.
   Both look-ups come to the class, and both give up after the same number of imports.
2. `Tells`, `Finds`: the runs of the look-ups, with the imports counted from the name that was asked
   for. Each run ends, with the one answer that the registry gives (`tells_iff`, `finds_iff`).
3. `Circles`: names that only lead to one another. None of them is there.
4. `lookups_agree` puts these together.
-/

namespace FluentBuilders

open Text Grammar

namespace Registry

variable {g : Registry} {sources : List Source} {key : ClassKey} {q : String} {m : Member}
  {k depth hops : Nat}

/-! ## 1. Names that are handed on -/

/-- The name of a module is handed on `k` times: the module does not define it and imports it from
the next one, and the last module has the class. None of the names is a module itself. -/
inductive Relayed (g : Registry) : Nat → String → ClassKey → Prop
  | own {module name : String} {t : SymbolTable} :
    '.' ∉ name.toList → g.modules.contains (module ++ "." ++ name) = false →
    g.module? module = some t → t.classes.contains name = true →
    Relayed g 0 (module ++ "." ++ name) ⟨module, name⟩
  | passed {k : Nat} {module name target : String} {t : SymbolTable} {key : ClassKey} :
    '.' ∉ name.toList → g.modules.contains (module ++ "." ++ name) = false →
    g.module? module = some t → t.definitions.contains name = false →
    t.imports.get? name = some target → Relayed g k target key →
    Relayed g (k + 1) (module ++ "." ++ name) key

/-- The name of a known module leads into a known package. -/
theorem isLocal_of_module {module : String} {t : SymbolTable} (ht : g.module? module = some t)
    (name : String) : g.isLocal (module ++ "." ++ name) = true := by
  have hmodule : module ∈ g.names := (g.modules.contains_iff _).mp (Option.isSome_of_eq_some ht)
  unfold isLocal
  rw [rootOf_append, List.contains_iff_mem]
  exact List.mem_map_of_mem hmodule

namespace Relayed

theorem isLocal (h : g.Relayed k q key) : g.isLocal q = true := by
  cases h with
  | own _ _ ht _ => exact isLocal_of_module ht _
  | passed _ _ ht _ _ _ => exact isLocal_of_module ht _

/-- The class is found as soon as it may be looked for through that many imports. -/
theorem findClassWithin (h : g.Relayed k q key) (hg : g.Holds sources) (hops : Nat) :
    g.findClassWithin hops q = if k < hops then some key else none := by
  induction h generalizing hops with
  | @own module name t hname _ ht hclass =>
    cases hops with
    | zero => rfl
    | succ hops =>
      rw [findClassWithin_step (splitLast_append hname) ht, if_pos hclass, if_pos (by omega)]
  | @passed k module name target t key hname _ ht hdefined himport _ ih =>
    cases hops with
    | zero => rfl
    | succ hops =>
      rw [findClassWithin_step (splitLast_append hname) ht, if_neg (hg.not_class ht hdefined),
        himport, Option.elim_some, ih]
      simp only [Nat.add_lt_add_iff_right]

/-- The name is there as soon as it may be looked for through that many imports. -/
theorem existsWithin (h : g.Relayed k q key) (hg : g.Holds sources) (hops : Nat) :
    g.existsWithin hops q = decide (k < hops) := by
  induction h generalizing hops with
  | @own module name t hname hnew ht hclass =>
    cases hops with
    | zero => exact hnew
    | succ hops =>
      rw [existsWithin_step hname ht, hg.defines ht hclass, Bool.or_true, Bool.true_or,
        decide_eq_true (by omega)]
  | @passed k module name target t key hname hnew ht hdefined himport hnext ih =>
    cases hops with
    | zero => exact hnew
    | succ hops =>
      rw [existsWithin_step hname ht, hnew, hdefined, himport, Option.elim_some, hnext.isLocal, ih]
      simp

/-- Both look-ups come to the class through up to eight imports, and through no more. -/
theorem agree (h : g.Relayed k q key) (hg : g.Holds sources) :
    (g.nameExists q = true ↔ g.findClass q = some key) ∧ (g.findClass q = some key ↔ k ≤ 8) := by
  have hbound : k < maxHops + 1 ↔ k ≤ 8 := Nat.lt_succ_iff
  unfold nameExists findClass
  rw [h.existsWithin hg, h.findClassWithin hg, decide_eq_true_eq, ← hbound]
  constructor <;> simp

end Relayed

/-! ## 2. Runs of the look-ups -/

/-- The look-up of a name after `depth` imports goes on behind the cut: the name is no module, the
depth allows it, and the module of the cut does not have the part behind it. -/
structure Pending (g : Registry) (depth : Nat) (q : String) (m : Member) : Prop where
  new : g.modules.contains q = false
  within : depth ≤ maxHops
  cut : g.member? q = some m
  unbound : m.isBound g = false

/-- A run of the look-up that tells whether a name is there, begun after `depth` imports, and its
answer. Of wildcard imports each is tried until one has the name. -/
inductive Tells (g : Registry) : Nat → String → Bool → Prop
  | module {depth : Nat} {q : String} : g.modules.contains q = true → Tells g depth q true
  | deep {depth : Nat} {q : String} :
    g.modules.contains q = false → maxHops < depth → Tells g depth q false
  | uncut {depth : Nat} {q : String} :
    g.modules.contains q = false → depth ≤ maxHops → g.member? q = none → Tells g depth q false
  | bound {depth : Nat} {q : String} {m : Member} :
    depth ≤ maxHops → g.member? q = some m → m.isBound g = true → Tells g depth q true
  | foreign {depth : Nat} {q target : String} {m : Member} :
    g.Pending depth q m → m.table.imports.get? m.head = some target → g.isLocal target = false →
    Tells g depth q true
  | imported {depth : Nat} {q target : String} {m : Member} {answer : Bool} :
    g.Pending depth q m → m.table.imports.get? m.head = some target → g.isLocal target = true →
    Tells g (depth + 1) (extend target (joinDotted m.rest)) answer → Tells g depth q answer
  | starForeign {depth : Nat} {q star : String} {before after : List String} {m : Member} :
    g.Pending depth q m → m.table.imports.get? m.head = none →
    m.table.wildcards = before ++ star :: after → (∀ s ∈ before, g.isLocal s = true) →
    (∀ s ∈ before, Tells g (depth + 1) (m.behind s) false) → g.isLocal star = false →
    Tells g depth q true
  | starred {depth : Nat} {q star : String} {before after : List String} {m : Member} :
    g.Pending depth q m → m.table.imports.get? m.head = none →
    m.table.wildcards = before ++ star :: after → (∀ s ∈ before, g.isLocal s = true) →
    (∀ s ∈ before, Tells g (depth + 1) (m.behind s) false) → g.isLocal star = true →
    Tells g (depth + 1) (m.behind star) true → Tells g depth q true
  | unstarred {depth : Nat} {q : String} {m : Member} :
    g.Pending depth q m → m.table.imports.get? m.head = none →
    (∀ s ∈ m.table.wildcards, g.isLocal s = true) →
    (∀ s ∈ m.table.wildcards, Tells g (depth + 1) (m.behind s) false) → Tells g depth q false

/-- A run of the look-up of the class that a name refers to, begun after `depth` imports, and what
it finds. -/
inductive Finds (g : Registry) : Nat → String → Option ClassKey → Prop
  | deep {depth : Nat} {q : String} : maxHops < depth → Finds g depth q none
  | unknown {depth : Nat} {q module name : String} :
    depth ≤ maxHops → splitLast q = (module, name) → g.module? module = none →
    Finds g depth q none
  | own {depth : Nat} {q module name : String} {t : SymbolTable} :
    depth ≤ maxHops → splitLast q = (module, name) → g.module? module = some t →
    t.classes.contains name = true → Finds g depth q (some ⟨module, name⟩)
  | imported {depth : Nat} {q module name target : String} {t : SymbolTable}
      {found : Option ClassKey} :
    depth ≤ maxHops → splitLast q = (module, name) → g.module? module = some t →
    t.classes.contains name = false → t.imports.get? name = some target →
    Finds g (depth + 1) target found → Finds g depth q found
  | starred {depth : Nat} {q module name star : String} {before after : List String}
      {t : SymbolTable} {key : ClassKey} :
    depth ≤ maxHops → splitLast q = (module, name) → g.module? module = some t →
    t.classes.contains name = false → t.imports.get? name = none →
    t.wildcards = before ++ star :: after →
    (∀ s ∈ before, Finds g (depth + 1) (s ++ "." ++ name) none) →
    Finds g (depth + 1) (star ++ "." ++ name) (some key) → Finds g depth q (some key)
  | unstarred {depth : Nat} {q module name : String} {t : SymbolTable} :
    depth ≤ maxHops → splitLast q = (module, name) → g.module? module = some t →
    t.classes.contains name = false → t.imports.get? name = none →
    (∀ s ∈ t.wildcards, Finds g (depth + 1) (s ++ "." ++ name) none) → Finds g depth q none

/-- Where a name is cut after no known module, it is there only as a module. -/
theorem existsWithin_uncut (hm : g.member? q = none) (hops : Nat) :
    g.existsWithin (hops + 1) q = g.modules.contains q := by
  rw [Registry.existsWithin, hm]
  exact Bool.or_false _

/-- Of items of which one is accepted, there is a first one. -/
theorem exists_first_of_any {α : Type} {p : α → Bool} {l : List α} (h : l.any p = true) :
    ∃ before a after, l = before ++ a :: after ∧ p a = true ∧ ∀ b ∈ before, p b = false := by
  cases hfind : l.find? p with
  | none =>
    obtain ⟨a, ha, hp⟩ := List.any_eq_true.mp h
    exact absurd hp (List.find?_eq_none.mp hfind a ha)
  | some a =>
    obtain ⟨hp, before, after, hsplit, hbefore⟩ := List.find?_eq_some_iff_append.mp hfind
    exact ⟨before, a, after, hsplit, hp, fun b hb => by simpa using hbefore b hb⟩

/-- A wildcard import is of no use if its package is known and does not have the name. -/
theorem misses_iff {isKnown isThere : Bool} :
    (!isKnown || isThere) = false ↔ isKnown = true ∧ isThere = false := by
  cases isKnown <;> simp

/-- What is left of the imports goes down by one with each. -/
theorem left_succ (h : depth ≤ maxHops) : maxHops + 1 - depth = maxHops + 1 - (depth + 1) + 1 := by
  omega

/-- Wildcard imports are tried up to the first one that is of use. -/
theorem Pending.tells_stars (h : g.Pending depth q m) (himport : m.table.imports.get? m.head = none)
    {answer : String → Bool}
    (hruns : ∀ s ∈ m.table.wildcards, g.Tells (depth + 1) (m.behind s) (answer s)) :
    g.Tells depth q (m.table.wildcards.any fun star => !g.isLocal star || answer star) := by
  cases hany : m.table.wildcards.any fun star => !g.isLocal star || answer star with
  | false =>
    have hmiss : ∀ s ∈ m.table.wildcards, g.isLocal s = true ∧ answer s = false := fun s hs =>
      misses_iff.mp (Bool.not_eq_true _ ▸ List.any_eq_false.mp hany s hs)
    exact .unstarred h himport (fun s hs => (hmiss s hs).1)
      fun s hs => (hmiss s hs).2 ▸ hruns s hs
  | true =>
    obtain ⟨before, star, after, hsplit, hstar, hbefore⟩ := exists_first_of_any hany
    rw [hsplit] at hruns
    have hmiss : ∀ s ∈ before, g.isLocal s = true ∧ answer s = false := fun s hs =>
      misses_iff.mp (hbefore s hs)
    have hlocal : ∀ s ∈ before, g.isLocal s = true := fun s hs => (hmiss s hs).1
    have hearlier : ∀ s ∈ before, g.Tells (depth + 1) (m.behind s) false := fun s hs =>
      (hmiss s hs).2 ▸ hruns s (List.mem_append_left _ hs)
    cases hknown : g.isLocal star with
    | false => exact .starForeign h himport hsplit hlocal hearlier hknown
    | true =>
      rw [hknown] at hstar
      have hthere : answer star = true := hstar
      exact .starred h himport hsplit hlocal hearlier hknown
        (hthere ▸ hruns star (List.mem_append_right _ List.mem_cons_self))

/-- From every name, after any number of imports, a run comes to an end. -/
theorem tells (h : maxHops + 1 - depth = hops) : g.Tells depth q (g.existsWithin hops q) := by
  induction hops generalizing depth q with
  | zero =>
    have hend : g.existsWithin 0 q = g.modules.contains q := rfl
    rw [hend]
    cases hnew : g.modules.contains q with
    | true => exact .module hnew
    | false => exact .deep hnew (by omega)
  | succ hops ih =>
    have hdepth : depth ≤ maxHops := by omega
    have hnext : maxHops + 1 - (depth + 1) = hops := by omega
    cases hm : g.member? q with
    | none =>
      rw [existsWithin_uncut hm]
      cases hnew : g.modules.contains q with
      | true => exact .module hnew
      | false => exact .uncut hnew hdepth hm
    | some m =>
    rw [existsWithin_cut hm]
    cases hnew : g.modules.contains q with
    | true => exact .module hnew
    | false =>
    cases hbound : m.isBound g with
    | true => exact .bound hdepth hm hbound
    | false =>
    have hpending : g.Pending depth q m := ⟨hnew, hdepth, hm, hbound⟩
    rw [Bool.false_or, Bool.false_or]
    cases himport : m.table.imports.get? m.head with
    | some target =>
      rw [Option.elim_some]
      cases hlocal : g.isLocal target with
      | false => exact .foreign hpending himport hlocal
      | true => exact .imported hpending himport hlocal (ih hnext)
    | none =>
      rw [Option.elim_none]
      exact hpending.tells_stars himport fun _ _ => ih hnext

theorem Pending.existsWithin (h : g.Pending depth q m) :
    g.existsWithin (maxHops + 1 - depth) q =
      (m.table.imports.get? m.head).elim
        (m.table.wildcards.any fun star =>
          !g.isLocal star || g.existsWithin (maxHops + 1 - (depth + 1)) (m.behind star))
        fun target => !g.isLocal target ||
          g.existsWithin (maxHops + 1 - (depth + 1)) (extend target (joinDotted m.rest)) := by
  rw [left_succ h.within, existsWithin_cut h.cut, h.new, h.unbound, Bool.false_or, Bool.false_or]

/-- A run of the look-up of a name has the answer of the registry. -/
theorem Tells.answer {answer : Bool} (h : g.Tells depth q answer) :
    g.existsWithin (maxHops + 1 - depth) q = answer := by
  induction h with
  | @module depth q hmodule =>
    cases maxHops + 1 - depth with
    | zero => exact hmodule
    | succ hops => rw [Registry.existsWithin, hmodule, Bool.true_or]
  | @deep depth q hnew hdepth =>
    rw [show maxHops + 1 - depth = 0 by omega]
    exact hnew
  | @uncut depth q hnew hdepth hm => rw [left_succ hdepth, existsWithin_uncut hm, hnew]
  | @bound depth q m hdepth hm hbound =>
    rw [left_succ hdepth, existsWithin_cut hm, hbound, Bool.or_true, Bool.true_or]
  | foreign hpending himport hlocal =>
    rw [hpending.existsWithin, himport, Option.elim_some, hlocal]
    rfl
  | imported hpending himport hlocal _ ih =>
    rw [hpending.existsWithin, himport, Option.elim_some, hlocal, ih]
    rfl
  | @starForeign depth q star before after m hpending himport hstars _ _ hlocal _ =>
    rw [hpending.existsWithin, himport, Option.elim_none, List.any_eq_true]
    exact ⟨star, by simp [hstars], by rw [hlocal]; rfl⟩
  | @starred depth q star before after m hpending himport hstars _ _ hlocal _ _ ih =>
    rw [hpending.existsWithin, himport, Option.elim_none, List.any_eq_true]
    exact ⟨star, by simp [hstars], by rw [ih, Bool.or_true]⟩
  | @unstarred depth q m hpending himport hlocal _ ih =>
    rw [hpending.existsWithin, himport, Option.elim_none, List.any_eq_false]
    intro s hs
    rw [hlocal s hs, ih s hs]
    exact Bool.false_ne_true

/-- The runs of the look-up of a name: there is one, with the answer of the registry. -/
theorem tells_iff {answer : Bool} : g.Tells 0 q answer ↔ answer = g.nameExists q :=
  ⟨fun h => h.answer.symm, fun h => h ▸ tells rfl⟩

/-- There is no class behind a name that is no module. -/
theorem findClassWithin_unknown {module name : String} (hq : splitLast q = (module, name))
    (ht : g.module? module = none) (hops : Nat) : g.findClassWithin (hops + 1) q = none := by
  rw [Registry.findClassWithin, hq]
  dsimp only
  rw [ht]

/-- From every name, after any number of imports, a run comes to an end. -/
theorem finds (h : maxHops + 1 - depth = hops) : g.Finds depth q (g.findClassWithin hops q) := by
  induction hops generalizing depth q with
  | zero => exact .deep (by omega)
  | succ hops ih =>
    have hdepth : depth ≤ maxHops := by omega
    have hnext : maxHops + 1 - (depth + 1) = hops := by omega
    cases hq : splitLast q with
    | mk module name =>
    cases ht : g.module? module with
    | none =>
      rw [findClassWithin_unknown hq ht]
      exact .unknown hdepth hq ht
    | some t =>
    rw [findClassWithin_step hq ht]
    cases hclass : t.classes.contains name with
    | true => exact .own hdepth hq ht hclass
    | false =>
    rw [if_neg Bool.false_ne_true]
    cases himport : t.imports.get? name with
    | some target => exact .imported hdepth hq ht hclass himport (ih hnext)
    | none =>
      rw [Option.elim_none]
      cases hfind : t.wildcards.findSome? fun star =>
          g.findClassWithin hops (star ++ "." ++ name) with
      | none =>
        have hmiss := List.findSome?_eq_none_iff.mp hfind
        exact .unstarred hdepth hq ht hclass himport fun s hs => hmiss s hs ▸ ih hnext
      | some key =>
        obtain ⟨before, star, after, hsplit, hstar, hbefore⟩ := List.findSome?_eq_some_iff.mp hfind
        exact .starred hdepth hq ht hclass himport hsplit (fun s hs => hbefore s hs ▸ ih hnext)
          (hstar ▸ ih hnext)

/-- A run of the look-up of a class finds what the registry finds. -/
theorem Finds.found {found : Option ClassKey} (h : g.Finds depth q found) :
    g.findClassWithin (maxHops + 1 - depth) q = found := by
  induction h with
  | @deep depth q hdepth =>
    rw [show maxHops + 1 - depth = 0 by omega]
    rfl
  | unknown hdepth hq ht => rw [left_succ hdepth, findClassWithin_unknown hq ht]
  | own hdepth hq ht hclass => rw [left_succ hdepth, findClassWithin_step hq ht, if_pos hclass]
  | imported hdepth hq ht hclass himport _ ih =>
    rw [left_succ hdepth, findClassWithin_step hq ht, hclass, if_neg Bool.false_ne_true, himport,
      Option.elim_some, ih]
  | starred hdepth hq ht hclass himport hstars _ _ ihbefore ih =>
    rw [left_succ hdepth, findClassWithin_step hq ht, hclass, if_neg Bool.false_ne_true, himport,
      Option.elim_none]
    exact List.findSome?_eq_some_iff.mpr ⟨_, _, _, hstars, ih, ihbefore⟩
  | unstarred hdepth hq ht hclass himport _ ih =>
    rw [left_succ hdepth, findClassWithin_step hq ht, hclass, if_neg Bool.false_ne_true, himport,
      Option.elim_none]
    exact List.findSome?_eq_none_iff.mpr ih

/-- The runs of the look-up of a class: there is one, and it finds what the registry finds. -/
theorem finds_iff {found : Option ClassKey} : g.Finds 0 q found ↔ found = g.findClass q :=
  ⟨fun h => h.found.symm, fun h => h ▸ finds rfl⟩

/-! ## 3. Circles -/

/-- The names only lead to one another: none of them is a module, each is cut after a module that
does not have the part behind the cut, and what it is imported from is a name of the circle in a
known package. -/
def Circles (g : Registry) (circle : String → Prop) : Prop :=
  ∀ q, circle q → g.modules.contains q = false ∧ ∃ m, g.member? q = some m ∧ m.isBound g = false ∧
    (∀ target, m.table.imports.get? m.head = some target →
      g.isLocal target = true ∧ circle (extend target (joinDotted m.rest))) ∧
    (m.table.imports.get? m.head = none →
      ∀ star ∈ m.table.wildcards, g.isLocal star = true ∧ circle (m.behind star))

/-- Whether a name leads to names of the list, and to nothing else. -/
def circlesIn (g : Registry) (names : List String) (q : String) : Bool :=
  !g.modules.contains q && (g.member? q).any fun m => !m.isBound g &&
    (m.table.imports.get? m.head).elim
      (m.table.wildcards.all fun star => g.isLocal star && names.contains (m.behind star))
      fun target => g.isLocal target && names.contains (extend target (joinDotted m.rest))

namespace Circles

variable {circle : String → Prop}

/-- For finitely many names it can be computed whether they only lead to one another. -/
theorem of_list {names : List String} (h : names.all (g.circlesIn names) = true) :
    g.Circles (· ∈ names) := by
  intro q hq
  have hcircles := List.all_eq_true.mp h q hq
  unfold circlesIn at hcircles
  rw [Bool.and_eq_true, Option.any_eq_true] at hcircles
  obtain ⟨hnew, m, hm, hcircles⟩ := hcircles
  rw [Bool.and_eq_true, Bool.not_eq_true'] at hcircles
  refine ⟨Bool.not_eq_true' .. |>.mp hnew, m, hm, hcircles.1, fun target himport => ?_,
    fun himport star hstar => ?_⟩
  · have hnext := hcircles.2
    rw [himport, Option.elim_some, Bool.and_eq_true, List.contains_iff_mem] at hnext
    exact hnext
  · have hnext := hcircles.2
    rw [himport, Option.elim_none, List.all_eq_true] at hnext
    have hstar := hnext star hstar
    rwa [Bool.and_eq_true, List.contains_iff_mem] at hstar

/-- No name of a circle is there, through however many imports it is followed. -/
theorem existsWithin (h : g.Circles circle) (hq : circle q) (hops : Nat) :
    g.existsWithin hops q = false := by
  induction hops generalizing q with
  | zero => exact (h q hq).1
  | succ hops ih =>
    obtain ⟨hnew, m, hm, hbound, himported, hstarred⟩ := h q hq
    rw [existsWithin_cut hm, hnew, hbound, Bool.false_or, Bool.false_or]
    cases himport : m.table.imports.get? m.head with
    | some target =>
      obtain ⟨hlocal, hnext⟩ := himported target himport
      rw [Option.elim_some, hlocal, ih hnext]
      rfl
    | none =>
      rw [Option.elim_none, List.any_eq_false]
      intro star hstar
      obtain ⟨hlocal, hnext⟩ := hstarred himport star hstar
      rw [hlocal, ih hnext]
      exact Bool.false_ne_true

/-- No name of a circle is a class, through however many imports it is followed. -/
theorem findClassWithin (h : g.Circles circle) (hg : g.Holds sources) (hq : circle q) (hops : Nat) :
    g.findClassWithin hops q = none := by
  induction hops generalizing q with
  | zero => rfl
  | succ hops ih =>
    obtain ⟨-, m, hm, hbound, himported, hstarred⟩ := h q hq
    have hdefined := (Bool.or_eq_false_iff.mp hbound).1
    by_cases hrest : m.rest = []
    · have ht := memberFrom_table hm
      rw [findClassWithin_step (splitLast_member hm hrest) ht, if_neg (hg.not_class ht hdefined)]
      cases himport : m.table.imports.get? m.head with
      | some target =>
        have hnext := (himported target himport).2
        rw [hrest] at hnext
        exact ih hnext
      | none =>
        refine List.findSome?_eq_none_iff.mpr fun star hstar => ?_
        have hnext := (hstarred himport star hstar).2
        unfold Member.behind at hnext
        rw [hrest] at hnext
        exact ih hnext
    · exact findClassWithin_none hm hrest _

end Circles

/-! ## 4. Both look-ups -/

/-- Both look-ups follow a name that is handed on to its class through up to eight imports, and no
further. From every name each of them comes to an end with one answer, however the modules import
from each other, and names that only lead to one another are not there. -/
theorem lookups_agree (hg : g.Holds sources) :
    (∀ k q key, g.Relayed k q key →
      (g.nameExists q = true ↔ g.findClass q = some key) ∧ (g.findClass q = some key ↔ k ≤ 8)) ∧
    (∀ q, (∀ answer, g.Tells 0 q answer ↔ answer = g.nameExists q) ∧
      ∀ found, g.Finds 0 q found ↔ found = g.findClass q) ∧
    ∀ circle, g.Circles circle → ∀ q, circle q → g.nameExists q = false ∧ g.findClass q = none :=
  ⟨fun _ _ _ h => h.agree hg, fun _ => ⟨fun _ => tells_iff, fun _ => finds_iff⟩,
    fun _ h _ hq => ⟨h.existsWithin hq _, h.findClassWithin hg hq _⟩⟩

/-- Nine modules that hand a name on to a tenth one, which has the class; two modules that import a
name from each other, and two that import all names from each other. -/
def relays : List Source :=
  [⟨encode "from b import A\n", "a", "a.py", false⟩,
    ⟨encode "from c import A\n", "b", "b.py", false⟩,
    ⟨encode "from d import A\n", "c", "c.py", false⟩,
    ⟨encode "from e import A\n", "d", "d.py", false⟩,
    ⟨encode "from f import A\n", "e", "e.py", false⟩,
    ⟨encode "from g import A\n", "f", "f.py", false⟩,
    ⟨encode "from h import A\n", "g", "g.py", false⟩,
    ⟨encode "from i import A\n", "h", "h.py", false⟩,
    ⟨encode "from j import A\n", "i", "i.py", false⟩,
    ⟨encode "class A: pass\n", "j", "j.py", false⟩,
    ⟨encode "from l import X\n", "k", "k.py", false⟩,
    ⟨encode "from k import X\n", "l", "l.py", false⟩,
    ⟨encode "from n import *\n", "m", "m.py", false⟩,
    ⟨encode "from m import *\n", "n", "n.py", false⟩]

/-- The registry of these modules. -/
def relayRegistry : Registry := ⟨⟨relays.map Source.entry⟩, .empty⟩

/-- Each of the modules and the next one. -/
def relayPairs : List (String × String) :=
  [("a", "b"), ("b", "c"), ("c", "d"), ("d", "e"), ("e", "f"), ("f", "g"), ("g", "h"), ("h", "i"),
    ("i", "j")]

set_option maxRecDepth 100000 in
/-- Eight imports lead to the class and nine do not, and there is nothing in the circles. -/
theorem lookups_agree_relays :
    relayRegistry.Holds relays ∧
      (relayRegistry.Relayed 8 "b.A" ⟨"j", "A"⟩ ∧ relayRegistry.nameExists "b.A" = true ∧
        relayRegistry.findClass "b.A" = some ⟨"j", "A"⟩) ∧
      (relayRegistry.Relayed 9 "a.A" ⟨"j", "A"⟩ ∧ ¬ relayRegistry.nameExists "a.A" = true ∧
        ¬ relayRegistry.findClass "a.A" = some ⟨"j", "A"⟩) ∧
      relayRegistry.Circles (· ∈ ["k.X", "l.X", "m.Y", "n.Y"]) ∧
      relayRegistry.nameExists "k.X" = false ∧ relayRegistry.nameExists "m.Y" = false := by
  have hsources : relayRegistry.Holds relays := rfl
  have hpasses : ∀ p ∈ relayPairs, relayRegistry.modules.contains (p.1 ++ "." ++ "A") = false ∧
      (relayRegistry.module? p.1).map (fun t => (t.definitions.contains "A", t.imports.get? "A")) =
        some (false, some (p.2 ++ "." ++ "A")) := by decide +kernel
  have hlast : relayRegistry.modules.contains ("j" ++ "." ++ "A") = false ∧
      (relayRegistry.module? "j").map (·.classes.contains "A") = some true := by decide +kernel
  have hcircles : relayRegistry.Circles (· ∈ ["k.X", "l.X", "m.Y", "n.Y"]) :=
    .of_list (by decide +kernel)
  have hname : '.' ∉ "A".toList := by decide
  have hown : relayRegistry.Relayed 0 ("j" ++ "." ++ "A") ⟨"j", "A"⟩ := by
    obtain ⟨t, ht, hclass⟩ := Option.map_eq_some_iff.mp hlast.2
    exact .own hname hlast.1 ht hclass
  have hpass : ∀ (k : Nat) (p : String × String), p ∈ relayPairs →
      relayRegistry.Relayed k (p.2 ++ "." ++ "A") ⟨"j", "A"⟩ →
        relayRegistry.Relayed (k + 1) (p.1 ++ "." ++ "A") ⟨"j", "A"⟩ := by
    intro k p hp hnext
    obtain ⟨hnew, htold⟩ := hpasses p hp
    obtain ⟨t, ht, e⟩ := Option.map_eq_some_iff.mp htold
    rw [Prod.mk.injEq] at e
    exact .passed hname hnew ht e.1 e.2 hnext
  have height : relayRegistry.Relayed 8 "b.A" ⟨"j", "A"⟩ :=
    hpass 7 ("b", "c") (by decide) <| hpass 6 ("c", "d") (by decide) <|
      hpass 5 ("d", "e") (by decide) <| hpass 4 ("e", "f") (by decide) <|
      hpass 3 ("f", "g") (by decide) <| hpass 2 ("g", "h") (by decide) <|
      hpass 1 ("h", "i") (by decide) <| hpass 0 ("i", "j") (by decide) hown
  have hnine : relayRegistry.Relayed 9 "a.A" ⟨"j", "A"⟩ := hpass 8 ("a", "b") (by decide) height
  obtain ⟨hrelayed, -, hround⟩ := lookups_agree hsources
  obtain ⟨hexists, hfind⟩ := hrelayed 8 _ _ height
  obtain ⟨hexists', hfind'⟩ := hrelayed 9 _ _ hnine
  have hfound := hfind.mpr (by decide)
  have hlost := mt hfind'.mp (by decide)
  exact ⟨hsources, ⟨height, hexists.mpr hfound, hfound⟩, ⟨hnine, mt hexists'.mp hlost, hlost⟩,
    hcircles, (hround _ hcircles "k.X" (by decide)).1, (hround _ hcircles "m.Y" (by decide)).1⟩

end Registry

end FluentBuilders
