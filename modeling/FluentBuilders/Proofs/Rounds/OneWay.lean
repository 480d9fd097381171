import FluentBuilders.Proofs.Publication
import FluentBuilders.Proofs.Registry.Order
import FluentBuilders.Proofs.Registry.Widening
import FluentBuilders.Proofs.Rounds.Collision
import FluentBuilders.Proofs.Rounds.Keeping

/-!
What is missing for a declaration from one round to the next.

1. `once_widens`: a round leaves a registry with more modules, all of which have names.
2. `run_one_way`: feeding the builders of a round back makes a symbol missing only where the look-up of a
   name meets one of them, and a declaration that is ready stays so up to such a round.
3. `run_turns_back`: a builder that opens a package of its own, into which a name was trusted to lead.
-/

namespace FluentBuilders

open Text Relation

namespace Rounds

variable {σ : Type} {env : Surroundings σ} {profile : Profile} {g : Registry} {world world' : σ}
  {round : Nat} {s s' : State σ} {next : Next}

/-! ## 1. The registry after a round -/

/-- A round leaves a registry with more modules, all of which have names. -/
theorem once_widens (hg : g.Loaded) (h : Reaches env profile g world round s)
    (honce : once env profile round s = (.ok (s', next), world')) :
    s.registry.Widens s'.registry := by
  obtain ⟨names, haccount⟩ := h.account hg
  have hsound' := (once_stepped honce).1.registry.sound (haccount.registry.report profile.marker)
  obtain ⟨more, hmore, hnew⟩ := once_new honce
  refine ⟨⟨more, hmore.symm⟩, fun hempty => ?_⟩
  obtain ⟨entry, hentry, hname⟩ := List.mem_map.mp hempty
  rw [hmore] at hentry
  rcases List.mem_append.mp hentry with hold | hentry
  · exact List.mem_map.mpr ⟨entry, hold, hname⟩
  · -- the name of a builder's module is not empty
    exfalso
    obtain ⟨a, ha, path, htable⟩ := hnew entry hentry
    obtain ⟨d, -, hmade⟩ := Scan.through_made _ _ _ _ ha
    have hmodule : entry.2.module = a.module := by
      rw [htable]
      exact (SymbolTable.ofParsed_grows ..).1
    refine (generate_isModuleName hmade).ne_empty ?_
    rw [← hmodule, hsound'.named entry (hmore ▸ List.mem_append_right _ hentry), hname]

/-- A run starts each of its rounds in one state. -/
theorem Reaches.unique (h : Reaches env profile g world round s)
    (h' : Reaches env profile g world round s') : s = s' := by
  induction h generalizing s' with
  | start =>
    cases h' with
    | start => rfl
    | again hbefore _ => exact absurd hbefore.rounds (by omega)
  | again hbefore honce ih =>
    cases h' with
    | start => exact absurd hbefore.rounds (by omega)
    | again hbefore' honce' =>
      rw [← ih hbefore', honce] at honce'
      cases honce'
      rfl

/-- In a round a declaration is ready if it is so in the registry that the round starts with. -/
theorem Reaches.isReady (hg : g.Loaded) (h : Reaches env profile g world round s) (d : Declaration) :
    (answering profile.marker s).isReady d = .ok (s.registry.isReady d) := by
  obtain ⟨names, haccount⟩ := h.account hg
  exact congrArg Except.ok (haccount.registry.report_isReady profile.marker d)

/-! ## 2. One way -/

/-- A declaration of a loaded module lacks no symbol after a round that it did not lack before, and a
declaration that is ready in one round is ready in every later one, unless a round overturns what was
there at its class or at a class below it. -/
theorem run_one_way (hg : g.Loaded) (d : Declaration) :
    (∀ round s s' next world', Reaches env profile g world round s →
      once env profile round s = (.ok (s', next), world') → d.module ∈ s.registry.names →
      ∀ symbol ∈ s'.registry.unresolvedSymbols d, symbol ∈ s.registry.unresolvedSymbols d ∨
        s.registry.Overturns s'.registry (Registry.keyOf d)) ∧
    ∀ first s₁ second s₂, Reaches env profile g world first s₁ →
      Reaches env profile g world second s₂ → first ≤ second →
      (answering profile.marker s₁).isReady d = .ok true →
      (answering profile.marker s₂).isReady d = .ok true ∨
        ∃ round s s' world', first ≤ round ∧ round < second ∧ Reaches env profile g world round s ∧
          once env profile round s = (.ok (s', .again), world') ∧
          s.registry.Overturns s'.registry (Registry.keyOf d) := by
  refine ⟨fun round s s' next world' h honce hmodule =>
    (once_widens hg h honce).unresolvedSymbols hmodule, ?_⟩
  intro first s₁ second s₂ h₁ h₂ hle hready
  rw [h₁.isReady hg, Except.ok.injEq] at hready
  rw [h₂.isReady hg, Except.ok.injEq]
  -- by induction on the later round
  induction h₂ with
  | start =>
    have hfirst : first = 1 := by
      have hrounds := h₁.rounds
      omega
    subst hfirst
    rw [Reaches.start.unique h₁]
    exact .inl hready
  | @again round s s' world' hbefore honce ih =>
    rcases Nat.lt_or_ge round first with hlt | hge
    · have hsame : first = round + 1 := by omega
      subst hsame
      rw [(hbefore.again honce).unique h₁]
      exact .inl hready
    · rcases ih hge with hready' | ⟨round', s₀, s₀', world₀, hfrom, hto, hbefore₀, honce₀, hoverturns⟩
      · exact ((once_widens hg hbefore honce).isReady hready').imp_right fun hoverturns =>
          ⟨round, s, s', world', hge, Nat.lt_succ_self round, hbefore, honce, hoverturns⟩
      · exact .inr ⟨round', s₀, s₀', world₀, hfrom, Nat.lt_succ_of_lt hto, hbefore₀, honce₀, hoverturns⟩

/-! ## 3. A builder that opens a package -/

/-- A class with a base that its own builder is trusted to have, and beside it a class that waits for
another base; in a second module a class below the first one, and one that has nothing to do with it. -/
def opened : Registry :=
  let first := "from builder_gen.marker import builder\nfrom foo_builder import Thing\n" ++
    "@builder\nclass Foo(Thing): pass\n@builder\nclass Stray(Missing): pass\n"
  let second := "from foo_builder import Foo\nclass Baz(Foo): pass\nclass Kept: pass\n" ++
    "class Qux(Kept): pass\n"
  ⟨⟨[("a", .ofParsed (.ofText first "a.py") "a" false),
    ("b", .ofParsed (.ofText second "b.py") "b" false)]⟩, .empty⟩

theorem opened_loaded : opened.Loaded :=
  (Registry.Loaded.empty.add_ok List.not_mem_nil _ _ _).add_ok
    (show "b" ∉ ["a"] by decide) _ _ _

/-- The state before the first round. -/
def beforeOpened : State Unit := ⟨opened, (), [], .empty⟩

/-- The declaration of a class in one of the two modules. -/
def openedClass (module name : String) : Declaration := ⟨"", name, module, [], .resolved, []⟩

set_option maxRecDepth 100000 in
/-- Before the round all but one of the classes are ready. -/
theorem opened_ready :
    opened.unresolvedSymbols (openedClass "a" "Foo") = [] ∧
      opened.isReady (openedClass "a" "Foo") = true ∧
      opened.unresolvedSymbols (openedClass "b" "Baz") = [] ∧
      opened.isReady (openedClass "b" "Qux") = true := by
  decide +kernel

set_option maxRecDepth 100000 in
/-- What the look-ups of the last class and of its base ask for. -/
theorem opened_asked :
    (opened.classAt? ⟨"b", "Qux"⟩).map (fun r =>
        (r.2.uses, r.2.bases, opened.askedFor r.1 "Kept", opened.checkName r.1 "Kept")) =
      some (["Kept"], ["Kept"], ["b.Kept"], some "b.Kept") ∧
    opened.askedClass (Registry.maxHops + 1) "b.Kept" = ["b.Kept"] ∧
    opened.findClass "b.Kept" = some ⟨"b", "Kept"⟩ ∧
    (opened.classAt? ⟨"b", "Kept"⟩).map (fun r => r.2.uses) = some [] := by
  decide +kernel

set_option maxRecDepth 100000 in
/-- The round brings in the builder of the first class, and its package with it. -/
theorem opened_round :
    (once undisturbed .standard 1 beforeOpened).1.toOption.map (fun r =>
        (r.2, r.1.registry.names, r.1.registry.unresolvedSymbols (openedClass "a" "Foo"),
          r.1.registry.unresolvedSymbols (openedClass "b" "Baz"))) =
      some (.again, ["a", "b", "foo_builder"], ["Thing"], ["Thing"]) := by
  decide +kernel

/-- The states at which the first two rounds start. -/
theorem opened_reaches : ∃ s, once undisturbed .standard 1 beforeOpened = (.ok (s, .again), ()) ∧
    s.registry.names = ["a", "b", "foo_builder"] ∧
    s.registry.unresolvedSymbols (openedClass "a" "Foo") = ["Thing"] ∧
    s.registry.unresolvedSymbols (openedClass "b" "Baz") = ["Thing"] := by
  obtain ⟨⟨s, next⟩, hok, h⟩ := Option.map_eq_some_iff.mp opened_round
  simp only [Prod.mk.injEq] at h
  obtain ⟨rfl, hnames, hfoo, hbaz⟩ := h
  refine ⟨s, ?_, hnames, hfoo, hbaz⟩
  cases honce : once undisturbed .standard 1 beforeOpened with
  | mk result world =>
    rw [honce] at hok
    cases result with
    | error e => cases hok
    | ok r =>
      cases hok
      rfl

/-- Nothing happens to the last class. -/
theorem opened_apart {g' : Registry} (hnames : g'.names = ["a", "b", "foo_builder"]) :
    ¬ opened.Overturns g' ⟨"b", "Qux"⟩ := by
  obtain ⟨hqux, hclass, hfind, hkept⟩ := opened_asked
  obtain ⟨⟨t, info⟩, hqux, hlooked⟩ := Option.map_eq_some_iff.mp hqux
  obtain ⟨⟨t', info'⟩, hkept, huses'⟩ := Option.map_eq_some_iff.mp hkept
  simp only [Prod.mk.injEq] at hlooked
  obtain ⟨huses, hbases, hasked, hcheck⟩ := hlooked
  have henters : ¬ opened.Enters g' "b.Kept" := by
    unfold Registry.Enters
    rw [hnames]
    decide +kernel
  have hmeets : ¬ opened.Meets g' t "Kept" := by
    rintro ⟨p, hp, h⟩
    rw [hasked, List.mem_singleton] at hp
    exact henters (hp ▸ h)
  have hmeetsClass : ¬ opened.MeetsClass g' t "Kept" := by
    rintro (h | ⟨qualified, hqualified, p, hp, h⟩)
    · exact hmeets h
    · rw [hcheck] at hqualified
      cases hqualified
      rw [hclass, List.mem_singleton] at hp
      exact henters (hp ▸ h)
  rintro ⟨k, t₁, info₁, hreach, hclass₁, h⟩
  rcases hreach.cases_head with rfl | ⟨k', hextends, hreach⟩
  · rw [hqux, Option.some.injEq, Prod.mk.injEq] at hclass₁
    obtain ⟨rfl, rfl⟩ := hclass₁
    rcases h with ⟨name, hname, -, -, h⟩ | ⟨base, hbase, h, -⟩
    · rw [huses, List.mem_singleton] at hname
      exact hmeets (hname ▸ h)
    · rw [hbases, List.mem_singleton] at hbase
      exact hmeetsClass (hbase ▸ h)
  · -- the base looks nothing up
    obtain ⟨base, hbase, hbaseKey⟩ := (Registry.extends_iff hqux).mp hextends
    rw [hbases, List.mem_singleton] at hbase
    rw [hbase, hcheck, Option.bind_some, hfind] at hbaseKey
    cases hbaseKey
    have hnone : info'.bases = [] := (List.append_eq_nil_iff.mp huses').2
    rcases hreach.cases_head with rfl | ⟨k', hextends, -⟩
    · rw [hkept, Option.some.injEq, Prod.mk.injEq] at hclass₁
      obtain ⟨rfl, rfl⟩ := hclass₁
      rcases h with ⟨name, hname, -⟩ | ⟨base, hbase, -⟩
      · rw [huses'] at hname
        cases hname
      · rw [hnone] at hbase
        cases hbase
    · obtain ⟨base, hbase, -⟩ := (Registry.extends_iff hkept).mp hextends
      rw [hnone] at hbase
      cases hbase

/-- A class that looks nothing up in the new package lacks nothing after the round, and stays ready. -/
theorem run_one_way_apart : opened.Loaded ∧ ∃ s, Reaches undisturbed .standard opened () 2 s ∧
    (∀ symbol ∈ s.registry.unresolvedSymbols (openedClass "b" "Qux"),
      symbol ∈ opened.unresolvedSymbols (openedClass "b" "Qux")) ∧
    (answering Profile.standard.marker beforeOpened).isReady (openedClass "b" "Qux") = .ok true ∧
    (answering Profile.standard.marker s).isReady (openedClass "b" "Qux") = .ok true := by
  obtain ⟨s, honce, hnames, -⟩ := opened_reaches
  obtain ⟨-, -, -, hready⟩ := opened_ready
  have hstart : Reaches undisturbed .standard opened () 1 beforeOpened := .start
  have hquiet := opened_apart hnames
  obtain ⟨hsymbols, hlater⟩ := @run_one_way Unit undisturbed .standard opened ()
    opened_loaded (openedClass "b" "Qux")
  have hready₁ : (answering Profile.standard.marker beforeOpened).isReady (openedClass "b" "Qux") =
      .ok true := by
    rw [hstart.isReady opened_loaded]
    exact congrArg Except.ok hready
  refine ⟨opened_loaded, s, hstart.again honce, fun symbol hsymbol => ?_, hready₁, ?_⟩
  · exact (hsymbols 1 _ s _ _ hstart honce (by decide +kernel) symbol hsymbol).resolve_right hquiet
  · refine (hlater 1 _ 2 s hstart (hstart.again honce) (by decide) hready₁).resolve_right ?_
    rintro ⟨round, s₀, s₀', world', hfrom, hto, hbefore, honce₀, hoverturns⟩
    obtain rfl : round = 1 := by omega
    cases hbefore.unique hstart
    rw [honce] at honce₀
    cases honce₀
    exact hquiet hoverturns

/-- A builder opens the package that a name was trusted to lead into: the class of this name is ready
before the round and lacks it afterwards, and so does the class below it. -/
theorem run_turns_back : opened.Loaded ∧ ∃ s, Reaches undisturbed .standard opened () 2 s ∧
    opened.unresolvedSymbols (openedClass "a" "Foo") = [] ∧
    s.registry.unresolvedSymbols (openedClass "a" "Foo") = ["Thing"] ∧
    opened.unresolvedSymbols (openedClass "b" "Baz") = [] ∧
    s.registry.unresolvedSymbols (openedClass "b" "Baz") = ["Thing"] ∧
    (answering Profile.standard.marker beforeOpened).isReady (openedClass "a" "Foo") = .ok true ∧
    (answering Profile.standard.marker s).isReady (openedClass "a" "Foo") = .ok false := by
  obtain ⟨s, honce, -, hfoo, hbaz⟩ := opened_reaches
  obtain ⟨hfoo₀, hready, hbaz₀, -⟩ := opened_ready
  have hstart : Reaches undisturbed .standard opened () 1 beforeOpened := .start
  refine ⟨opened_loaded, s, hstart.again honce, hfoo₀, hfoo, hbaz₀, hbaz, ?_, ?_⟩
  · rw [hstart.isReady opened_loaded]
    exact congrArg Except.ok hready
  · rw [(hstart.again honce).isReady opened_loaded, Except.ok.injEq, ← Bool.not_eq_true,
      Registry.isReady_iff_symbols, hfoo]
    exact List.cons_ne_nil _ _

end Rounds

end FluentBuilders
