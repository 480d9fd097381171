import FluentBuilders.Proofs.Rounds.Collision
import FluentBuilders.Proofs.Scan.Order

/-!
Which of the marked definitions of one name a run works on: the one that stands first in its module,
a nested class or a function as well as the class itself.

1. What a round that nobody cuts short says of one declaration.
2. `SymbolTable.foremost?`, and the report: under a name it lists the foremost definition first.
3. `Foremost`: the candidates of all rounds are foremost.
4. `foremost_judged`: what becomes of them.
5. `class_suppressed`: a nested class in front of the class that it shares its name with.
-/

namespace FluentBuilders

open Text

/-! ## 1. One declaration of a round -/

/-- An invalid declaration is discarded for the reasons that it came with. -/
theorem judge_invalid {d : Declaration} (h : d.state = .invalid) (hreasons : d.invalidReasons ≠ [])
    (r : Resolver) (claimed : Table String) :
    judge r claimed d = (.without d .invalid d.invalidReasons none, none) := by
  have hgate : d.gate r = .ok (.invalid, d.invalidReasons) := by
    unfold Declaration.gate
    rw [if_pos h, if_neg (by simpa using hreasons)]
  unfold judge
  rw [hgate]

namespace Scan

section Whole

variable {r : Resolver} {signal : List Declaration → Bool} {ds : List Declaration} {d : Declaration}

/-- A round that nobody cuts short judges each of its declarations. -/
theorem through_judged (hsignal : ∀ done, signal done = false) (done : List Declaration)
    (claimed : Table String) (hd : d ∈ ds) :
    ∃ claimed', (judge r claimed' d).1 ∈ (through r signal done claimed ds).outcomes := by
  induction ds generalizing done claimed with
  | nil => cases hd
  | cons e rest ih =>
    unfold through
    rw [hsignal, if_neg Bool.false_ne_true]
    rcases List.mem_cons.mp hd with rfl | hd
    · exact ⟨claimed, List.mem_cons_self⟩
    · obtain ⟨claimed', h⟩ := ih _ _ hd
      exact ⟨claimed', List.mem_cons_of_mem _ h⟩

/-- A declaration that passes gets its builder where no other declaration of the round has its
module. -/
theorem through_generated (hsignal : ∀ done, signal done = false)
    (hnames : (ds.map (·.qualifiedName)).Nodup) (hd : d ∈ ds) {a : Artifact} (h : Passes r d a)
    (hfree : ∀ b ∈ (through r signal [] .empty ds).artifacts, b.module = a.module →
      b.source = d.qualifiedName) :
    (⟨d, .generated, [], some a.module, none⟩ : Outcome) ∈ (through r signal [] .empty ds).outcomes := by
  obtain ⟨o, ho, ⟨rfl, -⟩ | ⟨-, hcut⟩ | ⟨owner, rfl, howner | ⟨b, hb, hmodule, rfl⟩⟩⟩ :=
    through_granted r signal [] .empty hd h
  · exact ho
  · rw [through_whole r hsignal] at hcut
    cases hcut
  · cases howner
  · -- the owner would be the declaration itself, which has one outcome only
    exfalso
    have haccounts := through_accounts r signal [] .empty ds
    obtain ⟨o', ho', hmakes⟩ := Outcome.Makes.maker haccounts.artifacts hb
    obtain ⟨ho', hstatus⟩ := List.mem_filter.mp ho'
    have hone : ((through r signal [] .empty ds).outcomes.map Outcome.qualifiedName).Nodup := by
      rw [← haccounts.declarations, List.map_map] at hnames
      exact hnames
    have hsame := List.inj_on_of_nodup_map hone ho' ho (hmakes.source.symm.trans (hfree b hb hmodule))
    rw [hsame] at hstatus
    cases hstatus

end Whole

end Scan

/-! ## 2. Foremost definitions -/

/-- The first definition of the name in the module that carries the marker. -/
def SymbolTable.foremost? (t : SymbolTable) (marker name : String) : Option DecoratedInfo :=
  (t.decorated.filter (Registry.isMarked t marker)).find? (·.name == name)

/-- A marked definition is foremost if no marked definition of its name stands before it. -/
theorem SymbolTable.foremost?_of_first {t : SymbolTable} {marker : String}
    {before after : List DecoratedInfo} {info : DecoratedInfo}
    (hsplit : t.decorated = before ++ info :: after) (hmarked : Registry.isMarked t marker info = true)
    (hfirst : ∀ i ∈ before, i.name = info.name → Registry.isMarked t marker i = false) :
    t.foremost? marker info.name = some info := by
  unfold foremost?
  rw [hsplit, List.filter_append, List.filter_cons_of_pos hmarked, List.find?_append]
  have hnone : (before.filter (Registry.isMarked t marker)).find? (·.name == info.name) = none := by
    refine List.find?_eq_none.mpr fun i hi hname => ?_
    obtain ⟨hi, hi'⟩ := List.mem_filter.mp hi
    rw [hfirst i hi (by simpa using hname)] at hi'
    cases hi'
  rw [hnone, List.find?_cons_of_pos (by simp)]
  rfl

namespace Registry

variable {g : Registry} {t : SymbolTable} {marker : String} {info : DecoratedInfo}

/-- A qualified name tells the module and the name of a decorated definition. -/
theorem Sound.qualify_inj (hg : g.Sound) {t' : SymbolTable} (ht : t ∈ g.modules.values)
    (ht' : t' ∈ g.modules.values) {info' : DecoratedInfo} (hinfo : info ∈ t.decorated)
    (hinfo' : info' ∈ t'.decorated)
    (h : qualify t.module info.name = qualify t'.module info'.name) :
    t = t' ∧ info.name = info'.name := by
  rw [← g.declarationOf_qualifiedName, ← g.declarationOf_qualifiedName] at h
  obtain ⟨hmodule, hname⟩ := Declaration.IsOf.of_qualifiedName
    (⟨rfl, hg.plain t ht info hinfo⟩ : (g.declarationOf t info).IsOf t.module)
    (⟨rfl, hg.plain t' ht' info' hinfo'⟩ : (g.declarationOf t' info').IsOf t'.module) h
  refine ⟨?_, hname⟩
  obtain ⟨entry, hentry, rfl⟩ := List.mem_map.mp ht
  obtain ⟨entry', hentry', rfl⟩ := List.mem_map.mp ht'
  rw [hg.named entry hentry, hg.named entry' hentry'] at hmodule
  rw [List.inj_on_of_nodup_map hg.nodup hentry hentry' hmodule]

/-- What a module reports first under a name is its foremost definition. -/
theorem Sound.find?_declarationsOf (hg : g.Sound) (ht : t ∈ g.modules.values) {name : String}
    (hfirst : t.foremost? marker name = some info) :
    (g.declarationsOf marker t).find? (fun d => d.qualifiedName == qualify t.module name) =
      some (g.declarationOf t info) := by
  obtain ⟨hname, before, after, hsplit, hbefore⟩ := List.find?_eq_some_iff_append.mp hfirst
  obtain rfl : info.name = name := by simpa using hname
  have hmarked : ∀ i ∈ before ++ info :: after, i ∈ t.decorated := fun i hi =>
    List.mem_of_mem_filter (hsplit ▸ hi)
  unfold declarationsOf
  rw [List.find?_map, Option.map_eq_some_iff]
  refine ⟨info, List.find?_eq_some_iff_append.mpr
    ⟨beq_self_eq_true _, before, after, hsplit, fun i hi => ?_⟩, rfl⟩
  -- one of the same qualified name before it would have the same name, too
  rw [Bool.not_eq_true', Function.comp_apply, beq_eq_false_iff_ne]
  intro hsame
  have hi' := hbefore i hi
  rw [(hg.qualify_inj ht ht (hmarked i (List.mem_append_left _ hi))
    (hmarked info (List.mem_append_right _ List.mem_cons_self)) hsame).2, hname] at hi'
  cases hi'

/-- What a report lists first under the name of a module that it searches is the foremost definition
there. -/
theorem Sound.find?_report (hg : g.Sound) (ht : t ∈ g.modules.values.drop (g.cursor marker))
    {name : String} (hfirst : t.foremost? marker name = some info) :
    (g.report marker).1.find? (fun d => d.qualifiedName == qualify t.module name) =
      some (g.declarationOf t info) := by
  have hthere := hg.find?_declarationsOf (List.mem_of_mem_drop ht) hfirst
  have hmem := List.mem_of_mem_filter (List.mem_of_find?_eq_some hfirst)
  obtain rfl : info.name = name := by simpa using List.find?_some hfirst
  unfold Registry.report
  rw [List.find?_flatMap]
  cases hfound : (g.modules.values.drop (g.cursor marker)).findSome? fun t' =>
      (g.declarationsOf marker t').find? (fun d => d.qualifiedName == qualify t.module info.name) with
  | none =>
    rw [List.findSome?_eq_none_iff] at hfound
    rw [hfound t ht] at hthere
    cases hthere
  | some d =>
    -- no other module reports anything under the name
    obtain ⟨t', ht', hd⟩ := List.exists_of_findSome?_eq_some hfound
    obtain ⟨i, hi, rfl⟩ := List.mem_map.mp (List.mem_of_find?_eq_some hd)
    have hq : qualify t'.module i.name = qualify t.module info.name := by
      simpa [declarationOf_qualifiedName] using List.find?_some hd
    obtain ⟨rfl, -⟩ := hg.qualify_inj (List.mem_of_mem_drop ht') (List.mem_of_mem_drop ht)
      (List.mem_of_mem_filter hi) hmem hq
    exact hd.symm.trans hthere

end Registry

/-! ## 3. Candidates -/

/-- A declaration of the foremost marked definition of its name in one of the modules. -/
def Registry.Foremost (g : Registry) (marker : String) (d : Declaration) : Prop :=
  ∃ t ∈ g.modules.values, ∃ info, t.foremost? marker d.name = some info ∧
    ∃ g' : Registry, d = g'.declarationOf t info

theorem Registry.Foremost.grows {g g' : Registry} {marker : String} {d : Declaration}
    (h : g.Foremost marker d) (hgrows : g.modules.entries <+: g'.modules.entries) :
    g'.Foremost marker d := by
  obtain ⟨t, ht, hd⟩ := h
  exact ⟨t, (hgrows.map _).subset ht, hd⟩

namespace Rounds

variable {σ : Type} {env : Surroundings σ} {profile : Profile} {g : Registry} {world : σ}
  {round : Nat} {names : List String} {s s' : State σ}

/-- Among the candidates of a round is the foremost definition of each name in each module that the
round searches. -/
theorem Account.foremost_candidate {marker : String} (h : Account marker names s) {t : SymbolTable}
    (ht : t ∈ s.registry.modules.values.drop (s.registry.cursor marker)) {name : String}
    {info : DecoratedInfo} (hfirst : t.foremost? marker name = some info) :
    s.registry.declarationOf t info ∈ work marker s := by
  have hreport := h.registry.find?_report ht hfirst
  refine mem_firstOfEach.mpr ⟨List.not_mem_nil, ?_⟩
  obtain rfl : info.name = name := by simpa using List.find?_some hfirst
  rw [s.registry.declarationOf_qualifiedName]
  have hnone : s.pending.find? (fun d => d.qualifiedName == qualify t.module info.name) = none := by
    refine List.find?_eq_none.mpr fun d hd hname => ?_
    obtain ⟨n, o, hget, -⟩ := h.pending_known (List.mem_map_of_mem hd)
    refine h.fresh (List.mem_of_find?_eq_some hreport) ?_
    rw [s.registry.declarationOf_qualifiedName, ← beq_iff_eq.mp hname]
    exact h.named hget
  rw [List.find?_append, hnone]
  exact hreport

/-- Where what waits is foremost, so are the candidates of the round. -/
theorem Account.work_foremost {marker : String} (h : Account marker names s)
    (hpending : ∀ d ∈ s.pending, s.registry.Foremost marker d) :
    ∀ d ∈ work marker s, s.registry.Foremost marker d := by
  intro d hd
  rcases mem_work hd with hmem | hmem
  · exact hpending d hmem
  obtain ⟨t, ht, hmem⟩ := List.mem_flatMap.mp hmem
  obtain ⟨i, hi, rfl⟩ := List.mem_map.mp hmem
  cases hfirst : t.foremost? marker i.name with
  | none =>
    have hnone := List.find?_eq_none.mp hfirst i hi
    exact absurd (beq_self_eq_true i.name) hnone
  | some info =>
    -- two candidates of one name are one
    have hname : info.name = i.name := by simpa using List.find?_some hfirst
    have hcandidate := h.foremost_candidate ht hfirst
    have hnodup : ((work marker s).map (·.qualifiedName)).Nodup := nodup_firstOfEach _ _
    have hsame := List.inj_on_of_nodup_map hnodup hd hcandidate (by
      rw [s.registry.declarationOf_qualifiedName, s.registry.declarationOf_qualifiedName, hname])
    exact ⟨t, List.mem_of_mem_drop ht, info, hfirst, s.registry, hsame⟩

theorem Reaches.foremost (hg : g.Loaded) (h : Reaches env profile g world round s) :
    ∀ d ∈ work profile.marker s, s.registry.Foremost profile.marker d := by
  induction h with
  | start =>
    exact (Account.start profile.marker hg.sound world).work_foremost fun d hd => by cases hd
  | @again round s s' world' hbefore honce ih =>
    obtain ⟨names, hnames⟩ := (Reaches.again hbefore honce).account hg
    refine hnames.work_foremost fun d hd => ?_
    have hstep := (once_stepped honce).1
    exact (ih d (hstep.mem_pending hd)).grows hstep.registry.modules

/-! ## 4. What becomes of the foremost definition -/

/-- In every round the candidate under the name of a foremost definition is its declaration. -/
theorem Reaches.foremost_eq (hg : g.Loaded) (h : Reaches env profile g world round s) {t : SymbolTable}
    (ht : t ∈ g.modules.values) {name : String} {info : DecoratedInfo}
    (hfirst : t.foremost? profile.marker name = some info) {d : Declaration}
    (hd : d ∈ work profile.marker s) (hname : d.qualifiedName = qualify t.module name) :
    ∃ g' : Registry, d = g'.declarationOf t info := by
  obtain ⟨names, hnames⟩ := h.account hg
  obtain rfl : info.name = name := by simpa using List.find?_some hfirst
  obtain ⟨t', ht', info', hfirst', g', hdeclaration⟩ := h.foremost hg d hd
  obtain ⟨rfl, hinfo⟩ := hnames.registry.qualify_inj ht' ((h.modules.map _).subset ht)
    (List.mem_of_mem_filter (List.mem_of_find?_eq_some hfirst'))
    (List.mem_of_mem_filter (List.mem_of_find?_eq_some hfirst))
    (by rw [← g'.declarationOf_qualifiedName, ← hdeclaration, hname])
  have hfound : d.name = info.name := by
    rw [← hinfo, hdeclaration]
    rfl
  rw [hfound, hfirst] at hfirst'
  obtain rfl := Option.some.inj hfirst'
  exact ⟨g', hdeclaration⟩

/-- A run works on the marked definition of a name that stands first in its module, from its first round
on and on no other of that name, whatever else has the name. Where it is misplaced it is discarded;
where it is a class, the class gets its builder once it is ready, if the builder can be made and no
other declaration of the round has its module. -/
theorem foremost_judged (hg : g.Loaded) {t : SymbolTable} (ht : t ∈ g.modules.values)
    {before after : List DecoratedInfo} {info : DecoratedInfo}
    (hsplit : t.decorated = before ++ info :: after)
    (hmarked : Registry.isMarked t profile.marker info = true)
    (hbefore : ∀ i ∈ before, i.name = info.name → Registry.isMarked t profile.marker i = false) :
    (∃ d ∈ work profile.marker (⟨g, world, [], .empty⟩ : State σ),
        d.qualifiedName = qualify t.module info.name) ∧
      ∀ round s, Reaches env profile g world round s → ∀ d ∈ work profile.marker s,
        d.qualifiedName = qualify t.module info.name →
          (∃ g' : Registry, d = g'.declarationOf t info) ∧
          ((∀ done, env.cancelled s.world (.scanning round done) = false) →
            (Registry.invalidReasons info ≠ [] →
              .without d .invalid (Registry.invalidReasons info) none ∈
                (scanOf env profile.marker round s).outcomes) ∧
            (info.kind = .ofClass ∧ info.topLevel = true ∧ info.hasError = false →
              (answering profile.marker s).isReady d = .ok true →
              ∀ properties, d.exposed (answering profile.marker s) = .ok properties →
              (d.blueprint properties).fault? = none →
              (∀ b ∈ (scanOf env profile.marker round s).artifacts,
                b.module = builderModule d.package d.name → b.source = d.qualifiedName) →
              (⟨d, .generated, [], some (builderModule d.package d.name), none⟩ : Outcome) ∈
                (scanOf env profile.marker round s).outcomes)) := by
  have hfirst := SymbolTable.foremost?_of_first hsplit hmarked hbefore
  constructor
  · have hstart : Account profile.marker [] (⟨g, world, [], .empty⟩ : State σ) :=
      .start profile.marker hg.sound world
    have ht' : t ∈ g.modules.values.drop (g.cursor profile.marker) := by
      rw [hg.cursor, List.drop_zero]
      exact ht
    exact ⟨_, hstart.foremost_candidate ht' hfirst, g.declarationOf_qualifiedName t info⟩
  · intro round s h d hd hname
    obtain ⟨g', hdeclaration⟩ := h.foremost_eq hg ht hfirst hd hname
    refine ⟨⟨g', hdeclaration⟩, fun hsignal => ⟨fun hmisplaced => ?_, ?_⟩⟩
    · obtain ⟨claimed, houtcome⟩ := Scan.through_judged (r := answering profile.marker s) hsignal []
        .empty hd
      have hinvalid : d.state = .invalid :=
        hdeclaration ▸ Registry.declarationOf_invalid hmisplaced
      have hreasons : d.invalidReasons = Registry.invalidReasons info := by rw [hdeclaration]; rfl
      rw [judge_invalid hinvalid (hreasons ▸ hmisplaced), hreasons] at houtcome
      exact houtcome
    · intro hclass hready properties hexposed hblueprint hfree
      have hvalid : d.state ≠ .invalid := hdeclaration ▸
        Registry.declarationOf_valid ((Registry.invalidReasons_eq_nil info).mpr hclass)
      obtain ⟨a, ha⟩ := generate_ok hexposed hblueprint (show
        (answering profile.marker s).originatingFiles d = .ok _ from rfl)
      have hmodule := (generate_spec ha).2
      have hpasses : Scan.Passes (answering profile.marker s) d a := by
        refine ⟨⟨[], ?_⟩, ha⟩
        unfold Declaration.gate Declaration.isReady
        rw [if_neg hvalid, if_neg hvalid, hready]
      rw [← hmodule] at hfree ⊢
      exact Scan.through_generated hsignal (nodup_firstOfEach _ _) hd hpasses hfree

/-! ## 5. A class behind a nested class of its name -/

/-- A module with the text `text`. -/
def alone (text : String) : Registry :=
  ⟨⟨[("p.a", .ofParsed (.ofText text "p/a.py") "p.a" false)]⟩, .empty⟩

theorem alone_loaded (text : String) : (alone text).Loaded :=
  Registry.Loaded.empty.add_ok List.not_mem_nil _ _ _

/-- A marked class in front of a nested class of its name. -/
def classFirst : Registry := alone
  "from builder_gen.marker import builder\n@builder\nclass Foo: pass\nclass Outer:\n @builder\n class Foo: pass\n"

set_option maxRecDepth 100000 in
/-- What stands in the module: the class comes first, and nothing else gets a builder. -/
theorem classFirst_table :
    (classFirst.modules.values.head?.map fun t => (t.module, t.package, t.decorated,
        t.decorated.map (Registry.isMarked t Profile.standard.marker))) =
        some ("p.a", "p", [⟨"Foo", .ofClass, 2, ["builder"], true, false⟩,
          ⟨"Foo", .ofClass, 5, ["builder"], false, false⟩], [true, true]) ∧
      (classFirst.classAt? ⟨"p.a", "Foo"⟩).map (fun r => (r.2.bases, r.2.fields)) = some ([], []) ∧
      (scanOf undisturbed Profile.standard.marker 1 ⟨classFirst, (), [], .empty⟩).artifacts.map
        (·.source) = ["p.a.Foo"] := by
  decide +kernel

/-- There the class gets its builder. -/
theorem foremost_judged_class :
    ∃ o ∈ (scanOf undisturbed Profile.standard.marker 1 ⟨classFirst, (), [], .empty⟩).outcomes,
      o.qualifiedName = "p.a.Foo" ∧ o.status = .generated := by
  obtain ⟨htable, hclass, hsources⟩ := classFirst_table
  obtain ⟨t, ht, htable⟩ := Option.map_eq_some_iff.mp htable
  simp only [Prod.mk.injEq] at htable
  obtain ⟨hmodule, hpackage, hdecorated, hmarked⟩ := htable
  rw [hdecorated, List.map_cons, List.cons.injEq] at hmarked
  obtain ⟨⟨d, hd, hname⟩, hjudged⟩ := @foremost_judged Unit undisturbed .standard classFirst ()
    (alone_loaded _) t (List.mem_of_mem_head? ht) [] _ _ hdecorated hmarked.1 (by simp)
  obtain ⟨⟨g', hdeclaration⟩, hbuilt⟩ := hjudged 1 _ .start d hd hname
  have hdmodule : d.module = "p.a" := by rw [hdeclaration]; exact hmodule
  have hdpackage : d.package = "p" := by rw [hdeclaration]; exact hpackage
  have hdname : d.name = "Foo" := by rw [hdeclaration]; rfl
  have hkey : Registry.keyOf d = ⟨"p.a", "Foo"⟩ := by rw [Registry.keyOf, hdmodule, hdname]
  obtain ⟨⟨t', info⟩, hknown, hinfo⟩ := Option.map_eq_some_iff.mp hclass
  rw [Prod.mk.injEq] at hinfo
  obtain ⟨hbases, hfields⟩ := hinfo
  dsimp only at hbases hfields
  have hknown' : (classFirst.report Profile.standard.marker).2.classAt? (Registry.keyOf d) =
      some (t', info) := by rw [hkey]; exact hknown
  obtain ⟨hready, hproperties⟩ := Registry.ready_of_plain hknown' hbases (by simp [hfields])
  rw [show Registry.ownProperties info = [] by rw [Registry.ownProperties, hfields]; rfl]
    at hproperties
  have hexposed : d.exposed (answering Profile.standard.marker ⟨classFirst, (), [], .empty⟩) =
      .ok [] := by
    unfold Declaration.exposed answering Registry.resolver
    dsimp only
    rw [hproperties]
    rfl
  have hblueprint : (d.blueprint []).fault? = none := by
    rw [Declaration.blueprint, hdpackage, hdname, hdmodule]
    decide +kernel
  have houtcome := (hbuilt fun _ => rfl).2 ⟨rfl, rfl, rfl⟩ (congrArg _ hready) [] hexposed hblueprint
    fun b hb _ => by
      have hsource : b.source ∈ ["p.a.Foo"] := hsources ▸ List.mem_map_of_mem hb
      rw [List.mem_singleton.mp hsource, hname, hmodule]
      rfl
  exact ⟨_, houtcome, hname.trans (by rw [hmodule]; rfl), rfl⟩

/-- A marked class behind a nested class of its name. -/
def nestedFirst : Registry := alone
  "from builder_gen.marker import builder\nclass Outer:\n @builder\n class Foo: pass\n@builder\nclass Foo: pass\n"

set_option maxRecDepth 100000 in
/-- The class behind the nested class is the only definition of its name at module scope and is ready,
and its builder could be made; but what is discarded under its name is the nested class, and there is no
builder. -/
theorem class_suppressed :
    nestedFirst.Loaded ∧
      (nestedFirst.modules.values.flatMap fun t =>
        (t.decorated.filter (Registry.isMarked t Profile.standard.marker)).map fun info =>
          (info.name, info.topLevel, Registry.invalidReasons info)) =
        [("Foo", false, [Reason.nestedDeclaration]), ("Foo", true, [])] ∧
      (nestedFirst.modules.values.map fun t => t.definitions) = [["Outer", "Foo"]] ∧
      nestedFirst.unresolved ⟨"p.a", "Foo"⟩ = [] ∧ nestedFirst.collect ⟨"p.a", "Foo"⟩ = [] ∧
      (scanOf undisturbed Profile.standard.marker 1 ⟨nestedFirst, (), [], .empty⟩).outcomes.map
          (fun o => (o.qualifiedName, o.status, o.reasons)) =
        [("p.a.Foo", .invalid, [Reason.nestedDeclaration])] ∧
      (scanOf undisturbed Profile.standard.marker 1 ⟨nestedFirst, (), [], .empty⟩).artifacts = [] := by
  refine ⟨alone_loaded _, ?_⟩
  decide +kernel

end Rounds

end FluentBuilders
