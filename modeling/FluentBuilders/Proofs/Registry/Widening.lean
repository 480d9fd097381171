import FluentBuilders.Proofs.Registry.Readiness
import FluentBuilders.Proofs.Text.Dotted

/-!
What a registry answers once modules have come in.

1. `asked`, `askedClass`, `askedFor`: the qualified names that are asked for when a name is looked up.
2. `Widens`: a registry with more modules. A qualified name `Enters` a new module if it is that module
   or lies below it, or in the top-level package that came with it.
3. A look-up that asks for no name that enters a new module has the answer that it had before.
4. `Overturns`: the look-up of a name that a class uses, or of the class that a base leads to, asks for such
   a name, and the name is lost, or the base leads to another class, which is not ready.
5. `Widens.unresolvedSymbols`: only so does a symbol come to be missing.
-/

namespace FluentBuilders

open Text Relation

/-! ## 1. What is asked for -/

/-- The items up to the first one that is accepted. -/
def tried {α : Type} (accepts : α → Bool) : List α → List α
  | [] => []
  | a :: rest => a :: if accepts a then [] else tried accepts rest

/-- Whether some item is accepted is decided by the items that are tried. -/
theorem any_tried {α : Type} {p p' : α → Bool} {l : List α} (h : ∀ a ∈ tried p l, p' a = p a) :
    l.any p' = l.any p := by
  induction l with
  | nil => rfl
  | cons a rest ih =>
    have ha := h a List.mem_cons_self
    rw [List.any_cons, List.any_cons, ha]
    cases hp : p a with
    | true => rfl
    | false =>
      refine ih fun b hb => h b (List.mem_cons_of_mem _ ?_)
      rw [hp]
      exact hb

theorem findSome?_tried {α β : Type} {f f' : α → Option β} {l : List α}
    (h : ∀ a ∈ tried (fun a => (f a).isSome) l, f' a = f a) : l.findSome? f' = l.findSome? f := by
  induction l with
  | nil => rfl
  | cons a rest ih =>
    have ha := h a List.mem_cons_self
    rw [List.findSome?_cons, List.findSome?_cons, ha]
    cases hf : f a with
    | some b => rfl
    | none =>
      have hnone : ¬ (f a).isSome = true := by
        rw [hf]
        exact Bool.false_ne_true
      refine ih fun b hb => h b (List.mem_cons_of_mem _ ?_)
      rw [if_neg hnone]
      exact hb

namespace Registry

variable {g g' : Registry} {t : SymbolTable} {info : ClassInfo} {name q : String}

/-- The qualified names that are asked for to see whether one names something. -/
def asked (g : Registry) : Nat → String → List String
  | 0, qualified => [qualified]
  | hops + 1, qualified =>
    qualified ::
      if g.modules.contains qualified then []
      else
        match g.member? qualified with
        | none => []
        | some m =>
          if m.table.definitions.contains m.head || g.modules.contains (m.module ++ "." ++ m.head) then
            []
          else
            match m.table.imports.get? m.head with
            | some target => asked g hops (extend target (joinDotted m.rest))
            | none =>
              (tried
                (fun star =>
                  !g.isLocal star ||
                    g.existsWithin hops (star ++ "." ++ joinDotted (m.head :: m.rest)))
                m.table.wildcards).flatMap
                fun star => asked g hops (star ++ "." ++ joinDotted (m.head :: m.rest))

/-- The qualified names that are asked for to see which class one refers to. -/
def askedClass (g : Registry) : Nat → String → List String
  | 0, _ => []
  | hops + 1, qualified =>
    let (module, name) := splitLast qualified
    qualified ::
      match g.module? module with
      | none => []
      | some t =>
        if t.classes.contains name then []
        else
          match t.imports.get? name with
          | some target => askedClass g hops target
          | none =>
            (tried (fun star => (g.findClassWithin hops (star ++ "." ++ name)).isSome)
              t.wildcards).flatMap fun star => askedClass g hops (star ++ "." ++ name)

/-- The wildcard imports that are gone through for a name which its module does not bind. -/
def triedStars (g : Registry) (t : SymbolTable) (name : String) : List String :=
  if (t.resolve name).isSome then []
  else
    tried (fun star => !g.isLocal star || g.nameExists (star ++ "." ++ (splitHead name).1))
      t.wildcards

/-- The qualified names that are asked for to see what a name of a module refers to, and whether that
is there. -/
def askedFor (g : Registry) (t : SymbolTable) (name : String) : List String :=
  ((g.triedStars t name).flatMap fun star =>
      g.asked (maxHops + 1) (star ++ "." ++ (splitHead name).1)) ++
    (g.bound t name).elim [] (g.asked (maxHops + 1))

theorem mem_asked (g : Registry) (hops : Nat) (q : String) : q ∈ g.asked hops q := by
  cases hops <;> exact List.mem_cons_self

/-! ## 2. More modules -/

/-- The second registry has the modules of the first one in their places, and perhaps more, none of them
without a name. -/
structure Widens (g g' : Registry) : Prop where
  modules : g.modules.entries <+: g'.modules.entries
  named : "" ∈ g'.names → "" ∈ g.names

/-- The qualified name is a module that the second registry has and the first one has not, or lies below
such a module, or in the top-level package that came with it. -/
def Enters (g g' : Registry) (qualified : String) : Prop :=
  ∃ m ∈ g'.names, m ∉ g.names ∧
    (dottedParts m <+: dottedParts qualified ∨
      (g.isLocal m = false ∧ rootOf qualified = rootOf m))

/-- No start of a name that enters no new module is one. -/
theorem mem_names_of_start (hq : ¬ g.Enters g' q) {m : String}
    (hm : dottedParts m <+: dottedParts q) (hmem : m ∈ g'.names) : m ∈ g.names :=
  Classical.byContradiction fun hnew => hq ⟨m, hmem, hnew, .inl hm⟩

theorem rootOf_eq (name : String) : rootOf name = (dottedParts name).head?.getD name := by
  unfold rootOf splitHead
  cases dottedParts name <;> rfl

theorem rootOf_append (base rest : String) : rootOf (base ++ "." ++ rest) = rootOf base := by
  rw [rootOf_eq, rootOf_eq, dottedParts_append]
  cases hparts : dottedParts base with
  | nil => exact absurd hparts (dottedParts_ne_nil base)
  | cons head parts => rfl

theorem rootOf_extend (base rest : String) : rootOf (extend base rest) = rootOf base := by
  unfold extend
  split
  · rfl
  · exact rootOf_append base rest

/-- A name without an empty first part that is put together from parts of another one. -/
theorem dottedParts_join {parts rest : List String} (hne : parts ≠ [])
    (h : dottedParts q = parts ++ rest) : dottedParts (joinDotted parts) = parts :=
  dottedParts_joinDotted hne fun _ hpart =>
    plain_of_mem_dottedParts (h ▸ List.mem_append_left rest hpart)

theorem memberFrom_spec {before parts : List String} {m : Member}
    (h : g.memberFrom before parts = some m) :
    ∃ mid, parts = mid ++ m.head :: m.rest ∧ before ++ mid ≠ [] ∧
      m.module = joinDotted (before ++ mid) := by
  induction parts generalizing before with
  | nil => cases h
  | cons head rest ih =>
    unfold memberFrom at h
    split at h
    · next found hfound =>
      cases h
      obtain ⟨mid, hparts, hne, hmodule⟩ := ih hfound
      exact ⟨head :: mid, by rw [hparts]; rfl, by simp, by rw [hmodule, List.append_assoc]; rfl⟩
    · split at h
      · cases h
      · next hbefore =>
        obtain ⟨t, -, rfl⟩ := Option.map_eq_some_iff.mp h
        refine ⟨[], rfl, ?_, by rw [List.append_nil]⟩
        rwa [List.append_nil, ne_eq, ← List.isEmpty_iff]

/-- A module and the part right after it are the start of the name that was cut. -/
theorem member?_start {m : Member} (h : g.member? q = some m) :
    dottedParts (m.module ++ "." ++ m.head) <+: dottedParts q := by
  obtain ⟨mid, hparts, hne, hmodule⟩ := memberFrom_spec h
  rw [List.nil_append] at hne hmodule
  have hhead : '.' ∉ m.head.toList := plain_of_mem_dottedParts (s := q) (by simp [hparts])
  rw [dottedParts_append, hmodule, dottedParts_join hne hparts, dottedParts_plain hhead, hparts]
  exact ⟨m.rest, by simp⟩

/-! ## 3. Look-ups -/

namespace Widens

variable (h : g.Widens g')

include h

theorem names {m : String} (hm : m ∈ g.names) : m ∈ g'.names := by
  obtain ⟨more, e⟩ := h.modules
  unfold Registry.names Table.keys
  rw [← e, List.map_append]
  exact List.mem_append_left _ hm

/-- A name that is no new module stands for what it stood for. -/
theorem module? {m : String} (hm : m ∈ g'.names → m ∈ g.names) : g'.module? m = g.module? m := by
  cases ht : g.module? m with
  | some t =>
    obtain ⟨more, e⟩ := h.modules
    unfold Registry.module? Table.get?
    rw [← e]
    exact Table.find_append ht more
  | none =>
    exact (Table.get?_eq_none_iff ..).mpr (mt hm ((Table.get?_eq_none_iff ..).mp ht))

theorem classAt? {key : ClassKey} (hm : key.module ∈ g.names) :
    g'.classAt? key = g.classAt? key := by
  unfold Registry.classAt?
  rw [h.module? fun _ => hm]

section Enters

variable (hq : ¬ g.Enters g' q)

include hq

theorem contains {m : String} (hm : dottedParts m <+: dottedParts q) :
    g'.modules.contains m = g.modules.contains m :=
  congrArg Option.isSome (h.module? (mem_names_of_start hq hm))

/-- No package of its top level is new. -/
theorem isLocal {p : String} (hroot : rootOf q = rootOf p) : g'.isLocal p = g.isLocal p := by
  have hiff : ∀ r : Registry, r.isLocal p = true ↔ ∃ m ∈ r.names, rootOf m = rootOf p := fun r => by
    unfold Registry.isLocal roots
    rw [List.contains_iff_mem, List.mem_map]
  rw [Bool.eq_iff_iff, hiff, hiff]
  constructor
  · rintro ⟨m, hm, hmroot⟩
    by_cases hold : m ∈ g.names
    · exact ⟨m, hold, hmroot⟩
    · refine Classical.byContradiction fun hnone => hq ⟨m, hm, hold, .inr ⟨?_, ?_⟩⟩
      · rw [← Bool.not_eq_true]
        unfold Registry.isLocal roots
        rw [List.contains_iff_mem, List.mem_map, hmroot]
        exact hnone
      · rw [hroot, hmroot]
  · rintro ⟨m, hm, hmroot⟩
    exact ⟨m, h.names hm, hmroot⟩

theorem member? : g'.member? q = g.member? q := by
  have hfrom : ∀ parts before, dottedParts q = before ++ parts →
      g'.memberFrom before parts = g.memberFrom before parts := by
    intro parts
    induction parts with
    | nil => exact fun _ _ => rfl
    | cons head rest ih =>
      intro before hparts
      unfold memberFrom
      rw [ih (before ++ [head]) (by rw [hparts, List.append_assoc]; rfl)]
      by_cases hbefore : before = []
      · rw [hbefore]
        rfl
      · rw [h.module? (mem_names_of_start hq ?_)]
        rw [dottedParts_join hbefore hparts, hparts]
        exact List.prefix_append ..
  exact hfrom _ [] rfl

end Enters

theorem existsWithin {hops : Nat} (hasked : ∀ p ∈ g.asked hops q, ¬ g.Enters g' p) :
    g'.existsWithin hops q = g.existsWithin hops q := by
  induction hops generalizing q with
  | zero => exact h.contains (hasked q List.mem_cons_self) List.prefix_rfl
  | succ hops ih =>
    have hq := hasked q List.mem_cons_self
    unfold asked at hasked
    unfold Registry.existsWithin
    rw [h.contains hq List.prefix_rfl, h.member? hq]
    split at hasked
    · next hthere => rw [hthere, Bool.true_or, Bool.true_or]
    congr 1
    cases hm : g.member? q with
    | none => rfl
    | some m =>
      rw [hm] at hasked
      dsimp only at hasked ⊢
      rw [h.contains hq (member?_start hm)]
      split
      · rfl
      next hfree =>
      rw [if_neg hfree] at hasked
      split
      · next target htarget =>
        rw [htarget] at hasked
        have hnext := fun p hp => hasked p (List.mem_cons_of_mem _ hp)
        rw [ih hnext, h.isLocal (hnext _ (mem_asked ..)) (rootOf_extend ..)]
      · next htarget =>
        rw [htarget] at hasked
        refine any_tried fun star hstar => ?_
        have hnext := fun p hp =>
          hasked p (List.mem_cons_of_mem _ (List.mem_flatMap.mpr ⟨star, hstar, hp⟩))
        rw [ih hnext, h.isLocal (hnext _ (mem_asked ..)) (rootOf_append ..)]

theorem findClassWithin {hops : Nat} (hasked : ∀ p ∈ g.askedClass hops q, ¬ g.Enters g' p) :
    g'.findClassWithin hops q = g.findClassWithin hops q := by
  induction hops generalizing q with
  | zero => rfl
  | succ hops ih =>
    unfold askedClass at hasked
    dsimp only at hasked
    have hq := hasked q List.mem_cons_self
    -- without a dot the module is the one without a name
    have hmodule : (splitLast q).1 ∈ g'.names → (splitLast q).1 ∈ g.names := by
      by_cases hbefore : (dottedParts q).dropLast = []
      · have hempty : (splitLast q).1 = "" := by
          unfold splitLast
          dsimp only
          rw [hbefore]
          rfl
        rw [hempty]
        exact h.named
      · refine mem_names_of_start hq ?_
        unfold splitLast
        dsimp only
        rw [dottedParts_join hbefore
          (List.dropLast_concat_getLast (dottedParts_ne_nil q)).symm]
        exact List.dropLast_prefix _
    unfold Registry.findClassWithin
    dsimp only
    rw [h.module? hmodule]
    cases ht : g.module? (splitLast q).1 with
    | none => rfl
    | some t =>
      rw [ht] at hasked
      dsimp only at hasked ⊢
      split
      · rfl
      next hfree =>
      rw [if_neg hfree] at hasked
      split
      · next target htarget =>
        rw [htarget] at hasked
        exact ih fun p hp => hasked p (List.mem_cons_of_mem _ hp)
      · next htarget =>
        rw [htarget] at hasked
        refine findSome?_tried fun star hstar => ih fun p hp => ?_
        exact hasked p (List.mem_cons_of_mem _ (List.mem_flatMap.mpr ⟨star, hstar, hp⟩))

theorem bound (hasked : ∀ p ∈ g.askedFor t name, ¬ g.Enters g' p) :
    g'.bound t name = g.bound t name := by
  unfold Registry.bound
  dsimp only
  split
  · rfl
  next hfree =>
  refine findSome?_tried fun star hstar => ?_
  have hstar' : star ∈ g.triedStars t name := by
    unfold triedStars
    rw [hfree, if_neg (by simp)]
    have hsome : ∀ (b : Bool) (s : String), (if b = true then some s else none).isSome = b :=
      fun b s => by cases b <;> rfl
    simpa only [hsome] using hstar
  have hnext := fun p hp =>
    hasked p (List.mem_append_left _ (List.mem_flatMap.mpr ⟨star, hstar', hp⟩))
  rw [h.isLocal (hnext _ (mem_asked ..)) (rootOf_append ..)]
  unfold nameExists
  rw [h.existsWithin hnext]

theorem checkName (hasked : ∀ p ∈ g.askedFor t name, ¬ g.Enters g' p) :
    g'.checkName t name = g.checkName t name := by
  unfold Registry.checkName
  rw [h.bound hasked]
  cases hbound : g.bound t name with
  | none => rfl
  | some qualified =>
    have hnext : ∀ p ∈ g.asked (maxHops + 1) qualified, ¬ g.Enters g' p := fun p hp => by
      refine hasked p (List.mem_append_right _ ?_)
      rw [hbound]
      exact hp
    dsimp only
    rw [h.isLocal (hnext _ (mem_asked ..)) rfl]
    unfold nameExists
    rw [h.existsWithin hnext]

end Widens

/-! ## 4. Names that meet a new module -/

/-- Looking the name up asks for a name that enters a new module. -/
def Meets (g g' : Registry) (t : SymbolTable) (name : String) : Prop :=
  ∃ p ∈ g.askedFor t name, g.Enters g' p

/-- Looking up the class that a base refers to asks for such a name. -/
def MeetsClass (g g' : Registry) (t : SymbolTable) (base : String) : Prop :=
  g.Meets g' t base ∨
    ∃ qualified ∈ g.checkName t base, ∃ p ∈ g.askedClass (maxHops + 1) qualified, g.Enters g' p

/-- A name that was there is not there any more. -/
def Loses (g g' : Registry) (t : SymbolTable) (info : ClassInfo) : Prop :=
  ∃ name ∈ info.uses, (g.checkName t name).isSome = true ∧ g'.checkName t name = none ∧
    g.Meets g' t name

/-- A base leads to a class that it did not lead to, for which something is missing. -/
def Turns (g g' : Registry) (t : SymbolTable) (info : ClassInfo) : Prop :=
  ∃ base ∈ info.bases, g.MeetsClass g' t base ∧
    ∃ baseKey, (g'.checkName t base).bind g'.findClass = some baseKey ∧
      (g.checkName t base).bind g.findClass ≠ some baseKey ∧ g'.unresolved baseKey ≠ []

/-- One of the two happens to a class or to one below it. -/
def Overturns (g g' : Registry) (key : ClassKey) : Prop :=
  ∃ k t info, ReflTransGen g.Extends key k ∧ g.classAt? k = some (t, info) ∧
    (g.Loses g' t info ∨ g.Turns g' t info)

theorem Widens.checkName_of_not_meets (h : g.Widens g') (hmeets : ¬ g.Meets g' t name) :
    g'.checkName t name = g.checkName t name :=
  h.checkName fun p hp henters => hmeets ⟨p, hp, henters⟩

theorem Widens.baseClass_of_not_meets (h : g.Widens g') (hmeets : ¬ g.MeetsClass g' t name) :
    (g'.checkName t name).bind g'.findClass = (g.checkName t name).bind g.findClass := by
  rw [h.checkName_of_not_meets fun hname => hmeets (.inl hname)]
  cases hcheck : g.checkName t name with
  | none => rw [Option.bind_none, Option.bind_none]
  | some qualified =>
    rw [Option.bind_some, Option.bind_some]
    unfold Registry.findClass
    exact h.findClassWithin fun p hp henters => hmeets (.inr ⟨qualified, hcheck, p, hp, henters⟩)

/-- A name that is there only with the fewer modules is lost. -/
theorem Widens.loses (h : g.Widens g') (hname : name ∈ info.uses)
    (hcheck : g.checkName t name = some q) (hnone : g'.checkName t name = none) :
    g.Loses g' t info := by
  refine ⟨name, hname, by rw [hcheck]; rfl, hnone, Classical.byContradiction fun hmeets => ?_⟩
  rw [h.checkName_of_not_meets hmeets, hcheck] at hnone
  cases hnone

/-- A base turns if it leads to another class only with more modules, and the class is not ready. -/
theorem Widens.turns (h : g.Widens g') (hbase : name ∈ info.bases) {baseKey : ClassKey}
    (hfind' : (g'.checkName t name).bind g'.findClass = some baseKey)
    (hfind : (g.checkName t name).bind g.findClass ≠ some baseKey)
    (hmissing : g'.unresolved baseKey ≠ []) : g.Turns g' t info := by
  refine ⟨name, hbase, Classical.byContradiction fun hmeets => hfind ?_, baseKey, hfind', hfind,
    hmissing⟩
  rw [← h.baseClass_of_not_meets hmeets, hfind']

/-! ## 5. What is missing afterwards -/

section Missing

variable {key root : ClassKey} {visiting : List ClassKey} {found found' : List String}

theorem classAt?_names {r : SymbolTable × ClassInfo} (h : g.classAt? key = some r) :
    key.module ∈ g.names :=
  List.mem_map.mpr ⟨_, Table.mem_of_get? (classAt?_spec h).1, rfl⟩

/-- What a search finds afterwards it found before, unless it has come to a class that something happens
to. -/
theorem Searches.widened (h : g.Widens g') (hsearch : g.Searches key visiting found)
    (hreach : ReflTransGen g.Extends root key) (hway : ∀ k ∈ visiting, TransGen g'.Extends k key)
    (hsearch' : g'.Searches key visiting found') :
    ∀ symbol ∈ found', symbol ∈ found ∨ g.Overturns g' root := by
  induction hsearch generalizing found' with
  | @enter key visiting t info below hclass _ ih =>
    cases hsearch' with
    | @enter _ _ t' info' below' hclass' hbelow' =>
      have hsame := h.classAt? (classAt?_names hclass)
      rw [hclass', hclass, Option.some.injEq, Prod.mk.injEq] at hsame
      obtain ⟨rfl, rfl⟩ := hsame
      intro symbol hsymbol
      rcases mem_missing.mp hsymbol with ⟨hname, hnone⟩ | ⟨base, hbase, baseKey, hfind', hbelow⟩
      · cases hcheck : g.checkName t' symbol with
        | none => exact .inl (mem_missing.mpr (.inl ⟨hname, hcheck⟩))
        | some qualified =>
          exact .inr ⟨key, t', info', hreach, hclass, .inl (h.loses hname hcheck hnone)⟩
      · have hextends' : g'.Extends key baseKey := (extends_iff hclass').mpr ⟨base, hbase, hfind'⟩
        have hway' := hextends'.way hway
        by_cases hfind : (g.checkName t' base).bind g.findClass = some baseKey
        · have hextends : g.Extends key baseKey := (extends_iff hclass).mpr ⟨base, hbase, hfind⟩
          rcases hbelow with ⟨hmem, rfl⟩ | ⟨hnew, hmem⟩
          · exact .inl (mem_missing.mpr (.inr ⟨base, hbase, baseKey, hfind, .inl ⟨hmem, rfl⟩⟩))
          · refine (ih baseKey hextends hnew (hreach.tail hextends) hway'
              (hbelow' baseKey hextends' hnew) symbol hmem).imp_left fun hmem => ?_
            exact mem_missing.mpr (.inr ⟨base, hbase, baseKey, hfind, .inr ⟨hnew, hmem⟩⟩)
        · refine .inr ⟨key, t', info', hreach, hclass, .inr (h.turns hbase hfind' hfind fun hnil => ?_)⟩
          -- the symbol comes from this class, or the class lies on a circle
          have hgrounded := (unresolved_eq_nil_iff hextends'.known).mp hnil
          rcases hbelow with ⟨hmem, -⟩ | ⟨hnew, hmem⟩
          · exact (hgrounded baseKey .refl).2 (hway' baseKey hmem)
          · rw [hgrounded.searches hway' (hbelow' baseKey hextends' hnew)] at hmem
            cases hmem

/-- The symbols of a declaration that are missing with more modules were missing before, unless something
happens to its class or to one below it. -/
theorem Widens.unresolvedSymbols (h : g.Widens g') {d : Declaration} (hmodule : d.module ∈ g.names) :
    ∀ symbol ∈ g'.unresolvedSymbols d,
      symbol ∈ g.unresolvedSymbols d ∨ g.Overturns g' (keyOf d) := by
  have hclass : g'.classAt? (keyOf d) = g.classAt? (keyOf d) := h.classAt? hmodule
  unfold Registry.unresolvedSymbols knows
  rw [hclass]
  split
  · next hknown =>
    have hknown' : (g'.classAt? (keyOf d)).isSome = true := by rwa [hclass]
    exact ((searches_iff hknown).mpr rfl).widened h .refl (fun k hk => by cases hk)
      ((searches_iff hknown').mpr rfl)
  · exact fun symbol hsymbol => .inl hsymbol

/-- A declaration that is ready stays ready, unless something happens to its class or to one below it. -/
theorem Widens.isReady (h : g.Widens g') {d : Declaration} (hready : g.isReady d = true) :
    g'.isReady d = true ∨ g.Overturns g' (keyOf d) := by
  refine Classical.or_iff_not_imp_right.mpr fun hquiet => ?_
  obtain ⟨r, hr⟩ := Option.isSome_iff_exists.mp (isReady_iff.mp hready).1
  rw [isReady_iff_symbols] at hready ⊢
  refine List.eq_nil_iff_forall_not_mem.mpr fun symbol hsymbol => ?_
  rcases h.unresolvedSymbols (classAt?_names hr) symbol hsymbol with hmem | hoverturns
  · rw [hready] at hmem
    cases hmem
  · exact hquiet hoverturns

end Missing

end Registry

end FluentBuilders
