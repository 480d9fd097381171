import FluentBuilders.Proofs.Registry.Readiness

/-!
The properties of a class and of its bases.

1. `firstOfName`: of each name the first property, apart from names that were seen before.
2. `Walks`: the fields of a class and then those of its bases from left to right, where a base that
   is shared is walked once on each way that leads to it.
3. `Covers`: the names of all fields of a class and of the classes below it were seen.
4. `Collected`: what the collection returns, which enters a class once. It agrees with the walk as to
   the first of each name wherever the names below the classes that it passes by were seen.
5. `properties_walk`: the properties of a class that is ready are those of the walk.
-/

namespace FluentBuilders

open Relation

/-! ## 1. The first of each name -/

/-- The properties whose names were not seen before, the first of each name. -/
def firstOfName (seen : List String) : List Property → List Property
  | [] => []
  | p :: rest =>
    if seen.contains p.name then firstOfName seen rest else p :: firstOfName (p.name :: seen) rest

section FirstOfName

variable {seen seen' : List String} {p : Property} {l l' : List Property}

theorem firstOfName_cons_of_mem (h : p.name ∈ seen) :
    firstOfName seen (p :: l) = firstOfName seen l := by
  rw [firstOfName, if_pos (List.contains_iff_mem.mpr h)]

theorem firstOfName_cons_of_not_mem (h : p.name ∉ seen) :
    firstOfName seen (p :: l) = p :: firstOfName (p.name :: seen) l := by
  rw [firstOfName, if_neg fun hmem => h (List.contains_iff_mem.mp hmem)]

theorem firstOfName_congr (h : ∀ name, name ∈ seen ↔ name ∈ seen') (l : List Property) :
    firstOfName seen l = firstOfName seen' l := by
  induction l generalizing seen seen' with
  | nil => rfl
  | cons p rest ih =>
    by_cases hmem : p.name ∈ seen
    · rw [firstOfName_cons_of_mem hmem, firstOfName_cons_of_mem ((h _).mp hmem), ih h]
    · rw [firstOfName_cons_of_not_mem hmem, firstOfName_cons_of_not_mem (mt (h _).mpr hmem)]
      congr 1
      exact ih fun name => by rw [List.mem_cons, List.mem_cons, h name]

/-- No name is lost. -/
theorem mem_names_firstOfName {name : String} :
    name ∈ seen ∨ name ∈ (firstOfName seen l).map (·.name) ↔
      name ∈ seen ∨ name ∈ l.map (·.name) := by
  induction l generalizing seen with
  | nil => rfl
  | cons p rest ih =>
    rw [List.map_cons, List.mem_cons]
    by_cases hmem : p.name ∈ seen
    · rw [firstOfName_cons_of_mem hmem, ih]
      constructor
      · exact Or.imp_right .inr
      · rintro (h | rfl | h)
        exacts [.inl h, .inl hmem, .inr h]
    · rw [firstOfName_cons_of_not_mem hmem, List.map_cons, List.mem_cons, or_left_comm,
        ← or_assoc, ← List.mem_cons, ih, List.mem_cons, or_assoc, or_left_comm]

/-- Each name is kept once, and no name that was seen. -/
theorem nodup_firstOfName (seen : List String) (l : List Property) :
    ((firstOfName seen l).map (·.name)).Nodup ∧
      ∀ name ∈ (firstOfName seen l).map (·.name), name ∉ seen := by
  induction l generalizing seen with
  | nil => exact ⟨.nil, fun name hname => by cases hname⟩
  | cons p rest ih =>
    by_cases hmem : p.name ∈ seen
    · rw [firstOfName_cons_of_mem hmem]
      exact ih seen
    · obtain ⟨hnodup, hnew⟩ := ih (p.name :: seen)
      rw [firstOfName_cons_of_not_mem hmem, List.map_cons]
      refine ⟨List.nodup_cons.mpr ⟨fun h => hnew _ h List.mem_cons_self, hnodup⟩, fun name hname => ?_⟩
      rcases List.mem_cons.mp hname with rfl | hname
      · exact hmem
      · exact fun h => hnew name hname (List.mem_cons_of_mem _ h)

theorem firstOfName_append (seen : List String) (l l' : List Property) :
    firstOfName seen (l ++ l') =
      firstOfName seen l ++ firstOfName (l.map (·.name) ++ seen) l' := by
  induction l generalizing seen with
  | nil => rfl
  | cons p rest ih =>
    rw [List.cons_append]
    by_cases hmem : p.name ∈ seen
    · rw [firstOfName_cons_of_mem hmem, firstOfName_cons_of_mem hmem, ih]
      congr 1
      refine firstOfName_congr (fun name => ?_) l'
      simp only [List.map_cons, List.cons_append, List.mem_cons]
      exact ⟨.inr, fun h => h.elim (fun h => List.mem_append_right _ (h ▸ hmem)) id⟩
    · rw [firstOfName_cons_of_not_mem hmem, firstOfName_cons_of_not_mem hmem, ih, List.cons_append]
      congr 2
      refine firstOfName_congr (fun name => ?_) l'
      simp only [List.map_cons, List.cons_append, List.mem_cons, List.mem_append]
      exact or_left_comm

theorem firstOfName_eq_nil (h : ∀ p ∈ l, p.name ∈ seen) : firstOfName seen l = [] := by
  induction l with
  | nil => rfl
  | cons p rest ih =>
    rw [firstOfName_cons_of_mem (h p List.mem_cons_self)]
    exact ih fun q hq => h q (List.mem_cons_of_mem _ hq)

/-- Properties of which some were left out for names that are seen here as well. -/
theorem firstOfName_firstOfName (h : ∀ name ∈ seen, name ∈ seen') (l : List Property) :
    firstOfName seen' (firstOfName seen l) = firstOfName seen' l := by
  induction l generalizing seen seen' with
  | nil => rfl
  | cons p rest ih =>
    by_cases hmem : p.name ∈ seen
    · rw [firstOfName_cons_of_mem hmem, firstOfName_cons_of_mem (h _ hmem), ih h]
    · rw [firstOfName_cons_of_not_mem hmem]
      by_cases hmem' : p.name ∈ seen'
      · rw [firstOfName_cons_of_mem hmem', firstOfName_cons_of_mem hmem']
        refine ih fun name hname => ?_
        rcases List.mem_cons.mp hname with rfl | hname
        exacts [hmem', h name hname]
      · rw [firstOfName_cons_of_not_mem hmem', firstOfName_cons_of_not_mem hmem']
        rw [ih fun name hname => ?_]
        rcases List.mem_cons.mp hname with rfl | hname
        exacts [List.mem_cons_self, List.mem_cons_of_mem _ (h name hname)]

/-- Properties that agree as to the first of each name still do so with more behind them. -/
theorem firstOfName_append_congr (h : firstOfName seen l = firstOfName seen l')
    (more : List Property) : firstOfName seen (l ++ more) = firstOfName seen (l' ++ more) := by
  rw [firstOfName_append, firstOfName_append, h]
  congr 1
  refine firstOfName_congr (fun name => ?_) more
  rw [List.mem_append, List.mem_append, or_comm, ← mem_names_firstOfName, h, mem_names_firstOfName,
    or_comm]

theorem mergeProperties_eq (own inherited : List Property) :
    Registry.mergeProperties own inherited =
      own ++ firstOfName (own.map (·.name)) inherited := by
  unfold Registry.mergeProperties
  induction inherited generalizing own with
  | nil => exact (List.append_nil own).symm
  | cons p rest ih =>
    have hany : own.any (·.name == p.name) = true ↔ p.name ∈ own.map (·.name) := by
      simp [List.any_eq_true]
    rw [List.foldl_cons, ih]
    by_cases hmem : p.name ∈ own.map (·.name)
    · rw [if_pos (hany.mpr hmem), firstOfName_cons_of_mem hmem]
    · rw [if_neg (mt hany.mp hmem), firstOfName_cons_of_not_mem hmem, List.append_assoc,
        List.singleton_append]
      congr 2
      refine firstOfName_congr (fun name => ?_) rest
      simp [or_comm]

end FirstOfName

namespace Registry

variable {g : Registry} {key baseKey : ClassKey}

/-! ## 2. The walk over a class and its bases -/

/-- The fields of a class as properties. -/
def fieldsOf (g : Registry) (key : ClassKey) : List Property :=
  match g.classAt? key with
  | none => []
  | some (_, info) => ownProperties info

/-- The classes that the bases of a class lead to, from left to right. -/
def baseKeys (g : Registry) (key : ClassKey) : List ClassKey :=
  match g.classAt? key with
  | none => []
  | some (t, info) => info.bases.filterMap fun base => (g.checkName t base).bind g.findClass

theorem mem_baseKeys : baseKey ∈ g.baseKeys key ↔ g.Extends key baseKey := by
  unfold baseKeys
  split
  · next hclass => simp [Extends, hclass]
  · next t info hclass => rw [List.mem_filterMap, extends_iff hclass]

/-- The walk over a class meets these properties: its own fields, and then what the walks over its
bases meet. A base is walked wherever it stands. -/
inductive Walks (g : Registry) : ClassKey → List Property → Prop
  | enter {key : ClassKey} (below : ClassKey → List Property) :
    (∀ baseKey ∈ g.baseKeys key, Walks g baseKey (below baseKey)) →
    Walks g key (g.fieldsOf key ++ (g.baseKeys key).flatMap below)

section Walks

variable {walked walked' : List Property} {p : Property}

theorem Walks.unique (h : g.Walks key walked) (h' : g.Walks key walked') : walked = walked' := by
  induction h generalizing walked' with
  | @enter key below _ ih =>
    cases h' with
    | enter below' hbelow' =>
      congr 1
      exact List.flatMap_congr fun baseKey hbase => ih baseKey hbase (hbelow' baseKey hbase)

/-- The walk meets the fields of the class and of all classes below it. -/
theorem Walks.mem_iff (h : g.Walks key walked) :
    p ∈ walked ↔ ∃ k, ReflTransGen g.Extends key k ∧ p ∈ g.fieldsOf k := by
  induction h with
  | @enter key below _ ih =>
    rw [List.mem_append, List.mem_flatMap]
    constructor
    · rintro (hp | ⟨baseKey, hbase, hp⟩)
      · exact ⟨key, .refl, hp⟩
      · obtain ⟨k, hk, hp⟩ := (ih baseKey hbase).mp hp
        exact ⟨k, hk.head (mem_baseKeys.mp hbase), hp⟩
    · rintro ⟨k, hk, hp⟩
      rcases hk.cases_head with rfl | ⟨baseKey, hextends, hk⟩
      · exact .inl hp
      · have hbase := mem_baseKeys.mpr hextends
        exact .inr ⟨baseKey, hbase, (ih baseKey hbase).mpr ⟨k, hk, hp⟩⟩

/-- The walk over a grounded class ends. -/
theorem Trail.walks {fuel : Nat} {before : List ClassKey} (h : g.Trail fuel key before)
    (hgrounded : g.Grounded key) : ∃ walked, g.Walks key walked := by
  induction fuel generalizing key before with
  | zero => exact absurd h.fuel_pos (Nat.lt_irrefl 0)
  | succ fuel ih =>
    have hbases : ∀ baseKey ∈ g.baseKeys key, ∃ walked, g.Walks baseKey walked := by
      intro baseKey hbase
      have hextends := mem_baseKeys.mp hbase
      exact ih (h.next hextends (hgrounded.new h.way hextends)) (hgrounded.base hextends)
    choose! below hbelow using hbases
    exact ⟨_, .enter below hbelow⟩

end Walks

/-! ## 3. Names that were seen -/

/-- The names of the fields of a class and of all classes below it are among those seen. -/
def Covers (g : Registry) (seen : List String) (key : ClassKey) : Prop :=
  ∀ k, ReflTransGen g.Extends key k → ∀ p ∈ g.fieldsOf k, p.name ∈ seen

theorem Covers.mono {seen seen' : List String} (h : g.Covers seen key)
    (hseen : ∀ name ∈ seen, name ∈ seen') : g.Covers seen' key :=
  fun k hk p hp => hseen _ (h k hk p hp)

theorem Covers.below {seen : List String} (h : g.Covers seen key)
    (hbelow : ReflTransGen g.Extends key baseKey) : g.Covers seen baseKey :=
  fun k hk => h k (hbelow.trans hk)

/-- The names below a class were seen where all that the walk over it meets were. -/
theorem Walks.covers_iff {walked : List Property} {seen : List String} (h : g.Walks key walked) :
    g.Covers seen key ↔ ∀ p ∈ walked, p.name ∈ seen := by
  constructor
  · intro hcovers p hp
    obtain ⟨k, hk, hp⟩ := h.mem_iff.mp hp
    exact hcovers k hk p hp
  · exact fun hwalked k hk p hp => hwalked p (h.mem_iff.mpr ⟨k, hk, hp⟩)

/-! ## 4. The collection -/

/-- The properties collected so far and the classes entered, after one more base: `collected` tells
what is collected from it. -/
def mergeBase (collected : ClassKey → List ClassKey → List Property × List ClassKey)
    (state : List Property × List ClassKey) (baseKey : ClassKey) :
    List Property × List ClassKey :=
  if state.2.contains baseKey then state
  else
    (mergeProperties state.1 (collected baseKey state.2).1, (collected baseKey state.2).2)

/-- A base that is there refers to what it is bound to. -/
theorem Closed.bound {t : SymbolTable} {info : ClassInfo} (h : g.Closed key)
    (hclass : g.classAt? key = some (t, info)) {base : String} (hbase : base ∈ info.bases) :
    g.bound t base = g.checkName t base := by
  have hthere := h t info hclass base (List.mem_append_right _ hbase)
  unfold checkName at hthere ⊢
  split at hthere
  · cases hthere
  · next qualified hq =>
    split at hthere
    · cases hthere
    · next hexists => rw [hq]; exact (if_neg hexists).symm

/-- Where all bases are there, those that lead to a class are merged one after the other. -/
theorem Closed.collectFrom (h : g.Closed key) (hknown : (g.classAt? key).isSome = true) (fuel : Nat)
    (visited : List ClassKey) :
    g.collectFrom (fuel + 1) key visited =
      (g.baseKeys key).foldl (mergeBase (g.collectFrom fuel)) (g.fieldsOf key, key :: visited) := by
  obtain ⟨⟨t, info⟩, hclass⟩ := Option.isSome_iff_exists.mp hknown
  unfold Registry.collectFrom baseKeys fieldsOf
  rw [hclass]
  dsimp only
  rw [List.foldl_filterMap]
  refine List.foldl_ext _ _ _ fun state base hbase => ?_
  obtain ⟨all, visited⟩ := state
  rw [← h.bound hclass hbase]
  cases (g.bound t base).bind g.findClass <;> rfl

/-- From the properties `all` and the classes `visited`, the collection has gone on to `result`. It has
entered classes of `area` only. Whatever was seen, the first of each name are as if `walked` had been
put behind, as long as all names below the classes of `area` that it passes by were seen. -/
structure Collected (g : Registry) (area : ClassKey → Prop) (all walked : List Property)
    (visited : List ClassKey) (result : List Property × List ClassKey) : Prop where
  entered : ∀ k ∈ result.2, k ∈ visited ∨ area k
  firsts : ∀ seen, (∀ k ∈ visited, area k → g.Covers (all.map (·.name) ++ seen) k) →
    firstOfName seen result.1 = firstOfName seen (all ++ walked)

section Collected

variable {area area' : ClassKey → Prop} {all walked walked' : List Property}
  {visited : List ClassKey} {state result : List Property × List ClassKey}
  {ofBase : ClassKey → List ClassKey → List Property × List ClassKey}
  {below : ClassKey → List Property}

theorem Collected.append (h : g.Collected area all walked visited state)
    (h' : g.Collected area' state.1 walked' state.2 result)
    (hwalked : ∀ k, area k → g.Covers (walked.map (·.name)) k) :
    g.Collected (fun k => area k ∨ area' k) all (walked ++ walked') visited result where
  entered k hk := by
    rcases h'.entered k hk with hk | hk
    · exact (h.entered k hk).imp_right .inl
    · exact .inr (.inr hk)
  firsts seen hseen := by
    have hfirsts := h.firsts seen fun k hk harea => hseen k hk (.inl harea)
    -- what was seen and what is there by now: the same names as if `walked` had been put behind
    have hnames : ∀ name, name ∈ state.1.map (·.name) ++ seen ↔
        name ∈ (all ++ walked).map (·.name) ++ seen := fun name => by
      rw [List.mem_append, or_comm, ← mem_names_firstOfName, hfirsts, mem_names_firstOfName,
        List.mem_append, or_comm]
    rw [h'.firsts seen ?_, firstOfName_append_congr hfirsts, List.append_assoc]
    intro k hk harea
    rcases h.entered k hk with hk | hk
    · refine (hseen k hk (.inr harea)).mono fun name hname => (hnames name).mpr ?_
      rw [List.map_append, List.append_assoc]
      exact (List.mem_append.mp hname).elim (List.mem_append_left _)
        fun hname => List.mem_append_right _ (List.mem_append_right _ hname)
    · refine (hwalked k hk).mono fun name hname => (hnames name).mpr ?_
      rw [List.map_append]
      exact List.mem_append_left _ (List.mem_append_right _ hname)

/-- One base is merged, or passed by where it had been entered before. -/
theorem mergeBase_collected (state : List Property × List ClassKey) (hwalks : g.Walks baseKey walked)
    (hcollected : ∀ visited, g.Collected (ReflTransGen g.Extends baseKey) [] walked visited
      (ofBase baseKey visited)) :
    g.Collected (ReflTransGen g.Extends baseKey) state.1 walked state.2
      (mergeBase ofBase state baseKey) := by
  unfold mergeBase
  split
  · next hmem =>
    refine ⟨fun k hk => .inl hk, fun seen hseen => ?_⟩
    have hcovers := hseen baseKey (List.contains_iff_mem.mp hmem) .refl
    rw [firstOfName_append, firstOfName_eq_nil (hwalks.covers_iff.mp hcovers), List.append_nil]
  · have h := hcollected state.2
    refine ⟨h.entered, fun seen hseen => ?_⟩
    have hfirsts := h.firsts (state.1.map (·.name) ++ seen) hseen
    rw [mergeProperties_eq, firstOfName_append,
      firstOfName_firstOfName (fun name => List.mem_append_left seen), hfirsts, List.nil_append,
      ← firstOfName_append]

/-- Bases are merged from left to right. -/
theorem foldl_mergeBase_collected {keys : List ClassKey} (state : List Property × List ClassKey)
    (hwalks : ∀ baseKey ∈ keys, g.Walks baseKey (below baseKey))
    (hcollected : ∀ baseKey ∈ keys, ∀ visited,
      g.Collected (ReflTransGen g.Extends baseKey) [] (below baseKey) visited
        (ofBase baseKey visited)) :
    g.Collected (fun k => ∃ baseKey ∈ keys, ReflTransGen g.Extends baseKey k) state.1
      (keys.flatMap below) state.2 (keys.foldl (mergeBase ofBase) state) := by
  induction keys generalizing state with
  | nil => exact ⟨fun k hk => .inl hk, fun seen _ => by rw [List.flatMap_nil, List.append_nil]; rfl⟩
  | cons baseKey rest ih =>
    have hwalk := hwalks baseKey List.mem_cons_self
    have hfirst := mergeBase_collected state hwalk
      (hcollected baseKey List.mem_cons_self)
    have hrest := ih (mergeBase ofBase state baseKey)
      (fun k hk => hwalks k (List.mem_cons_of_mem _ hk))
      (fun k hk => hcollected k (List.mem_cons_of_mem _ hk))
    have h := hfirst.append hrest fun k hk =>
      (hwalk.covers_iff.mpr fun p hp => List.mem_map_of_mem hp).below hk
    simpa only [List.exists_mem_cons_iff, List.flatMap_cons, List.foldl_cons] using h

/-- What bases add stands behind what was there, each new name once. -/
theorem foldl_mergeBase_fst (keys : List ClassKey) (state : List Property × List ClassKey) :
    ∃ more, (keys.foldl (mergeBase ofBase) state).1 =
      state.1 ++ firstOfName (state.1.map (·.name)) more := by
  induction keys generalizing state with
  | nil => exact ⟨[], (List.append_nil _).symm⟩
  | cons baseKey rest ih =>
    rw [List.foldl_cons]
    unfold mergeBase
    split
    · exact ih state
    · obtain ⟨more, hmore⟩ := ih (mergeProperties state.1 (ofBase baseKey state.2).1,
        (ofBase baseKey state.2).2)
      refine ⟨(ofBase baseKey state.2).1 ++ more, hmore.trans ?_⟩
      dsimp only
      rw [mergeProperties_eq, firstOfName_append, List.append_assoc]
      congr 2
      refine firstOfName_congr (fun name => ?_) more
      rw [List.map_append, List.mem_append, mem_names_firstOfName, List.mem_append, or_comm]

/-- The collection from a grounded class agrees with the walk over it. -/
theorem Trail.collected {fuel : Nat} {before : List ClassKey} (h : g.Trail fuel key before)
    (hgrounded : g.Grounded key) (hwalks : g.Walks key walked) (visited : List ClassKey) :
    g.Collected (ReflTransGen g.Extends key) [] walked visited
      (g.collectFrom fuel key visited) := by
  induction fuel generalizing key before walked visited with
  | zero => exact absurd h.fuel_pos (Nat.lt_irrefl 0)
  | succ fuel ih =>
    obtain ⟨hclosed, hcircle⟩ := hgrounded key .refl
    cases hwalks with
    | enter below hbelow =>
      rw [hclosed.collectFrom (h.known key List.mem_cons_self)]
      have hbases := foldl_mergeBase_collected (g.fieldsOf key, key :: visited) hbelow
        fun baseKey hbase visited =>
          have hextends := mem_baseKeys.mp hbase
          ih (h.next hextends (hgrounded.new h.way hextends)) (hgrounded.base hextends)
            (hbelow baseKey hbase) visited
      have hreach : ∀ k, (∃ baseKey ∈ g.baseKeys key, ReflTransGen g.Extends baseKey k) →
          TransGen g.Extends key k := by
        rintro k ⟨baseKey, hbase, hk⟩
        exact TransGen.head'_iff.mpr ⟨baseKey, mem_baseKeys.mp hbase, hk⟩
      refine ⟨fun k hk => ?_, fun seen hseen => hbases.firsts seen fun k hk hbelow => ?_⟩
      · rcases hbases.entered k hk with hk | hk
        · exact (List.mem_cons.mp hk).symm.imp_right fun hk => by rw [hk]
        · exact .inr (hreach k hk).to_reflTransGen
      · -- the class itself is not below its bases
        have hk := (List.mem_cons.mp hk).resolve_left fun hk => hcircle (hk ▸ hreach k hbelow)
        exact (hseen k hk (hreach k hbelow).to_reflTransGen).mono fun name hname =>
          List.mem_append_right _ hname

end Collected

/-! ## 5. The properties of a class that is ready -/

/-- What is collected from a grounded class: its own fields, and of what the walks over its bases meet
the first of each name that is new. -/
theorem Grounded.collect {below : ClassKey → List Property} (h : g.Grounded key)
    (hknown : (g.classAt? key).isSome = true)
    (hbelow : ∀ baseKey ∈ g.baseKeys key, g.Walks baseKey (below baseKey)) :
    g.collect key = g.fieldsOf key ++
      firstOfName ((g.fieldsOf key).map (·.name)) ((g.baseKeys key).flatMap below) := by
  obtain ⟨more, hmore⟩ : ∃ more, g.collect key =
      g.fieldsOf key ++ firstOfName ((g.fieldsOf key).map (·.name)) more := by
    unfold Registry.collect
    rw [(h key .refl).1.collectFrom hknown]
    exact foldl_mergeBase_fst ..
  have hfirsts := ((Trail.start hknown).collected h (.enter below hbelow) []).firsts
    ((g.fieldsOf key).map (·.name)) fun k hk => by cases hk
  change firstOfName _ (g.collect key) = _ at hfirsts
  -- the fields of the class itself add nothing to their own names, on either side
  have hown : ∀ l, firstOfName ((g.fieldsOf key).map (·.name)) (g.fieldsOf key ++ l) =
      firstOfName ((g.fieldsOf key).map (·.name)) l := fun l => by
    rw [firstOfName_append, firstOfName_eq_nil fun p hp => List.mem_map_of_mem hp, List.nil_append]
    exact firstOfName_congr (fun name => by rw [List.mem_append, or_self]) l
  rw [hmore, hown, firstOfName_firstOfName fun name => id, List.nil_append, hown] at hfirsts
  rw [hmore, hfirsts]

/-- The properties of a declaration that is ready are the fields of its class, and of those that the
walks over its bases meet the first of each name that no field of the class has. No inherited name is
repeated, and no name of a field below the class is lost. -/
theorem properties_walk {d : Declaration} (h : g.isReady d = true) :
    ∃ met inherited,
      (∀ walked, g.Walks (keyOf d) walked ↔ walked = g.fieldsOf (keyOf d) ++ met) ∧
      inherited = firstOfName ((g.fieldsOf (keyOf d)).map (·.name)) met ∧
      g.properties d = .ok (g.fieldsOf (keyOf d) ++ inherited) ∧
      (inherited.map (·.name)).Nodup ∧
      ∀ k, ReflTransGen g.Extends (keyOf d) k → ∀ p ∈ g.fieldsOf k,
        p.name ∈ (g.fieldsOf (keyOf d) ++ inherited).map (·.name) := by
  obtain ⟨hknown, hgrounded⟩ := isReady_iff.mp h
  have hmissing : g.unresolvedSymbols d = [] := isReady_iff_symbols.mp h
  obtain ⟨walked, hwalks⟩ := (Trail.start hknown).walks hgrounded
  have hunique : ∀ walked', g.Walks (keyOf d) walked' ↔ walked' = walked := fun _ =>
    ⟨fun h => h.unique hwalks, fun h => h ▸ hwalks⟩
  have hlost := fun p => (hwalks.mem_iff (p := p)).mpr
  cases hwalks with
  | enter below hbelow =>
    refine ⟨(g.baseKeys (keyOf d)).flatMap below, _, hunique, rfl, ?_, (nodup_firstOfName _ _).1,
      fun k hk p hp => ?_⟩
    · unfold properties
      rw [hmissing, ← hgrounded.collect hknown hbelow]
      rfl
    · have hname := List.mem_map_of_mem (f := (·.name)) (hlost p ⟨k, hk, hp⟩)
      rw [List.map_append, List.mem_append] at hname ⊢
      exact mem_names_firstOfName.mpr hname

/-- A base that two classes share, below a class that overrides a field of it. -/
def diamond : Registry :=
  let source := "class A:\n  x: int\n  y: str\nclass B(A):\n  y: int\n  z: int\nclass C(A):\n  w: int\n  y: str\nclass D(B, C):\n  x: str\n"
  ⟨⟨[("p.a", .ofParsed (.ofText source "p/a.py") "p.a" false)]⟩, .empty⟩

set_option maxRecDepth 100000 in
/-- The shared base is passed by on the second way, where its fields have been merged. -/
theorem properties_walk_diamond :
    ∃ met inherited,
      diamond.Walks ⟨"p.a", "D"⟩ (⟨"x", "str"⟩ :: met) ∧
      inherited = firstOfName ["x"] met ∧
      diamond.properties ⟨"p", "D", "p.a", [], .resolved, []⟩ = .ok (⟨"x", "str"⟩ :: inherited) ∧
      inherited = [⟨"y", "int"⟩, ⟨"z", "int"⟩, ⟨"w", "int"⟩] := by
  have hdiamond : diamond.isReady ⟨"p", "D", "p.a", [], .resolved, []⟩ = true ∧
      diamond.fieldsOf ⟨"p.a", "D"⟩ = [⟨"x", "str"⟩] ∧
      diamond.properties ⟨"p", "D", "p.a", [], .resolved, []⟩ =
        .ok [⟨"x", "str"⟩, ⟨"y", "int"⟩, ⟨"z", "int"⟩, ⟨"w", "int"⟩] := by decide +kernel
  obtain ⟨hready, hfields, hproperties⟩ := hdiamond
  obtain ⟨met, inherited, hwalks, hfirst, heq, -⟩ := properties_walk hready
  change ∀ walked, diamond.Walks ⟨"p.a", "D"⟩ walked ↔ walked = diamond.fieldsOf ⟨"p.a", "D"⟩ ++ met
    at hwalks
  change inherited = firstOfName ((diamond.fieldsOf ⟨"p.a", "D"⟩).map (·.name)) met at hfirst
  change diamond.properties _ = .ok (diamond.fieldsOf ⟨"p.a", "D"⟩ ++ inherited) at heq
  rw [hfields] at hwalks hfirst heq
  refine ⟨met, inherited, (hwalks _).mpr rfl, hfirst, heq, ?_⟩
  rw [hproperties] at heq
  cases heq
  rfl

end Registry

end FluentBuilders
