import FluentBuilders.Proofs.Enumeration

/-!
What is exposed and what can be rendered.

Names are compared in their normal forms when properties are exposed, and as they were written when a text is
rendered. Main statements:

* `Exposable.fault?`: of exposable properties with types, those are refused a text whose names are no
  identifiers as they were written.
* `run_tells_names`: a round tells what is wrong with a name, unless the name is an identifier in its normal
  form only. `square_internal`: such a name is an internal error.
-/

namespace FluentBuilders

open Text

/-! ## 1. Names as they were written -/

/-- The names of a declaration can stand in a text. -/
structure Declaration.Nameable (d : Declaration) : Prop where
  name : isIdentifier d.name = true
  module : isDotted d.module = true
  package : d.package.isEmpty = true ∨ isDotted d.package = true

section Rendering

variable {d : Declaration} {l : List Property}

/-- Where a declaration can be named, only its properties can keep it from a text. -/
theorem Declaration.Nameable.fault? (h : d.Nameable) (l : List Property) :
    (d.blueprint l).fault? = l.findSome? Property.fault? := by
  have horigin : d.module.isEmpty = false := by
    rw [Bool.eq_false_iff]
    intro hempty
    have hmodule := h.module
    rw [String.isEmpty_iff.mp hempty] at hmodule
    exact absurd hmodule (by decide)
  have hpackage : (!d.package.isEmpty && !isDotted d.package) = false := by
    rcases h.package with hempty | hdotted
    · simp [hempty]
    · simp [hdotted]
  unfold Blueprint.fault?
  simp only [Declaration.blueprint, Blueprint.origin, Option.getD_some, h.name, h.module, horigin, hpackage]
  rfl

/-- A property that a builder can expose has a text where its name is an identifier as it was written. -/
theorem Exposable.fault? (h : Exposable l) {p : Property} (hp : p ∈ l)
    (htype : isAllBlank p.type = false) :
    p.fault? = if isIdentifier p.name = true then none else some (.badProperty p.name) := by
  have hfree : isReserved p.name = false := by
    rw [Bool.eq_false_iff]
    exact fun htaken => h.free p hp (isTaken_normalize (isReserved_iff.mp htaken))
  unfold Property.fault?
  rw [hfree, htype]
  cases isIdentifier p.name <;> rfl

theorem Exposable.findSome?_fault (h : Exposable l) (htypes : ∀ p ∈ l, isAllBlank p.type = false) :
    l.findSome? Property.fault? = none ↔ ∀ p ∈ l, isIdentifier p.name = true := by
  rw [List.findSome?_eq_none_iff]
  refine forall₂_congr fun p hp => ?_
  rw [h.fault? hp (htypes p hp)]
  cases isIdentifier p.name <;> simp

theorem Blueprint.render_iff {b : Blueprint} : (∃ text, b.render = .ok text) ↔ b.fault? = none := by
  unfold Blueprint.render
  cases b.fault? with
  | none => exact ⟨fun _ => rfl, fun _ => ⟨_, rfl⟩⟩
  | some fault =>
    constructor
    · rintro ⟨text, h⟩
      cases h
    · intro h
      cases h

theorem Blueprint.render_error {b : Blueprint} {fault : BlueprintFault} (h : b.fault? = some fault) :
    b.render = .error fault := by
  unfold Blueprint.render
  rw [h]

end Rendering

/-! ## 2. A round -/

section Round

variable {r : Resolver} {d : Declaration} {l : List Property} {o : Outcome}

/-- An outcome of a round tells that the round was cut short, or what became of a declaration. -/
theorem Scan.through_outcome {signal : List Declaration → Bool} {done ds : List Declaration}
    {claimed : Table String} (h : o ∈ (Scan.through r signal done claimed ds).outcomes) :
    o = .cancelled o.declaration ∨ ∃ claimed', o = (judge r claimed' o.declaration).1 := by
  induction ds generalizing done claimed with
  | nil => cases h
  | cons d rest ih =>
    unfold Scan.through at h
    split at h
    · obtain ⟨d', -, rfl⟩ := List.mem_map.mp h
      exact .inl rfl
    · rcases List.mem_cons.mp h with ho | h
      · have ho : o = (judge r claimed d).1 := ho
        refine .inr ⟨claimed, ?_⟩
        rw [ho, (judge_judged r claimed d).declaration]
      · exact ih h

theorem judge_failed {e : Failure} (claimed : Table String) (hgate : d.gate r = .ok (.ready, []))
    (h : generate r d = .error e) : (judge r claimed d).1 = Outcome.ofFailure d e := by
  unfold judge
  rw [hgate, h]

/-- What is told of a property is told in the outcome. -/
theorem judge_refused (claimed : Table String) (hgate : d.gate r = .ok (.ready, [])) (hl : r.properties d = .ok l)
    (h : ¬ Exposable l) : ∃ before p after e, l = before ++ p :: after ∧ Exposable before ∧
      Refusal d.qualifiedName (before.map Property.key) p e ∧
      (judge r claimed d).1 = Outcome.ofFailure d (.generation e) := by
  cases hexposed : d.exposed r with
  | ok l' => exact absurd ((exposed_eq_ok hl l').mp hexposed).2 h
  | error failure =>
    obtain ⟨before, p, after, e, heq, hbefore, hrefusal, rfl⟩ := (exposed_eq_error hl failure).mp hexposed
    refine ⟨before, p, after, e, heq, hbefore, hrefusal, judge_failed claimed hgate ?_⟩
    unfold generate
    rw [hexposed]

/-- What is exposed is an internal error where a name is no identifier as it was written. -/
theorem judge_exposed (claimed : Table String) (hgate : d.gate r = .ok (.ready, [])) (hl : r.properties d = .ok l)
    (hd : d.Nameable) (htypes : ∀ p ∈ l, isAllBlank p.type = false) {files : List FileHandle}
    (hfiles : r.originatingFiles d = .ok files) (h : Exposable l) :
    (judge r claimed d).1.reasons = [Reason.internalError] ↔
      ∃ p ∈ l, isIdentifier p.name = false := by
  have hexposed := (exposed_eq_ok hl l).mpr ⟨rfl, h⟩
  have hfault := h.findSome?_fault htypes
  rw [← hd.fault? l] at hfault
  cases hrender : (d.blueprint l).fault? with
  | none =>
    obtain ⟨a, ha⟩ := generate_ok hexposed hrender hfiles
    have hpasses : Scan.Passes r d a := ⟨⟨[], hgate⟩, ha⟩
    rw [hpasses.judge]
    constructor
    · intro hinternal
      unfold grant at hinternal
      split at hinternal
      · exact absurd hinternal (by decide : ¬ [Reason.nameCollision] = [Reason.internalError])
      · exact absurd hinternal (by decide : ¬ [] = [Reason.internalError])
    · rintro ⟨p, hp, hname⟩
      rw [hfault.mp hrender p hp] at hname
      cases hname
  | some fault =>
    have hgenerate : generate r d = .error (.badValue fault.message) := by
      unfold generate
      rw [hexposed]
      dsimp only
      rw [Blueprint.render_error hrender]
    rw [judge_failed claimed hgate hgenerate]
    refine ⟨fun _ => ?_, fun _ => rfl⟩
    by_contra hnames
    have hnone := hfault.mpr fun p hp => by
      simpa using fun hname => hnames ⟨p, hp, hname⟩
    rw [hrender] at hnone
    cases hnone

/-- Each refusal has a tag of its own. -/
theorem Refusal.outcome {owner : String} {seen : List String} {p : Property} {e : GenerationError}
    (h : Refusal owner seen p e) (d : Declaration) :
    ((Outcome.ofFailure d (.generation e)).status, (Outcome.ofFailure d (.generation e)).reasons) ∈
      [(.invalid, [Reason.invalidDeclaration]), (.failed, [Reason.reservedPropertyName]),
        (.failed, [Reason.duplicateProperty])] := by
  cases h with
  | malformed => exact List.mem_cons_self
  | taken => exact List.mem_cons_of_mem _ List.mem_cons_self
  | repeated => exact List.mem_cons_of_mem _ (List.mem_cons_of_mem _ List.mem_cons_self)

/-- Properties that are exposed are rendered where their names are identifiers as they were written. So a
round that is not cut short before a declaration tells what is wrong with a name of a property, each fault under
its own tag, but for names that are identifiers in their normal forms only: those are internal errors. -/
theorem run_tells_names {signal : List Declaration → Bool} {pending fresh : List Declaration}
    (ho : o ∈ (Scan.run r signal pending fresh).outcomes) (hcut : o ≠ .cancelled o.declaration)
    (hgate : o.declaration.gate r = .ok (.ready, [])) (hl : r.properties o.declaration = .ok l)
    (hd : o.declaration.Nameable) (htypes : ∀ p ∈ l, isAllBlank p.type = false)
    {files : List FileHandle} (hfiles : r.originatingFiles o.declaration = .ok files) :
    (Exposable l → ((∃ text, (o.declaration.blueprint l).render = .ok text) ↔
      ∀ p ∈ l, isIdentifier p.name = true)) ∧
    (¬ Exposable l → ∃ before p after e, l = before ++ p :: after ∧ Exposable before ∧
      Refusal o.declaration.qualifiedName (before.map Property.key) p e ∧
      o.error = some e.message ∧
      (o.status, o.reasons) ∈
        [(.invalid, [Reason.invalidDeclaration]), (.failed, [Reason.reservedPropertyName]),
          (.failed, [Reason.duplicateProperty])]) ∧
    (o.reasons = [Reason.internalError] ↔ Exposable l ∧ ∃ p ∈ l, isIdentifier p.name = false) := by
  obtain ⟨claimed, hjudge⟩ := (Scan.through_outcome ho).resolve_left hcut
  have hrefused : ¬ Exposable l → ∃ before p after e, l = before ++ p :: after ∧ Exposable before ∧
      Refusal o.declaration.qualifiedName (before.map Property.key) p e ∧
      o.error = some e.message ∧ (o.status, o.reasons) ∈
        [(.invalid, [Reason.invalidDeclaration]), (.failed, [Reason.reservedPropertyName]),
          (.failed, [Reason.duplicateProperty])] := by
    intro h
    obtain ⟨before, p, after, e, heq, hbefore, hrefusal, houtcome⟩ :=
      judge_refused claimed hgate hl h
    rw [← hjudge] at houtcome
    refine ⟨before, p, after, e, heq, hbefore, hrefusal, ?_, ?_⟩
    · rw [houtcome]
      rfl
    · have htag := hrefusal.outcome o.declaration
      rwa [← houtcome] at htag
  refine ⟨fun h => ?_, hrefused, ?_⟩
  · rw [Blueprint.render_iff, hd.fault? l, h.findSome?_fault htypes]
  · by_cases h : Exposable l
    · have hexposed := judge_exposed claimed hgate hl hd htypes hfiles h
      rw [← hjudge] at hexposed
      rw [hexposed, and_iff_right h]
    · obtain ⟨_, _, _, _, _, _, _, _, htag⟩ := hrefused h
      constructor
      · intro hinternal
        rw [hinternal] at htag
        simp [Reason.internalError, Reason.invalidDeclaration, Reason.reservedPropertyName,
          Reason.duplicateProperty] at htag
      · exact fun hexposable => absurd hexposable.1 h

theorem listed_nameable : listed.Nameable := ⟨by decide, by decide, .inr (by decide)⟩

/-- What a round over one class makes of its properties. -/
def outcomeOf (l : List Property) : Outcome := (judge (listing l) .empty listed).1

theorem outcomeOf_mem (l : List Property) :
    outcomeOf l ∈ (Scan.run (listing l) (fun _ => false) [] [listed]).outcomes :=
  List.mem_cons_self

/-- A keyword among the names is told as such. -/
theorem run_tells_names_keyword :
    ∃ o ∈ (Scan.run (listing [⟨"x", "int"⟩, ⟨"class", "str"⟩]) (fun _ => false) [] [listed]).outcomes,
      (o.status, o.reasons) ∈
        [(.invalid, [Reason.invalidDeclaration]), (.failed, [Reason.reservedPropertyName]),
          (.failed, [Reason.duplicateProperty])] ∧
      o.reasons ≠ [Reason.internalError] := by
  have hkeyword : ¬ Exposable [⟨"x", "int"⟩, ⟨"class", "str"⟩] := fun h => by
    have hword := h.words ⟨"class", "str"⟩ (by simp)
    rw [Property.key, normalize_ascii (by decide)] at hword
    exact absurd hword (by decide)
  obtain ⟨-, hrefused, hinternal⟩ := run_tells_names (outcomeOf_mem [⟨"x", "int"⟩, ⟨"class", "str"⟩])
    (by decide) rfl rfl listed_nameable (by decide) rfl
  obtain ⟨_, _, _, _, _, _, _, _, htag⟩ := hrefused hkeyword
  exact ⟨_, outcomeOf_mem _, htag, fun h => hkeyword (hinternal.mp h).1⟩

end Round

/-! ## 3. Names that are identifiers in their normal forms only -/

theorem continueTable_square : CharSet.inRanges 0xB2 continueTable.ranges = false := by
  unfold continueTable CharSet.ofTable tableRows
  rw [String.toList_ofList]
  decide +kernel

/-- A raised digit stands in no name. -/
theorem isIdentifier_square : isIdentifier "x²" = false := by
  refine Bool.eq_false_iff.mpr fun h => ?_
  have hdigit := isNameChar_of_isIdentifier h '²' (by decide)
  have hnumber : '²'.toNat = 0xB2 := by decide
  unfold isNameChar at hdigit
  rw [hnumber, if_neg (by decide), CharSet.contains, hnumber, continueTable_square] at hdigit
  cases hdigit

/-- A class with one property of the name. -/
def squared : List Property := [⟨"x²", "int"⟩]

theorem squared_exposable : Exposable squared := by
  have hkey : Property.key ⟨"x²", "int"⟩ = "x2" := normalize_square
  refine ⟨?_, ?_, ?_⟩
  · simpa [squared, hkey] using (by decide : IsWord "x2")
  · simpa [squared, hkey] using mt isReserved_iff.mpr (by decide : ¬ isReserved "x2" = true)
  · simp [squared]

theorem outcomeOf_exposed {l : List Property} (htypes : ∀ p ∈ l, isAllBlank p.type = false)
    (h : Exposable l) : (outcomeOf l).reasons = [Reason.internalError] ↔
      ∃ p ∈ l, isIdentifier p.name = false :=
  judge_exposed .empty rfl rfl listed_nameable htypes rfl h

theorem squared_fault : Property.fault? ⟨"x²", "int"⟩ = some (.badProperty "x²") := by
  have hmem : ⟨"x²", "int"⟩ ∈ squared := List.mem_singleton_self _
  rw [squared_exposable.fault? hmem (by decide), isIdentifier_square, if_neg Bool.false_ne_true]

/-- A raised digit in a name is let through where properties are exposed, and no text can be rendered with it:
the round tells an internal error. -/
theorem square_internal :
    listed.exposed (listing squared) = .ok squared ∧
    (listed.blueprint squared).render = .error (.badProperty "x²") ∧
    ∃ o ∈ (Scan.run (listing squared) (fun _ => false) [] [listed]).outcomes,
      o.reasons = [Reason.internalError] := by
  have hexposed : listed.exposed (listing squared) = .ok squared :=
    (exposed_eq_ok rfl squared).mpr ⟨rfl, squared_exposable⟩
  have hfault : (listed.blueprint squared).fault? = some (.badProperty "x²") := by
    rw [listed_nameable.fault? squared, squared, List.findSome?_cons, squared_fault]
  have hinternal := (outcomeOf_exposed (by decide) squared_exposable).mpr
    ⟨_, List.mem_singleton_self _, isIdentifier_square⟩
  exact ⟨hexposed, Blueprint.render_error hfault, _, outcomeOf_mem squared, hinternal⟩

end FluentBuilders
