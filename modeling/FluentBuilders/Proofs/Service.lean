import FluentBuilders.Proofs.BuilderText
import FluentBuilders.Proofs.Scan
import FluentBuilders.Service

/-!
What the service previews, and what generation makes of the same class.

1. `PreviewRequest.generated`: the answer that generating the declaration of a request gives.
2. `render_eq_generated`: where the request names the module of its declaration, the preview is that
   answer.
3. `preview_generates`: they differ where a request has a package and names an empty module, and
   nowhere else.
-/

namespace FluentBuilders

open Text

namespace Service

/-! ## 1. Answers -/

variable {body : Json} {r : PreviewRequest}

/-- An answer to a request, or the failure that it ended with as a refusal. -/
def refuse (answer : Except Failure Preview) : Except ServiceError Preview :=
  answer.mapError fun e => .refused 422 e.message

/-- What generating the declaration of a request gives. -/
def PreviewRequest.generated (r : PreviewRequest) : Except Failure Preview :=
  (generate r.resolver r.declaration).map fun a => ⟨a.module, a.typeName, a.text⟩

theorem preview_eq (h : readPreviewRequest body = .ok r) : preview body = refuse r.render := by
  unfold preview checked
  rw [h]
  dsimp only
  cases r.render <;> rfl

/-! ## 2. Previews and builders -/

/-- The blueprint that a preview renders. -/
def PreviewRequest.blueprint (r : PreviewRequest) (properties : List Property) : Blueprint :=
  ⟨r.name, r.package, properties, r.sourceModule⟩

/-- A rendered blueprint as an answer. -/
def PreviewRequest.shown (r : PreviewRequest) (rendered : Except BlueprintFault String) :
    Except Failure Preview :=
  (rendered.mapError fun fault => .badValue fault.message).map fun text =>
    ⟨builderModule r.package r.name, builderTypeName r.name, text⟩

variable {properties : List Property}

theorem render_eq (h : r.declaration.exposed r.resolver = .ok properties) :
    r.render = r.shown (r.blueprint properties).render := by
  unfold PreviewRequest.render PreviewRequest.blueprint
  rw [h]
  dsimp only
  cases (Blueprint.mk r.name r.package properties r.sourceModule).render <;> rfl

/-- Nothing keeps a rendered text from being recorded: a request involves no files. -/
theorem generated_eq (h : r.declaration.exposed r.resolver = .ok properties) :
    r.generated = r.shown (r.declaration.blueprint properties).render := by
  unfold PreviewRequest.generated generate
  rw [h]
  dsimp only
  cases (r.declaration.blueprint properties).render with
  | error fault => rfl
  | ok text =>
    unfold Artifact.record
    dsimp only
    rw [if_neg (by simp [Declaration.draft])]
    rfl

/-- The text names the module of the declaration, unless an empty one is named in a package. -/
theorem origin_blueprint (r : PreviewRequest) (properties : List Property) :
    (r.blueprint properties).origin = r.declaration.module ∨
      r.sourceModule = some "" ∧ r.package ≠ "" := by
  unfold Blueprint.origin PreviewRequest.blueprint PreviewRequest.declaration
  cases hmodule : r.sourceModule with
  | none => exact .inl rfl
  | some m =>
    by_cases hm : m = ""
    · subst hm
      by_cases hpackage : r.package = ""
      · exact .inl hpackage.symm
      · exact .inr ⟨rfl, hpackage⟩
    · refine .inl ?_
      dsimp only
      rw [Option.getD_some, Option.getD_some, if_neg (by simpa using hm)]

/-- With the module of its declaration, a request is answered as generation answers it. -/
theorem render_eq_generated (h : r.declaration.exposed r.resolver = .ok properties)
    (horigin : (r.blueprint properties).origin = r.declaration.module) : r.render = r.generated := by
  have hsettled : r.declaration.blueprint properties = (r.blueprint properties).settled := by
    unfold Blueprint.settled Declaration.blueprint
    rw [horigin]
    rfl
  rw [render_eq h, generated_eq h, hsettled, Blueprint.render_settled]

/-! ## 3. Where previews and builders differ -/

/-- A request that gets no preview although its declaration has a module: it names an empty module,
which counts as none for the declaration but not for the text. -/
structure PreviewRequest.Unplaced (r : PreviewRequest) : Prop where
  module : r.sourceModule = some ""
  package : r.package ≠ ""
  name : isIdentifier r.name = true
  exposed : ∃ properties, r.declaration.exposed r.resolver = .ok properties

/-- A blueprint lacks a module only where it names none. -/
theorem isEmpty_origin {b : Blueprint} {s : String} (h : b.fault? = some (.noModule s)) :
    b.origin.isEmpty = true := by
  unfold Blueprint.fault? at h
  split at h
  · cases h
  split at h
  · next hempty => exact hempty
  split at h
  · cases h
  split at h
  · cases h
  obtain ⟨p, -, hp⟩ := List.exists_of_findSome?_eq_some h
  unfold Property.fault? at hp
  grind

/-- The words of a missing module are those of no other fault. -/
theorem eq_noModule {fault : BlueprintFault} {s : String}
    (h : fault.message = (BlueprintFault.noModule s).message) : ∃ s', fault = .noModule s' := by
  cases fault with
  | noModule s' => exact ⟨s', rfl⟩
  | _ s' =>
    -- whatever stands in quotes, the words before it start otherwise
    unfold BlueprintFault.message at h
    dsimp only at h
    generalize quoted s = q, quoted s' = q' at h
    have hchars := congrArg String.toList h
    simp at hchars

namespace PreviewRequest.Unplaced

theorem render (h : r.Unplaced) :
    r.render = .error (.badValue (BlueprintFault.noModule r.name).message) := by
  obtain ⟨properties, hexposed⟩ := h.exposed
  have hfault : (r.blueprint properties).fault? = some (.noModule r.name) := by
    unfold PreviewRequest.blueprint Blueprint.fault? Blueprint.origin
    dsimp only
    rw [h.name, h.module]
    rfl
  rw [render_eq hexposed, Blueprint.render, hfault]
  rfl

theorem generated_ne (h : r.Unplaced) : refuse r.generated ≠
    refuse (.error (.badValue (BlueprintFault.noModule r.name).message)) := by
  obtain ⟨properties, hexposed⟩ := h.exposed
  rw [generated_eq hexposed, Blueprint.render]
  cases hfault : (r.declaration.blueprint properties).fault? with
  | none => exact fun heq => by cases heq
  | some fault =>
    intro heq
    obtain ⟨s, rfl⟩ := eq_noModule (ServiceError.refused.inj (Except.error.inj heq)).2
    -- the declaration is in the package
    have hempty := isEmpty_origin hfault
    unfold Blueprint.origin Declaration.blueprint PreviewRequest.declaration at hempty
    dsimp only at hempty
    rw [h.module] at hempty
    exact h.package (String.isEmpty_iff.mp hempty)

end PreviewRequest.Unplaced

/-- What is not unplaced is answered as generation answers it. -/
theorem render_of_placed (h : ¬ r.Unplaced) : r.render = r.generated := by
  cases hexposed : r.declaration.exposed r.resolver with
  | error e =>
    unfold PreviewRequest.render PreviewRequest.generated generate
    rw [hexposed]
    rfl
  | ok properties =>
    rcases origin_blueprint r properties with horigin | ⟨hmodule, hpackage⟩
    · exact render_eq_generated hexposed horigin
    -- the name is at fault, before any module is asked for
    have hname : isIdentifier r.name = false := by
      by_contra hname
      exact h ⟨hmodule, hpackage, by simpa using hname, properties, hexposed⟩
    have hfault : ∀ b : Blueprint, b.name = r.name → b.render = .error (.badName r.name) := by
      intro b hb
      unfold Blueprint.render Blueprint.fault?
      rw [hb, hname]
      rfl
    rw [render_eq hexposed, generated_eq hexposed, hfault _ rfl, hfault _ rfl]

/-- A preview is the module, the type name and the text of the builder that generation makes of the
same class, and where generation fails it is refused in the same words. Only a request with a package
and an empty module is refused whatever generation makes of it. -/
theorem preview_generates (h : readPreviewRequest body = .ok r) :
    (preview body = refuse r.generated ↔ ¬ r.Unplaced) ∧
    (r.Unplaced →
      preview body = refuse (.error (.badValue (BlueprintFault.noModule r.name).message))) := by
  rw [preview_eq h]
  refine ⟨⟨fun heq hunplaced => ?_, fun hplaced => by rw [render_of_placed hplaced]⟩,
    fun hunplaced => by rw [hunplaced.render]⟩
  rw [hunplaced.render] at heq
  exact hunplaced.generated_ne heq.symm

/-- The body of a request for a class in a package, with the module that it names, if any. -/
def requestBody (more : List (String × Json)) : Json :=
  .object ([("name", .text "Foo"), ("namespace", .text "p")] ++ more)

/-- Where no module is named, the class is previewed as it is generated in its package. -/
theorem preview_generates_package : ∃ r a, readPreviewRequest (requestBody []) = .ok r ∧
    generate r.resolver r.declaration = .ok a ∧ a.module = "p.foo_builder" ∧
    preview (requestBody []) = .ok ⟨a.module, a.typeName, a.text⟩ := by
  have hread : readPreviewRequest (requestBody []) = .ok ⟨"Foo", "p", none, []⟩ := rfl
  obtain ⟨a, ha⟩ := generate_ok (r := PreviewRequest.resolver ⟨"Foo", "p", none, []⟩)
    (d := PreviewRequest.declaration ⟨"Foo", "p", none, []⟩) rfl (by decide +kernel) rfl
  refine ⟨_, a, hread, ha, ?_, ?_⟩
  · rw [(generate_spec ha).2]
    decide +kernel
  · rw [(preview_generates hread).1.mpr (fun h => by cases h.module), PreviewRequest.generated, ha]
    rfl

/-- With an empty module it is generated in the same place, but not previewed. -/
theorem preview_refused : ∃ r a,
    readPreviewRequest (requestBody [("source_module", .text "")]) = .ok r ∧
    generate r.resolver r.declaration = .ok a ∧ a.module = "p.foo_builder" ∧
    preview (requestBody [("source_module", .text "")]) =
      .error (.refused 422 (BlueprintFault.noModule "Foo").message) := by
  obtain ⟨a, ha⟩ := generate_ok (r := PreviewRequest.resolver ⟨"Foo", "p", some "", []⟩)
    (d := PreviewRequest.declaration ⟨"Foo", "p", some "", []⟩) rfl (by decide +kernel) rfl
  have hunplaced : PreviewRequest.Unplaced ⟨"Foo", "p", some "", []⟩ :=
    ⟨rfl, by decide, by decide +kernel, [], rfl⟩
  refine ⟨_, a, rfl, ha, ?_, ?_⟩
  · rw [(generate_spec ha).2]
    decide +kernel
  · rw [preview_eq rfl, hunplaced.render]
    rfl

end Service

end FluentBuilders
