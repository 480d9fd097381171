import FluentBuilders.Proofs.Registry.Order
import Mathlib.Data.List.DropRight

/-!
What a registry reports over any sequence of calls.

1. `Call`: a module is added, or the declarations of a marker are asked for. A call that adds a module
   whose name is taken is refused and changes nothing.
2. `stateAfter` with `accepted`: the state after the calls has the modules that were accepted, in order.
3. `Declaration.standing`: what of a declaration depends on its module only.
4. `reported_once`: over all calls for a marker each accepted module is reported once, whatever was
   refused and whatever other markers were asked for in between.
-/

namespace FluentBuilders

/-- A declaration without what was known of other modules when it was found. -/
def Declaration.standing (d : Declaration) : Declaration := { d with state := .unresolved }

namespace Registry

/-! ## 1. Calls -/

/-- A call to a registry. -/
inductive Call
  | add (source : Source)
  | report (marker : String)
  deriving Inhabited

/-- Whether a call asks for the declarations of the marker. -/
def Call.asksFor (marker : String) : Call → Bool
  | .add _ => false
  | .report m => m == marker

/-- Whether a call does not ask for the declarations of another marker. -/
def Call.concerns (marker : String) : Call → Bool
  | .add _ => true
  | .report m => m == marker

/-- The registry after a call. A module that is refused leaves it as it was. -/
def answered (g : Registry) : Call → Registry
  | .add s => (g.addBytes s.content s.module s.path s.isPackage).toOption.getD g
  | .report marker => (g.report marker).2

/-- The registry after calls to one without modules. -/
def stateAfter (calls : List Call) : Registry := calls.foldl answered empty

/-- What the calls for the marker were answered, each with its declarations. -/
def reportsFrom (marker : String) (g : Registry) : List Call → List (List Declaration)
  | [] => []
  | call :: rest =>
    (if call.asksFor marker then [(g.report marker).1] else []) ++
      reportsFrom marker (g.answered call) rest

/-- What the calls for the marker were answered, from a registry without modules on. -/
def reports (marker : String) (calls : List Call) : List (List Declaration) :=
  reportsFrom marker empty calls

/-- The source that a call adds to the registry, if there is one. -/
def takenIn (g : Registry) : Call → List Source
  | .add s => if s.module ∈ g.names then [] else [s]
  | .report _ => []

/-- The sources of the modules that were not refused. -/
def acceptedFrom (g : Registry) : List Call → List Source
  | [] => []
  | call :: rest => g.takenIn call ++ acceptedFrom (g.answered call) rest

/-- The sources that were accepted, from a registry without modules on. -/
def accepted (calls : List Call) : List Source := acceptedFrom empty calls

/-- The calls up to the last one for the marker. -/
def untilLast (marker : String) (calls : List Call) : List Call :=
  calls.rdropWhile (!·.asksFor marker)

section Steps

variable {g : Registry} {marker : String} {calls calls' : List Call} {s : Source}

/-- A module is refused if its name is taken, and only then. -/
theorem addBytes_source (g : Registry) (s : Source) :
    g.addBytes s.content s.module s.path s.isPackage =
      if s.module ∈ g.names then
        .error (.badValue ("module " ++ Text.quoted s.module ++ " is already loaded"))
      else .ok ⟨g.modules.insert s.module s.entry.2, g.cursors⟩ := by
  unfold addBytes add
  rw [(SymbolTable.ofParsed_grows s.content s.path s.module s.isPackage).1]
  by_cases htaken : s.module ∈ g.names
  · rw [if_pos htaken, if_pos ((g.modules.contains_iff s.module).mpr htaken)]
  · rw [if_neg htaken, if_neg fun h => htaken ((g.modules.contains_iff s.module).mp h)]
    rfl

theorem answered_add (g : Registry) (s : Source) : g.answered (.add s) =
    if s.module ∈ g.names then g else ⟨g.modules.insert s.module s.entry.2, g.cursors⟩ := by
  unfold answered
  dsimp only
  rw [addBytes_source]
  split <;> rfl

/-- Asking for a marker moves its own cursor only. -/
theorem cursor_answered (g : Registry) (m marker : String) :
    (g.answered (.report m)).cursor marker =
      if m = marker then g.modules.size else g.cursor marker := by
  show ((g.cursors.insert m g.modules.size).get? marker).getD 0 = _
  rw [Table.get?_insert]
  split <;> rfl

theorem stateAfter_concat (calls : List Call) (call : Call) :
    stateAfter (calls ++ [call]) = (stateAfter calls).answered call := by
  unfold stateAfter
  rw [List.foldl_concat]

theorem reportsFrom_append (marker : String) (g : Registry) (calls calls' : List Call) :
    reportsFrom marker g (calls ++ calls') =
      reportsFrom marker g calls ++ reportsFrom marker (calls.foldl answered g) calls' := by
  induction calls generalizing g with
  | nil => rfl
  | cons call rest ih =>
    rw [List.cons_append, reportsFrom, ih, ← List.append_assoc]
    rfl

theorem acceptedFrom_append (g : Registry) (calls calls' : List Call) :
    acceptedFrom g (calls ++ calls') =
      acceptedFrom g calls ++ acceptedFrom (calls.foldl answered g) calls' := by
  induction calls generalizing g with
  | nil => rfl
  | cons call rest ih =>
    rw [List.cons_append, acceptedFrom, ih, ← List.append_assoc]
    rfl

theorem reports_concat (marker : String) (calls : List Call) (call : Call) :
    reports marker (calls ++ [call]) = reports marker calls ++
      if call.asksFor marker then [((stateAfter calls).report marker).1] else [] := by
  unfold reports
  rw [reportsFrom_append]
  exact congrArg _ (List.append_nil _)

theorem accepted_concat (calls : List Call) (call : Call) :
    accepted (calls ++ [call]) = accepted calls ++ (stateAfter calls).takenIn call := by
  unfold accepted
  rw [acceptedFrom_append]
  exact congrArg _ (List.append_nil _)

end Steps

/-! ## 2. The state -/

theorem stateAfter_sound (calls : List Call) : (stateAfter calls).Sound := by
  induction calls using List.reverseRecOn with
  | nil => exact sound_empty
  | append_singleton calls call ih =>
    rw [stateAfter_concat]
    cases call with
    | report marker => exact ih.report marker
    | add s =>
      unfold answered
      dsimp only
      cases hadd : (stateAfter calls).addBytes s.content s.module s.path s.isPackage with
      | error e => exact ih
      | ok g => exact ih.addBytes hadd

/-- The registry has the modules that were accepted, in their order. -/
theorem stateAfter_entries (calls : List Call) :
    (stateAfter calls).modules.entries = (accepted calls).map Source.entry := by
  induction calls using List.reverseRecOn with
  | nil => rfl
  | append_singleton calls call ih =>
    rw [stateAfter_concat, accepted_concat, List.map_append, ← ih]
    cases call with
    | report marker => exact (List.append_nil _).symm
    | add s =>
      rw [answered_add, takenIn]
      by_cases htaken : s.module ∈ (stateAfter calls).names
      · rw [if_pos htaken, if_pos htaken]
        exact (List.append_nil _).symm
      · rw [if_neg htaken, if_neg htaken]
        exact Table.entries_insert_of_not_mem htaken _

theorem stateAfter_names (calls : List Call) :
    (stateAfter calls).names = (accepted calls).map (·.module) := by
  unfold names Table.keys
  rw [stateAfter_entries, List.map_map]
  rfl

theorem stateAfter_values (calls : List Call) :
    (stateAfter calls).modules.values = (accepted calls).map (·.entry.2) := by
  unfold Table.values
  rw [stateAfter_entries, List.map_map]
  rfl

/-- The accepted modules can be added one after the other. -/
theorem addAll_accepted (calls : List Call) : ∃ g, empty.addAll (accepted calls) = .ok g ∧
    g.modules = (stateAfter calls).modules ∧ ∀ marker, g.cursor marker = 0 := by
  have hnodup := (stateAfter_sound calls).nodup
  rw [stateAfter_names] at hnodup
  obtain ⟨g, hg⟩ := addAll_ok (g := empty) hnodup fun _ _ hmem => by cases hmem
  refine ⟨g, hg, ?_, (Loaded.empty.addAll hg).cursor⟩
  rw [addAll_eq hg]
  exact congrArg Table.mk (stateAfter_entries calls).symm

/-! ## 3. Declarations -/

/-- What is reported of a module, whatever else is known. -/
def standingOf (marker : String) (t : SymbolTable) : List Declaration :=
  (empty.declarationsOf marker t).map Declaration.standing

theorem declarationsOf_standing (g : Registry) (marker : String) (t : SymbolTable) :
    (g.declarationsOf marker t).map Declaration.standing = standingOf marker t := by
  unfold standingOf declarationsOf
  rw [List.map_map, List.map_map]
  rfl

theorem report_standing (g : Registry) (marker : String) :
    (g.report marker).1.map Declaration.standing =
      (g.modules.values.drop (g.cursor marker)).flatMap (standingOf marker) := by
  unfold report
  rw [List.map_flatMap]
  exact congrArg (List.flatMap · _) (funext (g.declarationsOf_standing marker))

/-! ## 4. Reports -/

theorem untilLast_concat (marker : String) (calls : List Call) (call : Call) :
    untilLast marker (calls ++ [call]) =
      if call.asksFor marker then calls ++ [call] else untilLast marker calls := by
  unfold untilLast
  rw [List.rdropWhile_concat]
  by_cases hasks : call.asksFor marker = true <;> simp [hasks]

/-- The modules that were accepted before the last call for the marker are the first ones. -/
theorem accepted_untilLast (marker : String) (calls : List Call) :
    accepted (untilLast marker calls) <+: accepted calls := by
  obtain ⟨rest, hrest⟩ := List.rdropWhile_prefix (!·.asksFor marker) (l := calls)
  conv_rhs => rw [← hrest]
  unfold accepted
  rw [acceptedFrom_append]
  exact List.prefix_append ..

/-- Up to its last call, a marker was reported for each accepted module once, and the cursor stands
behind them. -/
theorem reports_standing (marker : String) (calls : List Call) :
    (reports marker calls).flatten.map Declaration.standing =
        (accepted (untilLast marker calls)).flatMap (fun s => standingOf marker s.entry.2) ∧
      (stateAfter calls).cursor marker = (accepted (untilLast marker calls)).length := by
  induction calls using List.reverseRecOn with
  | nil => exact ⟨rfl, rfl⟩
  | append_singleton calls call ih =>
    obtain ⟨hreports, hcursor⟩ := ih
    rw [reports_concat, stateAfter_concat, untilLast_concat]
    by_cases hasks : call.asksFor marker = true
    · obtain rfl : call = .report marker := by
        cases call with
        | add s => cases hasks
        | report m => exact congrArg Call.report (by simpa [Call.asksFor] using hasks)
      have haccepted : accepted (calls ++ [.report marker]) = accepted calls := by
        rw [accepted_concat]
        exact List.append_nil _
      rw [if_pos hasks, if_pos hasks, haccepted]
      constructor
      · -- what stands behind the cursor is what was accepted since
        obtain ⟨since, hsince⟩ := accepted_untilLast marker calls
        rw [List.flatten_append, List.map_append, hreports, List.flatten_singleton, report_standing,
          hcursor, stateAfter_values, ← List.map_drop, ← hsince, List.drop_left,
          List.flatMap_append, List.flatMap_map]
      · rw [cursor_answered, if_pos rfl, Table.size, stateAfter_entries, List.length_map]
    · rw [if_neg hasks, if_neg hasks, List.append_nil]
      refine ⟨hreports, Eq.trans ?_ hcursor⟩
      cases call with
      | add s =>
        rw [answered_add]
        split <;> rfl
      | report m =>
        have hm : m ≠ marker := by simpa [Call.asksFor] using hasks
        rw [cursor_answered, if_neg hm]

/-- Two states in which a marker is answered alike. -/
structure SameFor (marker : String) (g g' : Registry) : Prop where
  modules : g'.modules = g.modules
  cursor : g'.cursor marker = g.cursor marker

namespace SameFor

variable {marker : String} {g g' : Registry}

theorem report (h : SameFor marker g g') (hg : g.Sound) :
    (g'.report marker).1 = (g.report marker).1 := by
  have hreorders : g.Reorders g' := ⟨hg.nodup, h.modules ▸ .refl _⟩
  unfold Registry.report
  rw [h.modules, h.cursor, hreorders.declarationsOf]

/-- The same call keeps them alike. -/
theorem answered (h : SameFor marker g g') (call : Call) :
    SameFor marker (g.answered call) (g'.answered call) := by
  cases call with
  | add s =>
    have hnames : g'.names = g.names := congrArg Table.keys h.modules
    rw [answered_add, answered_add, hnames, h.modules]
    split
    · exact h
    · exact ⟨rfl, h.cursor⟩
  | report m =>
    refine ⟨h.modules, ?_⟩
    rw [cursor_answered, cursor_answered, h.modules, h.cursor]

/-- So does a call for another marker to one of them. -/
theorem skip (h : SameFor marker g g') {call : Call} (hcall : call.concerns marker = false) :
    SameFor marker (g.answered call) g' := by
  cases call with
  | add s => cases hcall
  | report m =>
    have hm : m ≠ marker := by simpa [Call.concerns] using hcall
    refine ⟨h.modules, h.cursor.trans ?_⟩
    rw [cursor_answered, if_neg hm]

end SameFor

/-- Calls for other markers do not count. -/
theorem reports_concerning (marker : String) (calls : List Call) :
    reports marker (calls.filter (·.concerns marker)) = reports marker calls ∧
      SameFor marker (stateAfter calls) (stateAfter (calls.filter (·.concerns marker))) := by
  induction calls using List.reverseRecOn with
  | nil => exact ⟨rfl, rfl, rfl⟩
  | append_singleton calls call ih =>
    obtain ⟨hreports, hsame⟩ := ih
    rw [List.filter_append, reports_concat, stateAfter_concat]
    by_cases hconcerns : call.concerns marker = true
    · rw [List.filter_singleton, hconcerns, cond_true, reports_concat, stateAfter_concat, hreports,
        hsame.report (stateAfter_sound calls)]
      exact ⟨rfl, hsame.answered call⟩
    · have hasks : ¬ call.asksFor marker = true := by
        cases call with
        | add s => exact Bool.false_ne_true
        | report m => exact hconcerns
      have hother : call.concerns marker = false := by simpa using hconcerns
      rw [List.filter_singleton, hother, cond_false, List.append_nil, if_neg hasks, List.append_nil]
      exact ⟨hreports, hsame.skip hother⟩

/-- Over any sequence of calls, the answers to all calls for a marker together tell what one call tells
in which the same accepted modules are new, but for what was known of other modules at the time. Calls
for other markers do not change any of these answers, and a module is refused if its name was accepted
before, which changes nothing. -/
theorem reported_once (calls : List Call) (marker : String) :
    (∃ g, empty.addAll (accepted (untilLast marker calls)) = .ok g ∧
      (reports marker calls).flatten.map Declaration.standing =
        (g.report marker).1.map Declaration.standing) ∧
    reports marker (calls.filter (·.concerns marker)) = reports marker calls ∧
    ∀ s : Source,
      (stateAfter calls).addBytes s.content s.module s.path s.isPackage =
        (if s.module ∈ (accepted calls).map (·.module) then
          .error (.badValue ("module " ++ Text.quoted s.module ++ " is already loaded"))
        else .ok (stateAfter (calls ++ [.add s]))) ∧
      stateAfter (calls ++ [.add s]) =
        if s.module ∈ (accepted calls).map (·.module) then stateAfter calls
        else ⟨(stateAfter calls).modules.insert s.module s.entry.2, (stateAfter calls).cursors⟩ := by
  refine ⟨?_, (reports_concerning marker calls).1, fun s => ?_⟩
  · obtain ⟨g, hg, hmodules, hcursor⟩ := addAll_accepted (untilLast marker calls)
    refine ⟨g, hg, ?_⟩
    rw [(reports_standing marker calls).1, report_standing, hmodules, hcursor, stateAfter_values,
      List.drop_zero, List.flatMap_map]
  · rw [← stateAfter_names, stateAfter_concat, answered_add, addBytes_source]
    refine ⟨?_, rfl⟩
    split <;> rfl

end Registry

end FluentBuilders
