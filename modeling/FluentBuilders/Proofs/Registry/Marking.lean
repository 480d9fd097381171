import FluentBuilders.Proofs.Registry.Binding
import FluentBuilders.Proofs.Registry.Calls

/-!
Which definitions are reported for a marker.

1. `Source.stated?`, `brought?`: what a name stands for by the statements of its module, and what the
   wildcard imports bring under it.
2. `bound_stated`: the rule for names of bases and annotations, in these terms.
3. `report_marked`: decorators go by the same rule without its last part. A marker that only a
   wildcard import brings does not count (`report_overlooks`).
-/

namespace FluentBuilders

open Text Grammar SymbolTable

namespace Registry

/-! ## 1. Names -/

/-- What a name stands for by the statements of a module: by its last import, else as a definition,
else as a name that every module has. -/
def Source.stated? (s : Source) (name : String) : Option String :=
  (s.findings.reverse.findSome? (Finding.target? name)).or
    (if s.findings.contains (.defined name) then some (qualify s.module name)
    else if builtinNames.contains name then some ("builtins." ++ name)
    else none)

/-- What the wildcard imports of a module bring under a name: the first of them counts that has it, as
far as is known. -/
def brought? (g : Registry) (s : Source) (name : String) : Option String :=
  (s.findings.filterMap Finding.star?).findSome? fun star =>
    if !g.isLocal star || g.nameExists (star ++ "." ++ name) then some (star ++ "." ++ name)
    else none

/-! ## 2. Rules -/

variable (g : Registry) (s : Source) (name marker : String)

theorem Source.table_resolveHead : s.table.resolveHead name = s.stated? name := by
  unfold SymbolTable.resolveHead Source.stated?
  rw [s.table_imports, s.table_definitions, s.table_module]
  cases s.findings.reverse.findSome? (Finding.target? name) <;> rfl

theorem Source.table_resolve : s.table.resolve name =
    (s.stated? (splitHead name).1).map (extend · (splitHead name).2) := by
  unfold SymbolTable.resolve
  dsimp only
  rw [s.table_resolveHead]

/-- A dotted name of a module goes by its first part: by the statements of the module, and where they
do not tell, by the wildcard imports. -/
theorem bound_stated : g.bound s.table name =
    ((s.stated? (splitHead name).1).or (g.brought? s (splitHead name).1)).map
      (extend · (splitHead name).2) := by
  unfold bound
  rw [s.table_resolve]
  cases s.stated? (splitHead name).1 with
  | some base => rfl
  | none =>
    rw [Option.map_none, Option.none_or]
    unfold brought?
    dsimp only
    rw [s.table_wildcards, List.map_findSome?]
    refine congrArg (List.findSome? · _) (funext fun star => ?_)
    rw [Function.comp_apply]
    split <;> rfl

/-- A decorator goes by the statements of its module only. -/
theorem isMarked_stated (info : DecoratedInfo) : isMarked s.table marker info =
    info.decorators.any fun d => !d.isEmpty && (s.stated? (splitHead d).1).isSome &&
      g.bound s.table d == some marker := by
  unfold isMarked
  refine congrArg (info.decorators.any ·) (funext fun d => ?_)
  rw [g.bound_stated, s.table_resolve, Bool.and_assoc]
  cases s.stated? (splitHead d).1 <;> rfl

/-! ## 3. Reports -/

/-- A report has the decorated definitions of all modules that were accepted since the last call for
the marker, in their order, that have a decorator which is bound to the marker, as names of bases and
annotations are, and whose first part a statement of its module imports or defines. -/
theorem report_marked (calls : List Call) (marker : String) :
    ((stateAfter calls).report marker).1 =
      ((accepted calls).drop (accepted (untilLast marker calls)).length).flatMap (fun s =>
        (s.table.decorated.filter fun info => info.decorators.any fun d =>
          !d.isEmpty && (s.stated? (splitHead d).1).isSome &&
            (stateAfter calls).bound s.table d == some marker).map
          ((stateAfter calls).declarationOf s.table)) ∧
    ∀ (s : Source) (name : String), (stateAfter calls).bound s.table name =
      ((s.stated? (splitHead name).1).or ((stateAfter calls).brought? s (splitHead name).1)).map
        (extend · (splitHead name).2) := by
  refine ⟨?_, (stateAfter calls).bound_stated⟩
  unfold report
  dsimp only
  rw [(reports_standing marker calls).2, stateAfter_values, ← List.map_drop, List.flatMap_map]
  refine congrArg (List.flatMap · _) (funext fun s => ?_)
  have hmarked := funext ((stateAfter calls).isMarked_stated s marker)
  exact congrArg (fun p => (s.table.decorated.filter p).map _) hmarked

/-- A class whose marker comes from a wildcard import is not reported, though its decorator is bound to
the marker. -/
theorem report_overlooks :
    let s : Source := ⟨encode "from builder_gen.marker import *\n@builder\nclass Foo: pass\n", "a",
      "a.py", false⟩
    let g := stateAfter [.add s]
    s.table.decorated.map (fun info => info.decorators.map (g.bound s.table)) =
        [[some "builder_gen.marker.builder"]] ∧
      (g.report "builder_gen.marker.builder").1 = [] := by
  decide +kernel

end Registry

end FluentBuilders
