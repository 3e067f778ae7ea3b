import DocStore.Proofs.Induction

/-!
# Lowering keeps the meaning of selectors

A selector and the predicate that it is lowered to accept the same values. The two are written
apart: a condition on a field becomes an expression on a stored column, and a negated condition
becomes a negated predicate or a folded constant.
-/

namespace DocStore.Predicate

theorem holds_negate (predicate : Predicate) (json : Json) :
    (negate predicate).holds json = !predicate.holds json := by
  cases predicate with
  | const value => rw [negate, holds, holds]
  | _ => rfl

/-- Each kind of operand has its own leaf, and the leaf compares as the selector does. -/
theorem holds_equality (path : FieldPath) (operand json : Json) :
    (equality path operand).holds json = Condition.equals (path.lookup json) operand := by
  cases operand <;> simp only [equality, holds, Condition.equals]

theorem holds_membership (path : FieldPath) (operands : List Json) (json : Json) :
    (membership path operands).holds json =
      operands.any (Condition.equals (path.lookup json)) := by
  rw [membership, holds, anyHolds_eq_any, List.any_map]
  simp only [Function.comp_def, holds_equality]

/-- Only an array holds an array, so containment implies the guard of `all`. -/
theorem contains_array (container : Json) (operands : List Json) :
    Json.contains container (.array operands) =
      (container.kind == .array && Json.contains container (.array operands)) := by
  cases container with
  | array items => simp [Json.kind]
  | _ => simp [Json.contains, Json.within]

theorem holds_ofCondition (path : FieldPath) (condition : Condition) (json : Json) :
    (ofCondition path condition).holds json = condition.accepts (path.lookup json) := by
  cases condition with
  | eq operand => exact holds_equality path operand json
  | ne operand => rw [ofCondition, holds_negate, holds_equality, Condition.accepts]
  | compare comparison bound => rw [ofCondition, holds, Condition.accepts]
  | oneOf operands => exact holds_membership path operands json
  | noneOf operands => rw [ofCondition, holds_negate, holds_membership, Condition.accepts]
  | present expected =>
      cases expected <;> simp [ofCondition, holds_negate, holds, Condition.accepts]
  | kind expected => rw [ofCondition, holds, Condition.accepts]
  | all operands =>
      rw [ofCondition, holds, Condition.accepts]
      exact congrArg (path.lookup json).any (funext fun found => contains_array found operands)

/-- The lowered predicate of a selector holds of exactly the values that the selector accepts. -/
theorem ofSelector_holds_eq_accepts (selector : Selector) (json : Json) :
    (ofSelector selector).holds json = selector.accepts json := by
  induction selector generalizing json with
  | and clauses ih =>
      rw [ofSelector, holds, allHold_eq_all, ofSelectors_eq_map, List.all_map, Selector.accepts,
        Selector.allAccept_eq_all]
      exact all_eq_all_of_mem fun clause member => ih clause member json
  | or clauses ih =>
      rw [ofSelector, holds, anyHolds_eq_any, ofSelectors_eq_map, List.any_map, Selector.accepts,
        Selector.anyAccepts_eq_any]
      exact any_eq_any_of_mem fun clause member => ih clause member json
  | nor clauses ih =>
      rw [ofSelector, holds_negate, holds, anyHolds_eq_any, ofSelectors_eq_map, List.any_map,
        Selector.accepts, Selector.anyAccepts_eq_any]
      exact congrArg Bool.not (any_eq_any_of_mem fun clause member => ih clause member json)
  | not clause ih => rw [ofSelector, holds_negate, ih, Selector.accepts]
  | field path condition => exact holds_ofCondition path condition json
  | elemMatch path clause ih =>
      rw [ofSelector, holds, Selector.accepts]
      cases path.lookup json with
      | none => rfl
      | some found =>
          cases found with
          | array items => exact any_eq_any_of_mem fun item _ => ih item
          | _ => rfl

end DocStore.Predicate
