import Sramp.Compile.Predicate

/-!
# Renaming

The aliases of a plan are names, and what is built from selectors can be given other names
throughout.  Renaming keeps the kinds of nodes, and commutes with everything that compilation
builds from selectors.
-/

namespace Sramp

/-- A selector under another alias. -/
def Selector.rename (rename : String → String) (selector : Selector) : Selector :=
  { selector with aliasName := rename selector.aliasName }

/-- An operand of a renamed selector. -/
def Operand.rename (rename : String → String) (operand : Operand) : Operand :=
  { operand with selector := operand.selector.rename rename }

/-- A join condition on renamed selectors. -/
def JoinCondition.rename (rename : String → String) : JoinCondition → JoinCondition
  | .equal left right => .equal (left.rename rename) (right.rename rename)
  | .child lower upper => .child (lower.rename rename) (upper.rename rename)

/-- A source of renamed selectors. -/
def Source.rename (rename : String → String) : Source → Source
  | .single selector => .single (selector.rename rename)
  | .join left right kind condition =>
      .join (left.rename rename) (right.rename rename) kind (condition.rename rename)

/-- A correlation with renamed selectors inside and outside. -/
def Correlation.rename (rename : String → String) (rows : Correlation) : Correlation where
  source := rows.source.rename rename
  correlated := rows.correlated.rename rename
  outer := rows.outer.rename rename

namespace Constraint

/-- A constraint on renamed selectors. -/
def rename (rename : String → String) : Constraint → Constraint
  | .and left right => .and (left.rename rename) (right.rename rename)
  | .or left right => .or (left.rename rename) (right.rename rename)
  | .not inner => .not (inner.rename rename)
  | .comparison operand operator value => .comparison (operand.rename rename) operator value
  | .present operand => .present (operand.rename rename)
  | .oneOf operand values => .oneOf (operand.rename rename) values
  | .descendant selector ancestorPath => .descendant (selector.rename rename) ancestorPath
  | .existsRow rows => .existsRow (rows.rename rename)
  | .existsRowWith rows condition =>
      .existsRowWith (rows.rename rename) (condition.rename rename)

/-- Renamed constraints are connected as the constraints are. -/
theorem joinAll_rename (connect : Constraint → Constraint → Constraint) (names : String → String)
    (connects : ∀ left right,
      (connect left right).rename names = connect (left.rename names) (right.rename names))
    (constraints : List Constraint) :
    joinAll connect (constraints.map (·.rename names)) =
      (joinAll connect constraints).map (·.rename names) := by
  induction constraints with
  | nil => rfl
  | cons first rest ih =>
      simp only [List.map_cons, joinAll, ih]
      cases joinAll connect rest with
      | none => rfl
      | some others => exact congrArg some (connects first others).symm

theorem all_rename (rename : String → String) (constraints : List Constraint) :
    all (constraints.map (·.rename rename)) = (all constraints).map (·.rename rename) :=
  joinAll_rename .and rename (fun _ _ => rfl) constraints

theorem any_rename (rename : String → String) (constraints : List Constraint) :
    any (constraints.map (·.rename rename)) = (any constraints).map (·.rename rename) :=
  joinAll_rename .or rename (fun _ _ => rfl) constraints

end Constraint

namespace Compile

/-- A scope of renamed selectors. -/
def Scope.rename (rename : String → String) (scope : Scope) : Scope where
  artifact := scope.artifact.rename rename
  edge := scope.edge.map fun edge =>
    ⟨edge.relationship.rename rename, edge.target.rename rename⟩

/-- A probe for renamed selectors. -/
def Probe.rename (rename : String → String) (probe : Probe) : Probe where
  outer := probe.outer.rename rename
  owner := probe.owner.rename rename
  entry := probe.entry.rename rename
  key := probe.key

/-- A test of renamed selectors. -/
def Tested.rename (rename : String → String) : Tested → Tested
  | .direct operand => .direct (operand.rename rename)
  | .entries found => .entries (found.rename rename)

/-- The outcome of a call, with its selectors renamed. -/
def Outcome.rename (rename : String → String) : Outcome → Outcome
  | .settled constraint => .settled (constraint.rename rename)
  | .entries found => .entries (found.rename rename)

variable (rename : String → String)

@[simp] theorem Tested.property_rename (tested : Tested) :
    (tested.rename rename).property = tested.property := by
  cases tested <;> rfl

theorem Tested.exists?_rename (tested : Tested) :
    (tested.rename rename).exists? = tested.exists?.rename rename := by
  cases tested <;> rfl

theorem Tested.compare_rename (tested : Tested) (operator : Operator) (value : Value) :
    (tested.rename rename).compare operator value =
      (tested.compare operator value).rename rename := by
  cases tested <;> rfl

theorem Outcome.constraint_rename (outcome : Outcome) :
    (outcome.rename rename).constraint = outcome.constraint.rename rename := by
  cases outcome <;> rfl

/-- The groups of hits do not depend on the selector that they are tested for. -/
theorem hitTests_rename (scope : Scope) (chunkSize : Nat) (ids : List String) :
    hitTests (scope.rename rename) chunkSize ids =
      (hitTests scope chunkSize ids).map (·.rename rename) := by
  simp only [hitTests]
  split
  next => rfl
  next =>
      rw [List.map_map]
      rfl

end Compile

end Sramp
