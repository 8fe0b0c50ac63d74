import Sramp.Plan.Constraint
import Sramp.Text.Blank
import Sramp.Text.Escaped

/-!
# Outlines of plans

The text that shows a plan to a person: one line for each of its nodes, each node
indented below the one it belongs to.
-/

namespace Sramp

/-- A line of an outline and its depth. -/
structure OutlineLine where
  depth : Nat
  text : String
  deriving DecidableEq, Repr

namespace OutlineLine

/-- A line with two spaces for each level and a line break. -/
def render (line : OutlineLine) : String :=
  String.ofList (List.replicate (2 * line.depth) ' ') ++ line.text ++ "\n"

end OutlineLine

namespace Selector

/-- The kind and the alias of a selector. -/
def description (selector : Selector) : String :=
  selector.kind.name ++ " AS " ++ selector.aliasName

end Selector

namespace Source

/-- The lines of a source: a join, then the source that it extends. -/
def outline (depth : Nat) : Source → List OutlineLine
  | .single selector => [⟨depth, "Selector(" ++ selector.description ++ ")"⟩]
  | .join left right kind condition =>
      ⟨depth, "Join(" ++ kind.name ++ ", " ++ right.description ++ ", on=" ++ condition.text
        ++ ")"⟩ :: left.outline (depth + 1)

end Source

namespace Correlation

/-- The line that introduces the rows of a subquery. -/
def heading (rows : Correlation) : String :=
  "ExistsSubquery(" ++ rows.correlated.text ++ " = " ++ rows.outer.text ++ ")"

end Correlation

namespace Constraint

/-- The lines of a constraint. -/
def outline (depth : Nat) : Constraint → List OutlineLine
  | .and left right => ⟨depth, "And"⟩ :: left.outline (depth + 1) ++ right.outline (depth + 1)
  | .or left right => ⟨depth, "Or"⟩ :: left.outline (depth + 1) ++ right.outline (depth + 1)
  | .not inner => ⟨depth, "Not"⟩ :: inner.outline (depth + 1)
  | .comparison operand operator value =>
      [⟨depth, "Compare(" ++ operand.text ++ " " ++ operator.symbol ++ " " ++ value.text ++ ")"⟩]
  | .present operand => [⟨depth, "Exists(" ++ operand.text ++ ")"⟩]
  | .oneOf operand values =>
      [⟨depth, "In(" ++ operand.text ++ ", count=" ++ toString values.length ++ ")"⟩]
  | .descendant selector path =>
      [⟨depth, "Descendant(" ++ selector.aliasName ++ ", " ++ Text.escaped path ++ ")"⟩]
  | .existsRow rows => ⟨depth, rows.heading⟩ :: rows.source.outline (depth + 1)
  | .existsRowWith rows condition =>
      ⟨depth, rows.heading⟩ :: rows.source.outline (depth + 1) ++ condition.outline (depth + 1)

end Constraint

namespace SortOrder

/-- The line of an ordering. -/
def outlineText (ordering : SortOrder) : String :=
  "OrderBy(" ++ ordering.operand.text ++ (if ordering.ascending then " asc)" else " desc)")

end SortOrder

namespace Plan

/-- The lines of a plan. -/
def outline (plan : Plan) : List OutlineLine :=
  ⟨0, "Select(" ++ plan.column.aliasName ++ ")"⟩
    :: (plan.ordering.toList.map fun ordering => ⟨1, ordering.outlineText⟩)
    ++ plan.source.outline 1
    ++ plan.constraint.toList.flatMap (·.outline 1)

/-- The text of a plan, without white space at its end. -/
def explain (plan : Plan) : String :=
  String.ofList (Text.trimEnd (String.join (plan.outline.map (·.render))).toList)

end Plan

end Sramp
