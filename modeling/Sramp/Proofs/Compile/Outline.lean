import Sramp.Proofs.Compile.Numbered
import Sramp.Proofs.Plan.Outline
import Sramp.Query.Build

/-!
# Outlines of compiled plans

The text of a compiled plan has one line for each node, with two spaces for each level, and the
nodes can be read off it: unless a string that the plan compares with has line breaks, which stand
in the text as they are.
-/

namespace Sramp.Query

open Compile Text

variable {env : Environment} {query : Query} {order : Option OrderBy} {plan : Plan}

theorem unbroken_of_plan (compiled : query.plan env order = .ok plan) :
    ∀ selector ∈ plan.mentioned, Unbroken selector.aliasName :=
  fun _ mentioned => unbroken_of_isAlphanum (isAlphanum_of_plan compiled mentioned)

/-- The outline of a compiled plan lists its nodes: the result, the ordering, the selectors and
joins of its source and of all subqueries, and the constraints.  The text that shows the plan has a
line for each of them and one for each line break in a string that a property is compared with.
If there is none the lines are those of the outline, and no other nodes have these lines. -/
theorem explain_of_plan (compiled : query.plan env order = .ok plan) :
    plan.nodes.lines 0 = plan.outline ∧ plan.outline.length = plan.nodeCount ∧
    (lines plan.explain).length = plan.nodeCount + (plan.shown.map Value.breaks).sum ∧
    (lines plan.explain = plan.outline.map OutlineLine.shown ↔
      ∀ value ∈ plan.shown, value.breaks = 0) ∧
    ((∀ value ∈ plan.shown, value.breaks = 0) →
      ∀ nodes : Forest, nodes.lines 0 = (lines plan.explain).map OutlineLine.ofShown ↔
        nodes = plan.nodes) := by
  have unbroken := unbroken_of_plan compiled
  refine ⟨plan.lines_nodes, plan.length_outline, Plan.length_lines_explain unbroken,
    Plan.lines_explain_iff unbroken, ?_⟩
  intro plain nodes
  rw [(Plan.lines_explain_iff unbroken).mpr plain, plan.map_ofShown, ← plan.lines_nodes]
  exact (Forest.lines_injective 0).eq_iff

/-- The plan for artifacts of a name. -/
def namePlan (name : String) : Plan :=
  let artifact : Selector := ⟨.artifact, "artifact1"⟩
  ⟨.single artifact,
    some (.and (.equals artifact (.core .name) (.string name)) (.descendant artifact "/s-ramp")),
    artifact, none⟩

/-- `/s-ramp[@name = 'a']` has five nodes. -/
theorem explain_of_plan_of_name :
    Query.plan .bare ⟨.all, some (.equals "name" "a"), none⟩ none = .ok (namePlan "a") ∧
    (namePlan "a").nodeCount = 5 ∧
    lines (namePlan "a").explain = (namePlan "a").outline.map OutlineLine.shown := by
  have compiled : Query.plan .bare ⟨.all, some (.equals "name" "a"), none⟩ none =
      .ok (namePlan "a") := rfl
  obtain ⟨-, -, -, plain, -⟩ := explain_of_plan compiled
  exact ⟨compiled, rfl, plain.mpr (by decide)⟩

/-- A name with line breaks forges a node. -/
theorem exists_forged_line :
    let name := "a\n    Exists(artifact1.uuid)\n"
    Query.plan .bare ⟨.all, some (.equals "name" name), none⟩ none = .ok (namePlan name) ∧
    (namePlan name).nodeCount = 5 ∧ (lines (namePlan name).explain).length = 7 ∧
    "    Exists(artifact1.uuid)" ∈ lines (namePlan name).explain ∧
    ⟨2, "Exists(artifact1.uuid)"⟩ ∉ (namePlan name).outline := by
  decide +kernel

end Sramp.Query
