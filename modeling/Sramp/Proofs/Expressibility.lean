import Sramp.Proofs.Hierarchical.Expressibility
import Sramp.Proofs.Relational.Expressibility

/-!
# What stores can state of compiled plans

Compiled plans are written for what the stores can express.  Each store refuses some of them
for one reason only: the relational store those that speak of another path than its own,
the hierarchical store those that ask for a key that cannot stand between brackets.
-/

namespace Sramp.Query

open Compile

variable {env : Environment} {query : Query} {order : Option OrderBy} {plan : Plan}

/-- A compiled plan is stated for a relational store, whatever it has stated before, if and
only if the paths of live artifacts agree, and for the hierarchical store if and only if no
key that it asks for holds a closing bracket; otherwise the store cannot express it.  All
its probes are taken as tests of entries, and none of its steps is. -/
theorem plan_expressible (compiled : query.plan env order = .ok plan) :
    (∀ root count,
      ((∃ statement next, Relational.realize root plan count = (.ok statement, next)) ↔
        root = env.settings.artifactRoot) ∧
      ∀ error next, Relational.realize root plan count = (.error error, next) →
        ∃ capability, error = .gap Relational.backendName capability) ∧
    ((∃ statement, Hierarchical.realize plan = .ok statement) ↔
      ∀ key ∈ plan.keys, ']' ∉ key.toList) ∧
    (∀ error, Hierarchical.realize plan = .error error →
      ∃ capability, error = .gap Hierarchical.backendName capability) ∧
    ∀ subquery ∈ plan.subqueries, Hierarchical.Taken subquery := by
  have asks := expressible_of_plan compiled
  refine ⟨?_, Hierarchical.exists_realize_iff asks, Hierarchical.onlyGaps_realize plan, ?_⟩
  · intro root count
    refine ⟨Relational.realize_ok_iff asks count, ?_⟩
    intro error next failed
    exact Relational.onlyGaps_realize root plan count error (by rw [failed])
  · rcases asks.guarded with ⟨constraint, constrained, guarded⟩
    intro subquery member
    simp only [Plan.subqueries, constrained, Option.map_some, Option.getD_some] at member
    exact Hierarchical.taken_of_guarded guarded subquery member

/-- `/s-ramp[@name]`, with a given name. -/
def propertyQuery (name : String) : Query where
  path := ⟨none, none⟩
  predicate := some (.single (.single (.test (.property (.plain name)) none)))

/-- The plan of the sample, which has a step with a probe inside and a probe beside it, is
stated for both stores, but not for one with another path; a custom property with a closing
bracket in its name is not looked up in the hierarchical store. -/
theorem plan_expressible_of_sample :
    ∃ plan other, sampleQuery.plan .bare none = .ok plan ∧
      (propertyQuery "a]").plan .bare none = .ok other ∧
      (∃ statement next, Relational.realize "/s-ramp" plan 7 = (.ok statement, next)) ∧
      (¬∃ statement next, Relational.realize "/trash" plan 7 = (.ok statement, next)) ∧
      (∃ statement, Hierarchical.realize plan = .ok statement) ∧
      (¬∃ statement, Hierarchical.realize other = .ok statement) ∧
      plan.subqueries.length = 3 ∧ ∀ subquery ∈ plan.subqueries, Hierarchical.Taken subquery := by
  have succeeds : (sampleQuery.plan .bare none).toOption.isSome = true := by decide +kernel
  have keys : (sampleQuery.plan .bare none).toOption.map Plan.keys = some ["status", "status"] := by
    decide +kernel
  have subqueries : (sampleQuery.plan .bare none).toOption.map (·.subqueries.length) = some 3 := by
    decide +kernel
  have otherSucceeds : ((propertyQuery "a]").plan .bare none).toOption.isSome = true := by
    decide +kernel
  have otherKeys : ((propertyQuery "a]").plan .bare none).toOption.map Plan.keys = some ["a]"] := by
    decide +kernel
  rcases exists_ok_of_isSome succeeds with ⟨plan, compiled⟩
  rcases exists_ok_of_isSome otherSucceeds with ⟨other, otherCompiled⟩
  simp only [compiled, otherCompiled, Except.toOption, Option.map_some, Option.some.injEq]
    at keys subqueries otherKeys
  rcases plan_expressible compiled with ⟨relational, hierarchical, -, taken⟩
  rcases plan_expressible otherCompiled with ⟨-, otherHierarchical, -, -⟩
  refine ⟨plan, other, compiled, otherCompiled, (relational "/s-ramp" 7).1.mpr rfl, ?_, ?_, ?_,
    subqueries, taken⟩
  · rw [(relational "/trash" 7).1]
    decide
  · rw [hierarchical, keys]
    decide
  · rw [otherHierarchical, otherKeys]
    decide

end Sramp.Query
