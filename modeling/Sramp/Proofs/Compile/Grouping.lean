import Mathlib.Algebra.Order.Floor.Div
import Sramp.Proofs.Meaning.Store
import Sramp.Proofs.Walk.Agreement
import Sramp.Query.Build

/-!
# Hits in groups

The hits of a full-text search are asked for in groups, because a store takes only so many
values in one membership test.  Cutting them into groups loses no hit and keeps their order;
all groups are full but the last one, so there are no more of them than needed.  A row
satisfies the tests of the groups, connected by `or`, exactly if its artifact is a hit.
-/

namespace Sramp.Compile

open Query

section Cutting

variable {α : Type} {size : Nat} {values : List α}

/-- A list is cut into groups of a size, the last of which may be smaller.  Only where there
is nothing to cut is a group empty. -/
structure Cut (size : Nat) (values : List α) (full : List (List α)) (last : List α) : Prop where
  flatten : (full ++ [last]).flatten = values
  full_length : ∀ group ∈ full, group.length = size
  last_length : last.length ≤ size
  ne_nil : values ≠ [] → ∀ group ∈ full ++ [last], group ≠ []
  count : values ≠ [] → (full ++ [last]).length = values.length ⌈/⌉ size
  of_nil : values = [] → full = [] ∧ last = []

/-- With nothing to cut there is one group, which is empty. -/
theorem cut_nil : Cut size ([] : List α) [] [] where
  flatten := rfl
  full_length := nofun
  last_length := Nat.zero_le size
  ne_nil := nofun
  count := nofun
  of_nil _ := ⟨rfl, rfl⟩

/-- What fits into one group is not cut. -/
theorem cut_of_length_le (nonempty : values ≠ []) (fits : values.length ≤ size) :
    Cut size values [] values where
  flatten := List.append_nil values
  full_length := nofun
  last_length := fits
  ne_nil _ group member := by
    cases List.mem_singleton.mp member
    exact nonempty
  count _ := by
    have positive : 0 < values.length := List.length_pos_iff.mpr nonempty
    rw [Nat.ceilDiv_eq_add_pred_div]
    symm
    apply Nat.div_eq_of_lt_le <;> simp only [List.nil_append, List.length_singleton] <;> omega
  of_nil empty := ⟨rfl, empty⟩

/-- A full group is put in front of what is left. -/
theorem Cut.cons {group rest last : List α} {full : List (List α)} (positive : 0 < size)
    (fills : group.length = size) (nonempty : rest ≠ []) (cut : Cut size rest full last) :
    Cut size (group ++ rest) (group :: full) last where
  flatten := congrArg (group ++ ·) cut.flatten
  full_length := List.forall_mem_cons.mpr ⟨fills, cut.full_length⟩
  last_length := cut.last_length
  ne_nil _ := by
    rw [List.cons_append, List.forall_mem_cons]
    exact ⟨List.ne_nil_of_length_pos (by omega), cut.ne_nil nonempty⟩
  count _ := by
    have further := cut.count nonempty
    rw [Nat.ceilDiv_eq_add_pred_div] at further ⊢
    have longer : (group ++ rest).length + size - 1 = rest.length + size - 1 + size := by
      rw [List.length_append]
      omega
    rw [List.cons_append, List.length_cons, further, longer, Nat.add_div_right _ positive]
  of_nil empty := absurd (List.append_eq_nil_iff.mp empty).2 nonempty

/-- The groups that a list is cut into are full but for the last one. -/
theorem exists_cut_chunks (positive : 0 < size) (nonempty : values ≠ []) :
    ∃ full last, chunks size values = full ++ [last] ∧ Cut size values full last := by
  fun_induction chunks size values with
  | case1 values spent =>
      obtain zero | empty := spent
      · omega
      · exact absurd empty nonempty
  | case2 values _ ih =>
      by_cases fits : values.length ≤ size
      · refine ⟨[], values, ?_, cut_of_length_le nonempty fits⟩
        rw [List.take_of_length_le fits, List.drop_of_length_le fits, chunks, dif_pos (.inr rfl)]
        rfl
      · have further : values.drop size ≠ [] := by
          rw [Ne, List.drop_eq_nil_iff]
          exact fits
        have fills : (values.take size).length = size := List.length_take_of_le (by omega)
        obtain ⟨full, last, rest, cut⟩ := ih further
        refine ⟨values.take size :: full, last, congrArg (values.take size :: ·) rest, ?_⟩
        have whole := cut.cons positive fills further
        rwa [List.take_append_drop] at whole

end Cutting

/-- An artifact's UUID is one of a group of identifiers. -/
def groupTest (artifact : Selector) (group : List String) : Constraint :=
  .oneOf (artifact.operand (.core .uuid)) (group.map .string)

/-- An artifact's UUID is in one of some groups, each connected with those that follow it. -/
def groupTests (artifact : Selector) (full : List (List String)) (last : List String) :
    Constraint :=
  full.foldr (fun group others => .or (groupTest artifact group) others)
    (groupTest artifact last)

/-- Connecting the tests of groups connects each with those that follow it. -/
theorem any_groupTest (artifact : Selector) (full : List (List String)) (last : List String) :
    Constraint.any ((full ++ [last]).map (groupTest artifact)) =
      some (groupTests artifact full last) :=
  Constraint.joinAll_map_concat .or (groupTest artifact) full last

/-- The tests for the hits of a search are connected group by group. -/
theorem exists_cut_hitTests {size : Nat} (positive : 0 < size) (ids : List String) :
    ∃ full last, Cut size ids full last ∧ ∀ scope : Scope,
      Constraint.any (hitTests scope size ids) =
        some (groupTests scope.artifact full last) := by
  cases ids with
  | nil => exact ⟨[], [], cut_nil, fun _ => rfl⟩
  | cons first rest =>
      obtain ⟨full, last, groups, cut⟩ :=
        exists_cut_chunks positive (List.cons_ne_nil first rest)
      refine ⟨full, last, cut, ?_⟩
      intro scope
      rw [← any_groupTest, ← groups]
      rfl

/-- Where membership in a list of values means that the artifact's UUID is one of them, the
tests of the groups hold exactly if it is in a group. -/
theorem holds_groupTests {store : Store} {row : Row store} {artifact : Selector}
    {node : store.Node} {uuid : String} (stands : row.node artifact = some node)
    (member_iff : ∀ values, store.OneOf node (.core .uuid) values ↔ .string uuid ∈ values)
    (full : List (List String)) (last : List String) :
    (groupTests artifact full last).Holds row ↔ uuid ∈ (full ++ [last]).flatten := by
  have holds_iff (group : List String) :
      (groupTest artifact group).Holds row ↔ uuid ∈ group := by
    rw [groupTest, Constraint.holds_oneOf stands]
    simp [member_iff, Selector.operand]
  induction full with
  | nil => simp [groupTests, holds_iff]
  | cons group full ih =>
      have either : (groupTests artifact (group :: full) last).Holds row ↔
          (groupTest artifact group).Holds row ∨ (groupTests artifact full last).Holds row :=
        Iff.rfl
      rw [List.cons_append, List.flatten_cons, List.mem_append]
      exact either.trans (or_congr (holds_iff group) ih)

end Sramp.Compile

namespace Sramp.Query

open Compile

variable {env : Environment} {call : FunctionCall} {subject : Argument} {pattern : String}
variable {ids : List String}

/-- No query is compiled with groups of no size. -/
theorem plan_of_zeroChunkSize (zero : env.settings.chunkSize = 0) (query : Query)
    (order : Option OrderBy) :
    query.plan env order = .error (.invalidSettings .zeroChunkSize) := by
  rw [plan, Settings.fault?, if_pos zero]

/-- A search of the full text is visited by asking for its hits. -/
theorem visit_fullText (named : Function.ofName call.name = .ok .matching)
    (given : call.arguments = [subject, .primary (.literal pattern)])
    (item : isContextItem subject = true)
    (found : env.services.search pattern env.settings.fullTextFields = .ok ids) (walk : Walk)
    {constraint : Constraint}
    (made : Constraint.any (hitTests walk.scope env.settings.chunkSize ids) = some constraint) :
    call.visit env walk = .ok (.constraint, walk.collect [constraint]) := by
  cases call with
  | mk name arguments =>
      simp only [FunctionCall.name, FunctionCall.arguments] at named given
      have searched : Visit.fullText env pattern walk = .ok ((), walk.collect [constraint]) := by
        have answered : Visit.allocate (answer ((env.services.search pattern
            env.settings.fullTextFields).mapError .fullText)) walk = .ok (ids, walk) := by
          rw [found]
          rfl
        have same : walk.top.scope = walk.scope := rfl
        apply (bind_of_ok answered).trans
        rw [Visit.top_bind, same, made]
        rfl
      have literal : Visit.allocate (literalArgument (.primary (.literal pattern))) walk =
          .ok (pattern, walk) := rfl
      unfold FunctionCall.visit
      rw [named]
      simp only [Visit.matching, FunctionCall.arguments, given, item, if_true]
      exact (bind_of_ok literal).trans (bind_of_ok searched)

/-- The hits of a full-text search are asked for in groups of the size that the settings give.
Where that is zero nothing is compiled. -/
theorem fullText_grouped (named : Function.ofName call.name = .ok .matching)
    (given : call.arguments = [subject, .primary (.literal pattern)])
    (item : isContextItem subject = true)
    (found : env.services.search pattern env.settings.fullTextFields = .ok ids) :
    (env.settings.chunkSize = 0 → ∀ (query : Query) (order : Option OrderBy),
      query.plan env order = .error (.invalidSettings .zeroChunkSize)) ∧
    (0 < env.settings.chunkSize → ∃ full last, Cut env.settings.chunkSize ids full last ∧
      (∀ walk : Walk, call.visit env walk =
        .ok (.constraint, walk.collect [groupTests walk.top.artifact full last])) ∧
      (∀ scope nested aliases, Yields (call.outcome env scope nested) aliases
        (.settled (groupTests scope.artifact full last)) aliases) ∧
      ∀ {store : Store} (row : Row store) (artifact : Selector) (node : store.Node)
        (uuid : String), row.node artifact = some node →
        (∀ values, store.OneOf node (.core .uuid) values ↔ .string uuid ∈ values) →
        ((groupTests artifact full last).Holds row ↔ uuid ∈ ids)) := by
  refine ⟨plan_of_zeroChunkSize, ?_⟩
  intro positive
  obtain ⟨full, last, cut, made⟩ := exists_cut_hitTests positive ids
  refine ⟨full, last, cut, ?_, ?_, ?_⟩
  · intro walk
    exact visit_fullText named given item found walk (made walk.scope)
  · intro scope nested aliases
    rw [yields_outcome, named]
    refine ⟨_, rfl, yields_matchTest.mpr ⟨subject, pattern, given, ?_⟩⟩
    rw [if_pos item]
    exact yields_fullTextTest.mpr ⟨ids, found, made scope, rfl⟩
  · intro store row artifact node uuid stands member_iff
    rw [holds_groupTests stands member_iff, cut.flatten]

/-- `fn:matches(., 'pattern')` -/
def FunctionCall.fullText (pattern : String) : FunctionCall :=
  .xpath "matches" [.context, .literal pattern]

/-- Services whose every search has the same hits, and settings with groups of a size. -/
def hitEnvironment (size : Nat) (ids : List String) : Environment :=
  { Environment.bare with
    services := { Environment.bare.services with search := fun _ _ => .ok ids }
    settings := { chunkSize := size } }

/-- The store of one artifact, which is known only by its UUID. -/
def uuidStore (uuid : String) : Store where
  Node := Unit
  Key := Unit
  kind _ := .artifact
  Beneath _ _ := False
  field _ _ := some ()
  id _ := ()
  field_id _ := rfl
  eq_of_id _ _ := rfl
  Compares _ _ _ _ := False
  Present _ _ := False
  OneOf _ _ values := .string uuid ∈ values
  Under _ _ := False

/-- Five hits, one of them twice, are asked for in three groups of at most two; an artifact
with the UUID `c` is found.  With groups of no size there is no plan. -/
theorem fullText_grouped_of_hits :
    (sampleQuery.plan (hitEnvironment 0 ["a", "b", "a", "c", "d"]) none =
      .error (.invalidSettings .zeroChunkSize)) ∧
    ∃ full last, (full ++ [last]).flatten = ["a", "b", "a", "c", "d"] ∧
      (full ++ [last]).length = 3 ∧ (∀ group ∈ full, group.length = 2) ∧
      (FunctionCall.fullText "x.*").visit (hitEnvironment 2 ["a", "b", "a", "c", "d"]) .start =
        .ok (.constraint, Walk.start.collect [groupTests Walk.start.root full last]) ∧
      (groupTests Walk.start.root full last).Holds
        ((Row.empty : Row (uuidStore "c")).bind Walk.start.root ()) := by
  have searched (size : Nat) := @fullText_grouped (hitEnvironment size ["a", "b", "a", "c", "d"])
    (.fullText "x.*") .context "x.*" ["a", "b", "a", "c", "d"] rfl rfl rfl rfl
  refine ⟨(searched 0).1 rfl sampleQuery none, ?_⟩
  obtain ⟨full, last, cut, visited, -, holds_iff⟩ := (searched 2).2 (by decide)
  refine ⟨full, last, cut.flatten, ?_, cut.full_length, visited .start, ?_⟩
  · exact (cut.count (by decide)).trans (by decide)
  · have hit := @holds_iff (uuidStore "c") (Row.empty.bind Walk.start.root ()) Walk.start.root ()
      "c" (Row.node_bind_self _ _ _) (fun _ => Iff.rfl)
    exact hit.mpr (by decide)

end Sramp.Query
