import Sramp.Proofs.Compile.Scoping
import Sramp.Proofs.Meaning.Rows

/-!
# Predicates keep their meaning

The constraint of a compiled predicate holds of a row exactly if the predicate holds of
the nodes that the selectors of its scope stand for.  The proof follows the syntax; for
each step and probe it needs that the aliases in one source differ, which is where the
order in which they were given matters.
-/

namespace Sramp

open Compile Query

variable {store : Store} {row : Row store} {env : Environment}

/-- The selectors of a scope stand for an artifact and for the nodes by which it was
reached. -/
structure Compile.Scope.Stands (row : Row store) (scope : Scope) (focus : Focus store) :
    Prop where
  kind : scope.artifact.kind = .artifact
  artifact : row.Stands scope.artifact focus.artifact
  edge : ∀ edge ∈ scope.edge, ∃ passage, focus.passage = some passage ∧
    ∀ part : EdgePart, row.Stands (part.selector edge) (passage.part part)

/-- What a test is compiled to is about the same as the test. -/
inductive Compile.Tested.Denotes (row : Row store) : Tested → Referent store → Prop where
  | direct {operand : Operand} {node : store.Node} :
      row.node operand.selector = some node →
      Denotes row (.direct operand) (.property node operand.property)
  | entries {found : Probe} {node : store.Node} :
      row.Stands found.outer node → found.owner.kind = found.outer.kind →
      found.owner.aliasName ≠ found.entry.aliasName →
      Denotes row (.entries found) (.entries node found.entry.kind found.key)

namespace Compile.Tested.Denotes

variable {tested : Tested} {referent : Referent store}

theorem property_eq (denotes : tested.Denotes row referent) :
    tested.property = referent.valueProperty := by
  cases denotes <;> rfl

theorem holds_exists (denotes : tested.Denotes row referent) :
    tested.exists?.Holds row ↔ referent.Exists := by
  cases denotes with
  | direct stands => exact Constraint.holds_present stands
  | entries stands same different =>
      apply (exists_row_of_probe different same stands).trans
      simp only [Referent.Exists, Referent.HasEntry]
      apply exists_congr
      intro entry
      apply and_congr_right
      intro _
      apply and_congr_right
      intro _
      exact Constraint.holds_comparison (Row.node_bind_self _ _ _)

theorem holds_compare (denotes : tested.Denotes row referent) {operator : Operator}
    {value : Value} :
    (tested.compare operator value).Holds row ↔ referent.Compares operator value := by
  cases denotes with
  | direct stands => exact Constraint.holds_comparison stands
  | entries stands same different =>
      apply (exists_row_of_probe different same stands).trans
      simp only [Referent.Compares, Referent.HasEntry, and_assoc]
      apply exists_congr
      intro entry
      apply and_congr_right
      intro _
      apply and_congr_right
      intro _
      apply and_congr
      · exact Constraint.holds_comparison (Row.node_bind_self _ _ _)
      · exact Constraint.holds_comparison (Row.node_bind_self _ _ _)

/-- A test, with or without a comparison, keeps its meaning. -/
theorem holds_test (denotes : tested.Denotes row referent)
    {comparison : Option (Operator × Primary)} {start finish : Aliases}
    {constraint : Constraint}
    (run : Yields (testConstraint env tested comparison) start constraint finish) :
    constraint.Holds row ↔ referent.Passes env comparison := by
  match comparison with
  | none =>
      simp only [testConstraint, yields_pure] at run
      rcases run with ⟨rfl, -⟩
      exact denotes.holds_exists
  | some (operator, literal) =>
      simp only [testConstraint, yields_bind, yields_answer, yields_pure] at run
      rcases run with ⟨value, _, ⟨coerced, -⟩, rfl, -⟩
      rw [denotes.holds_compare, Referent.Passes, ← denotes.property_eq]
      constructor
      · intro compares
        exact ⟨value, coerced, compares⟩
      · intro compared
        rcases compared with ⟨other, coerced', compares⟩
        rw [coerced] at coerced'
        cases coerced'
        exact compares

end Compile.Tested.Denotes

variable {scope : Scope} {focus : Focus store} {start finish : Aliases}

/-- A probe is about the entries of the node for which it was made. -/
theorem denotes_of_probe {outer : Selector} {kind : NodeKind} {key : String} {found : Probe}
    {node : store.Node} (stands : row.Stands outer node)
    (probed : Yields (probe outer kind key) start found finish) :
    (Tested.entries found).Denotes row (.entries node kind key) := by
  rcases yields_probe.mp probed with ⟨rfl, -⟩
  have owner := Aliases.gives_next start outer.kind
  have entry := Aliases.gives_next (start.bump (.ofKind outer.kind)) kind
  exact .entries stands rfl (owner.alias_ne entry)

/-- A named property is what its name refers to at the artifact of the scope. -/
theorem denotes_of_testedProperty {name : QName} {tested : Tested}
    (stands : scope.Stands row focus)
    (run : Yields (testedProperty scope name) start tested finish) :
    ∃ referent, Referent.named? focus.artifact name = some referent ∧
      tested.Denotes row referent := by
  rcases yields_testedProperty.mp run with
    ⟨known, ⟨property, core, rfl, -⟩ | ⟨custom, found, rfl, probed⟩⟩
  · refine ⟨_, ?_, .direct stands.artifact.node_eq⟩
    simp [Referent.named?, known, core, Selector.operand]
  · refine ⟨_, ?_, denotes_of_probe stands.artifact probed⟩
    simp [Referent.named?, known, custom]

/-- A classification test keeps its meaning. -/
theorem holds_of_classificationTest {any normalized : Bool} {call : FunctionCall}
    {constraint : Constraint} (stands : scope.Stands row focus)
    (run : Yields (classificationTest env scope any normalized call) start constraint finish) :
    constraint.Holds row ↔ ∃ terms,
      call.arguments.drop 1 = terms.map (fun term => .primary (.literal term)) ∧
      Classified env focus.artifact any normalized terms := by
  rcases yields_classificationTest.mp run with ⟨terms, uris, literals, -, resolved, made, -⟩
  have class_iff (uri : String) :
      (Constraint.equals scope.artifact (.classifier normalized) (.string uri)).Holds row ↔
        store.Compares focus.artifact (.classifier normalized) .eq (.string uri) :=
    Constraint.holds_comparison stands.artifact.node_eq
  have connected : constraint.Holds row ↔
      if any then ∃ uri ∈ uris.toList,
        store.Compares focus.artifact (.classifier normalized) .eq (.string uri)
      else ∀ uri ∈ uris.toList,
        store.Compares focus.artifact (.classifier normalized) .eq (.string uri) := by
    cases any with
    | true =>
        apply (Constraint.holds_any made).trans
        simp [class_iff]
    | false =>
        apply (Constraint.holds_all made).trans
        simp [class_iff]
  rw [connected]
  constructor
  · intro holds
    exact ⟨terms, literals, uris, resolved, holds⟩
  · intro resolves
    rcases resolves with ⟨others, same, found, resolved', holds⟩
    have injective : ∀ one other : String,
        Argument.primary (.literal one) = .primary (.literal other) → one = other := by
      simp
    rw [literals, List.map_inj_right injective] at same
    rw [← same, resolved] at resolved'
    cases resolved'
    exact holds

/-- The tests for groups of hits are tests of membership. -/
theorem exists_hitTests_iff {size : Nat} {ids : List String} (stands : scope.Stands row focus) :
    (∃ test ∈ hitTests scope size ids, test.Holds row) ↔
      ∃ group ∈ hitGroups size ids,
        store.OneOf focus.artifact (.core .uuid) (group.map .string) := by
  have group_iff (group : List Value) :
      (Constraint.oneOf (scope.artifact.operand (.core .uuid)) group).Holds row ↔
        store.OneOf focus.artifact (.core .uuid) group :=
    Constraint.holds_oneOf stands.artifact.node_eq
  rw [hitTests, hitGroups]
  cases ids with
  | nil => simp [group_iff]
  | cons first rest => simp [group_iff]

/-- A full-text test keeps its meaning. -/
theorem holds_of_fullTextTest {pattern : String} {constraint : Constraint}
    (stands : scope.Stands row focus)
    (run : Yields (fullTextTest env scope pattern) start constraint finish) :
    constraint.Holds row ↔ Hit env focus.artifact pattern := by
  rcases yields_fullTextTest.mp run with ⟨ids, found, made, -⟩
  rw [Constraint.holds_any made, exists_hitTests_iff stands]
  constructor
  · intro holds
    exact ⟨ids, found, holds⟩
  · intro hits
    rcases hits with ⟨others, found', holds⟩
    rw [found] at found'
    cases found'
    exact holds

/-- A match keeps its meaning. -/
theorem holds_of_matchTest {call : FunctionCall} {constraint : Constraint}
    (stands : scope.Stands row focus)
    (run : Yields (matchTest env scope call) start constraint finish) :
    constraint.Holds row ↔ ∃ subject pattern,
      call.arguments = [subject, .primary (.literal pattern)] ∧
      Query.Matched env focus.artifact subject pattern := by
  rcases yields_matchTest.mp run with ⟨subject, pattern, given, run⟩
  have matched : constraint.Holds row ↔ Query.Matched env focus.artifact subject pattern := by
    rw [Query.Matched]
    split at run
    next item =>
        rw [if_pos item]
        exact holds_of_fullTextTest stands run
    next item =>
        rw [if_neg item]
        rcases run with ⟨name, tested, named, tests, rfl⟩
        rcases denotes_of_testedProperty stands tests with ⟨referent, found, denotes⟩
        rw [denotes.holds_compare]
        constructor
        · intro compares
          exact ⟨name, referent, named, found, compares⟩
        · intro compared
          rcases compared with ⟨name', referent', named', found', compares⟩
          rw [named] at named'
          simp only [Argument.expr.injEq, Expr.single.injEq, OrExpr.single.injEq,
            EqualityExpr.test.injEq, Subject.property.injEq, and_true] at named'
          rw [← named', found] at found'
          cases found'
          exact compares
  rw [matched, given]
  constructor
  · intro holds
    exact ⟨subject, pattern, rfl, holds⟩
  · intro matched
    rcases matched with ⟨subject', pattern', same, holds⟩
    simp only [List.cons.injEq, Argument.primary.injEq, Primary.literal.injEq, and_true] at same
    rcases same with ⟨rfl, rfl⟩
    exact holds

/-- A look-up of an attribute is about that attribute. -/
theorem denotes_of_attributeProbe {part : EdgePart} {call : FunctionCall} {found : Probe}
    (stands : scope.Stands row focus)
    (run : Yields (attributeProbe scope part call) start found finish) :
    ∃ subject key passage, call.arguments = [subject, .primary (.literal key)] ∧
      focus.passage = some passage ∧
      (Tested.entries found).Denotes row
        (.entries (passage.part part) part.attributeKind key) := by
  rcases yields_attributeProbe.mp run with ⟨subject, key, edge, given, leads, probed⟩
  rcases stands.edge edge leads with ⟨passage, reached, parts⟩
  exact ⟨subject, key, passage, given, reached, denotes_of_probe (parts part) probed⟩

/-- What a function call is compiled to keeps its meaning; entries may still be compared
with a value. -/
def Compile.Outcome.Keeps (env : Environment) (row : Row store) (focus : Focus store)
    (call : FunctionCall) : Outcome → Prop
  | .settled constraint => constraint.Holds row ↔ call.Holds env focus none
  | .entries found => ∃ referent, (Tested.entries found).Denotes row referent ∧
      ∀ comparison, call.Holds env focus comparison ↔ referent.Passes env comparison

/-! ## Steps -/

/-- The scope of an artifact that was reached by a relationship and a target. -/
theorem stands_of_edge {inner : Row store} {edge : Edge} {far : Selector}
    {passage : Passage store} {other : store.Node} (kind : far.kind = .artifact)
    (relationship : inner.Stands edge.relationship passage.relationship)
    (target : inner.Stands edge.target passage.target) (artifact : inner.Stands far other) :
    Scope.Stands inner ⟨far, some edge⟩ ⟨other, some passage⟩ where
  kind := kind
  artifact := artifact
  edge := by
    intro given same
    cases same
    refine ⟨passage, rfl, fun part => ?_⟩
    cases part with
    | relationship => exact relationship
    | target => exact target

section Steps

variable {relationshipType : String} {Holds : Row store → Prop} {Reads : Focus store → Prop}

/-- A step to documents keeps its meaning, together with a test of the document. -/
theorem exists_document_iff {document owner : Selector} {first second : Aliases}
    (derived : env.settings.isDerived relationshipType = true)
    (stands : scope.Stands row focus)
    (documentRun : Yields (fresh .artifact) start document first) (le : first ≤ second)
    (ownerRun : Yields (fresh .artifact) second owner finish)
    (keeps : ∀ {inner : Row store} {reached : Focus store},
      Scope.Stands inner ⟨document, none⟩ reached → (Holds inner ↔ Reads reached)) :
    (∃ inner : Row store, (documentsOf document owner scope.artifact).source.Binds inner ∧
        inner.Joins (documentsOf document owner scope.artifact).correlated row
          (documentsOf document owner scope.artifact).outer ∧ Holds inner) ↔
      ∃ reached, Leads env relationshipType focus.artifact reached ∧ Reads reached := by
  have documentKind := kind_of_fresh documentRun
  have different : document.aliasName ≠ owner.aliasName :=
    ((gives_of_fresh documentRun).mono (le_refl _) le).alias_ne (gives_of_fresh ownerRun)
  have inside {other : store.Node} (kind : store.kind other = .artifact) :
      Scope.Stands ((Row.empty.bind document other).bind owner focus.artifact)
        ⟨document, none⟩ ⟨other, none⟩ :=
    ⟨documentKind, (Row.stands_bind (kind.trans documentKind.symm)).bind different, by simp⟩
  apply (exists_row_of_documentsOf different documentKind
    ((kind_of_fresh ownerRun).trans stands.kind.symm) stands.artifact).trans
  simp only [Leads, if_pos derived]
  constructor
  · intro found
    rcases found with ⟨other, kind, beneath, holds⟩
    exact ⟨⟨other, none⟩, ⟨kind, beneath, rfl⟩, (keeps (inside kind)).mp holds⟩
  · intro led
    rcases led with ⟨⟨other, passage⟩, ⟨kind, beneath, rfl⟩, reads⟩
    exact ⟨other, kind, beneath, (keeps (inside kind)).mpr reads⟩

/-- A step to documents keeps its meaning. -/
theorem holds_documents {document owner : Selector} {between : Aliases}
    (derived : env.settings.isDerived relationshipType = true)
    (stands : scope.Stands row focus)
    (documentRun : Yields (fresh .artifact) start document between)
    (ownerRun : Yields (fresh .artifact) between owner finish) :
    (Constraint.existsRow (documentsOf document owner scope.artifact)).Holds row ↔
      (SubartifactSet.relationship relationshipType none none).Holds env focus := by
  have untested {inner : Row store} {reached : Focus store}
      (_ : Scope.Stands inner ⟨document, none⟩ reached) : True ↔ True := Iff.rfl
  have whole := exists_document_iff derived stands documentRun (le_refl _) ownerRun untested
  simp only [and_true] at whole
  rw [SubartifactSet.Holds, if_pos derived]
  exact whole

/-- A step to documents with a predicate keeps its meaning if the predicate does. -/
theorem holds_documentsWith {document owner : Selector} {predicate : Expr}
    {condition : Constraint} {first second : Aliases}
    (derived : env.settings.isDerived relationshipType = true)
    (stands : scope.Stands row focus)
    (documentRun : Yields (fresh .artifact) start document first) (le : first ≤ second)
    (ownerRun : Yields (fresh .artifact) second owner finish)
    (keeps : ∀ {inner : Row store} {reached : Focus store},
      Scope.Stands inner ⟨document, none⟩ reached →
        (condition.Holds inner ↔ predicate.Holds env reached)) :
    (Constraint.existsRowWith (documentsOf document owner scope.artifact) condition).Holds row ↔
      (SubartifactSet.relationship relationshipType (some predicate) none).Holds env focus := by
  rw [SubartifactSet.Holds]
  exact exists_document_iff derived stands documentRun le ownerRun keeps

/-- A test of the type of a relationship is about the relationship it stands for. -/
theorem holds_typeTest {inner : Row store} {relationship : Selector} {node : store.Node}
    (stands : inner.node relationship = some node) :
    (typeTest relationship relationshipType).Holds inner ↔
      store.Compares node .relationshipType .eq (.string relationshipType) :=
  Constraint.holds_comparison stands

/-- A step over relationships keeps its meaning. -/
theorem holds_relationships {relationship owner : Selector} {between : Aliases}
    (related : env.settings.isDerived relationshipType = false)
    (stands : scope.Stands row focus)
    (relationshipRun : Yields (fresh .relationship) start relationship between)
    (ownerRun : Yields (fresh .artifact) between owner finish) :
    (Constraint.existsRowWith (ownedBy (.single relationship) relationship owner scope.artifact)
        (typeTest relationship relationshipType)).Holds row ↔
      (SubartifactSet.relationship relationshipType none none).Holds env focus := by
  have different : relationship.aliasName ≠ owner.aliasName :=
    (gives_of_fresh relationshipRun).alias_ne (gives_of_fresh ownerRun)
  rw [SubartifactSet.Holds, if_neg (Bool.eq_false_iff.mp related)]
  apply (exists_row_of_ownedBy different ((kind_of_fresh ownerRun).trans stands.kind.symm)
    stands.artifact).trans
  rw [Source.exists_binds_single]
  simp only [Row.node_bind_self, Option.some.injEq, exists_eq_left',
    kind_of_fresh relationshipRun, Relates]
  apply exists_congr
  intro node
  apply and_congr_right
  intro _
  apply and_congr_right
  intro _
  apply holds_typeTest
  rw [Row.node_bind_of_ne different, Row.node_bind_self]

/-- A step over relationships keeps its meaning, together with a test of the artifacts
it leads to. -/
theorem exists_related_iff {relationship target far owner : Selector}
    {first second third fourth : Aliases}
    (related : env.settings.isDerived relationshipType = false)
    (stands : scope.Stands row focus)
    (relationshipRun : Yields (fresh .relationship) start relationship first)
    (targetRun : Yields (fresh .target) first target second)
    (farRun : Yields (fresh .artifact) second far third) (le : third ≤ fourth)
    (ownerRun : Yields (fresh .artifact) fourth owner finish)
    (keeps : ∀ {inner : Row store} {reached : Focus store},
      Scope.Stands inner ⟨far, some ⟨relationship, target⟩⟩ reached →
      (Holds inner ↔ Reads reached)) :
    (∃ inner : Row store,
        (ownedBy (joinFar (.single relationship) ⟨relationship, target⟩ far) relationship owner
          scope.artifact).source.Binds inner ∧
        inner.Joins (owner.operand .id) row (scope.artifact.operand .id) ∧
        (typeTest relationship relationshipType).Holds inner ∧ Holds inner) ↔
      ∃ reached, Leads env relationshipType focus.artifact reached ∧ Reads reached := by
  have relationshipKind := kind_of_fresh relationshipRun
  have targetKind := kind_of_fresh targetRun
  have farKind := kind_of_fresh farRun
  -- All aliases in the source differ, as they were given one after another.
  have distinct := ((allocates_of_fresh relationshipRun).append ((allocates_of_fresh
    targetRun).append ((allocates_of_fresh farRun).append ((Aliases.allocates_of_le le).append
      (allocates_of_fresh ownerRun))))).distinct
  simp only [List.nil_append, List.cons_append, List.map_cons, List.map_nil, List.nodup_cons,
    List.mem_cons, List.not_mem_nil, or_false, not_or] at distinct
  rcases distinct with
    ⟨⟨relationshipTarget, relationshipFar, relationshipOwner⟩, ⟨targetFar, targetOwner⟩, farOwner,
      -⟩
  apply (exists_row_of_ownedBy relationshipOwner
    ((kind_of_fresh ownerRun).trans stands.kind.symm) stands.artifact).trans
  rw [Source.exists_binds_joinFar ⟨targetKind, farKind⟩ relationshipTarget targetFar,
    Source.exists_binds_single]
  simp only [Row.node_bind_self, Row.node_bind_of_ne relationshipFar,
    Row.node_bind_of_ne relationshipTarget, Option.some.injEq, exists_eq_left',
    relationshipKind]
  have inside {node pointer other : store.Node} (kind : store.kind node = .relationship)
      (targets : Targets ⟨node, pointer⟩ other) :
      Scope.Stands
        ((((Row.empty.bind relationship node).bind target pointer).bind far other).bind owner
          focus.artifact)
        ⟨far, some ⟨relationship, target⟩⟩ ⟨other, some ⟨node, pointer⟩⟩ := by
    apply stands_of_edge farKind
    · refine (((Row.stands_bind ?_).bind relationshipTarget).bind relationshipFar).bind
        relationshipOwner
      exact kind.trans relationshipKind.symm
    · refine ((Row.stands_bind ?_).bind targetFar).bind targetOwner
      exact targets.1.trans targetKind.symm
    · refine (Row.stands_bind ?_).bind farOwner
      exact targets.2.2.1.trans farKind.symm
  simp only [Leads, related, Bool.false_eq_true, if_false]
  constructor
  · intro joined
    rcases joined with ⟨node, kind, pointer, other, targets, beneath, typed, holds⟩
    have stands' := inside kind targets
    rcases stands'.edge _ rfl with ⟨_, same, parts⟩
    cases same
    exact ⟨⟨other, some ⟨node, pointer⟩⟩,
      ⟨_, rfl, ⟨kind, beneath, (holds_typeTest (parts .relationship).node_eq).mp typed⟩, targets⟩,
      (keeps stands').mp holds⟩
  · intro led
    rcases led with ⟨⟨other, _⟩, ⟨⟨node, pointer⟩, rfl, ⟨kind, beneath, typed⟩, targets⟩, reads⟩
    have stands' := inside kind targets
    rcases stands'.edge _ rfl with ⟨_, same, parts⟩
    cases same
    exact ⟨node, kind, pointer, other, targets, beneath,
      (holds_typeTest (parts .relationship).node_eq).mpr typed, (keeps stands').mpr reads⟩

/-- A step over relationships with a predicate keeps its meaning if the predicate does. -/
theorem holds_relationshipsWith {relationship target far owner : Selector} {predicate : Expr}
    {condition : Constraint} {first second third fourth : Aliases}
    (related : env.settings.isDerived relationshipType = false)
    (stands : scope.Stands row focus)
    (relationshipRun : Yields (fresh .relationship) start relationship first)
    (targetRun : Yields (fresh .target) first target second)
    (farRun : Yields (fresh .artifact) second far third) (le : third ≤ fourth)
    (ownerRun : Yields (fresh .artifact) fourth owner finish)
    (keeps : ∀ {inner : Row store} {reached : Focus store},
      Scope.Stands inner ⟨far, some ⟨relationship, target⟩⟩ reached →
        (condition.Holds inner ↔ predicate.Holds env reached)) :
    (Constraint.existsRowWith
        (ownedBy (joinFar (.single relationship) ⟨relationship, target⟩ far) relationship owner
          scope.artifact)
        (.and (typeTest relationship relationshipType) condition)).Holds row ↔
      (SubartifactSet.relationship relationshipType (some predicate) none).Holds env focus := by
  rw [SubartifactSet.Holds]
  exact exists_related_iff related stands relationshipRun targetRun farRun le ownerRun keeps

end Steps

end Sramp

namespace Sramp.Query

open Compile

variable {store : Store} {env : Environment}

mutual

theorem Expr.holds_iff (expr : Expr) {scope : Scope} {nested : Bool} {start finish : Aliases}
    {constraint : Constraint} {row : Row store} {focus : Focus store}
    (stands : scope.Stands row focus)
    (run : Yields (expr.constraint env scope nested) start constraint finish) :
    constraint.Holds row ↔ expr.Holds env focus := by
  cases expr with
  | single left =>
      rw [Expr.constraint] at run
      rw [Expr.Holds]
      exact left.holds_iff stands run
  | chain left right =>
      simp only [Expr.constraint, yields_bind, yields_pure] at run
      rcases run with ⟨first, between, leftRun, second, _, rightRun, rfl, rfl⟩
      rw [Expr.Holds]
      exact and_congr (left.holds_iff stands leftRun) (right.holds_iff stands rightRun)

theorem OrExpr.holds_iff (expr : OrExpr) {scope : Scope} {nested : Bool}
    {start finish : Aliases} {constraint : Constraint} {row : Row store} {focus : Focus store}
    (stands : scope.Stands row focus)
    (run : Yields (expr.constraint env scope nested) start constraint finish) :
    constraint.Holds row ↔ expr.Holds env focus := by
  cases expr with
  | single left =>
      rw [OrExpr.constraint] at run
      rw [OrExpr.Holds]
      exact left.holds_iff stands run
  | chain left right =>
      simp only [OrExpr.constraint, yields_bind, yields_pure] at run
      rcases run with ⟨first, between, leftRun, second, _, rightRun, rfl, rfl⟩
      rw [OrExpr.Holds]
      exact or_congr (left.holds_iff stands leftRun) (right.holds_iff stands rightRun)

theorem EqualityExpr.holds_iff (expr : EqualityExpr) {scope : Scope} {nested : Bool}
    {start finish : Aliases} {constraint : Constraint} {row : Row store} {focus : Focus store}
    (stands : scope.Stands row focus)
    (run : Yields (expr.constraint env scope nested) start constraint finish) :
    constraint.Holds row ↔ expr.Holds env focus := by
  cases expr with
  | subartifacts set =>
      rw [EqualityExpr.constraint] at run
      rw [EqualityExpr.Holds]
      exact set.holds_iff stands run
  | grouped inner =>
      rw [EqualityExpr.constraint] at run
      rw [EqualityExpr.Holds]
      exact inner.holds_iff stands run
  | test subject comparison =>
      cases subject with
      | property name =>
          simp only [EqualityExpr.constraint, yields_bind] at run
          rcases run with ⟨tested, between, found, rest⟩
          rcases denotes_of_testedProperty stands found with ⟨referent, named, denotes⟩
          rw [EqualityExpr.Holds, denotes.holds_test rest]
          simp [named]
      | call call =>
          simp only [EqualityExpr.constraint, yields_bind] at run
          rcases run with ⟨outcome, between, called, rest⟩
          have keeps := call.keeps stands called
          rw [EqualityExpr.Holds]
          cases outcome with
          | entries found =>
              rcases keeps with ⟨referent, denotes, passes⟩
              rw [passes]
              exact denotes.holds_test rest
          | settled inner =>
              cases comparison with
              | none =>
                  rcases yields_pure.mp rest with ⟨rfl, rfl⟩
                  exact keeps
              | some _ => exact absurd rest not_yields_unsupported
      | primary primary =>
          rw [EqualityExpr.constraint] at run
          exact absurd run not_yields_unsupported

theorem FunctionCall.keeps (call : FunctionCall) {scope : Scope} {nested : Bool}
    {start finish : Aliases} {outcome : Outcome} {row : Row store} {focus : Focus store}
    (stands : scope.Stands row focus)
    (run : Yields (call.outcome env scope nested) start outcome finish) :
    outcome.Keeps env row focus call := by
  replace run := yields_outcome.mp run
  cases call with
  | mk name arguments =>
      have function_iff (comparison : Option (Operator × Primary)) :
          (FunctionCall.mk name arguments).Holds env focus comparison ↔ _ :=
        FunctionCall.holds_iff_function
      simp only [FunctionCall.name, FunctionCall.arguments] at run function_iff
      split at run
      next => contradiction
      next any normalized named =>
          rcases run with ⟨constraint, rfl, classified⟩
          simp only [named] at function_iff
          apply (holds_of_classificationTest stands classified).trans
          exact ((function_iff none).trans (and_iff_right rfl)).symm
      next part named =>
          rcases run with ⟨found, rfl, looked⟩
          rcases denotes_of_attributeProbe stands looked with
            ⟨subject, key, passage, given, reached, denotes⟩
          obtain rfl : arguments = [subject, .primary (.literal key)] := given
          refine ⟨_, denotes, fun comparison => ?_⟩
          simp only [named] at function_iff
          simp [function_iff, reached]
      next named =>
          rcases run with ⟨constraint, rfl, matched⟩
          simp only [named] at function_iff
          apply (holds_of_matchTest stands matched).trans
          exact ((function_iff none).trans (and_iff_right rfl)).symm
      next named =>
          rcases run with ⟨expr, constraint, given, rfl, negated⟩
          simp only [named] at function_iff
          match arguments with
          | [.expr inner] =>
              have same : inner = expr := by simpa using given
              rw [← same] at negated
              apply (not_congr (inner.holds_iff stands negated)).trans
              simp [function_iff]
          | [] | .primary _ :: _ | _ :: _ :: _ => simp at given

theorem SubartifactSet.holds_iff (set : SubartifactSet) {scope : Scope} {nested : Bool}
    {start finish : Aliases} {constraint : Constraint} {row : Row store} {focus : Focus store}
    (stands : scope.Stands row focus)
    (run : Yields (set.constraint env scope nested) start constraint finish) :
    constraint.Holds row ↔ set.Holds env focus := by
  cases set with
  | call call =>
      simp only [SubartifactSet.constraint, yields_bind, yields_pure] at run
      rcases run with ⟨outcome, _, called, rfl, rfl⟩
      have keeps := call.keeps stands called
      rw [SubartifactSet.Holds]
      cases outcome with
      | entries found =>
          rcases keeps with ⟨referent, denotes, passes⟩
          rw [passes]
          exact denotes.holds_exists
      | settled inner => exact keeps
  | relationship relationshipType predicate next =>
      rcases yields_relationship.mp run with ⟨rfl, rfl, step⟩
      cases derived : env.settings.isDerived relationshipType with
      | true =>
          rw [derived] at step
          cases predicate with
          | none =>
              rcases step with ⟨document, _, owner, documentRun, ownerRun, rfl⟩
              exact holds_documents derived stands documentRun ownerRun
          | some predicate =>
              rcases step with
                ⟨document, _, condition, _, owner, documentRun, inside, ownerRun, rfl⟩
              exact holds_documentsWith derived stands documentRun
                (predicate.built inside).allocates.le ownerRun
                (fun stands' => predicate.holds_iff stands' inside)
      | false =>
          rw [derived] at step
          cases predicate with
          | none =>
              rcases step with ⟨relationship, _, owner, relationshipRun, ownerRun, rfl⟩
              exact holds_relationships derived stands relationshipRun ownerRun
          | some predicate =>
              rcases step with ⟨relationship, _, target, _, far, _, condition, _, owner,
                relationshipRun, targetRun, farRun, inside, ownerRun, rfl⟩
              exact holds_relationshipsWith derived stands relationshipRun targetRun farRun
                (predicate.built inside).allocates.le ownerRun
                (fun stands' => predicate.holds_iff stands' inside)

end

end Sramp.Query
