import Sramp.Plan.Constraint

/-!
# What plans mean

The meaning of plans over an arbitrary store.  A store has nodes of six kinds, some of
them stored beneath others, and says which tests hold of which nodes; nothing is
assumed of these tests.  The rows of a source bind its aliases to nodes, and a
subquery holds of a row if a row of its own source is tied to it and satisfies its
constraint.
-/

namespace Sramp

/-- A repository: its nodes, where they are stored, the keys by which they refer to
each other, and which tests they pass.  Identifiers distinguish nodes of one kind. -/
structure Store where
  Node : Type
  Key : Type
  kind : Node → NodeKind
  Beneath : Node → Node → Prop
  field : Node → Property → Option Key
  id : Node → Key
  field_id : ∀ node, field node .id = some (id node)
  eq_of_id : ∀ {node other}, kind node = kind other → id node = id other → node = other
  Compares : Node → Property → Operator → Value → Prop
  Present : Node → Property → Prop
  OneOf : Node → Property → List Value → Prop
  Under : Node → String → Prop

/-- What aliases stand for. -/
abbrev Row (store : Store) := String → Option store.Node

namespace Row

variable {store : Store}

/-- No alias stands for anything. -/
def empty : Row store := fun _ => none

/-- A row in which a selector stands for a node. -/
def bind (row : Row store) (selector : Selector) (node : store.Node) : Row store :=
  fun name => if name = selector.aliasName then some node else row name

/-- The node that a selector stands for. -/
def node (row : Row store) (selector : Selector) : Option store.Node :=
  row selector.aliasName

/-- The key that an operand has. -/
def key (row : Row store) (operand : Operand) : Option store.Key :=
  (row.node operand.selector).bind fun node => store.field node operand.property

@[simp] theorem node_bind_self (row : Row store) (selector : Selector) (node : store.Node) :
    (row.bind selector node).node selector = some node := by
  simp [bind, Row.node]

theorem node_bind_of_ne {row : Row store} {selector other : Selector} {node : store.Node}
    (different : other.aliasName ≠ selector.aliasName) :
    (row.bind selector node).node other = row.node other := by
  simp [bind, Row.node, different]

/-- Two operands have one key, each in its own row. -/
def Joins (left : Row store) (operand : Operand) (right : Row store) (other : Operand) : Prop :=
  ∃ key, left.key operand = some key ∧ right.key other = some key

/-- The identifiers of two selectors are equal exactly if they stand for one node. -/
theorem joins_id_iff {left right : Row store} {owner outer : Selector}
    {node other : store.Node} (owns : left.node owner = some node)
    (stands : right.node outer = some other) (same : store.kind node = store.kind other) :
    left.Joins (owner.operand .id) right (outer.operand .id) ↔ node = other := by
  simp only [Joins, key, Selector.operand, owns, stands, Option.bind_some, store.field_id,
    Option.some.injEq]
  constructor
  · intro joined
    rcases joined with ⟨_, rfl, equal⟩
    exact store.eq_of_id same equal.symm
  · intro equal
    subst equal
    exact ⟨_, rfl, rfl⟩

end Row

/-- Whether a row satisfies the condition of a join. -/
def JoinCondition.Holds {store : Store} (row : Row store) : JoinCondition → Prop
  | .equal left right => row.Joins left row right
  | .child lower upper => ∃ below above,
      row.node lower = some below ∧ row.node upper = some above ∧ store.Beneath below above

namespace Source

variable {store : Store}

/-- A node that can be joined to a row. -/
def Partner (row : Row store) (right : Selector) (condition : JoinCondition)
    (node : store.Node) : Prop :=
  store.kind node = right.kind ∧ condition.Holds (row.bind right node)

/-- The rows of a source.  A join that keeps rows without a partner leaves its alias
unbound in them. -/
def Binds : Source → Row store → Prop
  | .single selector, row =>
      ∃ node, store.kind node = selector.kind ∧ row = Row.empty.bind selector node
  | .join left right .inner condition, row => ∃ begun, left.Binds begun ∧
      ∃ node, Partner begun right condition node ∧ row = begun.bind right node
  | .join left right .leftOuter condition, row => ∃ begun, left.Binds begun ∧
      ((∃ node, Partner begun right condition node ∧ row = begun.bind right node) ∨
        (¬∃ node, Partner begun right condition node) ∧ row = begun)

end Source

/-- Whether a row satisfies a constraint.  A test of an alias that stands for nothing
fails. -/
def Constraint.Holds {store : Store} (row : Row store) : Constraint → Prop
  | .and left right => left.Holds row ∧ right.Holds row
  | .or left right => left.Holds row ∨ right.Holds row
  | .not inner => ¬inner.Holds row
  | .comparison operand operator value => ∃ node, row.node operand.selector = some node ∧
      store.Compares node operand.property operator value
  | .present operand => ∃ node, row.node operand.selector = some node ∧
      store.Present node operand.property
  | .oneOf operand values => ∃ node, row.node operand.selector = some node ∧
      store.OneOf node operand.property values
  | .descendant selector path => ∃ node, row.node selector = some node ∧ store.Under node path
  | .existsRow rows => ∃ inner : Row store, rows.source.Binds inner ∧
      inner.Joins rows.correlated row rows.outer
  | .existsRowWith rows condition => ∃ inner : Row store, rows.source.Binds inner ∧
      inner.Joins rows.correlated row rows.outer ∧ condition.Holds inner

/-- A plan selects the nodes that its column stands for in the rows of its source that
satisfy its constraint. -/
def Plan.Selects (store : Store) (plan : Plan) (result : store.Node) : Prop :=
  ∃ row : Row store, plan.source.Binds row ∧
    (∀ constraint ∈ plan.constraint, constraint.Holds row) ∧
    row.node plan.column = some result

namespace Constraint

variable {store : Store} {row : Row store} {parts : List Constraint} {whole : Constraint}

/-- A conjunction holds exactly if all its parts do. -/
theorem holds_all (made : all parts = some whole) :
    whole.Holds row ↔ ∀ part ∈ parts, part.Holds row := by
  apply joinAll_induction _ _ made
  · intro part
    simp
  · intro first rest others same
    rw [List.forall_mem_cons]
    exact and_congr Iff.rfl same

/-- A disjunction holds exactly if one of its parts does. -/
theorem holds_any (made : any parts = some whole) :
    whole.Holds row ↔ ∃ part ∈ parts, part.Holds row := by
  apply joinAll_induction _ _ made
  · intro part
    simp
  · intro first rest others same
    simp only [List.mem_cons, exists_eq_or_imp]
    exact or_congr Iff.rfl same

/-- A test of a selector is a test of the node it stands for. -/
theorem holds_comparison {operand : Operand} {operator : Operator} {value : Value}
    {node : store.Node} (stands : row.node operand.selector = some node) :
    (Constraint.comparison operand operator value).Holds row ↔
      store.Compares node operand.property operator value := by
  simp [Holds, stands]

theorem holds_present {operand : Operand} {node : store.Node}
    (stands : row.node operand.selector = some node) :
    (Constraint.present operand).Holds row ↔ store.Present node operand.property := by
  simp [Holds, stands]

theorem holds_oneOf {operand : Operand} {values : List Value} {node : store.Node}
    (stands : row.node operand.selector = some node) :
    (Constraint.oneOf operand values).Holds row ↔
      store.OneOf node operand.property values := by
  simp [Holds, stands]

theorem holds_descendant {selector : Selector} {path : String} {node : store.Node}
    (stands : row.node selector = some node) :
    (Constraint.descendant selector path).Holds row ↔ store.Under node path := by
  simp [Holds, stands]

end Constraint

end Sramp
