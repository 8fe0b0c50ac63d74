import Sramp.Plan.Property

/-!
# Sources

A source is a selector to which further selectors are joined, one after another.
Its rows bind every alias to a node.
-/

namespace Sramp

/-- Whether rows without a partner are kept. -/
inductive JoinKind where
  | inner
  | leftOuter
  deriving DecidableEq, Repr

namespace JoinKind

/-- The name of a kind of join in plans. -/
def name : JoinKind → String
  | .inner => "Inner"
  | .leftOuter => "LeftOuter"

end JoinKind

/-- When two rows are joined: two operands are equal, or one node is stored
directly beneath another. -/
inductive JoinCondition where
  | equal (left right : Operand)
  | child (child parent : Selector)
  deriving DecidableEq, Repr

namespace JoinCondition

/-- The text of a join condition in plans. -/
def text : JoinCondition → String
  | .equal left right => left.text ++ " = " ++ right.text
  | .child lower upper => "child(" ++ lower.aliasName ++ ", " ++ upper.aliasName ++ ")"

end JoinCondition

/-- A selector with further selectors joined to it. -/
inductive Source where
  | single (selector : Selector)
  | join (left : Source) (right : Selector) (kind : JoinKind) (condition : JoinCondition)
  deriving DecidableEq, Repr

namespace Source

/-- The selector that the joins start from. -/
def root : Source → Selector
  | .single selector => selector
  | .join left _ _ _ => left.root

/-- All selectors in the order of the joins. -/
def selectors : Source → List Selector
  | .single selector => [selector]
  | .join left right _ _ => left.selectors ++ [right]

/-- A selector whose nodes are stored beneath nodes of the source. -/
def joinChild (source : Source) (child parent : Selector) : Source :=
  .join source child .inner (.child child parent)

/-- A selector whose nodes have nodes of the source stored beneath them. -/
def joinParent (source : Source) (parent child : Selector) : Source :=
  .join source parent .inner (.child child parent)

/-- A selector joined where two operands are equal. -/
def joinEqual (source : Source) (right : Selector) (left other : Operand) : Source :=
  .join source right .inner (.equal left other)

@[simp] theorem selectors_single (selector : Selector) :
    (single selector).selectors = [selector] := rfl

@[simp] theorem selectors_join (left : Source) (right : Selector) (kind : JoinKind)
    (condition : JoinCondition) :
    (join left right kind condition).selectors = left.selectors ++ [right] := rfl

@[simp] theorem selectors_joinChild (source : Source) (child parent : Selector) :
    (source.joinChild child parent).selectors = source.selectors ++ [child] := rfl

@[simp] theorem selectors_joinParent (source : Source) (parent child : Selector) :
    (source.joinParent parent child).selectors = source.selectors ++ [parent] := rfl

@[simp] theorem selectors_joinEqual (source : Source) (right : Selector)
    (left other : Operand) :
    (source.joinEqual right left other).selectors = source.selectors ++ [right] := rfl

end Source

end Sramp
