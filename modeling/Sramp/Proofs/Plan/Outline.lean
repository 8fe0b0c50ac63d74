import Mathlib.Algebra.GroupWithZero.Nat
import Sramp.Plan.Outline
import Sramp.Proofs.Plan.Mentioned
import Sramp.Proofs.Text.Lines

/-!
# Lines of outlines

The outline of a plan has a line for each of its nodes, and the depths of the lines tell which
node is below which.  A line of the outline is a line of the text that shows the plan, unless it
shows a string with line breaks.
-/

namespace Sramp

open Text

/-- Nodes beside each other: the text of the first one, those below it and those after it. -/
inductive Forest where
  | none
  | node (text : String) (below after : Forest)
  deriving DecidableEq, Repr

namespace Forest

variable {depth : Nat}

/-- The lines of nodes that stand at a depth, those below a node one level deeper. -/
def lines (depth : Nat) : Forest → List OutlineLine
  | .none => []
  | .node text below after => ⟨depth, text⟩ :: below.lines (depth + 1) ++ after.lines depth

theorem le_depth_of_mem_lines {forest : Forest} {line : OutlineLine}
    (member : line ∈ forest.lines depth) : depth ≤ line.depth := by
  induction forest generalizing depth with
  | none => contradiction
  | node text below after belowIH afterIH =>
      rw [lines, List.cons_append, List.mem_cons, List.mem_append] at member
      rcases member with rfl | inside | behind
      · exact Nat.le_refl _
      · exact Nat.le_of_succ_le (belowIH inside)
      · exact afterIH behind

/-- The lines below a node go on up to the first one that is not deeper. -/
theorem takeWhile_lines (depth : Nat) (below after : Forest) :
    (below.lines (depth + 1) ++ after.lines depth).takeWhile (depth < ·.depth) =
      below.lines (depth + 1) := by
  have deeper : ∀ line ∈ below.lines (depth + 1), decide (depth < line.depth) = true :=
    fun line member => decide_eq_true (le_depth_of_mem_lines member)
  rw [List.takeWhile_append_of_pos deeper]
  cases after with
  | none => rw [lines, List.takeWhile_nil, List.append_nil]
  | node text below after => simp [lines]

/-- Nodes can be read off their lines. -/
theorem lines_injective (depth : Nat) : Function.Injective (lines depth) := by
  intro forest other same
  induction forest generalizing depth other with
  | none =>
      cases other with
      | none => rfl
      | node => contradiction
  | node text below after belowIH afterIH =>
      cases other with
      | none => contradiction
      | node name inside behind =>
          simp only [lines, List.cons_append, List.cons.injEq, OutlineLine.mk.injEq,
            true_and] at same
          obtain ⟨rfl, rest⟩ := same
          have lower := congrArg (List.takeWhile (depth < ·.depth)) rest
          rw [takeWhile_lines, takeWhile_lines] at lower
          rw [lower] at rest
          rw [belowIH (depth + 1) lower, afterIH depth (List.append_cancel_left rest)]

end Forest

/-- The node of the last selector of a source, above that of the source that it extends, and
`after` it other nodes. -/
def Source.nodes (after : Forest) : Source → Forest
  | .single selector => .node ("Selector(" ++ selector.description ++ ")") .none after
  | .join left right kind condition =>
      .node ("Join(" ++ kind.name ++ ", " ++ right.description ++ ", on=" ++ condition.text ++ ")")
        (left.nodes .none) after

/-- The node of a constraint and `after` it other nodes. -/
def Constraint.nodes (after : Forest) : Constraint → Forest
  | .and left right => .node "And" (left.nodes (right.nodes .none)) after
  | .or left right => .node "Or" (left.nodes (right.nodes .none)) after
  | .not inner => .node "Not" (inner.nodes .none) after
  | .comparison operand operator value =>
      .node ("Compare(" ++ operand.text ++ " " ++ operator.symbol ++ " " ++ value.text ++ ")")
        .none after
  | .present operand => .node ("Exists(" ++ operand.text ++ ")") .none after
  | .oneOf operand values =>
      .node ("In(" ++ operand.text ++ ", count=" ++ toString values.length ++ ")") .none after
  | .descendant selector path =>
      .node ("Descendant(" ++ selector.aliasName ++ ", " ++ escaped path ++ ")") .none after
  | .existsRow rows => .node rows.heading (rows.source.nodes .none) after
  | .existsRowWith rows condition =>
      .node rows.heading (rows.source.nodes (condition.nodes .none)) after

/-- The node of a plan's result, above those of its ordering, its source and its constraint. -/
def Plan.nodes (plan : Plan) : Forest :=
  let tested := plan.source.nodes (plan.constraint.elim .none (Constraint.nodes .none))
  .node ("Select(" ++ plan.column.aliasName ++ ")")
    (plan.ordering.elim tested fun ordering => .node ordering.outlineText .none tested) .none

theorem Source.lines_nodes (source : Source) (after : Forest) (depth : Nat) :
    (source.nodes after).lines depth = source.outline depth ++ after.lines depth := by
  induction source generalizing after depth with
  | single selector => rfl
  | join left right kind condition ih =>
      simp [nodes, outline, Forest.lines, ih]

theorem Constraint.lines_nodes (constraint : Constraint) (after : Forest) (depth : Nat) :
    (constraint.nodes after).lines depth = constraint.outline depth ++ after.lines depth := by
  induction constraint generalizing after depth with
  | and left right leftIH rightIH | or left right leftIH rightIH =>
      simp [nodes, outline, Forest.lines, leftIH, rightIH]
  | not inner ih => simp [nodes, outline, Forest.lines, ih]
  | existsRow rows => simp [nodes, outline, Forest.lines, Source.lines_nodes]
  | existsRowWith rows condition ih =>
      simp [nodes, outline, Forest.lines, Source.lines_nodes, ih]
  | comparison | present | oneOf | descendant => rfl

/-- The outline of a plan lists its nodes. -/
theorem Plan.lines_nodes (plan : Plan) : plan.nodes.lines 0 = plan.outline := by
  rcases plan with ⟨source, constraint, column, ordering⟩
  cases constraint <;> cases ordering <;>
    simp [nodes, outline, Forest.lines, Source.lines_nodes, Constraint.lines_nodes]

/-- The nodes of a constraint, and the selectors and joins of the subqueries in it. -/
def Constraint.nodeCount : Constraint → Nat
  | .and left right | .or left right => 1 + left.nodeCount + right.nodeCount
  | .not inner => 1 + inner.nodeCount
  | .comparison .. | .present _ | .oneOf .. | .descendant .. => 1
  | .existsRow rows => 1 + rows.source.selectors.length
  | .existsRowWith rows condition => 1 + rows.source.selectors.length + condition.nodeCount

/-- The result of a plan, its ordering, the selectors and joins of its source, and the nodes of
its constraint. -/
def Plan.nodeCount (plan : Plan) : Nat :=
  1 + plan.ordering.toList.length + plan.source.selectors.length +
    (plan.constraint.map Constraint.nodeCount).getD 0

theorem Source.length_outline (source : Source) (depth : Nat) :
    (source.outline depth).length = source.selectors.length := by
  induction source generalizing depth with
  | single selector => rfl
  | join left right kind condition ih => simp [outline, ih]

theorem Constraint.length_outline (constraint : Constraint) (depth : Nat) :
    (constraint.outline depth).length = constraint.nodeCount := by
  induction constraint generalizing depth with
  | and left right leftIH rightIH | or left right leftIH rightIH =>
      simp only [outline, nodeCount, List.length_append, List.length_cons, leftIH, rightIH]
      omega
  | not inner ih =>
      rw [outline, nodeCount, List.length_cons, ih, Nat.add_comm]
  | existsRow rows =>
      rw [outline, nodeCount, List.length_cons, Source.length_outline, Nat.add_comm]
  | existsRowWith rows condition ih =>
      simp only [outline, nodeCount, List.length_append, List.length_cons, Source.length_outline,
        ih]
      omega
  | comparison | present | oneOf | descendant => rfl

/-- The outline of a plan has a line for each node. -/
theorem Plan.length_outline (plan : Plan) : plan.outline.length = plan.nodeCount := by
  rcases plan with ⟨source, constraint, column, ordering⟩
  cases constraint <;>
    simp [outline, nodeCount, Source.length_outline, Constraint.length_outline] <;> omega

/-- The line breaks of a value that is a string. -/
def Value.breaks : Value → Nat
  | .string text => Text.breaks text
  | .boolean _ | .double _ | .date _ => 0

/-- The values that a constraint compares with, other than those of membership tests, which are
only counted. -/
def Constraint.shown : Constraint → List Value
  | .and left right | .or left right => left.shown ++ right.shown
  | .not inner => inner.shown
  | .comparison _ _ value => [value]
  | .existsRowWith _ condition => condition.shown
  | .present _ | .oneOf .. | .descendant .. | .existsRow _ => []

/-- The values that a plan shows. -/
def Plan.shown (plan : Plan) : List Value :=
  (plan.constraint.map Constraint.shown).getD []

/-- Only strings have line breaks. -/
theorem Value.breaks_text (value : Value) : Text.breaks value.text = value.breaks := by
  cases value with
  | string text => exact breaks_quoted text
  | boolean value => cases value <;> decide
  | double value => exact unbroken_of_isNumeral value.isNumeral_of_mem_text
  | date day =>
      have plain : Unbroken ("date(" ++ day.text ++ ")") := by
        simp only [unbroken_append]
        exact ⟨⟨by decide, unbroken_of_isNumeral day.isNumeral_of_mem_text⟩, by decide⟩
      exact plain

theorem NodeKind.unbroken_name (kind : NodeKind) : Unbroken kind.name := by
  cases kind <;> decide

theorem JoinKind.unbroken_name (kind : JoinKind) : Unbroken kind.name := by
  cases kind <;> decide

theorem Operator.unbroken_symbol (operator : Operator) : Unbroken operator.symbol := by
  cases operator <;> decide

theorem Property.unbroken_text (property : Property) : Unbroken property.text := by
  cases property with
  | core property => cases property <;> decide
  | classifier normalized => cases normalized <;> decide
  | _ => decide

theorem Selector.unbroken_description {selector : Selector}
    (unbroken : Unbroken selector.aliasName) : Unbroken selector.description := by
  simp only [description, unbroken_append]
  exact ⟨⟨selector.kind.unbroken_name, by decide⟩, unbroken⟩

theorem Operand.unbroken_text {operand : Operand}
    (unbroken : Unbroken operand.selector.aliasName) : Unbroken operand.text := by
  simp only [text, unbroken_append]
  exact ⟨⟨unbroken, by decide⟩, operand.property.unbroken_text⟩

theorem JoinCondition.unbroken_text {condition : JoinCondition}
    (unbroken : ∀ selector ∈ condition.selectors, Unbroken selector.aliasName) :
    Unbroken condition.text := by
  cases condition with
  | equal left right =>
      simp only [selectors, List.forall_mem_cons] at unbroken
      obtain ⟨inLeft, inRight, -⟩ := unbroken
      simp only [text, unbroken_append]
      exact ⟨⟨Operand.unbroken_text inLeft, by decide⟩, Operand.unbroken_text inRight⟩
  | child lower upper =>
      simp only [selectors, List.forall_mem_cons] at unbroken
      obtain ⟨inLower, inUpper, -⟩ := unbroken
      simp only [text, unbroken_append]
      exact ⟨⟨⟨⟨by decide, inLower⟩, by decide⟩, inUpper⟩, by decide⟩

theorem Correlation.unbroken_heading {rows : Correlation}
    (unbroken : ∀ selector ∈ rows.mentioned, Unbroken selector.aliasName) :
    Unbroken rows.heading := by
  have own := unbroken rows.correlated.selector (by simp [mentioned])
  have around := unbroken rows.outer.selector (by simp [mentioned])
  unfold heading
  simp only [unbroken_append]
  exact ⟨⟨⟨⟨by decide, Operand.unbroken_text own⟩, by decide⟩, Operand.unbroken_text around⟩,
    by decide⟩

theorem SortOrder.unbroken_outlineText {ordering : SortOrder}
    (unbroken : Unbroken ordering.operand.selector.aliasName) :
    Unbroken ordering.outlineText := by
  simp only [outlineText, unbroken_append]
  refine ⟨⟨by decide, Operand.unbroken_text unbroken⟩, ?_⟩
  split <;> decide

/-- The line breaks in the texts of lines. -/
def OutlineLine.breaks (lines : List OutlineLine) : Nat :=
  (lines.map fun line => Text.breaks line.text).sum

@[simp] theorem OutlineLine.breaks_nil : breaks [] = 0 := rfl

@[simp] theorem OutlineLine.breaks_cons (line : OutlineLine) (lines : List OutlineLine) :
    breaks (line :: lines) = Text.breaks line.text + breaks lines := by
  rw [breaks, List.map_cons, List.sum_cons, breaks]

@[simp] theorem OutlineLine.breaks_append (lines others : List OutlineLine) :
    breaks (lines ++ others) = breaks lines + breaks others := by
  rw [breaks, List.map_append, List.sum_append, breaks, breaks]

theorem OutlineLine.breaks_cons_of_unbroken {depth : Nat} {text : String}
    (unbroken : Unbroken text) (lines : List OutlineLine) :
    breaks (⟨depth, text⟩ :: lines) = breaks lines := by
  rw [breaks_cons, unbroken, Nat.zero_add]

theorem Source.breaks_outline {source : Source}
    (unbroken : ∀ selector ∈ source.mentioned, Unbroken selector.aliasName) (depth : Nat) :
    OutlineLine.breaks (source.outline depth) = 0 := by
  induction source generalizing depth with
  | single selector =>
      have inside := Selector.unbroken_description (unbroken selector (List.mem_singleton_self _))
      apply OutlineLine.breaks_cons_of_unbroken
      simp only [unbroken_append]
      exact ⟨⟨by decide, inside⟩, by decide⟩
  | join left right kind condition ih =>
      simp only [mentioned, List.forall_mem_append, List.forall_mem_cons] at unbroken
      obtain ⟨inLeft, inRight, inCondition⟩ := unbroken
      rw [outline, OutlineLine.breaks_cons_of_unbroken, ih inLeft]
      simp only [unbroken_append]
      exact ⟨⟨⟨⟨⟨⟨by decide, kind.unbroken_name⟩, by decide⟩,
        Selector.unbroken_description inRight⟩, by decide⟩,
        JoinCondition.unbroken_text inCondition⟩, by decide⟩

/-- The line breaks in the outline of a constraint are those of the strings in it. -/
theorem Constraint.breaks_outline {constraint : Constraint}
    (unbroken : ∀ selector ∈ constraint.mentioned, Unbroken selector.aliasName) (depth : Nat) :
    OutlineLine.breaks (constraint.outline depth) = (constraint.shown.map Value.breaks).sum := by
  have source {rows : Correlation}
      (inRows : ∀ selector ∈ rows.mentioned, Unbroken selector.aliasName) (depth : Nat) :
      OutlineLine.breaks (rows.source.outline depth) = 0 :=
    Source.breaks_outline (fun selector member => inRows selector (List.mem_append_left _ member))
      depth
  induction constraint generalizing depth with
  | and left right leftIH rightIH | or left right leftIH rightIH =>
      obtain ⟨inLeft, inRight⟩ := List.forall_mem_append.mp unbroken
      rw [outline, List.cons_append, OutlineLine.breaks_cons_of_unbroken (by decide),
        OutlineLine.breaks_append, leftIH inLeft, rightIH inRight, shown, List.map_append,
        List.sum_append]
  | not inner ih =>
      rw [outline, OutlineLine.breaks_cons_of_unbroken (by decide), ih unbroken, shown]
  | comparison operand operator value =>
      have opening : Unbroken ("Compare(" ++ operand.text ++ " " ++ operator.symbol ++ " ") := by
        simp only [unbroken_append]
        exact ⟨⟨⟨⟨by decide, Operand.unbroken_text (unbroken _ (List.mem_singleton_self _))⟩,
          by decide⟩, operator.unbroken_symbol⟩, by decide⟩
      have closing : Unbroken ")" := by decide
      rw [outline, shown, OutlineLine.breaks_cons, Text.breaks_append, Text.breaks_append, opening,
        closing, value.breaks_text]
      simp
  | present operand =>
      apply OutlineLine.breaks_cons_of_unbroken
      simp only [unbroken_append]
      exact ⟨⟨by decide, Operand.unbroken_text (unbroken _ (List.mem_singleton_self _))⟩,
        by decide⟩
  | oneOf operand values =>
      apply OutlineLine.breaks_cons_of_unbroken
      have number : Unbroken (toString values.length) := by
        apply unbroken_of_isNumeral
        intro c member
        rw [Nat.toString_eq_repr, Nat.toList_repr] at member
        exact isNumeral_of_mem_toDigits member
      simp only [unbroken_append]
      exact ⟨⟨⟨⟨by decide, Operand.unbroken_text (unbroken _ (List.mem_singleton_self _))⟩,
        by decide⟩, number⟩, by decide⟩
  | descendant selector path =>
      apply OutlineLine.breaks_cons_of_unbroken
      simp only [unbroken_append]
      exact ⟨⟨⟨⟨by decide, unbroken _ (List.mem_singleton_self _)⟩, by decide⟩,
        unbroken_escaped path⟩, by decide⟩
  | existsRow rows =>
      rw [outline, OutlineLine.breaks_cons_of_unbroken (Correlation.unbroken_heading unbroken),
        source unbroken, shown, List.map_nil, List.sum_nil]
  | existsRowWith rows condition ih =>
      obtain ⟨inRows, inCondition⟩ := List.forall_mem_append.mp unbroken
      rw [outline, List.cons_append,
        OutlineLine.breaks_cons_of_unbroken (Correlation.unbroken_heading inRows),
        OutlineLine.breaks_append, source inRows, ih inCondition, Nat.zero_add, shown]

/-- The line breaks in the outline of a plan are those of the strings in it. -/
theorem Plan.breaks_outline {plan : Plan}
    (unbroken : ∀ selector ∈ plan.mentioned, Unbroken selector.aliasName) :
    OutlineLine.breaks plan.outline = (plan.shown.map Value.breaks).sum := by
  rcases plan with ⟨source, constraint, column, ordering⟩
  simp only [mentioned, List.forall_mem_append, List.forall_mem_cons] at unbroken
  obtain ⟨⟨inSource, inConstraint⟩, inColumn, inOrdering⟩ := unbroken
  have result : Unbroken ("Select(" ++ column.aliasName ++ ")") := by
    simp only [unbroken_append]
    exact ⟨⟨by decide, inColumn⟩, by decide⟩
  have sorted : OutlineLine.breaks
      (ordering.toList.map fun ordering => ⟨1, ordering.outlineText⟩) = 0 := by
    cases ordering with
    | none => rfl
    | some ordering =>
        apply OutlineLine.breaks_cons_of_unbroken
        exact SortOrder.unbroken_outlineText (inOrdering _ (List.mem_singleton_self _))
  rw [outline, List.cons_append, List.cons_append, OutlineLine.breaks_cons_of_unbroken result,
    OutlineLine.breaks_append, OutlineLine.breaks_append, sorted, Source.breaks_outline inSource,
    Nat.zero_add, shown]
  cases constraint with
  | none => rfl
  | some constraint =>
      have inside := Constraint.breaks_outline inConstraint 1
      simpa using inside

/-! ## The text of a plan -/

namespace OutlineLine

/-- The line as it stands in the text of a plan. -/
def shown (line : OutlineLine) : String :=
  String.ofList (List.replicate (2 * line.depth) ' ') ++ line.text

/-- The line that is shown as a text. -/
def ofShown (text : String) : OutlineLine :=
  ⟨(text.toList.takeWhile (· == ' ')).length / 2,
    String.ofList (text.toList.dropWhile (· == ' '))⟩

theorem render_eq (line : OutlineLine) : line.render = line.shown ++ "\n" := rfl

theorem breaks_shown (line : OutlineLine) : Text.breaks line.shown = Text.breaks line.text := by
  have indented : Unbroken (String.ofList (List.replicate (2 * line.depth) ' ')) := by
    rw [Unbroken, Text.breaks, String.toList_ofList, List.count_replicate]
    rfl
  rw [shown, Text.breaks_append, indented, Nat.zero_add]

/-- Depth and text of a line can be read off it, if its text does not begin with a space. -/
theorem ofShown_shown {line : OutlineLine} (flush : line.text.toList.head? ≠ some ' ') :
    ofShown line.shown = line := by
  have indented : ∀ c ∈ List.replicate (2 * line.depth) ' ', (c == ' ') = true := by
    intro c member
    rw [List.eq_of_mem_replicate member]
    rfl
  have first : line.text.toList.takeWhile (· == ' ') = [] ∧
      line.text.toList.dropWhile (· == ' ') = line.text.toList := by
    cases chars : line.text.toList with
    | nil => exact ⟨rfl, rfl⟩
    | cons c rest =>
        have visible : c ≠ ' ' := by
          rintro rfl
          exact flush (by rw [chars]; rfl)
        simp [visible]
  rw [ofShown, shown, String.toList_append, String.toList_ofList,
    List.takeWhile_append_of_pos indented, List.dropWhile_append_of_pos indented, first.1, first.2]
  simp

end OutlineLine

/-- The lines of lines that are shown, each with a break but the last one. -/
theorem lines_join (front : List OutlineLine) (last : OutlineLine) :
    Text.lines (String.join (front.map OutlineLine.render) ++ last.shown) =
      (front ++ [last]).flatMap fun line => Text.lines line.shown := by
  induction front with
  | nil => simp
  | cons line front ih =>
      rw [List.map_cons, String.join_cons, OutlineLine.render_eq, String.append_assoc,
        Text.lines_append_break, ih, List.cons_append, List.flatMap_cons]

/-- Lines that end in a line that closes a parenthesis. -/
def Closed (lines : List OutlineLine) : Prop :=
  ∃ front depth text, lines = front ++ [⟨depth, text ++ ")"⟩]

theorem closed_singleton (depth : Nat) (text : String) : Closed [⟨depth, text ++ ")"⟩] :=
  ⟨[], depth, text, rfl⟩

theorem Closed.append {lines : List OutlineLine} (closed : Closed lines)
    (others : List OutlineLine) : Closed (others ++ lines) := by
  obtain ⟨front, depth, text, rfl⟩ := closed
  exact ⟨others ++ front, depth, text, (List.append_assoc ..).symm⟩

theorem Closed.cons {lines : List OutlineLine} (closed : Closed lines) (line : OutlineLine) :
    Closed (line :: lines) :=
  closed.append [line]

theorem Source.closed_outline (source : Source) (depth : Nat) : Closed (source.outline depth) := by
  induction source generalizing depth with
  | single selector => exact closed_singleton depth _
  | join left right kind condition ih => exact (ih (depth + 1)).cons _

theorem Constraint.closed_outline (constraint : Constraint) (depth : Nat) :
    Closed (constraint.outline depth) := by
  induction constraint generalizing depth with
  | and left right leftIH rightIH | or left right leftIH rightIH =>
      exact (rightIH (depth + 1)).append _
  | not inner ih => exact (ih (depth + 1)).cons _
  | existsRow rows => exact (rows.source.closed_outline (depth + 1)).cons _
  | existsRowWith rows condition ih => exact (ih (depth + 1)).append _
  | comparison | present | oneOf | descendant => exact closed_singleton depth _

theorem Plan.closed_outline (plan : Plan) : Closed plan.outline := by
  rcases plan with ⟨source, constraint, column, ordering⟩
  cases constraint with
  | none =>
      rw [outline, Option.toList_none, List.flatMap_nil, List.append_nil]
      exact (source.closed_outline 1).append _
  | some constraint =>
      apply Closed.append
      simpa using constraint.closed_outline 1

/-- The lines of the text of a plan are those of the lines of its outline: at the end nothing but
the last break is left out. -/
theorem Plan.lines_explain (plan : Plan) :
    Text.lines plan.explain = plan.outline.flatMap fun line => Text.lines line.shown := by
  obtain ⟨front, depth, text, ends⟩ := plan.closed_outline
  have trimmed : plan.explain =
      String.join (front.map OutlineLine.render) ++ OutlineLine.shown ⟨depth, text ++ ")"⟩ := by
    have whole : String.join (plan.outline.map OutlineLine.render) =
        String.join (front.map OutlineLine.render) ++ OutlineLine.shown ⟨depth, text⟩ ++ ")"
          ++ "\n" := by
      rw [ends, List.map_append, String.join_append, List.map_singleton, String.join_cons,
        String.join_nil, OutlineLine.render_eq]
      simp only [OutlineLine.shown, String.append_assoc, String.append_empty]
    have chars (opening : String) :
        (opening ++ ")" ++ "\n").toList = opening.toList ++ ')' :: ['\n'] := by
      simp [String.toList_append]
    have blank : ∀ c ∈ ['\n'], isBlank c = true := List.all_eq_true.mp (by decide)
    rw [explain, whole, chars, trimEnd_append (by decide) blank, String.ofList_append,
      String.ofList_toList]
    simp only [OutlineLine.shown, String.append_assoc]
  rw [trimmed, lines_join, ends]

/-- A text begins with a character that is no space. -/
def Flush (text : String) : Prop :=
  ∃ c ∈ text.toList.head?, c ≠ ' '

theorem Source.flush_outline (source : Source) (depth : Nat) :
    ∀ line ∈ source.outline depth, Flush line.text := by
  induction source generalizing depth with
  | single selector => simp [outline, Flush]
  | join left right kind condition ih =>
      rw [outline, List.forall_mem_cons]
      exact ⟨by simp [Flush], ih (depth + 1)⟩

theorem Correlation.flush_heading (rows : Correlation) : Flush rows.heading := by
  unfold heading
  simp [Flush]

theorem Constraint.flush_outline (constraint : Constraint) (depth : Nat) :
    ∀ line ∈ constraint.outline depth, Flush line.text := by
  induction constraint generalizing depth with
  | and left right leftIH rightIH | or left right leftIH rightIH =>
      rw [outline, List.cons_append, List.forall_mem_cons, List.forall_mem_append]
      exact ⟨by simp [Flush], leftIH (depth + 1), rightIH (depth + 1)⟩
  | not inner ih =>
      rw [outline, List.forall_mem_cons]
      exact ⟨by simp [Flush], ih (depth + 1)⟩
  | existsRow rows =>
      rw [outline, List.forall_mem_cons]
      exact ⟨rows.flush_heading, rows.source.flush_outline (depth + 1)⟩
  | existsRowWith rows condition ih =>
      rw [outline, List.cons_append, List.forall_mem_cons, List.forall_mem_append]
      exact ⟨rows.flush_heading, rows.source.flush_outline (depth + 1), ih (depth + 1)⟩
  | comparison | present | oneOf | descendant => simp [outline, Flush]

theorem Plan.flush_outline (plan : Plan) : ∀ line ∈ plan.outline, Flush line.text := by
  rcases plan with ⟨source, constraint, column, ordering⟩
  have tested : ∀ line ∈ constraint.toList.flatMap (Constraint.outline 1), Flush line.text := by
    intro line member
    obtain ⟨constraint, -, inside⟩ := List.mem_flatMap.mp member
    exact constraint.flush_outline 1 line inside
  have sorted : ∀ line ∈ ordering.toList.map fun ordering => OutlineLine.mk 1 ordering.outlineText,
      Flush line.text := by
    cases ordering <;> simp [SortOrder.outlineText, Flush]
  rw [outline, List.cons_append, List.cons_append, List.forall_mem_cons, List.forall_mem_append,
    List.forall_mem_append]
  exact ⟨by simp [Flush], ⟨sorted, source.flush_outline 1⟩, tested⟩

/-- Where nothing in an outline has a line break, its lines are those of the text. -/
theorem OutlineLine.flatMap_lines {lines : List OutlineLine} (unbroken : breaks lines = 0) :
    (lines.flatMap fun line => Text.lines line.shown) = lines.map shown := by
  induction lines with
  | nil => rfl
  | cons line lines ih =>
      rw [breaks_cons, Nat.add_eq_zero_iff, ← breaks_shown] at unbroken
      rw [List.flatMap_cons, List.map_cons, Text.lines_of_unbroken unbroken.1, ih unbroken.2,
        List.singleton_append]

/-- Each line break in an outline makes one line more. -/
theorem OutlineLine.length_flatMap_lines (lines : List OutlineLine) :
    (lines.flatMap fun line => Text.lines line.shown).length = lines.length + breaks lines := by
  induction lines with
  | nil => rfl
  | cons line lines ih =>
      rw [List.flatMap_cons, List.length_append, ih, Text.length_lines, breaks_shown,
        List.length_cons, breaks_cons]
      omega

variable {plan : Plan}

/-- The text of a plan has a line for each node, and one more for each line break in a string. -/
theorem Plan.length_lines_explain
    (unbroken : ∀ selector ∈ plan.mentioned, Unbroken selector.aliasName) :
    (Text.lines plan.explain).length = plan.nodeCount + (plan.shown.map Value.breaks).sum := by
  rw [lines_explain, OutlineLine.length_flatMap_lines, length_outline, breaks_outline unbroken]

/-- The lines of the text of a plan are those of its outline exactly if no string in it has a line
break. -/
theorem Plan.lines_explain_iff
    (unbroken : ∀ selector ∈ plan.mentioned, Unbroken selector.aliasName) :
    Text.lines plan.explain = plan.outline.map OutlineLine.shown ↔
      ∀ value ∈ plan.shown, value.breaks = 0 := by
  have counted : (plan.shown.map Value.breaks).sum = 0 ↔
      ∀ value ∈ plan.shown, value.breaks = 0 := by
    rw [List.sum_eq_zero_iff_forall_eq_nat, List.forall_mem_map]
  rw [← counted]
  constructor
  · intro same
    have length := length_lines_explain unbroken
    rw [same, List.length_map, length_outline] at length
    omega
  · intro plain
    rw [lines_explain, OutlineLine.flatMap_lines (breaks_outline unbroken ▸ plain)]

/-- The outline of a plan can be read off lines that show it. -/
theorem Plan.map_ofShown (plan : Plan) :
    (plan.outline.map OutlineLine.shown).map OutlineLine.ofShown = plan.outline := by
  have each : ∀ line ∈ plan.outline, (OutlineLine.ofShown ∘ OutlineLine.shown) line = id line := by
    intro line member
    obtain ⟨c, begins, visible⟩ := plan.flush_outline line member
    apply OutlineLine.ofShown_shown
    rw [Option.mem_def.mp begins]
    exact fun same => visible (Option.some.inj same)
  rw [List.map_map, List.map_congr_left each, List.map_id]

end Sramp
