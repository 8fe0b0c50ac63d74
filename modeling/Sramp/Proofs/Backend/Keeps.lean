import Sramp.Backend

/-!
# What stating a plan keeps

Stating a plan carries out actions of a backend one after another.  What holds of each of
them, and of a sequence if of its parts, holds of the whole.
-/

namespace Sramp.Backend

variable {m : Type → Type} [Monad m] {Rows Condition Statement : Type}

/-- Every action of a backend has a property that sequences keep. -/
structure Keeps (backend : Backend m Rows Condition Statement)
    (Holds : {α : Type} → m α → Prop) : Prop where
  pure {α : Type} (value : α) : Holds (pure value)
  bind {α β : Type} {first : m α} {next : α → m β} :
    Holds first → (∀ value, Holds (next value)) → Holds (first >>= next)
  selector (selector : Selector) : Holds (backend.selector selector)
  join (left right : Rows) (kind : JoinKind) (condition : JoinCondition) :
    Holds (backend.join left right kind condition)
  comparison (operand : Operand) (operator : Operator) (value : Value) :
    Holds (backend.comparison operand operator value)
  present (operand : Operand) : Holds (backend.present operand)
  oneOf (operand : Operand) (values : List Value) : Holds (backend.oneOf operand values)
  existence (subquery : Subquery) {rows : m Rows} {condition : m (Option Condition)} :
    Holds rows → Holds condition → Holds (backend.existence subquery rows condition)
  descendant (selector : Selector) (path : String) : Holds (backend.descendant selector path)
  negation (inner : Condition) : Holds (backend.negation inner)
  conjunction (left right : Condition) : Holds (backend.conjunction left right)
  disjunction (left right : Condition) : Holds (backend.disjunction left right)
  statement (rows : Rows) (condition : Option Condition) (result : Selector)
    (sorting : Option SortOrder) : Holds (backend.statement rows condition result sorting)

namespace Keeps

variable {backend : Backend m Rows Condition Statement}
variable {Holds : {α : Type} → m α → Prop}

theorem source (keeps : backend.Keeps Holds) (source : Source) :
    Holds (backend.source source) := by
  induction source with
  | single selector => exact keeps.selector selector
  | join left right kind condition ih =>
      apply keeps.bind ih
      intro rows
      apply keeps.bind (keeps.selector right)
      intro joined
      exact keeps.join rows joined kind condition

variable [LawfulMonad m]

theorem map (keeps : backend.Keeps Holds) {α β : Type} (image : α → β) {action : m α}
    (holds : Holds action) : Holds (image <$> action) := by
  rw [← bind_pure_comp]
  exact keeps.bind holds fun value => keeps.pure (image value)

theorem constraint (keeps : backend.Keeps Holds) (constraint : Constraint) :
    Holds (backend.constraint constraint) := by
  induction constraint with
  | and left right leftIH rightIH =>
      apply keeps.bind leftIH
      intro first
      apply keeps.bind rightIH
      intro second
      exact keeps.conjunction first second
  | or left right leftIH rightIH =>
      apply keeps.bind leftIH
      intro first
      apply keeps.bind rightIH
      intro second
      exact keeps.disjunction first second
  | not inner ih =>
      apply keeps.bind ih
      intro stated
      exact keeps.negation stated
  | comparison operand operator value => exact keeps.comparison operand operator value
  | present operand => exact keeps.present operand
  | oneOf operand values => exact keeps.oneOf operand values
  | descendant selector path => exact keeps.descendant selector path
  | existsRow rows =>
      exact keeps.existence ⟨rows, none⟩ (keeps.source rows.source) (keeps.pure none)
  | existsRowWith rows condition ih =>
      exact keeps.existence ⟨rows, some condition⟩ (keeps.source rows.source)
        (keeps.map some ih)

/-- What the actions of a backend keep holds of stating a plan. -/
theorem realize (keeps : backend.Keeps Holds) (plan : Plan) : Holds (backend.realize plan) := by
  rcases plan with ⟨source, _ | constraint, column, ordering⟩
  · apply keeps.bind (keeps.source source)
    intro rows
    apply keeps.bind (keeps.pure none)
    intro condition
    exact keeps.statement rows condition column ordering
  · apply keeps.bind (keeps.source source)
    intro rows
    apply keeps.bind (keeps.map some (keeps.constraint constraint))
    intro condition
    exact keeps.statement rows condition column ordering

end Keeps

end Sramp.Backend

namespace Sramp

variable {α β : Type} {name : String}

/-- What fails with nothing but the error that the backend of a name cannot express
something. -/
def OnlyGaps (name : String) (result : Except Error α) : Prop :=
  ∀ error, result = .error error → ∃ capability, error = .gap name capability

theorem onlyGaps_ok (value : α) : OnlyGaps name (.ok value) := by
  intro error failed
  contradiction

theorem onlyGaps_gap (capability : Capability) :
    OnlyGaps name (.error (.gap name capability) : Except Error α) := by
  intro error failed
  cases failed
  exact ⟨capability, rfl⟩

theorem onlyGaps_bind {first : Except Error α} {next : α → Except Error β}
    (begins : OnlyGaps name first) (follows : ∀ value, OnlyGaps name (next value)) :
    OnlyGaps name (first >>= next) := by
  cases first with
  | error cause =>
      intro error failed
      exact begins error (by simpa [bind, Except.bind] using failed)
  | ok value => exact follows value

end Sramp
