import Sramp.Backend

/-!
# Assembling statements

Drives the methods of a backend one by one, as a caller does who builds statements
without a plan.  Finished parts wait on two stacks until a step connects them or
makes them a statement.  A step that the backend refuses leaves nothing behind, but
has used up the parts it took.
-/

namespace Sramp

/-- One step of an assembly. -/
inductive AssemblyStep where
  | selector (selector : Selector)
  | source (source : Source)
  | join (kind : JoinKind) (condition : JoinCondition)
  | comparison (operand : Operand) (operator : Operator) (value : Value)
  | present (operand : Operand)
  | oneOf (operand : Operand) (values : List Value)
  | existence (subquery : Subquery)
  | descendant (selector : Selector) (path : String)
  | constraint (constraint : Constraint)
  | duplicate
  | negation
  | conjunction
  | disjunction
  | statement (column : Selector) (ordering : Option SortOrder)
  | plan (plan : Plan)
  deriving DecidableEq

/-- The answer to a step: the text of a new part, the number of conditions, a
finished statement, a refusal, or that a part is missing. -/
inductive AssemblyReply (Statement : Type) where
  | text (text : String)
  | count (conditions : Nat)
  | statement (statement : Statement)
  | refused (error : Error)
  | missing
  deriving DecidableEq

/-- The parts that wait, the latest first. -/
structure Assembly (Rows Condition : Type) where
  rows : List Rows := []
  conditions : List Condition := []
  deriving DecidableEq

namespace Assembly

variable {m : Type → Type} [Monad m] [MonadExceptOf Error m] {Rows Condition Statement : Type}

/-- A reply and the parts that wait after a step. -/
abbrev Result (Rows Condition Statement : Type) :=
  AssemblyReply Statement × Assembly Rows Condition

/-- Carries out an action of the backend; if it is refused, `parts` still wait. -/
def attempt {α : Type} (parts : Assembly Rows Condition) (action : m α)
    (done : α → Result Rows Condition Statement) : m (Result Rows Condition Statement) :=
  tryCatchThe Error (done <$> action) fun error => pure (.refused error, parts)

/-- Adds new rows to the parts that wait. -/
def pushRows (backend : Backend m Rows Condition Statement) (parts : Assembly Rows Condition)
    (action : m Rows) : m (Result Rows Condition Statement) :=
  attempt parts action fun rows =>
    (.text (backend.rowsText rows), { parts with rows := rows :: parts.rows })

/-- Adds a new condition to the parts that wait. -/
def pushCondition (backend : Backend m Rows Condition Statement)
    (parts : Assembly Rows Condition) (action : m Condition) :
    m (Result Rows Condition Statement) :=
  attempt parts action fun condition =>
    (.text (backend.conditionText condition),
      { parts with conditions := condition :: parts.conditions })

/-- Connects the two latest conditions. -/
def connect (backend : Backend m Rows Condition Statement) (parts : Assembly Rows Condition)
    (connective : Condition → Condition → m Condition) : m (Result Rows Condition Statement) :=
  match parts.conditions with
  | right :: left :: rest =>
      pushCondition backend { parts with conditions := rest } (connective left right)
  | _ => pure (.missing, parts)

/-- Carries out a step. -/
def step (backend : Backend m Rows Condition Statement) (parts : Assembly Rows Condition) :
    AssemblyStep → m (Result Rows Condition Statement)
  | .selector selector => pushRows backend parts (backend.selector selector)
  | .source source => pushRows backend parts (backend.source source)
  | .join kind condition =>
      match parts.rows with
      | right :: left :: rest =>
          pushRows backend { parts with rows := rest } (backend.join left right kind condition)
      | _ => pure (.missing, parts)
  | .comparison operand operator value =>
      pushCondition backend parts (backend.comparison operand operator value)
  | .present operand => pushCondition backend parts (backend.present operand)
  | .oneOf operand values => pushCondition backend parts (backend.oneOf operand values)
  | .existence subquery =>
      pushCondition backend parts (backend.constraint (.ofSubquery subquery))
  | .descendant selector path => pushCondition backend parts (backend.descendant selector path)
  | .constraint constraint => pushCondition backend parts (backend.constraint constraint)
  | .duplicate =>
      match parts.conditions with
      | top :: rest =>
          pure (.count (rest.length + 2), { parts with conditions := top :: top :: rest })
      | [] => pure (.missing, parts)
  | .negation =>
      match parts.conditions with
      | top :: rest =>
          pushCondition backend { parts with conditions := rest } (backend.negation top)
      | [] => pure (.missing, parts)
  | .conjunction => connect backend parts backend.conjunction
  | .disjunction => connect backend parts backend.disjunction
  | .statement column ordering =>
      match parts.rows with
      | rows :: rest =>
          let left : Assembly Rows Condition := ⟨rest, parts.conditions.tail⟩
          attempt left (backend.statement rows parts.conditions.head? column ordering)
            fun statement => (.statement statement, left)
      | [] => pure (.missing, parts)
  | .plan plan =>
      attempt parts (backend.realize plan) fun statement => (.statement statement, parts)

/-- Carries out steps one after another; a reply for each. -/
def run (backend : Backend m Rows Condition Statement) :
    List AssemblyStep → Assembly Rows Condition → m (List (AssemblyReply Statement))
  | [], _ => pure []
  | next :: rest, parts => do
      let (reply, parts) ← step backend parts next
      return reply :: (← run backend rest parts)

end Assembly

end Sramp
