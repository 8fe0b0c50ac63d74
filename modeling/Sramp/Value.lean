import Sramp.Calendar.Date
import Sramp.Double.Text
import Sramp.Text.Quoted

/-!
# Values

The typed values that properties are compared with.
-/

namespace Sramp

/-- A typed value. -/
inductive Value where
  | string (text : String)
  | boolean (value : Bool)
  | double (value : Double)
  | date (day : Calendar.Date)
  deriving DecidableEq

namespace Value

/-- The text of a value in plans. -/
def text : Value → String
  | .string value => Text.quoted value
  | .boolean true => "true"
  | .boolean false => "false"
  | .double value => value.text
  | .date day => "date(" ++ day.text ++ ")"

/-- Whether two values are of one type and equal, numbers as numbers. -/
def agrees : Value → Value → Bool
  | .double left, .double right => left.agrees right
  | left, right => left == right

@[simp] theorem agrees_double (left right : Double) :
    (double left).agrees (.double right) = left.agrees right := rfl

end Value

end Sramp
