import Sramp.Error
import Sramp.Query.Text
import Sramp.Value

/-!
# Coercion of literals

Turns the right side of a comparison into a typed value, by the property on the
left.  A timestamp is compared with a date, a custom property or attribute with a
string; elsewhere the spellings of the truth values denote them.
-/

namespace Sramp

/-- A format of dates and how texts are read in it, with the reason why one is not. -/
structure DateFormat where
  text : String
  read : String → Except String Calendar.Date

namespace Value

/-- The value of a string literal where no property decides its type. -/
def ofLiteral (text : String) : Value :=
  if Text.sameIgnoringCase text "true" then .boolean true
  else if Text.sameIgnoringCase text "false" then .boolean false
  else .string text

/-- The date that a literal denotes in a format. -/
def ofDateLiteral (format : DateFormat) (text : String) : Except Error Value :=
  match format.read text with
  | .ok day => .ok (.date day)
  | .error reason => .error (.malformedDate text format.text reason)

/-- The value of a primary that is compared with a property. -/
def coerce (property : Option Property) (primary : Query.Primary) (format : DateFormat) :
    Except Error Value :=
  match primary with
  | .literal text =>
      if property.any (·.isTimestamp) then ofDateLiteral format text
      else if property = some .entryValue then .ok (.string text)
      else .ok (ofLiteral text)
  | .number value => .ok (.double value)
  | .property _ => .error (.unsupported .propertyAsValue primary.text)
  | .contextItem => .error (.unsupported .contextAsValue primary.text)

end Value

end Sramp
