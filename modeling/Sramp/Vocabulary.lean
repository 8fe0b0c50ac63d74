import Sramp.Text.AsciiCase
import Sramp.Text.Blank

/-!
# Vocabulary

Qualified names with the namespaces of the S-RAMP query language, and the
operators of comparisons.
-/

namespace Sramp

/-- Namespace of the S-RAMP vocabulary. -/
def srampNamespace : String := "http://docs.oasis-open.org/s-ramp/ns/s-ramp-v1.0"

/-- Namespace of the XPath function library. -/
def xpathNamespace : String := "http://www.w3.org/2005/xpath-functions"

/-- The model of every artifact type that users define. -/
def extendedModel : String := "ext"

/-- The name of a property or function.  Its label is the short form of the
namespace that is written before a colon. -/
structure QName where
  space : Option String
  label : Option String
  localName : String
  deriving DecidableEq, Repr

namespace QName

/-- A name without a namespace. -/
def plain (localName : String) : QName :=
  ⟨none, none, localName⟩

/-- A name with a namespace and a label. -/
def qualified (space label localName : String) : QName :=
  ⟨some space, some label, localName⟩

/-- A name of the S-RAMP vocabulary. -/
def sramp (localName : String) : QName :=
  qualified srampNamespace "s-ramp" localName

/-- A name of the XPath function library. -/
def xpath (localName : String) : QName :=
  qualified xpathNamespace "fn" localName

/-- The namespace of a name; a missing or empty one means the S-RAMP vocabulary. -/
def namespaceUri (name : QName) : String :=
  match name.space with
  | none => srampNamespace
  | some uri => if uri.isEmpty then srampNamespace else uri

/-- Whether a name belongs to the S-RAMP vocabulary. -/
def isSramp (name : QName) : Bool :=
  name.namespaceUri == srampNamespace

/-- Whether a name belongs to the XPath function library. -/
def isXPath (name : QName) : Bool :=
  name.namespaceUri == xpathNamespace

@[simp] theorem isSramp_plain (localName : String) : (plain localName).isSramp = true := by
  simp [isSramp, namespaceUri, plain]

/-- The label of a name without the white space around it, if anything is left. -/
def shownLabel (name : QName) : Option String :=
  match name.label.map Text.trim with
  | some label => if label.isEmpty then none else some label
  | none => none

/-- The text of a name, its label in front. -/
def text (name : QName) : String :=
  match name.shownLabel with
  | some label => label ++ ":" ++ name.localName
  | none => name.localName

/-- The text of a function's name: the label `s-ramp` is left out. -/
def functionText (name : QName) : String :=
  if name.shownLabel = some "s-ramp" then name.localName else name.text

end QName

/-- How two values are compared. -/
inductive Operator where
  | eq
  | ne
  | lt
  | le
  | gt
  | ge
  | like
  deriving DecidableEq, Repr

namespace Operator

/-- The name of an operator. -/
def name : Operator → String
  | .eq => "Eq"
  | .ne => "Ne"
  | .lt => "Lt"
  | .le => "Le"
  | .gt => "Gt"
  | .ge => "Ge"
  | .like => "Like"

/-- An operator in plans and statements. -/
def symbol : Operator → String
  | .eq => "="
  | .ne => "<>"
  | .lt => "<"
  | .le => "<="
  | .gt => ">"
  | .ge => ">="
  | .like => "LIKE"

/-- An operator in query text. -/
def queryText : Operator → String
  | .like => "like"
  | operator => operator.symbol

/-- The operator that a text denotes; `!=` is a second spelling of `<>`, and
`like` may be written in letters of any case. -/
def ofText? (text : String) : Option Operator :=
  match text with
  | "=" => some .eq
  | "<>" | "!=" => some .ne
  | "<" => some .lt
  | "<=" => some .le
  | ">" => some .gt
  | ">=" => some .ge
  | _ => if Text.sameIgnoringCase text "like" then some .like else none

@[simp] theorem ofText?_queryText (operator : Operator) :
    ofText? operator.queryText = some operator := by
  cases operator <;> decide

end Operator

end Sramp
