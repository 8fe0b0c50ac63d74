import Sramp.Query.Text

/-!
# Regular queries

Queries are regular if a parser can have read them: their names are identifiers with no label or
one of the two known ones, and their numbers are finite.  Two differences between queries do not
show in their texts: whether a primary stands as an argument or as a test that is one, and whether
a call stands as a step or as a test.
-/

namespace Sramp.Query

/-- Whether a name may begin with a character: a letter, also one beyond ASCII, or an
underscore. -/
def isNameStart (c : Char) : Bool :=
  c.isAlpha || c == '_' || 0x80 ≤ c.toNat

/-- Whether a name may go on with a character. -/
def isNameChar (c : Char) : Bool :=
  isNameStart c || c.isDigit || c == '-' || c == '.'

/-- Whether a text is a name without a label. -/
def isIdentifier (name : String) : Bool :=
  match name.toList with
  | [] => false
  | c :: rest => isNameStart c && rest.all isNameChar

/-- Whether a property may have a name. -/
def isPropertyName (name : QName) : Bool :=
  isIdentifier name.localName && name == .plain name.localName

/-- Whether a function may have a name. -/
def isFunctionName (name : QName) : Bool :=
  isIdentifier name.localName && (name == .sramp name.localName || name == .xpath name.localName)

/-- Whether a primary is finite and well named. -/
def Primary.isRegular : Primary → Bool
  | .literal _ | .contextItem => true
  | .number value => value.isFinite
  | .property name => isPropertyName name

/-- Whether a comparison is with a regular primary, if there is one. -/
def isRegularComparison : Option (Operator × Primary) → Bool
  | none => true
  | some (_, value) => value.isRegular

mutual

/-- Whether all names in a predicate are identifiers and all its numbers are finite. -/
def Expr.isRegular : Expr → Bool
  | .single left => left.isRegular
  | .chain left right => left.isRegular && right.isRegular

/-- Whether a chain of alternatives is regular. -/
def OrExpr.isRegular : OrExpr → Bool
  | .single left => left.isRegular
  | .chain left right => left.isRegular && right.isRegular

/-- Whether a step, group or test is regular. -/
def EqualityExpr.isRegular : EqualityExpr → Bool
  | .subartifacts set => set.isRegular
  | .grouped expr => expr.isRegular
  | .test subject comparison => subject.isRegular && isRegularComparison comparison

/-- Whether the subject of a test is regular. -/
def Subject.isRegular : Subject → Bool
  | .property name => isPropertyName name
  | .call call => call.isRegular
  | .primary primary => primary.isRegular

/-- Whether a function call is regular. -/
def FunctionCall.isRegular : FunctionCall → Bool
  | .mk name arguments => isFunctionName name && Argument.areRegular arguments

/-- Whether an argument is regular. -/
def Argument.isRegular : Argument → Bool
  | .primary primary => primary.isRegular
  | .expr expr => expr.isRegular

/-- Whether all arguments are regular. -/
def Argument.areRegular : List Argument → Bool
  | [] => true
  | argument :: rest => argument.isRegular && Argument.areRegular rest

/-- Whether a step is regular. -/
def SubartifactSet.isRegular : SubartifactSet → Bool
  | .call call => call.isRegular
  | .relationship relationshipType none none => isIdentifier relationshipType
  | .relationship relationshipType (some predicate) none =>
      isIdentifier relationshipType && predicate.isRegular
  | .relationship relationshipType none (some next) =>
      isIdentifier relationshipType && next.isRegular
  | .relationship relationshipType (some predicate) (some next) =>
      isIdentifier relationshipType && predicate.isRegular && next.isRegular

end

/-- The predicate that is just a primary. -/
def Expr.ofPrimary (primary : Primary) : Expr :=
  .single (.single (.test (.primary primary) none))

/-- A step as a part of a predicate; a call becomes a test. -/
def EqualityExpr.ofStep : SubartifactSet → EqualityExpr
  | .call call => .test (.call call) none
  | set => .subartifacts set

mutual

/-- The predicate in which arguments are predicates and calls are no steps of their own. -/
def Expr.merged : Expr → Expr
  | .single left => .single left.merged
  | .chain left right => .chain left.merged right.merged

/-- The chain of alternatives without the differences that do not show. -/
def OrExpr.merged : OrExpr → OrExpr
  | .single left => .single left.merged
  | .chain left right => .chain left.merged right.merged

/-- The step, group or test without the differences that do not show. -/
def EqualityExpr.merged : EqualityExpr → EqualityExpr
  | .subartifacts set => .ofStep set.merged
  | .grouped expr => .grouped expr.merged
  | .test subject comparison => .test subject.merged comparison

/-- The subject of a test without the differences that do not show. -/
def Subject.merged : Subject → Subject
  | .property name => .property name
  | .call call => .call call.merged
  | .primary primary => .primary primary

/-- The function call without the differences that do not show. -/
def FunctionCall.merged : FunctionCall → FunctionCall
  | .mk name arguments => .mk name (Argument.listMerged arguments)

/-- The argument as a predicate. -/
def Argument.merged : Argument → Argument
  | .primary primary => .expr (.ofPrimary primary)
  | .expr expr => .expr expr.merged

/-- The arguments as predicates. -/
def Argument.listMerged : List Argument → List Argument
  | [] => []
  | argument :: rest => argument.merged :: Argument.listMerged rest

/-- The step without the differences that do not show. -/
def SubartifactSet.merged : SubartifactSet → SubartifactSet
  | .call call => .call call.merged
  | .relationship relationshipType none none => .relationship relationshipType none none
  | .relationship relationshipType (some predicate) none =>
      .relationship relationshipType (some predicate.merged) none
  | .relationship relationshipType none (some next) =>
      .relationship relationshipType none (some next.merged)
  | .relationship relationshipType (some predicate) (some next) =>
      .relationship relationshipType (some predicate.merged) (some next.merged)

end

theorem Expr.text_ofPrimary (primary : Primary) : (ofPrimary primary).text = primary.text := by
  simp only [ofPrimary, text, OrExpr.text, EqualityExpr.text, Subject.text, comparisonText,
    String.append_empty]

theorem EqualityExpr.text_ofStep (set : SubartifactSet) : (ofStep set).text = set.text := by
  cases set with
  | call call =>
      simp only [ofStep, text, Subject.text, SubartifactSet.text, comparisonText,
        String.append_empty]
  | relationship => simp only [ofStep, text]

mutual

theorem Expr.text_merged : (expr : Expr) → expr.merged.text = expr.text
  | .single left => by rw [Expr.merged, Expr.text, Expr.text, left.text_merged]
  | .chain left right => by
      rw [Expr.merged, Expr.text, Expr.text, left.text_merged, right.text_merged]

theorem OrExpr.text_merged : (expr : OrExpr) → expr.merged.text = expr.text
  | .single left => by rw [OrExpr.merged, OrExpr.text, OrExpr.text, left.text_merged]
  | .chain left right => by
      rw [OrExpr.merged, OrExpr.text, OrExpr.text, left.text_merged, right.text_merged]

theorem EqualityExpr.text_merged : (expr : EqualityExpr) → expr.merged.text = expr.text
  | .subartifacts set => by
      rw [EqualityExpr.merged, EqualityExpr.text_ofStep, EqualityExpr.text, set.text_merged]
  | .grouped expr => by
      rw [EqualityExpr.merged, EqualityExpr.text, EqualityExpr.text, expr.text_merged]
  | .test subject comparison => by
      rw [EqualityExpr.merged, EqualityExpr.text, EqualityExpr.text, subject.text_merged]

theorem Subject.text_merged : (subject : Subject) → subject.merged.text = subject.text
  | .property name => rfl
  | .call call => by rw [Subject.merged, Subject.text, Subject.text, call.text_merged]
  | .primary primary => rfl

theorem FunctionCall.text_merged : (call : FunctionCall) → call.merged.text = call.text
  | .mk name arguments => by
      rw [FunctionCall.merged, FunctionCall.text, FunctionCall.text,
        Argument.listText_merged arguments]

theorem Argument.text_merged : (argument : Argument) → argument.merged.text = argument.text
  | .primary primary => by
      rw [Argument.merged, Argument.text, Argument.text, Expr.text_ofPrimary]
  | .expr expr => by rw [Argument.merged, Argument.text, Argument.text, expr.text_merged]

theorem Argument.listText_merged : (arguments : List Argument) →
    Argument.listText (Argument.listMerged arguments) = Argument.listText arguments
  | [] => rfl
  | [argument] => by
      rw [Argument.listMerged, Argument.listMerged, Argument.listText, Argument.listText,
        argument.text_merged]
  | argument :: next :: rest => by
      have others := Argument.listText_merged (next :: rest)
      rw [Argument.listMerged] at others
      rw [Argument.listMerged, Argument.listMerged, Argument.listText, others,
        argument.text_merged, Argument.listText]

theorem SubartifactSet.text_merged : (set : SubartifactSet) → set.merged.text = set.text
  | .call call => by
      rw [SubartifactSet.merged, SubartifactSet.text, SubartifactSet.text, call.text_merged]
  | .relationship relationshipType none none => rfl
  | .relationship relationshipType (some predicate) none => by
      rw [SubartifactSet.merged, SubartifactSet.text, SubartifactSet.text, predicate.text_merged]
  | .relationship relationshipType none (some next) => by
      rw [SubartifactSet.merged, SubartifactSet.text, SubartifactSet.text, next.text_merged]
  | .relationship relationshipType (some predicate) (some next) => by
      rw [SubartifactSet.merged, SubartifactSet.text, SubartifactSet.text, predicate.text_merged,
        next.text_merged]

end

end Sramp.Query
