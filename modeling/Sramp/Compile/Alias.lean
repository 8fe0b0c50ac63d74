import Sramp.Plan.Property

/-!
# Aliases

Names for the selectors of a plan.  An alias is a stem, which tells the kind of
node, and a number.  Numbers are counted per stem and never used again, so a plan
has no alias twice.
-/

namespace Sramp.Compile

/-- The first parts of aliases.  Both kinds of attributes share one. -/
inductive Stem where
  | artifact
  | relationship
  | target
  | property
  | edgeAttribute
  deriving DecidableEq, Repr

namespace Stem

/-- The text of a stem. -/
def text : Stem → String
  | .artifact => "artifact"
  | .relationship => "relationship"
  | .target => "target"
  | .property => "property"
  | .edgeAttribute => "attribute"

/-- The stem for nodes of a kind. -/
def ofKind : NodeKind → Stem
  | .artifact => .artifact
  | .relationship => .relationship
  | .target => .target
  | .propertyEntry => .property
  | .relationshipAttribute | .targetAttribute => .edgeAttribute

end Stem

/-- How many aliases each stem has been given. -/
structure Aliases where
  artifacts : Nat := 0
  relationships : Nat := 0
  targets : Nat := 0
  properties : Nat := 0
  attributes : Nat := 0
  deriving DecidableEq, Repr

namespace Aliases

/-- The number of aliases with a stem. -/
def count (aliases : Aliases) : Stem → Nat
  | .artifact => aliases.artifacts
  | .relationship => aliases.relationships
  | .target => aliases.targets
  | .property => aliases.properties
  | .edgeAttribute => aliases.attributes

/-- One more alias with a stem. -/
def bump (aliases : Aliases) : Stem → Aliases
  | .artifact => { aliases with artifacts := aliases.artifacts + 1 }
  | .relationship => { aliases with relationships := aliases.relationships + 1 }
  | .target => { aliases with targets := aliases.targets + 1 }
  | .property => { aliases with properties := aliases.properties + 1 }
  | .edgeAttribute => { aliases with attributes := aliases.attributes + 1 }

/-- The selector with the next alias for a kind. -/
def next (aliases : Aliases) (kind : NodeKind) : Selector :=
  ⟨kind, (Stem.ofKind kind).text ++ toString (aliases.count (.ofKind kind) + 1)⟩

theorem count_bump (aliases : Aliases) (stem other : Stem) :
    (aliases.bump stem).count other =
      aliases.count other + if other = stem then 1 else 0 := by
  cases stem <;> cases other <;> rfl

@[simp] theorem kind_next (aliases : Aliases) (kind : NodeKind) :
    (aliases.next kind).kind = kind := rfl

end Aliases

end Sramp.Compile
