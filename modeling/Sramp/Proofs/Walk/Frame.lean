import Sramp.Compile.Plan

/-!
# Open scopes

A query can be compiled by a walk that returns nothing: what it finds is collected in a
stack of frames.  A frame holds the selectors that tests refer to, the constraints found so
far, and the test at hand, whose subject and value are kept until it is finished.  This
module has the frames, the state of a walk, and the actions on it.
-/

namespace Sramp.Compile

/-- A scope while expressions are visited in it. -/
structure Frame where
  artifact : Selector
  relationship : Option Selector
  target : Option Selector
  constraints : List Constraint := []
  tested : Option Tested := none
  value : Option Value := none
  deriving DecidableEq

namespace Frame

/-- The frame that nothing was visited in yet. -/
def ofScope (scope : Scope) : Frame where
  artifact := scope.artifact
  relationship := scope.edge.map (·.relationship)
  target := scope.edge.map (·.target)

/-- The selectors of a frame.  There is an edge only where both its ends are known. -/
def scope (frame : Frame) : Scope where
  artifact := frame.artifact
  edge :=
    match frame.relationship, frame.target with
    | some relationship, some target => some ⟨relationship, target⟩
    | _, _ => none

/-- A frame with the same selectors that collects for itself. -/
def isolated (frame : Frame) : Frame where
  artifact := frame.artifact
  relationship := frame.relationship
  target := frame.target

/-- A frame with more constraints. -/
def collect (frame : Frame) (tests : List Constraint) : Frame :=
  { frame with constraints := frame.constraints ++ tests }

/-- A frame without a test at hand. -/
def settled (frame : Frame) : Frame :=
  { frame with tested := none, value := none }

/-- The selector of a part of the edge that leads to the artifact. -/
def part (frame : Frame) : EdgePart → Option Selector
  | .relationship => frame.relationship
  | .target => frame.target

@[simp] theorem scope_ofScope (scope : Scope) : (ofScope scope).scope = scope := by
  rcases scope with ⟨artifact, _ | edge⟩ <;> rfl

@[simp] theorem scope_collect (frame : Frame) (tests : List Constraint) :
    (frame.collect tests).scope = frame.scope := rfl

end Frame

/-- The frames that are open, the innermost first.  The frame of the root is always there. -/
structure Stack where
  root : Frame
  scopes : List Frame
  deriving DecidableEq

namespace Stack

/-- The innermost frame. -/
def top (stack : Stack) : Frame :=
  stack.scopes.headD stack.root

/-- All frames, the innermost first. -/
def frames (stack : Stack) : List Frame :=
  stack.scopes ++ [stack.root]

/-- The stack with the innermost frame changed. -/
def update (change : Frame → Frame) : Stack → Stack
  | ⟨root, []⟩ => ⟨change root, []⟩
  | ⟨root, frame :: scopes⟩ => ⟨root, change frame :: scopes⟩

/-- The stack with one more frame. -/
def push (stack : Stack) (frame : Frame) : Stack :=
  { stack with scopes := frame :: stack.scopes }

/-- What the innermost frame has collected, and the stack without it.  The frame of the root
stays. -/
def pop : Stack → List Constraint × Stack
  | ⟨root, []⟩ => ([], ⟨root, []⟩)
  | ⟨root, frame :: scopes⟩ => (frame.constraints, ⟨root, scopes⟩)

/-- The stack with the frame of the root moved to another artifact. -/
def retarget (stack : Stack) (scope : Scope) : Stack :=
  let moved := Frame.ofScope scope
  { stack with root :=
    { stack.root with
      artifact := moved.artifact
      relationship := moved.relationship
      target := moved.target } }

@[simp] theorem top_update (stack : Stack) (change : Frame → Frame) :
    (stack.update change).top = change stack.top := by
  rcases stack with ⟨root, _ | ⟨frame, scopes⟩⟩ <;> rfl

/-- Two changes of the innermost frame are one. -/
@[simp] theorem update_update (stack : Stack) (first second : Frame → Frame) :
    (stack.update first).update second = stack.update (second ∘ first) := by
  rcases stack with ⟨root, _ | ⟨frame, scopes⟩⟩ <;> rfl

/-- Only what becomes of the innermost frame counts. -/
theorem update_eq_self {stack : Stack} {change : Frame → Frame}
    (same : change stack.top = stack.top) : stack.update change = stack := by
  rcases stack with ⟨root, _ | ⟨frame, scopes⟩⟩
  · exact congrArg (Stack.mk · []) same
  · exact congrArg (fun kept => Stack.mk root (kept :: scopes)) same

theorem frames_update (stack : Stack) (change : Frame → Frame) :
    (stack.update change).frames = change stack.top :: stack.frames.tail := by
  rcases stack with ⟨root, _ | ⟨frame, scopes⟩⟩ <;> rfl

end Stack

/-- The state of a walk: the aliases given, the open frames, the source and the root of the
outermost level, and how many steps in predicates enclose the place reached. -/
structure Walk where
  aliases : Aliases
  stack : Stack
  source : Source
  root : Selector
  depth : Nat
  deriving DecidableEq

namespace Walk

/-- The walk that nothing was visited in yet. -/
def start : Walk :=
  let root := Aliases.next {} .artifact
  { aliases := Aliases.bump {} .artifact
    stack := ⟨Frame.ofScope ⟨root, none⟩, []⟩
    source := .single root
    root := root
    depth := 0 }

/-- The innermost frame. -/
def top (walk : Walk) : Frame :=
  walk.stack.top

/-- The selectors of the innermost frame. -/
def scope (walk : Walk) : Scope :=
  walk.top.scope

/-- Whether a step in a predicate encloses the place reached. -/
def nested (walk : Walk) : Bool :=
  0 < walk.depth

/-- The walk with other aliases given. -/
def withAliases (walk : Walk) (aliases : Aliases) : Walk :=
  { walk with aliases := aliases }

/-- The walk with its innermost frame changed. -/
def update (walk : Walk) (change : Frame → Frame) : Walk :=
  { walk with stack := walk.stack.update change }

/-- The walk with one more frame. -/
def push (walk : Walk) (frame : Frame) : Walk :=
  { walk with stack := walk.stack.push frame }

/-- The walk with a frame that has the same selectors and collects for itself. -/
def isolated (walk : Walk) : Walk :=
  walk.push walk.top.isolated

/-- The walk with more constraints in its innermost frame. -/
def collect (walk : Walk) (tests : List Constraint) : Walk :=
  walk.update (·.collect tests)

/-- The walk with a test at hand. -/
def leave (walk : Walk) (tested : Tested) : Walk :=
  walk.update fun frame => { frame with tested := some tested }

@[simp] theorem top_update (walk : Walk) (change : Frame → Frame) :
    (walk.update change).top = change walk.top := Stack.top_update _ _

@[simp] theorem top_withAliases (walk : Walk) (aliases : Aliases) :
    (walk.withAliases aliases).top = walk.top := rfl

@[simp] theorem top_collect (walk : Walk) (tests : List Constraint) :
    (walk.collect tests).top = walk.top.collect tests := top_update _ _

@[simp] theorem top_leave (walk : Walk) (tested : Tested) :
    (walk.leave tested).top = { walk.top with tested := some tested } := top_update _ _

@[simp] theorem scope_collect (walk : Walk) (tests : List Constraint) :
    (walk.collect tests).scope = walk.scope := by
  simp [scope]

@[simp] theorem update_update (walk : Walk) (first second : Frame → Frame) :
    (walk.update first).update second = walk.update (second ∘ first) := by
  simp [update]

theorem update_eq_self {walk : Walk} {change : Frame → Frame}
    (same : change walk.top = walk.top) :
    walk.update change = walk := by
  simp [update, Stack.update_eq_self same]

end Walk

/-- A visit: it changes the walk and may fail. -/
abbrev Visit := StateT Walk (Except Error)

namespace Visit

/-- The innermost frame. -/
def top : Visit Frame := fun walk =>
  .ok (walk.top, walk)

/-- Changes the walk. -/
def change (next : Walk → Walk) : Visit Unit := fun walk =>
  .ok ((), next walk)

/-- Carries out an action that gives aliases. -/
def allocate {α : Type} (action : Fresh α) : Visit α := fun walk =>
  (action walk.aliases).map fun (value, aliases) => (value, walk.withAliases aliases)

/-- Adds constraints to the innermost frame. -/
def collect (tests : List Constraint) : Visit Unit :=
  change (·.collect tests)

/-- Leaves a subject for the enclosing test. -/
def leave (tested : Tested) : Visit Unit :=
  change (·.leave tested)

/-- Closes the innermost frame. -/
def pop : Visit (List Constraint) := fun walk =>
  .ok (walk.stack.pop.1, { walk with stack := walk.stack.pop.2 })

/-- Fails because a fragment lies outside the supported language. -/
def reject {α : Type} (cause : Unsupported) (fragment : String) : Visit α :=
  allocate (unsupported cause fragment)

section Sequences

variable {β : Type} {walk : Walk}

@[simp] theorem top_bind (next : Frame → Visit β) : (top >>= next) walk = next walk.top walk := rfl

@[simp] theorem get_bind (next : Walk → Visit β) : (get >>= next) walk = next walk walk := rfl

@[simp] theorem change_bind (become : Walk → Walk) (next : Unit → Visit β) :
    (change become >>= next) walk = next () (become walk) := rfl

@[simp] theorem collect_bind (tests : List Constraint) (next : Unit → Visit β) :
    (collect tests >>= next) walk = next () (walk.collect tests) := rfl

@[simp] theorem leave_bind (tested : Tested) (next : Unit → Visit β) :
    (leave tested >>= next) walk = next () (walk.leave tested) := rfl

@[simp] theorem collect_apply (tests : List Constraint) :
    collect tests walk = .ok ((), walk.collect tests) := rfl

end Sequences

end Visit

end Sramp.Compile
