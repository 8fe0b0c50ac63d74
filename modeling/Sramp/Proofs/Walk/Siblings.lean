import Sramp.Proofs.Compile.Coupling
import Sramp.Proofs.Walk.Reachable
import Sramp.Query.Build

/-!
# Siblings

A visit depends on what was visited before only by the aliases given there.  Two visits of one
expression, from states whose innermost frames have selectors in the same places, fail with one
error, or one adds what the other does under the renaming that leads from the selectors and
counters of the one state to those of the other.  So the right side of a connective adds what it
adds alone, up to the numbers of its aliases, whatever stands on the left.
-/

namespace Sramp.Compile

open Query

variable {env : Environment} {first second walk : Walk} {start finish : Aliases}

namespace Walk

/-- Two states whose innermost frames have selectors in the same places, and which lie both
inside a step or both outside. -/
structure Alike (first second : Walk) : Prop where
  relationship : first.top.relationship.isSome = second.top.relationship.isSome
  target : first.top.target.isSome = second.top.target.isSome
  nested : first.nested = second.nested

/-- A renaming takes the selectors of one innermost frame to those of another, and each number
still to be given to the one as far ahead of the other counters. -/
structure Renames (first second : Walk) (rename : String → String) : Prop where
  artifact : first.top.artifact.rename rename = second.top.artifact
  relationship : first.top.relationship.map (·.rename rename) = second.top.relationship
  target : first.top.target.map (·.rename rename) = second.top.target
  shifts : Shifts rename first.aliases second.aliases

theorem Renames.scope {rename : String → String} (renames : first.Renames second rename) :
    first.scope.rename rename = second.scope := by
  unfold Walk.scope Frame.scope Scope.rename
  rw [← renames.artifact, ← renames.relationship, ← renames.target]
  cases first.top.relationship <;> cases first.top.target <;> rfl

end Walk

/-- The renaming of each number still to be given after `start` to the one as far ahead of
`other`; what becomes of other names is told by `old`. -/
noncomputable def shifting (start other : Aliases) (old : String → String) (name : String) :
    String :=
  open Classical in
  if ahead : ∃ place : Stem × Nat,
      name = place.1.text ++ toString (start.count place.1 + place.2 + 1) then
    ahead.choose.1.text ++ toString (other.count ahead.choose.1 + ahead.choose.2 + 1)
  else old name

theorem shifts_shifting (start other : Aliases) (old : String → String) :
    Shifts (shifting start other old) start other := by
  intro stem number
  have ahead : ∃ place : Stem × Nat, stem.text ++ toString (start.count stem + number + 1) =
      place.1.text ++ toString (start.count place.1 + place.2 + 1) := ⟨(stem, number), rfl⟩
  rw [shifting, dif_pos ahead]
  have same := ahead.choose_spec
  generalize ahead.choose = place at same
  obtain ⟨other, reached⟩ := place
  obtain rfl := Stem.eq_of_text_append same
  have numbers := Stem.number_eq_of_text same
  have reached_eq : number = reached := by
    dsimp only at numbers
    omega
  rw [reached_eq]

/-- Names given before `start` are renamed as told. -/
theorem shifting_of_given {other : Aliases} {old : String → String} {kind : NodeKind}
    {selector : Selector} (named : start.Names kind selector) :
    shifting start other old selector.aliasName = old selector.aliasName := by
  apply dif_neg
  intro ahead
  obtain ⟨⟨stem, number⟩, same⟩ := ahead
  obtain ⟨given, -, below, text⟩ := named.given
  rw [text] at same
  obtain rfl := Stem.eq_of_text_append same
  have numbers := Stem.number_eq_of_text same
  dsimp only at numbers
  omega

/-- Selectors whose kinds have different stems bear different aliases. -/
theorem Aliases.Names.alias_ne {kind other : NodeKind} {selector another : Selector}
    (named : start.Names kind selector) (otherNamed : start.Names other another)
    (apart : Stem.ofKind kind ≠ Stem.ofKind other) : selector.aliasName ≠ another.aliasName := by
  intro same
  obtain ⟨number, -, -, text⟩ := named.given
  obtain ⟨otherNumber, -, -, otherText⟩ := otherNamed.given
  rw [text, otherText, named.kind_eq, otherNamed.kind_eq] at same
  exact apart (Stem.eq_of_text_append same)

/-- Takes the alias of each selector of a scope to that of the same selector of another. -/
def Scope.onto (scope other : Scope) (name : String) : String :=
  match scope.edge, other.edge with
  | some edge, some led =>
      if name = edge.relationship.aliasName then led.relationship.aliasName
      else if name = edge.target.aliasName then led.target.aliasName
      else other.artifact.aliasName
  | _, _ => other.artifact.aliasName

namespace Scope

variable {scope other : Scope} {edge led : Edge}

theorem onto_artifact (named : scope.Named start) :
    scope.onto other scope.artifact.aliasName = other.artifact.aliasName := by
  unfold onto
  split
  next edge led leads _ =>
      have relationship := named.artifact.alias_ne (named.relationship edge leads) (by decide)
      have target := named.artifact.alias_ne (named.target edge leads) (by decide)
      rw [if_neg relationship, if_neg target]
  next => rfl

theorem onto_relationship (leads : scope.edge = some edge) (otherLeads : other.edge = some led) :
    scope.onto other edge.relationship.aliasName = led.relationship.aliasName := by
  simp [onto, leads, otherLeads]

theorem onto_target (named : scope.Named start) (leads : scope.edge = some edge)
    (otherLeads : other.edge = some led) :
    scope.onto other edge.target.aliasName = led.target.aliasName := by
  have apart := (named.target edge leads).alias_ne (named.relationship edge leads) (by decide)
  simp [onto, leads, otherLeads, apart]

end Scope

/-- A selector given before is renamed to one of the same kind with the alias told. -/
theorem Aliases.Names.rename_shifting {kind : NodeKind} {selector other : Selector}
    {old : String → String} (named : start.Names kind selector)
    (otherNamed : finish.Names kind other) (told : old selector.aliasName = other.aliasName) :
    selector.rename (shifting start finish old) = other := by
  have kinds := named.kind_eq.trans otherNamed.kind_eq.symm
  have names : shifting start finish old selector.aliasName = other.aliasName :=
    (shifting_of_given named).trans told
  cases other with
  | mk otherKind name => exact congr (congrArg Selector.mk kinds) names

/-- Between scopes of the same shape there is a renaming, which leads on from the aliases given
in the one to those given in the other. -/
theorem exists_scope_renaming {scope other : Scope} (named : scope.Named start)
    (otherNamed : other.Named finish) (alike : scope.edge.isSome = other.edge.isSome) :
    ∃ rename, scope.rename rename = other ∧ Shifts rename start finish := by
  refine ⟨shifting start finish (scope.onto other), ?_, shifts_shifting _ _ _⟩
  have artifact := named.artifact.rename_shifting otherNamed.artifact
    (Scope.onto_artifact named)
  have edge : (scope.rename (shifting start finish (scope.onto other))).edge = other.edge := by
    cases leads : scope.edge with
    | none =>
        rw [leads] at alike
        cases otherLeads : other.edge with
        | some led =>
            rw [otherLeads] at alike
            cases alike
        | none => simp only [Scope.rename, leads, Option.map_none]
    | some edge =>
        rw [leads] at alike
        obtain ⟨led, otherLeads⟩ := Option.isSome_iff_exists.mp alike.symm
        have relationship := (named.relationship edge leads).rename_shifting
          (otherNamed.relationship led otherLeads) (Scope.onto_relationship leads otherLeads)
        have target := (named.target edge leads).rename_shifting
          (otherNamed.target led otherLeads) (Scope.onto_target named leads otherLeads)
        simp only [Scope.rename, leads, otherLeads, Option.map_some, relationship, target]
  exact congr (congrArg Scope.mk artifact) edge

/-- The ends of the edge are known together, so their renaming is that of the edge. -/
theorem Walk.Ready.map_part {rename : String → String} (ready : first.Ready)
    (otherReady : second.Ready) (scopes : first.scope.rename rename = second.scope)
    (part : EdgePart) : (first.top.part part).map (·.rename rename) = second.top.part part := by
  rw [part_eq ready, part_eq otherReady, ← scopes, Scope.rename, Option.map_map, Option.map_map]
  cases part <;> rfl

/-- A renaming of scopes is one of innermost frames. -/
theorem Walk.Ready.renames {rename : String → String} (ready : first.Ready)
    (otherReady : second.Ready) (scopes : first.scope.rename rename = second.scope)
    (shifts : Shifts rename first.aliases second.aliases) : first.Renames second rename where
  artifact := congrArg Scope.artifact scopes
  relationship := ready.map_part otherReady scopes .relationship
  target := ready.map_part otherReady scopes .target
  shifts := shifts

/-- Where there is an edge, its relationship is known. -/
theorem Walk.Ready.isSome_edge (ready : walk.Ready) :
    walk.scope.edge.isSome = walk.top.relationship.isSome := by
  have parts := part_eq ready .relationship
  rw [Frame.part] at parts
  rw [parts, Option.isSome_map]

theorem Walk.Reachable.exists_renames (valid : env.settings.Valid)
    (reachable : first.Reachable env) (otherReachable : second.Reachable env)
    (alike : first.Alike second) : ∃ rename, first.Renames second rename := by
  have ready := reachable.ready valid
  have otherReady := otherReachable.ready valid
  have edges : first.scope.edge.isSome = second.scope.edge.isSome := by
    rw [ready.isSome_edge, otherReady.isSome_edge, alike.relationship]
  obtain ⟨rename, scopes, shifts⟩ :=
    exists_scope_renaming (reachable.named valid) (otherReachable.named valid) edges
  exact ⟨rename, ready.renames otherReady scopes shifts⟩

/-- Two visits fail with one error, or each adds a constraint, the second the renamed one. -/
def Walk.Carries (first second : Walk) (rename : String → String) (visit : Visit Unit) : Prop :=
  (∃ cause, visit first = .error cause ∧ visit second = .error cause) ∨
    ∃ constraint aliases reached,
      visit first = .ok ((), (first.withAliases aliases).collect [constraint]) ∧
        visit second = .ok ((), (second.withAliases reached).collect [constraint.rename rename])

/-- After the left side of a connective was visited there is a renaming that leads from where it
began to where it ended.  Under any such renaming the right side adds what it adds alone, and
where it fails alone the connective fails with the same error. -/
def Walk.Apart (walk : Walk) (connect : Constraint → Constraint → Constraint)
    (whole left right : Visit Unit) : Prop :=
  ∀ middle, left walk.isolated = .ok ((), middle) →
    (∃ rename, walk.Renames middle rename) ∧
    ∀ rename, walk.Renames middle rename →
      (∃ cause, right walk = .error cause ∧ whole walk = .error cause) ∨
        ∃ one other aliases reached, middle.top.constraints = [one] ∧
          right walk = .ok ((), (walk.withAliases aliases).collect [other]) ∧
          whole walk =
            .ok ((), (walk.withAliases reached).collect [connect one (other.rename rename)])

section Visits

variable {visit left right : Visit Unit} {result one other : Scope → Bool → Fresh Constraint}
variable {rename : String → String}

/-- A visit leaves the selectors and the depth as they were. -/
theorem Adds.alike (adds : Adds visit result) (ready : first.Ready)
    (done : visit first = .ok ((), second)) : first.Alike second := by
  obtain ⟨constraint, aliases, -, rfl⟩ := (adds.eq_ok_iff ready).mp done
  have kept := Walk.top_collect (first.withAliases aliases) [constraint]
  exact ⟨congrArg (·.relationship.isSome) kept.symm, congrArg (·.target.isSome) kept.symm, rfl⟩

theorem Adds.carries (adds : Adds visit result) (ready : first.Ready) (otherReady : second.Ready)
    (coupled : Coupled rename (Constraint.rename rename) (result first.scope first.nested)
      (result (first.scope.rename rename) first.nested))
    (nested : first.nested = second.nested) (renames : first.Renames second rename) :
    first.Carries second rename visit := by
  have matched := coupled _ _ renames.shifts
  rw [renames.scope] at matched
  generalize given : result first.scope first.nested first.aliases = outcome at matched
  generalize taken : result second.scope first.nested second.aliases = image at matched
  rw [nested] at taken
  cases matched with
  | error cause =>
      exact .inl ⟨cause, (adds.eq_error_iff ready).mpr given,
        (adds.eq_error_iff otherReady).mpr taken⟩
  | ok constraint shifts =>
      exact .inr ⟨constraint, _, _, (adds.eq_ok_iff ready).mpr ⟨_, _, given, rfl⟩,
        (adds.eq_ok_iff otherReady).mpr ⟨_, _, taken, rfl⟩⟩

theorem Adds.apart {connect : Constraint → Constraint → Constraint}
    (adds : Adds visit fun scope nested => do
      let first ← one scope nested
      let second ← other scope nested
      return connect first second)
    (leftAdds : Adds left one) (rightAdds : Adds right other) (ready : walk.Ready)
    (coupled : ∀ rename, Coupled rename (Constraint.rename rename)
      (other walk.scope walk.nested) (other (walk.scope.rename rename) walk.nested))
    (leads : ∀ middle, left walk.isolated = .ok ((), middle) →
      ∃ rename, walk.Renames middle rename) :
    walk.Apart connect visit left right := by
  intro middle done
  refine ⟨leads middle done, ?_⟩
  intro rename renames
  obtain ⟨first, between, leftRun, rfl⟩ := (leftAdds.eq_ok_iff ready.isolated).mp done
  have middleReady := (ready.isolated.withAliases between).collect [first]
  have scope_eq : ((walk.isolated.withAliases between).collect [first]).scope = walk.scope :=
    Walk.scope_collect _ _
  obtain ⟨cause, alone, failed⟩ | ⟨second, aliases, reached, alone, added⟩ :=
    rightAdds.carries ready middleReady (coupled rename) rfl renames
  · rw [rightAdds.eq_error_iff middleReady, scope_eq] at failed
    refine .inl ⟨cause, alone, (adds.eq_error_iff ready).mpr ?_⟩
    exact connected_eq_error_iff.mpr (.inr ⟨first, between, leftRun, failed⟩)
  · have rightRun := (rightAdds.yields_iff middleReady).mp added
    rw [scope_eq] at rightRun
    refine .inr ⟨first, second, aliases, reached, rfl, alone, (adds.yields_iff ready).mpr ?_⟩
    exact yields_connected.mpr ⟨first, between, _, leftRun, rightRun, rfl⟩

end Visits

end Sramp.Compile

namespace Sramp.Query

open Compile

variable {env : Environment} {first second walk : Walk}

/-- A visited left side leaves a frame alike to that in which the right side is visited alone. -/
theorem exists_renames_of_left (valid : env.settings.Valid) (reachable : walk.Reachable env)
    {left : Expr} {middle : Walk} (done : left.visit env walk.isolated = .ok ((), middle)) :
    ∃ rename, walk.Renames middle rename := by
  have begun := reachable.isolated
  have alike := (left.adds valid).alike (begun.ready valid) done
  exact reachable.exists_renames valid (begun.visited left done)
    ⟨alike.relationship, alike.target, alike.nested⟩

theorem Expr.apart (valid : env.settings.Valid) (reachable : walk.Reachable env) (left : OrExpr)
    (right : Expr) : walk.Apart .and ((Expr.chain left right).visit env) (left.visit env)
      (right.visit env) := by
  apply (Expr.adds_chain valid left right).apart (left.adds valid) (right.adds valid)
    (reachable.ready valid)
  · intro rename
    exact right.coupled _ _
  · intro middle done
    have single : (Expr.single left).visit env = left.visit env := by rw [Expr.visit]
    rw [← single] at done
    exact exists_renames_of_left valid reachable done

theorem OrExpr.apart (valid : env.settings.Valid) (reachable : walk.Reachable env)
    (left : EqualityExpr) (right : OrExpr) :
    walk.Apart .or ((OrExpr.chain left right).visit env) (left.visit env)
      (right.visit env) := by
  apply (OrExpr.adds_chain valid left right).apart (left.adds valid) (right.adds valid)
    (reachable.ready valid)
  · intro rename
    exact right.coupled _ _
  · intro middle done
    have single : (Expr.single (.single left)).visit env = left.visit env := by
      rw [Expr.visit, OrExpr.visit]
    rw [← single] at done
    exact exists_renames_of_left valid reachable done

/-- Between two states alike there is a renaming, and whatever renaming leads from the one to the
other, a visit in the second state fails as in the first or adds the renamed constraint.  What
the right side of a connective adds is therefore what it adds alone, renamed. -/
theorem visit_renamed (valid : env.settings.Valid) (reachable : first.Reachable env)
    (otherReachable : second.Reachable env) (alike : first.Alike second) :
    (∃ rename, first.Renames second rename) ∧
    (∀ rename, first.Renames second rename →
      (∀ expr : Expr, first.Carries second rename (expr.visit env)) ∧
      (∀ expr : OrExpr, first.Carries second rename (expr.visit env)) ∧
      ∀ expr : EqualityExpr, first.Carries second rename (expr.visit env)) ∧
    (∀ (left : OrExpr) (right : Expr), first.Apart .and ((Expr.chain left right).visit env)
      (left.visit env) (right.visit env)) ∧
    ∀ (left : EqualityExpr) (right : OrExpr), first.Apart .or
      ((OrExpr.chain left right).visit env) (left.visit env) (right.visit env) := by
  have ready := reachable.ready valid
  have otherReady := otherReachable.ready valid
  refine ⟨reachable.exists_renames valid otherReachable alike, ?_, Expr.apart valid reachable,
    OrExpr.apart valid reachable⟩
  intro rename renames
  refine ⟨?_, ?_, ?_⟩
  · intro expr
    exact (expr.adds valid).carries ready otherReady (expr.coupled _ _) alike.nested renames
  · intro expr
    exact (expr.adds valid).carries ready otherReady (expr.coupled _ _) alike.nested renames
  · intro expr
    exact (expr.adds valid).carries ready otherReady (expr.coupled _ _) alike.nested renames

/-- `@status`, visited a second time, adds what it added the first time, with `property2` for
`property1`. -/
theorem visit_renamed_of_sample :
    ∃ first second rename constraint aliases reached,
      first.Reachable .bare ∧ second.Reachable .bare ∧ first.Renames second rename ∧
      rename "property1" = "property2" ∧
      (Expr.exists "status").visit .bare first =
        .ok ((), (first.withAliases aliases).collect [constraint]) ∧
      (Expr.exists "status").visit .bare second =
        .ok ((), (second.withAliases reached).collect [constraint.rename rename]) := by
  have valid : Environment.bare.settings.Valid := Settings.fault?_eq_none_iff.mp (by decide)
  have reachable : Walk.Reachable .bare _ := .start .all
  have succeeds : ((Expr.exists "status").visit .bare (Walk.start.collect
      (pathTests .bare Walk.start.root .all))).toOption.isSome = true := by
    decide +kernel
  have counted : ((Expr.exists "status").visit .bare (Walk.start.collect
      (pathTests .bare Walk.start.root .all))).toOption.map (·.2.aliases.properties) = some 1 := by
    decide +kernel
  obtain ⟨⟨⟨⟩, second⟩, done⟩ := exists_ok_of_isSome succeeds
  rw [done] at counted
  have other := reachable.visited _ done
  have alike := ((Expr.exists "status").adds valid).alike (reachable.ready valid) done
  obtain ⟨⟨rename, renames⟩, carries, -⟩ := visit_renamed valid reachable other alike
  obtain ⟨cause, failed, -⟩ | ⟨constraint, aliases, reached, first, again⟩ :=
    (carries rename renames).1 (.exists "status")
  · cases done.symm.trans failed
  · have shifted := renames.shifts .property 0
    have counts : second.aliases.count .property = 1 := Option.some.inj counted
    rw [counts] at shifted
    exact ⟨_, second, rename, constraint, aliases, reached, reachable, other, renames, shifted,
      first, again⟩

end Sramp.Query
