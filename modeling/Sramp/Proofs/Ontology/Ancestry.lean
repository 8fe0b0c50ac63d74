import Mathlib.Logic.Relation
import Sramp.Proofs.Ontology.Growth

/-!
# Ancestors of classes

Which classes the normalization of a term yields.  From the class that the term names, the parents
are followed within its ontology, until a class has no parent or a URI comes up again.  Declared
classes are finitely many, and a walk that does not end takes a new one in every round: so it ends,
whether the parents make a cycle or are not declared at all.  Since a URI of an ontology names one
class only, nothing is taken for a repetition that is none, and no ancestor is missed.
-/

namespace Sramp

open Relation (ReflTransGen TransGen)

/-- A class that was taken out is not found, and every other one as before. -/
theorem Classes.lookup_without (classes : Classes) (id other : String) :
    (classes.without id).lookup other = if other = id then none else classes.lookup other := by
  induction classes with
  | nil => simp [without]
  | cons entry rest ih =>
      obtain ⟨name, parent⟩ := entry
      rw [without] at ih
      by_cases same : other = name
      · subst same
        by_cases taken : other = id
        · simpa [without, taken] using ih
        · simp [without, taken]
      · have differs : (other == name) = false := beq_false_of_ne same
        by_cases taken : name = id
        · subst taken
          simpa [without, List.lookup_cons, differs, same] using ih
        · simpa [without, List.lookup_cons, differs, taken] using ih

namespace Ontology

variable {ontology : Ontology} {start id other parent uri : String} {rounds : Nat}
variable {seen found : UriSet} {rest : Classes}

/-- The parent that a class was last declared with. -/
def parent? (ontology : Ontology) (id : String) : Option String :=
  (ontology.classes.lookup id).join

/-- A class has another one as its parent. -/
def HasParent (ontology : Ontology) (id parent : String) : Prop :=
  ontology.parent? id = some parent

theorem parent?_ofBase (base id : String) : (ofBase base).parent? id = none := rfl

/-- Of the declarations of a class only the last one counts. -/
theorem parent?_withClass (ontology : Ontology) (id : String) (parent : Option String)
    (other : String) :
    (ontology.withClass id parent).parent? other =
      if other = id then parent else ontology.parent? other := by
  by_cases same : other = id
  · simp [parent?, withClass, same]
  · have differs : (other == id) = false := beq_false_of_ne same
    simp [parent?, withClass, List.lookup_cons, differs, same]

/-- A class that is not declared has no parent. -/
theorem parent?_of_not_declares (undeclared : ontology.declares id = false) :
    ontology.parent? id = none := by
  have absent : ontology.classes.lookup id = none := by simpa [declares] using undeclared
  rw [parent?, absent]
  rfl

/-- No chain of parents goes on from a class that is not declared. -/
theorem not_above_of_not_declares (undeclared : ontology.declares id = false) :
    ¬TransGen ontology.HasParent id other := by
  intro above
  obtain ⟨parent, has, -⟩ := TransGen.head'_iff.mp above
  rw [HasParent, parent?_of_not_declares undeclared] at has
  contradiction

/-- In one ontology, a URI names one class. -/
theorem uri_inj : ontology.uri id = ontology.uri other ↔ id = other := by
  simp [uri]

/-- A walk up from a class: the URIs seen before it, how many rounds it takes, and the URIs seen
when it ends.  It ends at a URI that was seen before, and at a class without a parent. -/
inductive Climbs (ontology : Ontology) : UriSet → String → Nat → UriSet → Prop where
  | again {seen : UriSet} {id : String} :
      ontology.uri id ∈ seen → Climbs ontology seen id 1 seen
  | top {seen : UriSet} {id : String} :
      ontology.uri id ∉ seen → ontology.parent? id = none →
      Climbs ontology seen id 1 (seen.insert (ontology.uri id))
  | up {seen found : UriSet} {id parent : String} {rounds : Nat} :
      ontology.uri id ∉ seen → ontology.parent? id = some parent →
      Climbs ontology (seen.insert (ontology.uri id)) parent rounds found →
      Climbs ontology seen id (rounds + 1) found

/-- A walk can end in one way only. -/
theorem Climbs.unique {others : UriSet} {times : Nat}
    (climbs : ontology.Climbs seen id rounds found)
    (again : ontology.Climbs seen id times others) : rounds = times ∧ found = others := by
  induction climbs generalizing times with
  | again member =>
      cases again with
      | again => exact ⟨rfl, rfl⟩
      | top fresh | up fresh => exact absurd member fresh
  | top fresh none =>
      cases again with
      | again member => exact absurd member fresh
      | top => exact ⟨rfl, rfl⟩
      | up _ some => cases none.symm.trans some
  | up fresh some _ ih =>
      cases again with
      | again member => exact absurd member fresh
      | top _ none => cases none.symm.trans some
      | up _ same further =>
          cases some.symm.trans same
          obtain ⟨rfl, rfl⟩ := ih further
          exact ⟨rfl, rfl⟩

/-- What is known of a walk from a class when it comes to another one.  All that was seen lies
above the start, and of what was seen, the parents were seen too, but for the class at hand. -/
structure Trail (ontology : Ontology) (start : String) (seen : UriSet) (id : String) : Prop where
  reached : ReflTransGen ontology.HasParent start id
  above : ∀ uri ∈ seen, ∃ other, ReflTransGen ontology.HasParent start other ∧
    ontology.uri other = uri
  begun : id = start ∨ ontology.uri start ∈ seen
  closed : ∀ other parent, ontology.uri other ∈ seen → ontology.HasParent other parent →
    parent = id ∨ ontology.uri parent ∈ seen

theorem Trail.begins (ontology : Ontology) (start : String) :
    ontology.Trail start .empty start where
  reached := .refl
  above uri member := absurd member (UriSet.not_mem_empty uri)
  begun := .inl rfl
  closed other _ member := absurd member (UriSet.not_mem_empty (ontology.uri other))

/-- One round keeps what is known: the class at hand joins what was seen, and if it has a parent
the walk comes to it. -/
theorem Trail.insert {next : String} (trail : ontology.Trail start seen id)
    (reached : ReflTransGen ontology.HasParent start next)
    (leads : ∀ parent, ontology.HasParent id parent → parent = next) :
    ontology.Trail start (seen.insert (ontology.uri id)) next where
  reached := reached
  above uri member := by
    rcases UriSet.mem_insert.mp member with rfl | member
    · exact ⟨id, trail.reached, rfl⟩
    · exact trail.above uri member
  begun := by
    rcases trail.begun with rfl | begun
    · exact .inr (UriSet.mem_insert.mpr (.inl rfl))
    · exact .inr (UriSet.mem_insert.mpr (.inr begun))
  closed other parent member has := by
    rcases UriSet.mem_insert.mp member with same | member
    · cases uri_inj.mp same
      exact .inl (leads parent has)
    · rcases trail.closed other parent member has with rfl | seen
      · exact .inr (UriSet.mem_insert.mpr (.inl rfl))
      · exact .inr (UriSet.mem_insert.mpr (.inr seen))

/-- Where the class at hand was seen as well, all that lies above the start was. -/
theorem Trail.mem_iff (trail : ontology.Trail start seen id) (last : ontology.uri id ∈ seen) :
    uri ∈ seen ↔ ∃ other, ReflTransGen ontology.HasParent start other ∧
      ontology.uri other = uri := by
  constructor
  · intro member
    exact trail.above uri member
  · rintro ⟨other, above, rfl⟩
    induction above with
    | refl =>
        rcases trail.begun with rfl | begun
        · exact last
        · exact begun
    | tail _ has ih =>
        rcases trail.closed _ _ ih has with rfl | member
        · exact last
        · exact member

/-- A walk has seen all that lies above its start when it ends. -/
theorem Climbs.mem_iff (climbs : ontology.Climbs seen id rounds found)
    (trail : ontology.Trail start seen id) :
    uri ∈ found ↔ ∃ other, ReflTransGen ontology.HasParent start other ∧
      ontology.uri other = uri := by
  induction climbs with
  | again member => exact trail.mem_iff member
  | @top seen id fresh none =>
      have ended : ontology.Trail start (seen.insert (ontology.uri id)) id := by
        apply trail.insert trail.reached
        intro parent has
        cases none.symm.trans has
      exact ended.mem_iff (UriSet.mem_insert.mpr (.inl rfl))
  | @up _ _ id parent _ fresh has _ ih =>
      apply ih
      apply trail.insert (trail.reached.tail has)
      intro other given
      cases given.symm.trans has
      rfl

/-! ## Every walk ends -/

/-- The declarations of the classes whose URIs were not seen. -/
structure Unseen (ontology : Ontology) (seen : UriSet) (rest : Classes) : Prop where
  kept : ∀ id, ontology.uri id ∉ seen → rest.lookup id = ontology.classes.lookup id
  gone : ∀ id, ontology.uri id ∈ seen → rest.lookup id = none

theorem Unseen.begins (ontology : Ontology) : ontology.Unseen .empty ontology.classes where
  kept _ _ := rfl
  gone id member := absurd member (UriSet.not_mem_empty (ontology.uri id))

/-- A class that is seen is taken out. -/
theorem Unseen.without (unseen : ontology.Unseen seen rest) (id : String) :
    ontology.Unseen (seen.insert (ontology.uri id)) (rest.without id) where
  kept other fresh := by
    rw [UriSet.mem_insert, not_or, uri_inj] at fresh
    rw [Classes.lookup_without, if_neg fresh.1, unseen.kept other fresh.2]
  gone other member := by
    rw [Classes.lookup_without]
    split
    next => rfl
    next different =>
        rcases UriSet.mem_insert.mp member with same | member
        · exact absurd (uri_inj.mp same) different
        · exact unseen.gone other member

/-- A walk ends with what a lineage lists, after as many rounds as there are declarations left and
one more at the most. -/
theorem exists_climbs (unseen : ontology.Unseen seen rest) (id : String) :
    ∃ rounds ≤ rest.length + 1, ∃ found, ontology.Climbs seen id rounds found ∧
      ∀ uri, uri ∈ found ↔ uri ∈ seen ∨ uri ∈ (rest.lineage id).map ontology.uri := by
  fun_induction rest.lineage id generalizing seen with
  | case1 rest id parent declared ih =>
      have fresh : ontology.uri id ∉ seen := by
        intro member
        rw [unseen.gone id member] at declared
        contradiction
      have has : ontology.parent? id = some parent := by
        rw [parent?, ← unseen.kept id fresh, declared]
        rfl
      obtain ⟨rounds, few, found, climbs, members⟩ := ih (unseen.without id)
      have fewer := Classes.length_without_lt declared
      refine ⟨rounds + 1, by omega, found, .up fresh has climbs, ?_⟩
      intro uri
      simp only [members, UriSet.mem_insert, List.map_cons, List.mem_cons, or_assoc,
        or_left_comm]
  | case2 rest id undeclared =>
      by_cases member : ontology.uri id ∈ seen
      · refine ⟨1, by omega, seen, .again member, ?_⟩
        intro uri
        simp only [List.map_cons, List.map_nil, List.mem_singleton]
        constructor
        · exact .inl
        · rintro (known | rfl)
          · exact known
          · exact member
      · have none : ontology.parent? id = none := by
          rw [parent?, ← unseen.kept id member]
          cases found : rest.lookup id with
          | none => rfl
          | some declared => cases declared with
            | none => rfl
            | some parent => exact absurd found (undeclared parent)
        refine ⟨1, by omega, _, .top member none, ?_⟩
        intro uri
        simp only [UriSet.mem_insert, List.map_cons, List.map_nil, List.mem_singleton, or_comm]

/-- The walk from a class ends with the class and its ancestors. -/
theorem climbs_ancestors (ontology : Ontology) (id : String) :
    ∃ rounds ≤ ontology.classes.length + 1,
      ontology.Climbs .empty id rounds (ontology.ancestors id) := by
  obtain ⟨rounds, few, found, climbs, members⟩ := exists_climbs (.begins ontology) id
  have same : found = ontology.ancestors id := by
    apply UriSet.eq_of_forall_mem_iff
    intro uri
    rw [members, ancestors, UriSet.mem_ofList]
    simp
  rw [same] at climbs
  exact ⟨rounds, few, climbs⟩

theorem mem_ancestors : uri ∈ ontology.ancestors id ↔
    ∃ other, ReflTransGen ontology.HasParent id other ∧ ontology.uri other = uri := by
  obtain ⟨rounds, -, climbs⟩ := ontology.climbs_ancestors id
  exact climbs.mem_iff (.begins ontology id)

end Ontology

namespace Ontologies

variable {ontologies : Ontologies} {term id uri : String} {ontology : Ontology}

theorem normalize_eq_ok {uris : UriSet} (normalized : ontologies.normalize term = .ok uris) :
    ∃ ontology id, ontologies.locate term = .ok (ontology, id) ∧ ontology.ancestors id = uris := by
  cases located : ontologies.locate term with
  | error cause =>
      rw [normalize, located] at normalized
      contradiction
  | ok found =>
      obtain ⟨ontology, id⟩ := found
      rw [normalize_of_locate located, Except.ok.injEq] at normalized
      exact ⟨ontology, id, rfl, normalized⟩

theorem normalize_of_locate_error {cause : ResolveError}
    (failed : ontologies.locate term = .error cause) :
    ontologies.normalize term = .error cause := by
  rw [normalize, failed]
  rfl

/-- Normalization fails exactly where resolution does, with its error. -/
theorem normalize_eq_error_iff {cause : ResolveError} :
    ontologies.normalize term = .error cause ↔ ontologies.resolve term = .error cause := by
  cases located : ontologies.locate term with
  | error other =>
      rw [normalize_of_locate_error located, resolve_of_locate_error located]
      simp
  | ok found =>
      obtain ⟨ontology, id⟩ := found
      rw [normalize_of_locate located, resolve_of_locate located]
      simp

/-- A term that names a class is normalized by a walk, which ends after as many rounds as there
are declarations and one more at the most.  The URIs are those of the class and of all that its
parents lead to; nothing follows in a chain on a parent that is not declared.  A term that does
not resolve is not normalized either, with the same error. -/
theorem normalize_ancestors (ontologies : Ontologies) (term : String) :
    (∀ ontology id, ontologies.locate term = .ok (ontology, id) →
      ∃ uris, ontologies.normalize term = .ok uris ∧
        (∃ rounds ≤ ontology.classes.length + 1, ontology.Climbs .empty id rounds uris) ∧
        (∀ rounds found, ontology.Climbs .empty id rounds found → found = uris) ∧
        (∀ uri, uri ∈ uris ↔ ∃ other,
          (other = id ∨ TransGen ontology.HasParent id other) ∧ ontology.uri other = uri) ∧
        ∀ last other, ontology.declares last = false →
          ¬TransGen ontology.HasParent last other) ∧
      ∀ cause, ontologies.normalize term = .error cause ↔
        ontologies.resolve term = .error cause := by
  constructor
  · intro ontology id located
    obtain ⟨rounds, few, climbs⟩ := ontology.climbs_ancestors id
    refine ⟨_, normalize_of_locate located, ⟨rounds, few, climbs⟩, ?_, ?_, ?_⟩
    · intro times found again
      exact (again.unique climbs).2
    · intro uri
      simp only [Ontology.mem_ancestors, Relation.reflTransGen_iff_eq_or_transGen]
    · intro last other undeclared above
      exact Ontology.not_above_of_not_declares undeclared above
  · intro cause
    exact normalize_eq_error_iff

/-- An ontology in which `Asia` and `World` are below each other since `World` was declared again,
`Void` is below itself, and the parent of `Mars` is not declared. -/
def looped : Ontology :=
  [("World", none), ("Asia", some "World"), ("World", some "Asia"), ("Void", some "Void"),
    ("Mars", some "Space")].foldl (fun ontology (id, parent) => ontology.withClass id parent)
    (.ofBase "urn:r")

/-- The walk from `Asia` ends although its parents make a cycle; `Void` has no ancestor but itself,
and `Space` is one of `Mars`.  `Space` itself is unknown. -/
theorem normalize_ancestors_of_looped :
    (locate [looped] "Asia" = .ok (looped, "Asia") ∧
      normalize [looped] "Asia" = .ok (.ofList ["urn:r#Asia", "urn:r#World"]) ∧
      (∃ rounds ≤ 6, looped.Climbs .empty "Asia" rounds
        (.ofList ["urn:r#Asia", "urn:r#World"])) ∧
      TransGen looped.HasParent "Asia" "Asia") ∧
      (locate [looped] "Void" = .ok (looped, "Void") ∧
        normalize [looped] "Void" = .ok (.ofList ["urn:r#Void"])) ∧
      (locate [looped] "Mars" = .ok (looped, "Mars") ∧
        ∃ uris, normalize [looped] "Mars" = .ok uris ∧ "urn:r#Space" ∈ uris) ∧
      resolve [looped] "Space" = .error (.unknown "Space") ∧
      normalize [looped] "Space" = .error (.unknown "Space") := by
  have asia : locate [looped] "Asia" = .ok (looped, "Asia") := by rfl
  have void : locate [looped] "Void" = .ok (looped, "Void") := by rfl
  have mars : locate [looped] "Mars" = .ok (looped, "Mars") := by rfl
  have space : resolve [looped] "Space" = .error (.unknown "Space") := by rfl
  have up : looped.HasParent "Asia" "World" := by rfl
  have down : looped.HasParent "World" "Asia" := by rfl
  have cycle : normalize [looped] "Asia" = .ok (.ofList ["urn:r#Asia", "urn:r#World"]) := by
    decide +kernel
  have loop : normalize [looped] "Void" = .ok (.ofList ["urn:r#Void"]) := by decide +kernel
  obtain ⟨uris, normalized, walk, -⟩ := (normalize_ancestors [looped] "Asia").1 _ _ asia
  cases cycle.symm.trans normalized
  obtain ⟨others, fromMars, -, -, members, -⟩ := (normalize_ancestors [looped] "Mars").1 _ _ mars
  have above : looped.HasParent "Mars" "Space" := by rfl
  exact ⟨⟨asia, cycle, walk, .tail (.single up) down⟩, ⟨void, loop⟩,
    ⟨mars, others, fromMars, (members _).mpr ⟨"Space", .inr (.single above), rfl⟩⟩, space,
    ((normalize_ancestors [looped] "Space").2 _).mpr space⟩

end Ontologies

end Sramp
