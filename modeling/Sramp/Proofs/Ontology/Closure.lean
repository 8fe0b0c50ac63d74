import Mathlib.Data.List.Nodup
import Sramp.Proofs.Compile.Classification
import Sramp.Proofs.Meaning.Reading
import Sramp.Proofs.Ontology.Ancestry

/-!
# Closed sets of classes

An artifact is stored with the normalization of its class, so that a question for an ancestor of
the class finds it.  The ancestors of an ancestor are in that set too, as long as the URI of the
ancestor is found in the ontology that it was taken from.  It need not be: another ontology with
the same base may declare the class, with other parents; a URI without a base is looked up as an
identifier; and an identifier that holds a hash is divided elsewhere when it is read.
-/

namespace Sramp

open Relation (ReflTransGen)

/-- What lies above an ancestor lies above the class. -/
theorem Ontology.mem_ancestors_of_above {ontology : Ontology} {id other uri : String}
    (above : ReflTransGen ontology.HasParent id other) (member : uri ∈ ontology.ancestors other) :
    uri ∈ ontology.ancestors id := by
  rw [mem_ancestors] at member ⊢
  obtain ⟨last, further, same⟩ := member
  exact ⟨last, above.trans further, same⟩

namespace Ontologies

variable {ontologies : Ontologies} {ontology : Ontology} {term id other uri : String}
variable {uris found : UriSet}

/-- A term is located in one of the ontologies, at a class that this one declares. -/
theorem locate_eq_ok (located : ontologies.locate term = .ok (ontology, id)) :
    ontology ∈ ontologies ∧ ontology.declares id = true ∧ '#' ∉ id.toList := by
  obtain ⟨form, spells⟩ := Term.exists_spells term
  cases form with
  | qualified base name =>
      rw [locate_of_qualified spells] at located
      split at located
      next first =>
          cases located
          obtain ⟨member, -, declares⟩ := of_firstDeclaring first
          cases spells with
          | uri _ unmarked => exact ⟨member, declares, unmarked⟩
      next => contradiction
  | bare name =>
      rw [locate_of_bare spells] at located
      split at located
      next => contradiction
      next only =>
          cases located
          have member : ontology ∈ ontologies.declaring id := by simp [only]
          rw [mem_declaring] at member
          exact ⟨member.1, member.2, spells.unmarked⟩
      next => contradiction

/-- A URI that is found in the ontology it was taken from is found at its class. -/
theorem eq_of_locate_uri (located : ontologies.locate (ontology.uri id) = .ok (ontology, other)) :
    other = id := by
  obtain ⟨form, spells⟩ := Term.exists_spells (ontology.uri id)
  cases form with
  | qualified base name =>
      rw [locate_of_qualified spells] at located
      split at located
      next first =>
          cases located
          obtain ⟨-, rfl, -⟩ := of_firstDeclaring first
          generalize whole : ontology.uri id = text at spells
          cases spells with
          | uri => exact Ontology.uri_inj.mp whole.symm
      next => contradiction
  | bare name =>
      have same : name = other := by
        rw [locate_of_bare spells] at located
        split at located
        next => contradiction
        next => cases located; rfl
        next => contradiction
      subst same
      have unmarked := spells.unmarked
      generalize whole : ontology.uri id = text at spells
      have chars : text.toList = ontology.base.toList ++ '#' :: id.toList := by
        simp [← whole, Ontology.uri]
      cases spells with
      | fragment =>
          -- The hash in front is the only one, so that the base is empty.
          rw [String.toList_append, show "#".toList = ['#'] from rfl, List.singleton_append,
            List.cons_eq_append_iff] at chars
          rcases chars with ⟨-, same⟩ | ⟨rest, -, same⟩
          · exact String.toList_inj.mp (List.cons.inj same).2.symm
          · rw [same] at unmarked
            simp at unmarked
      | name =>
          rw [chars] at unmarked
          simp at unmarked

/-- Ontologies with different bases, none of them empty, and without a hash in any parent. -/
structure Separate (ontologies : Ontologies) : Prop where
  bases : (ontologies.map (·.base)).Nodup
  based : ∀ ontology ∈ ontologies, ontology.base ≠ ""
  unmarked : ∀ ontology ∈ ontologies, ∀ id parent, ontology.HasParent id parent →
    '#' ∉ parent.toList

/-- Above a class that was located, no identifier of separate ontologies holds a hash. -/
theorem Separate.unmarked_above (separate : ontologies.Separate)
    (located : ontologies.locate term = .ok (ontology, id))
    (above : ReflTransGen ontology.HasParent id other) : '#' ∉ other.toList := by
  obtain ⟨member, -, unmarked⟩ := locate_eq_ok located
  cases above with
  | refl => exact unmarked
  | tail _ has => exact separate.unmarked ontology member _ _ has

/-- What lies above a class of separate ontologies is found in the ontology of the class or not at
all. -/
theorem Separate.locate_above {elsewhere : Ontology} {name : String}
    (separate : ontologies.Separate) (located : ontologies.locate term = .ok (ontology, id))
    (above : ReflTransGen ontology.HasParent id other)
    (further : ontologies.locate (ontology.uri other) = .ok (elsewhere, name)) :
    elsewhere = ontology := by
  have member := (locate_eq_ok located).1
  have spells : (Term.qualified ontology.base other).Spells (ontology.uri other) :=
    .uri (separate.based ontology member) (separate.unmarked_above located above)
  rw [locate_of_qualified spells] at further
  split at further
  next first =>
      cases further
      obtain ⟨also, same, -⟩ := of_firstDeclaring first
      exact List.inj_on_of_nodup_map separate.bases also member same
  next => contradiction

end Ontologies

namespace Query

open Compile

variable {store : Store} {env : Environment} {node : store.Node} {call : FunctionCall}
variable {uri : String} {uris : UriSet}

/-- An artifact that is not in the trash is stored with some normalized classes. -/
structure StoredWith (env : Environment) (node : store.Node) (uris : UriSet) : Prop where
  artifact : store.kind node = .artifact
  live : store.Under node env.settings.artifactRoot
  classified : ∀ uri ∈ uris, store.Compares node (.classifier true) .eq (.string uri)

/-- A call asks whether a class is among the normalized ones, by a term that resolves to it. -/
def FunctionCall.AsksFor (call : FunctionCall) (env : Environment) (uri : String) : Prop :=
  ∃ connect term, call.NamesClasses connect true [term] ∧
    env.services.resolveAll [term] = .ok (.ofList [uri])

/-- The query for all artifacts of which a call holds. -/
def ofCall (call : FunctionCall) : Query where
  path := .all
  predicate := some (.function call)

/-- The question for a class selects the artifacts that are stored with it. -/
theorem selects_of_stored (stored : StoredWith env node uris) (member : uri ∈ uris)
    (asks : call.AsksFor env uri) : Selects env (ofCall call) node := by
  obtain ⟨connect, term, names, resolved⟩ := asks
  obtain ⟨any, named, -⟩ := names.named
  have classified : Classified env node any true [term] := by
    refine ⟨_, resolved, ?_⟩
    cases any <;> simpa using stored.classified uri member
  have holds : call.Holds env ⟨node, none⟩ none := by
    rw [FunctionCall.holds_iff_function, named]
    exact ⟨rfl, [term], names.literals, classified⟩
  refine ⟨node, stored.artifact, trivial, ?_, stored.live, rfl⟩
  rintro expr ⟨⟩
  exact holds

end Query

namespace Ontologies

variable {ontologies : Ontologies} {ontology : Ontology} {term id uri : String}
variable {uris found : UriSet}

/-- A term is found in an ontology. -/
def FoundIn (ontologies : Ontologies) (term : String) (ontology : Ontology) : Prop :=
  ∃ id, ontologies.locate term = .ok (ontology, id)

/-- An ancestor that is found in the ontology of the class brings its own ancestors with it. -/
theorem subset_of_foundIn (member : uri ∈ ontology.ancestors id)
    (home : ontologies.FoundIn uri ontology)
    (normalized : ontologies.normalize uri = .ok found) :
    ∀ ancestor ∈ found, ancestor ∈ ontology.ancestors id := by
  obtain ⟨other, above, rfl⟩ := Ontology.mem_ancestors.mp member
  obtain ⟨name, further⟩ := home
  cases eq_of_locate_uri further
  cases (normalize_of_locate further).symm.trans normalized
  intro ancestor lies
  exact Ontology.mem_ancestors_of_above above lies

/-- In separate ontologies, all ancestors that are found are found where the class is. -/
theorem Separate.foundIn (separate : ontologies.Separate)
    (located : ontologies.locate term = .ok (ontology, id))
    (member : uri ∈ ontology.ancestors id) (normalized : ontologies.normalize uri = .ok found) :
    ontologies.FoundIn uri ontology := by
  obtain ⟨other, above, rfl⟩ := Ontology.mem_ancestors.mp member
  obtain ⟨elsewhere, name, further, -⟩ := normalize_eq_ok normalized
  cases separate.locate_above located above further
  exact ⟨name, further⟩

/-- The classes with which a term is normalized include the ancestors of each of them that is
found in the ontology of the term, and in separate ontologies every one is found there or not at
all.  So an artifact stored with these classes is selected by the question for any of the
ancestors. -/
theorem normalize_closed (normalized : ontologies.normalize term = .ok uris) :
    ∃ ontology, ontologies.FoundIn term ontology ∧
      ∀ uri ∈ uris, ∀ found, ontologies.normalize uri = .ok found →
        (ontologies.Separate → ontologies.FoundIn uri ontology) ∧
        (ontologies.FoundIn uri ontology → ∀ ancestor ∈ found, ancestor ∈ uris ∧
          ∀ (store : Store) (node : store.Node) (env : Compile.Environment)
            (call : Query.FunctionCall),
            Query.StoredWith env node uris → call.AsksFor env ancestor →
            Query.Selects env (.ofCall call) node) := by
  obtain ⟨ontology, id, located, rfl⟩ := normalize_eq_ok normalized
  refine ⟨ontology, ⟨id, located⟩, ?_⟩
  intro uri member found further
  constructor
  · intro separate
    exact separate.foundIn located member further
  · intro home ancestor lies
    have inside := subset_of_foundIn member home further ancestor lies
    refine ⟨inside, ?_⟩
    intro store node env call stored asks
    exact Query.selects_of_stored stored inside asks

/-- Two ontologies with different bases, both of which declare `China`. -/
def schemes : Ontologies :=
  [.withClass (.withClass (.withClass (.ofBase "urn:r") "World" none) "Asia" (some "World"))
      "China" (some "Asia"),
    .withClass (.withClass (.ofBase "urn:c") "Table" none) "China" (some "Table")]

theorem separate_schemes : schemes.Separate where
  bases := by decide
  based := by decide
  unmarked := by
    intro ontology member id parent has
    simp only [schemes, List.mem_cons, List.not_mem_nil, or_false] at member
    rcases member with rfl | rfl <;>
      simp only [Ontology.HasParent, Ontology.parent?_withClass, Ontology.parent?_ofBase] at has <;>
      split_ifs at has <;> cases has <;> decide

/-- A store of one artifact, with some normalized classes. -/
def storeOf (uris : UriSet) : Store where
  Node := Unit
  Key := Unit
  kind _ := .artifact
  Beneath _ _ := False
  field node _ := some node
  id node := node
  field_id _ := rfl
  eq_of_id _ same := same
  Compares _ property operator value :=
    property = .classifier true ∧ operator = .eq ∧ ∃ uri ∈ uris, value = .string uri
  Present _ _ := True
  OneOf _ _ _ := False
  Under _ _ := True

/-- An artifact of the class `China` is selected by the question for `World`, since `World` is an
ancestor of `Asia`. -/
theorem normalize_closed_of_schemes :
    ∃ uris found, schemes.normalize "urn:r#China" = .ok uris ∧ "urn:r#Asia" ∈ uris ∧
      schemes.normalize "urn:r#Asia" = .ok found ∧ schemes.Separate ∧ "urn:r#World" ∈ found ∧
      "urn:r#World" ∈ uris ∧
      @Query.Selects (storeOf uris) (Compile.Environment.bare.resolvingBy schemes.resolve)
        (.ofCall (.sramp "classifiedByAllOf" [.context, .literal "World"])) () := by
  have china : schemes.normalize "urn:r#China" =
      .ok (.ofList ["urn:r#Asia", "urn:r#China", "urn:r#World"]) := by decide +kernel
  have asia : schemes.normalize "urn:r#Asia" = .ok (.ofList ["urn:r#Asia", "urn:r#World"]) := by
    decide +kernel
  obtain ⟨ontology, -, closed⟩ := normalize_closed china
  obtain ⟨found, included⟩ := closed "urn:r#Asia" (by simp) _ asia
  obtain ⟨member, selected⟩ := included (found separate_schemes) "urn:r#World" (by simp)
  refine ⟨_, _, china, by simp, asia, separate_schemes, by simp, member, ?_⟩
  apply selected
  · exact ⟨rfl, trivial, fun uri stored => ⟨rfl, rfl, uri, stored, rfl⟩⟩
  · exact ⟨.and, "World", ⟨.inr (.inr rfl), .allOf, rfl⟩, by decide +kernel⟩

/-- An ancestor of a class with which a term is normalized is missing there. -/
def Lacks (ontologies : Ontologies) (term uri ancestor : String) : Prop :=
  ∃ uris found, ontologies.normalize term = .ok uris ∧ uri ∈ uris ∧
    ontologies.normalize uri = .ok found ∧ ancestor ∈ found ∧ ancestor ∉ uris

/-- An ontology in which the parent of `Asia` is not declared. -/
def dangling (base parent : String) : Ontology :=
  .withClass (.ofBase base) "Asia" (some parent)

/-- An ontology in which `World` is below `Earth`. -/
def global (base : String) : Ontology :=
  .withClass (.withClass (.ofBase base) "Earth" none) "World" (some "Earth")

/-- `Earth` is missing among the ancestors of `Asia` where two ontologies have one base, where a
base is empty, and where the parent of `Asia` holds a hash. -/
theorem exists_lacks :
    Lacks [dangling "urn:r" "World", global "urn:r"] "Asia" "urn:r#World" "urn:r#Earth" ∧
      Lacks [dangling "" "World", global "urn:r"] "Asia" "#World" "urn:r#Earth" ∧
      Lacks [dangling "urn:r" "x#World", global "urn:r#x"] "Asia" "urn:r#x#World"
        "urn:r#x#Earth" := by
  refine ⟨?_, ?_, ?_⟩
  · exact ⟨.ofList ["urn:r#Asia", "urn:r#World"], .ofList ["urn:r#World", "urn:r#Earth"],
      by decide +kernel, by simp, by decide +kernel, by simp, by simp⟩
  · exact ⟨.ofList ["#Asia", "#World"], .ofList ["urn:r#World", "urn:r#Earth"],
      by decide +kernel, by simp, by decide +kernel, by simp, by simp⟩
  · exact ⟨.ofList ["urn:r#Asia", "urn:r#x#World"], .ofList ["urn:r#x#World", "urn:r#x#Earth"],
      by decide +kernel, by simp, by decide +kernel, by simp, by simp⟩

end Ontologies

end Sramp
