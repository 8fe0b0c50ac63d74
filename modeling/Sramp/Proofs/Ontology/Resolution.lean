import Mathlib.Data.List.TakeWhile
import Sramp.Ontology

/-!
# Resolution of terms

Which class a term names.  A text with something before its last hash is a URI, and names a
class if some ontology with that base declares it.  Every other text is an identifier, with or
without a hash in front, and names a class only if exactly one ontology declares it.  A URI that
a term resolves to is a term again, and resolves to itself; where the base is empty it is an
identifier with a hash in front, which is looked up as the identifier was.
-/

namespace Sramp

namespace Term

/-- How a term is written.  No identifier holds a hash, but a base may. -/
inductive Spells : Term → String → Prop where
  | uri {base id : String} :
      base ≠ "" → '#' ∉ id.toList → Spells (.qualified base id) (base ++ "#" ++ id)
  | fragment {id : String} : '#' ∉ id.toList → Spells (.bare id) ("#" ++ id)
  | name {id : String} : '#' ∉ id.toList → Spells (.bare id) id

theorem Spells.unmarked {id text : String} (spells : (bare id).Spells text) :
    '#' ∉ id.toList := by
  cases spells <;> assumption

section Characters

variable {chars before after : List Char}

theorem splitLastHash_append (unmarked : '#' ∉ after) :
    splitLastHash (before ++ '#' :: after) = some (before, after) := by
  have others : ∀ c ∈ after.reverse, (c != '#') = true := by
    intro c member
    rw [bne_iff_ne]
    rintro rfl
    exact unmarked (List.mem_reverse.mp member)
  have reversed : (before ++ '#' :: after).reverse =
      after.reverse ++ '#' :: before.reverse := by
    simp
  simp only [splitLastHash, reversed]
  rw [List.dropWhile_append_of_pos others, List.takeWhile_append_of_pos others]
  simp

theorem splitLastHash_of_not_mem (unmarked : '#' ∉ chars) : splitLastHash chars = none := by
  have all : chars.reverse.dropWhile (· != '#') = [] := by
    rw [List.dropWhile_eq_nil_iff]
    intro c member
    rw [bne_iff_ne]
    rintro rfl
    exact unmarked (List.mem_reverse.mp member)
  simp only [splitLastHash, all]

/-- A text with a hash has a last one. -/
theorem exists_last_hash (marked : '#' ∈ chars) :
    ∃ before after, chars = before ++ '#' :: after ∧ '#' ∉ after := by
  obtain ⟨after, before, reversed, unmarked⟩ :=
    List.eq_append_cons_of_mem (List.mem_reverse.mpr marked)
  refine ⟨before.reverse, after.reverse, ?_, by simpa using unmarked⟩
  rw [← List.reverse_reverse chars, reversed]
  simp

end Characters

section Texts

variable {term : Term} {text : String}

theorem ofString_of_spells (spells : term.Spells text) : ofString text = term := by
  cases spells with
  | @uri base id given unmarked =>
      have chars : (base ++ "#" ++ id).toList = base.toList ++ '#' :: id.toList := by simp
      rw [ofString, chars, splitLastHash_append unmarked]
      cases split : base.toList with
      | nil => exact absurd (String.toList_eq_nil_iff.mp split) given
      | cons c rest =>
          simp only [← split, String.ofList_toList]
  | @fragment id unmarked =>
      have chars : ("#" ++ id).toList = [] ++ '#' :: id.toList := by simp
      rw [ofString, chars, splitLastHash_append unmarked]
      simp only [String.ofList_toList]
  | name unmarked => rw [ofString, splitLastHash_of_not_mem unmarked]

/-- Every text spells a term. -/
theorem exists_spells (text : String) : ∃ term : Term, term.Spells text := by
  by_cases marked : '#' ∈ text.toList
  · obtain ⟨before, after, chars, unmarked⟩ := exists_last_hash marked
    rw [← @String.toList_ofList after] at unmarked
    have same : text = String.ofList before ++ "#" ++ String.ofList after := by
      rw [← String.toList_inj, chars]
      simp
    cases before with
    | nil => exact ⟨_, by simpa [same] using Spells.fragment unmarked⟩
    | cons c rest =>
        rw [same]
        exact ⟨_, .uri (by simp) unmarked⟩
  · exact ⟨_, .name marked⟩

/-- No text spells two terms. -/
theorem Spells.unique {other : Term} (spells : term.Spells text) (others : other.Spells text) :
    term = other :=
  (ofString_of_spells spells).symm.trans (ofString_of_spells others)

end Texts

end Term

namespace Ontologies

variable {ontologies : Ontologies} {term base id uri : String}

/-- The ontologies that declare a class, in their order. -/
def declaring (ontologies : Ontologies) (id : String) : Ontologies :=
  ontologies.filter (·.declares id)

/-- The first ontology with a base that declares a class. -/
def firstDeclaring (ontologies : Ontologies) (base id : String) : Option Ontology :=
  ontologies.find? fun ontology => ontology.base == base && ontology.declares id

@[simp] theorem mem_declaring {ontology : Ontology} :
    ontology ∈ ontologies.declaring id ↔ ontology ∈ ontologies ∧ ontology.declares id = true :=
  List.mem_filter

theorem declaring_append (ontologies others : Ontologies) (id : String) :
    declaring (ontologies ++ others) id = ontologies.declaring id ++ others.declaring id :=
  List.filter_append ontologies others

theorem declaring_eq_nil_iff :
    ontologies.declaring id = [] ↔ ∀ ontology ∈ ontologies, ontology.declares id = false := by
  simp [declaring]

theorem firstDeclaring_eq_none_iff :
    ontologies.firstDeclaring base id = none ↔
      ∀ ontology ∈ ontologies, ontology.base = base → ontology.declares id = false := by
  simp [firstDeclaring]

/-- An ontology that is found has the base and declares the class. -/
theorem of_firstDeclaring {ontology : Ontology}
    (found : ontologies.firstDeclaring base id = some ontology) :
    ontology ∈ ontologies ∧ ontology.base = base ∧ ontology.declares id = true := by
  have holds := List.find?_some found
  simp only [Bool.and_eq_true, beq_iff_eq] at holds
  exact ⟨List.mem_of_find?_eq_some found, holds⟩

theorem locate_of_qualified (spells : (Term.qualified base id).Spells term) :
    ontologies.locate term =
      match ontologies.firstDeclaring base id with
      | some ontology => .ok (ontology, id)
      | none => .error (.unknown term) := by
  rw [locate, Term.ofString_of_spells spells]
  rfl

theorem locate_of_bare (spells : (Term.bare id).Spells term) :
    ontologies.locate term =
      match ontologies.declaring id with
      | [] => .error (.unknown term)
      | [ontology] => .ok (ontology, id)
      | many => .error (.ambiguous term (many.map (·.uri id))) := by
  rw [locate, Term.ofString_of_spells spells]
  rfl

theorem resolve_of_locate {ontology : Ontology}
    (located : ontologies.locate term = .ok (ontology, id)) :
    ontologies.resolve term = .ok (ontology.uri id) := by
  rw [resolve, located]
  rfl

theorem resolve_of_locate_error {cause : ResolveError}
    (failed : ontologies.locate term = .error cause) :
    ontologies.resolve term = .error cause := by
  rw [resolve, failed]
  rfl

/-! ## Resolution -/

/-- What terms resolve to.  A URI names a class if an ontology with its base declares it, and an
identifier if only one ontology declares it. -/
inductive Resolves (ontologies : Ontologies) : String → Except ResolveError String → Prop where
  | declared {base id : String} {ontology : Ontology} :
      base ≠ "" → '#' ∉ id.toList → ontology ∈ ontologies → ontology.base = base →
      ontology.declares id = true →
      Resolves ontologies (base ++ "#" ++ id) (.ok (base ++ "#" ++ id))
  | undeclared {base id : String} :
      base ≠ "" → '#' ∉ id.toList →
      (∀ ontology ∈ ontologies, ontology.base = base → ontology.declares id = false) →
      Resolves ontologies (base ++ "#" ++ id) (.error (.unknown (base ++ "#" ++ id)))
  | only {term id : String} {ontology : Ontology} :
      (Term.bare id).Spells term → ontologies.declaring id = [ontology] →
      Resolves ontologies term (.ok (ontology.uri id))
  | none {term id : String} :
      (Term.bare id).Spells term → ontologies.declaring id = [] →
      Resolves ontologies term (.error (.unknown term))
  | several {term id : String} :
      (Term.bare id).Spells term → 2 ≤ (ontologies.declaring id).length →
      Resolves ontologies term
        (.error (.ambiguous term ((ontologies.declaring id).map (·.uri id))))

/-- Every term resolves to what it should. -/
theorem resolves_resolve (ontologies : Ontologies) (term : String) :
    ontologies.Resolves term (ontologies.resolve term) := by
  obtain ⟨form, spells⟩ := Term.exists_spells term
  cases form with
  | qualified base id =>
      have located := ontologies.locate_of_qualified spells
      cases spells with
      | uri given unmarked =>
          cases found : ontologies.firstDeclaring base id with
          | some ontology =>
              rw [found] at located
              obtain ⟨member, rfl, declares⟩ := of_firstDeclaring found
              rw [resolve_of_locate located]
              exact .declared given unmarked member rfl declares
          | none =>
              rw [found] at located
              rw [resolve_of_locate_error located]
              exact .undeclared given unmarked (firstDeclaring_eq_none_iff.mp found)
  | bare id =>
      have located := ontologies.locate_of_bare spells
      cases found : ontologies.declaring id with
      | nil =>
          rw [found] at located
          rw [resolve_of_locate_error located]
          exact .none spells found
      | cons ontology rest =>
          cases rest with
          | nil =>
              rw [found] at located
              rw [resolve_of_locate located]
              exact .only spells found
          | cons second rest =>
              rw [found] at located
              rw [resolve_of_locate_error located, ← found]
              exact .several spells (by rw [found]; simp)

/-- No term should resolve to anything else. -/
theorem Resolves.eq {result : Except ResolveError String}
    (resolves : ontologies.Resolves term result) : ontologies.resolve term = result := by
  cases resolves with
  | @declared base id ontology given unmarked member same declares =>
      have located := ontologies.locate_of_qualified (.uri given unmarked)
      cases found : ontologies.firstDeclaring base id with
      | none =>
          have absent := firstDeclaring_eq_none_iff.mp found ontology member same
          rw [declares] at absent
          contradiction
      | some first =>
          rw [found] at located
          obtain ⟨-, rfl, -⟩ := of_firstDeclaring found
          exact resolve_of_locate located
  | undeclared given unmarked absent =>
      have located := ontologies.locate_of_qualified (.uri given unmarked)
      rw [firstDeclaring_eq_none_iff.mpr absent] at located
      exact resolve_of_locate_error located
  | only spells found =>
      have located := ontologies.locate_of_bare spells
      rw [found] at located
      exact resolve_of_locate located
  | none spells found =>
      have located := ontologies.locate_of_bare spells
      rw [found] at located
      exact resolve_of_locate_error located
  | @several _ id spells more =>
      have located := ontologies.locate_of_bare spells
      match found : ontologies.declaring id with
      | [] | [_] => simp [found] at more
      | _ :: _ :: _ =>
          rw [found] at located
          exact resolve_of_locate_error located

theorem resolve_eq_iff {result : Except ResolveError String} :
    ontologies.resolve term = result ↔ ontologies.Resolves term result := by
  constructor
  · rintro rfl
    exact ontologies.resolves_resolve term
  · exact Resolves.eq

end Ontologies

/-- The same error about another term. -/
def ResolveError.about (term : String) : ResolveError → ResolveError
  | .unknown _ => .unknown term
  | .ambiguous _ candidates => .ambiguous term candidates
  | .unavailable reason => .unavailable reason

namespace Ontologies

variable {ontologies : Ontologies} {term id uri : String}

/-- An identifier resolves alike with a hash in front and without. -/
theorem resolve_fragment (unmarked : '#' ∉ id.toList) :
    ontologies.resolve ("#" ++ id) =
      (ontologies.resolve id).mapError (·.about ("#" ++ id)) := by
  have spelled : (Term.bare id).Spells id := .name unmarked
  have marked : (Term.bare id).Spells ("#" ++ id) := .fragment unmarked
  match found : ontologies.declaring id with
  | [] =>
      rw [(Resolves.none marked found).eq, (Resolves.none spelled found).eq]
      rfl
  | [ontology] =>
      rw [(Resolves.only marked found).eq, (Resolves.only spelled found).eq]
      rfl
  | _ :: _ :: _ =>
      have more : 2 ≤ (ontologies.declaring id).length := by simp [found]
      rw [(Resolves.several marked more).eq, (Resolves.several spelled more).eq]
      rfl

/-- The URI of a class that only one ontology declares resolves to itself. -/
theorem resolve_uri_of_declaring {ontology : Ontology} (unmarked : '#' ∉ id.toList)
    (found : ontologies.declaring id = [ontology]) :
    ontologies.resolve (ontology.uri id) = .ok (ontology.uri id) := by
  have member : ontology ∈ ontologies.declaring id := by simp [found]
  obtain ⟨member, declares⟩ := mem_declaring.mp member
  by_cases empty : ontology.base = ""
  · have fragment : ontology.uri id = "#" ++ id := by simp [Ontology.uri, empty]
    rw [resolve_eq_iff]
    exact .only (by rw [fragment]; exact .fragment unmarked) found
  · exact (Resolves.declared empty unmarked member rfl declares).eq

theorem resolve_of_resolve (resolved : ontologies.resolve term = .ok uri) :
    ontologies.resolve uri = .ok uri := by
  have resolves := resolve_eq_iff.mp resolved
  generalize whole : (Except.ok uri : Except ResolveError String) = result at resolves
  cases resolves with
  | declared =>
      cases whole
      exact resolved
  | only spells found =>
      cases whole
      exact resolve_uri_of_declaring spells.unmarked found
  | undeclared | none | several => contradiction

/-- Terms resolve as the rules say and in no other way; so an identifier resolves alike with a
hash in front and without, and what a term resolves to resolves to itself. -/
theorem resolve_canonical (ontologies : Ontologies) (term : String) :
    (∀ result, ontologies.resolve term = result ↔ ontologies.Resolves term result) ∧
      (∀ id : String, '#' ∉ id.toList →
        ontologies.resolve ("#" ++ id) =
          (ontologies.resolve id).mapError (·.about ("#" ++ id))) ∧
      ∀ uri, ontologies.resolve term = .ok uri → ontologies.resolve uri = .ok uri := by
  refine ⟨?_, ?_, ?_⟩
  · intro result
    exact resolve_eq_iff
  · intro id unmarked
    exact resolve_fragment unmarked
  · intro uri resolved
    exact resolve_of_resolve resolved

/-- Two ontologies with one base, in which there is a hash, and one without a base. -/
def sample : Ontologies :=
  [.withClass (.withClass (.ofBase "urn:x#y") "World" none) "Asia" (some "World"),
    .withClass (.ofBase "") "China" none,
    .withClass (.withClass (.ofBase "urn:x#y") "Asia" none) "Japan" (some "Asia")]

/-- `#China` resolves as `China` does, to a URI with an empty base, which resolves to itself.
`Asia` alone is ambiguous, but not its URI. -/
theorem resolve_canonical_of_sample :
    sample.resolve "#China" = (sample.resolve "China").mapError (·.about "#China") ∧
      sample.resolve "China" = .ok "#China" ∧ sample.resolve "#China" = .ok "#China" ∧
      sample.resolve "Asia" = .error (.ambiguous "Asia" ["urn:x#y#Asia", "urn:x#y#Asia"]) ∧
      sample.Resolves "urn:x#y#Asia" (.ok "urn:x#y#Asia") := by
  have china : sample.resolve "China" = .ok "#China" := by rfl
  have several : sample.resolve "Asia" =
      .error (.ambiguous "Asia" ["urn:x#y#Asia", "urn:x#y#Asia"]) := by rfl
  have asia : sample.resolve "urn:x#y#Asia" = .ok "urn:x#y#Asia" := by rfl
  obtain ⟨-, alike, fixed⟩ := sample.resolve_canonical "China"
  exact ⟨alike "China" (by decide), china, fixed _ china, several,
    ((sample.resolve_canonical _).1 _).mp asia⟩

end Ontologies

end Sramp
