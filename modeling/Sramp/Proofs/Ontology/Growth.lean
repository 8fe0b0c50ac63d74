import Sramp.Proofs.Ontology.Resolution

/-!
# Adding ontologies

What becomes of terms when ontologies are added.  A URI names the first class declared under it,
and so keeps the class it has, with all its ancestors.  An identifier must not be declared twice:
it keeps its class as long as no added ontology declares it, and is ambiguous from then on, with
the old candidates in front.  In no case does a term come to name another class.
-/

namespace Sramp.Ontologies

variable {ontologies : Ontologies} {added : List Ontology} {ontology : Ontology}
variable {term base id uri : String}

/-- Adds ontologies one after the other. -/
def addAll (ontologies : Ontologies) (added : List Ontology) : Ontologies :=
  added.foldl add ontologies

/-- One more ontology is one more candidate, if it declares the class. -/
theorem declaring_add (ontologies : Ontologies) (ontology : Ontology) (id : String) :
    (ontologies.add ontology).declaring id =
      ontologies.declaring id ++ if ontology.declares id then [ontology] else [] := by
  rw [add, declaring_append]
  cases declares : ontology.declares id <;> simp [declaring, declares]

theorem firstDeclaring_add (found : ontologies.firstDeclaring base id = some ontology)
    (other : Ontology) : (ontologies.add other).firstDeclaring base id = some ontology := by
  rw [firstDeclaring] at found
  rw [firstDeclaring, add, List.find?_append, found, Option.some_or]

/-- All candidates stay, in their order, and those among the added ontologies follow. -/
theorem declaring_addAll (ontologies : Ontologies) (added : List Ontology) (id : String) :
    (ontologies.addAll added).declaring id = ontologies.declaring id ++ declaring added id := by
  induction added generalizing ontologies with
  | nil => exact (List.append_nil _).symm
  | cons ontology added ih =>
      rw [addAll, List.foldl_cons, ← addAll, ih, declaring_add, List.append_assoc]
      cases declares : ontology.declares id <;> simp [declaring, declares]

/-- What was found first is found first ever after. -/
theorem firstDeclaring_addAll (found : ontologies.firstDeclaring base id = some ontology)
    (added : List Ontology) :
    (ontologies.addAll added).firstDeclaring base id = some ontology := by
  induction added generalizing ontologies with
  | nil => exact found
  | cons other added ih => exact ih (firstDeclaring_add found other)

/-- A term is an identifier that one of some ontologies declares. -/
def Contests (added : List Ontology) (term : String) : Prop :=
  ∃ id, (Term.bare id).Spells term ∧ ∃ ontology ∈ added, ontology.declares id = true

theorem contests_iff (spells : (Term.bare id).Spells term) :
    Contests added term ↔ declaring added id ≠ [] := by
  rw [Ne, declaring_eq_nil_iff]
  constructor
  · rintro ⟨other, spelled, ontology, member, declares⟩ none
    cases spelled.unique spells
    rw [none ontology member] at declares
    contradiction
  · intro some
    simp only [not_forall, Bool.not_eq_false] at some
    obtain ⟨ontology, member, declares⟩ := some
    exact ⟨id, spells, ontology, member, declares⟩

/-- No URI is contested. -/
theorem not_contests_of_qualified (spells : (Term.qualified base id).Spells term) :
    ¬Contests added term := by
  rintro ⟨other, spelled, -⟩
  cases spelled.unique spells

/-- The class of a URI stays. -/
theorem locate_addAll_of_qualified (spells : (Term.qualified base id).Spells term)
    {found : Ontology × String} (located : ontologies.locate term = .ok found)
    (added : List Ontology) : (ontologies.addAll added).locate term = .ok found := by
  rw [locate_of_qualified spells] at located ⊢
  split at located
  next first =>
      rw [firstDeclaring_addAll first]
      exact located
  next => contradiction

/-- What resolves was located. -/
theorem exists_locate_of_resolve (resolved : ontologies.resolve term = .ok uri) :
    ∃ ontology id, ontologies.locate term = .ok (ontology, id) ∧ ontology.uri id = uri := by
  cases located : ontologies.locate term with
  | error cause =>
      rw [resolve_of_locate_error located] at resolved
      contradiction
  | ok found =>
      obtain ⟨ontology, id⟩ := found
      rw [resolve_of_locate located, Except.ok.injEq] at resolved
      exact ⟨ontology, id, rfl, resolved⟩

theorem normalize_of_locate (located : ontologies.locate term = .ok (ontology, id)) :
    ontologies.normalize term = .ok (ontology.ancestors id) := by
  rw [normalize, located]
  rfl

/-- A URI that resolves keeps its class and all its ancestors. -/
theorem keeps_qualified (spells : (Term.qualified base id).Spells term)
    (resolved : ontologies.resolve term = .ok uri) (added : List Ontology) :
    (ontologies.addAll added).resolve term = .ok uri ∧
      ∃ ancestors, ontologies.normalize term = .ok ancestors ∧
        (ontologies.addAll added).normalize term = .ok ancestors := by
  obtain ⟨ontology, found, located, rfl⟩ := exists_locate_of_resolve resolved
  have later := locate_addAll_of_qualified spells located added
  exact ⟨resolve_of_locate later, _, normalize_of_locate located, normalize_of_locate later⟩

/-- An identifier that resolves has one candidate. -/
theorem declaring_of_resolve_ok (spells : (Term.bare id).Spells term)
    (resolved : ontologies.resolve term = .ok uri) :
    ∃ ontology, ontologies.declaring id = [ontology] ∧ ontology.uri id = uri := by
  match found : ontologies.declaring id with
  | [] =>
      rw [(Resolves.none spells found).eq] at resolved
      contradiction
  | [ontology] =>
      rw [(Resolves.only spells found).eq, Except.ok.injEq] at resolved
      exact ⟨ontology, rfl, resolved⟩
  | _ :: _ :: _ =>
      rw [(Resolves.several spells (by simp [found])).eq] at resolved
      contradiction

/-- A term that is ambiguous is an identifier with several candidates. -/
theorem declaring_of_resolve_ambiguous {named : String} {candidates : List String}
    (resolved : ontologies.resolve term = .error (.ambiguous named candidates)) :
    named = term ∧ ∃ id, (Term.bare id).Spells term ∧ 2 ≤ (ontologies.declaring id).length ∧
      candidates = (ontologies.declaring id).map (·.uri id) := by
  have resolves := resolve_eq_iff.mp resolved
  generalize whole : (Except.error (.ambiguous named candidates) : Except ResolveError String) =
    result at resolves
  cases resolves with
  | several spells more =>
      cases whole
      exact ⟨rfl, _, spells, more, rfl⟩
  | declared | undeclared | only | none => cases whole

/-- A term that resolves keeps its URI until it is contested. -/
theorem resolve_addAll_of_ok (resolved : ontologies.resolve term = .ok uri)
    (added : List Ontology) :
    ((ontologies.addAll added).resolve term = .ok uri ∧ ¬Contests added term) ∨
      ∃ candidates, (ontologies.addAll added).resolve term = .error (.ambiguous term candidates) ∧
        uri ∈ candidates ∧ Contests added term := by
  obtain ⟨form, spells⟩ := Term.exists_spells term
  cases form with
  | qualified base id =>
      exact .inl ⟨(keeps_qualified spells resolved added).1, not_contests_of_qualified spells⟩
  | bare id =>
      obtain ⟨ontology, only, rfl⟩ := declaring_of_resolve_ok spells resolved
      have later := declaring_addAll ontologies added id
      rw [only] at later
      by_cases contested : declaring added id = []
      · rw [contested, List.append_nil] at later
        refine .inl ⟨(Resolves.only spells later).eq, ?_⟩
        rw [contests_iff spells]
        exact not_not_intro contested
      · have more : 2 ≤ ((ontologies.addAll added).declaring id).length := by
          have := List.length_pos_iff.mpr contested
          rw [later, List.length_append, List.length_singleton]
          omega
        refine .inr ⟨_, (Resolves.several spells more).eq, ?_, (contests_iff spells).mpr contested⟩
        rw [later]
        exact List.mem_cons_self

/-- A term that is ambiguous stays so, and keeps its candidates in front. -/
theorem resolve_addAll_of_ambiguous {named : String} {candidates : List String}
    (resolved : ontologies.resolve term = .error (.ambiguous named candidates))
    (added : List Ontology) :
    ∃ more, (ontologies.addAll added).resolve term =
      .error (.ambiguous named (candidates ++ more)) := by
  obtain ⟨rfl, id, spells, several, rfl⟩ := declaring_of_resolve_ambiguous resolved
  have later := declaring_addAll ontologies added id
  have stays : 2 ≤ ((ontologies.addAll added).declaring id).length := by
    rw [later, List.length_append]
    omega
  refine ⟨(declaring added id).map (·.uri id), ?_⟩
  rw [(Resolves.several spells stays).eq, later, List.map_append]

/-- However many ontologies are added, no term comes to name another class.  One that resolves
keeps its URI, until it is an identifier that an added ontology declares: it is ambiguous from
then on, with its URI among the candidates.  One that is ambiguous keeps its candidates in front,
and a URI keeps all ancestors of its class. -/
theorem resolve_addAll (ontologies : Ontologies) (added : List Ontology) (term : String) :
    (∀ uri, ontologies.resolve term = .ok uri →
      ((ontologies.addAll added).resolve term = .ok uri ∧ ¬Contests added term) ∨
        ∃ candidates,
          (ontologies.addAll added).resolve term = .error (.ambiguous term candidates) ∧
          uri ∈ candidates ∧ Contests added term) ∧
      (∀ named candidates, ontologies.resolve term = .error (.ambiguous named candidates) →
        ∃ more, (ontologies.addAll added).resolve term =
          .error (.ambiguous named (candidates ++ more))) ∧
      ∀ base id uri, (Term.qualified base id).Spells term → ontologies.resolve term = .ok uri →
        (ontologies.addAll added).resolve term = .ok uri ∧
          ∃ ancestors, ontologies.normalize term = .ok ancestors ∧
            (ontologies.addAll added).normalize term = .ok ancestors := by
  refine ⟨?_, ?_, ?_⟩
  · intro uri resolved
    exact resolve_addAll_of_ok resolved added
  · intro named candidates resolved
    exact resolve_addAll_of_ambiguous resolved added
  · intro base id uri spells resolved
    exact keeps_qualified spells resolved added

/-- An ontology with a base that is in use, which moves `Asia` below another class, and one that
declares `China` again. -/
def addedSample : List Ontology :=
  [.withClass (.ofBase "urn:x#y") "Asia" (some "Earth"), .withClass (.ofBase "urn:z") "China" none]

/-- `China` becomes ambiguous with its URI in front.  `Asia` stays ambiguous, and its URI keeps
`World` as the parent of the class. -/
theorem resolve_addAll_of_sample :
    (sample.resolve "China" = .ok "#China" ∧
      ∃ candidates, (sample.addAll addedSample).resolve "China" =
        .error (.ambiguous "China" candidates) ∧ "#China" ∈ candidates ∧
          Contests addedSample "China") ∧
      (sample.resolve "Asia" = .error (.ambiguous "Asia" ["urn:x#y#Asia", "urn:x#y#Asia"]) ∧
        ∃ more, (sample.addAll addedSample).resolve "Asia" =
          .error (.ambiguous "Asia" (["urn:x#y#Asia", "urn:x#y#Asia"] ++ more))) ∧
      (Term.qualified "urn:x#y" "Asia").Spells "urn:x#y#Asia" ∧
      sample.resolve "urn:x#y#Asia" = .ok "urn:x#y#Asia" ∧
      (sample.addAll addedSample).resolve "urn:x#y#Asia" = .ok "urn:x#y#Asia" ∧
      ∃ ancestors, (sample.addAll addedSample).normalize "urn:x#y#Asia" = .ok ancestors ∧
        ancestors.toList = ["urn:x#y#Asia", "urn:x#y#World"] := by
  have china : sample.resolve "China" = .ok "#China" := by rfl
  have asia : sample.resolve "Asia" =
      .error (.ambiguous "Asia" ["urn:x#y#Asia", "urn:x#y#Asia"]) := by rfl
  have spells : (Term.qualified "urn:x#y" "Asia").Spells "urn:x#y#Asia" :=
    .uri (by decide) (by decide)
  have named : sample.resolve "urn:x#y#Asia" = .ok "urn:x#y#Asia" := by rfl
  have ancestry : sample.normalize "urn:x#y#Asia" =
      .ok (.ofList ["urn:x#y#Asia", "urn:x#y#World"]) := by decide +kernel
  have contested : Contests addedSample "China" :=
    ⟨"China", .name (by decide), _, List.mem_cons_of_mem _ List.mem_cons_self, rfl⟩
  obtain ⟨kept, ancestors, normalized, later⟩ :=
    (sample.resolve_addAll addedSample _).2.2 _ _ _ spells named
  refine ⟨⟨china, ?_⟩, ⟨asia, (sample.resolve_addAll addedSample _).2.1 _ _ asia⟩, spells, named,
    kept, ancestors, later, ?_⟩
  · obtain ⟨-, spared⟩ | ambiguous := (sample.resolve_addAll addedSample _).1 _ china
    · exact absurd contested spared
    · exact ambiguous
  · cases ancestry.symm.trans normalized
    decide +kernel

end Sramp.Ontologies
