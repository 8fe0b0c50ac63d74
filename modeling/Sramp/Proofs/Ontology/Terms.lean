import Sramp.Ontology

/-!
# Terms resolved one by one

Where terms are resolved one after the other, the result is the set of the URIs that they resolve
to, and a set has one form: no order of the terms, no repetition and no spelling of a term can be
told from it.  The first term that does not resolve decides how resolution fails.
-/

namespace Sramp

namespace UriSet

variable {resolve : String → Except ResolveError String} {terms : List String}
variable {cause : ResolveError}

/-- The error of the first term that does not resolve. -/
def firstUnresolved (resolve : String → Except ResolveError String) (terms : List String) :
    Option ResolveError :=
  terms.findSome? fun term =>
    match resolve term with
    | .ok _ => none
    | .error cause => some cause

theorem firstUnresolved_cons (term : String) (terms : List String) :
    firstUnresolved resolve (term :: terms) =
      match resolve term with
      | .ok _ => firstUnresolved resolve terms
      | .error cause => some cause := by
  rw [firstUnresolved, List.findSome?_cons]
  cases resolve term <;> rfl

theorem firstUnresolved_append (terms others : List String) :
    firstUnresolved resolve (terms ++ others) =
      (firstUnresolved resolve terms).or (firstUnresolved resolve others) :=
  List.findSome?_append

theorem firstUnresolved_eq_none_iff :
    firstUnresolved resolve terms = none ↔ ∀ term ∈ terms, ∃ uri, resolve term = .ok uri := by
  rw [firstUnresolved, List.findSome?_eq_none_iff]
  apply forall₂_congr
  intro term _
  cases resolve term <;> simp

/-- All terms before the first one that does not resolve do. -/
theorem firstUnresolved_eq_some_iff :
    firstUnresolved resolve terms = some cause ↔ ∃ before term after,
      terms = before ++ term :: after ∧ (∀ earlier ∈ before, ∃ uri, resolve earlier = .ok uri) ∧
        resolve term = .error cause := by
  constructor
  · intro first
    obtain ⟨before, term, after, divided, fails, earlier⟩ := List.findSome?_eq_some_iff.mp first
    refine ⟨before, term, after, divided, firstUnresolved_eq_none_iff.mp ?_, ?_⟩
    · exact List.findSome?_eq_none_iff.mpr earlier
    · cases found : resolve term <;> simp_all
  · rintro ⟨before, term, after, rfl, earlier, unresolved⟩
    rw [firstUnresolved_append, firstUnresolved_eq_none_iff.mpr earlier, firstUnresolved_cons,
      unresolved]
    rfl

/-- Terms that resolve have URIs unless there are none. -/
theorem ne_nil_iff_exists_uri (resolved : ∀ term ∈ terms, ∃ uri, resolve term = .ok uri) :
    terms ≠ [] ↔ ∃ uri, ∃ term ∈ terms, resolve term = .ok uri := by
  constructor
  · intro given
    obtain ⟨term, member⟩ := List.exists_mem_of_ne_nil terms given
    obtain ⟨uri, found⟩ := resolved term member
    exact ⟨uri, term, member, found⟩
  · rintro ⟨uri, term, member, -⟩
    exact List.ne_nil_of_mem member

theorem mapM_of_resolved (resolved : ∀ term ∈ terms, ∃ uri, resolve term = .ok uri) :
    ∃ uris, terms.mapM resolve = .ok uris ∧
      ∀ uri, uri ∈ uris ↔ ∃ term ∈ terms, resolve term = .ok uri := by
  induction terms with
  | nil => exact ⟨[], rfl, by simp⟩
  | cons term rest ih =>
      obtain ⟨⟨first, found⟩, others⟩ := List.forall_mem_cons.mp resolved
      obtain ⟨uris, done, members⟩ := ih others
      refine ⟨first :: uris, ?_, ?_⟩
      · rw [List.mapM_cons, found, done]
        rfl
      · intro uri
        simp [members, found, eq_comm]

theorem mapM_of_unresolved (first : firstUnresolved resolve terms = some cause) :
    terms.mapM resolve = .error cause := by
  induction terms with
  | nil => cases first
  | cons term rest ih =>
      rw [firstUnresolved_cons] at first
      rw [List.mapM_cons]
      cases found : resolve term with
      | error fault =>
          rw [found] at first
          cases first
          rfl
      | ok uri =>
          rw [found] at first
          rw [ih first]
          rfl

/-- Terms that all resolve have the set of the URIs that they resolve to. -/
theorem resolveEach_of_resolved (resolved : ∀ term ∈ terms, ∃ uri, resolve term = .ok uri) :
    ∃ uris, resolveEach resolve terms = .ok uris ∧
      ∀ uri, uri ∈ uris ↔ ∃ term ∈ terms, resolve term = .ok uri := by
  obtain ⟨uris, done, members⟩ := mapM_of_resolved resolved
  refine ⟨ofList uris, ?_, ?_⟩
  · rw [resolveEach, done]
    rfl
  · intro uri
    rw [mem_ofList, members]

theorem resolveEach_of_unresolved (first : firstUnresolved resolve terms = some cause) :
    resolveEach resolve terms = .error cause := by
  rw [resolveEach, mapM_of_unresolved first]
  rfl

/-- Terms with the same URIs have the same set of URIs. -/
theorem resolveEach_congr {others : List String}
    (resolved : ∀ term ∈ terms ++ others, ∃ uri, resolve term = .ok uri)
    (same : ∀ uri, (∃ term ∈ terms, resolve term = .ok uri) ↔
      ∃ term ∈ others, resolve term = .ok uri) :
    resolveEach resolve terms = resolveEach resolve others := by
  obtain ⟨first, second⟩ := List.forall_mem_append.mp resolved
  obtain ⟨uris, done, members⟩ := resolveEach_of_resolved first
  obtain ⟨found, answered, mentions⟩ := resolveEach_of_resolved second
  have equal : uris = found := by
    apply eq_of_forall_mem_iff
    intro uri
    rw [members, mentions, same]
  rw [done, answered, equal]

end UriSet

end Sramp
