/-!
# Sets of URIs

Finite sets of strings, kept as strictly increasing lists, so that a set has one
form however its members were added.
-/

namespace Sramp

/-- A finite set of URIs in increasing order. -/
structure UriSet where
  toList : List String
  increasing : toList.Pairwise (· < ·)
  deriving DecidableEq

namespace UriSet

/-- Adds a string to an increasing list, unless it is there. -/
def insertInto (uri : String) : List String → List String
  | [] => [uri]
  | first :: rest =>
      if uri < first then uri :: first :: rest
      else if uri = first then first :: rest
      else first :: insertInto uri rest

@[simp] theorem mem_insertInto {uri other : String} {uris : List String} :
    other ∈ insertInto uri uris ↔ other = uri ∨ other ∈ uris := by
  induction uris with
  | nil => simp [insertInto]
  | cons first rest ih =>
      simp only [insertInto]
      split
      · simp
      · split
        case isTrue equal => subst equal; simp
        case isFalse => simp only [List.mem_cons, ih, or_left_comm]

theorem increasing_insertInto {uri : String} {uris : List String}
    (increasing : uris.Pairwise (· < ·)) : (insertInto uri uris).Pairwise (· < ·) := by
  induction uris with
  | nil => simp [insertInto]
  | cons first rest ih =>
      obtain ⟨below, tail⟩ := List.pairwise_cons.mp increasing
      simp only [insertInto]
      split
      case isTrue less =>
        refine List.pairwise_cons.mpr ⟨fun other member => ?_, increasing⟩
        rcases List.mem_cons.mp member with rfl | member
        · exact less
        · exact String.lt_trans less (below other member)
      case isFalse notLess =>
        split
        · exact increasing
        · next different =>
          refine List.pairwise_cons.mpr ⟨fun other member => ?_, ih tail⟩
          rcases mem_insertInto.mp member with rfl | member
          · exact Decidable.byContradiction fun notAbove =>
              different (String.le_antisymm (String.not_lt.mp notAbove)
                (String.not_lt.mp notLess))
          · exact below other member

/-- The set without members. -/
def empty : UriSet :=
  ⟨[], .nil⟩

/-- A set with one more member. -/
def insert (uri : String) (uris : UriSet) : UriSet :=
  ⟨insertInto uri uris.toList, increasing_insertInto uris.increasing⟩

/-- The set of the members of a list. -/
def ofList (uris : List String) : UriSet :=
  uris.foldr insert empty

instance : Membership String UriSet :=
  ⟨fun uris uri => uri ∈ uris.toList⟩

@[simp] theorem mem_toList {uri : String} {uris : UriSet} : uri ∈ uris.toList ↔ uri ∈ uris :=
  Iff.rfl

@[simp] theorem not_mem_empty (uri : String) : uri ∉ empty :=
  List.not_mem_nil

@[simp] theorem mem_insert {uri other : String} {uris : UriSet} :
    other ∈ uris.insert uri ↔ other = uri ∨ other ∈ uris :=
  mem_insertInto

@[simp] theorem mem_ofList {uri : String} {uris : List String} :
    uri ∈ ofList uris ↔ uri ∈ uris := by
  induction uris with
  | nil => simp [ofList]
  | cons first rest ih => simpa [ofList] using or_congr_right ih

theorem nodup_toList (uris : UriSet) : uris.toList.Nodup := by
  apply uris.increasing.imp
  rintro one other less rfl
  exact String.lt_irrefl one less

/-- A set is its members. -/
theorem eq_of_forall_mem_iff {uris others : UriSet}
    (same : ∀ uri, uri ∈ uris ↔ uri ∈ others) : uris = others := by
  have members : uris.toList.Perm others.toList :=
    (List.perm_ext_iff_of_nodup uris.nodup_toList others.nodup_toList).mpr same
  have asymmetric (one two : String) (_ : one ∈ uris.toList) (_ : two ∈ others.toList)
      (less : one < two) (more : two < one) : one = two :=
    absurd (String.lt_trans less more) (String.lt_irrefl one)
  have lists : uris.toList = others.toList :=
    members.eq_of_pairwise asymmetric uris.increasing others.increasing
  cases uris
  cases others
  cases lists
  rfl

end UriSet

end Sramp
