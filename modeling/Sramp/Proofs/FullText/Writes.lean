import Mathlib.Data.List.Induction
import Mathlib.Data.List.Nodup
import Sramp.Engine

/-!
# Histories of a full-text index

What an index finds after texts were written to it in any order.  Of the texts written to a field
of an artifact only the last one counts, and an artifact keeps the place that its first text gave
it.  So a search reads off the history which texts are current, and lists the artifacts by their
first texts, however the texts of different artifacts and fields followed each other.
-/

namespace Sramp.FullText

section Put

variable {α : Type} {key other : String} {change : Option α → α} {entries : List (String × α)}

/-- The value of one key changes, and no other one. -/
theorem lookup_put : (put key change entries).lookup other =
    if other = key then some (change (entries.lookup key)) else entries.lookup other := by
  induction entries with
  | nil => by_cases same : other = key <;> simp [put, List.lookup_cons, same, beq_false_of_ne]
  | cons entry rest ih =>
      obtain ⟨name, value⟩ := entry
      by_cases found : name = key
      · subst found
        by_cases same : other = name
        · simp [put, same]
        · simp [put, List.lookup_cons, same, beq_false_of_ne]
      · by_cases same : other = name
        · subst same
          simp [put, found]
        · simp [put, List.lookup_cons, found, Ne.symm found, same, beq_false_of_ne, ih]

/-- A key keeps its place, and a new one comes last. -/
theorem keys_put : (put key change entries).map (·.1) =
    if key ∈ entries.map (·.1) then entries.map (·.1) else entries.map (·.1) ++ [key] := by
  induction entries with
  | nil => simp [put]
  | cons entry rest ih =>
      obtain ⟨name, value⟩ := entry
      by_cases found : name = key
      · simp [put, found]
      · simp only [put, if_neg found, List.map_cons, ih, List.mem_cons, Ne.symm found, false_or]
        split <;> rfl

theorem nodup_keys_put (nodup : (entries.map (·.1)).Nodup) :
    ((put key change entries).map (·.1)).Nodup := by
  rw [keys_put]
  split
  next => exact nodup
  next absent =>
      rw [← List.concat_eq_append]
      exact List.Nodup.concat absent nodup

/-- Where no key is repeated, every entry is found. -/
theorem mem_iff_lookup {value : α} (nodup : (entries.map (·.1)).Nodup) :
    (key, value) ∈ entries ↔ entries.lookup key = some value := by
  induction entries with
  | nil => simp
  | cons entry rest ih =>
      obtain ⟨name, first⟩ := entry
      rw [List.map_cons, List.nodup_cons] at nodup
      by_cases same : key = name
      · subst same
        have absent : (key, value) ∉ rest := by
          intro member
          exact nodup.1 (List.mem_map.mpr ⟨_, member, rfl⟩)
        simp [absent, eq_comm]
      · simp [List.lookup_cons, same, beq_false_of_ne, ih nodup.2]

end Put

namespace Index

variable {variants : CaseVariants} {index : Index} {id field text other name : String}

/-- The artifacts of an index in their order. -/
def ids (index : Index) : List String :=
  index.documents.map (·.1)

/-- The text of a field of an artifact. -/
def text? (index : Index) (id field : String) : Option String :=
  (index.documents.lookup id).bind (·.lookup field)

/-- One text is given, and all others stay. -/
theorem text?_add : (index.add id field text).text? other name =
    if other = id ∧ name = field then some text else index.text? other name := by
  simp only [text?, add, lookup_put]
  by_cases same : other = id
  · subst same
    cases found : index.documents.lookup other with
    | none => by_cases named : name = field <;> simp [lookup_put, named]
    | some texts => by_cases named : name = field <;> simp [lookup_put, named]
  · simp [same]

/-- An artifact keeps its place, and a new one comes last. -/
theorem ids_add : (index.add id field text).ids =
    if id ∈ index.ids then index.ids else index.ids ++ [id] :=
  keys_put

/-- Every artifact is listed once, and so is every field of it. -/
structure Distinct (index : Index) : Prop where
  ids : index.ids.Nodup
  fields : ∀ id texts, index.documents.lookup id = some texts → (texts.map (·.1)).Nodup

theorem Distinct.empty : Distinct .empty where
  ids := List.nodup_nil
  fields := nofun

theorem Distinct.add (distinct : index.Distinct) (id field text : String) :
    (index.add id field text).Distinct where
  ids := nodup_keys_put distinct.ids
  fields other texts found := by
    rw [Index.add, lookup_put] at found
    split at found
    next same =>
        cases found
        apply nodup_keys_put
        cases known : index.documents.lookup id with
        | none => exact List.nodup_nil
        | some others => exact distinct.fields id others known
    next => exact distinct.fields other texts found

theorem isHit_iff {pattern : Text.Wildcard} {fields : List String}
    {texts : List (String × String)} :
    isHit variants pattern fields texts = true ↔ ∃ field text, (field, text) ∈ texts ∧
      (fields = [] ∨ field ∈ fields) ∧ matches? variants pattern text.toList = true := by
  simp [isHit]

/-- Neither the order of the fields nor a repetition makes a difference. -/
theorem isHit_congr {fields others : List String}
    (same : ∀ field, field ∈ others ↔ field ∈ fields) (pattern : Text.Wildcard)
    (texts : List (String × String)) :
    isHit variants pattern others texts = isHit variants pattern fields texts := by
  have empty : others = [] ↔ fields = [] := by
    simp only [List.eq_nil_iff_forall_not_mem, same]
  rw [Bool.eq_iff_iff, isHit_iff, isHit_iff]
  simp only [same, empty]

/-- The artifacts found are those with a text that matches, in the order of the index. -/
theorem Distinct.searchUpTo_eq (distinct : index.Distinct) {pattern : String}
    (given : Text.isBlankText pattern = false) (fields : List String) :
    ∃ hits, index.searchUpTo variants pattern fields = .ok hits ∧ hits.Sublist index.ids ∧
      ∀ id, id ∈ hits ↔ ∃ field text, index.text? id field = some text ∧
        (fields = [] ∨ field ∈ fields) ∧
        matches? variants (.ofString pattern) text.toList = true := by
  refine ⟨_, by rw [searchUpTo, given]; rfl, List.filter_sublist.map _, ?_⟩
  intro id
  simp only [List.mem_map, List.mem_filter, isHit_iff, text?, Option.bind_eq_some_iff]
  constructor
  · rintro ⟨⟨_, texts⟩, ⟨member, field, text, listed, named, matched⟩, rfl⟩
    have found := (mem_iff_lookup distinct.ids).mp member
    have known := (mem_iff_lookup (distinct.fields _ _ found)).mp listed
    exact ⟨field, text, ⟨texts, found, known⟩, named, matched⟩
  · rintro ⟨field, text, ⟨texts, found, known⟩, named, matched⟩
    have member := (mem_iff_lookup distinct.ids).mpr found
    have listed := (mem_iff_lookup (distinct.fields _ _ found)).mpr known
    exact ⟨(id, texts), ⟨member, field, text, listed, named, matched⟩, rfl⟩

end Index

/-! ## Histories -/

/-- A text that is written to a field of an artifact. -/
structure Write where
  id : String
  field : String
  text : String
  deriving DecidableEq, Repr

/-- Writes texts one after the other. -/
def Index.addAll (index : Index) (writes : List Write) : Index :=
  writes.foldl (fun index write => index.add write.id write.field write.text) index

theorem Index.addAll_concat (index : Index) (writes : List Write) (write : Write) :
    index.addAll (writes ++ [write]) =
      (index.addAll writes).add write.id write.field write.text := by
  simp [addAll]

/-- A text is the last one that was written to a field of an artifact. -/
def Current (writes : List Write) (id field text : String) : Prop :=
  ∃ before after, writes = before ++ ⟨id, field, text⟩ :: after ∧
    ∀ write ∈ after, ¬(write.id = id ∧ write.field = field)

/-- The first text of one artifact was written before that of another one. -/
def FirstBefore (writes : List Write) (one other : String) : Prop :=
  (writes.map (·.id)).idxOf one < (writes.map (·.id)).idxOf other

section Histories

variable {writes : List Write} {write : Write} {id field text : String}

/-- What is written last is current, and else what was before. -/
theorem current_concat_iff : Current (writes ++ [write]) id field text ↔
    if id = write.id ∧ field = write.field then write.text = text
    else Current writes id field text := by
  constructor
  · rintro ⟨before, after, divided, none⟩
    rcases List.eq_nil_or_concat' after with rfl | ⟨rest, last, rfl⟩
    · obtain ⟨-, same⟩ := List.append_inj' divided rfl
      cases same
      simp
    · rw [← List.cons_append, ← List.append_assoc] at divided
      obtain ⟨rfl, same⟩ := List.append_inj' divided rfl
      cases same
      obtain ⟨earlier, other⟩ := List.forall_mem_append.mp none
      have different : ¬(id = write.id ∧ field = write.field) := by
        rintro ⟨rfl, rfl⟩
        exact other write (List.mem_singleton_self write) ⟨rfl, rfl⟩
      rw [if_neg different]
      exact ⟨before, rest, rfl, earlier⟩
  · split
    next same =>
        obtain ⟨rfl, rfl⟩ := same
        rintro rfl
        exact ⟨writes, [], rfl, nofun⟩
    next different =>
        rintro ⟨before, after, rfl, none⟩
        refine ⟨before, after ++ [write], by simp, ?_⟩
        rw [List.forall_mem_append]
        refine ⟨none, ?_⟩
        rintro other member ⟨rfl, rfl⟩
        cases List.mem_singleton.mp member
        exact different ⟨rfl, rfl⟩

/-- The texts of an index are the current ones. -/
theorem text?_addAll (writes : List Write) (id field text : String) :
    (Index.empty.addAll writes).text? id field = some text ↔ Current writes id field text := by
  induction writes using List.reverseRecOn with
  | nil => simp [Index.addAll, Index.empty, Index.text?, Current]
  | append_singleton writes write ih =>
      rw [Index.addAll_concat, Index.text?_add, current_concat_iff]
      split
      next => exact Option.some_inj
      next => exact ih

theorem distinct_addAll (writes : List Write) : (Index.empty.addAll writes).Distinct := by
  induction writes using List.reverseRecOn with
  | nil => exact .empty
  | append_singleton writes write ih =>
      rw [Index.addAll_concat]
      exact ih.add write.id write.field write.text

theorem mem_ids_addAll (writes : List Write) (id : String) :
    id ∈ (Index.empty.addAll writes).ids ↔ id ∈ writes.map (·.id) := by
  induction writes using List.reverseRecOn with
  | nil => simp [Index.addAll, Index.empty, Index.ids]
  | append_singleton writes write ih =>
      rw [Index.addAll_concat, Index.ids_add, List.map_append, List.mem_append, ← ih]
      split
      next known =>
          simp only [List.map_cons, List.map_nil, List.mem_singleton]
          constructor
          · exact .inl
          · rintro (listed | rfl)
            · exact listed
            · exact known
      next => simp

/-- The artifacts of an index are listed by their first texts. -/
theorem firstBefore_addAll (writes : List Write) :
    (Index.empty.addAll writes).ids.Pairwise (FirstBefore writes) := by
  induction writes using List.reverseRecOn with
  | nil => exact .nil
  | append_singleton writes write ih =>
      have kept : (Index.empty.addAll writes).ids.Pairwise (FirstBefore (writes ++ [write])) := by
        apply ih.imp_of_mem
        intro one other oneListed otherListed before
        rw [mem_ids_addAll] at oneListed otherListed
        rw [FirstBefore, List.map_append, List.idxOf_append_of_mem oneListed,
          List.idxOf_append_of_mem otherListed]
        exact before
      rw [Index.addAll_concat, Index.ids_add]
      split
      next => exact kept
      next fresh =>
          refine List.pairwise_append.mpr ⟨kept, List.pairwise_singleton _ _, ?_⟩
          intro one oneListed other otherListed
          cases List.mem_singleton.mp otherListed
          rw [mem_ids_addAll] at oneListed fresh
          rw [FirstBefore, List.map_append, List.idxOf_append_of_mem oneListed,
            List.idxOf_append_of_notMem fresh]
          exact Nat.lt_add_right _ (List.idxOf_lt_length_iff.mpr oneListed)

/-- A field of an artifact has one current text. -/
theorem Current.unique {other : String} (current : Current writes id field text)
    (another : Current writes id field other) : text = other := by
  rw [← text?_addAll] at current another
  exact Option.some_inj.mp (current.symm.trans another)

/-- A search finds the artifacts with a current text, of which each field has one, that matches in
one of the fields if any are named.  Each of them is listed once, by the first texts; neither the
order of the fields nor a repetition makes a difference.  All this holds whichever characters are
variants of each other. -/
theorem search_addAll (variants : CaseVariants) (writes : List Write) {pattern : String}
    (given : Text.isBlankText pattern = false) (fields : List String) :
    ∃ hits, (Index.empty.addAll writes).searchUpTo variants pattern fields = .ok hits ∧
      (∀ id, id ∈ hits ↔ ∃ field text, Current writes id field text ∧
        (fields = [] ∨ field ∈ fields) ∧
        matches? variants (.ofString pattern) text.toList = true) ∧
      (∀ id field text other, Current writes id field text →
        Current writes id field other → text = other) ∧
      hits.Nodup ∧ hits.Pairwise (FirstBefore writes) ∧
      ∀ others, (∀ field, field ∈ others ↔ field ∈ fields) →
        (Index.empty.addAll writes).searchUpTo variants pattern others = .ok hits := by
  have distinct := distinct_addAll writes
  obtain ⟨hits, found, sublist, members⟩ := distinct.searchUpTo_eq given fields
  refine ⟨hits, found, ?_, ?_, ?_, ?_, ?_⟩
  · intro id
    simp only [members, text?_addAll]
  · intro id field text other current another
    exact current.unique another
  · exact distinct.ids.sublist sublist
  · exact (firstBefore_addAll writes).sublist sublist
  · intro others same
    simp only [Index.searchUpTo, Index.isHit_congr same] at found ⊢
    exact found

end Histories

/-- The texts of three artifacts, one of which is replaced after others were written. -/
def sampleWrites : List Write :=
  [⟨"u2", "name", "Accounting"⟩, ⟨"u1", "description", "handles accounts"⟩,
    ⟨"u2", "name", "Billing"⟩, ⟨"u3", "name", "My Account"⟩, ⟨"u2", "description", "account"⟩]

/-- `u2` is found by its description and stays in front, but it is not found by its name, which
was replaced. -/
theorem search_addAll_of_sample :
    Text.isBlankText ".*account.*" = false ∧
      (Index.empty.addAll sampleWrites).search ".*account.*" [] = .ok ["u2", "u1", "u3"] ∧
      (∃ field text, Current sampleWrites "u2" field text ∧
        matches? .folded (.ofString ".*account.*") text.toList = true) ∧
      (Index.empty.addAll sampleWrites).search ".*account.*" ["name"] = .ok ["u3"] ∧
      (Index.empty.addAll sampleWrites).search ".*account.*" ["name", "name"] = .ok ["u3"] := by
  have given : Text.isBlankText ".*account.*" = false := by decide +kernel
  have all : (Index.empty.addAll sampleWrites).search ".*account.*" [] =
      .ok ["u2", "u1", "u3"] := by decide +kernel
  have names : (Index.empty.addAll sampleWrites).search ".*account.*" ["name"] = .ok ["u3"] := by
    decide +kernel
  obtain ⟨hits, found, members, -⟩ := search_addAll .folded sampleWrites given []
  obtain ⟨others, named, -, -, -, -, same⟩ := search_addAll .folded sampleWrites given ["name"]
  cases all.symm.trans found
  cases names.symm.trans named
  obtain ⟨field, text, current, -, matched⟩ := (members "u2").mp (by simp)
  exact ⟨given, all, ⟨field, text, current, matched⟩, names,
    same ["name", "name"] (by simp)⟩

end Sramp.FullText
