import Sramp.Proofs.Hierarchical.Expressibility
import Sramp.Proofs.Meaning.Rows

/-!
# Entries as properties of nodes

The hierarchical store keeps no entries of their own: each is a property of the node that it
belongs to, and a subquery that looks for an entry is flattened to a test of that property.
The test is made of the node that the outer operand's selector stands for.  It means what the
subquery does only where that node must be the owner of the entry: the outer operand is the
identifier of a node of the owner's kind, and entries of the kind belong to such nodes.
Whether this is so is not looked at when a subquery is flattened.
-/

namespace Sramp

/-- A node has entries of one kind at most. -/
theorem NodeKind.EntryOf.unique {first second owner : NodeKind} (belongs : first.EntryOf owner)
    (other : second.EntryOf owner) : first = second := by
  cases belongs <;> cases other <;> rfl

/-- No entry belongs to an entry of its kind. -/
theorem NodeKind.EntryOf.ne {entry owner : NodeKind} (belongs : entry.EntryOf owner) :
    entry ≠ owner := by
  cases belongs <;> nofun

open Hierarchical

/-- How a store keeps its entries as properties of the nodes that they belong to.  The name of
such a property consists of the label of the kind and of the key, and no node has two
properties of one name. -/
structure Store.Entries (store : Store) where
  key : store.Node → String
  content : store.Node → Value
  property : store.Node → String → Option Value
  Relates : Value → Operator → Value → Prop
  compares_key {entry : store.Node} (isEntry : (store.kind entry).isEntry = true) (text : String) :
    store.Compares entry .entryKey .eq (.string text) ↔ key entry = text
  compares_value {entry : store.Node} (isEntry : (store.kind entry).isEntry = true)
    (operator : Operator) (value : Value) :
    store.Compares entry .entryValue operator value ↔ Relates (content entry) operator value
  belongs {entry node : store.Node} (isEntry : (store.kind entry).isEntry = true)
    (beneath : store.Beneath entry node) : (store.kind entry).EntryOf (store.kind node)
  property_iff {kind : NodeKind} {label : String} (labelled : entryLabel? kind = some label)
    (node : store.Node) (text : String) (value : Value) :
    property node (label ++ ":" ++ text) = some value ↔
      ∃ entry, store.Beneath entry node ∧ entryLabel? (store.kind entry) = some label ∧
        key entry = text ∧ content entry = value

theorem isEntry_of_entryLabel {kind : NodeKind} {label : String}
    (labelled : entryLabel? kind = some label) : kind.isEntry = true := by
  cases kind <;> simp [entryLabel?, NodeKind.isEntry] at labelled ⊢

namespace Store.Entries

variable {store : Store} {row : Row store}

/-- An entry passes a test. -/
def Meets (entries : store.Entries) (test : EntryTest) (entry : store.Node) : Prop :=
  entries.key entry = test.key ∧ ∀ operator value, test.comparison = some (operator, value) →
    entries.Relates (entries.content entry) operator value

/-- A row passes the test of a property of a node.  Without the property the test fails. -/
inductive Passes (entries : store.Entries) (row : Row store) : Condition → Prop where
  | present {tested : NodeProperty} {node : store.Node} {content : Value} :
      row tested.aliasName = some node → entries.property node tested.name = some content →
      Passes entries row (.present tested)
  | comparison {tested : NodeProperty} {node : store.Node} {content : Value}
      {operator : Operator} {value : Value} :
      row tested.aliasName = some node → entries.property node tested.name = some content →
      entries.Relates content operator value →
      Passes entries row (.comparison tested operator value)

/-- The test that an entry test is stated as is passed exactly if there is an entry of the
node with the label that meets it. -/
theorem passes_iff (entries : store.Entries) {test : EntryTest} {kind : NodeKind}
    (labelled : entryLabel? kind = some test.label) {selector : Selector} {node : store.Node}
    (stands : row.node selector = some node) {condition : Condition}
    (stated : test.state selector.aliasName = .ok condition) :
    entries.Passes row condition ↔
      ∃ entry, store.Beneath entry node ∧ entryLabel? (store.kind entry) = some test.label ∧
        entries.Meets test entry := by
  rcases test with ⟨label, key, comparison⟩
  obtain ⟨-, rfl⟩ := EntryTest.state_eq_ok.mp stated
  have named := entries.property_iff labelled node key
  cases comparison with
  | none =>
      constructor
      · intro passes
        cases passes with
        | present found has =>
            cases stands.symm.trans found
            obtain ⟨entry, beneath, same, keyed, -⟩ := (named _).mp has
            exact ⟨entry, beneath, same, keyed, by rintro _ _ ⟨⟩⟩
      · intro kept
        obtain ⟨entry, beneath, same, keyed, -⟩ := kept
        have has := (named (entries.content entry)).mpr ⟨entry, beneath, same, keyed, rfl⟩
        exact .present stands has
  | some asked =>
      rcases asked with ⟨operator, value⟩
      constructor
      · intro passes
        cases passes with
        | comparison found has relates =>
            cases stands.symm.trans found
            obtain ⟨entry, beneath, same, keyed, rfl⟩ := (named _).mp has
            refine ⟨entry, beneath, same, keyed, ?_⟩
            intro operator value asked
            cases asked
            exact relates
      · intro kept
        obtain ⟨entry, beneath, same, keyed, relates⟩ := kept
        have has := (named (entries.content entry)).mpr ⟨entry, beneath, same, keyed, rfl⟩
        exact .comparison stands has (relates _ _ rfl)

/-- What a test asks of an entry holds of the entries that meet it. -/
theorem holds_asks (entries : store.Entries) {test : EntryTest} {selector : Selector}
    {entry : store.Node} (stands : row.Stands selector entry)
    (isEntry : selector.kind.isEntry = true) :
    (test.asks selector).Holds row ↔ entries.Meets test entry := by
  have kind : (store.kind entry).isEntry = true := by
    rw [stands.kind_eq, isEntry]
  have keyed : (Constraint.comparison (selector.operand .entryKey) .eq (.string test.key)).Holds
      row ↔ entries.key entry = test.key :=
    (Constraint.holds_comparison stands.node_eq).trans (entries.compares_key kind _)
  rcases test with ⟨label, key, _ | ⟨operator, value⟩⟩
  · simpa [EntryTest.asks, Meets] using keyed
  · have compared : (Constraint.comparison (selector.operand .entryValue) operator value).Holds
        row ↔ entries.Relates (entries.content entry) operator value :=
      (Constraint.holds_comparison stands.node_eq).trans (entries.compares_value kind _ _)
    have both : (EntryTest.asks ⟨label, key, some (operator, value)⟩ selector).Holds row ↔
        entries.key entry = key ∧ entries.Relates (entries.content entry) operator value :=
      and_congr keyed compared
    simpa [Meets, and_comm, eq_comm] using both

/-- Where an entry is joined to its owner, the two have different names: no entry lies beneath
itself. -/
theorem binds_entry (entries : store.Entries) {owner entry : Selector}
    (isEntry : entry.kind.isEntry = true) :
    ((Source.single owner).joinChild entry owner).Binds row ↔
      owner.aliasName ≠ entry.aliasName ∧ ∃ own kept, store.kind own = owner.kind ∧
        store.kind kept = entry.kind ∧ store.Beneath kept own ∧
        row = (Row.empty.bind owner own).bind entry kept := by
  constructor
  · intro binds
    obtain ⟨_, ⟨own, ownKind, rfl⟩, kept, ⟨keptKind, below, above, lower, upper, beneath⟩, rfl⟩ :=
      binds
    cases (Row.node_bind_self _ _ _).symm.trans lower
    have different : owner.aliasName ≠ entry.aliasName := by
      intro same
      have itself : ((Row.empty.bind owner own).bind entry kept).node owner = some kept := by
        rw [Row.node, same]
        exact Row.node_bind_self _ _ _
      cases itself.symm.trans upper
      exact (entries.belongs (keptKind ▸ isEntry) beneath).ne rfl
    rw [Row.node_bind_of_ne different, Row.node_bind_self] at upper
    cases upper
    exact ⟨different, own, kept, ownKind, keptKind, beneath, rfl⟩
  · intro kept
    obtain ⟨different, own, kept, ownKind, keptKind, beneath, rfl⟩ := kept
    refine ⟨_, ⟨own, ownKind, rfl⟩, kept, ?_, rfl⟩
    exact (Source.partner_child_iff different).mpr
      ⟨keptKind, own, Row.node_bind_self _ _ _, beneath⟩

/-- A subquery that looks for an entry holds if some node of the owner's kind has one that
meets the test, and the outer operand is its identifier. -/
theorem holds_subquery (entries : store.Entries) {rows : Correlation} {test : EntryTest}
    {owner entry : Selector} (joined : rows.source = (Source.single owner).joinChild entry owner)
    (tied : rows.correlated = owner.operand .id) (isEntry : entry.kind.isEntry = true) :
    (Constraint.existsRowWith rows (test.asks entry)).Holds row ↔
      owner.aliasName ≠ entry.aliasName ∧ ∃ own kept, store.kind own = owner.kind ∧
        store.kind kept = entry.kind ∧ store.Beneath kept own ∧
        row.key rows.outer = some (store.id own) ∧ entries.Meets test kept := by
  have inside (own kept : store.Node) (different : owner.aliasName ≠ entry.aliasName) :
      ((Row.empty.bind owner own).bind entry kept).key (owner.operand .id) =
        some (store.id own) := by
    have found : ((Row.empty.bind owner own).bind entry kept).node owner = some own := by
      rw [Row.node_bind_of_ne different, Row.node_bind_self]
    simp only [Row.key, Selector.operand, found, Option.bind_some, store.field_id]
  simp only [Constraint.Holds, joined, tied, entries.binds_entry isEntry]
  constructor
  · intro holds
    obtain ⟨_, ⟨different, own, kept, ownKind, keptKind, beneath, rfl⟩, ⟨key, left, right⟩, asks⟩ :=
      holds
    rw [inside own kept different] at left
    cases left
    have meets := (entries.holds_asks (Row.stands_bind keptKind) isEntry).mp asks
    exact ⟨different, own, kept, ownKind, keptKind, beneath, right, meets⟩
  · intro found
    obtain ⟨different, own, kept, ownKind, keptKind, beneath, outer, meets⟩ := found
    refine ⟨_, ⟨different, own, kept, ownKind, keptKind, beneath, rfl⟩, ?_, ?_⟩
    · exact ⟨store.id own, inside own kept different, outer⟩
    · exact (entries.holds_asks (Row.stands_bind keptKind) isEntry).mpr meets

end Store.Entries

namespace Hierarchical

/-! ## Where flattening preserves the meaning -/

variable {store : Store} {row : Row store} {rows : Correlation} {test : EntryTest}
variable {owner entry : Selector} {condition : Condition}

/-- The node that the outer operand's selector stands for can only be the owner of the entry
that is looked for. -/
structure Absorbs (owner entry : Selector) (outer : Operand) : Prop where
  byId : outer.property = .id
  sameKind : owner.kind = outer.selector.kind
  belongs : entry.kind.EntryOf owner.kind
  different : owner.aliasName ≠ entry.aliasName

/-- No entry can be found, whether in the rows of the subquery or among the properties of the
outer node. -/
structure Idle (owner entry : Selector) (outer : Operand) : Prop where
  noRows : entry.kind.EntryOf owner.kind → owner.aliasName = entry.aliasName
  noProperty : ∀ {kind}, kind.EntryOf outer.selector.kind →
    entryLabel? kind ≠ entryLabel? entry.kind

/-- A test of the node for the outer operand holds exactly if the subquery does. -/
theorem passes_iff_of_absorbs (entries : store.Entries)
    (joined : rows.source = (Source.single owner).joinChild entry owner)
    (tied : rows.correlated = owner.operand .id)
    (labelled : entryLabel? entry.kind = some test.label)
    (absorbs : Absorbs owner entry rows.outer) {node : store.Node}
    (stands : row.Stands rows.outer.selector node)
    (stated : test.state rows.outer.selector.aliasName = .ok condition) :
    entries.Passes row condition ↔ (Constraint.existsRowWith rows (test.asks entry)).Holds row := by
  have isEntry := isEntry_of_entryLabel labelled
  have nodeKind : store.kind node = owner.kind := stands.kind_eq.trans absorbs.sameKind.symm
  have outerKey : row.key rows.outer = some (store.id node) := by
    rw [Row.key, stands.node_eq, absorbs.byId, Option.bind_some, store.field_id]
  rw [entries.passes_iff labelled stands.node_eq stated, entries.holds_subquery joined tied isEntry]
  constructor
  · intro found
    obtain ⟨kept, beneath, sameLabel, meets⟩ := found
    have belongs := entries.belongs (isEntry_of_entryLabel sameLabel) beneath
    rw [nodeKind] at belongs
    exact ⟨absorbs.different, node, kept, nodeKind, belongs.unique absorbs.belongs, beneath,
      outerKey, meets⟩
  · intro found
    obtain ⟨-, own, kept, ownKind, keptKind, beneath, ownKey, meets⟩ := found
    have same : own = node :=
      store.eq_of_id (ownKind.trans nodeKind.symm) (Option.some.inj (ownKey.symm.trans outerKey))
    subst same
    exact ⟨kept, beneath, by rw [keptKind, labelled], meets⟩

/-- Where no entry can be found, neither holds. -/
theorem passes_iff_of_idle (entries : store.Entries)
    (joined : rows.source = (Source.single owner).joinChild entry owner)
    (tied : rows.correlated = owner.operand .id)
    (labelled : entryLabel? entry.kind = some test.label)
    (idle : Idle owner entry rows.outer) {node : store.Node}
    (stands : row.Stands rows.outer.selector node)
    (stated : test.state rows.outer.selector.aliasName = .ok condition) :
    entries.Passes row condition ↔ (Constraint.existsRowWith rows (test.asks entry)).Holds row := by
  have isEntry := isEntry_of_entryLabel labelled
  rw [entries.passes_iff labelled stands.node_eq stated, entries.holds_subquery joined tied isEntry]
  constructor
  · intro found
    obtain ⟨kept, beneath, sameLabel, -⟩ := found
    have belongs := entries.belongs (isEntry_of_entryLabel sameLabel) beneath
    rw [stands.kind_eq] at belongs
    exact absurd (sameLabel.trans labelled.symm) (idle.noProperty belongs)
  · intro found
    obtain ⟨different, own, kept, ownKind, keptKind, beneath, -⟩ := found
    have belongs := entries.belongs (keptKind ▸ isEntry) beneath
    rw [ownKind, keptKind] at belongs
    exact absurd (idle.noRows belongs) different

/-- The labels of entries are not confused by the keys after them. -/
theorem entryName_inj {first second : NodeKind} {label other key text : String}
    (labelled : entryLabel? first = some label) (named : entryLabel? second = some other) :
    label ++ ":" ++ key = other ++ ":" ++ text ↔ label = other ∧ key = text := by
  have either {kind : NodeKind} {label : String} (labelled : entryLabel? kind = some label) :
      label = "sramp-properties" ∨ label = "sramp-otherAttributes" := by
    cases kind <;> cases labelled <;> simp
  rcases either labelled with rfl | rfl <;> rcases either named with rfl | rfl <;>
    simp [← String.toList_inj, String.toList_append]

/-- The nodes of a store with one entry: the entry, its owner and another node. -/
inductive EntryNode where
  | owner
  | entry
  | other
  deriving DecidableEq

/-- The store of one entry.  Every property of the other node leads to the owner. -/
def entryStore {ownerKind otherKind : NodeKind} (entryKind : NodeKind)
    (different : otherKind ≠ ownerKind) (key : String) : Store where
  Node := EntryNode
  Key := Bool
  kind
    | .owner => ownerKind
    | .entry => entryKind
    | .other => otherKind
  Beneath lower upper := lower = .entry ∧ upper = .owner
  id
    | .owner | .other => true
    | .entry => false
  field
    | .owner, property => if property = .id then some true else none
    | .entry, property => if property = .id then some false else none
    | .other, _ => some true
  field_id node := by cases node <;> rfl
  eq_of_id {first second} kind id := by
    revert kind id
    cases first <;> cases second <;> simp [different, different.symm]
  Compares _ property _ value := property = .entryKey → value = .string key
  Present _ _ := True
  OneOf _ _ _ := True
  Under _ _ := True

/-- The entry as a property of its owner. -/
def entryStoreEntries {ownerKind otherKind entryKind : NodeKind}
    (different : otherKind ≠ ownerKind) (belongs : entryKind.EntryOf ownerKind) {label : String}
    (labelled : entryLabel? entryKind = some label) (key : String) (content : Value) :
    (entryStore entryKind different key).Entries where
  key _ := key
  content _ := content
  property
    | .owner, name => if name = label ++ ":" ++ key then some content else none
    | .entry, _ | .other, _ => none
  Relates _ _ _ := True
  compares_key _ text := by simp [entryStore, eq_comm]
  compares_value _ operator value := by simp [entryStore]
  belongs := by
    rintro _ _ - ⟨rfl, rfl⟩
    exact belongs
  property_iff {kind given} named node text value := by
    have same : given ++ ":" ++ text = label ++ ":" ++ key ↔ label = given ∧ key = text := by
      rw [entryName_inj named labelled, eq_comm, @eq_comm _ text]
    cases node with
    | owner => simp [entryStore, same, labelled, and_assoc]
    | entry => simp [entryStore]
    | other => simp [entryStore]

section Stores

variable (joined : rows.source = (Source.single owner).joinChild entry owner)
variable (tied : rows.correlated = owner.operand .id)
variable (labelled : entryLabel? entry.kind = some test.label)
variable (stated : test.state rows.outer.selector.aliasName = .ok condition)

include joined tied labelled stated

/-- If the outer node may have entries with the label, then it passes the test in some store,
and there the subquery finds no entry but one of the outer node itself. -/
theorem exists_passes {kind : NodeKind} (belongs : kind.EntryOf rows.outer.selector.kind)
    (sameLabel : entryLabel? kind = entryLabel? entry.kind) :
    ∃ (store : Store) (entries : store.Entries) (row : Row store) (node : store.Node),
      row.Stands rows.outer.selector node ∧ entries.Passes row condition ∧
      ((Constraint.existsRowWith rows (test.asks entry)).Holds row →
        Absorbs owner entry rows.outer) := by
  have named := sameLabel.trans labelled
  let entries := entryStoreEntries belongs.ne belongs named test.key (.boolean true)
  have stands : (Row.empty.bind rows.outer.selector EntryNode.owner : Row (entryStore kind
      belongs.ne test.key)).Stands rows.outer.selector EntryNode.owner := Row.stands_bind rfl
  refine ⟨_, entries, _, _, stands, (entries.passes_iff named stands.node_eq stated).mpr
    ⟨.entry, ⟨rfl, rfl⟩, named, rfl, fun _ _ _ => trivial⟩, ?_⟩
  intro holds
  obtain ⟨different, own, kept, ownKind, keptKind, ⟨rfl, rfl⟩, ownKey, -⟩ :=
    (entries.holds_subquery joined tied (isEntry_of_entryLabel labelled)).mp holds
  have byId : rows.outer.property = .id := by
    rw [Row.key, stands.node_eq] at ownKey
    by_contra other
    simp [entryStore, other] at ownKey
  exact ⟨byId, ownKind.symm, keptKind ▸ ownKind ▸ belongs, different⟩

/-- If the subquery may find an entry, but the outer node is of another kind, then the subquery
holds in some store where the test is not passed. -/
theorem exists_holds (belongs : entry.kind.EntryOf owner.kind)
    (different : owner.aliasName ≠ entry.aliasName)
    (otherKind : rows.outer.selector.kind ≠ owner.kind) :
    ∃ (store : Store) (entries : store.Entries) (row : Row store) (node : store.Node),
      row.Stands rows.outer.selector node ∧ ¬entries.Passes row condition ∧
      (Constraint.existsRowWith rows (test.asks entry)).Holds row := by
  let entries := entryStoreEntries otherKind belongs labelled test.key (.boolean true)
  have stands : (Row.empty.bind rows.outer.selector EntryNode.other : Row (entryStore entry.kind
      otherKind test.key)).Stands rows.outer.selector EntryNode.other := Row.stands_bind rfl
  have outerKey : (Row.empty.bind rows.outer.selector EntryNode.other : Row (entryStore entry.kind
      otherKind test.key)).key rows.outer = some true := by
    rw [Row.key, stands.node_eq]
    rfl
  refine ⟨_, entries, _, _, stands, ?_, (entries.holds_subquery joined tied belongs.isEntry).mpr
    ⟨different, .owner, .entry, rfl, rfl, ⟨rfl, rfl⟩, outerKey, rfl, fun _ _ _ => trivial⟩⟩
  intro passes
  obtain ⟨kept, ⟨-, absent⟩, -⟩ := (entries.passes_iff labelled stands.node_eq stated).mp passes
  contradiction

/-- The test of the outer node means what the subquery does in every store if and only if both
are about the same entries, or about none. -/
theorem passes_iff_holds_iff :
    (∀ {store : Store} (entries : store.Entries) (row : Row store) (node : store.Node),
      row.Stands rows.outer.selector node →
      (entries.Passes row condition ↔
        (Constraint.existsRowWith rows (test.asks entry)).Holds row)) ↔
      Absorbs owner entry rows.outer ∨ Idle owner entry rows.outer := by
  constructor
  · intro same
    by_cases fits : ∃ kind, kind.EntryOf rows.outer.selector.kind ∧
        entryLabel? kind = entryLabel? entry.kind
    · obtain ⟨kind, belongs, sameLabel⟩ := fits
      obtain ⟨store, entries, row, node, stands, passes, absorbs⟩ :=
        exists_passes joined tied labelled stated belongs sameLabel
      exact .inl (absorbs ((same entries row node stands).mp passes))
    · refine .inr ⟨?_, fun belongs equal => fits ⟨_, belongs, equal⟩⟩
      intro belongs
      by_contra different
      have otherKind : rows.outer.selector.kind ≠ owner.kind :=
        fun equal => fits ⟨_, equal ▸ belongs, rfl⟩
      obtain ⟨store, entries, row, node, stands, fails, holds⟩ :=
        exists_holds joined tied labelled stated belongs different otherKind
      exact fails ((same entries row node stands).mpr holds)
  · intro sound store entries row node stands
    rcases sound with absorbs | idle
    · exact passes_iff_of_absorbs entries joined tied labelled absorbs stands stated
    · exact passes_iff_of_idle entries joined tied labelled idle stands stated

end Stores

/-! ## Subqueries that are not flattened -/

/-- A subquery that is recognized is stated as a test of the outer node. -/
theorem constraint_of_recognized {subquery : Subquery}
    (recognized : EntryTest.ofSubquery? subquery = some test) :
    backend.constraint (.ofSubquery subquery) =
      test.state subquery.rows.outer.selector.aliasName := by
  rcases subquery with ⟨rows, _ | inner⟩ <;>
    simp only [Constraint.ofSubquery, Backend.constraint, backend, existence, recognized]

/-- Entries cannot be selected. -/
theorem isEntry_of_source {source : Source} {joined : Rows}
    (stated : backend.source source = .ok joined) :
    ∀ selector ∈ source.selectors, selector.kind.isEntry = false := by
  have node {selector : Selector} {rows : Rows} (stated : backend.selector selector = .ok rows) :
      selector.kind.isEntry = false := by
    obtain ⟨type, typed, -⟩ := Compile.exceptBind_eq_ok.mp stated
    cases kind : selector.kind <;> simp [kind, nodeType, NodeKind.isEntry] at typed ⊢
  induction source generalizing joined with
  | single selector =>
      intro other member
      cases List.mem_singleton.mp member
      exact node stated
  | join left right kind condition ih =>
      obtain ⟨before, leftStated, rest⟩ := Compile.exceptBind_eq_ok.mp stated
      obtain ⟨after, rightStated, -⟩ := Compile.exceptBind_eq_ok.mp rest
      intro selector member
      rcases List.mem_append.mp member with inLeft | last
      · exact ih leftStated selector inLeft
      · cases List.mem_singleton.mp last
        exact node rightStated

/-- A subquery that selects entries, and is not flattened, is refused. -/
theorem refused_of_entry {subquery : Subquery}
    (other : EntryTest.ofSubquery? subquery = none) {selector : Selector}
    (member : selector ∈ subquery.rows.source.selectors)
    (isEntry : selector.kind.isEntry = true) :
    ∃ capability, backend.constraint (.ofSubquery subquery) = .error (gap capability) := by
  cases stated : backend.constraint (.ofSubquery subquery) with
  | error cause =>
      obtain ⟨capability, rfl⟩ := keeps_onlyGaps.constraint (.ofSubquery subquery) cause stated
      exact ⟨capability, rfl⟩
  | ok condition =>
      have selected : ∃ joined, backend.source subquery.rows.source = .ok joined := by
        rcases subquery with ⟨rows, _ | inner⟩ <;>
          exact ((existence_eq_ok other).mp stated).imp fun _ parts => parts.1
      obtain ⟨joined, sourceStated⟩ := selected
      rw [isEntry_of_source sourceStated selector member] at isEntry
      contradiction

/-- A flattened subquery and the test that it becomes hold together in every store that keeps
entries as properties if and only if the outer operand is the identifier of a node of the
owner's kind, entries of the kind belong to that, and owner and entry have different names,
unless neither can ever hold.  A key with a closing bracket is refused, and so is a subquery
that selects entries and is not flattened. -/
theorem flattened_iff (subquery : Subquery) :
    (∀ (test : EntryTest) (owner entry : Selector) (condition : Condition),
      EntryTest.ofSubquery? subquery = some test →
      EntryTest.rows? subquery.rows = some (owner, entry) →
      backend.constraint (.ofSubquery subquery) = .ok condition →
      ((∀ {store : Store} (entries : store.Entries) (row : Row store) (node : store.Node),
          row.Stands subquery.rows.outer.selector node →
          (entries.Passes row condition ↔ (Constraint.ofSubquery subquery).Holds row)) ↔
        Absorbs owner entry subquery.rows.outer ∨ Idle owner entry subquery.rows.outer)) ∧
    (∀ test : EntryTest, EntryTest.ofSubquery? subquery = some test → ']' ∈ test.key.toList →
      backend.constraint (.ofSubquery subquery) = .error (gap (.bracketedName test.key))) ∧
    (EntryTest.ofSubquery? subquery = none →
      ∀ selector ∈ subquery.rows.source.selectors, selector.kind.isEntry = true →
        ∃ capability, backend.constraint (.ofSubquery subquery) = .error (gap capability)) := by
  refine ⟨?_, ?_, fun other selector member isEntry => refused_of_entry other member isEntry⟩
  · intro test owner entry condition recognized rowsFound stated
    rw [constraint_of_recognized recognized] at stated
    rcases subquery with ⟨rows, inner⟩
    obtain ⟨joined, tied⟩ := EntryTest.rows?_eq_some_iff.mp rowsFound
    obtain ⟨_, _, again, -, labelled, rfl⟩ := EntryTest.ofSubquery?_eq_some_iff.mp recognized
    cases joined.symm.trans again
    exact passes_iff_holds_iff joined tied labelled stated
  · intro test recognized bracket
    rw [constraint_of_recognized recognized, EntryTest.state, if_pos (by simpa using bracket)]

/-- Some artifact whose custom property `color` is `red` has the identifier that an operand
holds. -/
def colorProbe (outer : Operand) : Subquery :=
  let owner : Selector := ⟨.artifact, "artifact2"⟩
  let entry : Selector := ⟨.propertyEntry, "property1"⟩
  ⟨⟨(Source.single owner).joinChild entry owner, owner.operand .id, outer⟩,
    some (EntryTest.asks ⟨"sramp-properties", "color", some (.eq, .string "red")⟩ entry)⟩

/-- Tied by the identifier of an artifact, the probe for a color is flattened soundly. -/
theorem flattened_iff_of_color :
    backend.constraint (.ofSubquery (colorProbe ⟨⟨.artifact, "artifact1"⟩, .id⟩)) =
      .ok (.comparison ⟨"artifact1", "sramp-properties:color"⟩ .eq (.string "red")) ∧
    ∀ {store : Store} (entries : store.Entries) (row : Row store) (node : store.Node),
      row.Stands ⟨.artifact, "artifact1"⟩ node →
      (entries.Passes row (.comparison ⟨"artifact1", "sramp-properties:color"⟩ .eq
          (.string "red")) ↔
        (Constraint.ofSubquery (colorProbe ⟨⟨.artifact, "artifact1"⟩, .id⟩)).Holds row) := by
  have stated : backend.constraint (.ofSubquery (colorProbe ⟨⟨.artifact, "artifact1"⟩, .id⟩)) =
      .ok (.comparison ⟨"artifact1", "sramp-properties:color"⟩ .eq (.string "red")) := by
    decide +kernel
  refine ⟨stated, ?_⟩
  intro store entries row node stands
  have flattened := (flattened_iff (colorProbe ⟨⟨.artifact, "artifact1"⟩, .id⟩)).1
    ⟨"sramp-properties", "color", some (.eq, .string "red")⟩ ⟨.artifact, "artifact2"⟩
    ⟨.propertyEntry, "property1"⟩ _ rfl rfl stated
  exact flattened.mpr (.inl ⟨rfl, rfl, .artifact, by decide⟩) entries row node stands

/-- Tied by its name, an artifact of color red passes the same test, but the subquery does not
hold of it: an artifact's name is not the identifier of one that is red. -/
theorem exists_passes_of_name :
    backend.constraint (.ofSubquery (colorProbe ⟨⟨.artifact, "artifact1"⟩, .core .name⟩)) =
      .ok (.comparison ⟨"artifact1", "sramp-properties:color"⟩ .eq (.string "red")) ∧
    ∃ (store : Store) (entries : store.Entries) (row : Row store) (node : store.Node),
      row.Stands ⟨.artifact, "artifact1"⟩ node ∧
      entries.Passes row (.comparison ⟨"artifact1", "sramp-properties:color"⟩ .eq
        (.string "red")) ∧
      ¬(Constraint.ofSubquery (colorProbe ⟨⟨.artifact, "artifact1"⟩, .core .name⟩)).Holds row := by
  have stated : EntryTest.state ⟨"sramp-properties", "color", some (.eq, .string "red")⟩
      "artifact1" = .ok (.comparison ⟨"artifact1", "sramp-properties:color"⟩ .eq
        (.string "red")) := by
    decide +kernel
  refine ⟨stated, ?_⟩
  have joined : (colorProbe ⟨⟨.artifact, "artifact1"⟩, .core .name⟩).rows.source =
      (Source.single ⟨.artifact, "artifact2"⟩).joinChild ⟨.propertyEntry, "property1"⟩
        ⟨.artifact, "artifact2"⟩ := rfl
  obtain ⟨store, entries, row, node, stands, passes, absorbs⟩ :=
    exists_passes joined rfl rfl stated .artifact rfl
  refine ⟨store, entries, row, node, stands, passes, ?_⟩
  intro holds
  have byId := (absorbs holds).byId
  contradiction

end Hierarchical

end Sramp
