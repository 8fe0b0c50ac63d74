import Sramp.Proofs.Query.Reader
import Sramp.Query.Build

/-!
# Query text is unambiguous

A reader for whole predicates, by recursion on fuel.  With enough fuel it gets every regular
predicate back from its text, up to what the text does not show.  So two regular predicates with
the same text differ in nothing else.
-/

namespace Sramp.Query

variable {number : String → Double}

/-- A test of a subject with the comparison that is read next. -/
def completeTest (number : String → Double) (subject : Subject) (chars : List Char) :
    EqualityExpr × List Char :=
  (readComparison number chars).map (.test subject) id

/-- What was read as a step, as a part of a predicate; a call may have a comparison. -/
def completeStep (number : String → Double) :
    SubartifactSet → List Char → EqualityExpr × List Char
  | .call call, chars => completeTest number (.call call) chars
  | set, chars => (.subartifacts set, chars)

/-- Reads a part of a chain and, if the connective follows, the rest of the chain. -/
def readChained {Part Chain : Type} (single : Part → Chain) (chain : Part → Chain → Chain)
    (connective : String) (readPart : List Char → Option (Part × List Char))
    (readChain : List Char → Option (Chain × List Char)) (chars : List Char) :
    Option (Chain × List Char) := do
  let (left, rest) ← readPart chars
  match after? connective rest with
  | none => return (single left, rest)
  | some rest =>
      let (right, rest) ← readChain rest
      return (chain left right, rest)

mutual

/-- Reads a predicate. -/
def readExpr (number : String → Double) : Nat → List Char → Option (Expr × List Char)
  | 0, _ => none
  | fuel + 1, chars =>
      readChained .single .chain " and " (readOr number fuel) (readExpr number fuel) chars

/-- Reads a chain of alternatives. -/
def readOr (number : String → Double) : Nat → List Char → Option (OrExpr × List Char)
  | 0, _ => none
  | fuel + 1, chars =>
      readChained .single .chain " or " (readEquality number fuel) (readOr number fuel) chars

/-- Reads a step, group or test; the first character tells which. -/
def readEquality (number : String → Double) : Nat → List Char → Option (EqualityExpr × List Char)
  | 0, _ => none
  | _, [] => none
  | fuel + 1, c :: chars =>
      if c = '(' then do
        let (inner, rest) ← readExpr number fuel chars
        return (.grouped inner, ← after? ")" rest)
      else if c = '@' then
        completeTest number (.property (.plain (nameOf chars))) (afterName chars)
      else if isNameStart c then do
        let (set, rest) ← readSet number fuel (c :: chars)
        completeStep number set rest
      else do
        let (primary, rest) ← readPrimary number (c :: chars)
        completeTest number (.primary primary) rest

/-- Reads the arguments of a function and the parenthesis behind them. -/
def readArguments (number : String → Double) : Nat → List Char → Option (List Argument × List Char)
  | 0, _ => none
  | fuel + 1, chars =>
      -- no predicate begins with the parenthesis, so it tells that there are no arguments
      match readExpr number fuel chars with
      | none => (after? ")" chars).map fun rest => ([], rest)
      | some (argument, rest) =>
          match after? ", " rest with
          | none => (after? ")" rest).map fun rest => ([.expr argument], rest)
          | some rest => do
              let (others, rest) ← readArguments number fuel rest
              return (.expr argument :: others, rest)

/-- Reads a step: what follows the first name tells which. -/
def readSet (number : String → Double) : Nat → List Char → Option (SubartifactSet × List Char)
  | 0, _ => none
  | fuel + 1, chars =>
      match afterName chars with
      | '(' :: rest => do
          let (arguments, rest) ← readArguments number fuel rest
          return (.call (.mk (.sramp (nameOf chars)) arguments), rest)
      | ':' :: others => do
          let rest ← after? "(" (afterName others)
          let (arguments, rest) ← readArguments number fuel rest
          return (.call (.mk (.xpath (nameOf others)) arguments), rest)
      | '[' :: rest => do
          let (predicate, rest) ← readExpr number fuel rest
          let rest ← after? "]" rest
          match after? "/" rest with
          | none => return (.relationship (nameOf chars) (some predicate) none, rest)
          | some rest =>
              let (next, rest) ← readSet number fuel rest
              return (.relationship (nameOf chars) (some predicate) (some next), rest)
      | '/' :: rest => do
          let (next, rest) ← readSet number fuel rest
          return (.relationship (nameOf chars) none (some next), rest)
      | rest => return (.relationship (nameOf chars) none none, rest)

end

/-! ## Reading back -/

section

variable {Part Chain : Type} {read : Nat → List Char → Option (Part × List Char)}
  {follows : List Char → Prop} {text others : String} {rest : List Char}

/-- With enough fuel a reader gets a part from its text, whatever may follow. -/
def ReadsBack (read : Nat → List Char → Option (Part × List Char)) (follows : List Char → Prop)
    (text : String) (part : Part) : Prop :=
  ∃ least, ∀ fuel, least ≤ fuel → ∀ rest, follows rest →
    read fuel (text.toList ++ rest) = some (part, rest)

/-- Of one unit of fuel a reader may make use itself. -/
theorem ReadsBack.of_succ {part : Part} (least : Nat)
    (reads : ∀ fuel, least ≤ fuel → ∀ rest, follows rest →
      read (fuel + 1) (text.toList ++ rest) = some (part, rest)) :
    ReadsBack read follows text part := by
  refine ⟨least + 1, fun fuel enough => ?_⟩
  cases fuel with
  | zero => omega
  | succ fuel => exact reads fuel (by omega)

variable {single : Part → Chain} {chain : Part → Chain → Chain} {connective : String}
  {readChain : Nat → List Char → Option (Chain × List Char)} {more : List Char → Prop}

/-- A chain ends with a part that the connective does not follow. -/
theorem ReadsBack.last {part : Part}
    (steps : ∀ fuel chars, readChain (fuel + 1) chars =
      readChained single chain connective (read fuel) (readChain fuel) chars)
    (reads : ReadsBack read follows text part)
    (ends : ∀ rest, more rest → follows rest ∧ after? connective rest = none) :
    ReadsBack readChain more text (single part) := by
  obtain ⟨least, read⟩ := reads
  refine .of_succ least fun fuel enough rest behind => ?_
  obtain ⟨behind, alone⟩ := ends rest behind
  simp only [steps, readChained, read fuel enough rest behind, Option.bind_eq_bind,
    Option.bind_some, alone, Option.pure_def]

/-- Where the connective follows a part the chain goes on. -/
theorem ReadsBack.next {part : Part} {rest : Chain}
    (steps : ∀ fuel chars, readChain (fuel + 1) chars =
      readChained single chain connective (read fuel) (readChain fuel) chars)
    (first : ReadsBack read follows text part) (second : ReadsBack readChain more others rest)
    (goesOn : ∀ rest, follows (connective.toList ++ rest)) :
    ReadsBack readChain more (text ++ connective ++ others) (chain part rest) := by
  obtain ⟨enoughFirst, readFirst⟩ := first
  obtain ⟨enoughRest, readRest⟩ := second
  refine .of_succ (max enoughFirst enoughRest) fun fuel enough behind ends => ?_
  have part := readFirst fuel (by omega) (connective.toList ++ (others.toList ++ behind))
    (goesOn _)
  simp only [String.toList_append, List.append_assoc, steps, readChained, part,
    Option.bind_eq_bind, Option.bind_some, after?_append, readRest fuel (by omega) behind ends,
    Option.pure_def]

theorem ReadsBack.andSingle {left : OrExpr}
    (reads : ReadsBack (readOr number) (Ends [" and "]) text left) :
    ReadsBack (readExpr number) (Ends []) text (.single left) :=
  .last (fun _ _ => rfl) reads fun _ ends =>
    ⟨ends.mono (by simp), ends.after?_eq_none (by simp) (by simp [connecting]) (by simp)⟩

theorem ReadsBack.andChain {left : OrExpr} {right : Expr}
    (first : ReadsBack (readOr number) (Ends [" and "]) text left)
    (second : ReadsBack (readExpr number) (Ends []) others right) :
    ReadsBack (readExpr number) (Ends []) (text ++ " and " ++ others) (.chain left right) :=
  .next (fun _ _ => rfl) first second fun _ => .connective (by simp) _

theorem ReadsBack.orSingle {left : EqualityExpr}
    (reads : ReadsBack (readEquality number) (Ends connecting) text left) :
    ReadsBack (readOr number) (Ends [" and "]) text (.single left) :=
  .last (fun _ _ => rfl) reads fun _ ends =>
    ⟨ends.mono (by simp [connecting]),
      ends.after?_eq_none (by simp [connecting]) (by simp [connecting]) (by simp)⟩

theorem ReadsBack.orChain {left : EqualityExpr} {right : OrExpr}
    (first : ReadsBack (readEquality number) (Ends connecting) text left)
    (second : ReadsBack (readOr number) (Ends [" and "]) others right) :
    ReadsBack (readOr number) (Ends [" and "]) (text ++ " or " ++ others) (.chain left right) :=
  .next (fun _ _ => rfl) first second fun _ => .connective (by simp [connecting]) _

theorem stops_comparison (comparison : Option (Operator × Primary)) (ends : Ends connecting rest) :
    Stops ((comparisonText comparison).toList ++ rest) := by
  cases comparison with
  | none => simpa [comparisonText] using ends.stops (List.Subset.refl _)
  | some compared => simp [comparisonText, Stops, isStop]

theorem completeTest_comparison (inverts : Inverts number) (subject : Subject)
    {comparison : Option (Operator × Primary)} (regular : isRegularComparison comparison = true)
    (ends : Ends connecting rest) :
    completeTest number subject ((comparisonText comparison).toList ++ rest) =
      (.test subject comparison, rest) := by
  rw [completeTest, readComparison_text inverts regular ends]
  rfl

theorem completeStep_call (call : FunctionCall) (chars : List Char) :
    completeStep number (.call call) chars = completeTest number (.call call) chars :=
  rfl

/-- Without a comparison a step is what was read. -/
theorem completeStep_of_ends (inverts : Inverts number) (set : SubartifactSet)
    (ends : Ends connecting rest) : completeStep number set rest = (.ofStep set, rest) := by
  cases set with
  | call call =>
      have none : isRegularComparison none = true := rfl
      exact completeTest_comparison inverts (.call call) none ends
  | relationship => rfl

/-- Whether a text begins as a name does. -/
def BeginsName (text : String) : Prop :=
  ∃ c rest, text.toList = c :: rest ∧ isNameStart c = true

theorem readEquality_of_beginsName (begins : BeginsName text) (fuel : Nat) (chars : List Char) :
    readEquality number (fuel + 1) (text.toList ++ chars) =
      (readSet number fuel (text.toList ++ chars)).bind fun read =>
        completeStep number read.1 read.2 := by
  obtain ⟨c, others, shape, start⟩ := begins
  have different : c ≠ '(' ∧ c ≠ '@' := by
    constructor <;> rintro rfl <;> contradiction
  rw [shape, List.cons_append, readEquality, if_neg different.1, if_neg different.2, if_pos start]
  rfl

theorem ReadsBack.step {set : SubartifactSet} (inverts : Inverts number) (begins : BeginsName text)
    (reads : ReadsBack (readSet number) Stops text set) :
    ReadsBack (readEquality number) (Ends connecting) text (.ofStep set) := by
  obtain ⟨least, read⟩ := reads
  refine .of_succ least fun fuel enough rest ends => ?_
  rw [readEquality_of_beginsName begins, read fuel enough rest (ends.stops (List.Subset.refl _)),
    Option.bind_some, completeStep_of_ends inverts set ends]

theorem ReadsBack.callTest {call : FunctionCall} {comparison : Option (Operator × Primary)}
    (inverts : Inverts number) (regular : isRegularComparison comparison = true)
    (begins : BeginsName text) (reads : ReadsBack (readSet number) Stops text (.call call)) :
    ReadsBack (readEquality number) (Ends connecting) (text ++ comparisonText comparison)
      (.test (.call call) comparison) := by
  obtain ⟨least, read⟩ := reads
  refine .of_succ least fun fuel enough rest ends => ?_
  rw [String.toList_append, List.append_assoc, readEquality_of_beginsName begins,
    read fuel enough _ (stops_comparison comparison ends), Option.bind_some, completeStep_call,
    completeTest_comparison inverts _ regular ends]

theorem reads_propertyTest {name : QName} {comparison : Option (Operator × Primary)}
    (inverts : Inverts number) (named : isPropertyName name = true)
    (regular : isRegularComparison comparison = true) :
    ReadsBack (readEquality number) (Ends connecting)
      (propertyText name ++ comparisonText comparison) (.test (.property name) comparison) := by
  obtain ⟨identifier, plain⟩ := eq_plain_of_isPropertyName named
  refine .of_succ 0 fun fuel _ rest ends => ?_
  have shape : (propertyText name ++ comparisonText comparison).toList ++ rest =
      '@' :: (name.localName.toList ++ ((comparisonText comparison).toList ++ rest)) := by
    rw [propertyText, plain, text_plain]
    simp [QName.plain]
  have read := nameOf_append identifier (stops_comparison comparison ends).endsName
  rw [shape, readEquality, if_neg (by decide), if_pos rfl, read.1, read.2, ← plain,
    completeTest_comparison inverts _ regular ends]

theorem isNameStart_of_isDigit {c : Char} (digit : c.isDigit = true) : isNameStart c = false := by
  have bounds : 48 ≤ c.toNat ∧ c.toNat ≤ 57 := by
    simpa [Char.isDigit, UInt32.le_iff_toNat_le] using digit
  have noLetter : c.isAlpha = false := by
    change (decide ('A'.val ≤ c.val ∧ c.val ≤ 'Z'.val) ||
      (decide ('a'.val ≤ c.val) && decide (c.val ≤ 'z'.val))) = false
    simp [UInt32.le_iff_toNat_le]
    omega
  have different : c ≠ '_' := by
    rintro rfl
    contradiction
  simp only [isNameStart, noLetter, beq_eq_false_iff_ne.mpr different, Bool.or_self, Bool.false_or,
    decide_eq_false_iff_not]
  omega

/-- A primary begins with none of the characters that tell the other tests. -/
theorem head_primary {primary : Primary} (regular : primary.isRegular = true) :
    ∃ c rest, primary.text.toList = c :: rest ∧ c ≠ '(' ∧ c ≠ '@' ∧ isNameStart c = false := by
  cases primary with
  | literal text =>
      have shape : (Primary.literal text).text.toList =
          Text.quoteMark :: (Text.doubled text.toList ++ [Text.quoteMark]) := by
        simp [Primary.text, Text.quoted, Text.quoteMark]
      exact ⟨_, _, shape, by decide⟩
  | number x =>
      obtain ⟨c, rest, shape, begins⟩ := head_number regular
      refine ⟨c, rest, shape, ?_⟩
      rcases Bool.or_eq_true_iff.mp begins with digit | sign
      · refine ⟨?_, ?_, isNameStart_of_isDigit digit⟩ <;> rintro rfl <;> contradiction
      · rw [eq_of_beq sign]
        decide
  | property name => exact ⟨'$', name.text.toList, by simp [Primary.text], by decide⟩
  | contextItem => exact ⟨'.', [], rfl, by decide⟩

theorem reads_primaryTest {primary : Primary} {comparison : Option (Operator × Primary)}
    (inverts : Inverts number) (regularPrimary : primary.isRegular = true)
    (regular : isRegularComparison comparison = true) :
    ReadsBack (readEquality number) (Ends connecting) (primary.text ++ comparisonText comparison)
      (.test (.primary primary) comparison) := by
  obtain ⟨c, others, shape, noGroup, noProperty, noName⟩ := head_primary regularPrimary
  refine .of_succ 0 fun fuel _ rest ends => ?_
  have read := readPrimary_text inverts regularPrimary (stops_comparison comparison ends)
  rw [shape] at read
  rw [String.toList_append, List.append_assoc, shape, List.cons_append, readEquality,
    if_neg noGroup, if_neg noProperty, if_neg (by rw [noName]; decide), ← List.cons_append, read]
  simp only [Option.bind_eq_bind, Option.bind_some,
    completeTest_comparison inverts _ regular ends]

theorem ReadsBack.group {inner : Expr} (reads : ReadsBack (readExpr number) (Ends []) text inner) :
    ReadsBack (readEquality number) (Ends connecting) ("(" ++ text ++ ")") (.grouped inner) := by
  obtain ⟨least, read⟩ := reads
  refine .of_succ least fun fuel enough rest _ => ?_
  have shape : ("(" ++ text ++ ")").toList ++ rest =
      '(' :: (text.toList ++ (")".toList ++ rest)) := by
    simp
  have inner := read fuel enough (")".toList ++ rest) (.append ⟨')', rfl, by decide⟩ rest)
  rw [shape, readEquality, if_pos rfl, inner]
  simp only [Option.bind_eq_bind, Option.bind_some, after?_append, Option.pure_def]

/-- A parenthesis begins no predicate. -/
theorem readExpr_closed (fuel : Nat) : readExpr number fuel (')' :: rest) = none := by
  have noTest (fuel : Nat) : readEquality number fuel (')' :: rest) = none := by
    cases fuel <;> rfl
  have noChain (fuel : Nat) : readOr number fuel (')' :: rest) = none := by
    cases fuel with
    | zero => rfl
    | succ fuel => rw [readOr, readChained, noTest]; rfl
  cases fuel with
  | zero => rfl
  | succ fuel => rw [readExpr, readChained, noChain]; rfl

theorem reads_noArguments : ReadsBack (readArguments number) (fun _ => True) ")" [] := by
  refine .of_succ 0 fun fuel _ rest _ => ?_
  have noArgument : readExpr number fuel (")".toList ++ rest) = none := readExpr_closed fuel
  simp only [readArguments, noArgument, after?_append, Option.map_some]

theorem ReadsBack.lastArgument {expr : Expr}
    (reads : ReadsBack (readExpr number) (Ends []) text expr) :
    ReadsBack (readArguments number) (fun _ => True) (text ++ ")") [.expr expr] := by
  obtain ⟨least, read⟩ := reads
  refine .of_succ least fun fuel enough rest _ => ?_
  have argument := read fuel enough (")".toList ++ rest) (.append ⟨')', rfl, by decide⟩ rest)
  have last : after? ", " (")".toList ++ rest) = none := rfl
  simp only [String.toList_append, List.append_assoc, readArguments, argument, last,
    after?_append, Option.map_some]

theorem ReadsBack.nextArgument {expr : Expr} {others : String} {more : List Argument}
    (first : ReadsBack (readExpr number) (Ends []) text expr)
    (second : ReadsBack (readArguments number) (fun _ => True) (others ++ ")") more) :
    ReadsBack (readArguments number) (fun _ => True) (text ++ ", " ++ others ++ ")")
      (.expr expr :: more) := by
  obtain ⟨enoughFirst, readFirst⟩ := first
  obtain ⟨enoughOthers, readOthers⟩ := second
  refine .of_succ (max enoughFirst enoughOthers) fun fuel enough rest _ => ?_
  have argument := readFirst fuel (by omega) (", ".toList ++ ((others ++ ")").toList ++ rest))
    (.append ⟨',', rfl, by decide⟩ _)
  have shape : (text ++ ", " ++ others ++ ")").toList ++ rest =
      text.toList ++ (", ".toList ++ ((others ++ ")").toList ++ rest)) := by
    simp only [String.toList_append, List.append_assoc]
  rw [shape]
  simp only [readArguments, argument, after?_append, readOthers fuel (by omega) rest trivial,
    Option.bind_eq_bind, Option.bind_some, Option.pure_def]

theorem functionText_sramp (localName : String) :
    (QName.sramp localName).functionText = localName := by
  have shown : (QName.sramp localName).shownLabel = some "s-ramp" := rfl
  rw [QName.functionText, if_pos shown]
  rfl

theorem functionText_xpath (localName : String) :
    (QName.xpath localName).functionText = "fn:" ++ localName := by
  have shown : (QName.xpath localName).shownLabel = some "fn" := rfl
  rw [QName.functionText, shown, if_neg (by decide), QName.text, shown]
  rfl

theorem readSet_sramp {localName : String} (identifier : isIdentifier localName = true)
    (fuel : Nat) :
    readSet number (fuel + 1) (localName.toList ++ '(' :: rest) =
      (readArguments number fuel rest).map fun read =>
        (.call (.mk (.sramp localName) read.1), read.2) := by
  have name := nameOf_append identifier (endsName_cons (by decide : isNameChar '(' = false) rest)
  rw [readSet, name.1, name.2]
  simp only [Option.map_eq_bind]
  rfl

theorem readSet_xpath {localName : String} (identifier : isIdentifier localName = true)
    (fuel : Nat) :
    readSet number (fuel + 1) ("fn:".toList ++ (localName.toList ++ '(' :: rest)) =
      (readArguments number fuel rest).map fun read =>
        (.call (.mk (.xpath localName) read.1), read.2) := by
  have label : isIdentifier "fn" = true := by decide
  have outer := nameOf_append label
    (endsName_cons (by decide : isNameChar ':' = false) (localName.toList ++ '(' :: rest))
  have name := nameOf_append identifier (endsName_cons (by decide : isNameChar '(' = false) rest)
  have shape : "fn:".toList ++ (localName.toList ++ '(' :: rest) =
      "fn".toList ++ ':' :: (localName.toList ++ '(' :: rest) := rfl
  have opens : after? "(" ('(' :: rest) = some rest := rfl
  rw [shape, readSet, outer.1, outer.2]
  simp only [name.1, name.2, opens, Option.bind_eq_bind, Option.bind_some, Option.map_eq_bind]
  rfl

theorem ReadsBack.call {name : QName} {arguments : List Argument}
    (named : isFunctionName name = true)
    (reads : ReadsBack (readArguments number) (fun _ => True) (text ++ ")") arguments) :
    ReadsBack (readSet number) Stops (name.functionText ++ "(" ++ text ++ ")")
      (.call (.mk name arguments)) := by
  obtain ⟨least, read⟩ := reads
  rw [isFunctionName, Bool.and_eq_true, Bool.or_eq_true, beq_iff_eq, beq_iff_eq] at named
  obtain ⟨identifier, labelled⟩ := named
  refine .of_succ least fun fuel enough rest _ => ?_
  have arguments := read fuel enough rest trivial
  have shape : (name.functionText ++ "(" ++ text ++ ")").toList ++ rest =
      name.functionText.toList ++ '(' :: ((text ++ ")").toList ++ rest) := by
    simp
  rw [shape]
  rcases labelled with sramp | xpath
  · rw [sramp, functionText_sramp, readSet_sramp identifier, arguments, Option.map_some]
  · rw [xpath, functionText_xpath, String.toList_append, List.append_assoc,
      readSet_xpath identifier, arguments, Option.map_some]

section

variable {relationshipType : String} {predicate : Expr} {next : SubartifactSet} {others : String}

theorem reads_relationship (identifier : isIdentifier relationshipType = true) :
    ReadsBack (readSet number) Stops relationshipType
      (.relationship relationshipType none none) := by
  refine .of_succ 0 fun fuel _ rest stops => ?_
  have name := nameOf_append identifier stops.endsName
  rw [readSet, name.1, name.2]
  cases rest with
  | nil => rfl
  | cons c rest => rcases eq_of_isStop (stops c rfl) with rfl | rfl | rfl | rfl <;> rfl

theorem ReadsBack.narrowed (identifier : isIdentifier relationshipType = true)
    (reads : ReadsBack (readExpr number) (Ends []) text predicate) :
    ReadsBack (readSet number) Stops (relationshipType ++ "[" ++ text ++ "]")
      (.relationship relationshipType (some predicate) none) := by
  obtain ⟨least, read⟩ := reads
  refine .of_succ least fun fuel enough rest stops => ?_
  have shape : (relationshipType ++ "[" ++ text ++ "]").toList ++ rest =
      relationshipType.toList ++ '[' :: (text.toList ++ ("]".toList ++ rest)) := by
    simp
  have name := nameOf_append identifier
    (endsName_cons (by decide : isNameChar '[' = false) (text.toList ++ ("]".toList ++ rest)))
  have predicate := read fuel enough ("]".toList ++ rest) (.append ⟨']', rfl, by decide⟩ rest)
  have last : after? "/" rest = none := stops.after?_eq_none ⟨'/', rfl, by decide⟩
  rw [shape, readSet, name.1, name.2]
  simp only [predicate, Option.bind_eq_bind, Option.bind_some, after?_append, last,
    Option.pure_def]

theorem ReadsBack.followed (identifier : isIdentifier relationshipType = true)
    (reads : ReadsBack (readSet number) Stops text next) :
    ReadsBack (readSet number) Stops (relationshipType ++ "/" ++ text)
      (.relationship relationshipType none (some next)) := by
  obtain ⟨least, read⟩ := reads
  refine .of_succ least fun fuel enough rest stops => ?_
  have shape : (relationshipType ++ "/" ++ text).toList ++ rest =
      relationshipType.toList ++ '/' :: (text.toList ++ rest) := by
    simp
  have name := nameOf_append identifier
    (endsName_cons (by decide : isNameChar '/' = false) (text.toList ++ rest))
  rw [shape, readSet, name.1, name.2]
  simp only [read fuel enough rest stops, Option.bind_eq_bind, Option.bind_some, Option.pure_def]

theorem ReadsBack.narrowedFollowed (identifier : isIdentifier relationshipType = true)
    (first : ReadsBack (readExpr number) (Ends []) text predicate)
    (second : ReadsBack (readSet number) Stops others next) :
    ReadsBack (readSet number) Stops (relationshipType ++ "[" ++ text ++ "]" ++ "/" ++ others)
      (.relationship relationshipType (some predicate) (some next)) := by
  obtain ⟨enoughPredicate, readPredicate⟩ := first
  obtain ⟨enoughNext, readNext⟩ := second
  refine .of_succ (max enoughPredicate enoughNext) fun fuel enough rest stops => ?_
  have shape : (relationshipType ++ "[" ++ text ++ "]" ++ "/" ++ others).toList ++ rest =
      relationshipType.toList ++
        '[' :: (text.toList ++ ("]".toList ++ ("/".toList ++ (others.toList ++ rest)))) := by
    simp
  have name := nameOf_append identifier (endsName_cons (by decide : isNameChar '[' = false)
    (text.toList ++ ("]".toList ++ ("/".toList ++ (others.toList ++ rest)))))
  have predicate := readPredicate fuel (by omega)
    ("]".toList ++ ("/".toList ++ (others.toList ++ rest))) (.append ⟨']', rfl, by decide⟩ _)
  rw [shape, readSet, name.1, name.2]
  simp only [predicate, Option.bind_eq_bind, Option.bind_some, after?_append,
    readNext fuel (by omega) rest stops, Option.pure_def]

end

end

/-! ## Regular predicates are read back -/

theorem beginsName_append {text : String} (begins : BeginsName text) (others : String) :
    BeginsName (text ++ others) := by
  obtain ⟨c, rest, shape, start⟩ := begins
  exact ⟨c, rest ++ others.toList, by rw [String.toList_append, shape, List.cons_append], start⟩

theorem FunctionCall.beginsName {call : FunctionCall} (regular : call.isRegular = true) :
    BeginsName call.text := by
  obtain ⟨name, arguments⟩ := call
  simp only [isRegular, isFunctionName, Bool.and_eq_true, Bool.or_eq_true, beq_iff_eq] at regular
  obtain ⟨⟨identifier, labelled⟩, -⟩ := regular
  have begins : BeginsName name.functionText := by
    rcases labelled with sramp | xpath
    · rw [sramp, functionText_sramp]
      exact head_of_isIdentifier identifier
    · rw [xpath, functionText_xpath]
      exact beginsName_append ⟨'f', _, rfl, by decide⟩ _
  rw [text, String.append_assoc, String.append_assoc]
  exact beginsName_append begins _

theorem SubartifactSet.beginsName {set : SubartifactSet} (regular : set.isRegular = true) :
    BeginsName set.text := by
  match set with
  | .call function =>
      rw [isRegular] at regular
      exact function.beginsName regular
  | .relationship relationshipType none none =>
      rw [isRegular] at regular
      exact head_of_isIdentifier regular
  | .relationship relationshipType (some predicate) none =>
      simp only [isRegular, Bool.and_eq_true] at regular
      rw [text, String.append_assoc, String.append_assoc]
      exact beginsName_append (head_of_isIdentifier regular.1) _
  | .relationship relationshipType none (some next) =>
      simp only [isRegular, Bool.and_eq_true] at regular
      rw [text, String.append_assoc]
      exact beginsName_append (head_of_isIdentifier regular.1) _
  | .relationship relationshipType (some predicate) (some next) =>
      simp only [isRegular, Bool.and_eq_true] at regular
      rw [text, String.append_assoc, String.append_assoc, String.append_assoc, String.append_assoc]
      exact beginsName_append (head_of_isIdentifier regular.1.1) _

theorem Argument.listMerged_cons (argument : Argument) (rest : List Argument) :
    Argument.listMerged (argument :: rest) = argument.merged :: Argument.listMerged rest := by
  rw [Argument.listMerged]

theorem Expr.reads_ofPrimary (inverts : Inverts number) {primary : Primary}
    (regular : primary.isRegular = true) :
    ReadsBack (readExpr number) (Ends []) primary.text (.ofPrimary primary) := by
  have test := reads_primaryTest inverts regular (by rfl : isRegularComparison none = true)
  rw [comparisonText, String.append_empty] at test
  exact test.orSingle.andSingle

mutual

/-- A regular predicate is read from its text as the predicate without the differences that do
not show. -/
theorem Expr.reads (inverts : Inverts number) : (expr : Expr) → expr.isRegular = true →
    ReadsBack (readExpr number) (Ends []) expr.text expr.merged
  | .single left, regular => by
      rw [Expr.isRegular] at regular
      rw [Expr.text, Expr.merged]
      exact (left.reads inverts regular).andSingle
  | .chain left right, regular => by
      rw [Expr.isRegular, Bool.and_eq_true] at regular
      rw [Expr.text, Expr.merged]
      exact (left.reads inverts regular.1).andChain (right.reads inverts regular.2)

theorem OrExpr.reads (inverts : Inverts number) : (expr : OrExpr) → expr.isRegular = true →
    ReadsBack (readOr number) (Ends [" and "]) expr.text expr.merged
  | .single left, regular => by
      rw [OrExpr.isRegular] at regular
      rw [OrExpr.text, OrExpr.merged]
      exact (left.reads inverts regular).orSingle
  | .chain left right, regular => by
      rw [OrExpr.isRegular, Bool.and_eq_true] at regular
      rw [OrExpr.text, OrExpr.merged]
      exact (left.reads inverts regular.1).orChain (right.reads inverts regular.2)

theorem EqualityExpr.reads (inverts : Inverts number) : (expr : EqualityExpr) →
    expr.isRegular = true → ReadsBack (readEquality number) (Ends connecting) expr.text expr.merged
  | .subartifacts set, regular => by
      rw [EqualityExpr.isRegular] at regular
      rw [EqualityExpr.text, EqualityExpr.merged]
      exact (set.reads inverts regular).step inverts (set.beginsName regular)
  | .grouped expr, regular => by
      rw [EqualityExpr.isRegular] at regular
      rw [EqualityExpr.text, EqualityExpr.merged]
      exact (expr.reads inverts regular).group
  | .test (.property name) comparison, regular => by
      rw [EqualityExpr.isRegular, Subject.isRegular, Bool.and_eq_true] at regular
      rw [EqualityExpr.text, EqualityExpr.merged, Subject.text, Subject.merged]
      exact reads_propertyTest inverts regular.1 regular.2
  | .test (.call call) comparison, regular => by
      rw [EqualityExpr.isRegular, Subject.isRegular, Bool.and_eq_true] at regular
      rw [EqualityExpr.text, EqualityExpr.merged, Subject.text, Subject.merged]
      exact (call.reads inverts regular.1).callTest inverts regular.2 (call.beginsName regular.1)
  | .test (.primary primary) comparison, regular => by
      rw [EqualityExpr.isRegular, Subject.isRegular, Bool.and_eq_true] at regular
      rw [EqualityExpr.text, EqualityExpr.merged, Subject.text, Subject.merged]
      exact reads_primaryTest inverts regular.1 regular.2

theorem FunctionCall.reads (inverts : Inverts number) : (call : FunctionCall) →
    call.isRegular = true → ReadsBack (readSet number) Stops call.text (.call call.merged)
  | .mk name arguments, regular => by
      rw [FunctionCall.isRegular, Bool.and_eq_true] at regular
      rw [FunctionCall.text, FunctionCall.merged]
      exact (Argument.listReads inverts arguments regular.2).call regular.1

theorem Argument.reads (inverts : Inverts number) : (argument : Argument) →
    argument.isRegular = true →
    ∃ expr, argument.merged = .expr expr ∧ ReadsBack (readExpr number) (Ends []) argument.text expr
  | .primary primary, regular => by
      rw [Argument.isRegular] at regular
      rw [Argument.text, Argument.merged]
      exact ⟨_, rfl, Expr.reads_ofPrimary inverts regular⟩
  | .expr expr, regular => by
      rw [Argument.isRegular] at regular
      rw [Argument.text, Argument.merged]
      exact ⟨_, rfl, expr.reads inverts regular⟩

theorem Argument.listReads (inverts : Inverts number) : (arguments : List Argument) →
    Argument.areRegular arguments = true →
    ReadsBack (readArguments number) (fun _ => True) (Argument.listText arguments ++ ")")
      (Argument.listMerged arguments)
  | [], _ => by
      rw [Argument.listText, Argument.listMerged, String.empty_append]
      exact reads_noArguments
  | [argument], regular => by
      rw [Argument.areRegular, Bool.and_eq_true] at regular
      obtain ⟨expr, merged, reads⟩ := argument.reads inverts regular.1
      rw [Argument.listText, Argument.listMerged_cons, Argument.listMerged, merged]
      exact reads.lastArgument
  | argument :: next :: rest, regular => by
      rw [Argument.areRegular, Bool.and_eq_true] at regular
      obtain ⟨expr, merged, reads⟩ := argument.reads inverts regular.1
      rw [Argument.listText, Argument.listMerged_cons, merged]
      exact reads.nextArgument (Argument.listReads inverts (next :: rest) regular.2)

theorem SubartifactSet.reads (inverts : Inverts number) : (set : SubartifactSet) →
    set.isRegular = true → ReadsBack (readSet number) Stops set.text set.merged
  | .call call, regular => by
      rw [SubartifactSet.isRegular] at regular
      rw [SubartifactSet.text, SubartifactSet.merged]
      exact call.reads inverts regular
  | .relationship relationshipType none none, regular => by
      rw [SubartifactSet.isRegular] at regular
      rw [SubartifactSet.text, SubartifactSet.merged]
      exact reads_relationship regular
  | .relationship relationshipType (some predicate) none, regular => by
      rw [SubartifactSet.isRegular, Bool.and_eq_true] at regular
      rw [SubartifactSet.text, SubartifactSet.merged]
      exact (predicate.reads inverts regular.2).narrowed regular.1
  | .relationship relationshipType none (some next), regular => by
      rw [SubartifactSet.isRegular, Bool.and_eq_true] at regular
      rw [SubartifactSet.text, SubartifactSet.merged]
      exact (next.reads inverts regular.2).followed regular.1
  | .relationship relationshipType (some predicate) (some next), regular => by
      rw [SubartifactSet.isRegular, Bool.and_eq_true, Bool.and_eq_true] at regular
      rw [SubartifactSet.text, SubartifactSet.merged]
      exact (predicate.reads inverts regular.1.2).narrowedFollowed regular.1.1
        (next.reads inverts regular.2)

end

/-- The text of a regular predicate shows all of it but what is merged: two regular predicates
have the same text exactly if they are the same up to whether a primary stands as an argument or
as a test, and whether a call stands as a step or as a test. -/
theorem Expr.text_eq_iff {first second : Expr} (firstRegular : first.isRegular = true)
    (secondRegular : second.isRegular = true) :
    first.text = second.text ↔ first.merged = second.merged := by
  constructor
  · intro same
    obtain ⟨number, inverts⟩ := exists_inverts
    obtain ⟨enoughFirst, readFirst⟩ := first.reads inverts firstRegular
    obtain ⟨enoughSecond, readSecond⟩ := second.reads inverts secondRegular
    -- with fuel for both the reader gets both from the one text
    have readBack := readFirst (max enoughFirst enoughSecond) (by omega) [] .nothing
    rw [same, readSecond (max enoughFirst enoughSecond) (by omega) [] .nothing] at readBack
    exact (congrArg Prod.fst (Option.some.inj readBack)).symm
  · intro same
    rw [← first.text_merged, same, second.text_merged]

/-- How three tests are connected shows. -/
theorem Expr.text_eq_iff_of_connected :
    let inner : Expr := ((Expr.exists "a").or (.exists "b")).and (.exists "c")
    let outer : Expr := (Expr.exists "a").or ((Expr.exists "b").and (.exists "c"))
    (inner.isRegular = true ∧ outer.isRegular = true) ∧ inner.text ≠ outer.text := by
  intro inner outer
  have innerRegular : inner.isRegular = true := by decide
  have outerRegular : outer.isRegular = true := by decide
  refine ⟨⟨innerRegular, outerRegular⟩, fun same => ?_⟩
  have merged := (Expr.text_eq_iff innerRegular outerRegular).mp same
  simp [inner, outer, Expr.and, Expr.or, Expr.exists, Expr.toOr, Expr.ofEquality,
    Expr.merged] at merged

end Sramp.Query
