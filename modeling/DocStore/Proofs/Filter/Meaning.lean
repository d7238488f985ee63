/-
  What filters mean, and that their selectors mean the same.

  A filter reaches the store only as a selector, which is evaluated key by key and may fail.  Here
  filters get a meaning of their own, and the two are tied together:

  1. **Meaning** — `Relation.holds` says when two values are in a relation, `Condition.holds` when a
     document meets a condition (its field is there and in the relation), and `Filter.holds` follows
     the tree.  A group without members holds, as does the filter that accepts everything.

  2. **Plain filters** — a filter whose fields are texts other than the four keys that combine
     selectors, whose operators are known, and whose operands are texts where a relation between
     texts is meant (`Filter.isPlain`).  Everything else in a condition is free: values may look
     like operators, fields may be missing, paths may be dotted.

  3. **The bridge** (`Filter.selector_means`) — a plain filter has a selector, and evaluating that
     never fails and gives the meaning of the filter.  One induction over the tree; the leaf is
     `Condition.selector_means`, where the three families of operators meet `Selector.meets`.
-/
import DocStore.Filter.Selector
import DocStore.Proofs.Pattern.Literal
import DocStore.Selector.Match

namespace DocStore

/-! ## Meaning -/

/-- Whether a text matches the pattern of a relation between texts. -/
def Relation.matches (relation : Relation) (text operand : String) : Bool :=
  ((relation.pattern? operand.toList).bind Pattern.read?).any fun p => p.search text.toList

/-- Whether a value is one of those that an operand names: an element of a row, or what is no row
    itself. -/
def Value.isOneOf (v operand : Value) : Bool :=
  match operand with
  | .list items => items.any fun c => v.equals c
  | .tuple items => items.any fun c => v.equals c
  | single => v.equals single

/-- Whether a value that is there is in a relation to an operand. -/
def Relation.holds (relation : Relation) (v operand : Value) : Bool :=
  match relation with
  | .eq => v.equals operand
  | .ne => !v.equals operand
  | .gt => v.collate operand = .gt
  | .gte => v.collate operand ≠ .lt
  | .lt => v.collate operand = .lt
  | .lte => v.collate operand ≠ .gt
  | .isIn => v.isOneOf operand
  | .notIn => !v.isOneOf operand
  | .contains | .startsWith | .endsWith =>
    match v, operand with
    | .text s, .text t => relation.matches s t
    | _, _ => false

/-- Whether a document meets a condition, where the identifier is kept under `idKey`. -/
def Condition.holds (idKey : String) (c : Condition) (doc : Value) : Bool :=
  match c.storedField (.text idKey), c.operator with
  | .text path, .known relation => (doc.at? path).any fun v => relation.holds v c.value
  | _, _ => false

namespace Filter

mutual

/-- Whether a document meets a filter. -/
def holds (idKey : String) : Filter → Value → Bool
  | .anything, _ => true
  | .test c, doc => c.holds idKey doc
  | .group .and members, doc => allHold idKey members doc
  | .group .or members, doc => members.isEmpty || someHolds idKey members doc
  | .stray _, _ => false

/-- Whether a document meets every filter of a row. -/
def allHold (idKey : String) : List Filter → Value → Bool
  | [], _ => true
  | f :: rest, doc => holds idKey f doc && allHold idKey rest doc

/-- Whether a document meets some filter of a row. -/
def someHolds (idKey : String) : List Filter → Value → Bool
  | [], _ => false
  | f :: rest, doc => holds idKey f doc || someHolds idKey rest doc

end

end Filter

/-! ## Plain filters -/

/-- Whether a key of a selector combines selectors instead of naming a field. -/
def Selector.isCombinator (key : String) : Bool :=
  key = "$and" || key = "$or" || key = "$nor" || key = "$not"

/-- Whether a value is a text. -/
def Value.isText : Value → Bool
  | .text _ => true
  | _ => false

/-- Whether a relation is one between texts. -/
def Relation.isTextual : Relation → Bool
  | .contains | .startsWith | .endsWith => true
  | _ => false

/-- Whether a condition names a field by a text that is no combinator, and states a known relation
    to an operand of the right kind. -/
def Condition.isPlain (c : Condition) : Bool :=
  match c.field, c.operator with
  | .text path, .known relation =>
    !Selector.isCombinator path && (!relation.isTextual || c.value.isText)
  | _, _ => false

namespace Filter

mutual

/-- Whether all conditions of a filter are plain, and nothing else stands in it. -/
def isPlain : Filter → Bool
  | .anything => true
  | .test c => c.isPlain
  | .group _ members => arePlain members
  | .stray _ => false

/-- Whether all filters of a row are plain. -/
def arePlain : List Filter → Bool
  | [] => true
  | f :: rest => isPlain f && arePlain rest

end

end Filter

/-! ## One key of a selector

  Selectors are evaluated by functions whose equations are as many as the kinds of values; these
  lemmas say what one key and one operator amount to. -/

namespace Selector

/-- Going on if it is true, with true, changes nothing. -/
theorem bind_true_false (answer : Except Failure Bool) :
    (answer >>= fun holds => if holds = true then Except.ok true else pure false) = answer := by
  cases answer with
  | error e => rfl
  | ok b => cases b <;> rfl

/-- A key that is no combinator names a field, and the selector goes on if the field meets the
    condition beside it. -/
theorem testFields_field {path : String} (h : isCombinator path = false) (condition : Value)
    (rest : Object) (doc : Value) :
    testFields ((path, condition) :: rest) doc =
      (testCondition condition (doc.at? path) >>= fun holds =>
        if holds = true then testFields rest doc else pure false) := by
  simp only [isCombinator, Bool.or_eq_false_iff, decide_eq_false_iff_not] at h
  obtain ⟨⟨⟨hand, hor⟩, hnor⟩, hnot⟩ := h
  rw [testFields.eq_def]
  simp only [if_neg hand, if_neg hor, if_neg hnor, if_neg hnot]

/-- A selector with a single key that names a field is the condition beside the key. -/
theorem test_field {path : String} (h : isCombinator path = false) (condition doc : Value) :
    test (.object [(path, condition)]) doc = testCondition condition (doc.at? path) := by
  rw [test, testFields_field h, testFields, bind_true_false]

/-- A conjunction and nothing else is met by what meets all its members. -/
theorem test_and (members : List Value) (doc : Value) :
    test (.object [("$and", .list members)]) doc = testAll members doc := by
  rw [test, testFields, if_pos rfl, testFields, bind_true_false]

/-- A choice and nothing else is met by what meets one of its members. -/
theorem test_or (members : List Value) (doc : Value) :
    test (.object [("$or", .list members)]) doc = testAny members doc := by
  rw [test, testFields, if_neg (by decide), if_pos rfl, testFields, bind_true_false]

/-- A row of one selector is that selector, whether all of a row are to be met or only some. -/
theorem testAll_singleton (s doc : Value) : testAll [s] doc = test s doc := by
  rw [testAll, testAll, bind_true_false]

theorem testAny_singleton (s doc : Value) : testAny [s] doc = test s doc := by
  rw [testAny, testAny]
  cases test s doc with
  | error e => rfl
  | ok b => cases b <;> rfl

/-- A single operator that looks at values is met by a value that is there and meets it. -/
theorem testCondition_operator {op : String} (hop : isOperator op = true) (hexists : op ≠ "$exists")
    (hnot : op ≠ "$not") (operand : Value) (found : Option Value) :
    testCondition (.object [(op, operand)]) found =
      match found with
      | none => .ok false
      | some v => meets op v operand := by
  have hall : ([(op, operand)].all fun field => isOperator field.1) = true := by simp [hop]
  have hrow : testOperators [(op, operand)] found =
      match found with
      | none => .ok false
      | some v => meets op v operand := by
    cases found with
    | none => rw [testOperators, if_neg hexists, if_neg hnot]; rfl
    | some v => rw [testOperators, if_neg hexists, if_neg hnot, testOperators, bind_true_false]
  rw [testCondition.eq_def]
  simp only [List.isEmpty_cons, Bool.false_eq_true, if_false, hall, if_true, hrow]

end Selector

/-! ## Leaves: the three families of operators -/

namespace Relation

/-- The selector operator of a relation. -/
def selectorOperator : Relation → String
  | .eq => "$eq"
  | .ne => "$ne"
  | .gt => "$gt"
  | .gte => "$gte"
  | .lt => "$lt"
  | .lte => "$lte"
  | .isIn => "$in"
  | .notIn => "$nin"
  | .contains | .startsWith | .endsWith => "$regex"

/-- The operand that goes with the selector operator of a relation. -/
def selectorOperand (relation : Relation) (operand : Value) : Value :=
  match relation, operand with
  | .isIn, v => .list v.asList
  | .notIn, v => .list v.asList
  | .contains, .text s => .text (String.ofList ((relation.pattern? s.toList).getD []))
  | .startsWith, .text s => .text (String.ofList ((relation.pattern? s.toList).getD []))
  | .endsWith, .text s => .text (String.ofList ((relation.pattern? s.toList).getD []))
  | _, v => v

end Relation

/-- What an operator and its operand come to in a selector, whatever the field is. -/
def Operator.applied (operator : Operator) (value : Value) : Except Failure (String × Value) :=
  match operator with
  | .known relation =>
    if relation.isTextual && !value.isText then .error (.query (.textRequired relation))
    else .ok (relation.selectorOperator, relation.selectorOperand value)
  | .other name => .ok (name, value)

namespace Relation

/-- A relation applies to an operand, unless it is one between texts and the operand is no text. -/
theorem applied_ok {relation : Relation} {operand : Value}
    (h : relation.isTextual = true → operand.isText = true) :
    (Operator.known relation).applied operand =
      .ok (relation.selectorOperator, relation.selectorOperand operand) := by
  refine if_neg fun hfault => ?_
  obtain ⟨ht, hoperand⟩ := Bool.and_eq_true_iff.1 hfault
  simp [h ht] at hoperand

/-- A relation between texts applies to texts alone. -/
theorem applied_error {relation : Relation} {operand : Value} (ht : relation.isTextual = true)
    (hoperand : operand.isText = false) :
    (Operator.known relation).applied operand = .error (.query (.textRequired relation)) :=
  if_pos (by rw [ht, hoperand]; rfl)

/-- Every selector operator looks at values. -/
theorem isOperator_selectorOperator (relation : Relation) :
    Selector.isOperator relation.selectorOperator = true ∧
      relation.selectorOperator ≠ "$exists" ∧ relation.selectorOperator ≠ "$not" := by
  cases relation <;> decide +kernel

/-- A text matches the pattern of a relation, and the store has no trouble in telling. -/
theorem matchesPattern_pattern {relation : Relation} (h : relation.isTextual = true) (v : Value)
    (operand : String) :
    Selector.matchesPattern v
        (.text (String.ofList ((relation.pattern? operand.toList).getD []))) =
      .ok (relation.holds v (.text operand)) := by
  have hread := read?_pattern relation operand.toList
  obtain ⟨cs, p, hcs, hp⟩ : ∃ cs p, relation.pattern? operand.toList = some cs ∧
      relation.tree? operand.toList = some p := by
    cases relation <;> simp_all [isTextual, pattern?, tree?]
  rw [hcs, hp, Option.bind_some] at hread
  cases v with
  | text s =>
    have hholds : relation.holds (.text s) (.text operand) = relation.matches s operand := by
      cases relation <;> first | rfl | exact absurd h (by decide)
    simp [Selector.matchesPattern, hholds, Relation.matches, hcs, hread]
  | _ => cases relation <;> first | rfl | exact absurd h (by decide)

/-- A value is among the elements of the list that an operand is put as when it is one of those that
    the operand names. -/
theorem isAmong_asList (v operand : Value) :
    Selector.isAmong v (.list operand.asList) = .ok (v.isOneOf operand) := by
  cases operand with
  | list items => rfl
  | tuple items => rfl
  | _ => exact congrArg Except.ok (Bool.or_false _)

/-- A value meets the selector operator of a relation when it is in the relation. -/
theorem meets_selectorOperator {relation : Relation} {operand : Value}
    (h : relation.isTextual = true → operand.isText = true) (v : Value) :
    Selector.meets relation.selectorOperator v (relation.selectorOperand operand) =
      .ok (relation.holds v operand) := by
  -- Only a relation between texts needs a text, so the operand is opened for these alone.
  by_cases ht : relation.isTextual = true
  · obtain ⟨s, rfl⟩ : ∃ s, operand = .text s := by
      have hop := h ht
      cases operand <;> simp_all [Value.isText]
    rw [← matchesPattern_pattern ht]
    cases relation <;> first | rfl | exact absurd ht (by decide)
  · cases relation with
    | isIn => simp [Selector.meets, selectorOperator, selectorOperand, holds, isAmong_asList]
    | notIn =>
      simp only [Selector.meets, selectorOperator, selectorOperand, holds, isAmong_asList]
      simp [Except.map]
    | _ => first | rfl | exact absurd rfl ht

/-- What a relation to an operand puts beside a field is met by a value that is there and in the
    relation. -/
theorem testCondition_selectorOperator {relation : Relation} {operand : Value}
    (h : relation.isTextual = true → operand.isText = true) (found : Option Value) :
    Selector.testCondition
        (.object [(relation.selectorOperator, relation.selectorOperand operand)]) found =
      .ok (found.any fun v => relation.holds v operand) := by
  obtain ⟨hlooks, hexists, hnot⟩ := relation.isOperator_selectorOperator
  rw [Selector.testCondition_operator hlooks hexists hnot]
  cases found with
  | none => rfl
  | some v => exact meets_selectorOperator h v

end Relation

namespace Condition

/-- What it takes for a condition to be plain. -/
theorem isPlain_iff (c : Condition) :
    c.isPlain = true ↔ ∃ path relation, c.field = .text path ∧ c.operator = .known relation ∧
      Selector.isCombinator path = false ∧ (relation.isTextual = true → c.value.isText = true) := by
  obtain ⟨field, value, operator, connector⟩ := c
  constructor
  · intro h
    cases field <;> cases operator <;> simp_all [isPlain]
    grind
  · rintro ⟨path, relation, rfl, rfl, hpath, htext⟩
    cases ht : relation.isTextual <;> simp_all [isPlain]

/-- A plain condition tests one path of a document, which no combinator is. -/
theorem storedField_of_isPlain {c : Condition} (h : c.isPlain = true) {idKey : String}
    (hid : Selector.isCombinator idKey = false) :
    ∃ path, c.storedField (.text idKey) = .text path ∧ Selector.isCombinator path = false := by
  obtain ⟨path, _, hfield, _, hpath, _⟩ := c.isPlain_iff.1 h
  by_cases hc : c.isIdentifier = true
  · exact ⟨idKey, by simp [storedField, hc], hid⟩
  · exact ⟨path, by simp [storedField, hc, hfield], hpath⟩

/-- What a condition says of its field does not depend on the field. -/
theorem fragment_eq (c : Condition) (idKey : Value) :
    c.fragment idKey = (c.operator.applied c.value).map fun applied =>
      fieldSelector (c.storedField idKey) applied.1 applied.2 := by
  obtain ⟨field, value, operator, connector⟩ := c
  cases operator with
  | other name => rfl
  | known relation =>
    cases relation with
    | contains | startsWith | endsWith => cases value <;> rfl
    | _ => rfl

/-- The selector of a plain condition is one operator on one path. -/
theorem fragment_of_isPlain {c : Condition} {relation : Relation}
    (hop : c.operator = .known relation)
    (htext : relation.isTextual = true → c.value.isText = true) (idKey : Value) :
    c.fragment idKey = .ok (fieldSelector (c.storedField idKey) relation.selectorOperator
      (relation.selectorOperand c.value)) := by
  rw [fragment_eq, hop, relation.applied_ok htext]
  rfl

/-- Whether its field can be a key changes nothing else about the selector of a condition. -/
theorem fragment_of_selector {c : Condition} {idKey selector : Value}
    (h : c.selector idKey = .ok selector) : c.fragment idKey = .ok selector := by
  rw [Condition.selector] at h
  split at h
  · cases hfragment : c.fragment idKey with
    | error e => rw [hfragment] at h; cases h
    | ok built =>
      rw [hfragment, keyed] at h
      split at h
      · exact h
      · cases h
  · cases h

/-- A condition with a known relation that has a selector puts the relation's operator beside its
    field, and if the relation is one between texts, its operand is a text. -/
theorem selector_of_known {c : Condition} {relation : Relation} (hop : c.operator = .known relation)
    {idKey selector : Value} (h : c.selector idKey = .ok selector) :
    (relation.isTextual = true → c.value.isText = true) ∧
      selector = fieldSelector (c.storedField idKey) relation.selectorOperator
        (relation.selectorOperand c.value) := by
  have hfragment := fragment_of_selector h
  have htext : relation.isTextual = true → c.value.isText = true := by
    intro ht
    cases hvalue : c.value.isText with
    | true => rfl
    | false =>
      rw [fragment_eq, hop, relation.applied_error ht hvalue] at hfragment
      cases hfragment
  refine ⟨htext, ?_⟩
  rw [fragment_of_isPlain hop htext] at hfragment
  exact (Except.ok.inj hfragment).symm

/-- **The leaf of the bridge.**  A plain condition has a selector, and evaluating it never fails and
    says whether the condition holds. -/
theorem selector_means {c : Condition} (h : c.isPlain = true) {idKey : String}
    (hid : Selector.isCombinator idKey = false) :
    ∃ s, c.selector (.text idKey) = .ok s ∧
      ∀ doc, Selector.test s doc = .ok (c.holds idKey doc) := by
  obtain ⟨name, relation, hfield, hop, _, htext⟩ := c.isPlain_iff.1 h
  obtain ⟨path, hstored, hpath⟩ := storedField_of_isPlain h hid
  refine ⟨fieldSelector (.text path) relation.selectorOperator (relation.selectorOperand c.value),
    ?_, fun doc => ?_⟩
  · rw [selector, if_pos (by rw [hfield]; rfl), fragment_of_isPlain hop htext, hstored]
    rfl
  · rw [fieldSelector, Value.single, Selector.test_field hpath,
      relation.testCondition_selectorOperator htext]
    simp [holds, hstored, hop]

end Condition

/-! ## The bridge -/

namespace Filter

/-- The selector of a group with members is that of its connector over theirs. -/
theorem selector_group (idKey : Value) (kind : Connector) (f : Filter) (rest : List Filter) :
    (group kind (f :: rest)).selector idKey =
      (selectors idKey (f :: rest)).map fun members =>
        .object [(kind.selectorKey, .list members)] := by
  simp only [selector, selectors]
  cases selector idKey f with
  | error e => rfl
  | ok s => cases selectors idKey rest <;> rfl

mutual

/-- **The bridge.**  A plain filter has a selector, and evaluating it never fails and says whether
    the filter holds. -/
theorem selector_means {idKey : String} (hid : Selector.isCombinator idKey = false) :
    ∀ f : Filter, f.isPlain = true →
      ∃ s, f.selector (.text idKey) = .ok s ∧ ∀ doc, Selector.test s doc = .ok (f.holds idKey doc)
  | .anything, _ => ⟨.object [], rfl, fun _ => rfl⟩
  | .test c, h => c.selector_means h hid
  | .group kind [], _ => ⟨.object [], rfl, fun _ => by cases kind <;> rfl⟩
  | .group kind (f :: rest), h => by
    obtain ⟨members, hmembers, hall, hsome⟩ := selectors_mean hid (f :: rest) h
    refine ⟨.object [(kind.selectorKey, .list members)], ?_, fun doc => ?_⟩
    · rw [selector_group, hmembers]
      rfl
    -- The members are the same for both connectors; they differ in how many have to hold.
    · cases kind with
      | and =>
        show Selector.test (.object [("$and", .list members)]) doc = _
        rw [Selector.test_and, hall, holds]
      | or =>
        show Selector.test (.object [("$or", .list members)]) doc = _
        rw [Selector.test_or, hsome, holds]
        rfl

/-- The bridge for the members of a group, of which all or some are to hold. -/
theorem selectors_mean {idKey : String} (hid : Selector.isCombinator idKey = false) :
    ∀ fs : List Filter, arePlain fs = true →
      ∃ members, selectors (.text idKey) fs = .ok members ∧
        (∀ doc, Selector.testAll members doc = .ok (allHold idKey fs doc)) ∧
        ∀ doc, Selector.testAny members doc = .ok (someHolds idKey fs doc)
  | [], _ => ⟨[], rfl, fun _ => rfl, fun _ => rfl⟩
  | f :: rest, h => by
    obtain ⟨hf, hrest⟩ := Bool.and_eq_true_iff.1 h
    obtain ⟨s, hs, htest⟩ := selector_means hid f hf
    obtain ⟨members, hmembers, hall, hsome⟩ := selectors_mean hid rest hrest
    refine ⟨s :: members, ?_, fun doc => ?_, fun doc => ?_⟩
    · simp only [selectors, hs, hmembers]
      rfl
    · rw [Selector.testAll, htest, hall, allHold]
      cases holds idKey f doc <;> rfl
    · rw [Selector.testAny, htest, hsome, someHolds]
      cases holds idKey f doc <;> rfl

end

end Filter

end DocStore
