/-
  Paths and nested selectors.

  A field inside other fields can be asked for in two ways.  A dotted key names the whole path, and
  the store follows it in one walk; or one selector stands inside the other, level by level, and the
  store evaluates each for the value that the level above has found:

      { "profile.home.city": { "$eq": "London" } }
      { "profile": { "home": { "city": { "$eq": "London" } } } }

  The walk ends with nothing as soon as a value is absent or no object.  The nested selectors say no
  at that level, without ever looking at the condition inside.

  1. **One level** — what stands beside a key that is not written as an operator is a selector for
     the value there.  An object is tested against it (`testCondition_object`); anything else does
     not meet it, and neither does what is absent (`testCondition_broken`).

  2. **All levels** — if a condition is not met where nothing is found, nested selectors are that
     condition on the value at the end of all their keys, which may be paths themselves
     (`test_nested`).

  3. **One path for all levels** — asking by one path for all the keys comes to the same *only*
     then, unless there is a single key (`nested_alike_iff`).  That a value is absent can be asked
     for by a path, but not by nested selectors.

  4. **Compiled conditions** — what a known relation puts beside its field is not met where nothing
     is found.  So both ways give an answer for every document, and the same one, whatever the path
     breaks off at (`nested_selects_alike`).
-/
import DocStore.Proofs.Filter.Meaning
import DocStore.Proofs.Value.Path

namespace DocStore

namespace Selector

/-- Selectors for the given keys, one inside the other, around a condition. -/
def nested : List String → Value → Value
  | [], condition => condition
  | key :: rest, condition => .object [(key, nested rest condition)]

variable {key : String} {keys : List String} {condition : Value}

theorem isOperator_eq_false_iff : isOperator key = false ↔ key.toList.head? ≠ some '$' := by
  unfold isOperator
  cases key.toList with
  | nil => simp
  | cons c cs => by_cases hc : c = '$' <;> simp [hc]

/-- What is not written as an operator combines nothing. -/
theorem isCombinator_of_isOperator (h : isOperator key = false) : isCombinator key = false := by
  have hne : ∀ op, isOperator op = true → key ≠ op := by
    rintro op hop rfl
    exact absurd (h.symm.trans hop) (by decide)
  simp [isCombinator, hne "$and" (by decide +kernel), hne "$or" (by decide +kernel),
    hne "$nor" (by decide +kernel), hne "$not" (by decide +kernel)]

/-! ## One level -/

/-- An object is tested against the selector that stands beside its field. -/
theorem testCondition_object (h : isOperator key = false) (condition : Value) (inner : Object) :
    testCondition (.object [(key, condition)]) (some (.object inner)) =
      test (.object [(key, condition)]) (.object inner) := by
  rw [testCondition.eq_def]
  simp [h, test]

/-- What is absent or no object does not meet it. -/
theorem testCondition_broken (h : isOperator key = false) (condition : Value) {found : Option Value}
    (hfound : ∀ fields, found ≠ some (.object fields)) :
    testCondition (.object [(key, condition)]) found = .ok false := by
  cases found with
  | none => simp [testCondition, h]
  | some v =>
    cases v with
    | object fields => exact absurd rfl (hfound fields)
    | _ => simp [testCondition, h]

/-! ## All levels -/

/-- **Nested selectors** around a condition that is not met where nothing is found are that
    condition on what is found at the end of all their keys. -/
theorem test_nested (hquiet : testCondition condition none = .ok false) (hne : keys ≠ [])
    (hkeys : ∀ key ∈ keys, isOperator key = false) (doc : Value) :
    test (nested keys condition) doc =
      testCondition condition (doc.follow (keys.flatMap pathParts)) := by
  induction keys generalizing doc with
  | nil => exact absurd rfl hne
  | cons key rest ih =>
    obtain ⟨hkey, hrest⟩ := List.forall_mem_cons.1 hkeys
    rw [nested, test_field (isCombinator_of_isOperator hkey)]
    cases rest with
    | nil =>
      rw [List.flatMap_singleton]
      rfl
    | cons next rest =>
      obtain ⟨hnext, -⟩ := List.forall_mem_cons.1 hrest
      rw [List.flatMap_cons]
      by_cases hobject : ∃ fields, doc.at? key = some (.object fields)
      · -- The walk goes on from an object, as the selector inside does.
        obtain ⟨fields, hfields⟩ := hobject
        have hinner : testCondition (nested (next :: rest) condition) (some (.object fields)) =
            test (nested (next :: rest) condition) (.object fields) :=
          testCondition_object hnext _ fields
        rw [Value.follow_append, ← Value.at?, hfields, hinner, ih (List.cons_ne_nil _ _) hrest]
        rfl
      · -- The walk ends here, and so does the evaluation.
        have hbroken : ∀ fields, doc.at? key ≠ some (.object fields) :=
          fun fields hfields => hobject ⟨fields, hfields⟩
        have hmore : (next :: rest).flatMap pathParts ≠ [] := by simp [pathParts_ne_nil]
        rw [Value.follow_broken hbroken hmore, hquiet]
        exact testCondition_broken hnext _ hbroken

/-! ## One path for all levels -/

/-- Paths that are put together are written as no operator if the first of them is not. -/
theorem isOperator_dotted (h : isOperator key = false) (rest : List String) :
    isOperator (dotted (key :: rest)) = false := by
  cases rest with
  | nil => rwa [dotted, String.intercalate_singleton]
  | cons next rest =>
    rw [isOperator_eq_false_iff] at h ⊢
    rw [dotted, String.intercalate_cons_cons, String.toList_append, String.toList_append,
      List.append_assoc, List.head?_append]
    -- Behind an empty key the path begins with a dot.
    cases hfirst : key.toList.head? with
    | none => simp
    | some c => rwa [hfirst] at h

/-- A path is followed to its end, and the condition looks at what is there. -/
theorem test_dotted (hne : keys ≠ []) (hkeys : ∀ key ∈ keys, isOperator key = false)
    (condition doc : Value) :
    test (.object [(dotted keys, condition)]) doc =
      testCondition condition (doc.follow (keys.flatMap pathParts)) := by
  have hkey : isOperator (dotted keys) = false := by
    cases keys with
    | nil => exact absurd rfl hne
    | cons key rest => exact isOperator_dotted (hkeys key List.mem_cons_self) rest
  rw [test_field (isCombinator_of_isOperator hkey), Value.at?, pathParts_dotted hne]

/-- **The exact condition.**  Nested selectors and one path for all their keys give the same answer
    for every document, exactly if there is a single key or the condition is not met where nothing
    is found. -/
theorem nested_alike_iff (hne : keys ≠ []) (hkeys : ∀ key ∈ keys, isOperator key = false) :
    (∀ doc, test (nested keys condition) doc = test (.object [(dotted keys, condition)]) doc) ↔
      keys.length = 1 ∨ testCondition condition none = .ok false := by
  constructor
  · intro halike
    cases keys with
    | nil => exact absurd rfl hne
    | cons key rest =>
      cases rest with
      | nil => exact .inl rfl
      | cons next rest =>
        right
        obtain ⟨hkey, hrest⟩ := List.forall_mem_cons.1 hkeys
        obtain ⟨hnext, -⟩ := List.forall_mem_cons.1 hrest
        -- A document without fields has no value for the first key already.
        have hnone : (Value.object []).at? key = none := by
          obtain ⟨part, more, hparts⟩ := List.exists_cons_of_ne_nil (pathParts_ne_nil key)
          rw [Value.at?, hparts]
          rfl
        have hnested : test (nested (key :: next :: rest) condition) (.object []) = .ok false := by
          rw [nested, test_field (isCombinator_of_isOperator hkey), hnone]
          exact testCondition_broken hnext _ (by simp)
        have hdotted : test (.object [(dotted (key :: next :: rest), condition)]) (.object []) =
            testCondition condition none := by
          rw [test_dotted hne hkeys, List.flatMap_cons, Value.follow_append, ← Value.at?, hnone]
          rfl
        rw [← hdotted, ← halike, hnested]
  · rintro (hsingle | hquiet) doc
    · obtain ⟨key, rfl⟩ := List.length_eq_one_iff.1 hsingle
      rw [dotted, String.intercalate_singleton]
      rfl
    · rw [test_nested hquiet hne hkeys, test_dotted hne hkeys]

/-- That a value is absent is found by the path, and not by nested selectors. -/
example :
    let absent : Value := .object [("$exists", .bool false)]
    test (.object [("home.city", absent)]) (.object []) = .ok true ∧
      test (nested ["home", "city"] absent) (.object []) = .ok false :=
  ⟨rfl, rfl⟩

/-! ## Compiled conditions -/

/-- **A path or nested selectors.**  Let the selector of a condition with a known relation put
    something beside its field.  The same may be put beside a path of parts that have no dot in them
    and are not written as operators, or inside selectors for these parts, nested one in the other.
    Both give an answer for every document, and the same one: whether there is a value at the end of
    the path that is in the relation to the operand.  Where the path breaks off on the way, at what
    is absent or no object, the answer is no. -/
theorem nested_selects_alike {c : Condition} {relation : Relation}
    (hknown : c.operator = .known relation) {idKey selector : Value}
    (hselector : c.selector idKey = .ok selector) :
    ∃ fragment, selector = .single (c.storedField idKey) fragment ∧
      ∀ path : List String, path ≠ [] →
        (∀ part ∈ path, '.' ∉ part.toList ∧ isOperator part = false) → ∀ doc : Value, ∃ answer,
          test (.object [(dotted path, fragment)]) doc = .ok answer ∧
            test (nested path fragment) doc = .ok answer ∧
            (answer = true ↔ ∃ v, doc.follow path = some v ∧ relation.holds v c.value = true) ∧
            ∀ front behind, path = front ++ behind → behind ≠ [] →
              (∀ fields, doc.follow front ≠ some (.object fields)) → answer = false := by
  obtain ⟨htext, hsingle⟩ := Condition.selector_of_known hknown hselector
  have hmeets := relation.testCondition_selectorOperator htext
  refine ⟨_, hsingle, ?_⟩
  intro path hne hparts doc
  have hkeys : ∀ part ∈ path, isOperator part = false := fun part hpart => (hparts part hpart).2
  have hflat : path.flatMap pathParts = path :=
    flatMap_pathParts fun part hpart => (hparts part hpart).1
  refine ⟨(doc.follow path).any fun v => relation.holds v c.value, ?_, ?_, ?_, ?_⟩
  · rw [test_dotted hne hkeys, hflat, hmeets]
  · rw [test_nested (hmeets none) hne hkeys, hflat, hmeets]
  · exact Option.any_eq_true _ _
  · rintro front behind rfl hbehind hbroken
    rw [Value.follow_broken hbroken hbehind]
    rfl

/-- A city below two levels is found both ways, and neither way in a list of homes or without a
    profile. -/
theorem nested_selects_alike_city :
    let c : Condition := ⟨.text "city", .text "Lon", .known .startsWith, .and⟩
    let fragment : Value := .object [("$regex", .text "^Lon.*")]
    let path := ["profile", "home", "city"]
    let homes (found : Value) : Value := .object [("profile", .object [("home", found)])]
    let london : Value := .object [("city", .text "London")]
    c.operator = .known .startsWith ∧ c.selector (.text "_id") =
        .ok (.object [("city", fragment)]) ∧
      path ≠ [] ∧ (∀ part ∈ path, '.' ∉ part.toList ∧ isOperator part = false) ∧
      test (.object [("profile.home.city", fragment)]) (homes london) = .ok true ∧
      test (nested path fragment) (homes london) = .ok true ∧
      test (.object [("profile.home.city", fragment)]) (homes (.list [london])) = .ok false ∧
      test (nested path fragment) (homes (.list [london])) = .ok false ∧
      test (.object [("profile.home.city", fragment)]) (.object [("profile", .null)]) = .ok false ∧
      test (nested path fragment) (.object [("profile", .null)]) = .ok false := by
  intro c fragment path homes london
  have hknown : c.operator = .known .startsWith := rfl
  have hselector : c.selector (.text "_id") = .ok (.object [("city", fragment)]) := rfl
  have hne : path ≠ [] := by decide
  have hparts : ∀ part ∈ path, '.' ∉ part.toList ∧ isOperator part = false := by decide +kernel
  have hpath : dotted path = "profile.home.city" := rfl
  obtain ⟨built, hbuilt, halike⟩ := nested_selects_alike hknown hselector
  obtain rfl : built = fragment := by
    have hobject : Value.object [("city", fragment)] = .object [("city", built)] := hbuilt
    simpa using hobject.symm
  have halike := halike path hne hparts
  rw [hpath] at halike
  obtain ⟨found, hdotted, hnested, hmeans, -⟩ := halike (homes london)
  obtain rfl : found = true := hmeans.2 ⟨.text "London", rfl, by decide +kernel⟩
  -- The walk breaks off behind the second part, and behind the first.
  obtain ⟨listed, hdotted₁, hnested₁, -, hbroken⟩ := halike (homes (.list [london]))
  obtain rfl : listed = false :=
    hbroken ["profile", "home"] ["city"] rfl (by decide) fun fields h => nomatch Option.some.inj h
  obtain ⟨absent, hdotted₂, hnested₂, -, hbroken⟩ := halike (.object [("profile", .null)])
  obtain rfl : absent = false :=
    hbroken ["profile"] ["home", "city"] rfl (by decide) fun fields h => nomatch Option.some.inj h
  exact ⟨hknown, hselector, hne, hparts, hdotted, hnested, hdotted₁, hnested₁, hdotted₂, hnested₂⟩

end Selector

end DocStore
