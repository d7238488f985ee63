/-
  Which documents of a shared database belong to a model.

  A home has two ways to tell.  It narrows a selector to its own documents, and the store then looks
  the tag up as it looks up every field; or it is given a document and looks at the tag itself.

  1. **Narrowing** — a narrowed selector is met by what meets the selector and then the condition
     (`test_narrow`), whatever form the selector has.

  2. **Agreement** — `Agrees` says that the two ways tell the same of every document.  They do when
     the tag field names a field and nothing else (`agrees_of_plain`).

  3. **The exact condition** (`agrees_iff`) — they do *only* then.  In a selector a dot separates
     the parts of a path and four keys combine selectors, while a tag is written and read under the
     very text of its field.
-/
import DocStore.Proofs.Filter.Meaning
import DocStore.Proofs.Value.Equality
import DocStore.Proofs.Value.Path
import DocStore.Session.Basic

namespace DocStore

/-! ## Narrowing -/

namespace Selector

/-- Two rows of selectors are met one after the other. -/
theorem testAll_append (first second : List Value) (doc : Value) :
    testAll (first ++ second) doc =
      (testAll first doc >>= fun holds =>
        if holds = true then testAll second doc else pure false) := by
  induction first with
  | nil => rfl
  | cons s rest ih =>
    rw [List.cons_append, testAll, testAll, ih]
    cases test s doc with
    | error e => rfl
    | ok b => cases b <;> rfl

/-- A selector that gives an answer can be narrowed: what does not meet it is out, and what does has
    to meet the condition. -/
theorem test_narrow {selector doc : Value} {answer : Bool} (h : test selector doc = .ok answer)
    (condition : Value) :
    test (selector.narrow condition) doc = if answer =
      true then test condition doc else .ok false := by
  have hjoin : ∀ members : List Value, testAll members doc = .ok answer →
      test (.object [("$and", .list (members ++ [condition]))]) doc =
        if answer = true then test condition doc else .ok false := by
    intro members hmembers
    rw [test_and, testAll_append, hmembers, testAll_singleton]
    rfl
  have hwrap : test (.object [("$and", .list [selector, condition])]) doc =
      if answer = true then test condition doc else .ok false :=
    hjoin [selector] (by rw [testAll_singleton, h])
  unfold Value.narrow
  split
  · split
    · rename_i members _
      exact hjoin members (by rw [← test_and, h])
    · exact hwrap
  · -- Of what says nothing only the empty object is a selector, and everything meets that.
    rename_i hfalsy
    cases selector with
    | object fields =>
      obtain rfl : fields = [] := by simpa [Value.truthy] using hfalsy
      obtain rfl : true = answer := by simpa [test, testFields] using h
      rfl
    | _ => exact absurd h (by simp [test])

/-- Whatever a narrowed selector is, what meets it meets the condition. -/
theorem test_of_test_narrow {selector condition doc : Value}
    (h : test (selector.narrow condition) doc = .ok true) : test condition doc = .ok true := by
  have hjoin : ∀ members : List Value,
      test (.object [("$and", .list (members ++ [condition]))]) doc = .ok true →
      test condition doc = .ok true := by
    intro members hmembers
    rw [test_and, testAll_append, testAll_singleton] at hmembers
    cases hfirst : testAll members doc with
    | error e => rw [hfirst] at hmembers; cases hmembers
    | ok holds =>
      rw [hfirst] at hmembers
      cases holds with
      | false => cases hmembers
      | true => exact hmembers
  unfold Value.narrow at h
  split at h
  · split at h
    · exact hjoin _ h
    · exact hjoin [selector] h
  · exact h

end Selector

/-! ## Agreement -/

/-- To a text, equality in selectors and equality of content come to the same. -/
theorem Value.equals_text (v : Value) (s : String) : v.equals (.text s) = v.same (.text s) := by
  cases hsame : v.same (.text s) with
  | false => simp [Value.equals, hsame]
  | true =>
    obtain rfl := Entries.same_text_iff.1 hsame
    simp [Value.equals, Value.collate, Value.order?, Std.ReflOrd.compare_self, hsame]

/-- So they do from a text. -/
theorem Value.text_equals (s : String) (v : Value) :
    (Value.text s).equals v = (Value.text s).same v := by
  cases v with
  | text t => exact Value.equals_text _ t
  | _ => rfl

/-- A selector that wants a text in a field that is no path and combines nothing looks at the field
    alone. -/
theorem Selector.test_tag {field : String} (hdot : '.' ∉ field.toList)
    (hkey : isCombinator field = false) (tag : String) (document : Object) :
    test (.object [(field, .text tag)]) (.object document) =
      .ok ((Object.get? document field).any fun v => v.same (.text tag)) := by
  rw [test_field hkey, Value.at?_object hdot]
  simp only [testCondition, Value.equals_text]

namespace Home

/-- Whether the two ways of telling the model's own documents agree: a document is selected by a
    narrowed selector just when it is selected by the selector itself and is the model's own. -/
def Agrees (home : Home) : Prop :=
  ∀ (selector : Value) (document : Object) (answer : Bool),
    Selector.test selector (.object document) = .ok answer →
      (Selector.test (home.scope selector) (.object document) = .ok true ↔
        answer = true ∧ home.owns (.object document) = .ok true)

variable {database : Value} {field : String}

/-- A document is the model's own when it carries the model as its tag. -/
theorem owns_eq (model : String) (document : Object) :
    owns ⟨database, .text model, some field⟩ (.object document) =
      .ok ((Object.get? document field).any fun v => v.same (.text model)) := by
  show Except.ok (Value.same (Object.getD document field) (.text model)) = _
  rw [Object.getD]
  cases Object.get? document field <;> rfl

/-- A field that is no path and combines nothing is looked up by a selector as it is by its text. -/
theorem agrees_of_plain (hdot : '.' ∉ field.toList) (hkey : Selector.isCombinator field = false)
    (model : String) : Agrees ⟨database, .text model, some field⟩ := by
  intro selector document answer htest
  rw [owns_eq]
  show Selector.test (selector.narrow (.object [(field, .text model)])) _ = _ ↔ _
  rw [Selector.test_narrow htest, Selector.test_tag hdot hkey]
  cases answer <;> simp

/-- A home whose tag field, if it has one, names a field and nothing else tells its documents in one
    way. -/
theorem agrees_of_separate {home : Home} (hmodel : ∃ model, home.model = .text model)
    (htag : ∀ field, home.tagField = some field →
      '.' ∉ field.toList ∧ Selector.isCombinator field = false) :
    home.Agrees := by
  obtain ⟨database, _, tagField⟩ := home
  obtain ⟨model, rfl⟩ := hmodel
  cases tagField with
  | some field => exact agrees_of_plain (htag field rfl).1 (htag field rfl).2 model
  | none =>
    intro selector document answer htest
    show Selector.test selector _ = _ ↔ answer = true ∧ Except.ok true = _
    rw [htest]
    simp

/-- What a selector narrowed to such a home accepts is the model's own, whatever the selector is. -/
theorem owns_of_test_scope {home : Home} (hagrees : home.Agrees) {selector : Value}
    {document : Object} (h : Selector.test (home.scope selector) (.object document) = .ok true) :
    home.owns (.object document) = .ok true := by
  refine ((hagrees (.object []) document true rfl).1 ?_).2
  rw [scope] at h ⊢
  cases htag : home.tagField with
  | none => rfl
  | some field =>
    rw [htag] at h
    exact Selector.test_of_test_narrow h

/-! ## The exact condition -/

/-- The document that carries nothing but a tag is the model's own. -/
theorem owns_tagged (model : String) :
    owns ⟨database, .text model, some field⟩ (.object [(field, .text model)]) = .ok true := by
  rw [owns_eq]
  simp [Object.get?, Value.same]

/-- A selector that wants a tag under a dotted field does not find the one that is there. -/
theorem test_tag_of_dot (hdot : '.' ∈ field.toList) (hkey : Selector.isCombinator field = false)
    (model : String) :
    Selector.test (.object [(field, .text model)]) (.object [(field, .text model)]) =
      .ok false := by
  obtain ⟨part, rest, hparts, hne⟩ := exists_pathParts_of_mem hdot
  have hat : (Value.object [(field, .text model)]).at? field = none := by
    rw [Value.at?, hparts, Value.follow, Value.field?]
    simp [Object.get?, Ne.symm hne]
  rw [Selector.test_field hkey, hat]
  simp [Selector.testCondition]

/-- A selector that wants a text under a key that combines selectors fails. -/
theorem test_tag_of_combinator (hkey : Selector.isCombinator field = true) (doc : Value) :
    Selector.test (.object [(field, .text "model")]) doc = .error .notObject := by
  simp only [Selector.isCombinator, Bool.or_eq_true, decide_eq_true_eq] at hkey
  rcases hkey with ((rfl | rfl) | rfl) | rfl <;> rfl

/-- **When selecting and looking agree.**  In a shared database the two ways of telling a model's
    own documents agree, for every model, selector and document, exactly when the tag field has no
    dot in it and is none of the keys that combine selectors. -/
theorem agrees_iff (database : Value) (field : String) :
    (∀ model : String, Agrees ⟨database, .text model, some field⟩) ↔
      '.' ∉ field.toList ∧ Selector.isCombinator field = false := by
  constructor
  · intro h
    -- The document that carries a tag and nothing else, and the selector that accepts everything.
    have hselected : Selector.test (.object [(field, .text "model")])
        (.object [(field, .text "model")]) = .ok true :=
      (h "model" (.object []) [(field, .text "model")] true rfl).2 ⟨rfl, owns_tagged "model"⟩
    have hkey : Selector.isCombinator field = false := by
      rw [← Bool.not_eq_true]
      intro hkey
      rw [test_tag_of_combinator hkey] at hselected
      exact absurd hselected (by simp)
    refine ⟨fun hdot => ?_, hkey⟩
    rw [test_tag_of_dot hdot hkey] at hselected
    exact absurd hselected (by simp)
  · rintro ⟨hdot, hkey⟩ model
    exact agrees_of_plain hdot hkey model

/-- Under a dotted tag field a document that is the model's own is not among those selected for
    it. -/
theorem not_agrees_dotted :
    ∃ home : Home, home = ⟨.text "app_auth", .text "user", some "meta.kind"⟩ ∧
      Selector.test (.object []) (.object [("_id", .text "1"), ("meta.kind", .text "user")]) =
        .ok true ∧
      home.owns (.object [("_id", .text "1"), ("meta.kind", .text "user")]) = .ok true ∧
      Selector.test (home.scope (.object []))
        (.object [("_id", .text "1"), ("meta.kind", .text "user")]) = .ok false ∧
      ¬ home.Agrees := by
  have htest : Selector.test (scope ⟨.text "app_auth", .text "user", some "meta.kind"⟩ (.object []))
      (.object [("_id", .text "1"), ("meta.kind", .text "user")]) = .ok false := by
    rfl
  refine ⟨_, rfl, rfl, rfl, htest, fun h => ?_⟩
  have hselected := (h (.object []) [("_id", .text "1"), ("meta.kind", .text "user")] true rfl).2
    ⟨rfl, rfl⟩
  rw [htest] at hselected
  exact absurd hselected (by simp)

end Home

end DocStore
