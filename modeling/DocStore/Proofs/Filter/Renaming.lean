/-
  Filters under other names.

  A schema that renames fields renames those of a document going in and those of a filter, and the
  filter then accepts the document just when it did before.  The crux is the leaf: a condition looks
  at one field, and that has the same value under its stored name, unless another field has come to
  that name.

  1. **Operators** — what a condition says of its field does not depend on the field
     (`fragment_eq`), so it is only the lookup that matters (`alike_test`).

  2. **The tree** — renaming keeps a filter as it is but for its leaves, if no group of it holds a
     null: that accepts everything, and is left out when names are given (`alike_rename`).

  3. **The square** (`renaming_transparent`) — renaming a document and a filter changes no answer,
     failures included, when the names in play stay apart and each is that of a field of its own.
-/
import DocStore.Proofs.Document.Renaming
import DocStore.Proofs.Filter.Alike
import DocStore.Proofs.Session.Home
import DocStore.Proofs.Session.Ownership
import Mathlib.Data.Set.Function

namespace DocStore

open Selector

/-! ## Operators -/

namespace Condition

/-- The selector of a condition on a field that is no identifier. -/
theorem selector_eq {c : Condition} {name : String} (hfield : c.field = .text name)
    (hid : c.isIdentifier = false) (idKey : Value) :
    c.selector idKey = (c.operator.applied c.value).map fun applied =>
      .object [(name, .object [(applied.1, applied.2)])] := by
  have hstored : c.storedField idKey = .text name := by rw [storedField, hid, hfield]; rfl
  rw [selector, if_pos (by rw [hfield]; rfl), fragment_eq, hstored]
  cases c.operator.applied c.value <;> rfl

end Condition

/-- Whether a name is that of a field of its own: it is no path, combines nothing, and is not the
    identifier. -/
def IsFieldName (name : String) : Prop :=
  '.' ∉ name.toList ∧ isCombinator name = false ∧ isIdentifierField (.text name) = false

/-- What stands under such a name is found by it. -/
theorem IsFieldName.at?_eq {name : String} (h : IsFieldName name) (doc : Object) :
    (Value.object doc).at? name = Object.get? doc name :=
  Value.at?_object h.1 doc

namespace Filter

variable {doc doc' : Object} {idKey : Value} {σ : String → String} {rename : Value → Value}

/-- A document has under other names what another has under its own. -/
def Carries (σ : String → String) (doc doc' : Object) (name : String) : Prop :=
  IsFieldName name ∧ IsFieldName (σ name) ∧ Object.get? doc' (σ name) = Object.get? doc name

/-- **A condition under another name** looks at the same value. -/
theorem alike_test (hrename : ∀ name, rename (.text name) = .text (σ name))
    {c : Condition} {name : String} (hfield : c.field = .text name) (h : Carries σ doc doc' name) :
    Alike (.object doc) (.object doc') ((test c).selector idKey)
      (((test c).rename rename).selector idKey) := by
  obtain ⟨hname, hother, hget⟩ := h
  have hid : c.isIdentifier = false := by rw [Condition.isIdentifier, hfield]; exact hname.2.2
  have hrenamed : (test c).rename rename = test { c with field := .text (σ name) } := by
    rw [Filter.rename, if_neg (by rw [hid]; exact Bool.false_ne_true), hfield, hrename]
  rw [hrenamed, selector, selector, Condition.selector_eq hfield hid,
    Condition.selector_eq (c := { c with field := .text (σ name) }) rfl hother.2.2]
  cases c.operator.applied c.value with
  | error e => exact .failed e
  | ok applied =>
    refine .built ?_
    rw [test_field hname.2.1, test_field hother.2.1, hname.at?_eq, hother.at?_eq, hget]

/-! ## The tree -/

mutual

/-- Whether no group of a filter holds a null. -/
def isFilled : Filter → Bool
  | .group _ members => areFilled members
  | _ => true

/-- Whether all filters of a row are there, and no group of theirs holds a null. -/
def areFilled : List Filter → Bool
  | [] => true
  | f :: rest => !f.isAnything && isFilled f && areFilled rest

end

/-- A member that is not null stays when names are given. -/
theorem renameMembers_cons {f : Filter} (h : f.isAnything = false) (rest : List Filter) :
    renameMembers rename (f :: rest) = f.rename rename :: renameMembers rename rest := by
  cases f with
  | anything => cases h
  | _ => rfl

mutual

/-- **A filter under other names** answers of a document that has them what it answered before. -/
theorem alike_rename (hrename : ∀ name, rename (.text name) = .text (σ name)) :
    ∀ f : Filter, f.isFilled = true →
      (∀ c ∈ f.leaves, ∃ name, c.field = .text name ∧ Carries σ doc doc' name) →
      Alike (.object doc) (.object doc') (f.selector idKey) ((f.rename rename).selector idKey)
  | .anything, _, _ => .built rfl
  | .test c, _, hleaves => by
    obtain ⟨name, hfield, hcarries⟩ := hleaves c (List.mem_singleton.2 rfl)
    exact alike_test hrename hfield hcarries
  | .group kind members, hfilled, hleaves => by
    obtain ⟨hempty, hrows⟩ := rowsAlike_rename hrename members hfilled hleaves
    exact alike_group kind hempty hrows
  | .stray _, _, _ => .failed _

/-- The members of a group under other names; none is lost. -/
theorem rowsAlike_rename (hrename : ∀ name, rename (.text name) = .text (σ name)) :
    ∀ fs : List Filter, areFilled fs = true →
      (∀ c ∈ leavesOf fs, ∃ name, c.field = .text name ∧ Carries σ doc doc' name) →
      (fs = [] ↔ renameMembers rename fs = []) ∧
        RowsAlike (.object doc) (.object doc') (selectors idKey fs)
          (selectors idKey (renameMembers rename fs))
  | [], _, _ => ⟨iff_of_true rfl rfl, .built rfl rfl⟩
  | f :: rest, hfilled, hleaves => by
    rw [areFilled, Bool.and_eq_true, Bool.and_eq_true, Bool.not_eq_true'] at hfilled
    obtain ⟨⟨hthere, hf⟩, hrest⟩ := hfilled
    obtain ⟨-, hrows⟩ := rowsAlike_rename hrename rest hrest fun c hc =>
      hleaves c (List.mem_append_right _ hc)
    rw [renameMembers_cons hthere]
    refine ⟨iff_of_false (List.cons_ne_nil _ _) (List.cons_ne_nil _ _), rowsAlike_cons ?_ hrows⟩
    exact alike_rename hrename f hf fun c hc => hleaves c (List.mem_append_left _ hc)

end

end Filter

/-! ## The square -/

namespace Schema

variable {schema : Schema} {models : Names} {tables : Entries Names} {model : Value}

/-- The stored name of a field as a text. -/
def storedName (schema : Schema) (model : Value) (name : String) : String :=
  (schema.fieldName model (.text name)).written

/-- Under a schema whose names are texts every field has a text for its stored name. -/
theorem fieldName_text (h : schema.isTyped = true) (model : Value) (name : String) :
    schema.fieldName model (.text name) = .text (schema.storedName model name) := by
  have htable := fieldNames_areTexts h model
  rw [Names.areTexts, List.all_eq_true] at htable
  obtain ⟨stored, hstored⟩ := Entries.isText_iff.1 (Names.rename_isText
    (fun entry hentry => (Bool.and_eq_true_iff.1 (htable entry hentry)).2) name)
  rw [storedName, fieldName, hstored]
  rfl

/-- Of a document without nulls nothing is left out. -/
theorem populated_eq {o : Object} (h : ∀ field ∈ o, field.2.isNull = false) : o.populated = o :=
  List.filter_eq_self.2 fun field hfield => by rw [h field hfield]; rfl

/-- The names in play when a filter looks at a document. -/
def Plays (f : Filter) (doc : Object) : Set String :=
  {name | name ∈ doc.keys ∨ ∃ c ∈ f.leaves, c.field = .text name}

/-- **Renaming is transparent to filtering.**  Take a document without nulls and a filter, in
    whatever form it is given, without nulls in its groups, and let the names in play keep apart
    under their stored names, those the filter looks at being names of fields, here and in the
    store.  Then both can be renamed, and the renamed filter says of the renamed document what the
    filter said of the document: yes, no, or how it fails. -/
theorem renaming_transparent (hschema : schema = .renaming models tables)
    (htyped : schema.isTyped = true) {doc : Object} (hnodup : doc.keys.Nodup)
    (hpopulated : ∀ field ∈ doc, field.2.isNull = false) {filter : Value} {f : Filter}
    (hread : Filter.ofValue filter = .ok f) (hfilled : f.isFilled = true)
    (hapart : Set.InjOn (schema.storedName model) (Plays f doc))
      (hnames : ∀ c ∈ f.leaves, ∃ name, c.field = .text name ∧ IsFieldName name ∧
      IsFieldName (schema.storedName model name)) (idKey : Value) :
    ∃ stored f', schema.stored model (.ofObject doc) = .ok stored ∧
      schema.filter model filter = .ok f' ∧
      f'.answer idKey (.object stored) = f.answer idKey (.object doc) := by
  have hrename := fieldName_text htyped model
  refine ⟨doc.rename (schema.storedName model), f.rename (schema.fieldName model), ?_, ?_, ?_⟩
  · rw [stored_rename hschema hrename, populated_eq hpopulated]
  · have hkeys : (f.leaves.all fun c => c.field.isKey) = true := by
      rw [List.all_eq_true]
      intro c hc
      obtain ⟨name, hfield, -⟩ := hnames c hc
      rw [hfield]
      rfl
    subst hschema
    rw [Schema.filter, hread]
    exact if_pos hkeys
  · refine (Alike.answer_eq (Filter.alike_rename hrename f hfilled fun c hc => ?_)).symm
    obtain ⟨name, hfield, hname, hother⟩ := hnames c hc
    refine ⟨name, hfield, hname, hother, Object.get?_rename_of_inj hnodup fun k hk hsame => ?_⟩
    exact hapart (.inl hk) (.inr ⟨c, hc, hfield⟩) hsame

/-- Two names may change places: in the store a person's home is kept as the work and the work as
    the home, and whoever was found by either still is. -/
theorem renaming_transparent_swapped :
    let schema : Schema :=
      .renaming [] [(.text "user", [(.text "home", .text "work"), (.text "work", .text "home")])]
    let filter : Value := .group .or [.condition (.text "home") (.text "Oslo") (.known .eq) .and,
      .group .and [.condition (.text "work") (.list [.text "Oslo", .text "Rome"])
        (.known .isIn) .and, .group .and []]]
    ∃ stored f', schema.stored (.text "user")
          (.ofObject [("home", .text "Bonn"), ("work", .text "Rome")]) = .ok stored ∧
      schema.filter (.text "user") filter = .ok f' ∧
      f'.answer (.text "_id") (.object stored) = .ok true := by
  intro schema filter
  have hhome : schema.storedName (.text "user") "home" = "work" := by decide +kernel
  have hwork : schema.storedName (.text "user") "work" = "home" := by decide +kernel
  have hname : ∀ name, name = "home" ∨ name = "work" →
      IsFieldName name ∧ IsFieldName (schema.storedName (.text "user") name) := by
    rintro _ (rfl | rfl)
    · rw [hhome]
      exact ⟨⟨by decide, by decide, by decide⟩, by decide, by decide, by decide⟩
    · rw [hwork]
      exact ⟨⟨by decide, by decide, by decide⟩, by decide, by decide, by decide⟩
  have hapart :
      Set.InjOn (schema.storedName (.text "user")) {name | name = "home" ∨ name = "work"} := by
    rintro _ (rfl | rfl) _ (rfl | rfl) hsame
    · rfl
    · rw [hhome, hwork] at hsame
      exact absurd hsame (by decide)
    · rw [hhome, hwork] at hsame
      exact absurd hsame (by decide)
    · rfl
  -- The leaves of the filter are its two conditions, one on each name.
  have hleaves : ∀ c ∈ [(⟨.text "home", .text "Oslo", .known .eq, .and⟩ : Condition),
      ⟨.text "work", .list [.text "Oslo", .text "Rome"], .known .isIn, .and⟩],
      ∃ name, c.field = .text name ∧ (name = "home" ∨ name = "work") := by
    intro c hc
    rcases List.mem_pair.1 hc with rfl | rfl
    · exact ⟨"home", rfl, .inl rfl⟩
    · exact ⟨"work", rfl, .inr rfl⟩
  obtain ⟨stored, f', hstored, hfilter, hanswer⟩ := renaming_transparent
    (show schema = .renaming _ _ from rfl) rfl
    (show (Object.keys [("home", .text "Bonn"), ("work", .text "Rome")]).Nodup by decide)
    (by simp [Value.isNull]) (show Filter.ofValue filter = .ok _ from rfl) rfl
    (hapart.mono (by
      rintro name (hkey | ⟨c, hc, hfield⟩)
      · exact List.mem_pair.1 hkey
      · obtain ⟨name', hfield', hname'⟩ := hleaves c hc
        obtain rfl := Value.text.inj (hfield.symm.trans hfield')
        exact hname'))
    (fun c hc => by
      obtain ⟨name, hfield, hor⟩ := hleaves c hc
      exact ⟨name, hfield, hname name hor⟩) (.text "_id")
  exact ⟨stored, f', hstored, hfilter, hanswer.trans rfl⟩

end Schema

end DocStore
