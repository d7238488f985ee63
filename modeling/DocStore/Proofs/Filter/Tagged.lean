/-
  Trees of conditions that are narrowed to a tag.

  A tree of conditions is compiled part by part, and in a shared database the selector that comes
  out is then narrowed to the documents that carry a tag.  Narrowing looks at the shape of the
  selector: a conjunction gets one more member, what says nothing becomes the tag alone, and
  anything else is put beside the tag.  None of this may change what the tree says.  Neither may a
  choice take the tag in as one more alternative, nor may a tree without conditions lose it.

  1. **The tree** — its selector is met by the documents that the tree holds of
     (`Filter.selector_means`, in `Meaning`).

  2. **The tag** — a narrowed selector is met by what meets the selector and carries the tag,
     whatever shape the selector has (`test_scope`).

  3. **Both** — a compiled tree that is narrowed selects the tagged documents that the tree holds
     of, and never fails (`tree_selects_tagged`).
-/
import DocStore.Proofs.Session.Ownership

namespace DocStore

namespace Selector

/-- A narrowed selector is met by the documents that meet the selector and carry the tag. -/
theorem test_scope {selector : Value} {document : Object} {answer : Bool}
    (h : test selector (.object document) = .ok answer) {field : String} (hdot : '.' ∉ field.toList)
    (hkey : isCombinator field = false) (tag : String) :
    ∃ tagged, test (selector.scope field (.text tag)) (.object document) = .ok tagged ∧
      (tagged = true ↔ answer = true ∧ Object.get? document field = some (.text tag)) := by
  have hnarrow : test (selector.scope field (.text tag)) (.object document) =
      if answer = true then test (.object [(field, .text tag)]) (.object document) else .ok false :=
    test_narrow h _
  have hcarries : ((Object.get? document field).any fun v => v.same (.text tag)) = true ↔
      Object.get? document field = some (.text tag) := by
    cases Object.get? document field with
    | none => simp
    | some v => rw [Option.any_some, Entries.same_text_iff, Option.some.injEq]
  rw [hnarrow, test_tag hdot hkey]
  cases answer with
  | false => exact ⟨false, rfl, by simp⟩
  | true => exact ⟨_, rfl, hcarries.trans (by simp)⟩

end Selector

namespace Filter

/-- **A tree selects what it says, and with a tag only what is tagged.**  A tree of plain conditions
    has a selector, which gives an answer for every document: whether the tree holds of it.
    Narrowed to a tag, in any field that is no path and combines nothing, the selector also gives an
    answer for every document: whether the tree holds of it and the field has the tag. -/
theorem tree_selects_tagged {f : Filter} (hplain : f.isPlain = true) {idKey : String}
    (hid : Selector.isCombinator idKey = false) :
    ∃ selector, f.selector (.text idKey) = .ok selector ∧
      (∀ doc, Selector.test selector doc = .ok (f.holds idKey doc)) ∧
      ∀ field : String, '.' ∉ field.toList → Selector.isCombinator field = false →
        ∀ (tag : String) (document : Object),
          ∃ tagged, Selector.test (selector.scope field (.text tag)) (.object document) =
              .ok tagged ∧
            (tagged = true ↔ f.holds idKey (.object document) = true ∧
              Object.get? document field = some (.text tag)) := by
  obtain ⟨selector, hselector, htest⟩ := selector_means hid f hplain
  exact ⟨selector, hselector, htest, fun field hdot hkey tag document =>
    Selector.test_scope (htest _) hdot hkey tag⟩

/-- A choice between a condition and a group without members accepts every document, and narrowed to
    a tag every document that has it and no other. -/
theorem tree_selects_tagged_choice :
    let f : Filter := .group .or [.test ⟨.text "age", .int 30, .known .gt, .and⟩, .group .and []]
    f.isPlain = true ∧ Selector.isCombinator "_id" = false ∧
      ∃ selector, f.selector (.text "_id") = .ok selector ∧
        Selector.test selector (.object [("_id", .text "1"), ("kind", .text "group")]) = .ok true ∧
        Selector.test (selector.scope "kind" (.text "user"))
          (.object [("_id", .text "1"), ("kind", .text "group")]) = .ok false ∧
        Selector.test (selector.scope "kind" (.text "user"))
          (.object [("_id", .text "2"), ("kind", .text "user")]) = .ok true := by
  intro f
  have hplain : f.isPlain = true := by decide
  have hid : Selector.isCombinator "_id" = false := by decide
  obtain ⟨selector, hselector, htest, hscope⟩ := tree_selects_tagged hplain hid
  have hkind := hscope "kind" (by decide) (by decide) "user"
  obtain ⟨group, hgroup, hmeans⟩ := hkind [("_id", .text "1"), ("kind", .text "group")]
  obtain ⟨user, huser, hmeans'⟩ := hkind [("_id", .text "2"), ("kind", .text "user")]
  obtain rfl : group = false := Bool.eq_false_iff.2 fun h => by
    simpa [Object.get?] using (hmeans.1 h).2
  obtain rfl : user = true := hmeans'.2 ⟨rfl, rfl⟩
  exact ⟨hplain, hid, selector, hselector, htest _, hgroup, huser⟩

end Filter

end DocStore
