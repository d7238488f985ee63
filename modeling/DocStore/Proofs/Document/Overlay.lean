/-
  Stored documents overlaid with changes.

  What a document shows under a key is all that matters of it, so an overlay is described by what it
  does to the lookup: identifier and revision stay, and so does every field that the changes do not
  name (`overlay_stored`).
-/
import DocStore.Document.Codec

namespace DocStore

namespace Object

/-- A key that is set to what it has makes no difference. -/
theorem set_of_get? {o : Object} {key : String} {v : Value} (h : o.get? key = some v) :
    o.set key v = o := by
  induction o with
  | nil => exact absurd h (by simp [get?])
  | cons field rest ih =>
    obtain ⟨k, w⟩ := field
    rw [get?] at h
    rw [set]
    split at h
    · rename_i hk
      rw [if_pos hk, Option.some.inj h]
    · rename_i hk
      rw [if_neg hk, ih h]

/-- A key that is not among those set keeps its value. -/
theorem get?_merge_of_notMem (o : Object) {changes : Object} {key : String}
    (h : key ∉ changes.keys) :
    (o.merge changes).get? key = o.get? key := by
  induction changes generalizing o with
  | nil => rfl
  | cons field rest ih =>
    rw [keys, List.map_cons, List.mem_cons, not_or] at h
    show ((o.set field.1 field.2).merge rest).get? key = _
    rw [ih _ h.2, get?_set_ne _ _ (Ne.symm h.1)]

end Object

namespace Document

/-- A stored document can be overlaid; its identifier, its revision and what the changes do not name
    stay. -/
theorem overlay_stored {stored : Object} {id rev : Value} (hid : Object.get? stored "_id" = some id)
    (hrev : Object.get? stored "_rev" = some rev) (changes : Object) :
    ∃ merged, overlay stored changes = .ok merged ∧ Object.get? merged "_id" = some id ∧
      Object.get? merged "_rev" = some rev ∧
      ∀ key, key ∉ Object.keys changes → Object.get? merged key = Object.get? stored key := by
  refine ⟨Object.set (Object.set (Object.merge stored changes) "_id" id) "_rev" rev, ?_, ?_, ?_, ?_⟩
  · simp only [overlay, hid, hrev]
  · rw [Object.get?_set_ne _ _ (by decide), Object.get?_set_self]
  · rw [Object.get?_set_self]
  · intro key hkey
    rw [Object.get?_set, Object.get?_set]
    split
    · rename_i heq
      rw [← heq, hrev]
    · split
      · rename_i heq
        rw [← heq, hid]
      · exact Object.get?_merge_of_notMem _ hkey

end Document

end DocStore
