/-
  Documents that hold a renamed field twice.

  A document is created with the caller's fields, and behind them, under the stored names, with
  those of them that are renamed.  So a renamed field stands there twice.  Changes are written under
  the stored name only: the field under the caller's name is a copy that stays what it was
  (`Document.Holds`).

  What keeps the copy out of sight is the order of the keys.  Where both names come to one, the
  later stands, and the stored name is never before the caller's.

  1. **Holding** — a document goes on holding a field whatever keys are set behind it
     (`Document.Holds.grow`), and whatever others are left out (`Document.Holds.erase`).

  2. **Creating and changing** — settling the identifier and the tag touch no other field of what is
     created (`get?_encode_plain`), so it holds the field as the caller gave it (`holds_encode`).
     What is overlaid holds what is written, or what it held (`holds_overlay`).

  3. **Seeing** — a caller sees what is held under the stored name, and the copy only if that is
     nothing (`get?_seen_of_holds`).
-/
import DocStore.Proofs.Document.RoundTrip

namespace DocStore

namespace Object

/-- The value under a key, if it is populated. -/
def value? (o : Object) (key : String) : Option Value := (o.get? key).filter fun v => !v.isNull

theorem isNull_of_value? {o : Object} {key : String} {v : Value} (h : o.value? key = some v) :
    v.isNull = false := by
  have hpopulated := (Option.filter_eq_some_iff.1 h).2
  simpa using hpopulated

theorem isNull_of_value?_none {o : Object} {key : String} (h : o.value? key = none) :
    (o.getD key).isNull = true := by
  rw [getD]
  cases hget : o.get? key with
  | none => rfl
  | some v => simpa [value?, hget] using h

theorem get?_populated_eq {o : Object} (h : o.keys.Nodup) (key : String) :
    o.populated.get? key = o.value? key := by
  rw [get?_populated h, getD, value?]
  cases hget : o.get? key with
  | none => rfl
  | some v => cases hv : v.isNull <;> simp [hv, Option.filter]

theorem keys_erase_sublist (o : Object) (key : String) : (o.erase key).keys.Sublist o.keys := by
  induction o with
  | nil => exact .slnil
  | cons field rest ih =>
    rw [erase]
    split
    · exact List.sublist_cons_self _ _
    · exact ih.cons_cons _

theorem get?_erase_self {o : Object} (h : o.keys.Nodup) (key : String) :
    (o.erase key).get? key = none := by
  induction o with
  | nil => rfl
  | cons field rest ih =>
    obtain ⟨hfield, hrest⟩ := List.nodup_cons.1 h
    rw [erase]
    split
    · rename_i hkey
      exact get?_eq_none_iff.2 (hkey ▸ hfield)
    · rename_i hkey
      rw [get?, if_neg hkey, ih hrest]

end Object

namespace Document

/-! ## Holding -/

/-- A document in which one field stands under two names: under the caller's a copy, and under the
    stored one, which is not before it, the value that counts. -/
structure Holds (given stored : String) (copy current : Option Value) (fields : Object) : Prop where
  nodup : fields.keys.Nodup
  copied : fields.get? given = copy
  held : fields.get? stored = current
  behind : ¬[stored, given].Sublist fields.keys

variable {given stored key : String} {copy current current' : Option Value} {fields grown : Object}

/-- A caller's fields hold what they have, if he does not use the stored name. -/
theorem holds_of_notMem (hnodup : fields.keys.Nodup) (hstored : stored ∉ fields.keys) :
    Holds given stored (fields.get? given) none fields :=
  ⟨hnodup, rfl, Object.get?_eq_none_iff.2 hstored, fun hsub =>
    hstored (hsub.subset List.mem_cons_self)⟩

/-- Keys that come behind those that are there do no harm. -/
theorem Holds.grow (h : Holds given stored copy current fields) (hgrows : fields.Grows grown)
    (hcopied : grown.get? given = fields.get? given) (hheld : grown.get? stored = current') :
    Holds given stored copy current' grown := by
  refine ⟨hgrows.nodup h.nodup, hcopied.trans h.copied, hheld, fun hsub => h.behind ?_⟩
  refine (hgrows.sublist_iff h.nodup fun hmem => ?_).1 hsub
  rwa [Object.mem_keys_iff, hcopied, ← Object.mem_keys_iff] at hmem

theorem Holds.set (h : Holds given stored copy current fields) (hgiven : key ≠ given)
    (hstored : key ≠ stored) (v : Value) : Holds given stored copy current (fields.set key v) :=
  h.grow (Object.grows_set _ _ _) (Object.get?_set_ne _ _ hgiven)
  ((Object.get?_set_ne _ _ hstored).trans h.held)

theorem Holds.erase (h : Holds given stored copy current fields) (hgiven : key ≠ given)
    (hstored : key ≠ stored) : Holds given stored copy current (fields.erase key) where
  nodup := h.nodup.sublist (Object.keys_erase_sublist _ _)
  copied := (Object.get?_erase_ne _ hgiven).trans h.copied
  held := (Object.get?_erase_ne _ hstored).trans h.held
  behind hsub := h.behind (hsub.trans (Object.keys_erase_sublist _ _))

/-! ## Creating and changing -/

/-- Settling the identifier takes the caller's away and leaves the store's, removes it or sets
    it. -/
theorem settleIdentifier_cases (fields : Object) :
    settleIdentifier fields = fields.erase "id" ∨
      settleIdentifier fields = (fields.erase "id").erase "_id" ∨
      ∃ v, settleIdentifier fields = (fields.erase "id").set "_id" v := by
  rw [settleIdentifier]
  split
  · exact .inl rfl
  · split
    · exact .inr (.inl rfl)
    · exact .inr (.inr ⟨_, rfl⟩)

theorem Holds.settleIdentifier (h : Holds given stored copy current fields)
    (hid : "id" ≠ given ∧ "id" ≠ stored) (hid' : "_id" ≠ given ∧ "_id" ≠ stored) :
    Holds given stored copy current (settleIdentifier fields) := by
  have hrest := h.erase hid.1 hid.2
  rcases settleIdentifier_cases fields with heq | heq | ⟨v, heq⟩
  · exact heq ▸ hrest
  · exact heq ▸ hrest.erase hid'.1 hid'.2
  · exact heq ▸ hrest.set hid'.1 hid'.2 v

/-- Settling the identifier leaves all other fields as they are. -/
theorem get?_settleIdentifier_other (hid : "id" ≠ key) (hid' : "_id" ≠ key) (fields : Object) :
    (settleIdentifier fields).get? key = fields.get? key := by
  have hrest := Object.get?_erase_ne fields hid
  rcases settleIdentifier_cases fields with heq | heq | ⟨v, heq⟩ <;> rw [heq]
  · exact hrest
  · exact (Object.get?_erase_ne _ hid').trans hrest
  · exact (Object.get?_set_ne _ _ hid').trans hrest

variable {data renamed : Object}

/-- A new document has the fields given and those renamed, and its tag is set last. -/
theorem encode_cases (data renamed : Object) (tag : Option Tag) :
    (tag = none ∧ encode data renamed tag =
        settleIdentifier (Object.erase (data.merge renamed) "_rev")) ∨
      ∃ t, tag = some t ∧ encode data renamed tag =
        (settleIdentifier (Object.erase (data.merge renamed) "_rev")).set t.field t.model := by
  cases tag with
  | none => exact .inl ⟨rfl, rfl⟩
  | some t => exact .inr ⟨t, rfl, rfl⟩

theorem nodup_encode (hnodup : data.keys.Nodup) (renamed : Object) (tag : Option Tag) :
    (encode data renamed tag).keys.Nodup := by
  have hmerged := ((Object.grows_merge data renamed).nodup hnodup).sublist
    (Object.keys_erase_sublist _ "_rev")
  have hrest := hmerged.sublist (Object.keys_erase_sublist _ "id")
  have hsettled : (settleIdentifier (Object.erase (data.merge renamed) "_rev")).keys.Nodup := by
    rcases settleIdentifier_cases (Object.erase (data.merge renamed) "_rev") with heq | heq |
      ⟨v, heq⟩
    · exact heq ▸ hrest
    · exact heq ▸ hrest.sublist (Object.keys_erase_sublist _ _)
    · exact heq ▸ (Object.grows_set _ _ _).nodup hrest
  rcases encode_cases data renamed tag with ⟨-, heq⟩ | ⟨t, -, heq⟩
  · exact heq ▸ hsettled
  · exact heq ▸ (Object.grows_set _ _ _).nodup hsettled

/-- Whatever is no tag of it stands in a new document when its identifier is settled. -/
theorem get?_encode_other (data renamed : Object) {tag : Option Tag}
    (htag : ∀ t, tag = some t → t.field ≠ key) :
    (encode data renamed tag).get? key =
      (settleIdentifier (Object.erase (data.merge renamed) "_rev")).get? key := by
  rcases encode_cases data renamed tag with ⟨-, heq⟩ | ⟨t, ht, heq⟩ <;> rw [heq]
  exact Object.get?_set_ne _ _ (htag t ht)

/-- A new document brings a revision only if that is its tag. -/
theorem get?_rev_encode (hnodup : data.keys.Nodup) (renamed : Object) {tag : Option Tag}
    (htag : ∀ t, tag = some t → t.field ≠ "_rev") :
    (encode data renamed tag).get? "_rev" = none := by
  rw [get?_encode_other data renamed htag, get?_settleIdentifier_other (by decide) (by decide)]
  exact Object.get?_erase_self ((Object.grows_merge data renamed).nodup hnodup) _

/-- A new document has the caller's own fields, as they are renamed if they are. -/
theorem get?_encode_plain (hrenamed : renamed.keys.Nodup) {tag : Option Tag}
    (htag : tag.map (·.field) ≠ some "") (hkey : isPlain (tag.map (·.field)) key = true) :
    (encode data renamed tag).get? key = (renamed.get? key).or (data.get? key) := by
  simp only [isPlain, Bool.and_eq_true, decide_eq_true_eq, Bool.not_eq_true'] at hkey
  obtain ⟨⟨⟨hid', hrev⟩, hid⟩, hfield⟩ := hkey
  have hne : ∀ t, tag = some t → t.field ≠ key := by
    rintro t rfl
    have hnamed : t.field ≠ "" := fun hempty => htag (congrArg some hempty)
    simpa [isTagField, hnamed] using hfield
  rw [get?_encode_other data renamed hne, get?_settleIdentifier_other (Ne.symm hid) (Ne.symm hid'),
    Object.get?_erase_ne _ (Ne.symm hrev), Object.get?_merge_of_nodup _ hrenamed]

/-- A new document is named by the text of the identifier that the caller gives, if he names it in
    no other way. -/
theorem get?_id_encode {id : Value} (hid : (data.merge renamed).get? "id" = some id)
    (hvacant : isVacant id = false) (hnamed : (data.merge renamed).get? "_id" = none)
    {tag : Option Tag} (htag : ∀ t, tag = some t → t.field ≠ "_id") :
    (encode data renamed tag).get? "_id" = some (.text id.written) := by
  have hgiven : Object.getD (Object.erase (data.merge renamed) "_rev") "id" = id := by
    rw [Object.getD, Object.get?_erase_ne _ (by decide), hid]
    rfl
  have hnone : Object.getD ((Object.erase (data.merge renamed) "_rev").erase "id") "_id" =
      .null := by
    rw [Object.getD, Object.get?_erase_ne _ (by decide), Object.get?_erase_ne _ (by decide), hnamed]
    rfl
  rw [get?_encode_other data renamed htag, settleIdentifier, hnone, if_neg (by decide),
    hgiven, hvacant]
  exact Object.get?_set_self _ _ _

end Document

namespace Naming

open Document

variable {n : Naming} {tagField : Option String} {fields data merged : Object}
  {given stored : String} {copy current : Option Value}

section

variable (havoids : n.Avoids tagField) (hpair : (given, stored) ∈ n.pairs)

include havoids hpair

/-- Neither name of the field is one that belongs to the store. -/
theorem Avoids.pair :
    ("id" ≠ given ∧ "id" ≠ stored) ∧ ("_id" ≠ given ∧ "_id" ≠ stored) ∧
      ("_rev" ≠ given ∧ "_rev" ≠ stored) ∧ ∀ field, tagField = some field →
        field ≠ given ∧ field ≠ stored := by
  obtain ⟨hgid, hgid', hgrev, hgtag⟩ := havoids given (given_mem hpair)
  obtain ⟨hsid, hsid', hsrev, hstag⟩ := havoids stored (stored_mem hpair)
  exact ⟨⟨Ne.symm hgid, Ne.symm hsid⟩, ⟨Ne.symm hgid', Ne.symm hsid'⟩,
    ⟨Ne.symm hgrev, Ne.symm hsrev⟩,
    fun field hfield => ⟨fun heq => hgtag (heq ▸ hfield), fun heq => hstag (heq ▸ hfield)⟩⟩

variable (hnodup : data.keys.Nodup) (hlogical : stored ∉ data.keys)

include hnodup hlogical

/-- **What is created holds a field as the caller gave it**: a copy under his name, and what is
    populated under the stored one. -/
theorem holds_encode {tag : Option Tag} (htag : tag.map (·.field) = tagField) :
    Holds given stored (data.get? given) (data.value? given)
      (encode data (data.populated.rename n.rename) tag) := by
  obtain ⟨hid, hid', hrev, htags⟩ := havoids.pair hpair
  have hpopulated := hnodup.sublist (Object.keys_populated_sublist data)
  have hnone : stored ∉ data.populated.keys := fun hmem =>
    hlogical ((Object.keys_populated_sublist data).subset hmem)
  have hrenamed := Object.nodup_rename n.rename data.populated
  -- The renamed fields come behind the caller's, and the stored name is none of these.
  have hmerged : Holds given stored (data.get? given) (data.value? given)
      (data.merge (data.populated.rename n.rename)) := by
    refine (holds_of_notMem hnodup hlogical).grow (Object.grows_merge _ _) ?_ ?_
    · rw [Object.get?_merge_of_nodup _ hrenamed,
        Object.get?_rename_of_ne (rename_ne hpair), Option.none_or]
    · rw [Object.get?_merge_of_nodup _ hrenamed,
        Object.get?_rename hpopulated fun name => rename_eq_iff hpair,
        if_neg fun hsub => hnone (hsub.subset List.mem_cons_self), Object.get?_eq_none_iff.2 hnone,
        Option.none_or, Object.get?_populated_eq hnodup,
        Object.get?_eq_none_iff.2 hlogical, Option.or_none]
  have hsettled := (hmerged.erase hrev.1 hrev.2).settleIdentifier hid hid'
  rcases encode_cases data (data.populated.rename n.rename) tag with ⟨-, heq⟩ | ⟨t, ht, heq⟩
  · exact heq ▸ hsettled
  · obtain ⟨hgiven, hstored⟩ := htags t.field (by rw [← htag, ht]; rfl)
    exact heq ▸ hsettled.set hgiven hstored _

/-- **What is overlaid holds what is written**, or what it held if that is nothing. -/
theorem holds_overlay (h : Holds given stored copy current fields)
    (hoverlay : overlay fields (n.written tagField data) = .ok merged) (rev : Value) :
    Holds given stored copy ((data.value? given).or current) (merged.set "_rev" rev) := by
  obtain ⟨-, hid', hrev, -⟩ := havoids.pair hpair
  obtain ⟨hgrows, -, hget⟩ := overlay_fields hoverlay (nodup_written _ _ _)
  have hwritten : (n.written tagField data).get? stored = data.value? given := by
    have hnull : (data.getD stored).isNull = true := by
      rw [Object.getD, Object.get?_eq_none_iff.2 hlogical]
      rfl
    rw [get?_written_stored hnodup havoids hpair fun hsub =>
      hlogical (hsub.subset List.mem_cons_self), if_pos hnull, Object.get?_populated_eq hnodup]
  refine (h.grow hgrows ?_ ?_).set hrev.1 hrev.2 rev
  · rw [hget given (Ne.symm hid'.1) (Ne.symm hrev.1), get?_written_given hpair, Option.none_or]
  · rw [hget stored (Ne.symm hid'.2) (Ne.symm hrev.2), hwritten, h.held]

end

/-! ## Seeing -/

/-- **A caller sees what is held**, and the copy only if that is nothing. -/
theorem get?_seen_of_holds {id : Value} (hid : fields.get? "_id" = some id)
    (havoids : n.Avoids tagField) (hpair : (given, stored) ∈ n.pairs)
    (h : Holds given stored copy current fields)
    (hcurrent : ∀ v, current = some v → v.isNull = false) :
    (n.seen tagField fields).get? given = current.or copy := by
  have hheld : fields.getD stored = current.getD .null := by rw [Object.getD, h.held]
  rw [get?_seen_given hid h.nodup havoids hpair, h.copied, h.held, hheld]
  cases current with
  | none => rw [if_pos (.inr rfl), Option.or_none, Option.none_or]
  | some v =>
    have hpopulated : ¬v.isNull = true := by simp [hcurrent v rfl]
    exact if_neg fun hor => hor.elim h.behind hpopulated

end Naming

end DocStore
