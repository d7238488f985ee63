/-
  Documents that are read, changed and written back, their fields having other names in the store.

  A caller sees a stored document with his own names (`Naming.seen`), and beside them with every
  stored name, because fields that the renaming dropped are brought back.  Written back
  (`Naming.written`), both names of a pair come to the stored one, and of the two values the one
  that stands later stays.

  1. **Documents in and out** — what decoding, restoring and overlaying do to the lookup
     (`get?_decode`, `get?_restore`, `overlay_fields`).

  2. **Seeing** — what a document shows under the caller's names, under stored names and under any
     other (`get?_seen_given`, `get?_seen_stored`, `get?_seen_other`).  The caller's name stands
     before the stored one (`not_sublist_seen`).

  3. **Writing** — so what is written under the stored name is what the caller has under the stored
     name, and only without it what he has under his own (`get?_written_stored`).

  4. **Writing back** — a value that is set under one of the caller's names is seen again just when
     nothing stands under the stored name; every other name shows what it has shown before
     (`seen_back`).
-/
import DocStore.Proofs.Document.Renaming

namespace DocStore

/-! ## Documents in and out -/

namespace Document

variable {tagField : Option String} {stored renamed changes merged : Object} {id : Value}
  {a b key : String}

/-- Whether callers see a field of a stored document under its own name. -/
def isVisible (tagField : Option String) (key : String) : Bool :=
  key ≠ "_rev" && key ≠ "_id" && !isTagField tagField key

/-- Whether a field is the caller's own, and neither identity, revision nor discriminator. -/
def isPlain (tagField : Option String) (key : String) : Bool :=
  key ≠ "_id" && key ≠ "_rev" && key ≠ "id" && !isTagField tagField key

theorem isVisible_of_isPlain (h : isPlain tagField key = true) : isVisible tagField key = true := by
  simp only [isPlain, Bool.and_eq_true, decide_eq_true_eq] at h
  simp [isVisible, h]

theorem ne_id_of_isPlain (h : isPlain tagField key = true) : key ≠ "id" := by
  simp only [isPlain, Bool.and_eq_true, decide_eq_true_eq] at h
  exact h.1.2

section

variable (hid : stored.get? "_id" = some id)

include hid

/-- A decoded document has the fields that are visible, and the identifier under the caller's
    name. -/
theorem decode_eq (tagField : Option String) :
    decode stored tagField = (stored.keepKeys (isVisible tagField)).set "id" id := by
  rw [decode, hid]
  rfl

theorem get?_decode (tagField : Option String) (key : String) :
    (decode stored tagField).get? key =
      if "id" = key then some id
      else if isVisible tagField key = true then stored.get? key
      else none := by
  rw [decode_eq hid, Object.get?_set, Object.get?_keepKeys]

theorem get?_decode_plain (hkey : isPlain tagField key = true) :
    (decode stored tagField).get? key = stored.get? key := by
  rw [get?_decode hid, if_neg (Ne.symm (ne_id_of_isPlain hkey)), if_pos (isVisible_of_isPlain hkey)]

theorem nodup_decode (hnodup : stored.keys.Nodup) (tagField : Option String) :
    (decode stored tagField).keys.Nodup := by
  rw [decode_eq hid]
  exact (Object.grows_set _ _ _).nodup (Object.nodup_keepKeys hnodup _)

/-- The plain keys of a decoded document stand as they are stored. -/
theorem sublist_decode (hnodup : stored.keys.Nodup) (ha : isPlain tagField a = true)
    (hb : isPlain tagField b = true) :
    [a, b].Sublist (decode stored tagField).keys ↔ [a, b].Sublist stored.keys := by
  have hgrows : (stored.keepKeys (isVisible tagField)).Grows (decode stored tagField) := by
    rw [decode_eq hid]
    exact Object.grows_set _ _ _
  rw [hgrows.sublist_iff (Object.nodup_keepKeys hnodup _) fun hmem => ?_, Object.keys_keepKeys,
    Object.pair_sublist_filter (isVisible_of_isPlain ha) (isVisible_of_isPlain hb)]
  rw [Object.mem_keys_iff, get?_decode_plain hid hb, ← Object.mem_keys_iff] at hmem
  rw [Object.keys_keepKeys, List.mem_filter]
  exact ⟨hmem, isVisible_of_isPlain hb⟩

end

theorem get?_restoreField (o : Object) (field : String × Value) (key : String) :
    (restoreField o field).get? key =
      if field.1 = key ∧ (o.getD key).isNull = true then some field.2 else o.get? key := by
  by_cases hnull : (o.getD field.1).isNull = true
  · rw [restoreField, if_pos hnull, Object.get?_set]
    by_cases hkey : field.1 = key
    · rw [if_pos hkey, if_pos ⟨hkey, hkey ▸ hnull⟩]
    · rw [if_neg hkey, if_neg fun h => hkey h.1]
  · rw [restoreField, if_neg hnull, if_neg fun h => hnull (by rw [h.1]; exact h.2)]

/-- Of the fields that are brought back, those stay that the renamed document lacks. -/
theorem get?_foldl_restoreField {wanted : Object} (hnodup : wanted.keys.Nodup) (o : Object)
    (key : String) :
    (wanted.foldl restoreField o).get? key =
      if (o.getD key).isNull = true then (wanted.get? key).or (o.get? key) else o.get? key := by
  induction wanted generalizing o with
  | nil =>
    show o.get? key = if _ then o.get? key else o.get? key
    rw [ite_self]
  | cons field rest ih =>
    obtain ⟨k, v⟩ := field
    obtain ⟨hk, hrest⟩ := List.nodup_cons.1 hnodup
    have hfield := get?_restoreField o (k, v) key
    rw [List.foldl_cons, ih hrest, Object.getD, hfield, Object.get?]
    dsimp only
    by_cases hkey : k = key
    · subst hkey
      have hnone : Object.get? rest k = none := Object.get?_eq_none_iff.2 hk
      by_cases hnull : (o.getD k).isNull = true
      · simp [hnull, hnone]
      · simp only [hnull, and_false, if_false, Bool.false_eq_true]
        rw [← Object.getD, if_neg hnull]
    · simp only [hkey, false_and, if_false]
      rfl

/-- **What a restored document shows**: what the renamed one does, unless that is nothing. -/
theorem get?_restore (hnodup : stored.keys.Nodup) (hid : stored.get? "_id" = none)
    (hrev : stored.get? "_rev" = none) (renamed : Object) (key : String) :
    (restore renamed stored).get? key =
      if (renamed.getD key).isNull = true then (stored.get? key).or (renamed.get? key)
      else renamed.get? key := by
  have hget : (stored.keepKeys fun key => key ≠ "_id" && key ≠ "_rev" && key ≠ "id").get? key =
      if key = "id" then none else stored.get? key := by
    rw [Object.get?_keepKeys]
    by_cases hkey : key = "id"
    · simp [hkey]
    · by_cases hid' : key = "_id"
      · simp [hid', hid]
      · by_cases hrev' : key = "_rev"
        · simp [hrev', hrev]
        · simp [hid', hrev', hkey]
  have hrestored := get?_foldl_restoreField
    (Object.nodup_keepKeys hnodup fun key => key ≠ "_id" && key ≠ "_rev" && key ≠ "id") renamed key
  rw [hget] at hrestored
  rw [restore]
  by_cases hkey : key = "id"
  · -- The caller's identifier comes last, and only where there is none.
    subst hkey
    rw [if_pos rfl, Option.none_or, ite_self] at hrestored
    cases stored.get? "id" with
    | none => rw [hrestored, Option.none_or, ite_self]
    | some id =>
      dsimp only
      rw [get?_restoreField, Object.getD, hrestored]
      simp only [true_and, Option.some_or]
      rfl
  · rw [if_neg hkey] at hrestored
    cases stored.get? "id" with
    | none => exact hrestored
    | some id =>
      dsimp only
      rw [get?_restoreField, if_neg fun h => hkey h.1.symm, hrestored]

theorem grows_restore (renamed stored : Object) : renamed.Grows (restore renamed stored) := by
  have hfield : ∀ (o : Object) (field : String × Value), o.Grows (restoreField o field) := by
    intro o field
    rw [restoreField]
    split
    · exact Object.grows_set _ _ _
    · exact .refl o
  have hfold : ∀ (wanted o : Object), o.Grows (wanted.foldl restoreField o) := by
    intro wanted
    induction wanted with
    | nil => exact Object.Grows.refl
    | cons field rest ih => exact fun o => (hfield o field).trans (ih _)
  rw [restore]
  split
  · exact (hfold _ _).trans (hfield _ _)
  · exact hfold _ _

/-- What a document shows that has been overlaid with changes. -/
theorem overlay_fields (hoverlay : overlay stored changes = .ok merged)
    (hchanges : changes.keys.Nodup) :
    stored.Grows merged ∧ merged.get? "_id" = stored.get? "_id" ∧
      ∀ key, key ≠ "_id" → key ≠ "_rev" →
        merged.get? key = (changes.get? key).or (stored.get? key) := by
  rw [overlay] at hoverlay
  cases hid : stored.get? "_id" with
  | none =>
    rw [hid] at hoverlay
    cases hoverlay
  | some id =>
    have hgrows : stored.Grows ((stored.merge changes).set "_id" id) :=
      (Object.grows_merge stored changes).trans (Object.grows_set _ _ _)
    have hget : ∀ key, key ≠ "_id" → ((stored.merge changes).set "_id" id).get? key =
        (changes.get? key).or (stored.get? key) := fun key hkey => by
      rw [Object.get?_set_ne _ _ (Ne.symm hkey), Object.get?_merge_of_nodup _ hchanges]
    rw [hid] at hoverlay
    dsimp only at hoverlay
    split at hoverlay
    · obtain rfl := Except.ok.inj hoverlay
      refine ⟨hgrows.trans (Object.grows_set _ _ _), ?_, fun key hkey hrev => ?_⟩
      · rw [Object.get?_set_ne _ _ (by decide), Object.get?_set_self]
      · rw [Object.get?_set_ne _ _ (Ne.symm hrev), hget key hkey]
    · obtain rfl := Except.ok.inj hoverlay
      exact ⟨hgrows, Object.get?_set_self _ _ _, fun key hkey _ => hget key hkey⟩

end Document

namespace Naming

variable {n : Naming} {tagField : Option String} {stored data changed merged : Object} {id : Value}
  {g t f s key : String}

/-! ## Seeing -/

/-- What a caller sees of a stored document. -/
def seen (n : Naming) (tagField : Option String) (stored : Object) : Object :=
  Document.restore ((Document.decode stored tagField).rename n.flip.rename)
    (Document.decode stored tagField)

/-- What an update of a document writes. -/
def written (n : Naming) (tagField : Option String) (data : Object) : Object :=
  Document.changes (data.populated.rename n.rename) tagField

/-- The names avoid what belongs to the store. -/
def Avoids (n : Naming) (tagField : Option String) : Prop :=
  ∀ name ∈ n.names, name ≠ "id" ∧ name ≠ "_id" ∧ name ≠ "_rev" ∧ tagField ≠ some name

theorem Avoids.isPlain (h : n.Avoids tagField) (hkey : key ∈ n.names) :
    Document.isPlain tagField key = true := by
  obtain ⟨hid, hid', hrev, htag⟩ := h key hkey
  have hfield : Document.isTagField tagField key = false := by
    cases tagField with
    | none => rfl
    | some field => simp [Document.isTagField, show field ≠ key from fun heq => htag (heq ▸ rfl)]
  simp [Document.isPlain, hid, hid', hrev, hfield]

/-- What a caller sees has no key twice. -/
theorem nodup_seen (n : Naming) (tagField : Option String) (stored : Object) :
    (n.seen tagField stored).keys.Nodup :=
  (Document.grows_restore _ _).nodup (Object.nodup_rename _ _)

section

variable (hid : stored.get? "_id" = some id) (hnodup : stored.keys.Nodup)

include hid hnodup

/-- A document shows what the renamed one does, unless that is nothing. -/
theorem get?_seen (n : Naming) (tagField : Option String) (key : String) :
    (n.seen tagField stored).get? key =
      if (((Document.decode stored tagField).rename n.flip.rename).getD key).isNull = true then
        ((Document.decode stored tagField).get? key).or
          (((Document.decode stored tagField).rename n.flip.rename).get? key)
      else ((Document.decode stored tagField).rename n.flip.rename).get? key :=
  Document.get?_restore (Document.nodup_decode hid hnodup tagField)
    (by rw [Document.get?_decode hid]; rfl) (by rw [Document.get?_decode hid]; rfl) _ key

/-- A name in no pair shows what it shows without renaming. -/
theorem get?_seen_other (tagField : Option String) (hkey : key ∉ n.names) :
    (n.seen tagField stored).get? key = (Document.decode stored tagField).get? key := by
  have hrenamed : ((Document.decode stored tagField).rename n.flip.rename).get? key =
      (Document.decode stored tagField).get? key :=
    Object.get?_rename_of_unique (Document.nodup_decode hid hnodup tagField) fun _ =>
      rename_eq_iff_of_notMem fun hmem => hkey (mem_names_flip.1 hmem)
  rw [get?_seen hid hnodup, hrenamed]
  cases (Document.decode stored tagField).get? key <;> simp

variable (havoids : n.Avoids tagField)

include havoids

/-- Under a stored name a document shows what is stored under it. -/
theorem get?_seen_stored (h : (g, t) ∈ n.pairs) :
    (n.seen tagField stored).get? t = stored.get? t := by
  rw [get?_seen hid hnodup, Object.getD, Object.get?_rename_of_ne (rename_ne (mem_flip h)) _,
    Option.or_none, Document.get?_decode_plain hid (havoids.isPlain (stored_mem h))]
  rfl

/-- Under a caller's name a document shows what is stored under the stored one, unless that is
    nothing or stands before the caller's name. -/
theorem get?_seen_given (h : (g, t) ∈ n.pairs) :
    (n.seen tagField stored).get? g =
      if [t, g].Sublist stored.keys ∨
      (stored.getD t).isNull = true then (stored.get? g).or (stored.get? t) else stored.get? t := by
  have hg := havoids.isPlain (given_mem h)
  have ht := havoids.isPlain (stored_mem h)
  have hne : g ≠ t := fun heq => given_notMem_stored h (heq ▸ List.mem_map_of_mem (f := Prod.snd) h)
  have hrenamed : ((Document.decode stored tagField).rename n.flip.rename).get? g =
      if [g, t].Sublist stored.keys then stored.get? t else (stored.get? g).or (stored.get? t) := by
    rw [Object.get?_rename (Document.nodup_decode hid hnodup tagField) fun k =>
      rename_eq_iff (mem_flip h),
      Document.get?_decode_plain hid hg, Document.get?_decode_plain hid ht]
    simp only [Document.sublist_decode hid hnodup hg ht]
  rw [get?_seen hid hnodup, Object.getD, hrenamed, Document.get?_decode_plain hid hg]
  have hmem : ∀ {a b : String}, [a, b].Sublist stored.keys → a ∈ stored.keys ∧ b ∈ stored.keys :=
    fun hsub => ⟨hsub.subset List.mem_cons_self,
      hsub.subset (List.mem_cons_of_mem _ List.mem_cons_self)⟩
  by_cases hgmem : g ∈ stored.keys
  · obtain ⟨v, hv⟩ := Object.mem_keys_iff.1 hgmem
    by_cases htmem : t ∈ stored.keys
    · -- Both names are there, and the later one wins unless it has nothing.
      obtain ⟨w, hw⟩ := Object.mem_keys_iff.1 htmem
      simp only [Object.pair_sublist_iff hnodup hgmem htmem hne, hv, hw, Object.getD,
        Option.getD_some, Option.some_or]
      by_cases hlast : [t, g].Sublist stored.keys <;> simp [hlast]
    · have hnone := Object.get?_eq_none_iff.2 htmem
      rw [if_neg fun hsub => htmem (hmem hsub).2, Object.getD, hnone, hv]
      simp [Value.isNull]
  · have hnone := Object.get?_eq_none_iff.2 hgmem
    simp only [if_neg fun hsub => hgmem (hmem hsub).1, hnone, Option.none_or, ite_self]

/-- As long as a document has under a stored name what is stored there, that name stands behind the
    caller's. -/
theorem not_sublist_seen (h : (g, t) ∈ n.pairs) (hgrows : (n.seen tagField stored).Grows data)
    (hsame : data.get? t = (n.seen tagField stored).get? t) : ¬[t, g].Sublist data.keys := by
  intro hsub
  have hrenamed := Object.get?_rename (o := Document.decode stored tagField)
    (Document.nodup_decode hid hnodup tagField) fun k => rename_eq_iff (mem_flip h)
  have htmem := hsub.subset List.mem_cons_self
  rw [Object.mem_keys_iff, hsame, get?_seen_stored hid hnodup havoids h,
    ← Document.get?_decode_plain hid (havoids.isPlain (stored_mem h))] at htmem
  -- What is stored under the stored name comes out under the caller's, and in the first place.
  have hgmem : g ∈ ((Document.decode stored tagField).rename n.flip.rename).keys := by
    obtain ⟨w, hw⟩ := htmem
    rw [Object.mem_keys_iff, hrenamed, hw]
    split
    · exact ⟨w, rfl⟩
    · cases (Document.decode stored tagField).get? g with
      | none => exact ⟨w, rfl⟩
      | some v => exact ⟨v, rfl⟩
  have hall := (Document.grows_restore _ (Document.decode stored tagField)).trans hgrows
  have hfirst := (hall.sublist_iff (Object.nodup_rename _ _) fun _ => hgmem).1 hsub
  exact Object.get?_eq_none_iff.1 (Object.get?_rename_of_ne (rename_ne (mem_flip h)) _)
    (hfirst.subset List.mem_cons_self)

end

/-! ## Writing -/

theorem nodup_written (n : Naming) (tagField : Option String) (data : Object) :
    (n.written tagField data).keys.Nodup := by
  rw [written, Document.changes]
  exact Object.nodup_keepKeys (Object.nodup_rename _ _) _

theorem get?_written (n : Naming) (tagField : Option String) (data : Object) (key : String) :
    (n.written tagField data).get? key =
      if Document.isPlain tagField key =
        true then (data.populated.rename n.rename).get? key else none := by
  rw [written, Document.changes, Object.get?_keepKeys]
  rfl

/-- Nothing is written under a caller's name. -/
theorem get?_written_given (h : (g, t) ∈ n.pairs) (tagField : Option String) (data : Object) :
    (n.written tagField data).get? g = none := by
  rw [get?_written, Object.get?_rename_of_ne (rename_ne h), ite_self]

section

variable (hnodup : data.keys.Nodup)

include hnodup

/-- **Under a stored name the caller's value is written only if he has none under the stored name**,
    where that stands behind his own. -/
theorem get?_written_stored (havoids : n.Avoids tagField) (h : (g, t) ∈ n.pairs)
    (hsub : ¬[t, g].Sublist data.keys) : (n.written tagField data).get? t =
      if (data.getD t).isNull = true then data.populated.get? g else data.get? t := by
  rw [get?_written, if_pos (havoids.isPlain (stored_mem h)),
    Object.get?_rename (hnodup.sublist (Object.keys_populated_sublist data)) fun k =>
      rename_eq_iff h,
    if_neg fun hpopulated => hsub (hpopulated.trans (Object.keys_populated_sublist data)),
    Object.get?_populated hnodup]
  split
  · rfl
  · rename_i hpopulated
    obtain ⟨w, hw⟩ := Object.exists_of_isNull_ne hpopulated
    rw [hw, Option.some_or]

/-- A name in no pair is written as it is. -/
theorem get?_written_other (tagField : Option String) (hkey : key ∉ n.names) :
    (n.written tagField data).get? key =
      if Document.isPlain tagField key = true ∧
      (data.getD key).isNull = false then data.get? key else none := by
  rw [get?_written, Object.get?_rename_of_unique
    (hnodup.sublist (Object.keys_populated_sublist data))
    fun _ => rename_eq_iff_of_notMem hkey, Object.get?_populated hnodup]
  cases Document.isPlain tagField key <;> cases (data.getD key).isNull <;> rfl

end

/-! ## Writing back -/

section

variable {v : Value} (hid : stored.get? "_id" = some id) (hnodup : stored.keys.Nodup)
  (havoids : n.Avoids tagField) (hfs : (f, s) ∈ n.pairs)
  (hoverlay : Document.overlay stored (n.written tagField ((n.seen tagField stored).set f v)) =
    .ok merged)

include hid hoverlay in
/-- What has been written back has the fields that were there, and the same identifier. -/
theorem back_grows (rev : Value) : stored.Grows (merged.set "_rev" rev) ∧
    (merged.set "_rev" rev).get? "_id" = some id := by
  obtain ⟨hgrows, hsame, -⟩ := Document.overlay_fields hoverlay (nodup_written _ _ _)
  refine ⟨hgrows.trans (Object.grows_set _ _ _), ?_⟩
  rw [Object.get?_set_ne _ _ (by decide), hsame, hid]

include havoids hoverlay

/-- Under a caller's name nothing changes. -/
theorem get?_back_given (rev : Value) (h : (g, t) ∈ n.pairs) :
    (merged.set "_rev" rev).get? g = stored.get? g := by
  obtain ⟨-, -, hget⟩ := Document.overlay_fields hoverlay (nodup_written _ _ _)
  obtain ⟨-, hkeyid, hrev, -⟩ := havoids g (given_mem h)
  rw [Object.get?_set_ne _ _ (Ne.symm hrev), hget g hkeyid hrev,
    get?_written_given h, Option.none_or]

include hid hnodup hfs

/-- Under a stored name stays what is there; only if that is nothing, the caller's value comes
    there. -/
theorem get?_back_stored (rev : Value) (h : (g, t) ∈ n.pairs) :
    (merged.set "_rev" rev).get? t =
      if (stored.getD t).isNull = true then
        (((n.seen tagField stored).set f v).populated.get? g).or (stored.get? t)
      else stored.get? t := by
  obtain ⟨-, -, hget⟩ := Document.overlay_fields hoverlay (nodup_written _ _ _)
  obtain ⟨-, hkeyid, hrev, -⟩ := havoids t (stored_mem h)
  have hne : f ≠ t := fun heq =>
    stored_notMem_given h (heq ▸ List.mem_map_of_mem (f := Prod.fst) hfs)
  have hsame : ((n.seen tagField stored).set f v).get? t = (n.seen tagField stored).get? t :=
    Object.get?_set_ne _ _ hne
  have hsub := not_sublist_seen hid hnodup havoids h (Object.grows_set _ f v) hsame
  rw [get?_seen_stored hid hnodup havoids h] at hsame
  rw [Object.get?_set_ne _ _ (Ne.symm hrev), hget t hkeyid hrev,
    get?_written_stored ((Object.grows_set _ _ _).nodup (nodup_seen _ _ _)) havoids h hsub,
    Object.getD, hsame, ← Object.getD]
  split
  · rfl
  · cases stored.get? t <;> rfl

omit havoids in
/-- Nor under a name in no pair, but for the revision. -/
theorem get?_back_other (rev : Value) (hkey : key ∉ n.names) (hrev : key ≠ "_rev") :
    (merged.set "_rev" rev).get? key = stored.get? key := by
  obtain ⟨-, hsame, hget⟩ := Document.overlay_fields hoverlay (nodup_written _ _ _)
  rw [Object.get?_set_ne _ _ (Ne.symm hrev)]
  by_cases hkeyid : key = "_id"
  · rw [hkeyid, hsame]
  · have hne : f ≠ key := fun heq => hkey (heq ▸ given_mem hfs)
    rw [hget key hkeyid hrev,
      get?_written_other ((Object.grows_set _ _ _).nodup (nodup_seen _ _ _)) _ hkey]
    split
    · rename_i hplain
      rw [Object.get?_set_ne _ _ hne, get?_seen_other hid hnodup _ hkey,
        Document.get?_decode_plain hid hplain.1]
      cases stored.get? key <;> rfl
    · rfl

omit havoids in
/-- So under such a name the caller sees what he has seen before. -/
theorem get?_seen_back_other (rev : Value) (hkey : key ∉ n.names) :
    (n.seen tagField (merged.set "_rev" rev)).get? key = (n.seen tagField stored).get? key := by
  obtain ⟨hgrows, hidback⟩ := back_grows hid hoverlay rev
  rw [get?_seen_other hidback (hgrows.nodup hnodup) tagField hkey,
    get?_seen_other hid hnodup tagField hkey,
    Document.get?_decode hidback, Document.get?_decode hid]
  by_cases hrev : key = "_rev"
  · subst hrev
    rfl
  · rw [get?_back_other hid hnodup hfs hoverlay rev hkey hrev]

/-- **What a caller sees who has written back what he had seen with one field changed**: under his
    own names what he has written, as long as nothing stands under the stored name or behind it
    under his own; and otherwise what he had seen. -/
theorem get?_seen_back (rev : Value) (h : (g, t) ∈ n.pairs) :
    (n.seen tagField (merged.set "_rev" rev)).get? g =
      if [t, g].Sublist stored.keys ∨ (stored.getD t).isNull = false ∨
        (((n.seen tagField stored).set f v).getD g).isNull =
          true then (n.seen tagField stored).get? g
      else ((n.seen tagField stored).set f v).get? g := by
  obtain ⟨hgrows, hidback⟩ := back_grows hid hoverlay rev
  have hgiven := get?_back_given havoids hoverlay rev h
  have hstored := get?_back_stored hid hnodup havoids hfs hoverlay rev h
  have hsub : [t, g].Sublist (merged.set "_rev" rev).keys ↔ [t, g].Sublist stored.keys :=
    hgrows.sublist_iff hnodup fun hmem => by
      rwa [Object.mem_keys_iff, hgiven, ← Object.mem_keys_iff] at hmem
  rw [Object.get?_populated ((Object.grows_set _ _ _).nodup (nodup_seen _ _ _))] at hstored
  rw [get?_seen_given hidback (hgrows.nodup hnodup) havoids h,
    get?_seen_given hid hnodup havoids h, hgiven]
  by_cases hother : (stored.getD t).isNull = true
  · rw [if_pos hother] at hstored
    by_cases hvalue : (((n.seen tagField stored).set f v).getD g).isNull = true
    · -- Nothing is written, so nothing has changed.
      rw [if_pos hvalue, Option.none_or] at hstored
      simp only [Object.getD, hsub, hstored] at hother hvalue ⊢
      simp [hother, hvalue]
    · obtain ⟨w, hw⟩ := Object.exists_of_isNull_ne hvalue
      rw [if_neg hvalue, hw, Option.some_or] at hstored
      simp only [Object.getD, hsub, hstored, hw, Option.getD_some] at hother hvalue ⊢
      by_cases hlast : [t, g].Sublist stored.keys
      · obtain ⟨a, ha⟩ := Object.mem_keys_iff.1
          (hlast.subset (List.mem_cons_of_mem _ List.mem_cons_self))
        simp [hlast, ha]
      · simp [hlast, hother, hvalue]
  · -- What stands under the stored name stays there.
    rw [if_neg hother] at hstored
    simp only [Object.getD, hsub, hstored] at hother ⊢
    simp [hother]

/-- **A value that is set under one of the caller's names** is seen again just when nothing stands
    under the stored name and no field of the caller's name behind it.  Every other name of the
    caller's shows what it has shown before. -/
theorem seen_back (hv : v.isNull = false) (rev : Value) :
    (n.seen tagField (merged.set "_rev" rev)).get? f =
        (if (stored.getD s).isNull = true ∧ ¬[s, f].Sublist stored.keys then some v
        else (n.seen tagField stored).get? f) ∧
      ∀ key, key ∉ n.pairs.map Prod.snd → key ≠ f →
        (n.seen tagField (merged.set "_rev" rev)).get? key = (n.seen tagField stored).get? key := by
  refine ⟨?_, fun key hstored hne => ?_⟩
  · have hset : (((n.seen tagField stored).set f v).getD f).isNull = false := by
      rw [Object.getD, Object.get?_set_self]
      exact hv
    rw [get?_seen_back hid hnodup havoids hfs hoverlay rev hfs, Object.get?_set_self]
    by_cases hnull : (stored.getD s).isNull = true <;>
      by_cases hlast : [s, f].Sublist stored.keys <;>
      simp [hnull, hlast, hset]
  · by_cases hgiven : key ∈ n.pairs.map Prod.fst
    · obtain ⟨⟨_, t⟩, hpair, rfl⟩ := List.mem_map.1 hgiven
      rw [get?_seen_back hid hnodup havoids hfs hoverlay rev hpair,
        Object.get?_set_ne _ _ (Ne.symm hne), ite_self]
    · exact get?_seen_back_other hid hnodup hfs hoverlay rev fun hmem =>
        (List.mem_append.1 hmem).elim hgiven hstored

end

end Naming

end DocStore
