/-
  Fields that are set one after the other.

  What an object shows under a key is all that matters of it, except where keys are renamed: then
  two keys may become one, and which value stays depends on the order of the fields.

  1. **Keys** — setting fields keeps the keys that are there, in their order, and puts new ones
     behind them (`grows_merge`).

  2. **The last wins** — of the fields set under one key the last one stays (`get?_merge`).

  3. **Leaving out** — what leaving fields out does to the lookup (`get?_keepKeys`,
     `get?_populated`).

  4. **Renaming** — where two keys become one, the value of the one that stands later stays
     (`get?_rename`).
-/
import DocStore.Proofs.Document.Overlay

namespace DocStore

namespace Object

/-! ## Keys -/

/-- A key stands in an object just when it has a value there. -/
theorem mem_keys_iff {o : Object} {key : String} : key ∈ o.keys ↔ ∃ v, o.get? key = some v := by
  induction o with
  | nil => simp [keys, get?]
  | cons field rest ih =>
    obtain ⟨k, v⟩ := field
    rw [get?]
    by_cases hk : k = key
    · simp [keys, hk]
    · rw [if_neg hk, ← ih]
      simp [keys, Ne.symm hk]

theorem get?_eq_none_iff {o : Object} {key : String} : o.get? key = none ↔ key ∉ o.keys := by
  rw [mem_keys_iff, not_exists, Option.eq_none_iff_forall_ne_some]

/-- What an object has under a key is one of its fields. -/
theorem mem_of_get? {o : Object} {key : String} {v : Value} (h : o.get? key = some v) :
    (key, v) ∈ o := by
  induction o with
  | nil => cases h
  | cons field rest ih =>
    rw [get?] at h
    split at h
    · rename_i hkey
      rw [← hkey, ← Option.some.inj h]
      exact List.mem_cons_self
    · exact List.mem_cons_of_mem _ (ih h)

/-- With every key once, each field is what the object has under its key. -/
theorem get?_of_mem {o : Object} (hkeys : o.keys.Nodup) {field : String × Value} (h : field ∈ o) :
    o.get? field.1 = some field.2 := by
  induction o with
  | nil => cases h
  | cons first rest ih =>
    obtain ⟨hfirst, hrest⟩ := List.nodup_cons.1 hkeys
    rw [get?]
    rcases List.mem_cons.1 h with rfl | h
    · rw [if_pos rfl]
    · have hne : first.1 ≠ field.1 := fun heq => hfirst (List.mem_map.2 ⟨field, h, heq.symm⟩)
      rw [if_neg hne, ih hrest h]

/-- Where a key shows something, it has a value. -/
theorem exists_of_isNull_ne {o : Object} {key : String} (h : ¬(o.getD key).isNull = true) :
    ∃ v, o.get? key = some v := by
  rw [getD] at h
  cases hget : o.get? key with
  | none =>
    rw [hget] at h
    exact absurd rfl h
  | some v => exact ⟨v, rfl⟩

/-- What stands at the head makes no difference to two others. -/
theorem pair_sublist_cons {a b k : String} (hk : k ≠ a) (keys : List String) :
    [a, b].Sublist (k :: keys) ↔ [a, b].Sublist keys :=
  ⟨fun hsub => (List.sublist_cons_iff.1 hsub).resolve_right fun ⟨_, hr, _⟩ =>
    hk (List.cons.inj hr).1.symm, fun hsub => hsub.cons k⟩

/-- Of two keys that are there, one stands behind the other. -/
theorem pair_sublist_iff {keys : List String} (hnodup : keys.Nodup) {a b : String} (ha : a ∈ keys)
    (hb : b ∈ keys) (hne : a ≠ b) : [a, b].Sublist keys ↔ ¬[b, a].Sublist keys := by
  induction keys with
  | nil => cases ha
  | cons k rest ih =>
    obtain ⟨hk, hrest⟩ := List.nodup_cons.1 hnodup
    by_cases hka : k = a
    · subst hka
      have hb := (List.mem_cons.1 hb).resolve_left (Ne.symm hne)
      rw [pair_sublist_cons hne]
      exact iff_of_true (List.cons_sublist_cons.2 (List.singleton_sublist.2 hb)) fun hsub =>
        hk (hsub.subset (List.mem_cons_of_mem _ List.mem_cons_self))
    · have ha := (List.mem_cons.1 ha).resolve_left (Ne.symm hka)
      rw [pair_sublist_cons hka]
      by_cases hkb : k = b
      · subst hkb
        exact iff_of_false (fun hsub =>
            hk (hsub.subset (List.mem_cons_of_mem _ List.mem_cons_self)))
          fun hnot => hnot (List.cons_sublist_cons.2 (List.singleton_sublist.2 ha))
      · rw [pair_sublist_cons hkb]
        exact ih hrest ha ((List.mem_cons.1 hb).resolve_left (Ne.symm hkb))

/-- Leaving other keys out makes no difference to two that stay. -/
theorem pair_sublist_filter {p : String → Bool} {a b : String} (ha : p a = true) (hb : p b = true)
    (keys : List String) : [a, b].Sublist (keys.filter p) ↔ [a, b].Sublist keys := by
  refine ⟨fun hsub => hsub.trans List.filter_sublist, fun hsub => ?_⟩
  have hfilter := hsub.filter p
  rwa [List.filter_cons, if_pos ha, List.filter_cons, if_pos hb, List.filter_nil] at hfilter

/-- An object to which keys have come: those that were there stand first, in their order, and unless
    a key stood there twice, none does now. -/
structure Grows (o grown : Object) : Prop where
  first : o.keys <+: grown.keys
  nodup : o.keys.Nodup → grown.keys.Nodup

theorem Grows.refl (o : Object) : o.Grows o := ⟨List.prefix_rfl, id⟩

theorem Grows.trans {o between grown : Object} (h : o.Grows between) (h' : between.Grows grown) :
    o.Grows grown := ⟨h.first.trans h'.first, h'.nodup ∘ h.nodup⟩

theorem grows_set (o : Object) (key : String) (v : Value) : o.Grows (o.set key v) := by
  by_cases hkey : key ∈ o.keys
  · have hkeys : (o.set key v).keys = o.keys := by rw [keys_set, if_pos hkey]
    exact ⟨hkeys.symm ▸ List.prefix_rfl, fun h => hkeys.symm ▸ h⟩
  · have hkeys : (o.set key v).keys = o.keys ++ [key] := by rw [keys_set, if_neg hkey]
    refine ⟨hkeys.symm ▸ List.prefix_append _ _, fun h => hkeys.symm ▸ List.nodup_append.2
      ⟨h, List.pairwise_singleton _ _, fun a ha b hb hab => hkey ?_⟩⟩
    rwa [← List.mem_singleton.1 hb, ← hab]

theorem grows_merge (o changes : Object) : o.Grows (o.merge changes) := by
  induction changes generalizing o with
  | nil => exact .refl o
  | cons field rest ih => exact (grows_set o field.1 field.2).trans (ih _)

/-- A key that was there stands behind the same keys as before. -/
theorem Grows.sublist_iff {o grown : Object} (h : o.Grows grown)
    (hnodup : o.keys.Nodup) {a b : String} (hb : b ∈ grown.keys → b ∈ o.keys) :
    [a, b].Sublist grown.keys ↔ [a, b].Sublist o.keys := by
  refine ⟨fun hsub => ?_, fun hsub => hsub.trans h.first.sublist⟩
  have hb := hb (hsub.subset (List.mem_cons_of_mem _ List.mem_cons_self))
  have hgrown := h.nodup hnodup
  obtain ⟨extra, heq⟩ := h.first
  rw [← heq] at hsub hgrown
  -- What of the two stands among the new keys ends with the second one, which is none of them.
  obtain ⟨front, back, hsplit, hfront, hback⟩ := List.sublist_append_iff.1 hsub
  rcases List.eq_nil_or_concat back with rfl | ⟨init, last, rfl⟩
  · rw [hsplit, List.append_nil]
    exact hfront
  · have hlast : last = b := by
      have h := congrArg List.getLast? hsplit
      simpa using h.symm
    exact absurd rfl ((List.nodup_append.1 hgrown).2.2 b hb b (hback.subset (by simp [hlast])))

/-- Keys that are set one after the other from nothing stand once each. -/
theorem nodup_ofFields (fields : Object) : (ofFields fields).keys.Nodup :=
  (grows_merge [] fields).nodup List.Pairwise.nil

/-! ## The last wins -/

theorem get?_append (first second : Object) (key : String) :
    get? (first ++ second) key = (first.get? key).or (second.get? key) := by
  induction first with
  | nil => rfl
  | cons field rest ih =>
    obtain ⟨k, v⟩ := field
    rw [List.cons_append, get?, get?, ih]
    split <;> rfl

/-- **Of the fields set under one key the last stays.** -/
theorem get?_merge (o changes : Object) (key : String) :
    (o.merge changes).get? key = (get? changes.reverse key).or (o.get? key) := by
  induction changes generalizing o with
  | nil => rfl
  | cons field rest ih =>
    show ((o.set field.1 field.2).merge rest).get? key = _
    rw [ih, List.reverse_cons, get?_append, Option.or_assoc, get?_set]
    congr 1
    rw [get?, get?]
    split <;> rfl

/-- Where every key stands once, it makes no difference from which end it is looked for. -/
theorem get?_reverse {o : Object} (h : o.keys.Nodup) (key : String) :
    get? o.reverse key = o.get? key := by
  induction o with
  | nil => rfl
  | cons field rest ih =>
    obtain ⟨k, v⟩ := field
    obtain ⟨hk, hrest⟩ := List.nodup_cons.1 h
    rw [List.reverse_cons, get?_append, ih hrest, get?, get?, get?]
    split
    · rename_i heq
      rw [← heq, get?_eq_none_iff.2 hk]
      rfl
    · rw [Option.or_none]

theorem get?_merge_of_nodup (o : Object) {changes : Object} (h : changes.keys.Nodup)
    (key : String) :
    (o.merge changes).get? key = (changes.get? key).or (o.get? key) := by
  rw [get?_merge, get?_reverse h]

/-- Fields whose keys stand once each are what comes of setting them. -/
theorem ofFields_of_nodup {fields : Object} (h : fields.keys.Nodup) : ofFields fields = fields := by
  have hfold : ∀ (rest acc : Object), (keys (acc ++ rest)).Nodup →
      acc.merge rest = acc ++ rest := by
    intro rest
    induction rest with
    | nil => exact fun acc _ => (List.append_nil acc).symm
    | cons field rest ih =>
      intro acc hacc
      have hset : acc.set field.1 field.2 = acc ++ [field] := by
        have hnew : field.1 ∉ acc.keys := by
          intro hmem
          rw [keys, List.map_append] at hacc
          exact (List.nodup_append.1 hacc).2.2 _ hmem _ List.mem_cons_self rfl
        clear hacc ih
        induction acc with
        | nil => rfl
        | cons first others ih =>
          obtain ⟨k, v⟩ := first
          rw [keys, List.map_cons, List.mem_cons, not_or] at hnew
          rw [set, if_neg (Ne.symm hnew.1), ih hnew.2]
          rfl
      show (acc.set field.1 field.2).merge rest = _
      rw [hset, ih _ (by simpa using hacc)]
      simp
  exact hfold fields [] h

/-! ## Leaving out -/

theorem get?_keepKeys (p : String → Bool) (o : Object) (key : String) :
    (o.keepKeys p).get? key = if p key = true then o.get? key else none := by
  induction o with
  | nil => simp [keepKeys, get?]
  | cons field rest ih =>
    obtain ⟨k, v⟩ := field
    rw [keepKeys, List.filter_cons]
    by_cases hk : k = key
    · subst hk
      cases hp : p k with
      | false =>
        rw [if_neg Bool.false_ne_true]
        exact ih.trans (by rw [hp]; rfl)
      | true => simp [get?]
    · rw [get?, if_neg hk, ← ih]
      cases p k with
      | false => rw [if_neg Bool.false_ne_true]; rfl
      | true => rw [if_pos rfl, get?, if_neg hk]; rfl

theorem keys_keepKeys (p : String → Bool) (o : Object) : (o.keepKeys p).keys = o.keys.filter p := by
  rw [keepKeys, keys, keys, List.filter_map]
  rfl

theorem nodup_keepKeys {o : Object} (h : o.keys.Nodup) (p : String → Bool) :
    (o.keepKeys p).keys.Nodup := by
  rw [keys_keepKeys]
  exact h.filter p

/-- The fields that are populated. -/
def populated (o : Object) : Object := o.filter fun field => !field.2.isNull

theorem keys_populated_sublist (o : Object) : o.populated.keys.Sublist o.keys :=
  List.Sublist.map _ List.filter_sublist

theorem get?_populated {o : Object} (h : o.keys.Nodup) (key : String) :
    o.populated.get? key = if (o.getD key).isNull then none else o.get? key := by
  induction o with
  | nil => rfl
  | cons field rest ih =>
    obtain ⟨k, v⟩ := field
    obtain ⟨hk, hrest⟩ := List.nodup_cons.1 h
    have ih := ih hrest
    rw [populated, List.filter_cons]
    by_cases heq : k = key
    · subst heq
      have hnone : get? (populated rest) k = none :=
        get?_eq_none_iff.2 fun hmem => hk ((keys_populated_sublist rest).subset hmem)
      rw [getD, get?, if_pos rfl]
      cases hv : v.isNull with
      | true =>
        simp only [hv, Bool.not_true, Bool.false_eq_true, if_false, Option.getD_some, if_true]
        exact hnone
      | false => simp [hv, get?]
    · rw [getD, get?, if_neg heq, ← getD, ← ih]
      cases v.isNull with
      | true => rw [if_neg (by decide)]; rfl
      | false => rw [if_pos (by decide), get?, if_neg heq]; rfl

/-! ## Renaming -/

/-- An object with its keys renamed, its fields set one after the other. -/
def rename (σ : String → String) (o : Object) : Object :=
  ofFields (o.map fun field => (σ field.1, field.2))

theorem nodup_rename (σ : String → String) (o : Object) : (o.rename σ).keys.Nodup :=
  nodup_ofFields _

/-- The value of a field stays unless a later one is renamed to the same key. -/
theorem get?_rename_cons (σ : String → String) (field : String × Value) (rest : Object)
    (key : String) :
    (rename σ (field :: rest)).get? key =
      ((rename σ rest).get? key).or (if σ field.1 = key then some field.2 else none) := by
  rw [rename, rename, ofFields, ofFields, get?_merge, get?_merge, List.map_cons, List.reverse_cons,
    get?_append]
  simp only [get?, Option.or_none]

/-- A key that no key is renamed to has no value. -/
theorem get?_rename_of_ne {σ : String → String} {key : String} (h : ∀ k, σ k ≠ key) (o : Object) :
    (o.rename σ).get? key = none := by
  induction o with
  | nil => rfl
  | cons field rest ih => rw [get?_rename_cons, ih, if_neg (h field.1), Option.or_none]

/-- A key has the value that it had before, if no other key of the object has become the same. -/
theorem get?_rename_of_inj {σ : String → String} {o : Object} {name : String}
    (hnodup : o.keys.Nodup) (h : ∀ k ∈ o.keys, σ k = σ name → k = name) :
    (o.rename σ).get? (σ name) = o.get? name := by
  induction o with
  | nil => rfl
  | cons field rest ih =>
    obtain ⟨k, v⟩ := field
    obtain ⟨hk, hrest⟩ := List.nodup_cons.1 hnodup
    rw [get?_rename_cons, ih hrest fun other hother =>
      h other (List.mem_cons_of_mem _ hother), get?]
    by_cases heq : k = name
    · subst heq
      rw [get?_eq_none_iff.2 hk, Option.none_or, if_pos rfl, if_pos rfl]
    · rw [if_neg fun hsame => heq (h k List.mem_cons_self hsame), Option.or_none, if_neg heq]

/-- **Where two keys become one**, the value of the one that stands later stays. -/
theorem get?_rename {σ : String → String} {o : Object} {key a b : String} (hnodup : o.keys.Nodup)
    (h : ∀ k, σ k = key ↔ k = a ∨ k = b) :
    (o.rename σ).get? key =
      if [b, a].Sublist o.keys then o.get? a else (o.get? b).or (o.get? a) := by
  induction o with
  | nil => rfl
  | cons field rest ih =>
    obtain ⟨k, v⟩ := field
    obtain ⟨hk, hrest⟩ := List.nodup_cons.1 hnodup
    have hcons : keys ((k, v) :: rest) = k :: keys rest := rfl
    have hmem : [b, a].Sublist (keys rest) → b ∈ keys rest ∧ a ∈ keys rest := fun hsub =>
      ⟨hsub.subset List.mem_cons_self, hsub.subset (List.mem_cons_of_mem _ List.mem_cons_self)⟩
    rw [get?_rename_cons, ih hrest, hcons]
    by_cases hkb : k = b
    · -- The first field has the one key, so it stays unless the other key is still to come.
      subst hkb
      have hnone : get? rest k = none := get?_eq_none_iff.2 hk
      rw [if_pos ((h k).2 (.inr rfl)), if_neg fun hsub => hk (hmem hsub).1, hnone, Option.none_or]
      by_cases ha : a ∈ keys rest
      · obtain ⟨w, hw⟩ := mem_keys_iff.1 ha
        have hne : k ≠ a := fun heq => hk (heq ▸ ha)
        rw [if_pos (List.cons_sublist_cons.2 (List.singleton_sublist.2 ha)), get?, if_neg hne, hw]
        rfl
      · rw [if_neg fun hsub => ha (List.singleton_sublist.1 (List.cons_sublist_cons.1 hsub)),
          get?_eq_none_iff.2 ha, Option.none_or, get?, if_pos rfl]
        rfl
    · simp only [pair_sublist_cons hkb, get?, hkb, if_false]
      by_cases hka : k = a
      · -- The first field has the other key, so it stays unless the one key is still to come.
        subst hka
        rw [if_pos ((h k).2 (.inl rfl)), if_neg fun hsub => hk (hmem hsub).2,
          if_neg fun hsub => hk (hmem hsub).2, if_pos rfl, get?_eq_none_iff.2 hk, Option.or_none]
      · rw [if_neg fun heq => ((h k).1 heq).elim hka hkb, Option.or_none, if_neg hka]

/-- A key that only one key is renamed to has the value of that one. -/
theorem get?_rename_of_unique {σ : String → String} {o : Object} {key a : String}
    (hnodup : o.keys.Nodup) (h : ∀ k, σ k = key ↔ k = a) : (o.rename σ).get? key = o.get? a := by
  rw [get?_rename hnodup (a := a) (b := a) fun k => by rw [h, or_self]]
  split
  · rfl
  · cases o.get? a <;> rfl

end Object

end DocStore
