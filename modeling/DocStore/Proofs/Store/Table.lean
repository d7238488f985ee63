/-
  Tables in order.

  A table that was built by entering and removing has its names in strict order (`Ordered`), so
  every name stands at most once.  Then looking up says all there is to say about a table:

  1. **Kept** — entering and removing keep the order (`ordered_put`, `ordered_remove`).

  2. **Members** — an entry stands in the table exactly when it is found under its name
     (`mem_iff_get?`), so tables in which the same is found are the same (`Ordered.ext`).

  3. **Changing** — what is found after entering has been entered or was found before
     (`get?_put_some`), and what is found after removing was found before (`get?_remove_some`).
     What has been removed is gone, because it stood there only once (`get?_remove_self`).

  Databases are kept in the other kind of table, in which a key may be any value.  There a key may
  find what was entered under another one, so the lemma on entering (`Entries.get?_put_cases`) says
  only that whatever is found is either what was found before or what has just been entered in place
  of it.
-/
import Mathlib.Data.String.Basic
import DocStore.Store.Table
import DocStore.Value.Entries

namespace DocStore

namespace Table

variable {α : Type}

/-- A table with its names in strict order. -/
def Ordered (t : Table α) : Prop := t.Pairwise fun a b => a.1 < b.1

/-- A name below all names of a table is not found in it. -/
theorem get?_of_below {t : Table α} {name : String} (h : ∀ entry ∈ t, name < entry.1) :
    t.get? name = none := by
  induction t with
  | nil => rfl
  | cons entry rest ih =>
    obtain ⟨hentry, hrest⟩ := List.forall_mem_cons.1 h
    rw [get?, if_neg (ne_of_gt hentry), ih hrest]

/-- What is found under a name stands in the table. -/
theorem mem_of_get? {t : Table α} {name : String} {a : α} (h : t.get? name = some a) :
    (name, a) ∈ t := by
  induction t with
  | nil => exact absurd h (by simp [get?])
  | cons entry rest ih =>
    obtain ⟨k, b⟩ := entry
    rw [get?] at h
    split at h
    · rename_i hk
      obtain rfl : b = a := by simpa using h
      rw [hk]
      exact List.mem_cons_self
    · exact List.mem_cons_of_mem _ (ih h)

/-- In an ordered table an entry is found under its name. -/
theorem mem_iff_get? {t : Table α} (ht : t.Ordered) {name : String} {a : α} :
    (name, a) ∈ t ↔ t.get? name = some a := by
  refine ⟨fun h => ?_, mem_of_get?⟩
  induction t with
  | nil => exact absurd h List.not_mem_nil
  | cons entry rest ih =>
    obtain ⟨hfirst, hrest⟩ := List.pairwise_cons.1 ht
    rcases List.mem_cons.1 h with heq | hmem
    · rw [← heq, get?, if_pos rfl]
    · rw [get?, if_neg (ne_of_lt (hfirst _ hmem)), ih hrest hmem]

/-- The entries under a name that satisfy a condition are the one found there, if it does. -/
theorem filter_name {t : Table α} (ht : t.Ordered) (name : String) (p : α → Bool) :
    (t.filter fun entry => entry.1 = name && p entry.2).map Prod.snd =
      ((t.get? name).filter p).toList := by
  induction t with
  | nil => rfl
  | cons entry rest ih =>
    obtain ⟨hfirst, hrest⟩ := List.pairwise_cons.1 ht
    obtain ⟨k, a⟩ := entry
    rw [get?]
    by_cases hk : k = name
    · -- The name stands here, so all that follow are above it.
      have hnone : (rest.filter fun entry => entry.1 = name && p entry.2).map Prod.snd = [] := by
        rw [ih hrest, get?_of_below fun other hmem => hk ▸ hfirst other hmem]
        rfl
      rw [if_pos hk, List.filter_cons]
      cases hp : p a with
      | false => rw [if_neg (by simp), hnone, Option.filter_some_neg (by simp [hp])]; rfl
      | true => rw [if_pos (by simp [hk]), List.map_cons, hnone, Option.filter_some_pos hp]; rfl
    · rw [if_neg hk, ← ih hrest, List.filter_cons, if_neg (by simp [hk])]

/-- Of a table with some entries left out, a name finds what it found, unless that is left out. -/
theorem get?_filter {t : Table α} (ht : t.Ordered) (p : α → Bool) (name : String) :
    get? (t.filter fun entry => p entry.2) name = (t.get? name).filter p := by
  have hkept : Ordered (t.filter fun entry => p entry.2) := List.Pairwise.filter _ ht
  ext a
  rw [← mem_iff_get? hkept, List.mem_filter, mem_iff_get? ht, Option.filter_eq_some_iff]

/-- Looking up says all there is to say about an ordered table. -/
theorem Ordered.ext {t u : Table α} (ht : t.Ordered) (hu : u.Ordered)
    (h : ∀ name, t.get? name = u.get? name) : t = u := by
  have hmem : ∀ entry, entry ∈ t ↔ entry ∈ u := by
    rintro ⟨name, a⟩
    rw [mem_iff_get? ht, mem_iff_get? hu, h]
  refine List.Perm.eq_of_pairwise (fun a b _ _ hab hba => absurd hba (lt_asymm hab)) ht hu ?_
  exact (List.perm_ext_iff_of_nodup
    (List.Pairwise.imp (fun hlt heq => ne_of_lt hlt (congrArg Prod.fst heq)) ht)
    (List.Pairwise.imp (fun hlt heq => ne_of_lt hlt (congrArg Prod.fst heq)) hu)).2 hmem

/-- Entering adds no name but the one entered. -/
theorem mem_put {t : Table α} {name : String} {a : α} {entry : String × α}
    (h : entry ∈ t.put name a) : entry = (name, a) ∨ entry ∈ t := by
  induction t with
  | nil => exact .inl (List.mem_singleton.1 h)
  | cons first rest ih =>
    obtain ⟨k, b⟩ := first
    rw [put] at h
    split at h
    · exact (List.mem_cons.1 h).imp_right (List.mem_cons_of_mem _)
    · split at h
      · exact List.mem_cons.1 h
      · rcases List.mem_cons.1 h with rfl | hrest
        · exact .inr List.mem_cons_self
        · exact (ih hrest).imp_right (List.mem_cons_of_mem _)

/-- Entering keeps the order. -/
theorem ordered_put {t : Table α} (ht : t.Ordered) (name : String) (a : α) :
    (t.put name a).Ordered := by
  induction t with
  | nil => exact List.pairwise_singleton _ _
  | cons first rest ih =>
    obtain ⟨k, b⟩ := first
    obtain ⟨hfirst, hrest⟩ := List.pairwise_cons.1 ht
    rw [put]
    split
    · rename_i hk
      exact List.pairwise_cons.2 ⟨fun entry hmem => hk ▸ hfirst entry hmem, hrest⟩
    · rename_i hk
      split
      · rename_i hlt
        refine List.pairwise_cons.2 ⟨fun entry hmem => ?_, ht⟩
        rcases List.mem_cons.1 hmem with rfl | hmem
        · exact hlt
        · exact lt_trans hlt (hfirst entry hmem)
      · rename_i hge
        refine List.pairwise_cons.2 ⟨fun entry hmem => ?_, ih hrest⟩
        rcases mem_put hmem with rfl | hmem
        · exact lt_of_le_of_ne (not_lt.1 hge) hk
        · exact hfirst entry hmem

/-- What is found after entering is what has been entered, or was found before. -/
theorem get?_put_some {t : Table α} {name other : String} {a b : α}
    (h : (t.put name a).get? other = some b) : other = name ∧ b = a ∨ t.get? other = some b := by
  by_cases heq : other = name
  · rw [heq, get?_put_self] at h
    exact .inl ⟨heq, (Option.some.inj h).symm⟩
  · rw [get?_put_ne _ heq] at h
    exact .inr h

/-- What is left after removing stood there before, in the same order. -/
theorem remove_sublist (t : Table α) (name : String) : (t.remove name).Sublist t := by
  induction t with
  | nil => exact List.Sublist.refl []
  | cons entry rest ih =>
    rw [remove]
    split
    · exact List.sublist_cons_self _ _
    · exact ih.cons_cons _

/-- Removing keeps the order. -/
theorem ordered_remove {t : Table α} (ht : t.Ordered) (name : String) : (t.remove name).Ordered :=
  List.Pairwise.sublist (remove_sublist t name) ht

/-- What has been removed is not found. -/
theorem get?_remove_self {t : Table α} (ht : t.Ordered) (name : String) :
    (t.remove name).get? name = none := by
  induction t with
  | nil => rfl
  | cons entry rest ih =>
    obtain ⟨hfirst, hrest⟩ := List.pairwise_cons.1 ht
    rw [remove]
    split
    · rename_i hk
      exact get?_of_below fun other hmem => hk ▸ hfirst other hmem
    · rename_i hk
      rw [get?, if_neg hk, ih hrest]

/-- Removing a name leaves the others alone. -/
theorem get?_remove_ne (t : Table α) {name other : String} (h : other ≠ name) :
    (t.remove name).get? other = t.get? other := by
  induction t with
  | nil => rfl
  | cons entry rest ih =>
    obtain ⟨k, b⟩ := entry
    rw [remove]
    split
    · rename_i hk
      rw [get?, if_neg (by rw [hk]; exact Ne.symm h)]
    · rw [get?, get?, ih]

/-- What is found after removing was found before. -/
theorem get?_remove_some {t : Table α} (ht : t.Ordered) {name other : String} {a : α}
    (h : (t.remove name).get? other = some a) : t.get? other = some a := by
  by_cases heq : other = name
  · rw [heq, get?_remove_self ht] at h
    cases h
  · rwa [get?_remove_ne _ heq] at h

end Table

/-- What is found after entering is what was found before, or what has been entered in place of what
    the key entered found before. -/
theorem Entries.get?_put_cases {α : Type} (t : Entries α) (key other : Value) (a : α) :
    (t.put key a).get? other = t.get? other ∨
      (t.put key a).get? other = some a ∧ t.get? other = t.get? key := by
  induction t with
  | nil =>
    by_cases h : key.same other = true
    · exact .inr ⟨by simp [put, get?, h], rfl⟩
    · exact .inl (by simp [put, get?, h])
  | cons entry rest ih =>
    obtain ⟨k, b⟩ := entry
    -- An entry is replaced or passed by, and then it is the one looked for or not.
    by_cases hkey : k.same key = true
    · by_cases hother : k.same other = true
      · exact .inr ⟨by simp [put, get?, hkey, hother], by simp [get?, hkey, hother]⟩
      · exact .inl (by simp [put, get?, hkey, hother])
    · by_cases hother : k.same other = true
      · exact .inl (by simp [put, get?, hkey, hother])
      · simpa [put, get?, hkey, hother] using ih

end DocStore
