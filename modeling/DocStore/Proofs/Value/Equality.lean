/-
  Equality of data is an equivalence.

  Documents hold data: null, booleans, numbers, texts, and lists and objects of data (`IsData`).  An
  object has every key once, and this is needed here, for `same` goes through the fields of one
  object and looks them up in the other.  With a key twice it would depend on which of the two
  objects is gone through.

  1. **Kinds** — a number is the same as what counts as the same number (`same_number_iff`), lists
     are the same element by element, and objects are the same key by key (`same_object_iff`).

  2. **Equivalence** — so a datum is the same as itself (`same_refl`), either way round
     (`same_symm`), and through another (`same_trans`), by induction over the datum.
-/
import DocStore.Proofs.Document.Fields
import DocStore.Value.Equality
import Mathlib.Data.List.Perm.Subperm

namespace DocStore.Value

/-- Data, as documents hold it. -/
inductive IsData : Value → Prop
  | null : IsData .null
  | bool (b : Bool) : IsData (.bool b)
  | int (n : Int) : IsData (.int n)
  | double (d : Double) : IsData (.double d)
  | text (s : String) : IsData (.text s)
  | list {items : List Value} (hitems : ∀ v ∈ items, IsData v) : IsData (.list items)
  | object {fields : Object} (hkeys : fields.keys.Nodup)
      (hvalues : ∀ field ∈ fields, IsData field.2) :
      IsData (.object fields)

/-! ## Kinds -/

variable {a b c : Value} {m : Int}

/-- A number is the same as what counts as the same number. -/
theorem same_number_iff (ha : a.units? = some m) : a.same b = true ↔ b.units? = some m := by
  have hsame : a.same b = b.units?.any fun n => decide (m = n) := by
    cases a with
    | bool => cases ha; cases b <;> rfl
    | int => cases ha; cases b <;> rfl
    | double => cases ha; cases b <;> rfl
    | _ => cases ha
  rw [hsame]
  cases b.units? <;> simp [eq_comm]

/-- Only a text has the content of a text. -/
theorem text_same_iff {s : String} {v : Value} : (Value.text s).same v = true ↔ v = .text s := by
  cases v with
  | text t => simp [same, eq_comm]
  | _ => exact iff_of_false (fun h => Bool.false_ne_true h) fun h => Value.noConfusion h

theorem sameFields_iff {fs gs : Object} :
    sameFields fs gs = true ↔ ∀ field ∈ fs, ∃ w, gs.get? field.1 = some w ∧
      field.2.same w = true := by
  induction fs with
  | nil => simp [sameFields]
  | cons field rest ih =>
    rw [sameFields, Bool.and_eq_true, ih, List.forall_mem_cons]
    cases gs.get? field.1 <;> simp

/-- Objects are the same when they have the same keys, and the same under each of them. -/
theorem same_object_iff {fs gs : Object} (hfs : fs.keys.Nodup) (hgs : gs.keys.Nodup) :
    (object fs).same (.object gs) = true ↔
      (∀ key, key ∈ fs.keys ↔ key ∈ gs.keys) ∧
        ∀ key v w, fs.get? key = some v → gs.get? key = some w → v.same w = true := by
  rw [same, Bool.and_eq_true, decide_eq_true_eq, sameFields_iff]
  have hlength : ∀ o : Object, o.keys.length = o.length := fun o => List.length_map _
  constructor
  · rintro ⟨hlen, hfields⟩
    -- All keys of the one are keys of the other, which has no more.
    have hsub : fs.keys ⊆ gs.keys := fun key hkey => by
      obtain ⟨v, hv⟩ := Object.mem_keys_iff.1 hkey
      obtain ⟨w, hw, -⟩ := hfields _ (Object.mem_of_get? hv)
      exact Object.mem_keys_iff.2 ⟨w, hw⟩
    have hperm : fs.keys.Perm gs.keys := (List.subperm_of_subset hfs hsub).perm_of_length_le
      (by rw [hlength, hlength]; exact Nat.le_of_eq hlen.symm)
    refine ⟨fun key => hperm.mem_iff, fun key v w hv hw => ?_⟩
    obtain ⟨w', hw', hsame⟩ := hfields _ (Object.mem_of_get? hv)
    rwa [Option.some.inj (hw.symm.trans hw')]
  · rintro ⟨hkeys, hvalues⟩
    refine ⟨?_, fun field hfield => ?_⟩
    · rw [← hlength, ← hlength]
      exact ((List.perm_ext_iff_of_nodup hfs hgs).2 hkeys).length_eq
    · have hv := Object.get?_of_mem hfs hfield
      obtain ⟨w, hw⟩ := Object.mem_keys_iff.1 ((hkeys field.1).1 (Object.mem_keys_iff.2 ⟨_, hv⟩))
      exact ⟨w, hw, hvalues _ _ _ hv hw⟩

/-! ## Equivalence -/

variable {xs ys zs : List Value}

theorem sameItems_refl (h : ∀ x ∈ xs, x.same x = true) : sameItems xs xs = true := by
  induction xs with
  | nil => rfl
  | cons x xs ih =>
    obtain ⟨hx, hxs⟩ := List.forall_mem_cons.1 h
    rw [sameItems, hx, ih hxs]
    rfl

/-- A datum is the same as itself. -/
theorem same_refl (ha : IsData a) : a.same a = true := by
  induction ha with
  | null => rfl
  | bool => exact (same_number_iff rfl).2 rfl
  | int => exact (same_number_iff rfl).2 rfl
  | double => exact (same_number_iff rfl).2 rfl
  | text => exact text_same_iff.2 rfl
  | list _ ih => exact sameItems_refl ih
  | object hkeys _ ih =>
    refine (same_object_iff hkeys hkeys).2 ⟨fun _ => Iff.rfl, fun key v w hv hw => ?_⟩
    rw [← Option.some.inj (hv.symm.trans hw)]
    exact ih _ (Object.mem_of_get? hv)

theorem sameItems_symm (h : ∀ x ∈ xs, ∀ {y}, IsData y → x.same y = true → y.same x = true)
    (hys : ∀ y ∈ ys, IsData y) (hsame : sameItems xs ys = true) : sameItems ys xs = true := by
  induction xs generalizing ys with
  | nil => cases ys <;> first | rfl | cases hsame
  | cons x xs ih =>
    cases ys with
    | nil => cases hsame
    | cons y ys =>
      obtain ⟨hx, hxs⟩ := List.forall_mem_cons.1 h
      obtain ⟨hy, hys⟩ := List.forall_mem_cons.1 hys
      rw [sameItems, Bool.and_eq_true] at hsame ⊢
      exact ⟨hx hy hsame.1, ih hxs hys hsame.2⟩

/-- What a datum is the same as is the same as the datum. -/
theorem same_symm (ha : IsData a) (hb : IsData b) (h : a.same b = true) : b.same a = true := by
  have hnumber : ∀ {a b : Value} {m : Int}, a.units? = some m → a.same b = true → b.same a = true :=
    fun ha h => (same_number_iff ((same_number_iff ha).1 h)).2 ha
  induction ha generalizing b with
  | null => cases hb <;> first | rfl | cases h
  | bool => exact hnumber rfl h
  | int => exact hnumber rfl h
  | double => exact hnumber rfl h
  | text s =>
    rw [text_same_iff.1 h]
    exact text_same_iff.2 rfl
  | list _ ih =>
    cases hb with
    | list hys => exact sameItems_symm ih hys h
    | _ => cases h
  | object hfs _ ih =>
    cases hb with
    | object hgs hvalues =>
      obtain ⟨hkeys, hfields⟩ := (same_object_iff hfs hgs).1 h
      exact (same_object_iff hgs hfs).2 ⟨fun key => (hkeys key).symm, fun key w v hw hv =>
        ih _ (Object.mem_of_get? hv) (hvalues _ (Object.mem_of_get? hw)) (hfields key v w hv hw)⟩
    | _ => cases h

theorem same_comm (ha : IsData a) (hb : IsData b) : a.same b = b.same a :=
  Bool.eq_iff_iff.2 ⟨same_symm ha hb, same_symm hb ha⟩

theorem sameItems_trans
    (h : ∀ x ∈ xs, ∀ {y z}, IsData y → IsData z → x.same y = true → y.same z = true →
      x.same z = true)
    (hys : ∀ y ∈ ys, IsData y) (hzs : ∀ z ∈ zs, IsData z) (hxy : sameItems xs ys = true)
    (hyz : sameItems ys zs = true) : sameItems xs zs = true := by
  induction xs generalizing ys zs with
  | nil =>
    cases ys with
    | nil => exact hyz
    | cons y ys => cases hxy
  | cons x xs ih =>
    cases ys with
    | nil => cases hxy
    | cons y ys =>
      cases zs with
      | nil => cases hyz
      | cons z zs =>
        obtain ⟨hx, hxs⟩ := List.forall_mem_cons.1 h
        obtain ⟨hy, hys⟩ := List.forall_mem_cons.1 hys
        obtain ⟨hz, hzs⟩ := List.forall_mem_cons.1 hzs
        rw [sameItems, Bool.and_eq_true] at hxy hyz ⊢
        exact ⟨hx hy hz hxy.1 hyz.1, ih hxs hys hzs hxy.2 hyz.2⟩

/-- What is the same as the same datum is the same. -/
theorem same_trans (ha : IsData a) (hb : IsData b) (hc : IsData c) (hab : a.same b = true)
    (hbc : b.same c = true) : a.same c = true := by
  have hnumber : ∀ {a b c : Value} {m : Int}, a.units? = some m → a.same b = true →
      b.same c = true → a.same c = true := fun ha hab hbc =>
    (same_number_iff ha).2 ((same_number_iff ((same_number_iff ha).1 hab)).1 hbc)
  induction ha generalizing b c with
  | null => cases hb <;> first | exact hbc | cases hab
  | bool => exact hnumber rfl hab hbc
  | int => exact hnumber rfl hab hbc
  | double => exact hnumber rfl hab hbc
  | text s => rwa [text_same_iff.1 hab] at hbc
  | list _ ih =>
    cases hb with
    | list hys =>
      cases hc with
      | list hzs => exact sameItems_trans ih hys hzs hab hbc
      | _ => cases hbc
    | _ => cases hab
  | object hfs _ ih =>
    cases hb with
    | object hgs hys =>
      cases hc with
      | object hhs hzs =>
        obtain ⟨hkeys, hfields⟩ := (same_object_iff hfs hgs).1 hab
        obtain ⟨hkeys', hfields'⟩ := (same_object_iff hgs hhs).1 hbc
        refine (same_object_iff hfs hhs).2 ⟨fun key => (hkeys key).trans (hkeys' key),
          fun key v u hv hu => ?_⟩
        obtain ⟨w, hw⟩ := Object.mem_keys_iff.1 ((hkeys key).1 (Object.mem_keys_iff.2 ⟨v, hv⟩))
        exact ih _ (Object.mem_of_get? hv) (hys _ (Object.mem_of_get? hw))
          (hzs _ (Object.mem_of_get? hu)) (hfields key v w hv hw) (hfields' key w u hw hu)
      | _ => cases hbc
    | _ => cases hab

/-- Data that are the same are the same as the same. -/
theorem same_congr (ha : IsData a) (hb : IsData b) (hc : IsData c) (h : a.same b = true) :
    a.same c = b.same c :=
  Bool.eq_iff_iff.2 ⟨same_trans hb ha hc (same_symm ha hb h), same_trans ha hb hc h⟩

end DocStore.Value
