/-
  Equality in selectors, at every depth.

  Two data are identical when they are of one kind and have the same content throughout: the same
  truth value, numbers of the same size, the same text, lists element by element, objects key by
  key.  Equality in selectors looks at kinds at the top and at contents below, and among contents a
  truth value counts as zero or one.  So it takes some data for equal that are not identical:

      [1] and [true],  {"on": 0.0} and {"on": false}

  1. **Agreement** — both relations are one, with two ways to read a number (`Agree`).  Content is
     agreement where truth values are read as numbers (`same_iff_agree`), and identity is agreement
     where they are not.

  2. **Equality** — so equality in selectors is being of one rank and agreeing in content
     (`equals_iff_agree`), and holds of all that is identical (`equals_of_identical`).

  3. **The catch** — a datum that holds no truth value, no zero and no one at any depth is equal
     only to what is identical to it (`identical_of_equals`).  One that does hold such a value is
     equal to the datum in which that is replaced by its double (`exists_equal_not_identical`).
-/
import DocStore.Proofs.Order.Lists
import Mathlib.Logic.Relation

namespace DocStore.Value

variable {a b c v : Value} {xs ys : List Value} {reading : Value → Option Int}

/-! ## Agreement -/

/-- The number that a value is, in the units of `units?`; a truth value is none. -/
def number? : Value → Option Int
  | .bool _ => none
  | v => v.units?

/-- Data that agree at every depth, numbers being what a reading says. -/
inductive Agree (reading : Value → Option Int) : Value → Value → Prop
  | null : Agree reading .null .null
  | bool (x : Bool) : Agree reading (.bool x) (.bool x)
  | number {a b : Value} {m : Int} (ha : reading a = some m) (hb : reading b = some m) :
      Agree reading a b
  | text (s : String) : Agree reading (.text s) (.text s)
  | list {xs ys : List Value} (hlength : xs.length = ys.length)
      (hitems : ∀ (i : Nat) x y, xs[i]? = some x → ys[i]? = some y → Agree reading x y) :
      Agree reading (.list xs) (.list ys)
  | object {fs gs : Object} (hkeys : ∀ key, key ∈ fs.keys ↔ key ∈ gs.keys)
      (hvalues : ∀ key v w, fs.get? key = some v → gs.get? key = some w → Agree reading v w) :
      Agree reading (.object fs) (.object gs)

/-- Data of one kind with the same content, at every depth. -/
abbrev Identical : Value → Value → Prop := Agree number?

/-- Rows have the same content if they have one length and the same content at every position. -/
theorem sameItems_iff_getElem? :
    sameItems xs ys = true ↔
      xs.length = ys.length ∧ ∀ (i : Nat) x y, xs[i]? = some x → ys[i]? = some y →
        x.same y = true := by
  induction xs generalizing ys with
  | nil => cases ys <;> simp [sameItems]
  | cons x xs ih =>
    cases ys with
    | nil => simp [sameItems]
    | cons y ys =>
      rw [sameItems, Bool.and_eq_true, ih, List.length_cons, List.length_cons,
        Nat.add_right_cancel_iff]
      constructor
      · rintro ⟨hfirst, hlength, hrest⟩
        refine ⟨hlength, fun i v w hv hw => ?_⟩
        cases i with
        | zero =>
          cases hv
          cases hw
          exact hfirst
        | succ i => exact hrest i v w hv hw
      · rintro ⟨hlength, hitems⟩
        exact ⟨hitems 0 x y rfl rfl, hlength, fun i v w hv hw => hitems (i + 1) v w hv hw⟩

/-- **Content is agreement** where truth values are read as numbers. -/
theorem same_iff_agree (ha : IsData a) (hb : IsData b) : a.same b = true ↔ Agree units? a b := by
  constructor
  · intro h
    have hnumber : ∀ {a b : Value} {m : Int}, a.units? = some m → a.same b = true →
        Agree units? a b :=
      fun ha h => .number ha ((same_number_iff ha).1 h)
    induction ha generalizing b with
    | null => cases hb <;> first | exact .null | cases h
    | bool => exact hnumber rfl h
    | int => exact hnumber rfl h
    | double => exact hnumber rfl h
    | text s =>
      rw [text_same_iff.1 h]
      exact .text s
    | list _ ih =>
      cases hb with
      | list hys =>
        obtain ⟨hlength, hitems⟩ := sameItems_iff_getElem?.1 h
        exact .list hlength fun i x y hx hy =>
          ih x (List.mem_of_getElem? hx) (hys y (List.mem_of_getElem? hy)) (hitems i x y hx hy)
      | _ => cases h
    | object hfs _ ih =>
      cases hb with
      | object hgs hvalues =>
        obtain ⟨hkeys, hfields⟩ := (same_object_iff hfs hgs).1 h
        exact .object hkeys fun key v w hv hw =>
          ih _ (Object.mem_of_get? hv) (hvalues _ (Object.mem_of_get? hw)) (hfields key v w hv hw)
      | _ => cases h
  · intro h
    induction h with
    | null => rfl
    | bool x => exact (same_number_iff rfl).2 rfl
    | number hm hn => exact (same_number_iff hm).2 hn
    | text s => exact text_same_iff.2 rfl
    | list hlength _ ih =>
      refine sameItems_iff_getElem?.2 ⟨hlength, fun i x y hx hy => ?_⟩
      exact ih i x y hx hy (ha.of_list x (List.mem_of_getElem? hx))
        (hb.of_list y (List.mem_of_getElem? hy))
    | object hkeys _ ih =>
      cases ha with
      | object hfs hfvalues =>
        cases hb with
        | object hgs hgvalues =>
          refine (same_object_iff hfs hgs).2 ⟨hkeys, fun key v w hv hw => ?_⟩
          exact ih key v w hv hw (hfvalues _ (Object.mem_of_get? hv))
            (hgvalues _ (Object.mem_of_get? hw))

theorem units?_of_number? {m : Int} (h : v.number? = some m) : v.units? = some m := by
  cases v <;> first | exact h | cases h

/-- What is identical has the same content. -/
theorem Agree.units? (h : Identical a b) : Agree units? a b := by
  induction h with
  | null => exact .null
  | bool x => exact .bool x
  | number hm hn => exact .number (units?_of_number? hm) (units?_of_number? hn)
  | text s => exact .text s
  | list hlength _ ih => exact .list hlength ih
  | object hkeys _ ih => exact .object hkeys ih

/-! ## Equality -/

/-- All numbers are of one rank. -/
theorem rank_of_number? {m : Int} (h : v.number? = some m) : v.rank = 2 := by
  cases v <;> first | rfl | cases h

/-- What is identical is of one rank. -/
theorem rank_eq_of_identical (h : Identical a b) : a.rank = b.rank := by
  cases h with
  | number hm hn => rw [rank_of_number? hm, rank_of_number? hn]
  | _ => rfl

/-- **Equality in selectors** is being of one rank and agreeing in content. -/
theorem equals_iff_agree (ha : IsData a) (hb : IsData b) :
    a.equals b = true ↔ a.rank = b.rank ∧ Agree units? a b := by
  have hcollate : a.same b = true → (a.collate b = .eq ↔ a.rank = b.rank) := by
    intro hsame
    rw [collate_eq_then ha hb, (compare?_eq_iff ha hb).2 hsame, Option.getD_some, Ordering.then_eq,
      Nat.compare_eq_eq]
  rw [← same_iff_agree ha hb, equals, Bool.and_eq_true, decide_eq_true_eq]
  constructor
  · rintro ⟨heven, hsame⟩
    exact ⟨(hcollate hsame).1 heven, hsame⟩
  · rintro ⟨hrank, hsame⟩
    exact ⟨(hcollate hsame).2 hrank, hsame⟩

/-- What is identical is equal. -/
theorem equals_of_identical (ha : IsData a) (hb : IsData b) (h : Identical a b) :
    a.equals b = true :=
  (equals_iff_agree ha hb).2 ⟨rank_eq_of_identical h, h.units?⟩

/-! ## The catch -/

/-- A value is a member of the lists that it is an element of and of the objects that have it under
    a key. -/
inductive Member (v : Value) : Value → Prop
  | item {xs : List Value} (h : v ∈ xs) : Member v (.list xs)
  | field {fs : Object} {key : String} (h : (key, v) ∈ fs) : Member v (.object fs)

/-- What a value holds, at any depth. -/
def Inside : Value → Value → Prop := Relation.TransGen Member

/-- A truth value, or the number that one counts as. -/
def IsAmbiguous (v : Value) : Prop := v.units? = some 0 ∨ v.units? = some Double.unitsPerOne

theorem IsData.of_member (ha : IsData a) (h : Member v a) : IsData v := by
  cases ha with
  | list hitems =>
    cases h with
    | item hv => exact hitems v hv
  | object _ hvalues =>
    cases h with
    | field hv => exact hvalues _ hv
  | _ => cases h

theorem isAmbiguous_bool (x : Bool) : IsAmbiguous (.bool x) := by
  cases x
  · exact .inl rfl
  · exact .inr rfl

/-- Read as a number, a value is one or is ambiguous. -/
theorem number?_of_units? {m : Int} (h : v.units? = some m) :
    v.number? = some m ∨ ∃ x, v = .bool x := by
  cases v with
  | bool x => exact .inr ⟨x, rfl⟩
  | _ => exact .inl h

/-- What agrees in content is identical, if the one is not ambiguous and holds nothing that is. -/
theorem identical_of_agree (h : Agree units? a b) (ha : ¬a.IsAmbiguous)
    (hinside : ∀ v, Inside v a → ¬v.IsAmbiguous) :
    Identical a b := by
  induction h with
  | null => exact .null
  | bool x => exact .bool x
  | text s => exact .text s
  | @number a b m hm hn =>
    have hclear : ∀ {v : Value}, v.units? = some m → v.number? = some m := by
      intro v hv
      rcases number?_of_units? hv with hv' | ⟨x, rfl⟩
      · exact hv'
      · refine absurd ?_ ha
        have hx := isAmbiguous_bool x
        rwa [IsAmbiguous, hv, ← hm] at hx
    exact .number (hclear hm) (hclear hn)
  | list hlength _ ih =>
    refine .list hlength fun i x y hx hy => ?_
    have hmember := Member.item (List.mem_of_getElem? hx)
    exact ih i x y hx hy (hinside x (.single hmember)) fun v hv => hinside v (hv.tail hmember)
  | object hkeys _ ih =>
    refine .object hkeys fun key v w hv hw => ?_
    have hmember := Member.field (Object.mem_of_get? hv)
    exact ih key v w hv hw (hinside v (.single hmember)) fun u hu => hinside u (hu.tail hmember)

/-- **A datum that holds nothing ambiguous is equal only to what is identical.**  It may be
    ambiguous itself, for at the top its rank tells. -/
theorem identical_of_equals (ha : IsData a) (hb : IsData b)
    (hinside : ∀ v, Inside v a → ¬v.IsAmbiguous) (h : a.equals b = true) : Identical a b := by
  obtain ⟨hrank, hagree⟩ := (equals_iff_agree ha hb).1 h
  by_cases hambiguous : a.IsAmbiguous
  · obtain ⟨m, hm⟩ : ∃ m, a.units? = some m := hambiguous.elim (fun h => ⟨_, h⟩) fun h => ⟨_, h⟩
    have hn : b.units? = some m := (same_number_iff hm).1 ((same_iff_agree ha hb).2 hagree)
    -- Of two values that count as one number and are of one rank, both are truth values or neither
    -- is.
    rcases number?_of_units? hm with hm' | ⟨x, rfl⟩
    · rcases number?_of_units? hn with hn' | ⟨y, rfl⟩
      · exact .number hm' hn'
      · rw [rank_of_number? hm'] at hrank
        cases hrank
    · rcases number?_of_units? hn with hn' | ⟨y, rfl⟩
      · rw [rank_of_number? hn'] at hrank
        cases hrank
      · obtain rfl : x = y := by
          rw [← hn] at hm
          revert hm
          cases x <;> cases y <;> decide +kernel
        exact .bool x
  · exact identical_of_agree hagree hambiguous hinside

/-- An ambiguous value has a double, with the same content and of another kind. -/
theorem exists_double (h : v.IsAmbiguous) : ∃ w, IsData w ∧ Agree units? v w ∧ ¬Identical v w := by
  by_cases hbool : ∃ x, v = .bool x
  · obtain ⟨x, rfl⟩ := hbool
    refine ⟨.int (if x then 1 else 0), .int _, .number rfl ?_, fun hidentical => ?_⟩
    · cases x <;> decide +kernel
    · cases hidentical with
      | number hm => cases hm
  · have hnot : ∀ x, ¬Identical v (.bool x) := by
      intro x hidentical
      cases hidentical with
      | bool => exact hbool ⟨x, rfl⟩
      | number _ hn => cases hn
    rcases h with hzero | hone
    · exact ⟨.bool false, .bool _, .number hzero rfl, hnot false⟩
    · exact ⟨.bool true, .bool _, .number hone rfl, hnot true⟩

/-- Content agrees with itself. -/
theorem agree_refl (ha : IsData a) : Agree units? a a := (same_iff_agree ha ha).1 (same_refl ha)

/-- An element with a double gives a double of the list, with that in its place. -/
theorem exists_double_of_item (hxs : IsData (.list xs)) (hv : v ∈ xs) {w : Value} (hw : IsData w)
    (hagree : Agree units? v w) (hnot : ¬Identical v w) :
    ∃ ys, IsData (.list ys) ∧ Agree units? (.list xs) (.list ys) ∧
      ¬Identical (.list xs) (.list ys) := by
  obtain ⟨i, hi⟩ := List.mem_iff_getElem?.1 hv
  have hlt : i < xs.length := (List.getElem?_eq_some_iff.1 hi).1
  have hthere : (xs.set i w)[i]? = some w := by simp [hlt]
  have hother : ∀ {j : Nat}, i ≠ j → (xs.set i w)[j]? = xs[j]? := fun h => List.getElem?_set_ne h
  refine ⟨xs.set i w, .list fun y hy => ?_, .list (by simp) fun j x y hx hy => ?_,
    fun hidentical => ?_⟩
  · rcases List.mem_or_eq_of_mem_set hy with hy | rfl
    · exact hxs.of_list y hy
    · exact hw
  · by_cases hij : i = j
    · subst hij
      rwa [Option.some.inj (hx.symm.trans hi), Option.some.inj (hy.symm.trans hthere)]
    · rw [hother hij] at hy
      rw [Option.some.inj (hy.symm.trans hx)]
      exact agree_refl (hxs.of_list x (List.mem_of_getElem? hx))
  · cases hidentical with
    | number hm => cases hm
    | list _ hitems => exact hnot (hitems i v w hi hthere)

/-- A value with a double gives a double of the object, with that under its key. -/
theorem exists_double_of_field {fs : Object} {key : String} (hfs : IsData (.object fs))
    (hv : (key, v) ∈ fs) {w : Value} (hw : IsData w) (hagree : Agree units? v w)
    (hnot : ¬Identical v w) :
    ∃ gs, IsData (.object gs) ∧ Agree units? (.object fs) (.object gs) ∧
      ¬Identical (.object fs) (.object gs) := by
  cases hfs with
  | object hkeys hvalues =>
    have hfound := Object.get?_of_mem hkeys hv
    have hsame : (fs.set key w).keys = fs.keys := by
      rw [Object.keys_set, if_pos (Object.mem_keys_iff.2 ⟨v, hfound⟩)]
    have hthere : (fs.set key w).get? key = some w := Object.get?_set_self fs key w
    refine ⟨fs.set key w, .object (hsame ▸ hkeys) fun field hfield => ?_,
      .object (fun other => by rw [hsame]) fun other x y hx hy => ?_, fun hidentical => ?_⟩
    · have hget := Object.get?_of_mem (hsame ▸ hkeys) hfield
      rw [Object.get?_set] at hget
      split at hget
      · rwa [← Option.some.inj hget]
      · exact hvalues _ (Object.mem_of_get? hget)
    · rw [Object.get?_set] at hy
      split at hy
      · rename_i heq
        subst heq
        rwa [Option.some.inj (hx.symm.trans hfound), ← Option.some.inj hy]
      · rw [Option.some.inj (hy.symm.trans hx)]
        exact agree_refl (hvalues _ (Object.mem_of_get? hx))
    · cases hidentical with
      | number hm => cases hm
      | object _ hfields => exact hnot (hfields key v w hfound hthere)

/-- A member with a double gives a double of the whole, of the same rank. -/
theorem exists_double_of_member (ha : IsData a) (hmember : Member v a) {w : Value} (hw : IsData w)
    (hagree : Agree units? v w) (hnot : ¬Identical v w) :
    ∃ b, IsData b ∧ a.rank = b.rank ∧ Agree units? a b ∧ ¬Identical a b := by
  cases hmember with
  | item hv =>
    obtain ⟨ys, hys, hdouble⟩ := exists_double_of_item ha hv hw hagree hnot
    exact ⟨.list ys, hys, rfl, hdouble⟩
  | field hv =>
    obtain ⟨gs, hgs, hdouble⟩ := exists_double_of_field ha hv hw hagree hnot
    exact ⟨.object gs, hgs, rfl, hdouble⟩

/-- **A datum that holds something ambiguous is equal to one that is not identical.** -/
theorem exists_equal_not_identical (ha : IsData a) (hinside : Inside v a)
    (hambiguous : v.IsAmbiguous) :
    ∃ b, IsData b ∧ a.equals b = true ∧ ¬Identical a b := by
  have hdouble : ∃ b, IsData b ∧ a.rank = b.rank ∧ Agree units? a b ∧ ¬Identical a b := by
    induction hinside with
    | single hmember =>
      obtain ⟨w, hw, hagree, hnot⟩ := exists_double hambiguous
      exact exists_double_of_member ha hmember hw hagree hnot
    | tail _ hmember ih =>
      obtain ⟨w, hw, -, hagree, hnot⟩ := ih (ha.of_member hmember)
      exact exists_double_of_member ha hmember hw hagree hnot
  obtain ⟨b, hb, hrank, hagree, hnot⟩ := hdouble
  exact ⟨b, hb, (equals_iff_agree ha hb).2 ⟨hrank, hagree⟩, hnot⟩

/-- **Equality in selectors, at every depth.**  Two data are equal exactly if they are of one rank
    and agree in content, where truth values count as numbers below the top.  Identical data are
    equal; and of a datum the converse holds, whatever it is compared with, exactly if it holds no
    truth value, no zero and no one. -/
theorem equals_at_every_depth (ha : IsData a) (hb : IsData b) :
    (a.equals b = true ↔ a.rank = b.rank ∧ Agree units? a b) ∧ (Identical a b → a.equals b = true) ∧
      ((∀ c, IsData c → (a.equals c = true ↔ Identical a c)) ↔ ∀ v, Inside v a →
        ¬v.IsAmbiguous) := by
  refine ⟨equals_iff_agree ha hb, equals_of_identical ha hb,
    fun h v hinside hambiguous => ?_, fun h c hc => ?_⟩
  · obtain ⟨c, hc, hequals, hnot⟩ := exists_equal_not_identical ha hinside hambiguous
    exact hnot ((h c hc).1 hequals)
  · exact ⟨identical_of_equals ha hc h, equals_of_identical ha hc⟩

/-- Two objects, one with a list that holds zero and one with a list that holds false: they are of
    one rank and agree in content, so they are equal, and not everything that the first is equal to
    is identical to it. -/
theorem equals_at_every_depth_switch :
    let a : Value := .object [("on", .list [.double ⟨false, 0, 0⟩])]
    let b : Value := .object [("on", .list [.bool false])]
    IsData a ∧ IsData b ∧ a.equals b = true ∧ Agree units? a b ∧
      ¬∀ c, IsData c → (a.equals c = true ↔ Identical a c) := by
  intro a b
  have hobject : ∀ {v : Value}, IsData v → IsData (.object [("on", .list [v])]) := fun hv =>
    .object (List.pairwise_singleton _ _) fun field hfield => by
      rw [List.mem_singleton.1 hfield]
      exact .list fun x hx => List.mem_singleton.1 hx ▸ hv
  have ha : IsData a := hobject (.double _)
  have hb : IsData b := hobject (.bool _)
  have hinside : Inside (.double ⟨false, 0, 0⟩) a :=
    .tail (.single (.item (List.mem_singleton.2 rfl))) (.field (List.mem_singleton.2 rfl))
  have hambiguous : IsAmbiguous (.double ⟨false, 0, 0⟩) := .inl (by decide +kernel)
  obtain ⟨hequals, -, hidentical⟩ := equals_at_every_depth ha hb
  have hab : a.equals b = true := by decide +kernel
  exact ⟨ha, hb, hab, (hequals.1 hab).2, fun h => hidentical.1 h _ hinside hambiguous⟩

/-- The obvious statement fails: in lists, one is equal to true. -/
theorem not_identical_in_lists :
    let a : Value := .list [.int 1]
    let b : Value := .list [.bool true]
    IsData a ∧ IsData b ∧ a.equals b = true ∧ ¬Identical a b := by
  refine ⟨.list fun v hv => List.mem_singleton.1 hv ▸ .int 1, .list fun v hv =>
    List.mem_singleton.1 hv ▸ .bool true, by decide +kernel, fun h => ?_⟩
  cases h with
  | number hm => cases hm
  | list _ hitems =>
    have hfirst : Identical (.int 1) (.bool true) := hitems 0 _ _ rfl rfl
    cases hfirst with
    | number _ hn => cases hn

end DocStore.Value
