/-
  How far the order of data goes.

  Values are ranked by kind and ordered within a kind, and what has no order there counts as even.
  Among data (`Value.IsData`) that matters for lists alone.  A list goes by the first of its
  elements that is not the same, and such elements need not compare: one may be null, or an object,
  or they may be of different kinds.  Such lists clash.  They count as even without being the same,
  and then the order does not go on:

      [1], [null], [0]       each is even with the next, and the first comes after the last

  1. **Elements** — in a list, elements are even when they are the same, and otherwise go by their
     order if they have one (`compare?`).  Only what is alike has one: numbers, texts, lists
     (`Alike`).  A list goes by its first element, and by the rest if that is even
     (`orderItems?_cons_even`, `orderItems?_cons_uneven`).

  2. **Laws** — the comparison of elements turns round (`compare?_swap`), goes alike for what is
     even (`compare?_congr`), and goes on below what is below (`compare?_of_lt`).  Each law is shown
     by induction over lists: that of a list from that of its elements, with a lemma for rows.

  3. **Clashes** — the order of values from that of elements (`isLE_collate_iff`).  It goes on from
     one datum to another exactly if the two do not clash (`collate_laws`).
-/
import DocStore.Proofs.Value.Equality

namespace DocStore.Value

variable {a b c : Value} {xs ys zs : List Value} {m n : Int}

/-! ## Elements -/

theorem IsData.of_list (h : IsData (.list xs)) : ∀ x ∈ xs, IsData x := by
  cases h with
  | list hitems => exact hitems

/-- Induction over the lists in data: what is shown of a datum may use the elements, if it is a
    list. -/
theorem IsData.induction_lists {motive : ∀ a, IsData a → Prop}
    (step : ∀ a (ha : IsData a), (∀ xs, a = .list xs → ∀ x ∈ xs, ∀ hx, motive x hx) → motive a ha)
    (ha : IsData a) : motive a ha := by
  induction ha with
  | list hitems ih =>
    exact step _ (.list hitems) fun xs hxs => by cases hxs; exact fun x hx _ => ih x hx
  | null => exact step _ .null fun _ h => by cases h
  | bool b => exact step _ (.bool b) fun _ h => by cases h
  | int n => exact step _ (.int n) fun _ h => by cases h
  | double d => exact step _ (.double d) fun _ h => by cases h
  | text s => exact step _ (.text s) fun _ h => by cases h
  | object hkeys hvalues => exact step _ (.object hkeys hvalues) fun _ h => by cases h

/-- Values of a kind that is ordered in lists, where booleans count as numbers. -/
inductive Alike : Value → Value → Prop
  | numbers {a b : Value} {m n : Int} (ha : a.units? = some m) (hb : b.units? = some n) : Alike a b
  | texts (s t : String) : Alike (.text s) (.text t)
  | lists (xs ys : List Value) : Alike (.list xs) (.list ys)

theorem Alike.symm (h : Alike a b) : Alike b a := by
  cases h with
  | numbers ha hb => exact .numbers hb ha
  | texts s t => exact .texts t s
  | lists xs ys => exact .lists ys xs

theorem Alike.trans (h : Alike a b) (h' : Alike b c) : Alike a c := by
  cases h with
  | numbers ha hb =>
    cases h' with
    | numbers _ hc => exact .numbers ha hc
    | texts => cases hb
    | lists => cases hb
  | texts s t =>
    cases h' with
    | numbers hb => cases hb
    | texts _ u => exact .texts s u
  | lists xs ys =>
    cases h' with
    | numbers hb => cases hb
    | lists _ zs => exact .lists xs zs

/-- What is the same as something of an ordered kind is of that kind. -/
theorem Alike.of_same (hb : IsData b) (hsame : a.same b = true) (h : Alike a c) : Alike b c := by
  cases h with
  | numbers ha hc => exact .numbers ((same_number_iff ha).1 hsame) hc
  | texts s u =>
    rw [text_same_iff.1 hsame]
    exact .texts s u
  | lists xs zs =>
    cases hb with
    | list => exact .lists _ zs
    | _ => cases hsame

/-- Numbers compare by what they count as. -/
theorem order?_number (ha : a.units? = some m) (hb : b.units? = some n) :
    order? a b = some (compare m n) := by
  cases a with
  | bool => cases ha; cases b <;> cases hb <;> rfl
  | int => cases ha; cases b <;> cases hb <;> rfl
  | double => cases ha; cases b <;> cases hb <;> rfl
  | _ => cases ha

/-- Data that are not alike do not compare. -/
theorem order?_of_not_alike (ha : IsData a) (hb : IsData b) (h : ¬Alike a b) :
    order? a b = none := by
  cases ha with
  | null => cases hb <;> rfl
  | object => cases hb <;> rfl
  | text s =>
    cases hb with
    | text t => exact absurd (.texts s t) h
    | _ => rfl
  | list =>
    cases hb with
    | list => exact absurd (.lists _ _) h
    | _ => rfl
  | bool => cases hb <;> first | rfl | exact absurd (.numbers rfl rfl) h
  | int => cases hb <;> first | rfl | exact absurd (.numbers rfl rfl) h
  | double => cases hb <;> first | rfl | exact absurd (.numbers rfl rfl) h

/-- The order of two elements of lists. -/
def compare? (a b : Value) : Option Ordering := if a.same b then some .eq else order? a b

theorem compare?_number (ha : a.units? = some m) (hb : b.units? = some n) :
    compare? a b = some (compare m n) := by
  rw [compare?, order?_number ha hb]
  split
  · rename_i hsame
    rw [Option.some.inj (hb.symm.trans ((same_number_iff ha).1 hsame))]
    exact congrArg some Std.ReflOrd.compare_self.symm
  · rfl

theorem compare?_text (s t : String) : compare? (.text s) (.text t) = some (compare s t) := by
  rw [compare?, order?]
  split
  · rename_i hsame
    rw [Value.text.inj (text_same_iff.1 hsame)]
    exact congrArg some Std.ReflOrd.compare_self.symm
  · rfl

/-- Rows that are the same throughout are even. -/
theorem orderItems?_of_same (h : sameItems xs ys = true) : orderItems? xs ys = some .eq := by
  induction xs generalizing ys with
  | nil => cases ys <;> first | rfl | cases h
  | cons x xs ih =>
    cases ys with
    | nil => cases h
    | cons y ys =>
      rw [sameItems, Bool.and_eq_true] at h
      rw [orderItems?, if_pos h.1, ih h.2]

theorem compare?_list (xs ys : List Value) :
    compare? (.list xs) (.list ys) = orderItems? xs ys := by
  rw [compare?, order?]
  split
  · rename_i hsame
    exact (orderItems?_of_same hsame).symm
  · rfl

/-- Rows that are even are the same throughout, if that goes for their elements. -/
theorem same_of_orderItems?
    (h : ∀ x ∈ xs, ∀ {y}, IsData y → compare? x y = some .eq → x.same y = true)
    (hys : ∀ y ∈ ys, IsData y) (heven : orderItems? xs ys = some .eq) : sameItems xs ys = true := by
  induction xs generalizing ys with
  | nil => cases ys <;> first | rfl | cases heven
  | cons x xs ih =>
    cases ys with
    | nil => cases heven
    | cons y ys =>
      obtain ⟨hx, hxs⟩ := List.forall_mem_cons.1 h
      obtain ⟨hy, hys⟩ := List.forall_mem_cons.1 hys
      have hsame : x.same y = true := by
        by_contra hsame
        rw [orderItems?, if_neg hsame] at heven
        exact hsame (hx hy ((if_neg hsame).trans heven))
      rw [orderItems?, if_pos hsame] at heven
      rw [sameItems, hsame, ih hxs hys heven]
      rfl

/-- Data are even exactly if they are the same. -/
theorem compare?_eq_iff (ha : IsData a) (hb : IsData b) :
    compare? a b = some .eq ↔ a.same b = true := by
  refine ⟨fun h => ?_, fun h => if_pos h⟩
  induction ha using IsData.induction_lists generalizing b with
  | step a ha ih =>
    by_cases halike : Alike a b
    · cases halike with
      | numbers hm hn =>
        rw [compare?_number hm hn, Option.some.injEq, Int.compare_eq_eq] at h
        exact (same_number_iff hm).2 (h ▸ hn)
      | texts s t =>
        rw [compare?_text, Option.some.injEq, Std.LawfulEqOrd.compare_eq_iff_eq] at h
        exact text_same_iff.2 (h ▸ rfl)
      | lists xs ys =>
        rw [compare?_list] at h
        exact same_of_orderItems? (fun x hx => ih xs rfl x hx (ha.of_list x hx)) hb.of_list h
    · by_contra hsame
      rw [compare?, if_neg hsame, order?_of_not_alike ha hb halike] at h
      cases h

/-- Rows whose first elements are even go by the rest. -/
theorem orderItems?_cons_even (ha : IsData a) (hb : IsData b) (h : compare? a b = some .eq) :
    orderItems? (a :: xs) (b :: ys) = orderItems? xs ys := by
  rw [orderItems?, if_pos ((compare?_eq_iff ha hb).1 h)]

/-- Rows whose first elements are not even go by these. -/
theorem orderItems?_cons_uneven (h : compare? a b ≠ some .eq) :
    orderItems? (a :: xs) (b :: ys) = compare? a b := by
  have hsame : ¬a.same b = true := fun hsame => h (if_pos hsame)
  rw [orderItems?, compare?, if_neg hsame, if_neg hsame]

/-! ## Laws -/

theorem swap_eq_some_eq {r : Option Ordering} : r.map Ordering.swap = some .eq ↔ r = some .eq := by
  rcases r with _ | o
  · simp
  · cases o <;> simp

/-- Rows turn round, if their elements do. -/
theorem orderItems?_swap (hxs : ∀ x ∈ xs, IsData x) (hys : ∀ y ∈ ys, IsData y)
    (h : ∀ x ∈ xs, ∀ {y}, IsData y → compare? y x = (compare? x y).map Ordering.swap) :
    orderItems? ys xs = (orderItems? xs ys).map Ordering.swap := by
  induction xs generalizing ys with
  | nil => cases ys <;> rfl
  | cons x xs ih =>
    cases ys with
    | nil => rfl
    | cons y ys =>
      obtain ⟨hx, hxs⟩ := List.forall_mem_cons.1 hxs
      obtain ⟨hy, hys⟩ := List.forall_mem_cons.1 hys
      obtain ⟨hfirst, h⟩ := List.forall_mem_cons.1 h
      have hxy := hfirst hy
      by_cases heven : compare? x y = some .eq
      · rw [orderItems?_cons_even hx hy heven,
          orderItems?_cons_even hy hx (hxy.trans (swap_eq_some_eq.2 heven))]
        exact ih hxs hys h
      · rw [orderItems?_cons_uneven heven,
          orderItems?_cons_uneven (hxy ▸ mt swap_eq_some_eq.1 heven), hxy]

/-- **The comparison turns round.** -/
theorem compare?_swap (ha : IsData a) (hb : IsData b) :
    compare? b a = (compare? a b).map Ordering.swap := by
  induction ha using IsData.induction_lists generalizing b with
  | step a ha ih =>
    by_cases halike : Alike a b
    · cases halike with
      | @numbers _ _ m n hm hn =>
        rw [compare?_number hm hn, compare?_number hn hm, Option.map_some,
          ← Std.OrientedOrd.eq_swap]
      | texts s t => rw [compare?_text, compare?_text, Option.map_some, ← Std.OrientedOrd.eq_swap]
      | lists xs ys =>
        rw [compare?_list, compare?_list]
        exact orderItems?_swap ha.of_list hb.of_list fun x hx => ih xs rfl x hx (ha.of_list x hx)
    · rw [compare?, compare?, same_comm hb ha, order?_of_not_alike ha hb halike,
        order?_of_not_alike hb ha (mt Alike.symm halike)]
      split <;> rfl

/-- Rows that are even compare alike with any other, if that goes for their elements. -/
theorem orderItems?_congr (hxs : ∀ x ∈ xs, IsData x) (hys : ∀ y ∈ ys, IsData y)
    (hzs : ∀ z ∈ zs, IsData z)
    (h : ∀ x ∈ xs, ∀ {y z}, IsData y → IsData z → compare? x y = some .eq →
      compare? x z = compare? y z)
    (heven : orderItems? xs ys = some .eq) : orderItems? xs zs = orderItems? ys zs := by
  induction xs generalizing ys zs with
  | nil => cases ys <;> first | rfl | cases heven
  | cons x xs ih =>
    cases ys with
    | nil => cases heven
    | cons y ys =>
      cases zs with
      | nil => rfl
      | cons z zs =>
        obtain ⟨hx, hxs⟩ := List.forall_mem_cons.1 hxs
        obtain ⟨hy, hys⟩ := List.forall_mem_cons.1 hys
        obtain ⟨hz, hzs⟩ := List.forall_mem_cons.1 hzs
        have hxy : compare? x y = some .eq := by
          by_contra hxy
          exact hxy ((orderItems?_cons_uneven hxy).symm.trans heven)
        obtain ⟨hfirst, h⟩ := List.forall_mem_cons.1 h
        have hcongr := hfirst hy hz hxy
        by_cases hxz : compare? x z = some .eq
        · rw [orderItems?_cons_even hx hy hxy] at heven
          rw [orderItems?_cons_even hx hz hxz, orderItems?_cons_even hy hz (hcongr ▸ hxz)]
          exact ih hxs hys hzs h heven
        · rw [orderItems?_cons_uneven hxz, orderItems?_cons_uneven (hcongr ▸ hxz), hcongr]

/-- **What is even compares alike** with anything. -/
theorem compare?_congr (ha : IsData a) (hb : IsData b) (hc : IsData c)
    (h : compare? a b = some .eq) :
    compare? a c = compare? b c := by
  induction ha using IsData.induction_lists generalizing b c with
  | step a ha ih =>
    have hsame := (compare?_eq_iff ha hb).1 h
    by_cases halike : Alike a c
    · cases halike with
      | numbers hm hk =>
        rw [compare?_number hm hk, compare?_number ((same_number_iff hm).1 hsame) hk]
      | texts s u => rw [text_same_iff.1 hsame]
      | lists xs zs =>
        cases hb with
        | @list ys hys =>
          rw [compare?_list] at h
          rw [compare?_list, compare?_list]
          exact orderItems?_congr ha.of_list hys hc.of_list
            (fun x hx => ih xs rfl x hx (ha.of_list x hx)) h
        | _ => cases hsame
    · have halike' : ¬Alike b c := mt (Alike.of_same ha (same_symm ha hb hsame)) halike
      rw [compare?, compare?, same_congr ha hb hc hsame, order?_of_not_alike ha hc halike,
        order?_of_not_alike hb hc halike']

/-- Anything compares alike with what is even. -/
theorem compare?_congr_right (ha : IsData a) (hb : IsData b) (hc : IsData c)
    (h : compare? b c = some .eq) :
    compare? a b = compare? a c := by
  rw [compare?_swap hb ha, compare?_swap hc ha, compare?_congr hb hc ha h]

/-- A row that is not above another is below all that is above that one, or compares with neither,
    if that goes for their elements. -/
theorem orderItems?_of_lt (hxs : ∀ x ∈ xs, IsData x) (hys : ∀ y ∈ ys, IsData y)
    (hzs : ∀ z ∈ zs, IsData z)
      (h : ∀ x ∈ xs, ∀ {y z}, IsData y → IsData z → compare? x y ≠ some .gt →
        compare? y z = some .lt →
      compare? x z = compare? x y ∨ compare? x z = some .lt)
    (hxy : orderItems? xs ys ≠ some .gt) (hyz : orderItems? ys zs = some .lt) :
    orderItems? xs zs = orderItems? xs ys ∨ orderItems? xs zs = some .lt := by
  induction xs generalizing ys zs with
  | nil =>
    cases zs with
    | nil => cases ys <;> cases hyz
    | cons z zs => exact .inr rfl
  | cons x xs ih =>
    cases ys with
    | nil => exact absurd rfl hxy
    | cons y ys =>
      cases zs with
      | nil => cases hyz
      | cons z zs =>
        obtain ⟨hx, hxs⟩ := List.forall_mem_cons.1 hxs
        obtain ⟨hy, hys⟩ := List.forall_mem_cons.1 hys
        obtain ⟨hz, hzs⟩ := List.forall_mem_cons.1 hzs
        obtain ⟨hfirst, h⟩ := List.forall_mem_cons.1 h
        by_cases hevenxy : compare? x y = some .eq
        · have hcongr := compare?_congr hx hy hz hevenxy
          by_cases hevenyz : compare? y z = some .eq
          · rw [orderItems?_cons_even hx hy hevenxy] at hxy ⊢
            rw [orderItems?_cons_even hy hz hevenyz] at hyz
            rw [orderItems?_cons_even hx hz (hcongr.trans hevenyz)]
            exact ih hxs hys hzs h hxy hyz
          · rw [orderItems?_cons_uneven hevenyz] at hyz
            rw [orderItems?_cons_uneven (hcongr ▸ hevenyz), hcongr]
            exact .inr hyz
        · rw [orderItems?_cons_uneven hevenxy] at hxy ⊢
          by_cases hevenyz : compare? y z = some .eq
          · have hcongr := compare?_congr_right hx hy hz hevenyz
            rw [orderItems?_cons_uneven (hcongr ▸ hevenxy), hcongr]
            exact .inl rfl
          · rw [orderItems?_cons_uneven hevenyz] at hyz
            have hxz := hfirst hy hz hxy hyz
            have hevenxz : compare? x z ≠ some .eq := by
              rcases hxz with hxz | hxz <;> rw [hxz]
              · exact hevenxy
              · simp
            rwa [orderItems?_cons_uneven hevenxz]

/-- **What is not above a value is below all that is above the value, or compares with neither.** -/
theorem compare?_of_lt (ha : IsData a) (hb : IsData b) (hc : IsData c)
    (hab : compare? a b ≠ some .gt) (hbc : compare? b c = some .lt) :
    compare? a c = compare? a b ∨ compare? a c = some .lt := by
  induction ha using IsData.induction_lists generalizing b c with
  | step a ha ih =>
    have halike : Alike b c := by
      by_contra halike
      rw [compare?, order?_of_not_alike hb hc halike] at hbc
      split at hbc <;> cases hbc
    by_cases hab' : Alike a b
    · cases halike with
      | @numbers _ _ n k hn hk =>
        cases hab' with
        | numbers hm hn' =>
          rw [compare?_number hm hn, ne_eq, Option.some.injEq] at hab
          rw [compare?_number hn hk, Option.some.injEq] at hbc
          rw [compare?_number hm hk,
            Std.TransCmp.lt_of_isLE_of_lt (Ordering.isLE_iff_ne_gt.2 hab) hbc]
          exact .inr rfl
        | texts => cases hn
        | lists => cases hn
      | texts t u =>
        cases hab' with
        | numbers _ hn => cases hn
        | texts s =>
          rw [compare?_text, ne_eq, Option.some.injEq] at hab
          rw [compare?_text, Option.some.injEq] at hbc
          rw [compare?_text, compare?_text,
            Std.TransCmp.lt_of_isLE_of_lt (Ordering.isLE_iff_ne_gt.2 hab) hbc]
          exact .inr rfl
      | lists ys zs =>
        cases hab' with
        | numbers _ hn => cases hn
        | lists xs =>
          rw [compare?_list] at hab hbc
          rw [compare?_list, compare?_list]
          exact orderItems?_of_lt ha.of_list hb.of_list hc.of_list
            (fun x hx => ih xs rfl x hx (ha.of_list x hx)) hab hbc
    · -- Then the value is alike to neither, so it compares with neither, and is the same
      -- as neither.
      have hapart : ∀ {d : Value}, IsData d → Alike d b → compare? a d = none := fun hd hdb => by
        have hsame : ¬a.same _ = true := fun hsame => hab' (hdb.of_same ha (same_symm ha hd hsame))
        rw [compare?, if_neg hsame, order?_of_not_alike ha hd fun had => hab' (had.trans hdb)]
      rw [hapart hb (halike.trans halike.symm), hapart hc halike.symm]
      exact .inl rfl

/-! ## Clashes -/

/-- Two lists without an order. -/
def Clash : Value → Value → Prop
  | .list xs, .list ys => orderItems? xs ys = none
  | _, _ => False

/-- Alike data have an order unless they clash. -/
theorem Alike.clash_of_compare? (h : Alike a b) (hnone : compare? a b = none) : Clash a b := by
  cases h with
  | numbers ha hb => rw [compare?_number ha hb] at hnone; cases hnone
  | texts s t => rw [compare?_text] at hnone; cases hnone
  | lists xs ys => exact (compare?_list xs ys).symm.trans hnone

/-- Of data of one rank all are alike or none. -/
theorem Alike.of_rank (hb : IsData b) (hc : IsData c) (hrank : b.rank = c.rank)
    (h : Alike a c) : Alike b c := by
  cases h with
  | numbers _ hn =>
    cases hc <;> cases hn <;> cases hb <;> first | exact .numbers rfl rfl | cases hrank
  | texts s u => cases hb <;> first | exact .texts _ _ | cases hrank
  | lists xs zs => cases hb <;> first | exact .lists _ _ | cases hrank

/-- Where elements have no order, values are even. -/
theorem getD_order? (ha : IsData a) (hb : IsData b) :
    (order? a b).getD .eq = (compare? a b).getD .eq := by
  by_cases halike : Alike a b
  · cases halike with
    | numbers hm hn => rw [order?_number hm hn, compare?_number hm hn]
    | texts s t => rw [compare?_text]; rfl
    | lists xs ys => rw [compare?_list]; rfl
  · rw [compare?, order?_of_not_alike ha hb halike]
    split <;> rfl

/-- Data go by rank, and within a rank as in lists. -/
theorem collate_eq_then (ha : IsData a) (hb : IsData b) :
    a.collate b = (compare a.rank b.rank).then ((compare? a b).getD .eq) := by
  rw [collate, ← getD_order? ha hb]
  cases compare a.rank b.rank <;> rfl

/-- When a datum is at most another. -/
theorem isLE_collate_iff (ha : IsData a) (hb : IsData b) :
    (a.collate b).isLE = true ↔ a.rank < b.rank ∨ a.rank = b.rank ∧ compare? a b ≠ some .gt := by
  have hwithin : ((compare? a b).getD .eq).isLE = true ↔ compare? a b ≠ some .gt := by
    rcases compare? a b with _ | o
    · simp
    · cases o <;> simp
  rw [collate_eq_then ha hb, ← hwithin]
  rcases Nat.lt_trichotomy a.rank b.rank with h | h | h
  · simp [Nat.compare_eq_lt.2 h, h]
  · simp [h]
  · simp [Nat.compare_eq_gt.2 h, Nat.not_lt.2 (Nat.le_of_lt h), Nat.ne_of_gt h]

theorem collate_refl (ha : IsData a) : a.collate a = .eq := by
  rw [collate_eq_then ha ha, (compare?_eq_iff ha ha).2 (same_refl ha), Std.ReflOrd.compare_self]
  rfl

theorem collate_swap (ha : IsData a) (hb : IsData b) : b.collate a = (a.collate b).swap := by
  rw [collate_eq_then ha hb, collate_eq_then hb ha, compare?_swap ha hb, Ordering.swap_then,
    ← Std.OrientedOrd.eq_swap]
  cases compare? a b <;> rfl

/-- **Where nothing clashes the order goes on.**  What is at most a value is at most what that value
    is at most, if these two do not clash. -/
theorem isLE_collate_trans (ha : IsData a) (hb : IsData b) (hc : IsData c) (hclash : ¬Clash b c)
    (hab : (a.collate b).isLE = true) (hbc : (b.collate c).isLE = true) :
    (a.collate c).isLE = true := by
  rw [isLE_collate_iff ha hb] at hab
  rw [isLE_collate_iff hb hc] at hbc
  rw [isLE_collate_iff ha hc]
  by_cases hranks : a.rank = b.rank ∧ b.rank = c.rank
  · obtain ⟨hrank, hrank'⟩ := hranks
    have hab := (hab.resolve_left (by omega)).2
    have hbc := (hbc.resolve_left (by omega)).2
    refine .inr ⟨hrank.trans hrank', ?_⟩
    cases hcompare : compare? b c with
    | none =>
      -- These are two nulls or two objects, and so is the first with the last.
      have halike : ¬Alike a c := fun halike =>
        hclash ((Alike.of_rank hb hc hrank' halike).clash_of_compare? hcompare)
      rw [compare?, order?_of_not_alike ha hc halike]
      split <;> simp
    | some o =>
      cases o with
      | eq => rwa [← compare?_congr_right ha hb hc hcompare]
      | lt =>
        rcases compare?_of_lt ha hb hc hab hcompare with hac | hac <;> rw [hac]
        · exact hab
        · simp
      | gt => exact absurd hcompare hbc
  · omega

/-- Lists that clash still do when one of them goes on. -/
theorem orderItems?_append_of_none (h : orderItems? xs ys = none) :
    orderItems? (xs ++ zs) ys = none := by
  induction xs generalizing ys with
  | nil => cases ys <;> cases h
  | cons x xs ih =>
    cases ys with
    | nil => cases h
    | cons y ys =>
      rw [orderItems?] at h
      rw [List.cons_append, orderItems?]
      split at h
      · rename_i hsame
        rw [if_pos hsame, ih h]
      · rename_i hsame
        rw [if_neg hsame, h]

/-- A list comes after what it goes on from. -/
theorem orderItems?_append_self (hxs : ∀ x ∈ xs, IsData x) :
    orderItems? (xs ++ [a]) xs = some .gt := by
  induction xs with
  | nil => rfl
  | cons x xs ih =>
    obtain ⟨hx, hxs⟩ := List.forall_mem_cons.1 hxs
    rw [List.cons_append, orderItems?, if_pos (same_refl hx), ih hxs]

/-- Between lists that clash the order does not go on: the second with one more element is at most
    the first, and the first at most the second. -/
theorem exists_of_clash (ha : IsData a) (hb : IsData b) (h : Clash a b) :
    ∃ c, IsData c ∧ (c.collate a).isLE = true ∧ (a.collate b).isLE = true ∧
      ¬(c.collate b).isLE = true := by
  obtain ⟨xs, ys, rfl, rfl, hnone⟩ : ∃ xs ys, a = .list xs ∧ b = .list ys ∧
      orderItems? xs ys = none := by
    cases a <;> cases b <;> first | exact h.elim | exact ⟨_, _, rfl, rfl, h⟩
  have hc : IsData (.list (ys ++ [.null])) := .list fun v hv => by
    rcases List.mem_append.1 hv with hv | hv
    · exact hb.of_list v hv
    · rw [List.mem_singleton.1 hv]
      exact .null
  have hback : orderItems? ys xs = none := by
    rw [← compare?_list, compare?_swap ha hb, compare?_list, hnone]
    rfl
  refine ⟨_, hc, ?_, ?_, ?_⟩
  · rw [isLE_collate_iff hc ha, compare?_list, orderItems?_append_of_none hback]
    exact .inr ⟨rfl, by simp⟩
  · rw [isLE_collate_iff ha hb, compare?_list, hnone]
    exact .inr ⟨rfl, by simp⟩
  · rw [isLE_collate_iff hc hb, compare?_list, orderItems?_append_self hb.of_list]
    simp [rank]

/-- **The order of data.**  Every datum is even with itself, and turning two data round turns their
    order round.  Whatever is at most the first of two data is at most the second if the first is,
    for all data exactly if the two do not clash. -/
theorem collate_laws (ha : IsData a) (hb : IsData b) :
    a.collate a = .eq ∧ b.collate a = (a.collate b).swap ∧
      ((∀ c, IsData c → (c.collate a).isLE = true → (a.collate b).isLE = true →
          (c.collate b).isLE = true) ↔ ¬Clash a b) := by
  refine ⟨collate_refl ha, collate_swap ha hb, fun h hclash => ?_, fun hclash c hc hca hab =>
    isLE_collate_trans hc ha hb hclash hca hab⟩
  obtain ⟨c, hc, hca, hab, hcb⟩ := exists_of_clash ha hb hclash
  exact hcb (h c hc hca hab)

/-- Two lists that begin alike, as a number and a truth value do in lists, and go on with a text and
    with null: they are even either way round, and something is at most the first without being at
    most the second. -/
theorem collate_laws_mixed :
    let a : Value := .list [.int 1, .text "x"]
    let b : Value := .list [.bool true, .null]
    IsData a ∧ IsData b ∧ a.collate a = .eq ∧ b.collate a = (a.collate b).swap ∧ Clash a b ∧
      ¬∀ c, IsData c → (c.collate a).isLE = true → (a.collate b).isLE = true →
        (c.collate b).isLE = true := by
  intro a b
  have ha : IsData a := .list (by simp [IsData.int, IsData.text])
  have hb : IsData b := .list (by simp [IsData.bool, IsData.null])
  have hclash : Clash a b := show orderItems? _ _ = none by decide +kernel
  obtain ⟨hrefl, hswap, hgoes⟩ := collate_laws ha hb
  exact ⟨ha, hb, hrefl, hswap, hclash, fun h => hgoes.1 h hclash⟩

/-- The obvious statement fails: one is at most null and null at most zero, in lists, but one is not
    at most zero. -/
theorem collate_not_transitive :
    let a : Value := .list [.int 1]
    let b : Value := .list [.null]
    let c : Value := .list [.int 0]
    IsData a ∧ IsData b ∧ IsData c ∧ (a.collate b).isLE = true ∧ (b.collate c).isLE = true ∧
      ¬(a.collate c).isLE = true := by
  refine ⟨.list ?_, .list ?_, .list ?_, by decide +kernel, by decide +kernel, by decide +kernel⟩
  · exact fun v hv => List.mem_singleton.1 hv ▸ .int 1
  · exact fun v hv => List.mem_singleton.1 hv ▸ .null
  · exact fun v hv => List.mem_singleton.1 hv ▸ .int 0

end DocStore.Value
