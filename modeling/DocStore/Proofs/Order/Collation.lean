/-
  The order of documents is an order.

  What is compared with its like by `collate` need not be ordered by it: a list may hold values that
  do not compare, and what is no number is even with every number.  Without those it is, and the
  same order can be written as one measure after the other, each of which is known to be one:

  1. **Values** — flat values go by kind, then by the side of the numbers that they are on, by their
     number, and by their letters (`compareFlat`, `collate_eq_compareFlat`).

  2. **Documents** — at one path, documents that have a value go before those that have none, and in
     either direction by the values (`compareAt`).  At a row of paths, they go by one path after the
     other (`compareFlatBy`, `compareBy_eq_compareFlatBy`).

  3. **Rows of paths** — a comparison at a row of paths reads nothing but the values there
     (`compareBy_congr`), so paths at which neither document has a value can be left out
     (`compareBy_filter`).

  So documents that are not hard to order are ordered, and the comparison is the one that sorting
  uses.
-/
import DocStore.Order.Sort

namespace DocStore

namespace Value

/-! ## Values -/

/-- Whether a value is neither a row nor what is no number. -/
def isFlat : Value → Bool
  | .list _ => false
  | .tuple _ => false
  | .nan => false
  | _ => true

/-- The side of the finite numbers that a value is on. -/
def side : Value → Int
  | .infinity negative => if negative then -1 else 1
  | _ => 0

/-- The finite number that a value counts as, or zero. -/
def measure (v : Value) : Int := v.units?.getD 0

/-- The letters of a text; none of anything else. -/
def letters : Value → String
  | .text s => s
  | _ => ""

/-- The order of flat values of one kind. -/
def compareWithin : Value → Value → Ordering :=
  compareLex (compareOn side) (compareLex (compareOn measure) (compareOn letters))

/-- The order of flat values. -/
def compareFlat : Value → Value → Ordering := compareLex (compareOn rank) compareWithin

instance : Std.TransCmp compareWithin :=
  inferInstanceAs
    (Std.TransCmp (compareLex (compareOn side)
      (compareLex (compareOn measure) (compareOn letters))))

instance : Std.TransCmp compareFlat :=
  inferInstanceAs (Std.TransCmp (compareLex (compareOn rank) compareWithin))

/-- Within a kind that has an order, flat values go by their measures; in a kind that has none, all
    measures are even. -/
theorem order?_eq_compareWithin {a b : Value} (ha : a.isFlat = true) (hb : b.isFlat = true)
    (hrank : a.rank = b.rank) : (order? a b).getD .eq = compareWithin a b := by
  -- Two values of one kind remain; those without an order are even at once.
  cases a <;> cases b <;> simp [isFlat, rank] at ha hb hrank
  all_goals try rfl
  all_goals simp only [compareWithin, compareLex, compareOn, side, measure, letters, order?, units?,
    Option.getD_some, Option.map_some, Std.ReflCmp.compare_self, Ordering.then_eq, Ordering.eq_then]
  -- What remains has an infinity on one side, and goes by the side it is on.
  case int.infinity n negative => cases negative <;> rfl
  case double.infinity d negative => cases negative <;> rfl
  case infinity.int negative n => cases negative <;> rfl
  case infinity.double negative d => cases negative <;> rfl
  case infinity.infinity first second => cases first <;> cases second <;> rfl

/-- **Flat values are ordered.** -/
theorem collate_eq_compareFlat {a b : Value} (ha : a.isFlat = true) (hb : b.isFlat = true) :
    a.collate b = compareFlat a b := by
  have hflat : compareFlat a b = (compare a.rank b.rank).then (compareWithin a b) := rfl
  rw [collate, hflat]
  cases hrank : compare a.rank b.rank with
  | eq => exact order?_eq_compareWithin ha hb (Nat.compare_eq_eq.1 hrank)
  | lt => rfl
  | gt => rfl

end Value

/-! ## Documents -/

/-- What a value is compared by may be read off it. -/
theorem transCmp_comap {α β : Type} (cmp : β → β → Ordering) [Std.TransCmp cmp] (f : α → β) :
    Std.TransCmp fun a b => cmp (f a) (f b) where
  eq_swap := Std.OrientedCmp.eq_swap
  isLE_trans := Std.TransCmp.isLE_trans

/-- The order of flat values in a direction. -/
def compareDirected (descending : Bool) (a b : Value) : Ordering :=
  if descending then Value.compareFlat b a else Value.compareFlat a b

instance (descending : Bool) : Std.TransCmp (compareDirected descending) := by
  cases descending with
  | false => exact inferInstanceAs (Std.TransCmp Value.compareFlat)
  | true =>
    show Std.TransCmp fun a b => Value.compareFlat b a
    exact Std.TransCmp.opposite

/-- The order of documents whose values at a path are flat: those without a value last. -/
def compareAt (path : String × Bool) : Value → Value → Ordering :=
  compareLex (compareOn fun doc => (doc.sortable? path.1).isNone)
    fun a b => compareDirected path.2 ((a.sortable? path.1).getD .null)
      ((b.sortable? path.1).getD .null)

/-- The order of documents whose values at a row of paths are flat. -/
def compareFlatBy : List (String × Bool) → Value → Value → Ordering
  | [] => fun _ _ => .eq
  | path :: rest => compareLex (compareAt path) (compareFlatBy rest)

instance (path : String × Bool) : Std.TransCmp (compareAt path) :=
  have := transCmp_comap (compareDirected path.2) fun doc : Value =>
    (doc.sortable? path.1).getD .null
  inferInstanceAs (Std.TransCmp (compareLex (compareOn _) _))

instance (paths : List (String × Bool)) : Std.TransCmp (compareFlatBy paths) := by
  induction paths with
  | nil => exact { eq_swap := rfl, isLE_trans := fun _ _ => rfl }
  | cons path rest ih => exact inferInstanceAs (Std.TransCmp (compareLex _ _))

/-- What a document that is not hard to order has at the first path is flat, and it is not hard to
    order at the others. -/
theorem isHardToOrder_cons {path : String × Bool} {rest : List (String × Bool)} {doc : Value}
    (h : isHardToOrder (path :: rest) doc = false) :
    (∀ v, doc.sortable? path.1 = some v → v.isFlat = true) ∧ isHardToOrder rest doc = false := by
  rw [isHardToOrder, List.any_cons, Bool.or_eq_false_iff] at h
  refine ⟨fun v hv => ?_, h.2⟩
  have hhere := h.1
  rw [hv] at hhere
  cases v <;> first | rfl | cases hhere

/-- **Documents that are not hard to order are ordered.** -/
theorem compareBy_eq_compareFlatBy {paths : List (String × Bool)} {a b : Value}
    (ha : isHardToOrder paths a = false) (hb : isHardToOrder paths b = false) :
    compareBy paths a b = compareFlatBy paths a b := by
  induction paths with
  | nil => rfl
  | cons path rest ih =>
    obtain ⟨hflata, ha⟩ := isHardToOrder_cons ha
    obtain ⟨hflatb, hb⟩ := isHardToOrder_cons hb
    have hhere : compareOptional path.2 (a.sortable? path.1) (b.sortable? path.1) =
        compareAt path a b := by
      simp only [compareAt, compareLex, compareOn]
      cases hva : a.sortable? path.1 with
      | none =>
        cases hvb : b.sortable? path.1 with
        | none =>
          have heven : compareDirected path.2 .null .null = .eq := Std.ReflCmp.compare_self
          exact heven.symm
        | some w => rfl
      | some v =>
        cases hvb : b.sortable? path.1 with
        | none => rfl
        | some w =>
          have hflat := Value.collate_eq_compareFlat (hflata v hva) (hflatb w hvb)
          show (if path.2 then (v.collate w).swap else v.collate w) = compareDirected path.2 v w
          rw [hflat, compareDirected, ← Std.OrientedCmp.eq_swap]
    calc compareBy (path :: rest) a b
        = (compareAt path a b).then (compareBy rest a b) := by rw [compareBy, hhere]
      _ = compareFlatBy (path :: rest) a b := by rw [ih ha hb]; rfl

/-! ## Rows of paths -/

/-- A row of paths goes on where the front of it leaves documents even. -/
theorem compareBy_append (first second : List (String × Bool)) (a b : Value) :
    compareBy (first ++ second) a b = (compareBy first a b).then (compareBy second a b) := by
  induction first with
  | nil => rfl
  | cons path rest ih => rw [List.cons_append, compareBy, compareBy, ih, Ordering.then_assoc]

/-- Documents with the same values at all paths compare alike. -/
theorem compareBy_congr {paths : List (String × Bool)} {a b a' b' : Value}
    (ha : ∀ path ∈ paths, a'.sortable? path.1 = a.sortable? path.1)
    (hb : ∀ path ∈ paths, b'.sortable? path.1 = b.sortable? path.1) :
    compareBy paths a' b' = compareBy paths a b := by
  induction paths with
  | nil => rfl
  | cons path rest ih =>
    obtain ⟨hahere, ha⟩ := List.forall_mem_cons.1 ha
    obtain ⟨hbhere, hb⟩ := List.forall_mem_cons.1 hb
    rw [compareBy, compareBy, hahere, hbhere, ih ha hb]

/-- Paths at which neither document has a value decide nothing. -/
theorem compareBy_filter {keeps : String × Bool → Bool} {paths : List (String × Bool)} {a b : Value}
    (h : ∀ path ∈ paths, keeps path = false →
      a.sortable? path.1 = none ∧ b.sortable? path.1 = none) :
    compareBy (paths.filter keeps) a b = compareBy paths a b := by
  induction paths with
  | nil => rfl
  | cons path rest ih =>
    obtain ⟨hhere, hrest⟩ := List.forall_mem_cons.1 h
    cases hkeeps : keeps path with
    | true => rw [List.filter_cons_of_pos hkeeps, compareBy, compareBy, ih hrest]
    | false =>
      obtain ⟨ha, hb⟩ := hhere hkeeps
      rw [List.filter_cons_of_neg (by rw [hkeeps]; simp), ih hrest, compareBy, ha, hb]
      rfl

end DocStore
