/-
  Sorted rows.

  Let the comparison be an order on the elements of a row.  Then sorting by insertion puts them into
  it, and elements that are even stay as they came: whatever holds from each element of the row to
  each one behind it still does between elements that are even (`insertionSort_ordered`).

  1. **Inserting** — halving a sorted row finds the one place where a new element belongs: behind
     all that do not come after it, and before all that do (`Fits`, `insertHalving_cut`).

  2. **The first run** — a row begins with elements that do not go down, which stay, or with
     elements that go strictly down, which are turned round (`firstRun_ordered`).

  3. **The whole row** — the sorted part grows by one element at a time, and each comes from behind
     all that have been sorted before it (`foldl_insertHalving_ordered`).

  Documents that are not hard to order are sorted so (`sortDocuments_ordered`).
-/
import DocStore.Proofs.Order.Collation

namespace DocStore

section

variable {α : Type} {cmp : α → α → Ordering} {less : α → α → Bool} {R : α → α → Prop}
  {row sorted tail : List α} {x : α}

/-- Whether an element may stand before another: it is less, or they are even and related. -/
def Precedes (cmp : α → α → Ordering) (R : α → α → Prop) (a b : α) : Prop :=
  cmp a b = .lt ∨ cmp a b = .eq ∧ R a b

/-- Whether a test tells which elements of a row are less than which. -/
def Tells (less : α → α → Bool) (cmp : α → α → Ordering) (row : List α) : Prop :=
  ∀ a ∈ row, ∀ b ∈ row, less a b = true ↔ cmp a b = .lt

theorem Precedes.isLE {a b : α} (h : Precedes cmp R a b) : (cmp a b).isLE = true :=
  Ordering.isLE_iff_eq_lt_or_eq_eq.2 (h.imp_right And.left)

theorem precedes_of_isLE {a b : α} (h : (cmp a b).isLE = true) (hR : R a b) : Precedes cmp R a b :=
  (Ordering.isLE_iff_eq_lt_or_eq_eq.1 h).imp_right fun heq => ⟨heq, hR⟩

theorem Tells.mono {part : List α} (h : Tells less cmp row) (hpart : ∀ a ∈ part, a ∈ row) :
    Tells less cmp part :=
  fun a ha b hb => h a (hpart a ha) b (hpart b hb)

variable [Std.TransCmp cmp]

theorem Tells.isLE_of_not {a b : α} (h : Tells less cmp row) (ha : a ∈ row) (hb : b ∈ row)
    (hless : less a b ≠ true) :
    (cmp b a).isLE = true :=
  Std.OrientedCmp.isGE_iff_isLE.1 (Ordering.isGE_iff_ne_lt.2 fun hlt => hless ((h a ha b hb).2 hlt))

/-! ## Inserting -/

/-- Whether an element belongs between two rows: nothing before it comes after it, and all behind it
    does. -/
structure Fits (cmp : α → α → Ordering) (x : α) (before after : List α) : Prop where
  before : ∀ y ∈ before, (cmp y x).isLE = true
  after : ∀ y ∈ after, cmp x y = .lt

omit [Std.TransCmp cmp] in
theorem Fits.nil : Fits cmp x [] [] := ⟨by simp, by simp⟩

/-- Elements that are not below one that comes after the new element may stand behind it. -/
theorem Fits.append {before after upper : List α} {middle : α} (h : Fits cmp x before after)
    (hx : cmp x middle = .lt) (hupper : ∀ y ∈ upper, (cmp middle y).isLE = true) :
    Fits cmp x before (after ++ middle :: upper) := by
  refine ⟨h.before, fun y hy => ?_⟩
  rcases List.mem_append.1 hy with hy | hy
  · exact h.after y hy
  · rcases List.mem_cons.1 hy with rfl | hy
    · exact hx
    · exact Std.TransCmp.lt_of_lt_of_isLE hx (hupper y hy)

/-- Elements that are not above one that does not come after the new element may stand before it. -/
theorem Fits.prepend {before after lower : List α} {middle : α} (h : Fits cmp x before after)
    (hx : (cmp middle x).isLE = true) (hlower : ∀ y ∈ lower, (cmp y middle).isLE = true) :
    Fits cmp x (lower ++ middle :: before) after := by
  refine ⟨fun y hy => ?_, h.after⟩
  rcases List.mem_append.1 hy with hy | hy
  · exact Std.TransCmp.isLE_trans (hlower y hy) hx
  · rcases List.mem_cons.1 hy with rfl | hy
    · exact hx
    · exact h.before y hy

/-- **Halving finds the place** where a new element fits into a sorted row. -/
theorem insertHalving_cut (htells : Tells less cmp (x :: row))
    (hrow : row.Pairwise fun a b => (cmp a b).isLE = true) {steps : Nat}
    (hsteps : row.length ≤ steps) :
    ∃ before after, row = before ++ after ∧ insertHalving less x steps row = before ++ x :: after ∧
      Fits cmp x before after := by
  induction steps generalizing row with
  | zero =>
    obtain rfl := List.length_eq_zero_iff.1 (Nat.le_zero.1 hsteps)
    exact ⟨[], [], rfl, rfl, .nil⟩
  | succ steps ih =>
    cases hdrop : row.drop (row.length / 2) with
    | nil =>
      have hempty : row = [] := by
        have := List.drop_eq_nil_iff.1 hdrop
        exact List.length_eq_zero_iff.1 (by omega)
      exact ⟨[], [], hempty, by rw [insertHalving, hdrop]; rfl, .nil⟩
    | cons middle upper =>
      have hhalves : row = row.take (row.length / 2) ++ middle :: upper := by
        rw [← hdrop, List.take_append_drop]
      have hlength := congrArg List.length hdrop
      rw [List.length_drop, List.length_cons] at hlength
      have hlower : (row.take (row.length / 2)).length ≤ row.length / 2 := List.length_take_le _ _
      simp only [insertHalving, hdrop]
      generalize row.take (row.length / 2) = lower at hhalves hlower
      rw [hhalves, List.pairwise_append, List.pairwise_cons] at hrow
      obtain ⟨hrowLower, ⟨hmiddle, hrowUpper⟩, hacross⟩ := hrow
      rw [hhalves] at htells
      by_cases hx : less x middle = true
      · -- The middle comes after the new element, and all above the middle with it.
        obtain ⟨before, after, hcut, hinsert, hfits⟩ :=
          ih (htells.mono (by simp +contextual [or_imp])) hrowLower (by omega)
        have hxmiddle : cmp x middle = .lt := (htells x (by simp) middle (by simp)).1 hx
        refine ⟨before, after ++ middle :: upper, by rw [hhalves, hcut, List.append_assoc], ?_,
          hfits.append hxmiddle hmiddle⟩
        rw [if_pos hx, hinsert, List.append_assoc, List.cons_append]
      · -- The middle does not come after the new element, and neither does anything below it.
        obtain ⟨before, after, hcut, hinsert, hfits⟩ :=
          ih (htells.mono (by simp +contextual [or_imp])) hrowUpper (by omega)
        have hmiddlex : (cmp middle x).isLE = true := htells.isLE_of_not (by simp) (by simp) hx
        refine ⟨lower ++ middle :: before,
          after, by rw [hhalves, hcut, List.append_assoc, List.cons_append], ?_,
          hfits.prepend hmiddlex fun y hy => hacross y hy middle List.mem_cons_self⟩
        rw [if_neg hx, hinsert, List.append_assoc, List.cons_append]

/-- A new element that comes from behind a sorted row finds its place in it. -/
theorem insertHalving_ordered (htells : Tells less cmp (x :: row))
    (hrow : row.Pairwise (Precedes cmp R)) (hx : ∀ y ∈ row, R y x) :
    (insertHalving less x row.length row).Pairwise (Precedes cmp R) := by
  obtain ⟨before, after, hcut, hinsert, hfits⟩ :=
    insertHalving_cut htells (hrow.imp Precedes.isLE) (Nat.le_refl row.length)
  rw [hinsert]
  subst hcut
  obtain ⟨hrowBefore, hrowAfter, hacross⟩ := List.pairwise_append.1 hrow
  have hrowBehind := List.pairwise_cons.2 ⟨fun y hy => .inl (hfits.after y hy), hrowAfter⟩
  refine List.pairwise_append.2 ⟨hrowBefore, hrowBehind, fun y hy z hz => ?_⟩
  rcases List.mem_cons.1 hz with rfl | hz
  · exact precedes_of_isLE (hfits.before y hy) (hx y (List.mem_append_left _ hy))
  · exact hacross y hy z hz

/-! ## The first run -/

omit [Std.TransCmp cmp] in
/-- Along a chain, a relation that can be put together holds from each element to all behind it. -/
theorem splitChain_pairwise {S : α → α → Prop} (htrans : ∀ {a b c}, S a b → S b c → S a c)
    {follows : α → α → Bool} {a : α}
    (hfollows : ∀ y ∈ a :: row, ∀ z ∈ row, follows y z = true → S y z) :
    (a :: (splitChain follows a row).1).Pairwise S := by
  induction row generalizing a with
  | nil => exact List.pairwise_singleton _ _
  | cons b rest ih =>
    rw [splitChain]
    split
    · rename_i hab
      have hS : S a b := hfollows a List.mem_cons_self b List.mem_cons_self hab
      have hchain := ih fun y hy z hz =>
        hfollows y (List.mem_cons_of_mem _ hy) z (List.mem_cons_of_mem _ hz)
      refine List.pairwise_cons.2 ⟨fun z hz => ?_, hchain⟩
      rcases List.mem_cons.1 hz with rfl | hz
      · exact hS
      · exact htrans hS (List.rel_of_pairwise_cons hchain hz)
    · exact List.pairwise_singleton _ _

omit [Std.TransCmp cmp] in
/-- The first run has the elements that a row begins with. -/
theorem firstRun_front (less : α → α → Bool) (row : List α) :
    ∃ front, row = front ++ (firstRun less row).2 ∧ (firstRun less row).1.Perm front := by
  match row with
  | [] => exact ⟨[], rfl, .refl _⟩
  | [a] => exact ⟨[a], rfl, .refl _⟩
  | a :: b :: rest =>
    rw [firstRun]
    split
    · exact ⟨_, congrArg (a :: ·) (splitChain_append (fun y z => less z y) a (b :: rest)).symm,
        List.reverse_perm _⟩
    · exact ⟨_, congrArg (a :: ·) (splitChain_append (fun y z => !less z y) a (b :: rest)).symm,
        .refl _⟩

/-- **A first run is in order**, whether it was kept or turned round. -/
theorem firstRun_ordered (htells : Tells less cmp row) (hrow : row.Pairwise R) :
    (firstRun less row).1.Pairwise (Precedes cmp R) := by
  match row with
  | [] => exact .nil
  | [a] => exact List.pairwise_singleton _ _
  | a :: b :: rest =>
    rw [firstRun]
    split
    · have hdown : (a :: (splitChain (fun y z => less z y) a (b :: rest)).1).Pairwise fun y z =>
          cmp z y = .lt :=
        splitChain_pairwise (S := fun y z => cmp z y = .lt)
          (fun hab hbc => Std.TransCmp.lt_trans hbc hab) fun y hy z hz hless =>
            (htells z (List.mem_cons_of_mem _ hz) y hy).1 hless
      exact (List.pairwise_reverse.2 hdown).imp .inl
    · have hup : (a :: (splitChain (fun y z => !less z y) a (b :: rest)).1).Pairwise fun y z =>
          (cmp y z).isLE = true :=
        splitChain_pairwise Std.TransCmp.isLE_trans fun y hy z hz hnot =>
          htells.isLE_of_not (List.mem_cons_of_mem _ hz) hy (by simpa using hnot)
      have hfront : (a :: (splitChain (fun y z => !less z y) a (b :: rest)).1).Pairwise R := by
        rw [← splitChain_append (fun y z => !less z y) a (b :: rest), ← List.cons_append] at hrow
        exact (List.pairwise_append.1 hrow).1
      exact (hup.and hfront).imp fun h => precedes_of_isLE h.1 h.2

/-! ## The whole row -/

/-- Inserting what comes from behind a sorted row, one element after the other, leaves it sorted. -/
theorem foldl_insertHalving_ordered (htells : Tells less cmp (sorted ++ tail))
    (hsorted : sorted.Pairwise (Precedes cmp R)) (htail : tail.Pairwise R)
    (hacross : ∀ y ∈ sorted, ∀ z ∈ tail, R y z) :
    (tail.foldl (fun sorted x => insertHalving less x sorted.length sorted) sorted).Pairwise
      (Precedes cmp R) := by
  induction tail generalizing sorted with
  | nil => exact hsorted
  | cons x rest ih =>
    obtain ⟨hx, hrest⟩ := List.pairwise_cons.1 htail
    have hperm := insertHalving_perm less x sorted.length sorted
    have hall : ((insertHalving less x sorted.length sorted) ++ rest).Perm (sorted ++ x :: rest) :=
      (hperm.append_right rest).trans List.perm_middle.symm
    refine ih (htells.mono fun y hy => hall.mem_iff.1 hy) ?_ hrest fun y hy z hz => ?_
    · exact insertHalving_ordered (htells.mono (by simp +contextual [or_imp])) hsorted fun y hy =>
        hacross y hy x List.mem_cons_self
    · rcases List.mem_cons.1 (hperm.mem_iff.1 hy) with rfl | hy
      · exact hx z hz
      · exact hacross y hy z (List.mem_cons_of_mem _ hz)

/-- **Sorting puts a row in order**, and elements that are even stay as they came. -/
theorem insertionSort_ordered (htells : Tells less cmp row) (hrow : row.Pairwise R) :
    (insertionSort less row).Pairwise (Precedes cmp R) := by
  obtain ⟨front, hfront, hrun⟩ := firstRun_front less row
  have hordered := firstRun_ordered htells hrow
  rw [hfront] at hrow
  obtain ⟨-, htail, hacross⟩ := List.pairwise_append.1 hrow
  exact foldl_insertHalving_ordered (htells.mono fun y hy =>
      (firstRun_perm less row).mem_iff.1 hy) hordered htail
    fun y hy z hz => hacross y (hrun.mem_iff.1 hy) z hz

end

/-! ## Documents -/

/-- The test that documents are sorted by tells their order, where none is hard to order. -/
theorem tells_compareBy {paths : List (String × Bool)} {docs : List Value}
    (heasy : ∀ doc ∈ docs, isHardToOrder paths doc = false) :
    Tells (fun a b => decide (compareBy paths a b = .lt)) (compareFlatBy paths) docs := by
  intro a ha b hb
  rw [← compareBy_eq_compareFlatBy (heasy a ha) (heasy b hb)]
  exact decide_eq_true_iff

/-- **Sorting puts documents in order**, and those that are even stay as they came. -/
theorem sortDocuments_ordered {keys : List SortKey} {name : Value → Value} {docs : List Value}
    {R : Value → Value → Prop}
    (heasy : ∀ doc ∈ docs, isHardToOrder (SortKey.paths name keys) doc = false)
    (hdocs : docs.Pairwise R) :
    (sortDocuments keys name docs).Pairwise (Precedes (compareBy (SortKey.paths name keys)) R) := by
  have hall : docs.any (isHardToOrder (SortKey.paths name keys)) = false := by
    simpa using heasy
  have hperm := insertionSort_perm
    (fun a b => decide (compareBy (SortKey.paths name keys) a b = .lt)) docs
  simp only [sortDocuments, hall]
  refine (insertionSort_ordered (tells_compareBy heasy) hdocs).imp_of_mem fun ha hb hprecedes => ?_
  rwa [Precedes, compareBy_eq_compareFlatBy (heasy _ (hperm.mem_iff.1 ha))
    (heasy _ (hperm.mem_iff.1 hb))]

end DocStore
