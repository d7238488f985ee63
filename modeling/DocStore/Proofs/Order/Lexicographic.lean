/-
  Sorting is stable, and goes by one key after the other.

  Documents are sorted by a row of paths with directions.  A document comes ahead of another if it
  does so at the first path at which they are not even (`Ahead`).  At a path, what has a value there
  comes ahead of what has none or null, in both directions; two values go by `Value.collate`, turned
  round for a descending path (`AheadAt`).  The comparison that sorting uses says just that
  (`compareBy_eq_lt_iff`, `compareBy_eq_eq_iff`).

  Equal documents may stand in a row more than once, so stability is a statement about positions.

  1. **Positions** — sorting commutes with reading the elements off something else
     (`insertionSort_map`).  So sorting a row is sorting its positions by the elements there, and
     positions that are even come in their order (`insertionSort_positions`).

  2. **Keys** — one path at a time, then the row of paths by induction.

  Both together are `orderDocuments_lexicographic`.
-/
import DocStore.Proofs.Order.Request
import DocStore.Proofs.Order.Sorted
import Mathlib.Data.List.FinRange

namespace DocStore

/-! ## Positions -/

section

variable {α β : Type} {less : α → α → Bool} {cmp : α → α → Ordering}

theorem splitChain_map (follows : α → α → Bool) (f : β → α) (x : β) (row : List β) :
    splitChain follows (f x) (row.map f) =
      ((splitChain (fun y z => follows (f y) (f z)) x row).1.map f,
        (splitChain (fun y z => follows (f y) (f z)) x row).2.map f) := by
  induction row generalizing x with
  | nil => rfl
  | cons y rest ih =>
    rw [List.map_cons, splitChain, splitChain, ih y]
    split <;> rfl

theorem firstRun_map (f : β → α) (row : List β) :
    firstRun less (row.map f) =
      ((firstRun (fun y z => less (f y) (f z)) row).1.map f,
        (firstRun (fun y z => less (f y) (f z)) row).2.map f) := by
  match row with
  | [] => rfl
  | [x] => rfl
  | x :: y :: rest =>
    have hdown := splitChain_map (fun a b => less b a) f x (y :: rest)
    have hup := splitChain_map (fun a b => !less b a) f x (y :: rest)
    rw [List.map_cons, List.map_cons, firstRun, firstRun]
    rw [List.map_cons] at hdown hup
    split
    · rw [hdown, List.map_reverse]
      rfl
    · rw [hup]
      rfl

theorem insertHalving_map (f : β → α) (x : β) (steps : Nat) (row : List β) :
    insertHalving less (f x) steps (row.map f) =
      (insertHalving (fun y z => less (f y) (f z)) x steps row).map f := by
  induction steps generalizing row with
  | zero => rfl
  | succ steps ih =>
    rw [insertHalving, insertHalving, List.length_map, ← List.map_drop, ← List.map_take]
    cases row.drop (row.length / 2) with
    | nil => rfl
    | cons middle upper =>
      by_cases hless : less (f x) (f middle) = true
      · simp only [List.map_cons, hless, if_true, ih, List.map_append]
      · simp only [List.map_cons, hless, if_false, ih, List.map_append, Bool.false_eq_true]

/-- **Sorting what is read off a row** is reading it off the row sorted by it. -/
theorem insertionSort_map (f : β → α) (row : List β) :
    insertionSort less (row.map f) = (insertionSort (fun y z => less (f y) (f z)) row).map f := by
  have hfold : ∀ tail sorted : List β,
      (tail.map f).foldl (fun sorted x => insertHalving less x sorted.length sorted)
          (sorted.map f) =
        (tail.foldl (fun sorted x =>
          insertHalving (fun y z => less (f y) (f z)) x sorted.length sorted) sorted).map f := by
    intro tail
    induction tail with
    | nil => exact fun _ => rfl
    | cons x rest ih =>
      intro sorted
      rw [List.map_cons, List.foldl_cons, List.foldl_cons, List.length_map, insertHalving_map]
      exact ih _
  rw [insertionSort, insertionSort, firstRun_map]
  exact hfold _ _

/-- **Sorting a row is sorting its positions**, and those that are even stay as they were. -/
theorem insertionSort_positions [Std.TransCmp cmp] {row : List α} (htells : Tells less cmp row) :
    ∃ positions : List (Fin row.length), positions.Perm (List.finRange row.length) ∧
      insertionSort less row = positions.map row.get ∧
      positions.Pairwise (Precedes (fun p q => cmp (row.get p) (row.get q)) (· < ·)) := by
  have := transCmp_comap cmp row.get
  have htellsAt : Tells (fun p q => less (row.get p) (row.get q))
      (fun p q => cmp (row.get p) (row.get q)) (List.finRange row.length) :=
    fun p _ q _ => htells _ (List.get_mem row p) _ (List.get_mem row q)
  refine ⟨_, insertionSort_perm _ _, ?_,
    insertionSort_ordered htellsAt (List.pairwise_lt_finRange _)⟩
  rw [← insertionSort_map, List.map_get_finRange]

end

/-! ## Keys -/

namespace Value

/-- Whether a document has a value other than null at a path. -/
def HasAt (doc : Value) (path : String) (v : Value) : Prop := doc.at? path = some v ∧ v ≠ .null

/-- Whether a document has nothing or null at a path. -/
def LacksAt (doc : Value) (path : String) : Prop := doc.at? path = none ∨ doc.at? path = some .null

variable {doc v : Value} {path : String}

theorem sortable?_eq_some_iff : doc.sortable? path = some v ↔ doc.HasAt path v := by
  rw [sortable?, HasAt]
  split
  · rename_i hnull
    rw [hnull]
    constructor
    · exact fun h => absurd h (by simp)
    · rintro ⟨hv, hne⟩
      exact absurd (Option.some.inj hv).symm hne
  · rename_i hnull
    constructor
    · intro h
      refine ⟨h, fun hv => hnull ?_⟩
      rw [h, hv]
    · exact And.left

theorem sortable?_eq_none_iff : doc.sortable? path = none ↔ doc.LacksAt path := by
  rw [sortable?, LacksAt]
  split
  · rename_i hnull
    simp [hnull]
  · rename_i hnull
    exact ⟨.inl, fun h => h.resolve_right hnull⟩

end Value

/-- Whether a document comes strictly ahead of another at a path, in a direction. -/
inductive AheadAt : String × Bool → Value → Value → Prop
  | lacking {path : String} {descending : Bool} {a b v : Value} (ha : a.HasAt path v)
      (hb : b.LacksAt path) :
      AheadAt (path, descending) a b
  | ascending {path : String} {a b v w : Value} (ha : a.HasAt path v) (hb : b.HasAt path w)
      (h : v.collate w = .lt) : AheadAt (path, false) a b
  | descending {path : String} {a b v w : Value} (ha : a.HasAt path v) (hb : b.HasAt path w)
      (h : v.collate w = .gt) : AheadAt (path, true) a b

/-- Whether two documents are even at a path. -/
inductive EvenAt : String × Bool → Value → Value → Prop
  | lacking {path : String × Bool} {a b : Value} (ha : a.LacksAt path.1)
      (hb : b.LacksAt path.1) : EvenAt path a b
  | values {path : String × Bool} {a b v w : Value} (ha : a.HasAt path.1 v) (hb : b.HasAt path.1 w)
      (h : v.collate w = .eq) : EvenAt path a b

/-- Whether a document comes ahead of another by a row of paths: at the first at which they are not
    even. -/
inductive Ahead : List (String × Bool) → Value → Value → Prop
  | here {path : String × Bool} {rest : List (String × Bool)} {a b : Value} (h : AheadAt path a b) :
      Ahead (path :: rest) a b
  | later {path : String × Bool} {rest : List (String × Bool)} {a b : Value}
      (heven : EvenAt path a b) (h : Ahead rest a b) : Ahead (path :: rest) a b

variable {path : String × Bool} {order : List (String × Bool)} {a b : Value}

theorem compareOptional_eq_lt_iff :
    compareOptional path.2 (a.sortable? path.1) (b.sortable? path.1) = .lt ↔ AheadAt path a b := by
  obtain ⟨path, direction⟩ := path
  constructor
  · intro h
    cases hva : a.sortable? path with
    | none => cases hvb : b.sortable? path <;> simp [hva, hvb, compareOptional] at h
    | some v =>
      have ha := Value.sortable?_eq_some_iff.1 hva
      cases hvb : b.sortable? path with
      | none => exact .lacking ha (Value.sortable?_eq_none_iff.1 hvb)
      | some w =>
        have hb := Value.sortable?_eq_some_iff.1 hvb
        cases direction with
        | false => exact .ascending ha hb (by simpa [hva, hvb, compareOptional] using h)
        | true => exact .descending ha hb (by simpa [hva, hvb, compareOptional] using h)
  · intro h
    cases h with
    | lacking ha hb =>
      simp [Value.sortable?_eq_some_iff.2 ha, Value.sortable?_eq_none_iff.2 hb, compareOptional]
    | ascending ha hb h =>
      simp [Value.sortable?_eq_some_iff.2 ha, Value.sortable?_eq_some_iff.2 hb, compareOptional, h]
    | descending ha hb h =>
      simp [Value.sortable?_eq_some_iff.2 ha, Value.sortable?_eq_some_iff.2 hb, compareOptional, h]

theorem compareOptional_eq_eq_iff :
    compareOptional path.2 (a.sortable? path.1) (b.sortable? path.1) = .eq ↔ EvenAt path a b := by
  constructor
  · intro h
    cases hva : a.sortable? path.1 with
    | none =>
      cases hvb : b.sortable? path.1 with
      | none =>
        exact .lacking (Value.sortable?_eq_none_iff.1 hva) (Value.sortable?_eq_none_iff.1 hvb)
      | some w => simp [hva, hvb, compareOptional] at h
    | some v =>
      cases hvb : b.sortable? path.1 with
      | none => simp [hva, hvb, compareOptional] at h
      | some w =>
        refine .values (Value.sortable?_eq_some_iff.1 hva) (Value.sortable?_eq_some_iff.1 hvb) ?_
        rw [hva, hvb, compareOptional] at h
        split at h
        · exact Ordering.swap_eq_eq.1 h
        · exact h
  · intro h
    cases h with
    | lacking ha hb =>
      simp [Value.sortable?_eq_none_iff.2 ha, Value.sortable?_eq_none_iff.2 hb, compareOptional]
    | values ha hb h =>
      simp [Value.sortable?_eq_some_iff.2 ha, Value.sortable?_eq_some_iff.2 hb, compareOptional, h]

/-- **What comparing by a row of paths says**: one document is less if it comes ahead. -/
theorem compareBy_eq_lt_iff : compareBy order a b = .lt ↔ Ahead order a b := by
  induction order with
  | nil => exact ⟨fun h => (Ordering.noConfusion h : False).elim, fun h => nomatch h⟩
  | cons path rest ih =>
    rw [compareBy, Ordering.then_eq_lt, compareOptional_eq_lt_iff, compareOptional_eq_eq_iff, ih]
    constructor
    · rintro (h | ⟨heven, h⟩)
      · exact .here h
      · exact .later heven h
    · intro h
      cases h with
      | here h => exact .inl h
      | later heven h => exact .inr ⟨heven, h⟩

/-- Documents compare as even if they are even at every path. -/
theorem compareBy_eq_eq_iff : compareBy order a b = .eq ↔ ∀ path ∈ order, EvenAt path a b := by
  induction order with
  | nil => simp [compareBy]
  | cons path rest ih =>
    rw [compareBy, Ordering.then_eq_eq, compareOptional_eq_eq_iff, ih, List.forall_mem_cons]

/-- Documents that have no row at any of the paths, and nothing that is no number, are not hard to
    order. -/
theorem isHardToOrder_of_flat {doc : Value}
    (h : ∀ path ∈ order, ∀ v, doc.at? path.1 = some v → v.isFlat = true) :
    isHardToOrder order doc = false := by
  rw [isHardToOrder, List.any_eq_false]
  intro path hpath
  cases hv : doc.sortable? path.1 with
  | none => simp
  | some v =>
    have hflat := h path hpath v (Value.sortable?_eq_some_iff.1 hv).1
    cases v with
    | list => cases hflat
    | tuple => cases hflat
    | nan => cases hflat
    | _ => simp

/-- **Documents are put in order by one key after the other, and stay as they came where they are
    even.**  For any order and any renaming of its fields, if no document has a row at one of the
    paths (or what is no number, which no data has): the documents come back at positions that are
    those they had, rearranged, and of two of them the one that comes first is ahead of the other,
    or is even with it at every path and came first before. -/
theorem orderDocuments_lexicographic {name : Value → Value} {rename : String → String}
    (hname : ∀ field, name (.text field) = .text (rename field)) (fields : List (String × Bool))
    (docs : List Value)
    (hflat : ∀ doc ∈ docs, ∀ field ∈ fields, ∀ v, doc.at? (rename field.1) = some v →
      v.isFlat = true) :
    ∃ positions : List (Fin docs.length), positions.Perm (List.finRange docs.length) ∧
      orderDocuments (fields.map SortKey.ofPath) name docs = .ok (positions.map docs.get) ∧
      positions.Pairwise fun p q =>
        Ahead (fields.map fun field => (rename field.1, field.2)) (docs.get p) (docs.get q) ∨
          (∀ field ∈ fields, EvenAt (rename field.1, field.2) (docs.get p) (docs.get q)) ∧
          p < q := by
  have hpaths := SortKey.paths_ofPath_renamed hname fields
  have heasy : ∀ doc ∈ docs,
      isHardToOrder (fields.map fun field => (rename field.1, field.2)) doc = false := by
    intro doc hdoc
    refine isHardToOrder_of_flat fun path hpath v hv => ?_
    obtain ⟨field, hfield, rfl⟩ := List.mem_map.1 hpath
    exact hflat doc hdoc field hfield v hv
  obtain ⟨positions, hperm, hsorted, hordered⟩ := insertionSort_positions (tells_compareBy heasy)
  have hall : docs.any (isHardToOrder (SortKey.paths name (fields.map SortKey.ofPath))) =
      false := by
    rw [hpaths]
    simpa using heasy
  refine ⟨positions, hperm, ?_, hordered.imp fun {p q} h => ?_⟩
  · rw [orderDocuments_eq (SortKey.havePaths_ofPath hname fields), sortDocuments, hall, hpaths]
    exact congrArg Except.ok hsorted
  · rw [Precedes, ← compareBy_eq_compareFlatBy (heasy _ (List.get_mem docs p))
      (heasy _ (List.get_mem docs q)),
      compareBy_eq_lt_iff, compareBy_eq_eq_iff, List.forall_mem_map] at h
    exact h

/-- Documents in descending order of a field that is stored inside another: the two with the same
    name there come first and as they came, and the two that have no name there come last and as
    they came. -/
theorem orderDocuments_lexicographic_nested :
    let person (key : String) (data : Value) : Value := .object [("key", .text key), ("data", data)]
    let docs := [person "h" .null, person "i" (.object [("name", .text "a")]),
      person "j" (.object [("name", .text "b")]),
      person "k" (.object [("name", .null)]), person "l" (.object [("name", .text "b")])]
    let rename := fun field => "data." ++ field
    let name := fun v : Value => Value.text (rename v.written)
    let keyOf := fun doc : Value => ((doc.field? "key").getD .null).written
    (∀ field, name (.text field) = .text (rename field)) ∧
      (∀ doc ∈ docs, ∀ field ∈ [("name", true)], ∀ v, doc.at? (rename field.1) = some v →
        v.isFlat = true) ∧
      ∃ positions : List (Fin docs.length),
        orderDocuments ([("name", true)].map SortKey.ofPath) name docs =
          .ok (positions.map docs.get) ∧
        (positions.map docs.get).map keyOf = ["j", "l", "i", "h", "k"] ∧
        positions.Pairwise fun p q => Ahead [("data.name", true)] (docs.get p) (docs.get q) ∨
          (∀ field ∈ [("name", true)], EvenAt (rename field.1, field.2) (docs.get p) (docs.get q)) ∧
          p < q := by
  intro person docs rename name keyOf
  have hname : ∀ field, name (.text field) = .text (rename field) := fun _ => rfl
  have hflat : ∀ doc ∈ docs, ∀ field ∈ [("name", true)], ∀ v, doc.at? (rename field.1) = some v →
      v.isFlat = true := by
    have hall : docs.all (fun doc => (doc.at? "data.name").all Value.isFlat) = true := by
      decide +kernel
    intro doc hdoc field hfield v hv
    rw [List.mem_singleton.1 hfield] at hv
    have hhere := List.all_eq_true.1 hall doc hdoc
    rwa [show doc.at? "data.name" = some v from hv] at hhere
  obtain ⟨positions, -, hresult, hordered⟩ :=
    orderDocuments_lexicographic hname [("name", true)] docs hflat
  have hkeys : ((orderDocuments ([("name", true)].map SortKey.ofPath) name docs).toOption.map
        (List.map keyOf)) = some ["j", "l", "i", "h", "k"] := by decide +kernel
  rw [hresult] at hkeys
  exact ⟨hname, hflat, positions, hresult, Option.some.inj hkeys, hordered⟩

end DocStore
