/-
  What a flat list of conditions means.

  A caller may hand in a flat list, in which each condition says how it is joined to the one before
  it.  Such a list is read, cut into runs, made a tree and compiled.  This file says what comes out
  at the far end, without mentioning the tree:

  1. **Runs** — `IsRun` describes a maximal run by where it stands in the list: it opens the list or
     opens with an AND, goes on with ORs only, and ends where the list ends or the next AND stands.
     The runs that the list is cut into are exactly these (`mem_runs`).

  2. **The tree** (`ofConditions_holds`) — the filter of a flat list holds when every run has a
     condition that holds.

  3. **Reading** — `Stands` says which condition an entry of the list stands for, a ready-made one
     or an object that names a field.  Entries are read one by one (`ofItems_of_stands`).

  4. **The whole way** (`flat_list_selects`) — the list has a selector, and evaluating the selector
     on any document gives an answer, which is the one expected.
-/
import Mathlib.Data.List.SplitBy
import DocStore.Filter.Reading
import DocStore.Proofs.Filter.Meaning

namespace DocStore

/-! ## Runs -/

/-- A maximal run of a flat list. -/
def Condition.IsRun (conditions run : List Condition) : Prop :=
  ∃ before first others after, conditions = before ++ (first :: others) ++ after ∧
    run = first :: others ∧ (before = [] ∨ first.connector = .and) ∧
    (∀ c ∈ others, c.connector = .or) ∧ ∀ c ∈ after.head?, c.connector = .and

namespace Filter

/-- A connector that is not OR is AND. -/
theorem connector_and_iff {c : Condition} : c.connector = .and ↔ ¬ c.connector = .or := by
  cases c.connector <;> simp

/-- Lists of which the second opens with an AND have their runs apart. -/
theorem runs_append {before after : List Condition}
    (h : before = [] ∨ ∀ c ∈ after.head?, c.connector = .and) :
    runs (before ++ after) = runs before ++ runs after := by
  rcases h with rfl | h
  · rfl
  · apply List.splitBy_append
    intro last _ next hnext
    exact decide_eq_false (connector_and_iff.1 (h next hnext))

/-- A list that goes on with ORs only is one run. -/
theorem runs_single {first : Condition} {others : List Condition}
    (h : ∀ c ∈ others, c.connector = .or) : runs (first :: others) = [first :: others] := by
  apply List.splitBy_of_isChain (List.cons_ne_nil _ _)
  induction others generalizing first with
  | nil => exact List.isChain_singleton first
  | cons c rest ih =>
    obtain ⟨hc, hrest⟩ := List.forall_mem_cons.1 h
    exact List.isChain_cons_cons.2 ⟨decide_eq_true hc, ih hrest⟩

/-- In a chain of conditions that goes on with ORs, all but the first are joined by OR. -/
theorem connector_or_of_isChain {first : Condition} {others : List Condition}
    (h : (first :: others).IsChain fun _ next => decide (next.connector = .or) = true) :
    ∀ c ∈ others, c.connector = .or := by
  induction others generalizing first with
  | nil => intro c hc; exact absurd hc List.not_mem_nil
  | cons next rest ih =>
    obtain ⟨hnext, hrest⟩ := List.isChain_cons_cons.1 h
    exact List.forall_mem_cons.2 ⟨of_decide_eq_true hnext, ih hrest⟩

/-- The runs that a flat list is cut into are its maximal runs. -/
theorem mem_runs {conditions run : List Condition} :
    run ∈ runs conditions ↔ Condition.IsRun conditions run := by
  constructor
  · intro hmem
    obtain ⟨earlier, later, hsplit⟩ := List.append_of_mem hmem
    have hjoin : conditions = earlier.flatten ++ run ++ later.flatten := by
      rw [← List.flatten_splitBy (fun _ next => decide (next.connector = .or)) conditions]
      show (runs conditions).flatten = _
      simp [hsplit]
    have hnonempty : [] ∉ runs conditions := List.nil_notMem_splitBy _ _
    -- Between two neighbouring runs the condition that opens the second is not joined by OR.
    have hgaps := List.isChain_getLast_head_splitBy
      (fun _ next => decide (next.connector = .or)) conditions
    change (runs conditions).IsChain _ at hgaps
    rw [hsplit, List.isChain_append] at hgaps
    obtain ⟨_, hlater, hearlier⟩ := hgaps
    cases run with
    | nil => exact absurd hmem hnonempty
    | cons first others =>
      refine ⟨earlier.flatten, first, others, later.flatten, hjoin, rfl, ?_,
        connector_or_of_isChain (List.isChain_of_mem_splitBy hmem), ?_⟩
      · -- The run before this one, if any, ends where the condition beside it is joined by AND.
        rcases List.eq_nil_or_concat earlier with rfl | ⟨front, last, rfl⟩
        · exact .inl rfl
        · obtain ⟨_, _, hbreak⟩ := hearlier last (by simp) (first :: others) (by simp)
          exact .inr (connector_and_iff.2 (of_decide_eq_false hbreak))
      · cases later with
        | nil => intro c hc; exact absurd hc (by simp)
        | cons next rest =>
          obtain ⟨_, hnext, hbreak⟩ := (List.isChain_cons_cons.1 hlater).1
          obtain ⟨head, tail, rfl⟩ := List.exists_cons_of_ne_nil hnext
          intro c hc
          obtain rfl : head = c := by simpa using hc
          exact connector_and_iff.2 (of_decide_eq_false hbreak)
  · rintro ⟨before, first, others, after, rfl, rfl, hopen, hor, hclose⟩
    -- The list is cut on both sides of the run, and the run itself is cut nowhere.
    have hcut : runs (before ++ (first :: others) ++ after) =
        runs before ++ [first :: others] ++ runs after := by
      rw [runs_append (.inr hclose), runs_append (by simpa using hopen), runs_single hor]
    rw [hcut]
    exact List.mem_append_left _ (List.mem_append_right _ (List.mem_singleton.2 rfl))

/-! ## The tree -/

/-- All of a row of filters hold when each of them does. -/
theorem allHold_eq_all (idKey : String) (fs : List Filter) (doc : Value) :
    allHold idKey fs doc = fs.all fun f => f.holds idKey doc := by
  induction fs with
  | nil => rfl
  | cons f rest ih => simp [allHold, ih]

/-- Some of a row of filters holds when one of them does. -/
theorem someHolds_eq_any (idKey : String) (fs : List Filter) (doc : Value) :
    someHolds idKey fs doc = fs.any fun f => f.holds idKey doc := by
  induction fs with
  | nil => rfl
  | cons f rest ih => simp [someHolds, ih]

/-- The filter of a run holds when one of its conditions does. -/
theorem ofRun_holds (idKey : String) {run : List Condition} (hne : run ≠ []) (doc : Value) :
    (ofRun run).holds idKey doc = run.any fun c => c.holds idKey doc := by
  -- A run of one condition is that condition, and any other is a choice.
  match run, hne with
  | [c], _ => simp [ofRun, holds]
  | c :: d :: rest, _ =>
    show (false || someHolds idKey ((c :: d :: rest).map .test) doc) = _
    rw [Bool.false_or, someHolds_eq_any, List.any_map]
    rfl

/-- A row of filters is plain when each of them is. -/
theorem arePlain_eq_all (fs : List Filter) : arePlain fs = fs.all isPlain := by
  induction fs with
  | nil => rfl
  | cons f rest ih => simp [arePlain, ih]

/-- The filter of a flat list holds when that of each run does. -/
theorem ofConditions_eq_all (idKey : String) (conditions : List Condition) (doc : Value) :
    (ofConditions conditions).holds idKey doc =
      (runs conditions).all fun run => (ofRun run).holds idKey doc := by
  unfold ofConditions
  split
  · rename_i hnone
    simp [List.map_eq_nil_iff.1 hnone, holds]
  · rename_i single hone
    obtain ⟨run, hrun, rfl⟩ := List.map_eq_singleton_iff.1 hone
    simp [hrun]
  · rw [holds, allHold_eq_all, List.all_map]
    rfl

/-- The filter of a flat list holds when every maximal run has a condition that does. -/
theorem ofConditions_holds (idKey : String) (conditions : List Condition) (doc : Value) :
    (ofConditions conditions).holds idKey doc = true ↔
      ∀ run, Condition.IsRun conditions run → ∃ c ∈ run, c.holds idKey doc = true := by
  rw [ofConditions_eq_all, List.all_eq_true]
  refine forall_congr' fun run => ?_
  rw [mem_runs]
  refine imp_congr_right fun hrun => ?_
  have hne : run ≠ [] := by
    obtain ⟨_, _, _, _, _, rfl, _⟩ := hrun
    exact List.cons_ne_nil _ _
  rw [ofRun_holds idKey hne, List.any_eq_true]

/-- A flat list of plain conditions makes a plain filter. -/
theorem ofConditions_isPlain {conditions : List Condition}
    (h : ∀ c ∈ conditions, c.isPlain = true) :
    (ofConditions conditions).isPlain = true := by
  have hrun : ∀ run ∈ runs conditions, (ofRun run).isPlain = true := by
    intro run hmem
    have hpart : ∀ c ∈ run, c.isPlain = true := by
      obtain ⟨before, first, others, after, rfl, rfl, _⟩ := mem_runs.1 hmem
      exact fun c hc => h c (by simp only [List.mem_append]; exact .inl (.inr hc))
    match run with
    | [c] => exact hpart c (List.mem_singleton.2 rfl)
    | [] => rfl
    | c :: d :: rest =>
      show arePlain ((c :: d :: rest).map Filter.test) = true
      rw [arePlain_eq_all, List.all_map, List.all_eq_true]
      exact hpart
  unfold ofConditions
  split
  · rfl
  · rename_i single hone
    obtain ⟨run, hruns, rfl⟩ := List.map_eq_singleton_iff.1 hone
    exact hrun run (by rw [hruns]; exact List.mem_singleton.2 rfl)
  · rw [isPlain, arePlain_eq_all, List.all_map, List.all_eq_true]
    exact hrun

end Filter

/-! ## Reading -/

/-- What an entry of a flat list stands for: a ready-made condition for itself, and an object that
    names a field for the condition on that field, with what it gives for the rest. -/
inductive Condition.Stands : Value → Condition → Prop
  | ready (c : Condition) : Stands c.toValue c
  | mapping {fields : Object} {connector : Connector} (hfield : (fieldOf fields).truthy = true)
      (hconnector : connectorOf fields = .ok connector) :
      Stands (.object fields)
        ⟨.text (fieldOf fields).written, either fields "value" "val", operatorOf fields, connector⟩

/-- Entries are read as what they stand for. -/
theorem Condition.ofItems_of_stands {items : List Value} {conditions : List Condition}
    (h : List.Forall₂ Stands items conditions) : ofItems items = .ok conditions := by
  induction h with
  | nil => rfl
  | cons hentry _ ih =>
    cases hentry with
    | ready c =>
      rw [toValue, ofItems, ih]
      rfl
    | mapping hfield hconnector =>
      rw [ofItems, if_pos hfield, ih, ofFields, if_pos hfield, hconnector]
      rfl

/-! ## The whole way -/

namespace Filter

/-- **A flat list selects what it says.**  A flat list of plain conditions has a selector.  On every
    document that selector gives an answer, and the answer is true just when each maximal run of the
    list has a condition that the document meets.  A list without entries has no runs, so it selects
    everything. -/
theorem flat_list_selects {items : List Value} {conditions : List Condition} {entries : Value}
    (hentries : entries = .list items ∨ entries = .tuple items)
    (hstands : List.Forall₂ Condition.Stands items conditions)
    (hplain : ∀ c ∈ conditions, c.isPlain = true) :
    ∃ selector, (ofValue entries >>= Filter.selector (.text "_id")) = .ok selector ∧
      ∀ doc, ∃ answer, Selector.test selector doc = .ok answer ∧
        (answer = true ↔
          ∀ run, Condition.IsRun conditions run → ∃ c ∈ run, c.holds "_id" doc = true) := by
  have hread : ofValue entries = .ok (ofConditions conditions) := by
    have hitems := Condition.ofItems_of_stands hstands
    rcases hentries with rfl | rfl
    · rw [ofValue, ofNode, hitems]
      rfl
    · rw [ofValue, ofNode, hitems]
      rfl
  obtain ⟨selector, hselector, htest⟩ :=
    selector_means (show Selector.isCombinator "_id" = false by decide) _
      (ofConditions_isPlain hplain)
  refine ⟨selector, ?_, fun doc => ⟨_, htest doc, ofConditions_holds "_id" conditions doc⟩⟩
  rw [hread]
  exact hselector

/-- A list that begins with an OR, goes on with one and ends with an AND: two runs, of which the
    first is an alternative between a comparison and a text with a special character in it. -/
theorem flat_list_selects_two_runs :
    ∃ selector, (ofValue (.list
        [.condition (.text "address.floor") (.int 3) (.known .gt) .or,
          .object [("field", .text "name"), ("operator", .text "contains"), ("value", .text "a.c"),
            ("connector", .text "or")],
          .object [("attr", .text "id"), ("val", .object [("$gt", .int 0)])]])
          >>= Filter.selector (.text "_id")) = .ok selector ∧
      ∀ doc, ∃ answer, Selector.test selector doc = .ok answer ∧
        (answer = true ↔
          ∀ run, Condition.IsRun
              [⟨.text "address.floor", .int 3, .known .gt, .or⟩,
                ⟨.text "name", .text "a.c", .known .contains, .or⟩,
                ⟨.text "id", .object [("$gt", .int 0)], .known .eq, .and⟩] run →
            ∃ c ∈ run, c.holds "_id" doc = true) := by
  have hor : Connector.ofText? "or" = some .or := by decide +kernel
  refine flat_list_selects (.inl rfl)
    (.cons (.ready ⟨.text "address.floor", .int 3, .known .gt, .or⟩)
    (.cons (.mapping (by decide +kernel) ?_) (.cons (.mapping (by decide +kernel) rfl) .nil)))
    (by decide +kernel)
  simp [Condition.connectorOf, Object.getD, Object.get?, Value.truthy, Connector.ofValue,
    Value.written, hor]

end Filter

end DocStore
