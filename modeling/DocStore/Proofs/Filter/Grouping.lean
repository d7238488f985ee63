/-
  The tree of a flat list.

  A flat list of conditions is cut into runs, a run of several conditions becomes a choice, and
  several runs are joined.  The list can be grouped in one pass with two registers: the terms of the
  runs that are over, and the run that is still open.  A condition joined by OR goes into the open
  run; any other closes it and opens the next; and so does the end of the list.  This file says what
  the pass keeps and what the tree looks like.

  1. **Cuts** — `IsCut` says how a list falls into its runs, one behind the other.  There is only
     one such cut (`IsCut.runs_eq`).

  2. **One pass** — a step keeps a cut of what has been read, of which the terms and the open run
     are made (`holds_step`), so the pass ends with the cut of the list (`holds_after`).  Hence the
     list has one, and the pass makes the filter of the list (`ofConditions_eq_result`).

  3. **The nodes** — the only nodes of the tree are a choice for each run of several conditions, and
     one conjunction of all runs if there are several (`group_partOf_iff`).

  4. **The whole** — the leaves are the list, and the nodes are these (`conditions_grouped`).

  Where one would slip: an OR that opens the list joins nothing before it, so the registers have to
  start with no run at all, and a list never has a run open that is empty but at its beginning.
-/
import DocStore.Proofs.Filter.Leaves

namespace DocStore

/-! ## Cuts -/

/-- A flat list falls into parts: they make up the list, none is empty, each goes on with ORs only,
    and each but the first opens with an AND. -/
structure Condition.IsCut (conditions : List Condition) (parts : List (List Condition)) : Prop where
  flatten_eq : parts.flatten = conditions
  nonempty : [] ∉ parts
  goesOn : ∀ part ∈ parts, ∀ c ∈ part.tail, c.connector = .or
  opens : ∀ part ∈ parts.tail, ∀ c ∈ part.head?, c.connector = .and

namespace Condition.IsCut

variable {conditions : List Condition} {parts : List (List Condition)} {run : List Condition}
  {c : Condition}

theorem nil : IsCut [] [] := ⟨rfl, List.not_mem_nil, by simp, by simp⟩

theorem singleton (c : Condition) : IsCut [c] [[c]] := ⟨rfl, by simp, by simp, by simp⟩

/-- A condition joined by AND is a part of its own, so far. -/
theorem opened (h : IsCut conditions parts) (hc : c.connector = .and) :
    IsCut (conditions ++ [c]) (parts ++ [[c]]) where
  flatten_eq := by rw [List.flatten_append, h.flatten_eq]; rfl
  nonempty := by simpa using h.nonempty
  goesOn := by
    intro part hpart
    rcases List.mem_append.1 hpart with hpart | hpart
    · exact h.goesOn part hpart
    · obtain rfl := List.mem_singleton.1 hpart
      simp
  opens := by
    cases parts with
    | nil => simp
    | cons first rest =>
      intro part hpart
      rcases List.mem_append.1 hpart with hpart | hpart
      · exact h.opens part hpart
      · obtain rfl := List.mem_singleton.1 hpart
        simpa using hc

/-- A condition joined by OR belongs to the last part. -/
theorem extended (h : IsCut conditions (parts ++ [run])) (hc : c.connector = .or) :
    IsCut (conditions ++ [c]) (parts ++ [run ++ [c]]) where
  flatten_eq := by rw [← h.flatten_eq]; simp
  nonempty := by
    have hparts := h.nonempty
    simp only [List.mem_append, not_or] at hparts
    simpa using hparts.1
  goesOn := by
    intro part hpart
    rcases List.mem_append.1 hpart with hpart | hpart
    · exact h.goesOn part (List.mem_append_left _ hpart)
    · obtain rfl := List.mem_singleton.1 hpart
      have hrun := h.goesOn run (List.mem_append_right _ (List.mem_singleton.2 rfl))
      cases run with
      | nil => simp
      | cons first others => simpa [or_imp, forall_and] using ⟨hrun, hc⟩
  opens := by
    have hne : run ≠ [] := fun hrun => h.nonempty (by simp [hrun])
    cases parts with
    | nil => simp
    | cons first rest =>
      have hopens := h.opens
      intro part hpart
      rcases List.mem_append.1 hpart with hpart | hpart
      · exact hopens part (List.mem_append_left _ hpart)
      · obtain rfl := List.mem_singleton.1 hpart
        have hrun := hopens run (List.mem_append_right _ (List.mem_singleton.2 rfl))
        rwa [List.head?_append_of_ne_nil _ hne]

/-- The parts of a list are its runs: between two parts it is cut, and within a part it is not. -/
theorem runs_eq (h : IsCut conditions parts) : Filter.runs conditions = parts := by
  induction parts generalizing conditions with
  | nil =>
    rw [← h.flatten_eq]
    rfl
  | cons part rest ih =>
    obtain ⟨hflatten, hnonempty, hgoesOn, hopens⟩ := h
    rw [List.mem_cons, not_or] at hnonempty
    obtain ⟨hpart, hrest⟩ := List.forall_mem_cons.1 hgoesOn
    have hsplit : ∀ c ∈ rest.flatten.head?, c.connector = .and := by
      cases rest with
      | nil => simp
      | cons next later =>
        have hne : next ≠ [] := fun hnext => hnonempty.2 (by simp [hnext])
        rw [List.flatten_cons, List.head?_append_of_ne_nil _ hne]
        exact hopens next List.mem_cons_self
    obtain ⟨first, others, rfl⟩ := List.exists_cons_of_ne_nil (Ne.symm hnonempty.1)
    have hsingle : Filter.runs (first :: others) = [first :: others] := Filter.runs_single hpart
    rw [← hflatten, List.flatten_cons, Filter.runs_append (.inr hsplit), hsingle,
      ih ⟨rfl, hnonempty.2, hrest, fun p hp => hopens p (List.mem_of_mem_tail hp)⟩]
    rfl

end Condition.IsCut

namespace Filter

open Condition (IsCut)

/-! ## One pass -/

/-- The registers of a pass over a flat list: the terms of the runs that are over, and the
    conditions of the run that is open. -/
structure Registers where
  terms : List Filter
  buffer : List Condition
  deriving Repr, Inhabited

namespace Registers

/-- Before the list. -/
def empty : Registers := ⟨[], []⟩

/-- Closes the open run, if there is one. -/
def flush (r : Registers) : Registers :=
  if r.buffer.isEmpty then r else ⟨r.terms ++ [ofRun r.buffer], []⟩

/-- Takes a condition: into the open run if it is joined by OR, and otherwise into one of its
    own. -/
def step (r : Registers) (c : Condition) : Registers :=
  if c.connector = .or then ⟨r.terms, r.buffer ++ [c]⟩ else ⟨r.flush.terms, [c]⟩

/-- The registers behind a list. -/
def after (conditions : List Condition) : Registers := conditions.foldl step empty

/-- The filter at the end: nothing, the only term, or all terms joined. -/
def result (r : Registers) : Filter :=
  match r.flush.terms with
  | [] => .anything
  | [single] => single
  | terms => .group .and terms

/-- What the open run adds to the runs that are over. -/
def pending : List Condition → List (List Condition)
  | [] => []
  | run => [run]

/-- What the registers hold when a list has been read: the terms are those of the runs that are
    over, and with the open run these are the whole list.  No run is open only before the first. -/
structure Holds (r : Registers) (closed : List (List Condition))
    (read : List Condition) : Prop where
  terms_eq : r.terms = closed.map ofRun
  cut : IsCut read (closed ++ pending r.buffer)
  none_open : r.buffer = [] → closed = []

variable {r : Registers} {closed : List (List Condition)} {read : List Condition}

/-- Closing the open run makes the term of it. -/
theorem Holds.terms_flush (h : r.Holds closed read) :
    r.flush.terms = (closed ++ pending r.buffer).map ofRun := by
  obtain ⟨terms, buffer⟩ := r
  cases buffer with
  | nil => simpa [flush, pending] using h.terms_eq
  | cons c rest => simpa [flush, pending] using h.terms_eq

/-- **A step keeps the cut**: a condition joined by OR lengthens the open run, and any other leaves
    it behind as one more that is over. -/
theorem holds_step (h : r.Holds closed read) (c : Condition) :
    ∃ closed', (r.step c).Holds closed' (read ++ [c]) := by
  by_cases hc : c.connector = .or
  · refine ⟨closed, ?_⟩
    rw [step, if_pos hc]
    refine ⟨h.terms_eq, ?_, fun hnone =>
      absurd hnone (List.append_ne_nil_of_right_ne_nil _ (by simp))⟩
    have hcut := h.cut
    obtain ⟨terms, buffer⟩ := r
    cases buffer with
    | nil =>
      -- Nothing is open, so nothing has been read.
      obtain rfl := h.none_open rfl
      obtain rfl : read = [] := hcut.flatten_eq.symm
      exact .singleton c
    | cons first others => exact hcut.extended hc
  · refine ⟨closed ++ pending r.buffer, ?_⟩
    rw [step, if_neg hc]
    exact ⟨h.terms_flush, h.cut.opened (connector_and_iff.2 hc),
      fun hnone => absurd hnone (List.cons_ne_nil _ _)⟩

/-- **The pass keeps the cut**, whatever has been read. -/
theorem holds_after (conditions : List Condition) :
    ∃ closed, (after conditions).Holds closed conditions := by
  induction conditions using List.reverseRecOn with
  | nil => exact ⟨[], rfl, .nil, fun _ => rfl⟩
  | append_singleton read c ih =>
    obtain ⟨closed, h⟩ := ih
    rw [after, List.foldl_append]
    exact holds_step h c

end Registers

/-- Every flat list can be cut into its runs. -/
theorem isCut_runs (conditions : List Condition) : IsCut conditions (runs conditions) := by
  obtain ⟨closed, h⟩ := Registers.holds_after conditions
  rw [h.cut.runs_eq]
  exact h.cut

/-- **One pass makes the filter of the list.** -/
theorem ofConditions_eq_result (conditions : List Condition) :
    ofConditions conditions = (Registers.after conditions).result := by
  obtain ⟨closed, h⟩ := Registers.holds_after conditions
  have hterms : (runs conditions).map ofRun = (Registers.after conditions).flush.terms := by
    rw [h.terms_flush, h.cut.runs_eq]
  rw [ofConditions, hterms]
  rfl

/-! ## The nodes -/

/-- One filter is part of another: it is that filter, or part of a member of it. -/
inductive PartOf (f : Filter) : Filter → Prop
  | whole : PartOf f f
  | member {kind : Connector} {members : List Filter} {g : Filter} (hmem : g ∈ members)
      (h : PartOf f g) : PartOf f (.group kind members)

theorem partOf_test {f : Filter} {c : Condition} : PartOf f (.test c) ↔ f = .test c :=
  ⟨fun h => by cases h; rfl, fun h => h ▸ .whole⟩

theorem partOf_anything {f : Filter} : PartOf f .anything ↔ f = .anything :=
  ⟨fun h => by cases h; rfl, fun h => h ▸ .whole⟩

theorem partOf_group {f : Filter} {kind : Connector} {members : List Filter} :
    PartOf f (.group kind members) ↔ f = .group kind members ∨ ∃ g ∈ members, PartOf f g := by
  constructor
  · intro h
    cases h with
    | whole => exact .inl rfl
    | member hmem h => exact .inr ⟨_, hmem, h⟩
  · rintro (rfl | ⟨g, hmem, h⟩)
    · exact .whole
    · exact .member hmem h

/-- The term of a run: the condition itself if there is only one, and a choice of several. -/
inductive TermOf : List Condition → Filter → Prop
  | bare (c : Condition) : TermOf [c] (.test c)
  | choice {run : List Condition} (hlength : 2 ≤ run.length) :
      TermOf run (.group .or (run.map .test))

theorem termOf_ofRun {run : List Condition} (hne : run ≠ []) : TermOf run (ofRun run) := by
  match run, hne with
  | [c], _ => exact .bare c
  | _ :: _ :: _, _ => exact .choice (by simp)

theorem group_partOf_ofRun {run : List Condition} (hne : run ≠ []) {kind : Connector}
    {members : List Filter} :
    PartOf (.group kind members) (ofRun run) ↔
      kind = .or ∧ 2 ≤ run.length ∧ members = run.map .test := by
  match run, hne with
  | [c], _ => simp [ofRun, partOf_test]
  | first :: second :: others, _ =>
    have hrun : ofRun (first :: second :: others) =
        .group .or ((first :: second :: others).map .test) := rfl
    simp [hrun, partOf_group, partOf_test]

/-- The filter that several terms make. -/
theorem ofConditions_cases (conditions : List Condition) :
    (runs conditions = [] ∧ ofConditions conditions = .anything) ∨
      (∃ run, runs conditions = [run] ∧ ofConditions conditions = ofRun run) ∨
      (2 ≤ (runs conditions).length ∧
        ofConditions conditions = .group .and ((runs conditions).map ofRun)) := by
  rw [ofConditions]
  rcases runs conditions with _ | ⟨run, _ | ⟨next, rest⟩⟩
  · exact .inl ⟨rfl, rfl⟩
  · exact .inr (.inl ⟨run, rfl, rfl⟩)
  · exact .inr (.inr ⟨by simp, rfl⟩)

/-- The nodes of the tree are one conjunction of all runs, if there are several, and a choice for
    each run of several conditions. -/
theorem group_partOf_iff (conditions : List Condition) (kind : Connector) (members : List Filter) :
    PartOf (.group kind members) (ofConditions conditions) ↔
      (kind = .and ∧ 2 ≤ (runs conditions).length ∧ members = (runs conditions).map ofRun) ∨
      (kind = .or ∧ ∃ run ∈ runs conditions, 2 ≤ run.length ∧ members = run.map .test) := by
  have hne : ∀ run ∈ runs conditions, run ≠ [] := fun run hrun hnil =>
    (isCut_runs conditions).nonempty (hnil ▸ hrun)
  rcases ofConditions_cases conditions with ⟨hruns, htree⟩ | ⟨run, hruns, htree⟩ | ⟨hlength, htree⟩
  · simp [htree, hruns, partOf_anything]
  · rw [htree, group_partOf_ofRun (hne run (by simp [hruns])), hruns]
    simp
  · rw [htree, partOf_group]
    refine or_congr (by simp [hlength]) ?_
    rw [← exists_and_left]
    constructor
    · rintro ⟨g, hg, hpart⟩
      obtain ⟨run, hrun, rfl⟩ := List.mem_map.1 hg
      obtain ⟨hkind, hmembers⟩ := (group_partOf_ofRun (hne run hrun)).1 hpart
      exact ⟨run, hkind, hrun, hmembers⟩
    · rintro ⟨run, hkind, hrun, hmembers⟩
      exact ⟨ofRun run, List.mem_map_of_mem hrun,
        (group_partOf_ofRun (hne run hrun)).2 ⟨hkind, hmembers⟩⟩

/-! ## The whole -/

/-- Only the empty list makes the filter that accepts everything. -/
theorem ofConditions_eq_anything_iff (conditions : List Condition) :
    ofConditions conditions = .anything ↔ conditions = [] := by
  constructor
  · intro h
    rw [← leaves_ofConditions conditions, h]
    rfl
  · rintro rfl
    rfl

/-- Only a list of one condition makes a bare condition. -/
theorem exists_ofConditions_eq_test_iff (conditions : List Condition) :
    (∃ c, ofConditions conditions = .test c) ↔ conditions.length = 1 := by
  constructor
  · rintro ⟨c, h⟩
    rw [← leaves_ofConditions conditions, h]
    rfl
  · intro hlength
    obtain ⟨c, rfl⟩ := List.length_eq_one_iff.1 hlength
    exact ⟨c, rfl⟩

/-- **How a flat list is grouped.**  The leaves of the tree, from left to right, are the list:
    nothing is lost, doubled or put elsewhere.  The tree accepts everything just for the empty list,
    and is a bare condition just for a list of one.  The list falls into its maximal runs, and then:
    the choices in the tree are those of the runs of several conditions, each with its run for
    members; there is a conjunction just if there are several runs; and its members are the runs in
    their order, a run of one condition standing there as that condition. -/
theorem conditions_grouped (conditions : List Condition) :
    (ofConditions conditions).leaves = conditions ∧
      (ofConditions conditions = .anything ↔ conditions = []) ∧
      ((∃ c, ofConditions conditions = .test c) ↔ conditions.length = 1) ∧
      ∃ parts, IsCut conditions parts ∧ (∀ run, run ∈ parts ↔ Condition.IsRun conditions run) ∧
        (∀ members, PartOf (.group .or members) (ofConditions conditions) ↔
          ∃ run ∈ parts, 2 ≤ run.length ∧ members = run.map .test) ∧
        ((∃ members, PartOf (.group .and members) (ofConditions conditions)) ↔ 2 ≤ parts.length) ∧
        ∀ members, PartOf (.group .and members) (ofConditions conditions) →
          List.Forall₂ TermOf parts members := by
  refine ⟨leaves_ofConditions conditions, ofConditions_eq_anything_iff conditions,
    exists_ofConditions_eq_test_iff conditions, runs conditions, isCut_runs conditions,
    fun run => mem_runs, fun members => ?_, ?_, fun members hpart => ?_⟩
  · simp [group_partOf_iff]
  · simp [group_partOf_iff]
  · obtain ⟨-, -, rfl⟩ : Connector.and = .and ∧ _ := by
      simpa [group_partOf_iff] using hpart
    rw [List.forall₂_map_right_iff, List.forall₂_same]
    exact fun run hrun => termOf_ofRun fun hnil => (isCut_runs conditions).nonempty (hnil ▸ hrun)

end Filter

end DocStore
