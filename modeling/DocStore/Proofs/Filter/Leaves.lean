/-
  Which conditions a filter keeps when it is read.

  A filter is written as conditions, groups of filters, and lists of these (`Filter.Written`).  What
  is written holds some conditions, from left to right (`occurring`), and what is read has some
  leaves.  One would want the leaves to be these conditions, and mostly they are.

  Where the obvious statement fails: a *group of a group* is read as it stands, but an entry of a
  *list* is taken for a condition or for nothing.  An entry that names no field is left out, and a
  group names none, so a list that holds a group loses it, with all that is in it:

      [{field: b}, {op: and, conditions: [{field: a}]}]   is read as   {field: b}
      [{op: or, conditions: [{field: a}]}]                is read as   everything is accepted

  What holds (`Filter.leaves_occur`): reading invents nothing, repeats nothing and changes no order;
  and it keeps every condition exactly when no list has an entry that is a group with a condition in
  it (`keepsAll`).  The induction is over the ways to write a filter, and what it carries is
  `Accounted`.
-/
import DocStore.Proofs.Filter.Runs
import DocStore.Proofs.Store.Query

namespace DocStore.Filter

/-! ## What is written -/

/-- A filter written out: a condition, which is an object that names a field; a group, which is an
    object that names a connector and has a row of filters under `conditions`; or a row of filters.
    What is both a condition and a group is neither here: it would be read as the one in a list and
    as the other everywhere else. -/
inductive Written : Value → Prop
  | condition (c : Condition) : Written c.toValue
  | mapping {fields : Object} (hfield : (Condition.fieldOf fields).truthy = true)
      (hkind : groupKind? fields = none ∨ Object.get? fields "conditions" = none) :
      Written (.object fields)
  | group {fields : Object} {kind : Connector} {row : Value} {items : List Value}
      (hkind : groupKind? fields = some kind)
      (hfield : (Condition.fieldOf fields).truthy = false)
      (hconditions : Object.get? fields "conditions" = some row)
      (hrow : row = .list items ∨ row = .tuple items) (hitems : ∀ v ∈ items, Written v) :
      Written (.object fields)
  | row {v : Value} {items : List Value} (hrow : v = .list items ∨ v = .tuple items)
      (hitems : ∀ v ∈ items, Written v) : Written v

mutual

/-- The conditions that occur in a filter as it is written, from left to right. -/
def occurring : Value → List Value
  | .object fields =>
    match groupKind? fields, occurringIn fields with
    | some _, some inside => inside
    | _, _ => [.object fields]
  | .list items => occurringOf items
  | .tuple items => occurringOf items
  | .condition f v o c => [.condition f v o c]
  | _ => []

/-- The conditions that occur in what an object gives under `conditions`. -/
def occurringIn : List (String × Value) → Option (List Value)
  | [] => none
  | (key, v) :: rest => if key = "conditions" then some (occurring v) else occurringIn rest

/-- The conditions that occur in a row of filters. -/
def occurringOf : List Value → List Value
  | [] => []
  | v :: rest => occurring v ++ occurringOf rest

end

/-- Whether an entry of a list is a condition, or has none to lose. -/
def isKept : Value → Bool
  | .object fields => (Condition.fieldOf fields).truthy || (occurring (.object fields)).isEmpty
  | _ => true

mutual

/-- Whether no list of a filter has an entry with conditions that names no field itself. -/
def keepsAll : Value → Bool
  | .object fields =>
    match groupKind? fields, membersKeepAll fields with
    | some _, some inside => inside
    | _, _ => true
  | .list items => items.all isKept
  | .tuple items => items.all isKept
  | _ => true

/-- Whether this is so for the members that an object gives under `conditions`. -/
def membersKeepAll : List (String × Value) → Option Bool
  | [] => none
  | (key, v) :: rest => if key = "conditions" then some (rowKeepsAll v) else membersKeepAll rest

/-- Whether this is so for the members of a group.  They are a row, but of filters, not of
    entries. -/
def rowKeepsAll : Value → Bool
  | .list items => keepAll items
  | .tuple items => keepAll items
  | _ => true

/-- Whether this is so for every filter of a row. -/
def keepAll : List Value → Bool
  | [] => true
  | v :: rest => keepsAll v && keepAll rest

end

/-- What stands under `conditions` is looked up there. -/
theorem membersIn_eq (fields : Object) :
    membersIn fields = (Object.get? fields "conditions").map membersOf := by
  induction fields with
  | nil => rfl
  | cons field rest ih =>
    obtain ⟨key, v⟩ := field
    rw [membersIn, Object.get?, ih]
    split <;> rfl

theorem occurringIn_eq (fields : Object) :
    occurringIn fields = (Object.get? fields "conditions").map occurring := by
  induction fields with
  | nil => rfl
  | cons field rest ih =>
    obtain ⟨key, v⟩ := field
    rw [occurringIn, Object.get?, ih]
    split <;> rfl

theorem membersKeepAll_eq (fields : Object) :
    membersKeepAll fields = (Object.get? fields "conditions").map rowKeepsAll := by
  induction fields with
  | nil => rfl
  | cons field rest ih =>
    obtain ⟨key, v⟩ := field
    rw [membersKeepAll, Object.get?, ih]
    split <;> rfl

/-! ## Leaves of what is put together -/

/-- The leaves of a row are those of its filters one after the other. -/
theorem leavesOf_eq_flatMap (fs : List Filter) : leavesOf fs = fs.flatMap leaves := by
  induction fs with
  | nil => rfl
  | cons f rest ih => rw [leavesOf, List.flatMap_cons, ih]

/-- The leaves of a run are its conditions. -/
theorem leaves_ofRun (run : List Condition) : (ofRun run).leaves = run := by
  have htests : leavesOf (run.map .test) = run := by
    rw [leavesOf_eq_flatMap, List.flatMap_map]
    exact List.flatMap_singleton' run
  unfold ofRun
  split
  · rfl
  · exact htests

/-- The leaves of the filter of a flat list are its conditions: grouping changes no order. -/
theorem leaves_ofConditions (conditions : List Condition) :
    (ofConditions conditions).leaves = conditions := by
  have hruns : leavesOf ((runs conditions).map ofRun) = conditions := by
    rw [leavesOf_eq_flatMap, List.flatMap_map]
    simp only [leaves_ofRun]
    rw [List.flatMap_id']
    exact List.flatten_splitBy _ _
  rw [ofConditions]
  split
  · rename_i hnone
    rw [← hruns, hnone]
    rfl
  · rename_i single hone
    rw [← hruns, hone]
    exact (List.append_nil _).symm
  · exact hruns

/-- The leaves of the filter of a group are those of its members. -/
theorem leaves_ofMembers (kind : Connector) (members : List Filter) :
    (ofMembers kind members).leaves = leavesOf members := by
  have hsome : leavesOf (members.filter fun f => !f.isAnything) = leavesOf members := by
    induction members with
    | nil => rfl
    | cons f rest ih =>
      cases f with
      | anything => exact ih
      | test c => exact congrArg (leaves (.test c) ++ ·) ih
      | group k ms => exact congrArg (leaves (.group k ms) ++ ·) ih
      | stray v => exact congrArg (leaves (.stray v) ++ ·) ih
  rw [ofMembers, ← hsome]
  split
  · rename_i hnone
    rw [hnone]
    rfl
  · rename_i single hone
    rw [hone]
    exact (List.append_nil _).symm
  · rfl

/-! ## Accounting -/

/-- What reading makes of the conditions written: some of them, in their order, and all of them just
    when `all` says so. -/
structure Accounted (written : List Value) (all : Bool) (read : List Condition) : Prop where
  inOrder : List.SublistForall₂ (fun c v => Condition.Stands v c) read written
  whole : all = true → List.Forall₂ Condition.Stands written read
  short : all = false → read.length < written.length

namespace Accounted

theorem nil : Accounted [] true [] := ⟨.nil, fun _ => .nil, fun h => Bool.noConfusion h⟩

/-- A condition that is read. -/
theorem single {v : Value} {c : Condition} (h : Condition.Stands v c) : Accounted [v] true [c] :=
  ⟨.cons h .nil, fun _ => .cons h .nil, fun h => Bool.noConfusion h⟩

/-- What is left out is nothing, or it is missed. -/
theorem leftOut (written : List Value) : Accounted written written.isEmpty [] where
  inOrder := .nil
  whole := by
    intro hnone
    rw [List.isEmpty_iff.1 hnone]
    exact .nil
  short := by
    intro hsome
    cases written with
    | nil => exact Bool.noConfusion hsome
    | cons v rest => exact Nat.succ_pos _

/-- At most as many conditions are read as are written. -/
theorem length_le {written : List Value} {all : Bool} {read : List Condition}
    (h : Accounted written all read) : read.length ≤ written.length := by
  obtain ⟨kept, hstand, hkept⟩ := List.sublistForall₂_iff.1 h.inOrder
  rw [hstand.length_eq]
  exact hkept.length_le

/-- What is written in two parts is read in two parts. -/
theorem append {first second : List Value} {a b : Bool} {early late : List Condition}
    (hfirst : Accounted first a early) (hsecond : Accounted second b late) :
    Accounted (first ++ second) (a && b) (early ++ late) where
  inOrder := by
    obtain ⟨kept, hstand, hkept⟩ := List.sublistForall₂_iff.1 hfirst.inOrder
    obtain ⟨kept', hstand', hkept'⟩ := List.sublistForall₂_iff.1 hsecond.inOrder
    exact List.sublistForall₂_iff.2
      ⟨kept ++ kept', List.rel_append hstand hstand', hkept.append hkept'⟩
  whole := by
    intro hall
    obtain ⟨ha, hb⟩ := Bool.and_eq_true_iff.1 hall
    exact List.rel_append (hfirst.whole ha) (hsecond.whole hb)
  short := by
    intro hall
    have hle := hfirst.length_le
    have hle' := hsecond.length_le
    rw [List.length_append, List.length_append]
    rcases Bool.and_eq_false_iff.1 hall with ha | hb
    · have hlt := hfirst.short ha
      omega
    · have hlt := hsecond.short hb
      omega

/-- All are read exactly when the account says so. -/
theorem whole_iff {written : List Value} {all : Bool} {read : List Condition}
    (h : Accounted written all read) :
    List.Forall₂ Condition.Stands written read ↔ all = true := by
  constructor
  · intro hstand
    cases all with
    | true => rfl
    | false => exact absurd hstand.length_eq (Nat.ne_of_gt (h.short rfl))
  · exact h.whole

end Accounted

/-! ## Reading -/

/-- An object that is read as a condition stands for it. -/
theorem stands_ofFields {fields : Object} {c : Condition} (h : Condition.ofFields fields = .ok c) :
    Condition.Stands (.object fields) c := by
  rw [Condition.ofFields] at h
  by_cases hfield : (Condition.fieldOf fields).truthy = true
  · rw [if_pos hfield] at h
    obtain ⟨connector, hconnector, hc⟩ := exists_of_bind_ok h
    obtain rfl := Except.ok.inj hc
    exact .mapping hfield hconnector
  · rw [if_neg hfield] at h
    cases h

/-- An object that is no group is one condition wherever it stands. -/
theorem of_no_group (fields : Object)
    (hkind : groupKind? fields = none ∨ Object.get? fields "conditions" = none) :
    occurring (.object fields) = [.object fields] ∧ keepsAll (.object fields) = true ∧
      ofNode (.object fields) = (do return .test (← Condition.ofFields fields)) := by
  rw [occurring, keepsAll, ofNode, occurringIn_eq, membersKeepAll_eq, membersIn_eq]
  rcases hkind with hkind | hnone
  · rw [hkind]
    exact ⟨rfl, rfl, rfl⟩
  · rw [hnone]
    cases groupKind? fields with
    | none => exact ⟨rfl, rfl, rfl⟩
    | some kind => exact ⟨rfl, rfl, rfl⟩

/-- A group is what its members are, one after the other. -/
theorem of_group {fields : Object} {kind : Connector} {row : Value} {items : List Value}
    (hkind : groupKind? fields = some kind)
    (hconditions : Object.get? fields "conditions" = some row)
    (hrow : row = .list items ∨ row = .tuple items) :
    occurring (.object fields) = occurringOf items ∧ keepsAll (.object fields) = keepAll items ∧
      ofNode (.object fields) = (do return ofMembers kind (← ofNodes items)) := by
  rw [occurring, keepsAll, ofNode, occurringIn_eq, membersKeepAll_eq, membersIn_eq,
    hkind, hconditions]
  rcases hrow with rfl | rfl <;> exact ⟨rfl, rfl, rfl⟩

/-- A list keeps the entries that are conditions, in their order, and loses what occurs in those
    that name no field. -/
theorem accounted_entries {items : List Value} (hitems : ∀ v ∈ items, Written v)
    {conditions : List Condition} (h : Condition.ofItems items = .ok conditions) :
    Accounted (occurringOf items) (items.all isKept) conditions := by
  induction items generalizing conditions with
  | nil =>
    obtain rfl := Except.ok.inj h
    exact .nil
  | cons v rest ih =>
    obtain ⟨hv, hrest⟩ := List.forall_mem_cons.1 hitems
    rw [occurringOf, List.all_cons]
    cases hv with
    | condition c =>
      obtain ⟨others, hothers, hconditions⟩ := exists_of_bind_ok h
      obtain rfl := Except.ok.inj hconditions
      exact (Accounted.single (.ready c)).append (ih hrest hothers)
    | @mapping fields hfield hkind =>
      rw [Condition.ofItems, if_pos hfield] at h
      obtain ⟨c, hc, h⟩ := exists_of_bind_ok h
      obtain ⟨others, hothers, hconditions⟩ := exists_of_bind_ok h
      obtain rfl := Except.ok.inj hconditions
      rw [(of_no_group _ hkind).1, isKept, hfield, Bool.true_or]
      exact (Accounted.single (stands_ofFields hc)).append (ih hrest hothers)
    | @group fields kind row members hkind hfield hconditions hrow hmembers =>
      -- The entry is passed over, with whatever occurs in it.
      rw [Condition.ofItems, if_neg (by rw [hfield]; exact Bool.false_ne_true)] at h
      rw [isKept, hfield, Bool.false_or]
      exact (Accounted.leftOut _).append (ih hrest h)
    | row hrow _ => rcases hrow with rfl | rfl <;> cases h

/-- The members of a group are read one after the other. -/
theorem accounted_members {items : List Value} {members : List Filter}
    (hitems : ∀ v ∈ items, ∀ f, ofNode v = .ok f → Accounted (occurring v) (keepsAll v) f.leaves)
    (h : ofNodes items = .ok members) :
    Accounted (occurringOf items) (keepAll items) (leavesOf members) := by
  induction items generalizing members with
  | nil =>
    obtain rfl := Except.ok.inj h
    exact .nil
  | cons v rest ih =>
    obtain ⟨hv, hrest⟩ := List.forall_mem_cons.1 hitems
    obtain ⟨f, hf, h⟩ := exists_of_bind_ok h
    obtain ⟨others, hothers, hmembers⟩ := exists_of_bind_ok h
    obtain rfl := Except.ok.inj hmembers
    exact (hv f hf).append (ih hrest hothers)

/-- Every way to write a filter accounts for its conditions. -/
theorem Written.accounted {v : Value} (h : Written v) :
    ∀ f, ofNode v = .ok f → Accounted (occurring v) (keepsAll v) f.leaves := by
  induction h with
  | condition c =>
    intro f hf
    obtain rfl := Except.ok.inj hf
    exact .single (.ready c)
  | mapping hfield hkind =>
    intro f hf
    obtain ⟨hoccurring, hkeeps, hread⟩ := of_no_group _ hkind
    rw [hread] at hf
    obtain ⟨c, hc, hf⟩ := exists_of_bind_ok hf
    obtain rfl := Except.ok.inj hf
    rw [hoccurring, hkeeps]
    exact .single (stands_ofFields hc)
  | @group fields kind row items hkind hfield hconditions hrow hitems ih =>
    intro f hf
    obtain ⟨hoccurring, hkeeps, hread⟩ := of_group hkind hconditions hrow
    rw [hread] at hf
    obtain ⟨members, hmembers, hf⟩ := exists_of_bind_ok hf
    obtain rfl := Except.ok.inj hf
    rw [hoccurring, hkeeps, leaves_ofMembers]
    exact accounted_members ih hmembers
  | row hrow hitems _ =>
    intro f hf
    rcases hrow with rfl | rfl
    all_goals
      obtain ⟨conditions, hconditions, hf⟩ := exists_of_bind_ok hf
      obtain rfl := Except.ok.inj hf
      rw [leaves_ofConditions]
      exact accounted_entries hitems hconditions

/-- What is written is no null, text or number, so it is read as a filter. -/
theorem Written.ofValue_eq {v : Value} (h : Written v) : ofValue v = ofNode v := by
  cases h with
  | condition c => rfl
  | mapping => rfl
  | group => rfl
  | row hrow _ => rcases hrow with rfl | rfl <;> rfl

/-- **Which conditions are kept.**  When a filter that is written out can be read, its leaves are
    conditions that occur in it, in their order and none twice; they are all of them exactly when no
    list has an entry that is a group with a condition in it; and then a filter in which a condition
    occurs is not read as the one that accepts everything. -/
theorem leaves_occur {v : Value} {f : Filter} (hwritten : Written v) (hread : ofValue v = .ok f) :
    List.SublistForall₂ (fun c entry => Condition.Stands entry c) f.leaves (occurring v) ∧
      (List.Forall₂ Condition.Stands (occurring v) f.leaves ↔ keepsAll v = true) ∧
      (keepsAll v = true → occurring v ≠ [] → f ≠ .anything) := by
  rw [hwritten.ofValue_eq] at hread
  have haccount := hwritten.accounted f hread
  refine ⟨haccount.inOrder, haccount.whole_iff, ?_⟩
  rintro hkeeps hsome rfl
  have hstand : List.Forall₂ Condition.Stands (occurring v) [] := haccount.whole hkeeps
  exact hsome (List.forall₂_nil_right_iff.1 hstand)

/-- The condition that a field equals a value, written out. -/
def equation (field : String) (v : Value) : Value :=
  .object [("field", .text field), ("value", v)]

/-- A group, written out. -/
def joined (op : String) (members : List Value) : Value :=
  .object [("op", .text op), ("conditions", .list members)]

/-- An equation is a condition that occurs in itself, and is read as one. -/
theorem equation_facts (field : String) (hfield : field ≠ "") (v : Value) :
    Written (equation field v) ∧ occurring (equation field v) = [equation field v] ∧
      keepsAll (equation field v) = true ∧ isKept (equation field v) = true ∧
      ofNode (equation field v) = .ok (.test ⟨.text field, v, .known .eq, .and⟩) := by
  have hnamed : (Condition.fieldOf [("field", .text field), ("value", v)]).truthy = true := by
    simpa [Condition.fieldOf, Condition.either, Object.get?, Value.truthy] using hfield
  obtain ⟨hoccurring, hkeeps, hread⟩ :=
    of_no_group [("field", .text field), ("value", v)] (.inr rfl)
  refine ⟨.mapping hnamed (.inr rfl), hoccurring, hkeeps, ?_, ?_⟩
  · rw [equation, isKept, hnamed, Bool.true_or]
  · rw [equation, hread, Condition.ofFields, if_pos hnamed]
    rfl

/-- A group of what is written is written, and is what its members are. -/
theorem joined_facts (op : String) {kind : Connector} (hop : Connector.ofText? op = some kind)
    {members : List Value} (hmembers : ∀ v ∈ members, Written v) :
    Written (joined op members) ∧ occurring (joined op members) = occurringOf members ∧
      keepsAll (joined op members) = keepAll members ∧
      ofNode (joined op members) = (do return ofMembers kind (← ofNodes members)) := by
  have hkind : groupKind? [("op", .text op), ("conditions", .list members)] = some kind := hop
  exact ⟨.group hkind rfl rfl (.inl rfl) hmembers, of_group hkind rfl (.inl rfl)⟩

/-- A list in a group: the conditions of both are read, in their order. -/
theorem leaves_occur_nested :
    ∃ f, ofValue (joined "or"
        [equation "a" (.int 1), .list [equation "b" (.int 2), equation "a" (.int 3)]]) = .ok f ∧
      List.Forall₂ Condition.Stands
        [equation "a" (.int 1), equation "b" (.int 2), equation "a" (.int 3)] f.leaves ∧
      f ≠ .anything := by
  obtain ⟨ha, oa, ka, -, ra⟩ := equation_facts "a" (by decide) (.int 1)
  obtain ⟨hb, ob, -, kb, -⟩ := equation_facts "b" (by decide) (.int 2)
  obtain ⟨ha', oa', -, ka', -⟩ := equation_facts "a" (by decide) (.int 3)
  have hrow : Written (.list [equation "b" (.int 2), equation "a" (.int 3)]) :=
    .row (.inl rfl) (by simp [hb, ha'])
  have hor : Connector.ofText? "or" = some .or := by decide +kernel
  have hmembers :
      ∀ v ∈ [equation "a" (.int 1), .list [equation "b" (.int 2), equation "a" (.int 3)]],
      Written v := by simp [ha, hrow]
  obtain ⟨hwhole, hoccurring, hkeeps, hnode⟩ := joined_facts "or" hor hmembers
  -- The list is two conditions joined by AND, which stay together in the alternative.
  have hread : ofValue (joined "or"
      [equation "a" (.int 1), .list [equation "b" (.int 2), equation "a" (.int 3)]]) =
      .ok (.group .or [.test ⟨.text "a", .int 1, .known .eq, .and⟩,
        .group .and [.test ⟨.text "b", .int 2, .known .eq, .and⟩,
          .test ⟨.text "a", .int 3, .known .eq, .and⟩]]) := by
    rw [hwhole.ofValue_eq, hnode, ofNodes, ra]
    rfl
  have orow : occurring (.list [equation "b" (.int 2), equation "a" (.int 3)]) =
      occurringOf [equation "b" (.int 2), equation "a" (.int 3)] := rfl
  have krow : keepsAll (.list [equation "b" (.int 2), equation "a" (.int 3)]) =
      [equation "b" (.int 2), equation "a" (.int 3)].all isKept := rfl
  simp only [occurringOf, oa, orow, ob, oa', List.append_nil, List.singleton_append] at hoccurring
  simp only [keepAll, ka, krow, List.all_cons, List.all_nil, kb, ka', Bool.and_true] at hkeeps
  obtain ⟨-, hall, hsome⟩ := leaves_occur hwhole hread
  rw [hoccurring] at hall hsome
  exact ⟨_, hread, hall.2 hkeeps, hsome hkeeps (List.cons_ne_nil _ _)⟩

/-- The obvious statement fails: a group that is an entry of a list is lost.  Beside a condition
    that leaves the condition; alone it leaves the filter that accepts everything. -/
theorem not_all_conditions_kept :
    (Written (.list [equation "b" (.int 2), joined "and" [equation "a" (.int 1)]]) ∧
        occurring (.list [equation "b" (.int 2), joined "and" [equation "a" (.int 1)]]) =
          [equation "b" (.int 2), equation "a" (.int 1)] ∧
        ofValue (.list [equation "b" (.int 2), joined "and" [equation "a" (.int 1)]]) =
          .ok (.test ⟨.text "b", .int 2, .known .eq, .and⟩)) ∧
      Written (.list [joined "or" [equation "a" (.int 1)]]) ∧
        occurring (.list [joined "or" [equation "a" (.int 1)]]) = [equation "a" (.int 1)] ∧
        ofValue (.list [joined "or" [equation "a" (.int 1)]]) = .ok .anything := by
  obtain ⟨ha, oa, -⟩ := equation_facts "a" (by decide) (.int 1)
  obtain ⟨hb, ob, -⟩ := equation_facts "b" (by decide) (.int 2)
  have hmember : ∀ v ∈ [equation "a" (.int 1)], Written v := by simpa using ha
  have kand : Connector.ofText? "and" = some .and := by decide +kernel
  have kor : Connector.ofText? "or" = some .or := by decide +kernel
  obtain ⟨hand, oand, -⟩ := joined_facts "and" kand hmember
  obtain ⟨hor, oor, -⟩ := joined_facts "or" kor hmember
  refine ⟨⟨.row (.inl rfl) (by simp [hb, hand]), ?_, rfl⟩,
    .row (.inl rfl) (by simpa using hor), ?_, rfl⟩
  · show occurringOf [_, _] = _
    simp only [occurringOf, ob, oand, oa, List.append_nil, List.singleton_append]
  · show occurringOf [_] = _
    simp only [occurringOf, oor, oa, List.append_nil]

end DocStore.Filter
