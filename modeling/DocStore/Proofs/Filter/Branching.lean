/-
  Filters that branch at every node.

  A caller may write a filter with groups that are empty, groups of one, and lists with nothing in
  them, at any depth.  None of that is to reach the store: there an empty member would select
  everything, and a group of one is a group for nothing.  What is read from conditions, mappings and
  lists has no such node.  A ready-made group is taken as it stands, so there must be none
  (`isLoose`).

  1. **Branching** — every group in a filter has two members or more, and none of them accepts
     everything (`Branches`).  Both ways to make a group keep this: the grouping of a flat list
     (`branches_ofConditions`), and the joining of members, which drops those that accept everything
     and then stands for its only member if just one is left (`branches_ofMembers`).

  2. **Reading** — what is read branches (`branches_ofNode`).  Emptiness may come up from any depth;
     it is absorbed at each level by the joining of the members that are left.

  3. **Selectors** — a selector inside a compiled filter is that of a part of the filter
     (`exists_partOf_of_within`), so a filter that branches has a selector that does
     (`read_branches`).
-/
import DocStore.Proofs.Filter.Grouping
import DocStore.Proofs.Filter.Pruning
import DocStore.Proofs.Filter.Renaming

namespace DocStore

namespace Filter

/-! ## Branching -/

/-- Every group in a filter has several members, and none of them accepts everything. -/
def Branches (f : Filter) : Prop :=
  ∀ kind members, PartOf (.group kind members) f → 2 ≤ members.length ∧ .anything ∉ members

theorem branches_anything : Branches .anything := fun _ _ hpart =>
  absurd (partOf_anything.1 hpart) (by simp)

theorem branches_test (c : Condition) : Branches (.test c) := fun _ _ hpart =>
  absurd (partOf_test.1 hpart) (by simp)

theorem branches_group {kind : Connector} {members : List Filter} (hlength : 2 ≤ members.length)
    (hsome : .anything ∉ members) (hmembers : ∀ f ∈ members, Branches f) :
    Branches (.group kind members) := by
  intro kind' members' hpart
  rcases partOf_group.1 hpart with hself | ⟨f, hf, hpart⟩
  · obtain ⟨rfl, rfl⟩ := Filter.group.inj hself
    exact ⟨hlength, hsome⟩
  · exact hmembers f hf kind' members' hpart

/-- A member of a filter that branches branches. -/
theorem Branches.of_partOf {f g : Filter} (h : Branches g) (hpart : PartOf f g) : Branches f := by
  induction hpart with
  | whole => exact h
  | @member kind members g hmem _ ih =>
    exact ih fun kind' members' hinside => h kind' members' (.member hmem hinside)

/-- The filter of a flat list branches: its choices have several conditions, and its conjunction
    several runs. -/
theorem branches_ofConditions (conditions : List Condition) :
    Branches (ofConditions conditions) := by
  intro kind members hpart
  rcases (group_partOf_iff conditions kind members).1 hpart with
    ⟨-, hlength, rfl⟩ | ⟨-, run, -, hlength, rfl⟩
  · refine ⟨by rwa [List.length_map], fun hmem => ?_⟩
    obtain ⟨run, -, hrun⟩ := List.mem_map.1 hmem
    unfold ofRun at hrun
    split at hrun <;> cases hrun
  · exact ⟨by rwa [List.length_map], by simp⟩

/-- Members that branch are joined to a filter that does. -/
theorem branches_ofMembers (kind : Connector) {members : List Filter}
    (hmembers : ∀ f ∈ members, Branches f) : Branches (ofMembers kind members) := by
  have hkept : ∀ f ∈ kept members, Branches f := fun f hf => hmembers f (mem_kept.1 hf).1
  have hsome : .anything ∉ kept members := fun hmem => by cases (mem_kept.1 hmem).2
  rw [ofMembers, ← kept]
  rcases hjoined : kept members with _ | ⟨single, _ | ⟨next, rest⟩⟩
  · exact branches_anything
  · exact hkept single (by simp [hjoined])
  · rw [hjoined] at hkept hsome
    exact branches_group (by simp) hsome hkept

/-! ## Reading -/

mutual

/-- Whether no ready-made group stands where a filter is read. -/
def isLoose : Value → Bool
  | .object fields => membersLoose fields
  | .list items => areLoose items
  | .tuple items => areLoose items
  | .group _ _ => false
  | _ => true

/-- Whether this is so for what an object gives under `conditions`. -/
def membersLoose : List (String × Value) → Bool
  | [] => true
  | (key, v) :: rest => if key = "conditions" then isLoose v else membersLoose rest

/-- Whether this is so for every value of a row. -/
def areLoose : List Value → Bool
  | [] => true
  | v :: rest => isLoose v && areLoose rest

end

/-- What is no row has no members, if it can be read for one. -/
theorem eq_nil_of_membersOf {v : Value} {members : List Filter} (hlist : ∀ items, v ≠ .list items)
    (htuple : ∀ items, v ≠ .tuple items) (h : membersOf v = .ok members) : members = [] := by
  unfold membersOf at h
  split at h
  · exact absurd rfl (hlist _)
  · exact absurd rfl (htuple _)
  · split at h
    · exact (Except.ok.inj h).symm
    · cases h
  · exact (Except.ok.inj h).symm
  · cases h
  · split at h
    · cases h
    · exact (Except.ok.inj h).symm

mutual

/-- **What is read branches**, wherever in a filter it stands. -/
theorem branches_ofNode {f : Filter} :
    ∀ v : Value, isLoose v = true → ofNode v = .ok f → Branches f
  | .object fields, hloose, hread => by
    rw [ofNode] at hread
    split at hread
    · rename_i kind members hkind hmembers
      obtain ⟨fs, hfs, hread⟩ := exists_of_bind_ok hread
      obtain rfl := Except.ok.inj hread
      subst hfs
      exact branches_ofMembers kind (branches_membersIn fields hloose hmembers)
    · obtain ⟨c, -, hread⟩ := exists_of_bind_ok hread
      obtain rfl := Except.ok.inj hread
      exact branches_test c
  | .list items, _, hread => by
    obtain ⟨conditions, -, hread⟩ := exists_of_bind_ok hread
    obtain rfl := Except.ok.inj hread
    exact branches_ofConditions conditions
  | .tuple items, _, hread => by
    obtain ⟨conditions, -, hread⟩ := exists_of_bind_ok hread
    obtain rfl := Except.ok.inj hread
    exact branches_ofConditions conditions
  | .condition field v operator connector, _, hread => by
    obtain rfl := Except.ok.inj hread
    exact branches_test _
  | .group _ _, hloose, _ => by cases hloose
  | .null, _, hread | .bool _, _, hread | .int _, _, hread | .double _, _, hread
  | .infinity _, _, hread | .nan, _, hread | .text _, _, hread | .keyed _ _, _, hread
  | .sortKey _ _, _, hread => by cases hread

/-- The members that an object gives under `conditions`. -/
theorem branches_membersIn {members : List Filter} :
    ∀ fields : List (String × Value), membersLoose fields = true →
      membersIn fields = some (.ok members) → ∀ f ∈ members, Branches f
  | [], _, hmembers => by cases hmembers
  | (key, v) :: rest, hloose, hmembers => by
    rw [membersLoose] at hloose
    rw [membersIn] at hmembers
    split at hmembers
    · rename_i hkey
      rw [if_pos hkey] at hloose
      exact branches_membersOf v hloose (Option.some.inj hmembers)
    · rename_i hkey
      rw [if_neg hkey] at hloose
      exact branches_membersIn rest hloose hmembers

/-- The members of a group, however they are given. -/
theorem branches_membersOf {members : List Filter} :
    ∀ v : Value, isLoose v = true → membersOf v = .ok members → ∀ f ∈ members, Branches f
  | .list items, hloose, hmembers => branches_ofNodes items hloose hmembers
  | .tuple items, hloose, hmembers => branches_ofNodes items hloose hmembers
  | .null, _, hmembers | .bool _, _, hmembers | .int _, _, hmembers | .double _, _, hmembers
  | .infinity _, _, hmembers | .nan, _, hmembers | .text _, _, hmembers | .object _, _, hmembers
  | .keyed _ _, _, hmembers | .condition _ _ _ _, _, hmembers | .group _ _, _, hmembers
  | .sortKey _ _, _, hmembers => by
    rw [eq_nil_of_membersOf (by simp) (by simp) hmembers]
    simp

/-- The filters of a row. -/
theorem branches_ofNodes {members : List Filter} :
    ∀ items : List Value, areLoose items = true → ofNodes items = .ok members →
      ∀ f ∈ members, Branches f
  | [], _, hmembers => by
    obtain rfl := Except.ok.inj hmembers
    simp
  | v :: rest, hloose, hmembers => by
    obtain ⟨hv, hrest⟩ := Bool.and_eq_true_iff.1 hloose
    obtain ⟨f, hf, hmembers⟩ := exists_of_bind_ok hmembers
    obtain ⟨others, hothers, hmembers⟩ := exists_of_bind_ok hmembers
    obtain rfl := Except.ok.inj hmembers
    exact List.forall_mem_cons.2 ⟨branches_ofNode v hv hf, branches_ofNodes rest hrest hothers⟩

end

/-- What is read branches. -/
theorem branches_ofValue {v : Value} {f : Filter} (hloose : isLoose v = true)
    (hread : ofValue v = .ok f) : Branches f := by
  unfold ofValue at hread
  split at hread
  · obtain rfl := Except.ok.inj hread
    exact branches_anything
  · exact branches_ofNode _ hloose hread
  · exact branches_ofNode _ hloose hread
  · exact branches_ofNode _ hloose hread
  · exact branches_ofNode _ hloose hread
  · exact branches_ofNode _ hloose hread
  · cases hread

end Filter

/-! ## Selectors -/

/-- One selector is inside another: it is that selector, or inside a member of one of its
    combinations. -/
inductive Selector.Within (s : Value) : Value → Prop
  | whole : Within s s
  | member {fields : Object} {kind : Connector} {items : List Value} {t : Value}
      (hfield : (kind.selectorKey, .list items) ∈ fields) (hmem : t ∈ items) (h : Within s t) :
      Within s (.object fields)

/-- A condition becomes one operator on one field. -/
theorem Condition.exists_fieldSelector {idKey s : Value} {c : Condition}
    (h : c.selector idKey = .ok s) :
    ∃ operator operand, s = fieldSelector (c.storedField idKey) operator operand := by
  have hfragment := fragment_of_selector h
  rw [fragment_eq] at hfragment
  cases happlied : c.operator.applied c.value with
  | error e => rw [happlied] at hfragment; cases hfragment
  | ok applied =>
    rw [happlied] at hfragment
    exact ⟨applied.1, applied.2, (Except.ok.inj hfragment).symm⟩

/-- What a condition becomes says something, and combines nothing. -/
theorem fieldSelector_facts (field : Value) (operator : String) (operand : Value) :
    fieldSelector field operator operand ≠ .object [] ∧
      ∀ fields key items, fieldSelector field operator operand = .object fields →
        (key, .list items) ∉ fields := by
  unfold fieldSelector Value.single
  split
  · refine ⟨by simp, fun fields key items hfields => ?_⟩
    obtain rfl := Value.object.inj hfields
    simp
  · exact ⟨by simp, fun _ _ _ hfields => by cases hfields⟩

namespace Filter

variable {idKey : Value}

/-- The selectors of a row are as many as its filters, and each is that of one of them. -/
theorem of_selectors {members : List Filter} {items : List Value}
    (h : selectors idKey members = .ok items) :
    items.length = members.length ∧ ∀ s ∈ items, ∃ f ∈ members, f.selector idKey = .ok s := by
  induction members generalizing items with
  | nil =>
    obtain rfl := Except.ok.inj h
    simp
  | cons f rest ih =>
    obtain ⟨s, hs, h⟩ := exists_of_bind_ok h
    obtain ⟨others, hothers, h⟩ := exists_of_bind_ok h
    obtain rfl := Except.ok.inj h
    obtain ⟨hlength, hmem⟩ := ih hothers
    refine ⟨by simp [hlength], List.forall_mem_cons.2 ⟨⟨f, List.mem_cons_self, hs⟩, fun t ht => ?_⟩⟩
    obtain ⟨g, hg, ht⟩ := hmem t ht
    exact ⟨g, List.mem_cons_of_mem _ hg, ht⟩

/-- A combination is the selector of a group with members, of which it has the selectors. -/
theorem group_of_combination {f : Filter} {fields : Object} {kind : Connector} {items : List Value}
    (hselector : f.selector idKey = .ok (.object fields))
    (hfield : (kind.selectorKey, .list items) ∈ fields) :
    ∃ kind' members, f = .group kind' members ∧ items.length = members.length ∧
      ∀ s ∈ items, ∃ g ∈ members, g.selector idKey = .ok s := by
  match f with
  | .anything =>
    obtain rfl := Value.object.inj (Except.ok.inj hselector)
    cases hfield
  | .test c =>
    obtain ⟨operator, operand, hfields⟩ := Condition.exists_fieldSelector hselector
    exact absurd hfield ((fieldSelector_facts _ operator operand).2 fields _ items hfields.symm)
  | .group _ [] =>
    obtain rfl := Value.object.inj (Except.ok.inj hselector)
    cases hfield
  | .group kind' (g :: rest) =>
    refine ⟨kind', g :: rest, rfl, ?_⟩
    rw [selector_group] at hselector
    cases hrow : selectors idKey (g :: rest) with
    | error e => simp [hrow, Except.map] at hselector
    | ok row =>
      rw [hrow] at hselector
      obtain rfl := Value.object.inj (Except.ok.inj hselector)
      obtain ⟨-, hitems⟩ := Prod.mk.inj (List.mem_singleton.1 hfield)
      obtain rfl := Value.list.inj hitems
      exact of_selectors hrow
  | .stray _ => cases hselector

/-- A selector inside that of a filter is the selector of a part of the filter. -/
theorem exists_partOf_of_within {s t : Value} (h : Selector.Within s t) :
    ∀ f : Filter, f.selector idKey = .ok t → ∃ g, PartOf g f ∧ g.selector idKey = .ok s := by
  induction h with
  | whole => exact fun f hf => ⟨f, .whole, hf⟩
  | @member fields kind items t hfield hmem _ ih =>
    intro f hf
    obtain ⟨kind', members, rfl, -, hmembers⟩ := group_of_combination hf hfield
    obtain ⟨g, hg, hselector⟩ := hmembers t hmem
    obtain ⟨part, hpart, hs⟩ := ih g hselector
    exact ⟨part, .member hg hpart, hs⟩

/-- What is more than nothing and branches has a selector that says something. -/
theorem Branches.selector_ne_empty {f : Filter} (h : Branches f) (hsome : f ≠ .anything) {s : Value}
    (hselector : f.selector idKey = .ok s) : s ≠ .object [] := by
  match f with
  | .anything => exact absurd rfl hsome
  | .test c =>
    obtain ⟨operator, operand, rfl⟩ := Condition.exists_fieldSelector hselector
    exact (fieldSelector_facts _ operator operand).1
  | .group kind [] => exact absurd (h kind [] .whole).1 (by simp)
  | .group kind (g :: rest) =>
    rw [selector_group] at hselector
    cases hrow : selectors idKey (g :: rest) with
    | error e => simp [hrow, Except.map] at hselector
    | ok row =>
      rw [hrow] at hselector
      obtain rfl := Except.ok.inj hselector
      simp
  | .stray _ => cases hselector

/-- **What is read branches, and so does its selector.**  A filter that is written with conditions,
    mappings and lists only, however deep, is read as one in which every group has two members or
    more, none of which accepts everything.  In any selector that it is compiled to, every
    combination, however deep, has two members or more, and none of them is empty. -/
theorem read_branches {v : Value} {f : Filter} (hloose : isLoose v = true)
    (hread : ofValue v = .ok f) :
    (∀ kind members, PartOf (.group kind members) f → 2 ≤ members.length ∧ .anything ∉ members) ∧
      ∀ idKey s, f.selector idKey = .ok s →
        ∀ fields (kind : Connector) items, Selector.Within (.object fields) s →
          (kind.selectorKey, .list items) ∈ fields → 2 ≤ items.length ∧ .object [] ∉ items := by
  have hbranches : Branches f := branches_ofValue hloose hread
  refine ⟨hbranches, fun idKey s hselector fields kind items hwithin hfield => ?_⟩
  obtain ⟨part, hpart, hcombination⟩ := exists_partOf_of_within hwithin f hselector
  obtain ⟨kind', members, rfl, hlength, hmembers⟩ := group_of_combination hcombination hfield
  obtain ⟨hseveral, hsome⟩ := hbranches kind' members hpart
  refine ⟨hlength ▸ hseveral, fun hempty => ?_⟩
  obtain ⟨g, hg, hnothing⟩ := hmembers _ hempty
  have hinside : Branches g := (hbranches.of_partOf hpart).of_partOf (.member hg .whole)
  exact hinside.selector_ne_empty (fun hanything => hsome (hanything ▸ hg)) hnothing rfl

/-- A choice of an empty list, a group of which only one condition is left, and a list of two: what
    is read is a choice of that condition and a conjunction of the two. -/
theorem read_branches_nested :
    ∃ f, ofValue (joined "or" [.list [], joined "and" [joined "or" [], equation "a" (.int 1)],
        .list [equation "b" (.int 2), equation "c" (.int 3)]]) = .ok f ∧
      PartOf (.group .and [.test ⟨.text "b", .int 2, .known .eq, .and⟩,
        .test ⟨.text "c", .int 3, .known .eq, .and⟩]) f ∧
      (∀ kind members, PartOf (.group kind members) f → 2 ≤ members.length ∧ .anything ∉ members) ∧
      ∀ idKey s, f.selector idKey = .ok s →
        ∀ fields (kind : Connector) items, Selector.Within (.object fields) s →
          (kind.selectorKey, .list items) ∈ fields → 2 ≤ items.length ∧ .object [] ∉ items := by
  obtain ⟨ha, -, -, -, ra⟩ := equation_facts "a" (by decide) (.int 1)
  obtain ⟨hb, -⟩ := equation_facts "b" (by decide) (.int 2)
  obtain ⟨hc, -⟩ := equation_facts "c" (by decide) (.int 3)
  have kand : Connector.ofText? "and" = some .and := by decide +kernel
  have kor : Connector.ofText? "or" = some .or := by decide +kernel
  have hall : ∀ v ∈ ([] : List Value), Written v := List.forall_mem_nil _
  obtain ⟨hnone, -, -, rnone⟩ := joined_facts "or" kor hall
  have hall : ∀ v ∈ [joined "or" [], equation "a" (.int 1)], Written v := by simp [hnone, ha]
  obtain ⟨hone, -, -, rone⟩ := joined_facts "and" kand hall
  have hempty : Written (.list []) := .row (.inl rfl) (by simp)
  have hpair : Written (.list [equation "b" (.int 2), equation "c" (.int 3)]) :=
    .row (.inl rfl) (by simp [hb, hc])
  have hall : ∀ v ∈ [.list [], joined "and" [joined "or" [], equation "a" (.int 1)],
      .list [equation "b" (.int 2), equation "c" (.int 3)]], Written v := by
    simp [hempty, hone, hpair]
  obtain ⟨hwhole, -, -, rwhole⟩ := joined_facts "or" kor hall
  have hread : ofValue (joined "or" [.list [], joined "and" [joined "or" [], equation "a" (.int 1)],
      .list [equation "b" (.int 2), equation "c" (.int 3)]]) =
      .ok (.group .or [.test ⟨.text "a", .int 1, .known .eq, .and⟩,
        .group .and [.test ⟨.text "b", .int 2, .known .eq, .and⟩,
          .test ⟨.text "c", .int 3, .known .eq, .and⟩]]) := by
    rw [hwhole.ofValue_eq, rwhole]
    simp only [ofNodes, rone, rnone, ra]
    rfl
  have hloose : isLoose
        (joined "or" [.list [], joined "and" [joined "or" [], equation "a" (.int 1)],
      .list [equation "b" (.int 2), equation "c" (.int 3)]]) = true := by decide +kernel
  exact ⟨_, hread, .member (by simp) .whole, read_branches hloose hread⟩

end Filter

end DocStore
