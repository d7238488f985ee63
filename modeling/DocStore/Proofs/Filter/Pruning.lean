/-
  Pruned trees.

  When a group is read from an object, members that say nothing are left out, and a group that is
  left without members says nothing itself (`prune`).  Left out is what accepts everything.  That
  makes no difference where all members of a group are to hold; where one of them is to hold it
  does, for then the others are asked instead.

  1. **Pruning** — a tree is pruned to the filter that accepts everything exactly if it has no
     conditions (`isAnything_prune`).

  2. **Even trees** — no OR has members with conditions beside members without.  Then pruning
     changes no answer, whatever the conditions are (`alike_prune`).

  3. **Meaning** — a pruned tree never means more than the tree (`holds_of_prune`), and does not
     hold where none of its conditions does (`not_holds_prune`).
-/
import DocStore.Proofs.Filter.Alike
import DocStore.Proofs.Filter.Leaves

namespace DocStore.Filter

open Selector

variable {f : Filter} {fs : List Filter} {doc : Value}

/-! ## Pruning -/

/-- A tree of conditions joined by AND and OR, in groups of any size. -/
inductive IsTree : Filter → Prop
  | test (c : Condition) : IsTree (.test c)
  | group (kind : Connector) {members : List Filter} (hmembers : ∀ f ∈ members, IsTree f) :
      IsTree (.group kind members)

mutual

/-- A tree without the members that say nothing. -/
def prune : Filter → Filter
  | .group kind members => ofMembers kind (pruneAll members)
  | f => f

/-- The members of a group, each pruned. -/
def pruneAll : List Filter → List Filter
  | [] => []
  | f :: rest => prune f :: pruneAll rest

end

theorem pruneAll_eq_map (fs : List Filter) : pruneAll fs = fs.map prune := by
  induction fs with
  | nil => rfl
  | cons f rest ih => rw [pruneAll, ih, List.map_cons]

theorem prune_group (kind : Connector) (members : List Filter) :
    (group kind members).prune = ofMembers kind (members.map prune) := by
  rw [prune, pruneAll_eq_map]

/-- Whether a filter has no conditions. -/
def isBare (f : Filter) : Bool := f.leaves.isEmpty

theorem isBare_group (kind : Connector) (members : List Filter) :
    (group kind members).isBare = members.all isBare := by
  rw [isBare, leaves]
  induction members with
  | nil => rfl
  | cons f rest ih =>
    rw [List.all_cons, ← ih, leavesOf, isBare]
    cases f.leaves <;> rfl

/-- The members of a group that say something. -/
def kept (fs : List Filter) : List Filter := fs.filter fun f => !f.isAnything

theorem mem_kept : f ∈ kept fs ↔ f ∈ fs ∧ f.isAnything = false := by
  rw [kept, List.mem_filter, Bool.not_eq_true']

theorem kept_eq_nil_iff : kept fs = [] ↔ ∀ f ∈ fs, f.isAnything = true := by
  rw [kept, List.filter_eq_nil_iff]
  simp

theorem isAnything_ofMembers (kind : Connector) (fs : List Filter) :
    (ofMembers kind fs).isAnything = true ↔ ∀ f ∈ fs, f.isAnything = true := by
  rw [← kept_eq_nil_iff]
  unfold ofMembers
  split
  · rename_i hnone
    exact iff_of_true rfl hnone
  · rename_i single hone
    -- What is kept says something, also when it is kept alone.
    have hone : kept fs = [single] := hone
    have hrestricts := (mem_kept.1 (hone ▸ List.mem_singleton.2 rfl : single ∈ kept fs)).2
    rw [hrestricts, hone]
    exact iff_of_false Bool.false_ne_true (List.cons_ne_nil _ _)
  · rename_i hnone _
    exact iff_of_false Bool.false_ne_true hnone

/-- Exactly a tree without conditions is pruned to the filter that accepts everything. -/
theorem isAnything_prune (h : IsTree f) : f.prune.isAnything = f.isBare := by
  induction h with
  | test c => rfl
  | @group kind members _ ih =>
    rw [Bool.eq_iff_iff, prune_group, isAnything_ofMembers, isBare_group, List.all_eq_true,
      List.forall_mem_map]
    exact forall₂_congr fun f hf => by rw [ih f hf]

/-! ## Even trees -/

mutual

/-- Whether no OR of a tree joins members with conditions and members without. -/
def isEven : Filter → Bool
  | .group kind members =>
    (kind = .and || members.all isBare || !members.any isBare) && areEven members
  | _ => true

/-- Whether this is so for every filter of a row. -/
def areEven : List Filter → Bool
  | [] => true
  | f :: rest => isEven f && areEven rest

end

theorem areEven_eq_all (fs : List Filter) : areEven fs = fs.all isEven := by
  induction fs with
  | nil => rfl
  | cons f rest ih => rw [areEven, ih, List.all_cons]

/-- Row by row it makes no difference to give all members of a group another form. -/
theorem rowsAlike_map {idKey : Value} {form : Filter → Filter}
    (h : ∀ f ∈ fs, Alike doc doc (f.selector idKey) ((form f).selector idKey)) :
    RowsAlike doc doc (selectors idKey fs) (selectors idKey (fs.map form)) := by
  induction fs with
  | nil => exact .built rfl rfl
  | cons f rest ih =>
    obtain ⟨hf, hrest⟩ := List.forall_mem_cons.1 h
    exact rowsAlike_cons hf (ih hrest)

/-- Where all members are to hold, those that say nothing can be left out. -/
theorem selectors_kept (idKey : Value) (fs : List Filter) (doc : Value) :
    (∃ e, selectors idKey fs = .error e ∧ selectors idKey (kept fs) = .error e) ∨
      ∃ row row', selectors idKey fs = .ok row ∧ selectors idKey (kept fs) = .ok row' ∧
        testAll row doc = testAll row' doc := by
  induction fs with
  | nil => exact .inr ⟨[], [], rfl, rfl, rfl⟩
  | cons f rest ih =>
    cases hf : f.isAnything with
    | true =>
      obtain rfl : f = .anything := by cases f <;> first | rfl | cases hf
      have hkept : kept (.anything :: rest) = kept rest := rfl
      rw [hkept, selectors]
      rcases ih with ⟨e, hrest, hothers⟩ | ⟨row, row', hrest, hothers, htest⟩
      · exact .inl ⟨e, by rw [hrest]; rfl, hothers⟩
      · exact .inr ⟨.object [] :: row, row', by rw [hrest]; rfl, hothers, htest⟩
    | false =>
      have hkept : kept (f :: rest) = f :: kept rest := by
        rw [kept, List.filter_cons, if_pos (by rw [hf]; rfl)]
        rfl
      rw [hkept, selectors, selectors]
      cases f.selector idKey with
      | error e => exact .inl ⟨e, rfl, rfl⟩
      | ok s =>
        rcases ih with ⟨e, hrest, hothers⟩ | ⟨row, row', hrest, hothers, htest⟩
        · exact .inl ⟨e, by rw [hrest]; rfl, by rw [hothers]; rfl⟩
        · refine .inr ⟨s :: row, s :: row', by rw [hrest]; rfl, by rw [hothers]; rfl, ?_⟩
          rw [testAll, testAll, htest]

/-- A group of AND is its members one after the other, also where it has none. -/
theorem selector_and {idKey : Value} {row : List Value}
    (h : selectors idKey fs = .ok row) (doc : Value) :
    ∃ s, (group .and fs).selector idKey = .ok s ∧ Selector.test s doc = testAll row doc := by
  cases fs with
  | nil =>
    obtain rfl := Except.ok.inj h
    exact ⟨.object [], rfl, rfl⟩
  | cons f rest =>
    exact ⟨.object [("$and", .list row)], by rw [selector_group, h]; rfl, test_and _ _⟩

/-- No group is built of members of which one is faulty. -/
theorem selector_group_error {idKey : Value} {e : Failure} (h : selectors idKey fs = .error e)
    (kind : Connector) :
    (group kind fs).selector idKey = .error e := by
  cases fs with
  | nil => cases h
  | cons f rest => rw [selector_group, h]; rfl

theorem alike_kept (idKey : Value) (fs : List Filter) (doc : Value) :
    Alike doc doc ((group .and fs).selector idKey) ((group .and (kept fs)).selector idKey) := by
  rcases selectors_kept idKey fs doc with ⟨e, hall, hkept⟩ | ⟨row, row', hall, hkept, htest⟩
  · rw [selector_group_error hall, selector_group_error hkept]
    exact .failed e
  · obtain ⟨s, hs, hrow⟩ := selector_and hall doc
    obtain ⟨s', hs', hrow'⟩ := selector_and hkept doc
    rw [hs, hs']
    exact .built (by rw [hrow, hrow', htest])

/-- A choice of filters that all accept everything accepts everything. -/
theorem alike_or_of_isAnything (idKey : Value) (h : ∀ f ∈ fs, f.isAnything = true) (doc : Value) :
    Alike doc doc ((group .or fs).selector idKey) (anything.selector idKey) := by
  have hrow : ∀ fs : List Filter, (∀ f ∈ fs, f.isAnything = true) →
      ∃ row, selectors idKey fs = .ok row ∧ (fs ≠ [] → testAny row doc = .ok true) := by
    intro fs
    induction fs with
    | nil => exact fun _ => ⟨[], rfl, fun hne => absurd rfl hne⟩
    | cons f rest ih =>
      intro h
      obtain ⟨hf, hrest⟩ := List.forall_mem_cons.1 h
      obtain rfl : f = .anything := by cases f <;> first | rfl | cases hf
      obtain ⟨row, hrow, -⟩ := ih hrest
      exact ⟨.object [] :: row, by rw [selectors, hrow]; rfl, fun _ => rfl⟩
  obtain ⟨row, hrow, htest⟩ := hrow fs h
  cases fs with
  | nil => exact .built rfl
  | cons f rest =>
    rw [selector_group, hrow]
    exact .built ((test_or _ _).trans (htest (List.cons_ne_nil _ _)))

/-- A group that is left with one member, or with none, says what it said. -/
theorem alike_ofMembers_kept (idKey : Value) (kind : Connector) (fs : List Filter) (doc : Value) :
    Alike doc doc ((group kind (kept fs)).selector idKey) ((ofMembers kind fs).selector idKey) := by
  unfold ofMembers
  split
  · rename_i hnone
    rw [show kept fs = [] from hnone]
    exact .built rfl
  · rename_i single hone
    rw [show kept fs = [single] from hone, selector_group, selectors]
    cases single.selector idKey with
    | error e => exact .failed e
    | ok s =>
      refine .built ?_
      cases kind with
      | and => exact (test_and _ _).trans (testAll_singleton s doc)
      | or => exact (test_or _ _).trans (testAny_singleton s doc)
  · exact .refl _

/-- **What accepts everything can be left out of a group** where all members are to hold, and where
    none or all of them accept everything. -/
theorem alike_ofMembers (idKey : Value) (kind : Connector) (doc : Value)
    (h : kind = .and ∨ (∀ f ∈ fs, f.isAnything = true) ∨ ∀ f ∈ fs, f.isAnything = false) :
    Alike doc doc ((group kind fs).selector idKey) ((ofMembers kind fs).selector idKey) := by
  refine Alike.trans ?_ (alike_ofMembers_kept idKey kind fs doc)
  rcases h with rfl | hall | hnone
  · exact alike_kept idKey fs doc
  · rw [kept_eq_nil_iff.2 hall]
    cases kind with
    | and => exact kept_eq_nil_iff.2 hall ▸ alike_kept idKey fs doc
    | or => exact alike_or_of_isAnything idKey hall doc
  · rw [kept, List.filter_eq_self.2 fun f hf => by rw [hnone f hf]; rfl]
    exact .refl _

/-- **Pruning an even tree changes no answer**, whatever its conditions are. -/
theorem alike_prune (h : IsTree f) (heven : f.isEven = true) (idKey doc : Value) :
    Alike doc doc (f.selector idKey) (f.prune.selector idKey) := by
  induction h with
  | test c => exact .refl _
  | @group kind members hmembers ih =>
    rw [isEven, Bool.and_eq_true, areEven_eq_all, List.all_eq_true] at heven
    obtain ⟨hmixed, heven⟩ := heven
    rw [prune_group]
    refine Alike.trans (alike_group kind (by simp) (rowsAlike_map fun f hf => ih f hf (heven f hf)))
      (alike_ofMembers idKey kind doc ?_)
    rw [List.forall_mem_map, List.forall_mem_map]
    simp only [Bool.or_eq_true, decide_eq_true_eq, List.all_eq_true, Bool.not_eq_true',
      List.any_eq_false, Bool.not_eq_true] at hmixed
    rcases hmixed with (hand | hall) | hnone
    · exact .inl hand
    · exact .inr (.inl fun f hf => (isAnything_prune (hmembers f hf)).trans (hall f hf))
    · exact .inr (.inr fun f hf => (isAnything_prune (hmembers f hf)).trans (hnone f hf))

/-! ## Meaning -/

variable {idKey : String}

theorem holds_or (idKey : String) (fs : List Filter) (doc : Value) :
    (group .or fs).holds idKey doc = true ↔ fs = [] ∨ ∃ f ∈ fs, f.holds idKey doc = true := by
  rw [holds, someHolds_eq_any, Bool.or_eq_true, List.isEmpty_iff, List.any_eq_true]

theorem holds_and (idKey : String) (fs : List Filter) (doc : Value) :
    (group .and fs).holds idKey doc = true ↔ ∀ f ∈ fs, f.holds idKey doc = true := by
  rw [holds, allHold_eq_all, List.all_eq_true]

theorem holds_of_isAnything (h : f.isAnything = true) : f.holds idKey doc = true := by
  cases f with
  | anything => rfl
  | _ => cases h

/-- A group is what is kept of it. -/
theorem holds_ofMembers (idKey : String) (kind : Connector) (fs : List Filter) (doc : Value) :
    (ofMembers kind fs).holds idKey doc = (group kind (kept fs)).holds idKey doc := by
  unfold ofMembers
  split
  · rename_i hnone
    rw [show kept fs = [] from hnone]
    cases kind <;> rfl
  · rename_i single hone
    rw [show kept fs = [single] from hone]
    cases kind <;> simp [holds, allHold, someHolds]
  · rfl

/-- A tree holds where all its conditions do. -/
theorem holds_of_leaves (h : IsTree f) (hleaves : ∀ c ∈ f.leaves, c.holds idKey doc = true) :
    f.holds idKey doc = true := by
  induction h with
  | test c => exact hleaves c (List.mem_singleton.2 rfl)
  | @group kind members _ ih =>
    rw [leaves, leavesOf_eq_flatMap] at hleaves
    have hall : ∀ f ∈ members, f.holds idKey doc = true := fun f hf =>
      ih f hf fun c hc => hleaves c (List.mem_flatMap.2 ⟨f, hf, hc⟩)
    cases kind with
    | and => exact (holds_and idKey members doc).2 hall
    | or =>
      rw [holds_or]
      cases members with
      | nil => exact .inl rfl
      | cons f rest => exact .inr ⟨f, List.mem_cons_self, hall f List.mem_cons_self⟩

/-- **A pruned tree means no more than the tree**: where it holds, the tree does. -/
theorem holds_of_prune (h : IsTree f) (hholds : f.prune.holds idKey doc = true) :
    f.holds idKey doc = true := by
  induction h with
  | test c => exact hholds
  | @group kind members hmembers ih =>
    rw [prune_group, holds_ofMembers] at hholds
    cases kind with
    | and =>
      rw [holds_and] at hholds ⊢
      intro f hf
      refine ih f hf ?_
      cases hany : f.prune.isAnything with
      | true => exact holds_of_isAnything hany
      | false => exact hholds _ (mem_kept.2 ⟨List.mem_map_of_mem hf, hany⟩)
    | or =>
      rw [holds_or] at hholds ⊢
      rcases hholds with hnone | ⟨g, hg, hholds⟩
      · -- No member has conditions, so any that there is holds.
        cases members with
        | nil => exact .inl rfl
        | cons f rest =>
          refine .inr ⟨f, List.mem_cons_self, ih f List.mem_cons_self (holds_of_isAnything ?_)⟩
          exact kept_eq_nil_iff.1 hnone _ List.mem_cons_self
      · obtain ⟨f, hf, rfl⟩ := List.mem_map.1 (mem_kept.1 hg).1
        exact .inr ⟨f, hf, ih f hf hholds⟩

/-- A pruned tree with conditions does not hold where none of them does. -/
theorem not_holds_prune (h : IsTree f) (hbare : f.isBare = false)
    (hleaves : ∀ c ∈ f.leaves, c.holds idKey doc = false) : f.prune.holds idKey doc = false := by
  induction h with
  | test c => exact hleaves c (List.mem_singleton.2 rfl)
  | @group kind members hmembers ih =>
    rw [leaves, leavesOf_eq_flatMap] at hleaves
    have hnone : ∀ g ∈ kept (members.map prune), g.holds idKey doc = false := by
      intro g hg
      obtain ⟨hmem, hrestricts⟩ := mem_kept.1 hg
      obtain ⟨f, hf, rfl⟩ := List.mem_map.1 hmem
      exact ih f hf (isAnything_prune (hmembers f hf) ▸ hrestricts) fun c hc =>
        hleaves c (List.mem_flatMap.2 ⟨f, hf, hc⟩)
    obtain ⟨g, hg⟩ : ∃ g, g ∈ kept (members.map prune) := by
      refine List.exists_mem_of_ne_nil _ fun hnil => ?_
      rw [← isAnything_prune (.group kind hmembers), ← Bool.not_eq_true, prune_group,
        isAnything_ofMembers, ← kept_eq_nil_iff] at hbare
      exact hbare hnil
    rw [prune_group, holds_ofMembers, ← Bool.not_eq_true]
    cases kind with
    | and =>
      rw [holds_and]
      exact fun hall => Bool.false_ne_true ((hnone g hg).symm.trans (hall g hg))
    | or =>
      rw [holds_or]
      rintro (hnil | ⟨g', hg', hholds⟩)
      · exact List.ne_nil_of_mem hg hnil
      · exact Bool.false_ne_true ((hnone g' hg').symm.trans hholds)

/-- A plain tree stays plain. -/
theorem isPlain_prune (h : IsTree f) (hplain : f.isPlain = true) : f.prune.isPlain = true := by
  induction h with
  | test c => exact hplain
  | @group kind members _ ih =>
    rw [isPlain, arePlain_eq_all, List.all_eq_true] at hplain
    have hkept : ∀ g ∈ kept (members.map prune), g.isPlain = true := by
      intro g hg
      obtain ⟨f, hf, rfl⟩ := List.mem_map.1 (mem_kept.1 hg).1
      exact ih f hf (hplain f hf)
    rw [prune_group]
    unfold ofMembers
    split
    · rfl
    · rename_i single hone
      exact hkept single ((show kept _ = [single] from hone) ▸ List.mem_singleton.2 rfl)
    · rw [isPlain, arePlain_eq_all, List.all_eq_true]
      exact hkept

end DocStore.Filter
