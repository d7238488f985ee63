/-
  Which filters have a selector.

  A selector is made of a filter leaf by leaf, from left to right, and the first leaf that has none
  fails the whole.  A leaf that names a field and states a known relation has none for one reason
  only: the relation is one between texts, and the operand is no text.

  1. **Filters that name fields** (`Condition.isNamed`) — of those, the ones with a selector are
     plain (`Filter.isPlain_of_selector`).

  2. **Refusals** — each leaf has its selector, or is refused for the text that it lacks, and the
     same goes for groups of them, by one induction over the tree (`Filter.settled_selector`).  So a
     filter that names fields and is not plain is refused for a text that one of its own conditions
     lacks (`Filter.selector_refused`).

  A part that is no filter at all is refused in another way, so the filters here are whole
  (`Filter.isWhole`).
-/
import DocStore.Proofs.Filter.Meaning
import DocStore.Proofs.Store.Query

namespace DocStore

/-! ## Filters that name fields -/

/-- Whether a condition names a field by a text that is no combinator, and states a known
    relation. -/
def Condition.isNamed (c : Condition) : Bool :=
  match c.field, c.operator with
  | .text path, .known _ => !Selector.isCombinator path
  | _, _ => false

/-- What it takes for a condition to name a field. -/
theorem Condition.isNamed_iff (c : Condition) : c.isNamed = true ↔
    ∃ path relation, c.field = .text path ∧ c.operator = .known relation ∧
      Selector.isCombinator path = false := by
  obtain ⟨field, value, operator, connector⟩ := c
  constructor
  · intro h
    cases field with
    | text path =>
      cases operator with
      | known relation => exact ⟨path, relation, rfl, rfl, by simpa [isNamed] using h⟩
      | other name => cases h
    | _ => cases h
  · rintro ⟨path, relation, rfl, rfl, hpath⟩
    simp [isNamed, hpath]

/-- A condition that names a field and has a selector is plain: without a text for its operand, a
    relation between texts has no selector. -/
theorem Condition.isPlain_of_selector {idKey compiled : Value} {c : Condition}
    (hnamed : c.isNamed = true) (h : c.selector idKey = .ok compiled) : c.isPlain = true := by
  obtain ⟨path, relation, hfield, hop, hpath⟩ := c.isNamed_iff.1 hnamed
  exact c.isPlain_iff.2 ⟨path, relation, hfield, hop, hpath, (selector_of_known hop h).1⟩

namespace Filter

mutual

/-- A filter whose conditions name fields is plain if it has a selector. -/
theorem isPlain_of_selector {idKey : Value} :
    ∀ (f : Filter) {selector : Value}, (∀ c ∈ f.leaves, c.isNamed = true) →
      f.selector idKey = .ok selector → f.isPlain = true
  | .anything, _, _, _ => rfl
  | .test c, _, hnamed, h => Condition.isPlain_of_selector (hnamed c List.mem_cons_self) h
  | .group _ [], _, _, _ => rfl
  | .group kind (f :: rest), _, hnamed, h => by
    rw [selector_group] at h
    cases hmembers : selectors idKey (f :: rest) with
    | error e => rw [hmembers] at h; cases h
    | ok members => exact arePlain_of_selectors (f :: rest) hnamed hmembers
  | .stray _, _, _, h => nomatch h

/-- So are the members of a group. -/
theorem arePlain_of_selectors {idKey : Value} :
    ∀ (fs : List Filter) {members : List Value}, (∀ c ∈ leavesOf fs, c.isNamed = true) →
      selectors idKey fs = .ok members → arePlain fs = true
  | [], _, _, _ => rfl
  | f :: rest, _, hnamed, h => by
    obtain ⟨hf, hrest⟩ := List.forall_mem_append.1 hnamed
    obtain ⟨selector, hselector, h⟩ := exists_of_bind_ok h
    obtain ⟨others, hothers, -⟩ := exists_of_bind_ok h
    rw [arePlain, isPlain_of_selector f hf hselector, arePlain_of_selectors rest hrest hothers]
    rfl

end

end Filter

/-! ## Refusals -/

/-- Whether a condition asks for a relation between texts to something that is no text. -/
def Condition.LacksText (c : Condition) (relation : Relation) : Prop :=
  c.operator = .known relation ∧ relation.isTextual = true ∧ c.value.isText = false

/-- Whether some condition of a filter does. -/
def Filter.LacksText (f : Filter) (relation : Relation) : Prop :=
  ∃ c ∈ f.leaves, c.LacksText relation

/-- What is made of conditions is there, or one of them lacks a text, and what is made fails for
    that. -/
inductive IsSettled {α : Type} (conditions : List Condition) : Except Failure α → Prop
  | built (a : α) : IsSettled conditions (.ok a)
  | refused {c : Condition} {relation : Relation} (hmem : c ∈ conditions)
      (hlacks : c.LacksText relation) :
      IsSettled conditions (.error (.query (.textRequired relation)))

namespace IsSettled

variable {α β : Type} {conditions others : List Condition} {result : Except Failure α}

/-- More conditions may be taken into account. -/
theorem mono (h : IsSettled conditions result) (hsubset : conditions ⊆ others) :
    IsSettled others result := by
  cases h with
  | built a => exact .built a
  | refused hmem hlacks => exact .refused (hsubset hmem) hlacks

/-- What is made of something settled, by steps that are settled, is settled. -/
theorem bind {next : α → Except Failure β} (h : IsSettled conditions result)
    (hnext : ∀ a, IsSettled conditions (next a)) : IsSettled conditions (result >>= next) := by
  cases h with
  | built a => exact hnext a
  | refused hmem hlacks => exact .refused hmem hlacks

end IsSettled

/-- A condition that names a field has a selector or lacks a text. -/
theorem Condition.settled_selector {idKey : Value} (hkey : idKey.isKey = true) {c : Condition}
    (hnamed : c.isNamed = true) : IsSettled [c] (c.selector idKey) := by
  obtain ⟨path, relation, hfield, hop, -⟩ := c.isNamed_iff.1 hnamed
  have hstored : (c.storedField idKey).isKey = true := by
    rw [storedField]
    split
    · exact hkey
    · rw [hfield]
      rfl
  rw [Condition.selector, if_pos (by rw [hfield]; rfl), fragment_eq, hop]
  by_cases htext : relation.isTextual = true → c.value.isText = true
  · rw [relation.applied_ok htext]
    show IsSettled [c] (keyed (c.storedField idKey) (.ok _))
    rw [keyed, if_pos hstored]
    exact .built _
  · obtain ⟨ht, hvalue⟩ := Classical.not_imp.1 htext
    have hvalue := Bool.eq_false_iff.2 hvalue
    rw [relation.applied_error ht hvalue]
    exact .refused List.mem_cons_self ⟨hop, ht, hvalue⟩

namespace Filter

mutual

/-- Whether nothing stands in a filter that is no filter. -/
def isWhole : Filter → Bool
  | .group _ members => areWhole members
  | .stray _ => false
  | _ => true

/-- Whether all of a row are filters in which nothing else stands. -/
def areWhole : List Filter → Bool
  | [] => true
  | f :: rest => isWhole f && areWhole rest

end

mutual

/-- **A filter that names fields** has a selector, or one of its conditions lacks a text. -/
theorem settled_selector {idKey : Value} (hkey : idKey.isKey = true) :
    ∀ f : Filter, (∀ c ∈ f.leaves, c.isNamed = true) → f.isWhole = true →
      IsSettled f.leaves (f.selector idKey)
  | .anything, _, _ => .built _
  | .test c, hnamed, _ => Condition.settled_selector hkey (hnamed c List.mem_cons_self)
  | .group _ [], _, _ => .built _
  | .group kind (f :: rest), hnamed, hwhole => by
    have hmembers := settled_selectors hkey (f :: rest) hnamed hwhole
    rw [selector_group]
    exact hmembers.bind fun members => .built _

/-- So have the members of a group. -/
theorem settled_selectors {idKey : Value} (hkey : idKey.isKey = true) :
    ∀ fs : List Filter, (∀ c ∈ leavesOf fs, c.isNamed = true) → areWhole fs = true →
      IsSettled (leavesOf fs) (selectors idKey fs)
  | [], _, _ => .built _
  | f :: rest, hnamed, hwhole => by
    obtain ⟨hf, hrest⟩ := List.forall_mem_append.1 hnamed
    obtain ⟨hwhole, hwholes⟩ := Bool.and_eq_true_iff.1 hwhole
    have hfirst := settled_selector hkey f hf hwhole
    have hothers := settled_selectors hkey rest hrest hwholes
    refine (hfirst.mono (List.subset_append_left _ _)).bind fun selector => ?_
    exact (hothers.mono (List.subset_append_right _ _)).bind fun others => .built _

end

/-- **A filter that names fields and is not plain** is refused for a text that one of its conditions
    lacks. -/
theorem selector_refused {idKey : Value} {f : Filter} (hkey : idKey.isKey = true)
    (hnamed : ∀ c ∈ f.leaves, c.isNamed = true) (hwhole : f.isWhole = true)
    (hf : f.isPlain = false) :
    ∃ relation, f.LacksText relation ∧
      f.selector idKey = .error (.query (.textRequired relation)) := by
  have hsettled := f.settled_selector hkey hnamed hwhole
  generalize hselector : f.selector idKey = result at hsettled
  cases hsettled with
  | built selector => cases hf.symm.trans (f.isPlain_of_selector hnamed hselector)
  | refused hmem hlacks => exact ⟨_, ⟨_, hmem, hlacks⟩, rfl⟩

end Filter

end DocStore
