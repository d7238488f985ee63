/-
  One tree of conditions in two forms.

  A tree of conditions joined by AND and OR can be given as objects, one in the other (`Spells`), or
  ready-made (`toValue`).  What is ready-made is taken as it is; what is spelled out is read pruned,
  without the groups that have no conditions.

  Where the obvious statement fails: a group without conditions accepts everything, so a choice that
  has one for a member does too, and the pruned one does not.

      {op: or, conditions: [{field: a, ...}, {op: and, conditions: []}]}   asks for `a`
      OR(a, AND())                                                       accepts everything

  1. **Both forms** — what is read of each (`ofValue_spelled`, `ofValue_toValue`).

  2. **Uneven trees** — where a choice joins members with conditions and members without, the
     conditions can be chosen so that the forms differ (`exists_differing`): the choice of all
     failing conditions holds by the member without any, and the groups around it are made to depend
     on it.

  3. **Agreement** — the forms agree, whatever the conditions are, exactly for even trees
     (`forms_agree`).
-/
import DocStore.Proofs.Filter.Pruning

namespace DocStore.Filter

open Selector

variable {f g : Filter} {fs : List Filter} {kind : Connector} {idKey : String} {doc : Value}

/-! ## Both forms -/

/-- A value spells a tree out in objects: a condition is an object that is no group, and a group
    gives its connector and the row of its members. -/
inductive Spells : Value → Filter → Prop
  | test {fields : Object} {c : Condition}
      (hkind : groupKind? fields = none ∨ Object.get? fields "conditions" = none)
      (hread : Condition.ofFields fields = .ok c) : Spells (.object fields) (.test c)
  | group {fields : Object} {kind : Connector} {row : Value} (rows : List (Value × Filter))
      (hkind : groupKind? fields = some kind)
      (hconditions : Object.get? fields "conditions" = some row)
      (hrow : row = .list (rows.map Prod.fst) ∨ row = .tuple (rows.map Prod.fst))
      (hrows : ∀ pair ∈ rows, Spells pair.1 pair.2) :
      Spells (.object fields) (.group kind (rows.map Prod.snd))

mutual

/-- A filter as a ready-made value. -/
def toValue : Filter → Value
  | .anything => .null
  | .test c => c.toValue
  | .group kind members => .group kind (toValues members)
  | .stray v => v

/-- Filters as ready-made values. -/
def toValues : List Filter → List Value
  | [] => []
  | f :: rest => toValue f :: toValues rest

end

/-- What is spelled out is read without the members that say nothing. -/
theorem ofValue_spelled {v : Value} (h : Spells v f) : ofValue v = .ok f.prune := by
  have hnode : ofNode v = .ok f.prune := by
    induction h with
    | @test fields c hkind hread =>
      rw [(of_no_group fields hkind).2.2, hread]
      rfl
    | @group fields kind row rows hkind hconditions hrow _ ih =>
      have hnodes : ∀ rows : List (Value × Filter),
          (∀ pair ∈ rows, ofNode pair.1 = .ok pair.2.prune) →
          ofNodes (rows.map Prod.fst) = .ok ((rows.map Prod.snd).map prune) := by
        intro rows
        induction rows with
        | nil => exact fun _ => rfl
        | cons pair rest ih =>
          intro hrows
          obtain ⟨hpair, hrest⟩ := List.forall_mem_cons.1 hrows
          rw [List.map_cons, ofNodes, hpair, ih hrest]
          rfl
      rw [(of_group hkind hconditions hrow).2.2, hnodes rows ih, prune_group]
      rfl
  cases h with
  | test => exact hnode
  | group => exact hnode

/-- What is ready-made is read as it is. -/
theorem ofValue_toValue (h : IsTree f) : ofValue f.toValue = .ok f := by
  have hpart : ofPart f.toValue = f := by
    induction h with
    | test c => rfl
    | @group kind members _ ih =>
      have hparts : ∀ fs : List Filter, (∀ f ∈ fs, ofPart f.toValue = f) →
          ofParts (toValues fs) = fs := by
        intro fs
        induction fs with
        | nil => exact fun _ => rfl
        | cons f rest ih =>
          intro hfs
          obtain ⟨hf, hrest⟩ := List.forall_mem_cons.1 hfs
          rw [toValues, ofParts, hf, ih hrest]
      rw [toValue, ofPart, hparts members ih]
  cases h with
  | test c => rfl
  | @group kind members _ =>
    rw [toValue, ofPart] at hpart
    rw [toValue]
    exact congrArg Except.ok hpart

/-! ## Uneven trees -/

/-- Trees of one shape: with the same groups in the same places, and any conditions. -/
inductive SameShape : Filter → Filter → Prop
  | test (c c' : Condition) : SameShape (.test c) (.test c')
  | group (kind : Connector) (rows : List (Filter × Filter))
      (hrows : ∀ pair ∈ rows, SameShape pair.1 pair.2) :
      SameShape (.group kind (rows.map Prod.fst)) (.group kind (rows.map Prod.snd))

theorem sameShape_map (kind : Connector) {form : Filter → Filter}
    (h : ∀ f ∈ fs, SameShape f (form f)) :
    SameShape (group kind fs) (group kind (fs.map form)) := by
  have hrows := SameShape.group kind (fs.map fun f => (f, form f)) (List.forall_mem_map.2 h)
  have hsame : (fs.map fun f => (f, form f)).map Prod.fst = fs := by
    rw [List.map_map]; exact List.map_id fs
  rwa [hsame, List.map_map] at hrows

theorem SameShape.isTree (h : SameShape f g) : IsTree g := by
  induction h with
  | test _ c => exact .test c
  | group kind rows _ ih => exact .group kind (List.forall_mem_map.2 ih)

mutual

/-- A tree with one condition in all places. -/
def fill (c : Condition) : Filter → Filter
  | .test _ => .test c
  | .group kind members => .group kind (fillAll c members)
  | f => f

/-- Filters with one condition in all places. -/
def fillAll (c : Condition) : List Filter → List Filter
  | [] => []
  | f :: rest => fill c f :: fillAll c rest

end

theorem fill_group (c : Condition) (kind : Connector) (members : List Filter) :
    (group kind members).fill c = group kind (members.map (fill c)) := by
  have hmap : ∀ fs : List Filter, fillAll c fs = fs.map (fill c) := by
    intro fs
    induction fs with
    | nil => rfl
    | cons f rest ih => rw [fillAll, ih, List.map_cons]
  rw [fill, hmap]

theorem sameShape_fill (h : IsTree f) (c : Condition) : SameShape f (f.fill c) := by
  induction h with
  | test c' => exact .test c' c
  | group kind _ ih => exact fill_group c kind _ ▸ sameShape_map kind ih

theorem leaves_fill (h : IsTree f) (c : Condition) : ∀ c' ∈ (f.fill c).leaves, c' = c := by
  induction h with
  | test _ => exact fun c' hc' => List.mem_singleton.1 hc'
  | @group kind members _ ih =>
    intro c' hc'
    rw [fill_group, leaves, leavesOf_eq_flatMap, List.flatMap_map] at hc'
    obtain ⟨f, hf, hc'⟩ := List.mem_flatMap.1 hc'
    exact ih f hf c' hc'

theorem isBare_fill (h : IsTree f) (c : Condition) : (f.fill c).isBare = f.isBare := by
  induction h with
  | test _ => rfl
  | @group kind members _ ih =>
    rw [fill_group, isBare_group, isBare_group, List.all_map, Bool.eq_iff_iff, List.all_eq_true,
      List.all_eq_true]
    exact forall₂_congr fun f hf => by rw [Function.comp_apply, ih f hf]

/-- The condition that a field is `s`; it is met by the document in which the field is `x`. -/
def probe (s : String) : Condition := ⟨.text "a", .text s, .known .eq, .and⟩

/-- The document that is probed. -/
def probed : Value := .object [("a", .text "x")]

theorem probe_met : (probe "x").holds "_id" probed = true := by decide +kernel

theorem probe_unmet : (probe "y").holds "_id" probed = false := by decide +kernel

/-- Trees of probes are plain. -/
theorem isPlain_of_probes (h : IsTree f) (hleaves : ∀ c ∈ f.leaves, ∃ s, c = probe s) :
    f.isPlain = true := by
  induction h with
  | test c =>
    obtain ⟨s, rfl⟩ := hleaves c (List.mem_singleton.2 rfl)
    rfl
  | @group kind members _ ih =>
    rw [leaves, leavesOf_eq_flatMap] at hleaves
    rw [isPlain, arePlain_eq_all, List.all_eq_true]
    exact fun f hf => ih f hf fun c hc => hleaves c (List.mem_flatMap.2 ⟨f, hf, hc⟩)

theorem spells_probe (s : String) : Spells (equation "a" (.text s)) (test (probe s)) :=
  .test (.inr rfl) rfl

theorem spells_joined {op : String} (hop : Connector.ofText? op = some kind)
    (rows : List (Value × Filter)) (hrows : ∀ pair ∈ rows, Spells pair.1 pair.2) :
    Spells (joined op (rows.map Prod.fst)) (group kind (rows.map Prod.snd)) :=
  .group rows hop rfl (.inl rfl) hrows

/-- Trees of probes can be spelled out. -/
theorem exists_spells (h : IsTree f) (hleaves : ∀ c ∈ f.leaves, ∃ s, c = probe s) :
    ∃ v, Spells v f := by
  induction h with
  | test c =>
    obtain ⟨s, rfl⟩ := hleaves c (List.mem_singleton.2 rfl)
    exact ⟨_, spells_probe s⟩
  | @group kind members _ ih =>
    rw [leaves, leavesOf_eq_flatMap] at hleaves
    have hmembers : ∀ f ∈ members, ∃ v, Spells v f := fun f hf =>
      ih f hf fun c hc => hleaves c (List.mem_flatMap.2 ⟨f, hf, hc⟩)
    choose! spelling hspelling using hmembers
    have hgroup := spells_joined (Connector.ofText?_name kind)
      (members.map fun f => (spelling f, f)) (List.forall_mem_map.2 hspelling)
    have hsame : (members.map fun f => (spelling f, f)).map Prod.snd = members := by
      rw [List.map_map]
      exact List.map_id members
    exact ⟨_, hsame ▸ hgroup⟩

/-- What a pruned member of a choice with nothing but failing conditions comes to. -/
theorem not_holds_kept {c : Condition} (hc : c.holds idKey doc = false) (h : IsTree f)
    (hrestricts : (f.fill c).prune.isAnything = false) :
    (f.fill c).prune.holds idKey doc = false := by
  have htree := (sameShape_fill h c).isTree
  rw [isAnything_prune htree] at hrestricts
  exact not_holds_prune htree hrestricts fun c' hc' => leaves_fill h c c' hc' ▸ hc

/-- A tree of the same shape in which conditions stand that make a difference: the tree is met by
    what is probed, and the pruned one is not. -/
structure Differs (f g : Filter) : Prop where
  shape : SameShape f g
  probes : ∀ c ∈ g.leaves, ∃ s, c = probe s
  holds : g.holds "_id" probed = true
  pruned : g.prune.holds "_id" probed = false

/-- Where a choice has a member with conditions and one without, it is met by what meets no
    condition, and the pruned one is not. -/
theorem differs_fill {members : List Filter} (hmembers : ∀ f ∈ members, IsTree f)
    (hfull : members.all isBare = false) (hf : f ∈ members) (hbare : f.isBare = true) :
    Differs (group .or members) ((group .or members).fill (probe "y")) := by
  have htree : IsTree (group .or members) := .group .or hmembers
  have hfilled := sameShape_fill htree (probe "y")
  refine ⟨hfilled, fun c hc => ⟨"y", leaves_fill htree _ c hc⟩, ?_,
    not_holds_prune hfilled.isTree ?_ fun c hc => leaves_fill htree _ c hc ▸ probe_unmet⟩
  · rw [fill_group, holds_or]
    refine .inr ⟨_, List.mem_map_of_mem hf,
      holds_of_leaves (sameShape_fill (hmembers f hf) _).isTree ?_⟩
    rw [← isBare_fill (hmembers f hf) (probe "y"), isBare, List.isEmpty_iff] at hbare
    rw [hbare]
    exact fun c hc => absurd hc List.not_mem_nil
  · rw [isBare_fill htree, isBare_group, hfull]

/-- What makes a difference in a member makes one in the group, if the conditions in the other
    members are met below AND, and fail below OR. -/
theorem Differs.group {members : List Filter} (kind : Connector)
    (hmembers : ∀ f ∈ members, IsTree f) (hf : f ∈ members) (h : Differs f g) :
    ∃ g', Differs (group kind members) g' := by
  classical
  let others := probe (if kind = .and then "x" else "y")
  let form : Filter → Filter := fun x => if x = f then g else x.fill others
  have hform : ∀ x ∈ members, x = f ∧ form x = g ∨ form x = x.fill others := by
    intro x _
    by_cases hx : x = f
    · exact .inl ⟨hx, if_pos hx⟩
    · exact .inr (if_neg hx)
  have hg : g ∈ members.map form := List.mem_map.2 ⟨f, hf, if_pos rfl⟩
  have hrestricts : g.prune.isAnything = false := by
    rw [← Bool.not_eq_true]
    exact fun hany => Bool.false_ne_true (h.pruned.symm.trans (holds_of_isAnything hany))
  have hkept : g.prune ∈ kept ((members.map form).map prune) :=
    mem_kept.2 ⟨List.mem_map_of_mem hg, hrestricts⟩
  refine ⟨.group kind (members.map form), sameShape_map kind fun x hx => ?_, fun c hc => ?_, ?_, ?_⟩
  · rcases hform x hx with ⟨rfl, heq⟩ | heq <;> rw [heq]
    · exact h.shape
    · exact sameShape_fill (hmembers x hx) _
  · rw [leaves, leavesOf_eq_flatMap, List.flatMap_map] at hc
    obtain ⟨x, hx, hc⟩ := List.mem_flatMap.1 hc
    rcases hform x hx with ⟨-, heq⟩ | heq <;> rw [heq] at hc
    · exact h.probes c hc
    · exact ⟨_, leaves_fill (hmembers x hx) _ c hc⟩
  · cases kind with
    | or => exact (holds_or _ _ _).2 (.inr ⟨g, hg, h.holds⟩)
    | and =>
      rw [holds_and, List.forall_mem_map]
      intro x hx
      rcases hform x hx with ⟨-, heq⟩ | heq <;> rw [heq]
      · exact h.holds
      · exact holds_of_leaves (sameShape_fill (hmembers x hx) _).isTree fun c hc =>
          leaves_fill (hmembers x hx) _ c hc ▸ probe_met
  · rw [prune_group, holds_ofMembers, ← Bool.not_eq_true]
    cases kind with
    | and =>
      rw [holds_and]
      exact fun hall => Bool.false_ne_true (h.pruned.symm.trans (hall _ hkept))
    | or =>
      rw [holds_or]
      rintro (hnil | ⟨k, hk, hholds⟩)
      · exact List.ne_nil_of_mem hkept hnil
      · obtain ⟨hmem, hrestricts⟩ := mem_kept.1 hk
        rw [List.map_map] at hmem
        obtain ⟨x, hx, rfl⟩ := List.mem_map.1 hmem
        rw [Function.comp_apply] at hholds hrestricts
        rcases hform x hx with ⟨-, heq⟩ | heq <;> rw [heq] at hholds hrestricts
        · exact Bool.false_ne_true (h.pruned.symm.trans hholds)
        · exact Bool.false_ne_true
            ((not_holds_kept probe_unmet (hmembers x hx) hrestricts).symm.trans hholds)

/-- **In the places of an uneven tree conditions can stand that make a difference.** -/
theorem exists_differing (h : IsTree f) (huneven : f.isEven = false) : ∃ g, Differs f g := by
  induction h with
  | test c => cases huneven
  | @group kind members hmembers ih =>
    by_cases heven : ∀ f ∈ members, f.isEven = true
    · rw [isEven, areEven_eq_all, List.all_eq_true.2 heven, Bool.and_true, Bool.or_eq_false_iff,
        Bool.or_eq_false_iff, decide_eq_false_iff_not, Bool.not_eq_false',
        List.any_eq_true] at huneven
      obtain ⟨⟨hand, hfull⟩, f, hf, hbare⟩ := huneven
      obtain rfl : kind = .or := by cases kind <;> first | rfl | exact absurd rfl hand
      exact ⟨_, differs_fill hmembers hfull hf hbare⟩
    · rw [not_forall₂] at heven
      obtain ⟨f, hf, hmember⟩ := heven
      obtain ⟨g, hdiffers⟩ := ih f hf (Bool.not_eq_true _ ▸ hmember)
      exact hdiffers.group kind hmembers hf

/-! ## Agreement -/

/-- What a filter answers as it is given. -/
def answerGiven (idKey given doc : Value) :
    Except Failure Bool := do (← ofValue given).answer idKey doc

/-- A plain filter answers whether it holds. -/
theorem answer_of_isPlain (h : f.isPlain = true) (hid : isCombinator idKey = false) (doc : Value) :
    f.answer (.text idKey) doc = .ok (f.holds idKey doc) := by
  obtain ⟨s, hs, htest⟩ := selector_means hid f h
  rw [answer, hs]
  exact htest doc

/-- **When the two forms of a tree agree.**  If the tree is even, objects that spell it out and its
    ready-made form give the same answer for every document, failures included.  If it is not, plain
    conditions can stand in its places for which they do not: some document is accepted by the
    ready-made form and not by the objects.  It is never the other way round. -/
theorem forms_agree (h : IsTree f) :
    (f.isEven = true → ∀ v, Spells v f → ∀ idKey doc : Value,
      answerGiven idKey v doc = answerGiven idKey f.toValue doc) ∧
    (f.isEven = false → ∃ g v doc, SameShape f g ∧ g.isPlain = true ∧ Spells v g ∧
      answerGiven (.text "_id") v doc = .ok false ∧
      answerGiven (.text "_id") g.toValue doc = .ok true) ∧
    (f.isPlain = true → ∀ v, Spells v f → ∀ idKey : String, isCombinator idKey = false → ∀ doc,
      ∃ spelled made, answerGiven (.text idKey) v doc = .ok spelled ∧
        answerGiven (.text idKey) f.toValue doc = .ok made ∧ (spelled = true → made = true)) := by
  have hanswer : ∀ {f : Filter} {v : Value}, IsTree f → Spells v f → ∀ idKey doc : Value,
      answerGiven idKey v doc = f.prune.answer idKey doc ∧
        answerGiven idKey f.toValue doc = f.answer idKey doc := by
    intro f v htree hspells idKey doc
    rw [answerGiven, answerGiven, ofValue_spelled hspells, ofValue_toValue htree]
    exact ⟨rfl, rfl⟩
  refine ⟨fun heven v hspells idKey doc => ?_, fun huneven => ?_,
    fun hplain v hspells idKey hid doc => ?_⟩
  · obtain ⟨hspelled, hmade⟩ := hanswer h hspells idKey doc
    rw [hspelled, hmade, (alike_prune h heven idKey doc).answer_eq]
  · obtain ⟨g, hdiffers⟩ := exists_differing h huneven
    have htree := hdiffers.shape.isTree
    have hplain := isPlain_of_probes htree hdiffers.probes
    obtain ⟨v, hspells⟩ := exists_spells htree hdiffers.probes
    obtain ⟨hspelled, hmade⟩ := hanswer htree hspells (.text "_id") probed
    refine ⟨g, v, probed, hdiffers.shape, hplain, hspells, ?_, ?_⟩
    · rw [hspelled, answer_of_isPlain (isPlain_prune htree hplain) (by decide), hdiffers.pruned]
    · rw [hmade, answer_of_isPlain hplain (by decide), hdiffers.holds]
  · obtain ⟨hspelled, hmade⟩ := hanswer h hspells (.text idKey) doc
    refine ⟨f.prune.holds idKey doc, f.holds idKey doc, ?_, ?_, holds_of_prune h⟩
    · rw [hspelled, answer_of_isPlain (isPlain_prune h hplain) hid]
    · rw [hmade, answer_of_isPlain hplain hid]

/-- In both forms a condition beside empty groups, below AND, asks for what it asks for alone. -/
theorem forms_agree_below_and :
    let f : Filter := .group .and [.group .or [], .group .and [.test (probe "x"), .group .and []]]
    let v := joined "and" [joined "or" [], joined "and" [equation "a" (.text "x"), joined "and" []]]
    IsTree f ∧ f.isEven = true ∧ Spells v f ∧ answerGiven (.text "_id") v probed = .ok true ∧
      answerGiven (.text "_id") f.toValue probed = .ok true := by
  intro f v
  have hand : Connector.ofText? "and" = some .and := by decide +kernel
  have hor : Connector.ofText? "or" = some .or := by decide +kernel
  have htree : IsTree f := .group _ (by simp [IsTree.test, IsTree.group])
  have hempty : ∀ pair ∈ ([] : List (Value × Filter)), Spells pair.1 pair.2 := by simp
  have hinner := spells_joined hand
    [(equation "a" (.text "x"), test (probe "x")), (joined "and" [], .group .and [])]
    (by simpa using ⟨spells_probe "x", spells_joined hand [] hempty⟩)
  have hspells : Spells v f := spells_joined hand [(joined "or" [], .group .or []), (_, _)]
    (by simpa using ⟨spells_joined hor [] hempty, hinner⟩)
  have heven : f.isEven = true := rfl
  have hagree := (forms_agree htree).1 heven v hspells (.text "_id") probed
  have hmade : answerGiven (.text "_id") f.toValue probed = .ok true := rfl
  exact ⟨htree, heven, hspells, hagree.trans hmade, hmade⟩

/-- The obvious statement fails: the choice between a condition and nothing accepts everything when
    it is ready-made, and only what meets the condition when it is spelled out. -/
theorem forms_differ_below_or :
    let f : Filter := .group .or [.test (probe "y"), .group .and []]
    let v := joined "or" [equation "a" (.text "y"), joined "and" []]
    IsTree f ∧ f.isPlain = true ∧ Spells v f ∧ answerGiven (.text "_id") v probed = .ok false ∧
      answerGiven (.text "_id") f.toValue probed = .ok true := by
  intro f v
  have hand : Connector.ofText? "and" = some .and := by decide +kernel
  have hor : Connector.ofText? "or" = some .or := by decide +kernel
  have hspells : Spells v f := spells_joined hor
    [(equation "a" (.text "y"), test (probe "y")), (joined "and" [], _)]
    (by simpa using ⟨spells_probe "y", spells_joined hand [] (by simp)⟩)
  have hread : ofValue v = .ok f.prune := ofValue_spelled hspells
  refine ⟨.group _ (by simp [IsTree.test, IsTree.group]), rfl, hspells, ?_, rfl⟩
  rw [answerGiven, hread]
  rfl

end DocStore.Filter
