/-
  What a database answers to a query.

  1. **Matches** — where every document can be told to match a selector or not, the matches are a
     part of the documents, in their order (`matching_eq`).  What is listed for a selector and an
     order are these matches in this order (`Database.Lists`); an order without keys leaves them in
     the order of their identifiers.

  2. **Wanted fields** — leaving fields out is done document by document, so it makes no difference
     whether a row is cut before or after (`restrict_iff`).

  3. **Answers** — the answer to a query is a part of what is listed, from the position that the
     bookmark and what is to be skipped come to, and its bookmark is the position behind it
     (`answerQuery_eq`).
-/
import Mathlib.Data.List.Forall2
import DocStore.Proofs.Order.Page
import DocStore.Proofs.Text.Numeral
import DocStore.Store.Database

namespace DocStore

/-- What ends well has ended well in both its parts. -/
theorem exists_of_bind_ok {α β : Type} {x : Except Failure α} {f : α → Except Failure β} {b : β}
    (h : x >>= f = .ok b) : ∃ a, x = .ok a ∧ f a = .ok b := by
  cases x with
  | error e => cases h
  | ok a => exact ⟨a, rfl, h⟩

/-! ## Matches -/

/-- Whether a document is told to match a selector. -/
def Selector.accepts (selector doc : Value) : Bool :=
  match test selector doc with
  | .ok answer => answer
  | .error _ => false

theorem Selector.accepts_iff {selector doc : Value} :
    accepts selector doc = true ↔ test selector doc = .ok true := by
  rw [accepts]
  cases test selector doc with
  | ok answer => simp
  | error e => simp

namespace Database

/-- The matches of a row of documents that a selector can tell apart. -/
theorem matching_eq {selector : Value} {docs : List Value}
    (h : ∀ doc ∈ docs, ∃ answer, Selector.test selector doc = .ok answer) :
    matching selector docs = .ok (docs.filter (Selector.accepts selector)) := by
  induction docs with
  | nil => rfl
  | cons doc rest ih =>
    obtain ⟨⟨answer, hanswer⟩, hrest⟩ := List.forall_mem_cons.1 h
    have haccepts : Selector.accepts selector doc = answer := by rw [Selector.accepts, hanswer]
    rw [matching, hanswer, ih hrest, List.filter_cons, haccepts]
    cases answer <;> rfl

/-- What matches is there, and was told to match. -/
theorem mem_matching {selector doc : Value} {docs found : List Value}
    (h : matching selector docs = .ok found) (hdoc : doc ∈ found) :
    doc ∈ docs ∧ Selector.test selector doc = .ok true := by
  induction docs generalizing found with
  | nil =>
    obtain rfl := Except.ok.inj h
    cases hdoc
  | cons first rest ih =>
    obtain ⟨holds, hholds, h⟩ := exists_of_bind_ok h
    obtain ⟨others, hothers, h⟩ := exists_of_bind_ok h
    obtain rfl := Except.ok.inj h
    cases holds with
    | false => exact (ih hothers hdoc).imp_left (List.mem_cons_of_mem _)
    | true =>
      rcases List.mem_cons.1 hdoc with rfl | hdoc
      · exact ⟨List.mem_cons_self, hholds⟩
      · exact (ih hothers hdoc).imp_left (List.mem_cons_of_mem _)

/-- Where a selector cannot tell of every document of a row, matching fails. -/
theorem matching_fails {selector : Value} {docs : List Value}
    (h : ¬ ∀ doc ∈ docs, ∃ answer, Selector.test selector doc = .ok answer) :
    ∃ e, matching selector docs = .error e := by
  induction docs with
  | nil => exact absurd (fun _ hmem => absurd hmem List.not_mem_nil) h
  | cons doc rest ih =>
    cases htest : Selector.test selector doc with
    | error e => exact ⟨e, by rw [matching, htest]; rfl⟩
    | ok answer =>
      obtain ⟨e, he⟩ := ih fun hrest => h (List.forall_mem_cons.2 ⟨⟨answer, htest⟩, hrest⟩)
      exact ⟨e, by rw [matching, htest, he]; rfl⟩

/-- What a database lists for a selector and a requested order: all documents that match, each told
    without fail, in the order of the keys, for which it has to have an index. -/
structure Lists (db : Database) (sortable : Option (List Value)) (selector sort : Value)
    (keys : List SortKey) (docs : List Value) : Prop where
  requested : SortKey.ofRequest sort = .ok keys
  indexed : checkIndex sortable keys = .ok ()
  told : ∀ doc ∈ db.contents, ∃ answer, Selector.test selector doc = .ok answer
  ordered : orderDocuments keys id (db.contents.filter (Selector.accepts selector)) = .ok docs

variable {db : Database} {sortable : Option (List Value)} {selector sort : Value}
  {keys : List SortKey} {docs : List Value}

/-- No document is lost or doubled in a list. -/
theorem Lists.perm (h : db.Lists sortable selector sort keys docs) :
    docs.Perm (db.contents.filter (Selector.accepts selector)) := orderDocuments_perm h.ordered

/-- A list has no more documents than the database. -/
theorem Lists.length_le (h : db.Lists sortable selector sort keys docs) :
    docs.length ≤ db.documents.length := by
  have hall : db.contents.length = db.documents.length := List.length_map _
  rw [h.perm.length_eq, ← hall]
  exact List.length_filter_le _ _

/-- What is listed are documents, and these are objects. -/
theorem Lists.objects (h : db.Lists sortable selector sort keys docs) :
    ∀ doc ∈ docs, ∃ fields, doc = .object fields := by
  intro doc hmem
  obtain ⟨entry, _, rfl⟩ := List.mem_map.1 (List.mem_filter.1 (h.perm.mem_iff.1 hmem)).1
  exact ⟨_, rfl⟩

/-- Without an order, the matches are listed as they are stored. -/
theorem lists_plain (sortable : Option (List Value))
    (h : ∀ doc ∈ db.contents, ∃ answer, Selector.test selector doc = .ok answer) :
    db.Lists sortable selector .null [] (db.contents.filter (Selector.accepts selector)) := by
  refine ⟨rfl, ?_, h, orderDocuments_nil _ _⟩
  cases sortable <;> rfl

/-! ## Wanted fields -/

/-- A document with only the wanted fields; nothing wanted means all. -/
def restricted (wanted doc : Value) : Except Failure Value :=
  if wanted.truthy then do return .object (← keepFields wanted (← doc.fields)) else .ok doc

theorem restrict_cons (wanted doc : Value) (rest : List Value) :
    restrict wanted (doc :: rest) = do
      let first ← restricted wanted doc
      return first :: (← restrict wanted rest) := by
  rw [restrict, restricted]
  split
  · cases doc.fields with
    | error e => rfl
    | ok fields =>
      show (keepFields wanted fields >>= _) = (keepFields wanted fields >>= _) >>= _
      cases keepFields wanted fields <;> rfl
  · -- Nothing is wanted in particular, and then the whole row stays as it is.
    rename_i hwanted
    cases rest with
    | nil => rfl
    | cons other rest => rw [restrict, if_neg hwanted]; rfl

/-- Fields are left out of each document on its own. -/
theorem restrict_iff {wanted : Value} {docs shown : List Value} :
    restrict wanted docs = .ok shown ↔
      List.Forall₂ (fun doc v => restricted wanted doc = .ok v) docs shown := by
  induction docs generalizing shown with
  | nil =>
    rw [restrict, List.forall₂_nil_left_iff]
    exact ⟨fun h => (Except.ok.inj h).symm, fun h => by rw [h]⟩
  | cons doc rest ih =>
    rw [restrict_cons, List.forall₂_cons_left_iff]
    cases hfirst : restricted wanted doc with
    | error e =>
      constructor
      · intro h
        cases h
      · rintro ⟨first, others, h, _⟩
        cases h
    | ok first =>
      cases hothers : restrict wanted rest with
      | error e =>
        constructor
        · intro h
          cases h
        · rintro ⟨_, others, _, h, _⟩
          rw [← ih, hothers] at h
          cases h
      | ok others =>
        constructor
        · intro h
          exact ⟨first, others, rfl, ih.1 hothers, (Except.ok.inj h).symm⟩
        · rintro ⟨first', others', h, h', rfl⟩
          obtain rfl := Except.ok.inj h
          obtain rfl := Except.ok.inj (hothers.symm.trans (ih.2 h'))
          rfl

/-- Where nothing is wanted in particular, all fields are shown. -/
theorem restrict_null (docs : List Value) : restrict .null docs = .ok docs := by
  cases docs <;> rfl

/-- A row of names wants fields of every object. -/
theorem restrict_names (names : List Value) {docs : List Value}
    (h : ∀ doc ∈ docs, ∃ fields, doc = .object fields) :
    ∃ shown, restrict (.list names) docs = .ok shown := by
  have hkeep : ∀ fields : Object, ∃ kept, keepFields (.list names) fields = .ok kept := by
    intro fields
    induction fields with
    | nil => exact ⟨[], rfl⟩
    | cons field rest ih =>
      obtain ⟨kept, hkept⟩ := ih
      exact ⟨_, by rw [keepFields, hkept]; rfl⟩
  induction docs with
  | nil => exact ⟨[], rfl⟩
  | cons doc rest ih =>
    obtain ⟨⟨fields, rfl⟩, hrest⟩ := List.forall_mem_cons.1 h
    obtain ⟨kept, hkept⟩ := hkeep fields
    obtain ⟨others, hothers⟩ := ih hrest
    have hfirst : ∃ first, restricted (.list names) (.object fields) = .ok first := by
      rw [restricted]
      split
      · exact ⟨.object kept, by show (keepFields _ fields >>= _) = _; rw [hkept]; rfl⟩
      · exact ⟨_, rfl⟩
    obtain ⟨first, hfirst⟩ := hfirst
    exact ⟨first :: others, by rw [restrict_cons, hfirst, hothers]; rfl⟩

/-! ## Answers -/

/-- **The answer to a query** with a limit is a part of what is listed, and its bookmark is the
    position behind it. -/
theorem answerQuery_eq (h : db.Lists sortable selector sort keys docs) {fields : Value}
    {shown : List Value} (hshown : restrict fields docs = .ok shown) {bookmark skip : Value}
    {position skipped start : Nat} (hposition : bookmarkPosition bookmark = .ok (position : Int))
    (hskip : skip.skipped = .ok (skipped : Int)) (hstart : position + skipped = start)
    (length : Nat) (defaultLimit : Value) :
    answerQuery db.contents sortable defaultLimit ⟨selector, .int length, skip, sort,
        bookmark, fields⟩ = .ok ⟨(shown.drop start).take length,
        .text (toString ((start + ((shown.drop start).take length).length : Nat) : Int)),
        .null⟩ := by
  have hpage : restrict fields ((docs.drop start).take length) =
      .ok ((shown.drop start).take length) :=
    restrict_iff.2 (List.forall₂_take _ (List.forall₂_drop _ (restrict_iff.1 hshown)))
  have hlength : ((docs.drop start).take length).length = ((shown.drop start).take length).length :=
    (restrict_iff.1 hpage).length_eq
  have hsum : (position : Int) + skipped = (start : Nat) := by omega
  -- A limit is given, so the one of the store is not asked for.
  have hlimit : (if (Value.int length).isNull = true then defaultLimit else .int length).position =
      .ok (length : Int) := rfl
  rw [answerQuery, h.requested]
  simp only [bind, Except.bind, h.indexed, matching_eq h.told, h.ordered, hposition,
    hskip, hlimit, hsum, slice_some, hpage, hlength]
  rfl

/-- A query fails where there is no index for its order, and where its selector cannot tell a
    document. -/
theorem answerQuery_fails {documents : List Value} {e : Failure}
    (hrequested : SortKey.ofRequest sort = .ok keys) (h : checkIndex sortable keys = .error e ∨
      checkIndex sortable keys = .ok () ∧ matching selector documents = .error e)
    (defaultLimit limit skip bookmark fields : Value) :
    answerQuery documents sortable defaultLimit ⟨selector, limit, skip, sort, bookmark, fields⟩ =
      .error e := by
  rw [answerQuery]
  rcases h with hindex | ⟨hindex, hmatching⟩
  · simp only [bind, Except.bind, hrequested, hindex]
  · simp only [bind, Except.bind, hrequested, hindex, hmatching]

/-- Without keys, no index is needed. -/
theorem checkIndex_nil (sortable : Option (List Value)) : checkIndex sortable [] = .ok () := by
  cases sortable <;> rfl

/-- Whatever a query asks for, the documents of its answer are there and match, if all their fields
    are wanted. -/
theorem mem_answerQuery {documents : List Value} {sortable : Option (List Value)}
    {defaultLimit : Value} {query : Query} {page : Page}
    (h : answerQuery documents sortable defaultLimit query = .ok page)
    (hfields : query.fields = .null) {doc : Value} (hdoc : doc ∈ page.docs) :
    doc ∈ documents ∧ Selector.test query.selector doc = .ok true := by
  obtain ⟨keys, -, h⟩ := exists_of_bind_ok h
  obtain ⟨-, -, h⟩ := exists_of_bind_ok h
  obtain ⟨found, hfound, h⟩ := exists_of_bind_ok h
  obtain ⟨ordered, hordered, h⟩ := exists_of_bind_ok h
  obtain ⟨position, -, h⟩ := exists_of_bind_ok h
  obtain ⟨skipped, -, h⟩ := exists_of_bind_ok h
  obtain ⟨length, -, h⟩ := exists_of_bind_ok h
  obtain ⟨shown, hshown, h⟩ := exists_of_bind_ok h
  obtain rfl := Except.ok.inj h
  rw [hfields, restrict_null] at hshown
  obtain rfl := Except.ok.inj hshown
  have hmem : doc ∈ ordered := List.mem_of_mem_drop (List.mem_of_mem_take hdoc)
  exact mem_matching hfound ((orderDocuments_perm hordered).mem_iff.1 hmem)

end Database

end DocStore
