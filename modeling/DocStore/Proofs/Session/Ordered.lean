/-
  Documents are found in order.

  A search sorts documents as they are stored, and callers get them as they are decoded.  Under a
  schema that renames nothing both have the same fields, but for three: the revision and the field
  that tells models apart are hidden, and the identifier, which is stored as `_id`, is shown as
  `id`.

  1. **Paths** — what is found at a path depends only on the field that the path begins with
     (`at?_congr`).

  2. **Shown documents** — so a stored document and what is shown of it are even at every path that
     begins with a visible field other than `id` (`Shows`, `output_shows`).  Without an order
     documents come by their identifiers (`contents_byIdentifier`), and sorting keeps that among
     those that are even; callers see it as the order of `id` (`Shows.compareBy_lt`).

  3. **The whole search** — so an order that does not name `id` is the order of what is shown.  One
     that does asks the store for a field `id`, which no document has: such keys decide nothing, and
     in their place documents that are even come by their identifiers, whichever direction was asked
     for (`findMany_ordered`).
-/
import DocStore.Proofs.Order.Sorted
import DocStore.Proofs.Session.Indexes
import DocStore.Proofs.Session.Isolation
import DocStore.Proofs.Session.Upsert

namespace DocStore

open Program

/-! ## Paths -/

/-- The field that a path begins with. -/
def pathRoot (path : String) : String := (pathParts path).headD ""

theorem pathParts_eq (path : String) : pathParts path = pathRoot path :: (pathParts path).tail := by
  obtain ⟨part, rest, hparts⟩ := List.exists_cons_of_ne_nil (pathParts_ne_nil path)
  rw [pathRoot, hparts]
  rfl

namespace Value

variable {v w : Value} {path : String}

/-- What is found at a path depends on the field that it begins with. -/
theorem at?_congr (h : v.field? (pathRoot path) = w.field? (pathRoot path)) :
    v.at? path = w.at? path := by
  rw [at?, at?, pathParts_eq, follow, follow, h]

theorem sortable?_congr (h : v.field? (pathRoot path) = w.field? (pathRoot path)) :
    v.sortable? path = w.sortable? path := by
  rw [sortable?, sortable?, at?_congr h]

theorem sortable?_of_absent (h : v.field? (pathRoot path) = none) : v.sortable? path = none := by
  rw [sortable?, at?, pathParts_eq, follow, h]
  rfl

end Value

theorem SortKey.paths_ofPath {name : Value → Value} (h : ∀ path, name (.text path) = .text path)
    (order : List (String × Bool)) : paths name (order.map ofPath) = order := by
  have hid : ∀ path, name (.text path) = .text (id path) := h
  rw [paths_ofPath_renamed hid]
  exact List.map_id order

/-- The keys of an order that begin with another field than `id`. -/
def withoutIdentifier (order : List (String × Bool)) : List (String × Bool) :=
  order.filter fun path => pathRoot path.1 ≠ "id"

/-! ## Shown documents -/

/-- Whether one document is stored under a lower identifier than another. -/
def ByIdentifier (a b : Value) : Prop :=
  ∃ i j, a.field? "_id" = some (.text i) ∧ b.field? "_id" = some (.text j) ∧ i < j

/-- Without an order, documents come by their identifiers. -/
theorem Database.contents_byIdentifier {db : Database} {draws : Nat} (hdb : db.IsSound draws) :
    db.contents.Pairwise ByIdentifier := by
  have hnamed : ∀ entry ∈ db.documents, Object.get? entry.2.fields "_id" = some (.text entry.1) :=
      fun entry hentry =>
    (hdb.stored _ _ ((Table.mem_iff_get? hdb.ordered).1 hentry)).named
  exact List.pairwise_map.2 (hdb.ordered.imp_of_mem fun ha hb hlt =>
    ⟨_, _, hnamed _ ha, hnamed _ hb, hlt⟩)

/-- What is shown of a document: its identifier as `id`, and the other visible fields as they are
    stored. -/
structure Home.Shows (home : Home) (doc shown : Value) : Prop where
  named : shown.field? "id" = doc.field? "_id"
  same : ∀ field, Document.isVisible home.tagField field = true → field ≠ "id" →
    shown.field? field = doc.field? field

namespace Home.Shows

variable {home : Home} {a b a' b' : Value} {order : List (String × Bool)}

/-- At keys other than `id`, documents compare as they are shown. -/
theorem compareBy_others (ha : home.Shows a a') (hb : home.Shows b b')
    (hvisible : ∀ path ∈ withoutIdentifier order,
      Document.isVisible home.tagField (pathRoot path.1) = true) :
    compareBy (withoutIdentifier order) a' b' = compareBy (withoutIdentifier order) a b := by
  have hother : ∀ path ∈ withoutIdentifier order, pathRoot path.1 ≠ "id" := fun path hpath => by
    simpa using (List.mem_filter.1 hpath).2
  exact compareBy_congr
    (fun path hpath => Value.sortable?_congr (ha.same _ (hvisible path hpath) (hother path hpath)))
    (fun path hpath => Value.sortable?_congr (hb.same _ (hvisible path hpath) (hother path hpath)))

/-- By what is shown as `id`, documents compare by their identifiers. -/
theorem compareBy_id (ha : home.Shows a a') (hb : home.Shows b b') (h : ByIdentifier a b) :
    compareBy [("id", false)] a' b' = .lt := by
  obtain ⟨i, j, hi, hj, hlt⟩ := h
  have hshown : ∀ {shown : Value} {id : String}, shown.field? "id" = some (.text id) →
      shown.sortable? "id" = some (.text id) := fun h => by
    rw [Value.sortable?, Value.at?, pathParts_of_notMem (by decide), Value.follow, h]
    rfl
  rw [compareBy, hshown (ha.named.trans hi), hshown (hb.named.trans hj)]
  show (compare i j).then .eq = .lt
  rw [show compare i j = .lt from compareOfLessAndEq_eq_lt.2 hlt]
  rfl

/-- Documents in order, of which those that are even come by their identifiers, are in order as they
    are shown, with `id` as the last key. -/
theorem compareBy_lt (ha : home.Shows a a') (hb : home.Shows b b')
    (hvisible : ∀ path ∈ withoutIdentifier order,
      Document.isVisible home.tagField (pathRoot path.1) = true)
    (h : Precedes (compareBy (withoutIdentifier order)) ByIdentifier a b) :
    compareBy (withoutIdentifier order ++ [("id", false)]) a' b' = .lt := by
  rw [compareBy_append, ha.compareBy_others hb hvisible, Ordering.then_eq_lt]
  exact h.imp_right fun ⟨heven, hid⟩ => ⟨heven, ha.compareBy_id hb hid⟩

end Home.Shows

namespace Session

variable {s : Session} {home : Home} {docs values : List Value}

/-- Where nothing is renamed, a stored document is shown so. -/
theorem output_shows (hschema : s.schema = .identity) (model : Value)
    {fields : Object} {id v : Value} (hid : fields.get? "_id" = some id)
    (hnodup : fields.keys.Nodup) (h : s.output home model .null (.object fields) = .ok v) :
    home.Shows (.object fields) v := by
  obtain ⟨seen, hseen, -, hget⟩ := output_decoded hschema home model hid hnodup
  obtain rfl := Except.ok.inj (hseen.symm.trans h)
  refine ⟨?_, fun field hvisible hother => ?_⟩
  · show seen.get? "id" = fields.get? "_id"
    rw [hget, Document.get?_decode hid, if_pos rfl, hid]
  · show seen.get? field = fields.get? field
    rw [hget, Document.get?_decode hid, if_neg (Ne.symm hother), if_pos hvisible]

/-- What holds from each document to each one behind it holds of what is shown of them. -/
theorem pairwise_outputs {R S : Value → Value → Prop} {model select : Value}
    (h : s.outputs home model select docs = .ok values) (hdocs : docs.Pairwise R)
    (hshown : ∀ a ∈ docs, ∀ b ∈ docs, ∀ a' b', s.output home model select a = .ok a' →
      s.output home model select b = .ok b' → R a b → S a' b') : values.Pairwise S := by
  induction docs generalizing values with
  | nil =>
    obtain rfl := Except.ok.inj h
    exact .nil
  | cons doc rest ih =>
    obtain ⟨hdoc, hrest⟩ := List.pairwise_cons.1 hdocs
    obtain ⟨first, hfirst, h⟩ := exists_of_bind_ok h
    obtain ⟨others, hothers, h⟩ := exists_of_bind_ok h
    obtain rfl := Except.ok.inj h
    refine List.pairwise_cons.2 ⟨fun value hvalue => ?_, ih hothers hrest fun a ha b hb =>
      hshown a (List.mem_cons_of_mem _ ha) b (List.mem_cons_of_mem _ hb)⟩
    obtain ⟨other, hother, houtput⟩ := mem_outputs hothers hvalue
    exact hshown doc List.mem_cons_self other
      (List.mem_cons_of_mem _ hother) first value hfirst houtput (hdoc other hother)

/-! ## The whole search -/

variable {m : Memory} {model : String} {keys : List SortKey}

/-- What a search lists is shown of a part of the matches in their order. -/
theorem exists_page_of_searchResult {model filter orderBy sortBy : Value}
    {offset limit : Option Nat}
    (h : s.searchResult home model docs filter orderBy sortBy offset limit .null =
      .ok (.list values)) (horder : SortKey.ofOrder orderBy sortBy = .ok keys) :
    ∃ found page, found.Sublist docs ∧
      page.Sublist (sortDocuments keys (s.schema.fieldName model) found) ∧
      s.outputs home model .null page = .ok values := by
  obtain ⟨f, -, h⟩ := exists_of_bind_ok h
  obtain ⟨selector, -, h⟩ := exists_of_bind_ok h
  obtain ⟨read, hread, h⟩ := exists_of_bind_ok h
  obtain rfl := Except.ok.inj (hread.symm.trans horder)
  obtain ⟨page, hpage, h⟩ := exists_of_bind_ok h
  obtain ⟨others, hothers, h⟩ := exists_of_bind_ok h
  obtain rfl := Value.list.inj (Except.ok.inj h)
  rw [pageFound] at hpage
  split at hpage
  · obtain rfl := Except.ok.inj hpage
    exact ⟨[], [], List.nil_sublist _, List.nil_sublist _, hothers⟩
  · cases hmatching : Database.matching selector docs with
    | error e => rw [hmatching] at hpage; cases hpage
    | ok found =>
      rw [hmatching] at hpage
      obtain rfl := Except.ok.inj hpage
      obtain ⟨-, hfound⟩ := Database.told_of_matching hmatching
      exact ⟨found, _, hfound ▸ List.filter_sublist, window_sublist _ _ _, hothers⟩

/-- What is shown of a part of the sorted documents of a database is in order, if no key begins with
    `id`; and if no document has a field `id`, such keys decide nothing, and identifiers decide in
    the end. -/
theorem outputs_ordered (hschema : s.schema = .identity) {db : Database} {draws : Nat}
    (hdb : db.IsSound draws) {name : Value → Value} (hname : ∀ path, name (.text path) = .text path)
    {order : List (String × Bool)}
    (hvisible : ∀ path ∈ withoutIdentifier order,
      Document.isVisible home.tagField (pathRoot path.1) = true)
      (hdocs : ∀ id d, db.documents.get? id = some d →
      (Object.keys d.fields).Nodup ∧ isHardToOrder order (.object d.fields) = false)
    {found page : List Value} (hfound : found.Sublist db.contents)
    (hpage : page.Sublist (sortDocuments (order.map SortKey.ofPath) name found)) {model : Value}
    (houtputs : s.outputs home model .null page = .ok values) :
    ((∀ path ∈ order, pathRoot path.1 ≠ "id") →
        values.Pairwise fun a b => compareBy order a b ≠ .gt) ∧
      ((∀ id d, db.documents.get? id = some d → Object.get? d.fields "id" = none) →
        values.Pairwise fun a b =>
          compareBy (withoutIdentifier order ++ [("id", false)]) a b = .lt) := by
  have hpaths := SortKey.paths_ofPath hname order
  have heasy : ∀ doc ∈ found,
      isHardToOrder (SortKey.paths name (order.map SortKey.ofPath)) doc = false := by
    intro doc hdoc
    obtain ⟨id, d, hd, rfl⟩ := hdb.stored_of_mem (hfound.subset hdoc)
    rw [hpaths]
    exact (hdocs id d hd).2
  have hsorted :=
    (sortDocuments_ordered heasy ((Database.contents_byIdentifier hdb).sublist hfound)).sublist
    hpage
  rw [hpaths] at hsorted
  have hmem : ∀ doc ∈ page, ∃ id d, db.documents.get? id = some d ∧ doc = .object d.fields := by
    intro doc hdoc
    have hdoc := (sortDocuments_perm _ name found).mem_iff.1 (hpage.subset hdoc)
    exact hdb.stored_of_mem (hfound.subset hdoc)
  have hshows : ∀ doc ∈ page, ∀ v, s.output home model .null doc = .ok v → home.Shows doc v := by
    intro doc hdoc v hv
    obtain ⟨id, d, hd, rfl⟩ := hmem doc hdoc
    exact output_shows hschema model (hdb.stored id d hd).named (hdocs id d hd).1 hv
  constructor
  · intro hother
    have hall : withoutIdentifier order = order := List.filter_eq_self.2 fun path hpath => by
      simpa using hother path hpath
    refine pairwise_outputs houtputs hsorted fun a ha b hb a' b' ha' hb' h => ?_
    have hcompare := (hshows a ha a' ha').compareBy_others (hshows b hb b' hb') hvisible
    rw [hall] at hcompare
    rw [hcompare]
    exact Ordering.isLE_iff_ne_gt.1 h.isLE
  · intro habsent
    -- A stored document has no value at a path that begins with `id`.
    have hnone : ∀ doc ∈ page, ∀ path ∈ order, decide (pathRoot path.1 ≠ "id") = false →
        doc.sortable? path.1 = none := by
      intro doc hdoc path _ hroot
      obtain ⟨id, d, hd, rfl⟩ := hmem doc hdoc
      have hroot : pathRoot path.1 = "id" := by simpa using hroot
      exact Value.sortable?_of_absent (by rw [hroot]; exact habsent id d hd)
    refine pairwise_outputs houtputs hsorted fun a ha b hb a' b' ha' hb' h => ?_
    refine (hshows a ha a' ha').compareBy_lt (hshows b hb b' hb') hvisible ?_
    rwa [Precedes, withoutIdentifier,
      compareBy_filter fun path hpath hroot =>
        ⟨hnone a ha path hpath hroot, hnone b hb path hpath hroot⟩]

/-- **Documents are found in order.**  Where no field is renamed, search with any filter, any bounds
    that are not negative, and an order by any visible fields and `id`.  With a plain filter the
    search ends well.  Whenever it does, and whether or not the store has an index:

    - if no key begins with `id`, no document that is listed goes before an earlier one, as they are
      shown;
    - if no document has a stored field `id`, the documents are in strict order by the keys that do
      not begin with `id` and then by ascending `id`, whatever the order says of `id`.

    No stored document has a field twice; at the fields of the order none has a row, nor what is no
    number.  The page budget exceeds the number of documents, which fits into a bookmark. -/
theorem findMany_ordered (hschema : s.schema = .identity) (hsize : 1 ≤ s.settings.pageSize)
    (hm : m.server.Reached) (hhome : ∃ stored, s.schema.modelName (.text model) = .ok stored ∧
      home = s.homeOf stored)
    (hbudget : (m.server.database home.database).documents.length < s.pageBudget)
    (hdigits : (m.server.database home.database).documents.length < 10 ^ Text.digitLimit)
    {orderBy sortBy : Value} {order : List (String × Bool)}
    (horder : SortKey.ofOrder orderBy sortBy = .ok (order.map SortKey.ofPath))
    (hvisible : ∀ path ∈ withoutIdentifier order,
      Document.isVisible home.tagField (pathRoot path.1) = true)
    (hdocs : ∀ id d, (m.server.database home.database).documents.get? id = some d →
      (Object.keys d.fields).Nodup ∧ isHardToOrder order (.object d.fields) = false)
    (filter : Value) (offset limit : Option Nat) :
    ∃ result m', (s.findMany (.text model) filter
          ⟨.bound limit, .bound offset, orderBy, sortBy⟩ .null).run Memory.backend m =
        (result, m') ∧
      (∀ f, s.schema.filter (.text model) filter = .ok f → f.isPlain = true →
        (∃ key, s.idKey = .text key ∧ Selector.isCombinator key = false) →
        (∀ field, home.tagField = some field → Selector.isCombinator field = false) →
        ∃ values, result = .ok (.list values)) ∧
      ∀ values, result = .ok (.list values) →
        ((∀ path ∈ order, pathRoot path.1 ≠ "id") →
          values.Pairwise fun a b => compareBy order a b ≠ .gt) ∧
        ((∀ id d, (m.server.database home.database).documents.get? id = some d →
            Object.get? d.fields "id" = none) →
          values.Pairwise fun a b =>
            compareBy (withoutIdentifier order ++ [("id", false)]) a b = .lt) := by
  have hs : s.schema.isTyped = true := by rw [hschema]; rfl
  have htexts : ∀ key ∈ order.map SortKey.ofPath, ∃ field,
      key.field = .text field := fun key hkey => by
    obtain ⟨path, -, rfl⟩ := List.mem_map.1 hkey
    exact ⟨path.1, rfl⟩
  have hname : ∀ path, s.schema.fieldName (.text model) (.text path) = .text path := fun path => by
    rw [hschema]
    rfl
  obtain ⟨m', hrun, -⟩ := run_findMany_result hs hsize hhome hbudget hdigits
    (.refl m.server) filter orderBy sortBy
    (fun keys hread => Except.ok.inj (horder.symm.trans hread) ▸ htexts) offset limit .null
  refine ⟨_, m', hrun, fun f hfilter hplain hid htag => ?_, fun values hvalues => ?_⟩
  · obtain ⟨-, values, -, -, hresult⟩ := searchResult_ok hs hhome hfilter hplain hid htag horder
      (havePaths_of_texts hs (.text model) htexts) (m.server.database home.database) offset limit
    exact ⟨values, hresult⟩
  · obtain ⟨found, page, hfound, hpage, houtputs⟩ := exists_page_of_searchResult hvalues horder
    exact outputs_ordered hschema
      (hm.isSound home.database) hname hvisible hdocs hfound hpage houtputs

/-- Three users, of whom two are of one age, by descending age and then by descending `id`: those of
    one age come by ascending `id`. -/
theorem findMany_ordered_by_age :
    let m := Memory.start (Server.serveAll
      [.insert (.text "app_auth") [("_id", .text "a"), ("age", .int 30),
          ("doc_type", .text "user")],
        .insert (.text "app_auth") [("_id", .text "b"), ("age", .int 30),
          ("doc_type", .text "user")],
        .insert (.text "app_auth") [("_id", .text "c"), ("age", .int 40),
          ("doc_type", .text "user")]]
      (.empty none .null))
    ∃ values m', (standard.findMany (.text "user") .null
        ⟨.bound none, .bound none, .list [.text "-age", .text "-id"],
          .null⟩ .null).run Memory.backend m =
        (.ok (.list values), m') ∧
      (values.map fun v => ((v.field? "id").getD .null).written) = ["c", "a", "b"] ∧
      values.Pairwise fun a b => compareBy [("age", true), ("id", false)] a b = .lt := by
  intro m
  have hm : m.server.Reached := .serve _ (.serve _ (.serve _ (.empty none .null)))
  have hhome := home_standard "user"
  have hall : ((m.server.database (.text "app_auth")).documents.all fun entry =>
      decide (Object.keys entry.2.fields).Nodup && (Object.get? entry.2.fields "id").isNone &&
        !isHardToOrder [("age", true), ("id", true)] (.object entry.2.fields)) = true := by
    decide +kernel
  have hstored : ∀ id d, (m.server.database (.text "app_auth")).documents.get? id = some d →
      ((Object.keys d.fields).Nodup ∧ Object.get? d.fields "id" = none) ∧
        isHardToOrder [("age", true), ("id", true)] (.object d.fields) = false := fun id d hd => by
    simpa using List.all_eq_true.1 hall _ (Table.mem_of_get? hd)
  have horder : SortKey.ofOrder (.list [.text "-age", .text "-id"]) .null =
      .ok ([("age", true), ("id", true)].map SortKey.ofPath) := rfl
  obtain ⟨result, m', hrun, hends, hordered⟩ := findMany_ordered (s := standard) rfl
    (by decide) hm hhome (by decide +kernel) (by decide +kernel) horder (by decide +kernel)
    (fun id d hd => ⟨(hstored id d hd).1.1, (hstored id d hd).2⟩) .null none none
  obtain ⟨values, rfl⟩ := hends .anything rfl rfl ⟨"_id", rfl, by decide⟩ (by rintro _ ⟨⟩; decide)
  refine ⟨values, m', hrun, ?_, (hordered values rfl).2 fun id d hd => (hstored id d hd).1.2⟩
  have hshown : (((standard.findMany (.text "user") .null
      ⟨.bound none, .bound none, .list [.text "-age", .text "-id"], .null⟩ .null).run
      Memory.backend m).1.toOption.map fun v =>
        v.asList.map fun v => ((v.field? "id").getD .null).written) = some ["c", "a", "b"] := by
    decide +kernel
  rw [hrun] at hshown
  exact Option.some.inj hshown

/-- Two users by descending `id`: the second that is listed goes before the first. -/
theorem not_ordered_by_id :
    let m := Memory.start (Server.serveAll
      [.insert (.text "app_auth") [("_id", .text "a"), ("doc_type", .text "user")],
        .insert (.text "app_auth") [("_id", .text "b"), ("doc_type", .text "user")]]
          (.empty none .null))
    ∃ values m', (standard.findMany (.text "user") .null
          ⟨.bound none, .bound none, .text "-id", .null⟩ .null).run Memory.backend m =
        (.ok (.list values), m') ∧
      ¬ values.Pairwise fun a b => compareBy [("id", true)] a b ≠ .gt := by
  intro m
  have hhome := home_standard "user"
  have horder : SortKey.ofOrder (.text "-id") .null = .ok ([("id", true)].map SortKey.ofPath) := rfl
  have htexts : ∀ keys, SortKey.ofOrder (.text "-id") .null = .ok keys →
      ∀ key ∈ keys, ∃ field, key.field = .text field := by
    rintro keys ⟨⟩ key hkey
    obtain rfl := List.mem_singleton.1 hkey
    exact ⟨_, rfl⟩
  obtain ⟨m', hrun, -⟩ := run_findMany_result (s := standard) rfl (by decide) hhome
    (by decide +kernel)
    (by decide +kernel) (.refl m.server) .null (.text "-id") .null htexts none none .null
  have hfilter : standard.schema.filter (.text "user") .null = .ok .anything := rfl
  obtain ⟨-, values, -, -, hresult⟩ := searchResult_ok (s := standard) rfl hhome hfilter rfl
    ⟨"_id", rfl, by decide⟩
    (by rintro _ ⟨⟩; decide) horder (havePaths_of_texts rfl (.text "user") (htexts _ horder))
    (m.server.database (standard.homeOf (.text "user")).database) none none
  rw [hresult] at hrun
  refine ⟨values, m', hrun, ?_⟩
  have hlisted :
      (((standard.findMany (.text "user") .null
        ⟨.bound none, .bound none, .text "-id", .null⟩ .null).run
          Memory.backend m).1.toOption.map fun v =>
        decide (v.asList.Pairwise fun a b => compareBy [("id", true)] a b ≠ .gt)) = some false := by
    decide +kernel
  rw [hrun] at hlisted
  exact of_decide_eq_false (Option.some.inj hlisted)

end Session

end DocStore
