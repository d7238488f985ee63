/-
  Searching does not depend on indexes.

  A store that has an index for an order sorts and pages for itself.  One that has none refuses, and
  then all matches are fetched as they are stored, and sorted and paged here.  Both ways come to the
  same documents in the same order.

  1. **What is wanted** — the page of the matches in their order (`pageFound`), which is said of the
     documents stored and of nothing else: neither of indexes, nor of pages, nor of who sorts.

  2. **Both ways** (`run_search`) — where the order is served, the scan brings the page, for its
     order is read back as it was requested.  Where it is refused, the matches are fetched without
     an order, so in the order in which the store would have sorted them, and sorted by the same
     comparison.  So even where the comparison is no order at all the rows are the same, and so are
     ties and documents without a value.

  3. **The whole search** (`findMany_index_free`) — over any two servers with the same documents of
     the database, whatever each can sort by, a search comes to the same, also where it fails.
-/
import DocStore.Proofs.Order.Request
import DocStore.Proofs.Session.FirstMatch

namespace DocStore

open Program

/-! ## What is wanted -/

/-- The page of the ordered matches.  A search for no documents asks for none, so it has nothing to
    fail on. -/
def pageFound (keys : List SortKey) (name : Value → Value) (offset limit : Option Nat)
    (found : Except Failure (List Value)) : Except Failure (List Value) :=
  if limit = some 0 then .ok []
  else found.map fun docs => window (offset.getD 0) limit (sortDocuments keys name docs)

/-- A selector matches a row of documents just when it tells each, and then it matches those
    accepted. -/
theorem Database.told_of_matching {selector : Value} {docs found : List Value}
    (h : matching selector docs = .ok found) :
    (∀ doc ∈ docs, ∃ answer, Selector.test selector doc = .ok answer) ∧
      found = docs.filter (Selector.accepts selector) := by
  by_cases htold : ∀ doc ∈ docs, ∃ answer, Selector.test selector doc = .ok answer
  · exact ⟨htold, Except.ok.inj (h.symm.trans (matching_eq htold))⟩
  · obtain ⟨e, he⟩ := matching_fails htold
    exact nomatch h.symm.trans he

/-- Where names are paths, an index is there, or the order is refused for want of one. -/
theorem Database.checkIndex_asStored {name : Value → Value} {keys : List SortKey}
    (h : SortKey.HavePaths name keys) (sortable : Option (List Value)) :
    checkIndex sortable (SortKey.asStored name keys) = .ok () ∨
      ∃ e, checkIndex sortable (SortKey.asStored name keys) = .error e ∧
        e.isRefusal .missingIndex = true := by
  -- A refusal names the fields that lack an index, and paths have names.
  have hnamed : ∀ (pick : Value → Option String) (fields : List Value), fields.mapM pick = none →
      (∀ path, pick (.text path) = some path) → ¬ ∀ v ∈ fields, ∃ path, v = .text path := by
    intro pick fields hnone hpick hfields
    induction fields with
    | nil => cases hnone
    | cons v rest ih =>
      obtain ⟨⟨path, rfl⟩, hrest⟩ := List.forall_mem_cons.1 hfields
      cases hmapped : rest.mapM pick with
      | none => exact ih hmapped hrest
      | some names =>
        rw [List.mapM_cons, hpick, hmapped] at hnone
        cases hnone
  cases sortable with
  | none => exact .inl rfl
  | some indexed =>
    have hmissing :
        ∀ v ∈ ((SortKey.asStored name keys).map (·.field)).filter fun f => !isIndexed indexed f,
        ∃ path, v = .text path := by
      intro v hv
      obtain ⟨stored, hstored, rfl⟩ := List.mem_map.1 (List.mem_filter.1 hv).1
      obtain ⟨key, hkey, rfl⟩ := List.mem_map.1 hstored
      exact (h key hkey).2
    rw [checkIndex]
    split
    · exact .inl rfl
    · split
      · exact .inr ⟨_, rfl, rfl⟩
      · rename_i hnone
        exact absurd hmissing (hnamed _ _ hnone fun _ => rfl)

namespace Session

variable {s : Session} {server : Server} {m : Memory} {home : Home} {model : String}
  {selector : Value} {keys : List SortKey} {name : Value → Value}

/-! ## Both ways -/

/-- A scan for no documents asks for none. -/
theorem run_collect_none (s : Session) (database selector sort skip : Value) (m : Memory) :
    (s.collect database ⟨selector, sort, skip, .bound (some 0), .null⟩).run Memory.backend m =
      (.ok [], m) :=
  rfl

/-- What a search falls back on: all matches are fetched as they are stored, put in order and
    paged. -/
theorem run_fallback (hsize : 1 ≤ s.settings.pageSize) (hkeys : SortKey.HavePaths name keys)
    (hbudget : (server.database home.database).documents.length < s.pageBudget)
    (hdigits : (server.database home.database).documents.length < 10 ^ Text.digitLimit)
    (halike : server.Alike m.server) {offset limit : Option Nat} (hlimit : limit ≠ some 0)
    (message : String) :
    ∃ m', (do
        s.note .findMany .warning message
        let all ← s.collect home.database (.whole selector)
        let ordered ← (orderDocuments keys name all : Except Failure (List Value))
        (pageOf (.bound offset) (.bound limit) ordered : Except Failure (List Value))).run
          Memory.backend m =
        (pageFound keys name offset limit
          (Database.matching selector (server.database home.database).contents), m') ∧
      server.Alike m'.server := by
  obtain ⟨m₁, hnote, hserver₁⟩ := s.run_note_alone .findMany .warning message m
  have halike₁ : server.Alike m₁.server := by rwa [hserver₁]
  rw [run_bind_ok hnote, pageFound, if_neg hlimit]
  cases hmatching : Database.matching selector (server.database home.database).contents with
  | error e =>
    obtain ⟨m₂, hrun, halike₂⟩ := run_collect_fails hmatching (Nat.zero_lt_of_lt hbudget) halike₁
    exact ⟨m₂, run_bind_error hrun, halike₂⟩
  | ok found =>
    obtain ⟨htold, rfl⟩ := Database.told_of_matching hmatching
    obtain ⟨m₂, hrun, halike₂⟩ := run_collect hsize
      (Database.lists_plain server.sortable htold) hbudget hdigits halike₁ none none
    rw [pageOf_bound] at hrun
    refine ⟨m₂, ?_, halike₂⟩
    refine (run_bind_ok hrun).trans ?_
    rw [run_bind_lift (orderDocuments_eq hkeys _), pageOf_bound]
    rfl

/-- **Both ways** a search comes to the page that is wanted. -/
theorem run_search (hsize : 1 ≤ s.settings.pageSize) (hkeys : SortKey.HavePaths name keys)
    (hbudget : (server.database home.database).documents.length < s.pageBudget)
    (hdigits : (server.database home.database).documents.length < 10 ^ Text.digitLimit)
    (halike : server.Alike m.server) (offset limit : Option Nat) (message : String) :
    ∃ m', ((s.collect home.database ⟨selector,
          if keys.isEmpty then .null else .list (SortKey.request name keys),
          .bound offset, .bound limit, .null⟩).onRefusal .missingIndex do
        s.note .findMany .warning message
        let all ← s.collect home.database (.whole selector)
        let ordered ← (orderDocuments keys name all : Except Failure (List Value))
        (pageOf (.bound offset) (.bound limit) ordered : Except Failure (List Value))).run
          Memory.backend m =
        (pageFound keys name offset limit
          (Database.matching selector (server.database home.database).contents), m') ∧
      server.Alike m'.server := by
  by_cases hlimit : limit = some 0
  · subst hlimit
    exact ⟨m, by rw [run_onRefusal, run_collect_none]; rfl, halike⟩
  have hrequest := SortKey.ofRequest_request hkeys
  have hpositive : 0 < s.pageBudget := Nat.zero_lt_of_lt hbudget
  rcases Database.checkIndex_asStored hkeys server.sortable with hindex | ⟨e, hindex, hmissing⟩
  · cases hmatching : Database.matching selector (server.database home.database).contents with
    | ok found =>
      -- The order is served, and is the one that would be made here.
      obtain ⟨htold, rfl⟩ := Database.told_of_matching hmatching
      obtain ⟨m₁, hrun, halike₁⟩ := run_collect hsize
        ⟨hrequest, hindex, htold, orderDocuments_asStored hkeys _⟩ hbudget hdigits
        halike offset limit
      rw [pageOf_bound] at hrun
      refine ⟨m₁, ?_, halike₁⟩
      rw [run_onRefusal_ok hrun, pageFound, if_neg hlimit]
      rfl
    | error e =>
      -- The selector fails; whatever the failure is taken for, it would fail once more.
      obtain ⟨m₁, hrun, halike₁⟩ := run_collect_refused
        (fun defaultLimit asked bookmark =>
          Database.answerQuery_fails hrequest (.inr ⟨hindex, hmatching⟩)
          defaultLimit asked (.bound offset) bookmark .null) hlimit hpositive halike
      obtain ⟨m₂, hinstead, halike₂⟩ :=
        run_fallback hsize hkeys hbudget hdigits halike₁ hlimit message
      rw [hmatching] at hinstead
      rw [run_onRefusal, hrun]
      dsimp only
      split
      · exact ⟨m₂, hinstead, halike₂⟩
      · exact ⟨m₁, by rw [pageFound, if_neg hlimit]; rfl, halike₁⟩
  · -- There is no index.
    obtain ⟨m₁, hrun, halike₁⟩ := run_collect_refused
      (fun defaultLimit asked bookmark => Database.answerQuery_fails hrequest (.inl hindex)
        defaultLimit asked (.bound offset) bookmark .null) hlimit hpositive halike
    obtain ⟨m₂, hinstead, halike₂⟩ :=
      run_fallback hsize hkeys hbudget hdigits halike₁ hlimit message
    refine ⟨m₂, ?_, halike₂⟩
    rw [run_onRefusal, hrun]
    dsimp only
    rw [if_pos hmissing]
    exact hinstead

/-! ## The whole search -/

/-- A guard changes no result. -/
theorem exists_run_guarded {α : Type} {p : Program α} {result : Except Failure α}
    (h : ∃ m', p.run Memory.backend m = (result, m') ∧ server.Alike m'.server) (s : Session)
    (op : Operation) (about : Value) :
    ∃ m', (s.guarded op about p).run Memory.backend m = (result, m') ∧ server.Alike m'.server := by
  obtain ⟨m₁, hrun, halike⟩ := h
  obtain ⟨m₂, hguarded, hserver⟩ := run_guarded_alone hrun s op about
  exact ⟨m₂, hguarded, by rwa [hserver]⟩

/-- The result of a search among given documents. -/
def searchResult (s : Session) (home : Home) (model : Value) (docs : List Value)
    (filter orderBy sortBy : Value) (offset limit : Option Nat) (select : Value) :
    Except Failure Value := do
  let f ← s.schema.filter model filter
  let selector ← s.selector home f
  let keys ← SortKey.ofOrder orderBy sortBy
  let page ← pageFound keys (s.schema.fieldName model) offset limit
    (Database.matching selector docs)
  return .list (← s.outputs home model select page)

/-- Under a typed schema, a field that is a text has a path for its stored name. -/
theorem havePaths_of_texts (hs : s.schema.isTyped = true) (about : Value)
    (hkeys : ∀ key ∈ keys, ∃ field, key.field = .text field) :
    SortKey.HavePaths (s.schema.fieldName about) keys := by
  intro key hkey
  obtain ⟨field, hfield⟩ := hkeys key hkey
  have htable := Schema.fieldNames_areTexts hs about
  rw [Names.areTexts, List.all_eq_true] at htable
  refine ⟨by rw [hfield]; rfl, Entries.isText_iff.1 ?_⟩
  rw [hfield]
  exact Names.rename_isText
    (fun entry hentry => (Bool.and_eq_true_iff.1 (htable entry hentry)).2) field

/-- **What a search comes to** depends on the documents of the database, and not on what can be
    sorted by. -/
theorem run_findMany_result (hs : s.schema.isTyped = true) (hsize : 1 ≤ s.settings.pageSize)
    (hhome : ∃ stored, s.schema.modelName (.text model) = .ok stored ∧ home = s.homeOf stored)
    (hbudget : (server.database home.database).documents.length < s.pageBudget)
    (hdigits : (server.database home.database).documents.length < 10 ^ Text.digitLimit)
    (halike : server.Alike m.server) (filter orderBy sortBy : Value)
    (hfields : ∀ keys, SortKey.ofOrder orderBy sortBy = .ok keys →
      ∀ key ∈ keys, ∃ field, key.field = .text field)
    (offset limit : Option Nat) (select : Value) :
    ∃ m', (s.findMany (.text model) filter
          ⟨.bound limit, .bound offset, orderBy, sortBy⟩ select).run Memory.backend m =
        (s.searchResult home (.text model)
          (server.database home.database).contents filter orderBy sortBy offset
          limit select, m') ∧ server.Alike m'.server := by
  obtain ⟨m₁, hrun₁, halike₁⟩ := run_home hs model hhome m
  have halike₁ := halike.trans halike₁
  unfold findMany searchResult
  rw [run_bind_ok hrun₁]
  refine exists_run_bind (exists_run_lift _ _ halike₁) fun f m₂ _ halike₂ => ?_
  refine exists_run_bind (exists_run_lift _ _ halike₂) fun selector m₃ _ halike₃ => ?_
  refine exists_run_bind (exists_run_lift _ _ halike₃) fun keys m₄ horder halike₄ => ?_
  have hkeys := havePaths_of_texts hs (.text model) (hfields keys horder)
  rw [run_bind_lift (SortKey.requested_eq hkeys)]
  obtain ⟨m₅, hnote, hserver₅⟩ := s.run_note_alone .findMany .debug
    ("model=" ++ (Value.text model).written ++ " selector=" ++ selector.shown ++ " sort=" ++
      (Value.list (SortKey.request (s.schema.fieldName (.text model)) keys)).shown ++ " limit=" ++
      (Value.bound limit).written ++ " offset=" ++ (Value.bound offset).written) m₄
  have halike₅ : server.Alike m₅.server := by rwa [hserver₅]
  refine (run_bind_ok hnote).symm ▸ ?_
  refine exists_run_bind (exists_run_guarded ?_ s .findMany (.text model))
    fun page m₆ _ halike₆ => ?_
  · rw [run_bind_lift (Quota.ofValue_bound limit)]
    exact run_search hsize hkeys hbudget hdigits halike₅ offset limit _
  · refine exists_run_bind (exists_run_lift _ _ halike₆) fun values m₇ _ halike₇ => ?_
    exact ⟨m₇, rfl, halike₇⟩

/-- What matches in a database, put in order and cut to a page, are documents of it still. -/
theorem object_of_page (db : Database) {name : Value → Value} (hkeys : SortKey.HavePaths name keys)
    (accepts : Value → Bool) (offset limit : Option Nat) :
    ∀ doc ∈ window (offset.getD 0) limit (sortDocuments keys name (db.contents.filter accepts)),
      ∃ fields, doc = .object fields := by
  intro doc hdoc
  have hsorted := mem_of_mem_pageOf (pageOf_bound offset limit _) hdoc
  have hmatch := (orderDocuments_perm (orderDocuments_eq hkeys _)).mem_iff.1 hsorted
  obtain ⟨entry, -, rfl⟩ := List.mem_map.1 (List.mem_filter.1 hmatch).1
  exact ⟨_, rfl⟩

/-- A search with a plain filter and an order that can be read finds the page of the ordered
    matches. -/
theorem searchResult_ok (hs : s.schema.isTyped = true)
    (hhome : ∃ stored, s.schema.modelName (.text model) = .ok stored ∧ home = s.homeOf stored)
    {filter orderBy sortBy : Value} {f : Filter}
    (hfilter : s.schema.filter (.text model) filter = .ok f) (hplain : f.isPlain = true)
    (hid : ∃ key, s.idKey = .text key ∧ Selector.isCombinator key = false)
    (htag : ∀ field, home.tagField = some field → Selector.isCombinator field = false)
    (horder : SortKey.ofOrder orderBy sortBy = .ok keys)
    (hkeys : SortKey.HavePaths (s.schema.fieldName (.text model)) keys) (db : Database)
    (offset limit : Option Nat) :
    ∃ selector values, s.selector home f = .ok selector ∧
      s.outputs home (.text model) .null (window (offset.getD 0) limit
        (sortDocuments keys (s.schema.fieldName (.text model))
          (db.contents.filter (Selector.accepts selector)))) = .ok values ∧
      s.searchResult home (.text model) db.contents filter orderBy sortBy offset limit .null =
        .ok (.list values) := by
  obtain ⟨key, hkey, hcombinator⟩ := hid
  obtain ⟨stored, name, hstored, -⟩ := home_names hs hhome
  obtain ⟨unscoped, hunscoped, -⟩ := Filter.selector_means hcombinator f hplain
  have hselector : s.selector home f = .ok (home.scope unscoped) := by
    rw [Session.selector, hkey, hunscoped]
    rfl
  have htold : ∀ doc ∈ db.contents, ∃ answer,
      Selector.test (home.scope unscoped) doc = .ok answer :=
    fun doc _ => told_of_isPlain hplain hkey hcombinator htag ⟨stored, hstored⟩ hselector doc
  obtain ⟨values, hvalues, -⟩ := outputs_ok hs home (.text model)
    (object_of_page db hkeys (Selector.accepts (home.scope unscoped)) offset limit)
  refine ⟨home.scope unscoped, values, hselector, hvalues, ?_⟩
  have hpage : pageFound keys (s.schema.fieldName (.text model)) offset limit
      (Database.matching (home.scope unscoped) db.contents) =
      .ok (window (offset.getD 0) limit (sortDocuments keys (s.schema.fieldName (.text model))
        (db.contents.filter (Selector.accepts (home.scope unscoped))))) := by
    rw [pageFound, Database.matching_eq htold]
    split
    · rename_i hzero
      rw [hzero, window_zero]
    · rfl
  simp only [searchResult, Bind.bind, Except.bind, hfilter, hselector, horder, hpage, hvalues]
  rfl

/-- **A search does not depend on indexes.**  Over two servers with the same documents of a
    database, of which each can sort by any fields or by none, a search comes to the same: for every
    filter, order and schema, for all bounds that are not negative, and for every page size.  It
    finds something if the filter is plain and the order can be read: the matches in their order,
    those that are even as they are stored, cut to the page and shown as callers see them.

    The fields of the order are texts.  The page budget exceeds the number of documents, which fits
    into a bookmark. -/
theorem findMany_index_free (hs : s.schema.isTyped = true) (hsize : 1 ≤ s.settings.pageSize)
    (hhome : ∃ stored, s.schema.modelName (.text model) = .ok stored ∧ home = s.homeOf stored)
    {first second : Memory} {db : Database} (hdb : first.server.database home.database = db)
    (hsame : (second.server.database home.database).documents = db.documents)
    (hbudget : db.documents.length < s.pageBudget)
    (hdigits : db.documents.length < 10 ^ Text.digitLimit) (filter orderBy sortBy : Value)
    (hfields : ∀ keys, SortKey.ofOrder orderBy sortBy = .ok keys →
      ∀ key ∈ keys, ∃ field, key.field = .text field)
    (offset limit : Option Nat) (select : Value) :
    ∃ result first' second',
      (s.findMany (.text model) filter ⟨.bound limit, .bound offset, orderBy, sortBy⟩ select).run
        Memory.backend first = (result, first') ∧
      (s.findMany (.text model) filter ⟨.bound limit, .bound offset, orderBy, sortBy⟩ select).run
        Memory.backend second = (result, second') ∧
      ∀ f keys, s.schema.filter (.text model) filter = .ok f → f.isPlain = true →
        (∃ key, s.idKey = .text key ∧ Selector.isCombinator key = false) →
        (∀ field, home.tagField = some field → Selector.isCombinator field = false) →
        SortKey.ofOrder orderBy sortBy = .ok keys → select = .null →
        ∃ selector values, s.selector home f = .ok selector ∧
          s.outputs home (.text model) .null (window (offset.getD 0) limit
            (sortDocuments keys (s.schema.fieldName (.text model))
              (db.contents.filter (Selector.accepts selector)))) = .ok values ∧
          result = .ok (.list values) := by
  subst hdb
  obtain ⟨first', hfirst, -⟩ := run_findMany_result hs hsize hhome hbudget hdigits
    (.refl first.server) filter orderBy sortBy hfields offset limit select
  obtain ⟨second', hsecond, -⟩ := run_findMany_result hs hsize hhome (by rw [hsame]; exact hbudget)
    (by rw [hsame]; exact hdigits) (.refl second.server) filter orderBy sortBy hfields
    offset limit select
  have hcontents : (second.server.database home.database).contents =
      (first.server.database home.database).contents := by
    rw [Database.contents, hsame, Database.contents]
  rw [hcontents] at hsecond
  refine ⟨_, first', second', hfirst, hsecond, ?_⟩
  rintro f keys hfilter hplain hid htag horder rfl
  have hkeys := havePaths_of_texts hs (.text model) (hfields keys horder)
  exact searchResult_ok hs hhome hfilter hplain hid htag horder hkeys _ offset limit

/-- Four users, of whom two are of one age and one of none, in descending order, the first left out:
    a server that sorts by any field and one that sorts by none find the same two. -/
theorem findMany_index_free_by_age :
    let users : List Request := [
      .insert (.text "app_auth") [("_id", .text "a"), ("age", .int 30), ("doc_type", .text "user")],
      .insert (.text "app_auth") [("_id", .text "b"), ("doc_type", .text "user")],
      .insert (.text "app_auth") [("_id", .text "c"), ("age", .int 40), ("doc_type", .text "user")],
      .insert (.text "app_auth") [("_id", .text "d"), ("age", .int 30), ("doc_type", .text "user")]]
    let first := Memory.start (Server.serveAll users (.empty none .null))
    let second := Memory.start (Server.serveAll users (.empty (some []) .null))
    ∃ values first' second',
      (standard.findMany (.text "user") .null
          ⟨.bound (some 2), .bound (some 1), .text "-age", .null⟩ .null).run Memory.backend first =
        (.ok (.list values), first') ∧
      (standard.findMany (.text "user") .null
          ⟨.bound (some 2), .bound (some 1), .text "-age", .null⟩ .null).run Memory.backend second =
        (.ok (.list values), second') ∧
      (values.map fun v => ((v.field? "id").getD .null).written) = ["a", "d"] := by
  intro users first second
  have hfields : ∀ keys, SortKey.ofOrder (.text "-age") .null = .ok keys →
      ∀ key ∈ keys, ∃ field, key.field = .text field := by
    rintro keys ⟨⟩ key hkey
    obtain rfl := List.mem_singleton.1 hkey
    exact ⟨_, rfl⟩
  have hsame : (second.server.database (.text "app_auth")).documents =
      (first.server.database (.text "app_auth")).documents := rfl
  have hhome := home_standard "user"
  obtain ⟨result, first', second', hfirst, hsecond, hlist⟩ := findMany_index_free
    (s := standard) rfl
    (by decide) hhome rfl hsame (by decide +kernel) (by decide +kernel) .null
    (.text "-age") .null hfields (some 1) (some 2) .null
  obtain ⟨selector, values, -, -, rfl⟩ := hlist .anything _ rfl rfl ⟨"_id", rfl, by decide⟩
    (by rintro _ ⟨⟩; decide) rfl rfl
  refine ⟨values, first', second', hfirst, hsecond, ?_⟩
  have hshown :
      (((standard.findMany (.text "user") .null ⟨.bound (some 2), .bound (some 1), .text "-age",
      .null⟩ .null).run Memory.backend first).1.toOption.map fun v =>
        v.asList.map fun v => ((v.field? "id").getD .null).written) = some ["a", "d"] := by
    decide +kernel
  rw [hfirst] at hshown
  exact Option.some.inj hshown

end Session

end DocStore
