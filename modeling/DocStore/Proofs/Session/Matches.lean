/-
  What a filter selects in the database of a model.

  An operation on all matches collects them before it writes anything, and one on the first match
  asks for that.  Both find documents as they are stored, in the order of their identifiers.

  1. **Selected documents** — the part of a database that the selector of a filter accepts, if it
     can tell every document (`Selects`).  No identifier stands there twice, and all are the model's
     own.  A plain filter always has such a selector, and selects the model's own documents that
     meet it (`selects_of_isPlain`).

  2. **Collecting** — a scan of everything brings what is selected (`run_collect_accepted`), and
     where there is a document that the selector cannot tell it fails (`run_collect_untold`).

  3. **The first match** — the target of a filter that names no document is the first that it
     selects (`run_target_selected`), and without a selection there is none
     (`run_target_unselected`).
-/
import DocStore.Proofs.Session.Sparing
import DocStore.Proofs.Session.TwoRuns

namespace DocStore

open Program

/-! ## Selected documents -/

namespace Home

variable {home : Home} {server : Server} {selector : Value} {id : String} {d : Stored}

/-- The documents that a selector accepts, under their identifiers. -/
def accepted (home : Home) (server : Server) (selector : Value) : Table Stored :=
  (server.database home.database).documents.filter fun entry =>
    Selector.accepts selector (.object entry.2.fields)

/-- The model's own documents that meet a filter, under their identifiers. -/
def meeting (home : Home) (server : Server) (idKey : String) (f : Filter) : Table Stored :=
  (server.database home.database).documents.filter fun entry =>
    f.holds idKey (.object entry.2.fields) && home.isOwn entry.2

/-- Whether a selector tells of every document whether it matches. -/
def Tells (home : Home) (server : Server) (selector : Value) : Prop :=
  ∀ doc ∈ (server.database home.database).contents, ∃ answer,
    Selector.test selector doc = .ok answer

theorem mem_accepted (hserver : server.IsSound) : (id, d) ∈ home.accepted server selector ↔
    home.stored? server id = some d ∧ Selector.accepts selector (.object d.fields) = true := by
  rw [accepted, List.mem_filter, Table.mem_iff_get? (hserver home.database).ordered, stored?]

/-- As values, the accepted documents are the matches of the selector. -/
theorem contents_accepted (home : Home) (server : Server) (selector : Value) :
    (server.database home.database).contents.filter (Selector.accepts selector) =
      (home.accepted server selector).map fun entry => .object entry.2.fields := by
  rw [Database.contents, List.filter_map]
  rfl

end Home

namespace Session

variable {s : Session} {m : Memory} {home : Home} {server : Server} {selector : Value} {f : Filter}
  {found : Table Stored} {e : Failure}

/-- A filter selects what its selector accepts, if it has one that tells of every document. -/
def Selects (s : Session) (home : Home) (f : Filter) (server : Server)
    (found : Table Stored) : Prop :=
  ∃ selector, s.selector home f = .ok selector ∧ home.Tells server selector ∧
    found = home.accepted server selector

/-- What is selected is stored. -/
theorem Selects.stored (h : s.Selects home f server found) (hserver : server.IsSound)
    {id : String} {d : Stored} (hmem : (id, d) ∈ found) : home.stored? server id = some d := by
  obtain ⟨selector, -, -, rfl⟩ := h
  exact ((Home.mem_accepted hserver).1 hmem).1

/-- What is selected is the model's own. -/
theorem Selects.own (h : s.Selects home f server found) (hagrees : home.Agrees)
    (hserver : server.IsSound) {id : String} {d : Stored} (hmem : (id, d) ∈ found) :
    home.own? server id = some d := by
  obtain ⟨selector, hselector, -, rfl⟩ := h
  obtain ⟨unscoped, -, hscope⟩ := exists_of_bind_ok hselector
  obtain rfl := Except.ok.inj hscope
  obtain ⟨hd, haccepts⟩ := (Home.mem_accepted hserver).1 hmem
  have howns := Home.owns_of_test_scope hagrees (Selector.accepts_iff.1 haccepts)
  rw [home.owns_stored] at howns
  exact Home.own?_eq_some.2 ⟨hd, Except.ok.inj howns⟩

/-- No identifier is selected twice. -/
theorem Selects.nodup (h : s.Selects home f server found) (hserver : server.IsSound) :
    (found.map Prod.fst).Nodup := by
  obtain ⟨selector, -, -, rfl⟩ := h
  have hordered := (hserver home.database).ordered
  refine (List.filter_sublist.map Prod.fst).nodup ?_
  exact List.pairwise_map.2 (hordered.imp fun hlt heq => ne_of_lt hlt heq)

/-- **A plain filter selects the model's own documents that meet it.** -/
theorem selects_of_isPlain (hmodel : ∃ stored, home.model = .text stored)
    (htag : ∀ field, home.tagField = some field →
      '.' ∉ field.toList ∧ Selector.isCombinator field = false)
    {idKey : String} (hkey : s.idKey = .text idKey) (hid : Selector.isCombinator idKey = false)
    (hf : f.isPlain = true) (server : Server) :
    s.Selects home f server (home.meeting server idKey f) := by
  obtain ⟨unscoped, hunscoped, htest⟩ := Filter.selector_means hid f hf
  have hselector : s.selector home f = .ok (home.scope unscoped) := by
    rw [Session.selector, hkey, hunscoped]
    rfl
  refine ⟨home.scope unscoped, hselector, fun doc _ =>
    told_of_isPlain hf hkey hid (fun field h => (htag field h).2) hmodel hselector doc, ?_⟩
  refine List.filter_congr fun entry _ => ?_
  rw [Bool.eq_iff_iff, Selector.accepts_iff, Home.agrees_of_separate hmodel htag _ _ _ (htest _),
    home.owns_stored, Bool.and_eq_true, Except.ok.injEq]

/-- A filter whose conditions name fields, and that is not plain, selects nothing at all, not even
    no documents: it asks for a relation between texts to something that is no text, or holds what
    is no filter. -/
theorem unselected_of_isNamed (hnamed : ∀ c ∈ f.leaves, c.isNamed = true) (hf : f.isPlain = false)
    (found : Table Stored) : ¬s.Selects home f server found := by
  rintro ⟨selector, hselector, -⟩
  obtain ⟨unscoped, hunscoped, -⟩ := exists_of_bind_ok hselector
  cases hf.symm.trans (f.isPlain_of_selector hnamed hunscoped)

/-- A filter whose conditions name fields, and that is not plain, has no selector for a text that
    one of its conditions lacks, if nothing stands in it that is no filter. -/
theorem selector_refused (home : Home) (hkey : s.idKey.isKey = true)
    (hnamed : ∀ c ∈ f.leaves, c.isNamed = true) (hwhole : f.isWhole = true)
    (hf : f.isPlain = false) :
    ∃ relation, f.LacksText relation ∧
      s.selector home f = .error (.query (.textRequired relation)) := by
  obtain ⟨relation, hlacks, hselector⟩ := Filter.selector_refused hkey hnamed hwhole hf
  refine ⟨relation, hlacks, ?_⟩
  rw [Session.selector, hselector]
  rfl

/-! ## Collecting -/

/-- **A scan of everything brings what is accepted.** -/
theorem run_collect_accepted (hsize : 1 ≤ s.settings.pageSize) (htells : home.Tells server selector)
    (hbudget : (server.database home.database).documents.length < s.pageBudget)
    (hdigits : (server.database home.database).documents.length < 10 ^ Text.digitLimit)
    (halike : server.Alike m.server) :
    ∃ m', (s.collect home.database (.whole selector)).run Memory.backend m =
        (.ok ((home.accepted server selector).map fun entry => .object entry.2.fields), m') ∧
      server.Alike m'.server := by
  obtain ⟨m', hrun, halike'⟩ := run_collect hsize
    (Database.lists_plain server.sortable htells) hbudget hdigits halike none none
  rw [pageOf_bound, home.contents_accepted] at hrun
  exact ⟨m', hrun, halike'⟩

/-- A scan fails where there is a document that its selector cannot tell. -/
theorem run_collect_untold (htells : ¬home.Tells server selector) (hbudget : 0 < s.pageBudget)
    (halike : server.Alike m.server) :
    ∃ e m', (s.collect home.database (.whole selector)).run Memory.backend m = (.error e, m') ∧
      server.Alike m'.server := by
  obtain ⟨e, he⟩ := Database.matching_fails htells
  obtain ⟨m', hrun, halike'⟩ := run_collect_fails he hbudget halike
  exact ⟨e, m', hrun, halike'⟩

/-- So does an operation on all matches of a filter that selects nothing at all, not even no
    documents. -/
theorem run_guarded_unselected {β : Type} (hselector : s.selector home f = .ok selector)
    (hnone : ∀ found, ¬s.Selects home f server found) (hbudget : 0 < s.pageBudget)
    (halike : server.Alike m.server) (op : Operation) (model : Value)
    (each : List Value → Program β) :
    ∃ e m', (s.guarded op model (s.collect home.database (.whole selector) >>= each)).run
          Memory.backend m = (.error e, m') ∧ server.Alike m'.server := by
  obtain ⟨e, m₁, hcollect, halike₁⟩ := run_collect_untold
    (fun htells => hnone _ ⟨selector, hselector, htells, rfl⟩) hbudget halike
  obtain ⟨m₂, hguarded, hserver₂⟩ :=
    run_guarded_alone (run_bind_error (f := each) hcollect) s op model
  exact ⟨e, m₂, hguarded, by rwa [hserver₂]⟩

/-! ## The first match -/

/-- The target of a filter that names no document is asked for. -/
theorem run_target_unnamed (hid : f.identifier = .ok none)
    (hselector : s.selector home f = .ok selector) (m : Memory) :
      (s.target home f).run Memory.backend m = (do
        let page ← send (.find home.database (firstOnly selector))
        match page.docs with
        | [] => return none
        | doc :: _ => return some (← doc.entry "_id").written :
          Program (Option String)).run Memory.backend m := by
  unfold target
  rw [run_bind_lift hid]
  exact run_bind_lift hselector _ m

/-- **The target of a filter that names no document** is the first that it selects. -/
theorem run_target_selected (hid : f.identifier = .ok none) (hserver : server.IsSound)
    (h : s.Selects home f server found) (halike : server.Alike m.server) :
    ∃ m', (s.target home f).run Memory.backend m = (.ok (found.head?.map Prod.fst), m') ∧
      server.Alike m'.server := by
  have hstored : ∀ {id : String} {d : Stored}, (id, d) ∈ found → home.stored? server id = some d :=
    fun hmem => h.stored hserver hmem
  obtain ⟨selector, hselector, htells, hfound⟩ := h
  have hlists := Database.lists_plain server.sortable htells
  obtain ⟨m₁, hfind, halike₁⟩ := Memory.run_find hlists halike (Database.restrict_null _)
    (show Database.bookmarkPosition .null = .ok ((0 : Nat) : Int) from rfl)
    (show Value.skipped .null = .ok ((0 : Nat) : Int) from rfl) rfl 1
  refine ⟨m₁, (run_target_unnamed hid hselector m).trans ((run_bind_ok hfind).trans ?_), halike₁⟩
  rw [home.contents_accepted, ← hfound]
  cases found with
  | nil => rfl
  | cons entry rest =>
    obtain ⟨id, d⟩ := entry
    have hd : home.stored? server id = some d := hstored List.mem_cons_self
    exact run_bind_lift (entry_of_stored ((hserver home.database).stored id d hd)).1 _ m₁

/-- A filter that names no document and has no selector has no target. -/
theorem run_target_refused (hid : f.identifier = .ok none)
    (hselector : s.selector home f = .error e) (m : Memory) :
    (s.target home f).run Memory.backend m = (.error e, m) := by
  unfold target
  rw [run_bind_lift hid]
  exact run_bind_lift_error hselector _ _

/-- Where such a filter selects nothing at all, not even no documents, it has no target either. -/
theorem run_target_unselected (hid : f.identifier = .ok none)
    (h : ∀ found, ¬s.Selects home f server found) :
    ∃ e, ∀ m : Memory, server.Alike m.server →
      ∃ m', (s.target home f).run Memory.backend m = (.error e, m') ∧ server.Alike m'.server := by
  cases hselector : s.selector home f with
  | error e => exact ⟨e, fun m halike => ⟨m, run_target_refused hid hselector m, halike⟩⟩
  | ok selector =>
    obtain ⟨e, he⟩ := Database.matching_fails fun htells => h _ ⟨selector, hselector, htells, rfl⟩
    refine ⟨e, fun m halike => ?_⟩
    obtain ⟨m₁, hfind, halike₁⟩ := Memory.run_find_fails he halike (.int 1) .null .null .null
    exact ⟨m₁, (run_target_unnamed hid hselector m).trans (run_bind_error hfind), halike₁⟩

end Session

end DocStore
