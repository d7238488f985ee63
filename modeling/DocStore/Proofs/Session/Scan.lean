/-
  Scans lose nothing, double nothing and move nothing.

  A scan asks for one page after the other.  What it skips is named with the first request; every
  request after that names the bookmark, which counts from the beginning.  So both come to a
  position in one and the same list, and what is still to come is a window of that list (`window`).

  1. **One request** — it asks for as many documents as fit on a page and are still wanted, so for
     one at least (`request_bound`), and is answered with the front of the window.

  2. **The run** — by induction on the number of requests that may be sent (`run_visit`): what has
     been gathered, followed by the window that is left, stays the same from request to request.
     Each request but the last brings something, so a scan that may ask more often than there are
     documents comes to its end.

  3. **Scans and counts** — a scan brings the page of the list that its bounds cut out, whatever the
     size of a page, and counting gives the length of the list (`run_collect`, `run_count`).

  4. **Failing scans** — where there is a document of which the selector cannot tell whether it
     matches, there is no list, and the first request fails (`run_eachPage_refused`).

  5. **The two together** (`scan_pages_through`) — so scans, searches and counts all go by one list,
     or all fail.
-/
import DocStore.Proofs.Session.Alone
import DocStore.Proofs.Session.Ownership
import DocStore.Session.Read

namespace DocStore

open Program

/-! ## One request -/

namespace Quota

/-- The quota of a bound: null sets none. -/
def bound : Option Nat → Quota
  | none => .unlimited
  | some n => .whole n

/-- It is the quota of the limit that a caller gives. -/
theorem ofValue_bound (limit : Option Nat) : ofValue (.bound limit) = .ok (bound limit) := by
  cases limit <;> rfl

theorem isSated_bound (limit : Option Nat) : (bound limit).isSated = true ↔ limit = some 0 := by
  cases limit with
  | none => simp [bound, isSated]
  | some n => simp [bound, isSated]

/-- A quota that is not used up asks for one document at least, and for no more than are wanted. -/
theorem request_bound {pageSize : Int} (hsize : 1 ≤ pageSize) {limit : Option Nat}
    (h : limit ≠ some 0) :
    ∃ k : Nat, 1 ≤ k ∧ (bound limit).request pageSize = .int k ∧ ∀ n, limit = some n → k ≤ n := by
  obtain ⟨size, rfl⟩ := Int.eq_ofNat_of_zero_le (show 0 ≤ pageSize by omega)
  cases limit with
  | none => exact ⟨size, by omega, rfl, fun n hn => by cases hn⟩
  | some n =>
    have hn : n ≠ 0 := fun h0 => h (congrArg some h0)
    refine ⟨min size n, by omega, ?_, fun n' hn' => ?_⟩
    · show Value.int (min (size : Int) n) = _
      congr 1
      omega
    · obtain rfl := Option.some.inj hn'
      omega

/-- What is left of a quota after some of the documents wanted. -/
theorem less_bound {limit : Option Nat} {received : Nat} (h : ∀ n, limit = some n → received ≤ n) :
    (bound limit).less received = bound (limit.map (· - received)) := by
  cases limit with
  | none => rfl
  | some n =>
    have hle := h n rfl
    show Quota.whole ((n : Int) - received) = .whole ((n - received : Nat) : Int)
    congr 1
    omega

end Quota

/-! ## The run -/

/-- A step that gathers documents: it ends well, leaves the server alone, and gathers a row at once
    as it does in two parts. -/
structure Gathers {β : Type} (step : β → List Value → Program β)
    (gather : β → List Value → β) : Prop where
  run : ∀ acc docs (m : Memory), ∃ m', (step acc docs).run Memory.backend m =
      (.ok (gather acc docs), m') ∧
    m'.server = m.server
  nil : ∀ acc, gather acc [] = acc
  append : ∀ acc first second, gather (gather acc first) second = gather acc (first ++ second)

namespace Scan

variable {β : Type} {step : β → List Value → Program β} {gather : β → List Value → β}
  {server : Server} {name selector sort fields : Value} {keys : List SortKey}
  {docs shown : List Value}

/-- What a scan is bound to find is asked for a finite number of times: as often as documents are
    wanted, or once more than there are. -/
def Enough (shown : List Value) (start : Nat) (limit : Option Nat) (fuel : Nat) : Prop :=
  match limit with
  | none => shown.length - start < fuel
  | some n => n ≤ fuel

/-- No request is enough only if no document is wanted. -/
theorem Enough.eq_zero {start : Nat} {limit : Option Nat} (h : Enough shown start limit 0) :
    limit = some 0 := by
  cases limit with
  | none => exact absurd h (Nat.not_lt_zero _)
  | some n => exact congrArg some (Nat.le_zero.1 h)

/-- A request that brings documents leaves enough requests for those behind them. -/
theorem Enough.behind {start fuel received : Nat} {limit : Option Nat}
    (h : Enough shown start limit (fuel + 1)) (hreceived : 1 ≤ received)
    (hshown : start + received ≤ shown.length) :
    Enough shown (start + received) (limit.map (· - received)) fuel := by
  cases limit with
  | none =>
    have henough : shown.length - start < fuel + 1 := h
    show shown.length - (start + received) < fuel
    omega
  | some n =>
    have henough : n ≤ fuel + 1 := h
    show n - received ≤ fuel
    omega

/-- A numeral counts as a bookmark. -/
theorem truthy_toString (position : Nat) :
    (Value.text (toString (position : Int))).truthy = true := by
  have hne : toString (position : Int) ≠ "" := Nat.repr_ne_empty
  simpa [Value.truthy] using hne

/-- The position behind a page reads back from its bookmark. -/
theorem bookmarkPosition_toString {position : Nat} (h : position < 10 ^ Text.digitLimit) :
    Database.bookmarkPosition (.text (toString (position : Int))) = .ok (position : Int) := by
  rw [Database.bookmarkPosition, if_pos (truthy_toString position), Text.readInt?_toString h]

/-- A scan of which nothing is wanted any more gathers nothing. -/
theorem run_visit_sated (hstep : Gathers step gather) {pageSize : Int} (scan : Scan) (fuel : Nat)
    (bookmark : Value) (acc : β) (m : Memory) (start : Nat) :
    (visit name pageSize scan step fuel (.bound (some 0)) bookmark acc).run Memory.backend m =
      (.ok (gather acc (window start (some 0) shown)), m) := by
  rw [window_zero, hstep.nil]
  cases fuel with
  | zero => rfl
  | succ fuel => rw [visit, if_pos ((Quota.isSated_bound _).2 rfl)]; rfl

/-- **What a scan gathers** from a position on is the window there. -/
theorem run_visit (hstep : Gathers step gather) {pageSize : Int} (hsize : 1 ≤ pageSize)
    (hlists : (server.database name).Lists server.sortable selector sort keys docs)
    (hshown : Database.restrict fields docs = .ok shown)
    (hdigits : shown.length < 10 ^ Text.digitLimit) (skip : Value) (whole : Quota) (fuel : Nat) :
    ∀ (limit : Option Nat) (bookmark : Value) (acc : β) (m : Memory) (position skipped start : Nat),
      server.Alike m.server → Enough shown start limit fuel →
      Database.bookmarkPosition bookmark = .ok (position : Int) →
      (if bookmark.truthy then Value.null else skip).skipped = .ok (skipped : Int) →
      position + skipped = start →
      ∃ m', (visit name pageSize ⟨selector, sort, skip, whole, fields⟩ step fuel (.bound limit)
          bookmark acc).run Memory.backend m =
          (.ok (gather acc (window start limit shown)), m') ∧
        server.Alike m'.server := by
  induction fuel with
  | zero =>
    intro limit bookmark acc m position skipped start halike henough _ _ _
    obtain rfl := henough.eq_zero
    exact ⟨m, run_visit_sated hstep _ _ _ _ _ _, halike⟩
  | succ fuel ih =>
    intro limit bookmark acc m position skipped start halike henough hposition hskip hstart
    by_cases hlimit : limit = some 0
    · subst hlimit
      exact ⟨m, run_visit_sated hstep _ _ _ _ _ _, halike⟩
    · obtain ⟨k, hk, hrequest, hwanted⟩ := Quota.request_bound hsize hlimit
      obtain ⟨m₁, hfind, halike₁⟩ := Memory.run_find hlists halike hshown hposition hskip hstart k
      rw [visit, if_neg (fun h => hlimit ((Quota.isSated_bound limit).1 h)), query, hrequest,
        run_bind_ok hfind]
      generalize hpage : (shown.drop start).take k = page
      dsimp only
      by_cases hempty : page = []
      · -- The list ends here, so nothing is left of the window.
        have hend : shown.drop start = [] := by
          rw [hempty, List.take_eq_nil_iff] at hpage
          exact hpage.resolve_left (by omega)
        refine ⟨m₁, ?_, halike₁⟩
        rw [hempty, window_eq_nil hend, hstep.nil]
        rfl
      · have hlength : 1 ≤ page.length := List.length_pos_iff.2 hempty
        have hbehind : start + page.length ≤ shown.length := by
          rw [← hpage, List.length_take, List.length_drop] at hlength ⊢
          omega
        have hreceived : ∀ n, limit = some n → page.length ≤ n := by
          intro n hn
          rw [← hpage, List.length_take]
          exact Nat.le_trans (Nat.min_le_left _ _) (hwanted n hn)
        -- The next request begins behind this page, with what is still wanted, and skips nothing.
        obtain ⟨m₂, hgather, hserver⟩ := hstep.run acc page m₁
        obtain ⟨m₃, hrest, halike₃⟩ := ih (limit.map (· - page.length))
          (.text (toString ((start + page.length : Nat) : Int))) (gather acc page) m₂
          (start + page.length) 0 (start + page.length) (by rwa [hserver])
          (henough.behind hlength hbehind)
          (bookmarkPosition_toString (Nat.lt_of_le_of_lt hbehind hdigits))
          (by rw [if_pos (truthy_toString _)]; rfl) rfl
        refine ⟨m₃, ?_, halike₃⟩
        rw [if_neg (by simpa using hempty), run_bind_ok hgather, if_pos (truthy_toString _),
          Quota.less_bound hreceived, hrest, hstep.append, ← window_step hwanted hpage]

end Scan

/-! ## Scans and counts -/

namespace Session

/-- Documents are gathered one page behind the other. -/
theorem gathers_append :
    Gathers (fun acc docs => (return acc ++ docs : Program (List Value))) fun acc docs =>
      acc ++ docs :=
  ⟨fun _ _ m => ⟨m, rfl, rfl⟩, List.append_nil, List.append_assoc⟩

variable {s : Session} {server : Server} {m : Memory} {home : Home} {model : String}
  {name selector sort fields : Value} {keys : List SortKey} {docs shown : List Value} {e : Failure}

/-- What all pages of a scan together come to. -/
theorem run_eachPage {β : Type} {step : β → List Value → Program β} {gather : β → List Value → β}
    (hstep : Gathers step gather) (hsize : 1 ≤ s.settings.pageSize)
    (hlists : (server.database name).Lists server.sortable selector sort keys docs)
    (hshown : Database.restrict fields docs = .ok shown)
    (hbudget : (server.database name).documents.length < s.pageBudget)
    (hdigits : (server.database name).documents.length < 10 ^ Text.digitLimit)
    (halike : server.Alike m.server) (offset limit : Option Nat) (acc : β) :
    ∃ m', (s.eachPage name ⟨selector, sort, .bound offset, .bound limit, fields⟩ step acc).run
          Memory.backend m =
        (.ok (gather acc (window (offset.getD 0) limit shown)), m') ∧ server.Alike m'.server := by
  have hlength : shown.length ≤ (server.database name).documents.length := by
    rw [← (Database.restrict_iff.1 hshown).length_eq]
    exact hlists.length_le
  have henough : Scan.Enough shown (offset.getD 0) limit
      ((Quota.bound limit).fuel s.pageBudget) := by
    cases limit with
    | none =>
      show shown.length - offset.getD 0 < s.pageBudget
      omega
    | some n => exact Nat.le_refl n
  exact Scan.run_visit hstep hsize hlists hshown
    (Nat.lt_of_le_of_lt hlength hdigits) (.bound offset)
    (.bound limit) _ limit .null acc m 0 (offset.getD 0) (offset.getD 0) halike henough rfl
    (Value.skipped_bound offset) (Nat.zero_add _)

/-- **A scan brings a page of the list.** -/
theorem run_collect (hsize : 1 ≤ s.settings.pageSize)
    (hlists : (server.database name).Lists server.sortable selector sort keys docs)
    (hbudget : (server.database name).documents.length < s.pageBudget)
    (hdigits : (server.database name).documents.length < 10 ^ Text.digitLimit)
    (halike : server.Alike m.server) (offset limit : Option Nat) :
    ∃ m', (s.collect name ⟨selector, sort, .bound offset, .bound limit, .null⟩).run
          Memory.backend m =
        (pageOf (.bound offset) (.bound limit) docs, m') ∧ server.Alike m'.server := by
  obtain ⟨m', hrun, halike'⟩ := run_eachPage gathers_append hsize hlists
    (Database.restrict_null docs) hbudget hdigits halike offset limit []
  refine ⟨m', ?_, halike'⟩
  rw [pageOf_bound]
  exact hrun

/-- Documents going out of a typed schema can all be shown whole. -/
theorem outputs_ok (hs : s.schema.isTyped = true) (home : Home) (model : Value)
    (hdocs : ∀ doc ∈ docs, ∃ fields, doc = .object fields) :
    ∃ values, s.outputs home model .null docs = .ok values ∧ values.length = docs.length := by
  induction docs with
  | nil => exact ⟨[], rfl, rfl⟩
  | cons doc rest ih =>
    obtain ⟨⟨fields, rfl⟩, hrest⟩ := List.forall_mem_cons.1 hdocs
    obtain ⟨first, hfirst⟩ := output_ok hs home model fields
    obtain ⟨values, hvalues, hlength⟩ := ih hrest
    refine ⟨first :: values, ?_, congrArg Nat.succ hlength⟩
    rw [outputs, hfirst, hvalues]
    rfl

/-- Counting gathers the lengths of pages, and notes each. -/
theorem gathers_count (s : Session) :
    Gathers (fun total docs => do
        let total := total + docs.length
        s.note .count .debug ("page=" ++ toString docs.length ++ " total=" ++ toString total)
        return total)
      fun total docs => total + docs.length := by
  refine ⟨fun total docs m => ?_, Nat.add_zero, fun total first second => ?_⟩
  · obtain ⟨m', hrun, hserver⟩ := s.run_note_alone .count .debug
      ("page=" ++ toString docs.length ++ " total=" ++ toString (total + docs.length)) m
    exact ⟨m', run_bind_ok hrun, hserver⟩
  · rw [List.length_append, Nat.add_assoc]

/-- **A count is the length of the list.** -/
theorem run_count (hs : s.schema.isTyped = true) (hsize : 1 ≤ s.settings.pageSize)
    (hhome : ∃ stored, s.schema.modelName (.text model) = .ok stored ∧ home = s.homeOf stored)
    {filter : Value} {f : Filter} (hfilter : s.schema.filter (.text model) filter = .ok f)
    (hselector : s.selector home f = .ok selector)
    (hlists : (server.database home.database).Lists server.sortable selector .null [] docs)
    (hbudget : (server.database home.database).documents.length < s.pageBudget)
    (hdigits : (server.database home.database).documents.length < 10 ^ Text.digitLimit)
    (halike : server.Alike m.server) :
    ∃ m', (s.count (.text model) filter).run Memory.backend m = (.ok (.int docs.length), m') ∧
      server.Alike m'.server := by
  obtain ⟨m₁, hrun₁, halike₁⟩ := run_home hs model hhome m
  obtain ⟨shown, hshown⟩ := Database.restrict_names [.text "_id"] hlists.objects
  obtain ⟨m₂, hrun₂, halike₂⟩ := run_eachPage (gathers_count s) hsize hlists hshown hbudget hdigits
    (halike.trans halike₁) none none 0
  have hlength : 0 + (window 0 none shown).length = docs.length := by
    rw [Nat.zero_add, (Database.restrict_iff.1 hshown).length_eq]
    rfl
  refine ⟨m₂, ?_, halike₂⟩
  unfold count
  rw [run_bind_ok hrun₁, run_bind_lift hfilter, run_bind_lift hselector]
  refine (run_bind_ok (run_guarded_ok hrun₂ s .count (.text model))).trans ?_
  show (Except.ok (Value.int (0 + (window 0 none shown).length : Nat)), m₂) = _
  rw [hlength]

/-- A search without order and bounds scans everything that its selector matches, and if there were
    no index for that, would do so once more. -/
theorem run_findMany_whole (hs : s.schema.isTyped = true)
    (hhome : ∃ stored, s.schema.modelName (.text model) = .ok stored ∧ home = s.homeOf stored)
    {filter : Value} {f : Filter} (hfilter : s.schema.filter (.text model) filter = .ok f)
    (hselector : s.selector home f = .ok selector) (m : Memory) :
    ∃ (m' : Memory) (message : String) (sorted : List Value → Program (List Value)),
      m.server.Alike m'.server ∧
      (s.findMany (.text model) filter ⟨.null, .null, .null, .null⟩ .null).run Memory.backend m =
        (do
          let docs ← s.guarded .findMany (.text model) <|
            (s.collect home.database (.whole selector)).onRefusal .missingIndex do
              s.note .findMany .warning message
              let all ← s.collect home.database (.whole selector)
              sorted all
          return Value.list (← s.outputs home (.text model) .null docs) : Program Value).run
            Memory.backend m' := by
  obtain ⟨m₁, hrun₁, halike₁⟩ := run_home hs model hhome m
  obtain ⟨m₂, hrun₂, hserver₂⟩ := s.run_note_alone .findMany .debug
    ("model=" ++ (Value.text model).written ++ " selector=" ++ selector.shown ++ " sort=" ++
      (Value.list []).shown ++ " limit=" ++ Value.null.written ++ " offset=" ++
      Value.null.written) m₁
  refine ⟨m₂, "no usable index for " ++ (Value.list []).shown ++
      ", sorting in memory", fun all => do
    let ordered ←
      (orderDocuments [] (s.schema.fieldName (.text model)) all : Except Failure (List Value))
    (pageOf .null .null ordered : Except Failure (List Value)), by rwa [hserver₂], ?_⟩
  unfold findMany
  rw [run_bind_ok hrun₁, run_bind_lift hfilter, run_bind_lift hselector,
    run_bind_lift (show SortKey.ofOrder .null .null = .ok [] from rfl),
    run_bind_lift (show SortKey.requested (s.schema.fieldName (.text model)) [] = .ok [] from rfl)]
  exact run_bind_ok hrun₂

/-- **All matches are found**, each shown as callers see it. -/
theorem run_findMany (hs : s.schema.isTyped = true) (hsize : 1 ≤ s.settings.pageSize)
    (hhome : ∃ stored, s.schema.modelName (.text model) = .ok stored ∧ home = s.homeOf stored)
    {filter : Value} {f : Filter} (hfilter : s.schema.filter (.text model) filter = .ok f)
    (hselector : s.selector home f = .ok selector)
    (hlists : (server.database home.database).Lists server.sortable selector .null [] docs)
    (hbudget : (server.database home.database).documents.length < s.pageBudget)
    (hdigits : (server.database home.database).documents.length < 10 ^ Text.digitLimit)
    (halike : server.Alike m.server) {values : List Value}
    (hvalues : s.outputs home (.text model) .null docs = .ok values) :
    ∃ m', (s.findMany (.text model) filter ⟨.null, .null, .null, .null⟩ .null).run
          Memory.backend m = (.ok (.list values), m') ∧ server.Alike m'.server := by
  obtain ⟨m₁, _, _, halike₁, hrun₁⟩ := run_findMany_whole hs hhome hfilter hselector m
  obtain ⟨m₂, hrun₂, halike₂⟩ :=
    run_collect hsize hlists hbudget hdigits (halike.trans halike₁) none none
  rw [pageOf_bound] at hrun₂
  refine ⟨m₂, ?_, halike₂⟩
  rw [hrun₁]
  refine Eq.trans
    (run_bind_ok (run_guarded_ok (run_onRefusal_ok hrun₂ _ _) s .findMany (.text model))) ?_
  exact run_bind_lift hvalues _ m₂

/-! ## Failing scans -/

/-- A scan that asks at all fails at its first request, if all its requests would. -/
theorem run_eachPage_refused {β : Type} {step : β → List Value → Program β} {skip : Value}
    {limit : Option Nat}
    (h : ∀ defaultLimit asked bookmark,
      Database.answerQuery (server.database name).contents server.sortable defaultLimit
        ⟨selector, asked, skip, sort, bookmark, fields⟩ = .error e)
    (hlimit : limit ≠ some 0) (hbudget : 0 < s.pageBudget)
    (halike : server.Alike m.server) (acc : β) :
    ∃ m', (s.eachPage name ⟨selector, sort, skip, .bound limit, fields⟩ step acc).run
          Memory.backend m = (.error e, m') ∧ server.Alike m'.server := by
  have hwanted : ¬(Quota.bound limit).isSated = true :=
    fun h => hlimit ((Quota.isSated_bound limit).1 h)
  have hfuel : (Quota.bound limit).fuel s.pageBudget ≠ 0 := by
    cases limit with
    | none => exact Nat.ne_of_gt hbudget
    | some n => exact fun h0 => hlimit (congrArg some h0)
  obtain ⟨fuel, hfuel⟩ := Nat.exists_eq_succ_of_ne_zero hfuel
  obtain ⟨m', hfind, halike'⟩ := Memory.run_find_answer (h m.server.defaultLimit _ _) halike
  refine ⟨m', ?_, halike'⟩
  unfold eachPage
  rw [hfuel, Scan.visit, if_neg hwanted]
  exact run_bind_error hfind

/-- So nothing is collected. -/
theorem run_collect_refused {skip : Value} {limit : Option Nat}
    (h : ∀ defaultLimit asked bookmark,
      Database.answerQuery (server.database name).contents server.sortable defaultLimit
        ⟨selector, asked, skip, sort, bookmark, .null⟩ = .error e)
    (hlimit : limit ≠ some 0) (hbudget : 0 < s.pageBudget) (halike : server.Alike m.server) :
    ∃ m', (s.collect name ⟨selector, sort, skip, .bound limit, .null⟩).run Memory.backend m =
        (.error e, m') ∧
      server.Alike m'.server :=
  run_eachPage_refused h hlimit hbudget halike []

/-- A scan of everything fails as matching does, whatever is done with its pages. -/
theorem run_eachPage_fails {β : Type} {step : β → List Value → Program β}
    (h : Database.matching selector (server.database name).contents = .error e)
    (hbudget : 0 < s.pageBudget) (halike : server.Alike m.server) (fields : Value) (acc : β) :
    ∃ m', (s.eachPage name ⟨selector, .null, .null, .unlimited, fields⟩ step acc).run
          Memory.backend m = (.error e, m') ∧ server.Alike m'.server := by
  have hlimit : (none : Option Nat) ≠ some 0 := nofun
  refine run_eachPage_refused (fun defaultLimit asked bookmark => ?_) hlimit hbudget halike acc
  exact Database.answerQuery_fails rfl (.inr ⟨Database.checkIndex_nil server.sortable, h⟩)
    defaultLimit asked .null bookmark fields

/-- So the matches are not collected. -/
theorem run_collect_fails
    (h : Database.matching selector (server.database name).contents = .error e)
    (hbudget : 0 < s.pageBudget) (halike : server.Alike m.server) :
    ∃ m', (s.collect name (.whole selector)).run Memory.backend m = (.error e, m') ∧
      server.Alike m'.server :=
  run_eachPage_fails h hbudget halike .null []

/-- A search for all matches fails as matching does. -/
theorem run_findMany_fails (hs : s.schema.isTyped = true)
    (hhome : ∃ stored, s.schema.modelName (.text model) = .ok stored ∧ home = s.homeOf stored)
    {filter : Value} {f : Filter} (hfilter : s.schema.filter (.text model) filter = .ok f)
    (hselector : s.selector home f = .ok selector)
    (h : Database.matching selector (server.database home.database).contents = .error e)
    (hbudget : 0 < s.pageBudget) (halike : server.Alike m.server) :
    ∃ m', (s.findMany (.text model) filter ⟨.null, .null, .null, .null⟩ .null).run
          Memory.backend m = (.error e, m') ∧ server.Alike m'.server := by
  obtain ⟨m₁, message, sorted, halike₁, hrun₁⟩ := run_findMany_whole hs hhome hfilter hselector m
  obtain ⟨m₂, hrun₂, halike₂⟩ := run_collect_fails h hbudget (halike.trans halike₁)
  obtain ⟨m₃, hnote, hserver₃⟩ := s.run_note_alone .findMany .warning message m₂
  have halike₃ : server.Alike m₃.server := by rwa [hserver₃]
  obtain ⟨m₄, hrun₄, halike₄⟩ := run_collect_fails h hbudget halike₃
  -- A missing index is tried again without an order, and then the same failure comes once more.
  have hsearch : ∃ m', ((s.collect home.database (.whole selector)).onRefusal .missingIndex do
      s.note .findMany .warning message
      let all ← s.collect home.database (.whole selector)
      sorted all).run Memory.backend m₁ = (.error e, m') ∧ server.Alike m'.server := by
    rw [run_onRefusal, hrun₂]
    dsimp only
    split
    · exact ⟨m₄, (run_bind_ok hnote).trans (run_bind_error hrun₄), halike₄⟩
    · exact ⟨m₂, rfl, halike₂⟩
  obtain ⟨m₅, hrun₅, halike₅⟩ := hsearch
  obtain ⟨m₆, hrun₆, hserver₆⟩ := run_guarded_alone hrun₅ s .findMany (.text model)
  exact ⟨m₆, hrun₁.trans (run_bind_error hrun₆), by rwa [hserver₆]⟩

/-- The selector of a plain filter tells every document, also when it is narrowed to a home. -/
theorem told_of_isPlain {f : Filter} (hf : f.isPlain = true) {key : String}
    (hkey : s.idKey = .text key) (hid : Selector.isCombinator key = false)
    (htag : ∀ field, home.tagField = some field → Selector.isCombinator field = false)
    (hmodel : ∃ stored, home.model = .text stored) (hselector : s.selector home f = .ok selector)
    (doc : Value) : ∃ answer, Selector.test selector doc = .ok answer := by
  obtain ⟨unscoped, hunscoped, htest⟩ := Filter.selector_means hid f hf
  obtain ⟨stored, hstored⟩ := hmodel
  have hscope : home.scope unscoped = selector := by
    rw [Session.selector, hkey, hunscoped] at hselector
    exact Except.ok.inj hselector
  -- Narrowing joins an equality with a text, and telling that never fails.
  rw [← hscope, Home.scope]
  cases hfield : home.tagField with
  | none => exact ⟨_, htest doc⟩
  | some field =>
    have htagged : Selector.test (.object [(field, home.model)]) doc =
        .ok ((doc.at? field).any fun v => v.equals home.model) := by
      rw [Selector.test_field (htag field hfield), hstored]
      rfl
    show ∃ answer, Selector.test (unscoped.narrow (.object [(field, home.model)])) doc = .ok answer
    rw [Selector.test_narrow (htest doc), htagged]
    split
    · exact ⟨_, rfl⟩
    · exact ⟨_, rfl⟩

end Session

end DocStore
