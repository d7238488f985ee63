/-
  Limited scans end, whatever the server does.

  A server may repeat its bookmarks, send short pages, or never be done.  A scan with a limit relies
  on none of this: every page that it goes on from has brought a document, so what is still wanted
  goes down with every request, and the scan ends after as many requests as documents were wanted,
  at the latest.

  1. **Rounds** — the rounds of a scan, a query with its page each, are described without the
     program: from what is still wanted and the bookmark, the next query follows (`Rounds`).  A scan
     that may ask as often as documents are wanted exchanges such rounds with the server
     (`visit_rounds`), and how often it may ask beyond that makes no difference.

  2. **What rounds say** — there are no more than documents wanted (`Rounds.length_le`), each
     carries the bookmark of the one before (`Rounds.query_eq`), they go on as long as they can
     (`Rounds.ends`), and they bring no more than wanted if no page is longer than asked for
     (`Rounds.received_le`).

  Together these are `limited_scan_bounded`.
-/
import DocStore.Proofs.Store.Program
import DocStore.Proofs.Session.Home
import DocStore.Session.Scan

namespace DocStore

/-- A server that answers every query to a database with a page, whatever page that is. -/
def Backend.Serves {σ : Type} (backend : Backend σ) (database : Value) : Prop :=
  ∀ query s, ∃ page s', backend.answer (.find database query) s = (.ok page, s')

namespace Scan

variable {σ : Type} {backend : Backend σ} {database : Value} {scan : Scan} {pageSize wanted : Int}
  {bookmark : Value} {rounds : List (Query × Page)}

/-! ## Rounds -/

/-- Whether a page has documents and a bookmark, so that a scan may go on from it. -/
def GoesOn (page : Page) : Prop := page.docs ≠ [] ∧ page.bookmark.truthy = true

/-- The rounds of a scan, when so many documents are wanted and the first query carries the
    bookmark. -/
inductive Rounds (scan : Scan) (pageSize : Int) : Int → Value → List (Query × Page) → Prop
  | sated {wanted : Int} {bookmark : Value} (h : wanted ≤ 0) :
      Rounds scan pageSize wanted bookmark []
  | last {wanted : Int} {bookmark : Value} {page : Page} (h : 0 < wanted) (hpage : ¬GoesOn page) :
      Rounds scan pageSize wanted bookmark [(scan.query pageSize (.whole wanted) bookmark, page)]
  | next {wanted : Int} {bookmark : Value} {page : Page} {rest : List (Query × Page)}
      (h : 0 < wanted) (hpage : GoesOn page)
      (hrest : Rounds scan pageSize (wanted - page.docs.length) page.bookmark rest) :
      Rounds scan pageSize wanted bookmark
        ((scan.query pageSize (.whole wanted) bookmark, page) :: rest)

/-- The pages of some rounds that have documents. -/
def filled (rounds : List (Query × Page)) : List (List Value) :=
  (rounds.map fun round => round.2.docs).filter fun docs => !docs.isEmpty

/-- Whether a scan goes through some rounds and ends in a state, whoever takes the pages. -/
def GoesThrough (backend : Backend σ) (database : Value) (scan : Scan) (pageSize : Int)
    (fuel : Nat) (wanted : Int) (bookmark : Value) (s : σ) (rounds : List (Query × Page))
    (s' : σ) : Prop :=
  ∀ {β : Type} (gather : β → List Value → β) (acc : β),
    let p := visit database pageSize scan (fun acc docs => return gather acc docs) fuel
      (.whole wanted) bookmark acc
    p.exchanges backend s = rounds.map (fun round => ⟨.find database round.1, .ok round.2⟩) ∧
      p.run backend s = (.ok ((filled rounds).foldl gather acc), s')

/-- A scan that is not sated asks for a page, and what it does then depends on the page. -/
theorem visit_asks {β : Type} {page : Page} {s s₁ : σ} (hwanted : 0 < wanted)
    (hanswer : backend.answer (.find database (scan.query pageSize (.whole wanted) bookmark)) s =
      (.ok page, s₁))
    (gather : β → List Value → β) (acc : β) (fuel : Nat) :
    let gathering := fun acc docs => (return gather acc docs : Program β)
    let p := visit database pageSize scan gathering (fuel + 1) (.whole wanted) bookmark acc
    let rest : Program β :=
      if page.docs.isEmpty then .done acc
      else if page.bookmark.truthy then
        visit database pageSize scan gathering fuel
          (.whole (wanted - page.docs.length)) page.bookmark (gather acc page.docs)
      else .done (gather acc page.docs)
    p.exchanges backend s =
        ⟨.find database (scan.query pageSize (.whole wanted) bookmark),
          .ok page⟩ :: rest.exchanges backend s₁ ∧
      p.run backend s = rest.run backend s₁ := by
  have hunsated : ¬(Quota.whole wanted).isSated = true := by
    simp only [Quota.isSated, decide_eq_true_eq]
    omega
  have hsend := Program.run_send backend
    (.find database (scan.query pageSize (.whole wanted) bookmark)) s
  rw [hanswer] at hsend
  dsimp only
  rw [visit, if_neg hunsated, Program.exchanges_send_bind hanswer, Program.run_bind_ok hsend]
  exact ⟨rfl, rfl⟩

/-- **One round**: a scan that is not sated goes on from the page that it asks for, or ends with
    it. -/
theorem goesThrough_cons {fuel : Nat} {page : Page} {s s₁ s' : σ} (hwanted : 0 < wanted)
    (hanswer : backend.answer (.find database (scan.query pageSize (.whole wanted) bookmark)) s =
      (.ok page, s₁))
    (hrest : GoesOn page →
      GoesThrough backend database scan pageSize fuel
        (wanted - page.docs.length) page.bookmark s₁ rounds s')
    (hend : ¬GoesOn page → rounds = [] ∧ s' = s₁) :
    GoesThrough backend database scan pageSize (fuel + 1) wanted bookmark s
      ((scan.query pageSize (.whole wanted) bookmark, page) :: rounds) s' := by
  intro β gather acc
  obtain ⟨hexchanges, hrun⟩ := visit_asks hwanted hanswer gather acc fuel
  dsimp only at hexchanges hrun ⊢
  rw [hexchanges, hrun, List.map_cons]
  by_cases hdocs : page.docs.isEmpty = true
  · obtain ⟨rfl, rfl⟩ := hend fun hgoes => hgoes.1 (List.isEmpty_iff.1 hdocs)
    have hfilled : filled [(scan.query pageSize (.whole wanted) bookmark, page)] = [] := by
      simpa [filled] using hdocs
    rw [if_pos hdocs, hfilled]
    exact ⟨rfl, rfl⟩
  · have hfilled : filled ((scan.query pageSize (.whole wanted) bookmark, page) :: rounds) =
        page.docs :: filled rounds := by
      rw [filled, List.map_cons, List.filter_cons_of_pos (by simpa using hdocs), filled]
    rw [if_neg hdocs, hfilled, List.foldl_cons]
    by_cases hbookmark : page.bookmark.truthy = true
    · obtain ⟨hexchanges, hrun⟩ :=
        hrest ⟨by simpa using hdocs, hbookmark⟩ gather (gather acc page.docs)
      rw [if_pos hbookmark, ← hexchanges, ← hrun]
      exact ⟨rfl, rfl⟩
    · obtain ⟨rfl, rfl⟩ := hend fun hgoes => hbookmark hgoes.2
      rw [if_neg hbookmark]
      exact ⟨rfl, rfl⟩

theorem goesThrough_sated {fuel : Nat} {s : σ} (h : wanted ≤ 0) :
    GoesThrough backend database scan pageSize fuel wanted bookmark s [] s := by
  intro β gather acc
  have hsated : (Quota.whole wanted).isSated = true := by simpa [Quota.isSated] using h
  cases fuel with
  | zero =>
    rw [visit, if_pos hsated]
    exact ⟨rfl, rfl⟩
  | succ fuel =>
    rw [visit, if_pos hsated]
    exact ⟨rfl, rfl⟩

/-- **A limited scan goes through rounds and ends**, the same however often it may ask, if that is
    as often as documents are wanted. -/
theorem visit_rounds (hserves : backend.Serves database) (scan : Scan)
    (pageSize : Int) (bound : Nat) :
    ∀ (wanted : Int) (bookmark : Value) (s : σ), wanted.toNat ≤ bound →
      ∃ rounds s', Rounds scan pageSize wanted bookmark rounds ∧ ∀ fuel, wanted.toNat ≤ fuel →
        GoesThrough backend database scan pageSize fuel wanted bookmark s rounds s' := by
  -- A page that the scan goes on from has brought a document, so less is wanted: the server has no
  -- say in that.
  induction bound with
  | zero =>
    intro wanted bookmark s hbound
    have hwanted : wanted ≤ 0 := by omega
    exact ⟨[], s, .sated hwanted, fun _ _ => goesThrough_sated hwanted⟩
  | succ bound ih =>
    intro wanted bookmark s hbound
    by_cases hwanted : wanted ≤ 0
    · exact ⟨[], s, .sated hwanted, fun _ _ => goesThrough_sated hwanted⟩
    · have hwanted : 0 < wanted := by omega
      obtain ⟨page, s₁, hanswer⟩ := hserves (scan.query pageSize (.whole wanted) bookmark) s
      have hmay : ∀ fuel, wanted.toNat ≤ fuel → ∃ left, fuel = left + 1 :=
        fun fuel hfuel => Nat.exists_eq_add_one_of_ne_zero (by omega)
      by_cases hgoes : GoesOn page
      · have hlength : 1 ≤ page.docs.length := List.length_pos_iff.2 hgoes.1
        obtain ⟨rounds, s', hrounds, hthrough⟩ :=
          ih (wanted - page.docs.length) page.bookmark s₁ (by omega)
        refine ⟨_, s', .next hwanted hgoes hrounds, fun fuel hfuel => ?_⟩
        obtain ⟨left, rfl⟩ := hmay fuel hfuel
        exact goesThrough_cons hwanted hanswer (fun _ => hthrough left (by omega)) (absurd hgoes)
      · refine ⟨_, s₁, .last hwanted hgoes, fun fuel hfuel => ?_⟩
        obtain ⟨left, rfl⟩ := hmay fuel hfuel
        exact goesThrough_cons hwanted hanswer (fun h => absurd h hgoes) fun _ => ⟨rfl, rfl⟩

/-! ## What rounds say -/

/-- The documents that some rounds have brought, in order. -/
def received (rounds : List (Query × Page)) : List Value := rounds.flatMap fun round => round.2.docs

theorem length_received_cons (asked : Query) (page : Page) (rest : List (Query × Page)) :
    (received ((asked, page) :: rest)).length = page.docs.length + (received rest).length := by
  rw [received, List.flatMap_cons, List.length_append, received]

/-- **There are no more rounds than documents wanted.** -/
theorem Rounds.length_le (h : Rounds scan pageSize wanted bookmark rounds) :
    rounds.length ≤ wanted.toNat := by
  induction h with
  | sated => exact Nat.zero_le _
  | last h =>
    rw [List.length_singleton]
    omega
  | next h hpage _ ih =>
    have hlength := List.length_pos_iff.2 hpage.1
    rw [List.length_cons]
    omega

/-- The bookmark that a round carries: that of the page before it. -/
def cursor (bookmark : Value) (rounds : List (Query × Page)) : Nat → Value
  | 0 => bookmark
  | i + 1 => (rounds[i]?.map fun round => round.2.bookmark).getD .null

/-- **Each round asks for what is still wanted**, behind the page before it. -/
theorem Rounds.query_eq (h : Rounds scan pageSize wanted bookmark rounds) {i : Nat}
    {round : Query × Page} (hround : rounds[i]? = some round) :
    round.1 = scan.query pageSize (.whole (wanted - (received (rounds.take i)).length))
      (cursor bookmark rounds i) := by
  induction h generalizing i with
  | sated => simp at hround
  | last =>
    cases i with
    | zero =>
      obtain rfl := Option.some.inj hround
      simp [received, cursor]
    | succ i => simp at hround
  | @next wanted bookmark page rest _ _ _ ih =>
    cases i with
    | zero =>
      obtain rfl := Option.some.inj hround
      simp [received, cursor]
    | succ i =>
      have hquery := ih (by simpa using hround)
      have hreceived :
          (wanted - (received (((scan.query pageSize (.whole wanted) bookmark, page) :: rest).take
              (i + 1))).length : Int) =
            wanted - page.docs.length - (received (rest.take i)).length := by
        rw [List.take_succ_cons, length_received_cons]
        omega
      rw [hquery, hreceived]
      cases i <;> rfl

/-- The pages that rounds follow on have a bookmark. -/
theorem Rounds.goesOn (h : Rounds scan pageSize wanted bookmark rounds) {i : Nat}
    {round next : Query × Page} (hround : rounds[i]? = some round)
    (hnext : rounds[i + 1]? = some next) : GoesOn round.2 := by
  induction h generalizing i with
  | sated => simp at hround
  | last => simp at hnext
  | next _ hpage _ ih =>
    cases i with
    | zero =>
      obtain rfl := Option.some.inj hround
      exact hpage
    | succ i => exact ih (by simpa using hround) (by simpa using hnext)

/-- **Rounds go on as long as they can**: until all that was wanted has come, or a page has nothing
    to go on from. -/
theorem Rounds.ends (h : Rounds scan pageSize wanted bookmark rounds) :
    wanted ≤ (received rounds).length ∨ ∃ round, rounds.getLast? = some round ∧
      ¬GoesOn round.2 := by
  induction h with
  | sated h => exact .inl (by omega)
  | last _ hpage => exact .inr ⟨_, rfl, hpage⟩
  | @next wanted bookmark page rest _ _ _ ih =>
    rcases ih with hwanted | ⟨round, hlast, hpage⟩
    · left
      rw [length_received_cons]
      omega
    · refine .inr ⟨round, ?_, hpage⟩
      rw [List.getLast?_cons, hlast]
      rfl

/-- **Rounds bring no more than wanted**, if no page is longer than asked for. -/
theorem Rounds.received_le (h : Rounds scan pageSize wanted bookmark rounds)
    (hasked : ∀ round ∈ rounds, ∀ n : Int, round.1.limit = .int n →
      (round.2.docs.length : Int) ≤ n) :
    (received rounds).length ≤ wanted.toNat := by
  induction h with
  | sated => exact Nat.zero_le _
  | @last wanted bookmark page h =>
    have hfirst : (page.docs.length : Int) ≤ min pageSize wanted :=
      hasked _ List.mem_cons_self _ rfl
    rw [length_received_cons, show (received []).length = 0 from rfl]
    omega
  | @next wanted bookmark page rest h _ _ ih =>
    obtain ⟨hfirst, hrest⟩ := List.forall_mem_cons.1 hasked
    have hfirst : (page.docs.length : Int) ≤ min pageSize wanted := hfirst _ rfl
    have hrest := ih hrest
    rw [length_received_cons]
    omega

theorem flatten_filled (rounds : List (Query × Page)) :
    (filled rounds).flatten = received rounds := by
  rw [filled, List.flatten_filter_not_isEmpty, received, List.flatMap_def]

end Scan

namespace Session

open Scan

/-- **A limited scan ends, whatever the server does.**  Against any server that answers queries with
    pages, and whoever takes the pages, the scan goes through rounds of a query and a page each, and
    ends.  It yields the pages of the replies in order, those without documents aside, and so all
    documents of the replies in order.  There are no more rounds than documents wanted, and that is
    not because it may not ask more often.  The first query carries what is to be skipped and no
    bookmark, every later one skips nothing and carries the bookmark of the reply before it, and
    each asks for what fits on a page or is still wanted.  It goes on as long as it can, and if no
    reply is longer than asked for, no more documents come than were wanted. -/
theorem limited_scan_bounded {σ : Type} {s : Session} {backend : Backend σ} {database : Value}
    (hserves : backend.Serves database) (selector sort skip fields : Value) (limit : Nat) (st : σ) :
    let scan : Scan := ⟨selector, sort, skip, .whole limit, fields⟩
    ∃ (rounds : List (Query × Page)) (st' : σ),
      (∀ {β : Type} (gather : β → List Value → β) (acc : β),
        let p := s.eachPage database scan (fun acc docs => return gather acc docs) acc
        p.exchanges backend st = rounds.map (fun round => ⟨.find database round.1, .ok round.2⟩) ∧
          p.run backend st = (.ok ((filled rounds).foldl gather acc), st')) ∧
      (s.collect database scan).run backend st = (.ok (received rounds), st') ∧
      rounds.length ≤ limit ∧
      (∀ fuel, limit ≤ fuel →
        GoesThrough backend database scan s.settings.pageSize fuel limit .null st rounds st') ∧
      (∀ first, rounds[0]? = some first →
        first.1 = ⟨selector, .int (min s.settings.pageSize limit), skip, sort, .null, fields⟩) ∧
      (∀ i round next, rounds[i]? = some round → rounds[i + 1]? = some next →
        GoesOn round.2 ∧ next.1 = ⟨selector,
          .int (min s.settings.pageSize (limit - (received (rounds.take (i + 1))).length)),
          .null, sort, round.2.bookmark, fields⟩) ∧
      (limit ≤ (received rounds).length ∨ ∃ round, rounds.getLast? = some round ∧ ¬GoesOn round.2) ∧
      ((∀ round ∈ rounds, ∀ n : Int, round.1.limit = .int n → (round.2.docs.length : Int) ≤ n) →
        (received rounds).length ≤ limit) := by
  intro scan
  obtain ⟨rounds, st', hrounds, hthrough⟩ :=
    visit_rounds hserves scan s.settings.pageSize limit limit .null st (Nat.le_refl limit)
  have hcollect : (s.collect database scan).run backend st =
      (.ok ((filled rounds).foldl (· ++ ·) []), st') :=
    (hthrough limit (Nat.le_refl limit) (fun acc docs => acc ++ docs) []).2
  have hflatten : (filled rounds).foldl (· ++ ·) [] = received rounds := by
    rw [← flatten_filled, ← List.flatMap_id, List.flatMap_eq_foldl]
    rfl
  refine ⟨rounds, st', fun gather acc => hthrough limit (Nat.le_refl limit) gather acc,
    hflatten ▸ hcollect, hrounds.length_le, hthrough, fun first hfirst => ?_,
    fun i round next hround hnext => ?_, ?_, fun hasked => ?_⟩
  · rw [hrounds.query_eq hfirst]
    simp [query, received, cursor, Quota.request, Value.truthy, scan]
  · have hgoes := hrounds.goesOn hround hnext
    have hcursor : cursor .null rounds (i + 1) = round.2.bookmark := by
      rw [cursor, hround]
      rfl
    refine ⟨hgoes, ?_⟩
    rw [hrounds.query_eq hnext, hcursor, query, if_pos hgoes.2]
    rfl
  · exact hrounds.ends.imp_left fun h => by omega
  · exact hrounds.received_le hasked

end Session

/-- A server that gives one and the same page for every query, with one and the same bookmark. -/
def Backend.repeating (page : Page) : Backend Unit where
  answer request s :=
    match request with
    | .find .. => (.ok page, s)
    | _ => (.error .wrongKind, s)
  note _ s := s

namespace Session

open Scan

/-- A scan for three documents against a server that sends the same two for ever: it asks twice, for
    two and then for the one that is still wanted, and ends with the four that have come. -/
theorem limited_scan_bounded_repeating :
    let page : Page := ⟨[.text "a", .text "b"], .text "again", .null⟩
    let s : Session := { standard with settings := { standard.settings with pageSize := 2 } }
    let scan : Scan := ⟨.null, .null, .int 5, .whole 3, .null⟩
    (Backend.repeating page).Serves (.text "app_auth") ∧
      (s.collect (.text "app_auth") scan).run (.repeating page) () =
        (.ok [.text "a", .text "b", .text "a", .text "b"], ()) ∧
      ∃ rounds : List (Query × Page), rounds.length ≤ 3 ∧
        rounds.map (fun round => Request.find (.text "app_auth") round.1) =
          [.find (.text "app_auth") ⟨.null, .int 2, .int 5, .null, .null, .null⟩,
            .find (.text "app_auth") ⟨.null, .int 1, .null, .null, .text "again", .null⟩] ∧
        received rounds = [.text "a", .text "b", .text "a", .text "b"] := by
  intro page s scan
  have hserves : (Backend.repeating page).Serves (.text "app_auth") := fun _ st => ⟨page, st, rfl⟩
  have hcollect : (s.collect (.text "app_auth") scan).run (.repeating page) () =
      (.ok [.text "a", .text "b", .text "a", .text "b"], ()) := rfl
  obtain ⟨rounds, _, hgathers, hdocs, hlength, _⟩ :=
    limited_scan_bounded (s := s) hserves .null .null (.int 5) .null 3 ()
  have hrequests := congrArg (List.map Exchange.request) (hgathers (fun (acc : Unit) _ => acc) ()).1
  rw [List.map_map] at hrequests
  have hflat := Except.ok.inj (congrArg Prod.fst (hdocs.symm.trans hcollect))
  exact ⟨hserves, hcollect, rounds, hlength, hrequests.symm, hflat⟩

end Session

end DocStore
