/-
  Scans: all documents of a selector, page by page.

  A store answers with pages, and each page brings the bookmark at which the next one begins.  A
  scan follows the bookmarks until a page is empty or has none, or until it has as many documents as
  it was limited to.  What is to be skipped is named once, with the first request, because bookmarks
  count from the beginning.

  How many documents are still wanted is a `Quota`.  Callers limit a scan by a whole number as a
  rule; a switch counts as one document or none, and a number with a fraction is used up like any
  other.  Whatever is smaller, the page size or the quota, is what the store is asked for, as it was
  given.

  A scan with a whole limit asks at most as often as its limit, since every page but the last brings
  at least one document; so the limit bounds it, whatever the store does.  Any other scan is bounded
  by the page budget of the session.
-/
import DocStore.Session.Basic

namespace DocStore

/-- How many documents are still wanted. -/
inductive Quota where
  /-- All there are. -/
  | unlimited
  /-- So many. -/
  | whole (n : Int)
  /-- One or none. -/
  | switch (on : Bool)
  /-- A number with a fraction. -/
  | fraction (d : Double)
  deriving DecidableEq, Repr, Inhabited

namespace Quota

/-- The quota that a caller gives; null sets none. -/
def ofValue : Value → Except Failure Quota
  | .null => .ok .unlimited
  | .int n => .ok (.whole n)
  | .bool on => .ok (.switch on)
  | .double d => .ok (.fraction d)
  | .infinity negative => .ok (if negative then .whole 0 else .unlimited)
  | .nan => .ok (.whole 0)
  | _ => .error .wrongKind

/-- Whether no more documents are wanted. -/
def isSated : Quota → Bool
  | .unlimited => false
  | .whole n => n ≤ 0
  | .switch on => !on
  | .fraction d => d.units ≤ 0

/-- What a store that serves pages of a given size is asked for. -/
def request (pageSize : Int) : Quota → Value
  | .unlimited => .int pageSize
  | .whole n => .int (min pageSize n)
  | .switch on => if (if on then 1 else 0) < pageSize then .bool on else .int pageSize
  | .fraction d =>
    if d.units < pageSize * Double.unitsPerOne then .double d else .int pageSize

/-- What is still wanted after some documents have come. -/
def less (received : Nat) : Quota → Quota
  | .unlimited => .unlimited
  | .whole n => .whole (n - received)
  | .switch on => .whole ((if on then 1 else 0) - received)
  | .fraction d => .fraction (d.less received)

/-- How often a scan may ask. -/
def fuel (budget : Nat) : Quota → Nat
  | .whole n => n.toNat
  | _ => budget

end Quota

/-- What a scan asks for. -/
structure Scan where
  selector : Value
  sort : Value
  skip : Value
  limit : Quota
  fields : Value
  deriving Repr, Inhabited

namespace Scan

/-- A scan of everything that a selector matches. -/
def whole (selector : Value) : Scan := ⟨selector, .null, .null, .unlimited, .null⟩

/-- The query for the next page, when `remaining` documents are still wanted. -/
def query (scan : Scan) (pageSize : Int) (remaining : Quota) (bookmark : Value) : Query where
  selector := scan.selector
  limit := remaining.request pageSize
  skip := if bookmark.truthy then .null else scan.skip
  sort := scan.sort
  bookmark := bookmark
  fields := scan.fields

/-- Visits the pages of a scan one after the other, asking at most `fuel` times. -/
def visit {β : Type} (database : Value) (pageSize : Int) (scan : Scan)
    (step : β → List Value → Program β) : Nat → Quota → Value → β → Program β
  | 0, remaining, _, acc => if remaining.isSated then .done acc else .fail .outOfPages
  | fuel + 1, remaining, bookmark, acc =>
    if remaining.isSated then .done acc
    else do
      let page ← Program.send (.find database (scan.query pageSize remaining bookmark))
      if page.docs.isEmpty then return acc
      else
        let acc ← step acc page.docs
        if page.bookmark.truthy then
          visit database pageSize scan step fuel (remaining.less page.docs.length) page.bookmark acc
        else return acc

end Scan

namespace Session

/-- Visits the pages of a scan. -/
def eachPage {β : Type} (s : Session) (database : Value) (scan : Scan)
    (step : β → List Value → Program β) (acc : β) : Program β :=
  Scan.visit database s.settings.pageSize scan step
  (scan.limit.fuel s.pageBudget) scan.limit .null acc

/-- All documents of a scan. -/
def collect (s : Session) (database : Value) (scan : Scan) : Program (List Value) :=
  s.eachPage database scan (fun acc docs => return acc ++ docs) []

end Session

end DocStore
