/-
  Operations that read: one document, all that match, and how many there are.

  A filter that is exactly one identifier is looked up directly; the document found has to be the
  model's own.  Every other filter goes by its selector.

  `findMany` lets the store order and page.  A store without an index for the order refuses; then
  all matches are fetched and ordered and paged here, with the same outcome.
-/
import DocStore.Order.Sort
import DocStore.Session.Scan

namespace DocStore.Session

/-- The document that a filter finds first, if any. -/
def lookUp (s : Session) (home : Home) (model : Value) (filter : Filter) :
    Program (Option Value) := do
  match ← (filter.identifier : Except Failure (Option String)) with
  | some id => do
    s.note .findOne .debug ("model=" ++ model.written ++ " get " ++ id)
    let found : Program (Option Value) := do
      return some (← Program.send (.get home.database (.text id)))
    match ← found.onRefusal .notFound (return none) with
    | some doc => if ← home.owns doc then return some doc else return none
    | none => return none
  | none => do
    let selector ← s.selector home filter
    s.note .findOne .debug ("model=" ++ model.written ++ " selector=" ++ selector.shown)
    let page ← Program.send (.find home.database (firstOnly selector))
    return page.docs.head?

/-- The first document that matches, or null. -/
def findOne (s : Session) (model filter select : Value) : Program Value := do
  let home ← s.home model
  let filter ← (s.schema.filter model filter : Except Failure Filter)
  match ← s.guarded .findOne model (s.lookUp home model filter) with
  | some doc => s.output home model select doc
  | none => return .null

/-- How the documents of a search are ordered and paged, as a caller gives it. -/
structure Paging where
  limit : Value
  offset : Value
  orderBy : Value
  sortBy : Value
  deriving Repr, Inhabited

/-- Documents as callers see them. -/
def outputs (s : Session) (home : Home) (model select : Value) :
    List Value → Except Failure (List Value)
  | [] => .ok []
  | doc :: rest => do
    let first ← s.output home model select doc
    return first :: (← outputs s home model select rest)

/-- The documents that match, ordered and paged. -/
def findMany (s : Session) (model filter : Value) (paging : Paging) (select : Value) :
    Program Value := do
  let home ← s.home model
  let filter ← (s.schema.filter model filter : Except Failure Filter)
  let selector ← s.selector home filter
  let keys ← (SortKey.ofOrder paging.orderBy paging.sortBy : Except Failure (List SortKey))
  let fieldName := s.schema.fieldName model
  let sort := Value.list (← (SortKey.requested fieldName keys : Except Failure (List Value)))
  s.note .findMany .debug
    ("model=" ++ model.written ++ " selector=" ++ selector.shown ++ " sort=" ++ sort.shown ++
      " limit=" ++ paging.limit.written ++ " offset=" ++ paging.offset.written)
  let docs ← s.guarded .findMany model do
    let quota ← (Quota.ofValue paging.limit : Except Failure Quota)
    let served := s.collect home.database
      ⟨selector, if keys.isEmpty then .null else sort, paging.offset, quota, .null⟩
    served.onRefusal .missingIndex do
      s.note .findMany .warning ("no usable index for " ++ sort.shown ++ ", sorting in memory")
      let all ← s.collect home.database (.whole selector)
      let ordered ← (orderDocuments keys fieldName all : Except Failure (List Value))
      (pageOf paging.offset paging.limit ordered : Except Failure (List Value))
  return .list (← s.outputs home model select docs)

/-- How many documents match. -/
def count (s : Session) (model filter : Value) : Program Value := do
  let home ← s.home model
  let filter ← (s.schema.filter model filter : Except Failure Filter)
  let selector ← s.selector home filter
  let total ← s.guarded .count model <|
    s.eachPage home.database
      { Scan.whole selector with fields := .list [.text "_id"] }
      (fun total docs => do
        let total := total + docs.length
        s.note .count .debug
          ("page=" ++ toString docs.length ++ " total=" ++ toString total)
        return total)
      0
  return .int (total : Nat)

end DocStore.Session
