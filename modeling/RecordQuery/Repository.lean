import RecordQuery.Queryable

/-! Ways to fetch single records, lists and pages from a source. Requests are planned under the
limits of the repository; pages count from 1. -/
namespace RecordQuery

structure Repository (m : Type → Type) (q : Type) where
  source : m q
  limits : Limits

namespace Repository

variable {m : Type → Type} {q α : Type} [Monad m] [Queryable m q α]

/-- The source, filtered and ordered as far as asked for. -/
def narrowed (repo : Repository m q) (filter : Option Filter) (order : Option (List SortKey)) :
    ExceptT SourceError m q := do
  let query ← (repo.source : m q)
  let query ← filterWith query filter
  match order with
  | some keys => Queryable.order query keys
  | none => return query

/-- The source as a request and another filter have it. -/
def requested (repo : Repository m q) (request : Request) (filter : Option Filter) :
    ExceptT FetchError m q := do
  match request.plan repo.limits default with
  | .error e => throw (.request e)
  | .ok plan =>
    let query ← (repo.source : m q)
    let query ← fromSource (applyPlan query plan)
    fromSource (filterWith query filter)

def get (repo : Repository m q) (filter : Filter) : ExceptT SourceError m (Option α) := do
  let query ← (repo.source : m q)
  let query ← Queryable.filter query filter
  let query ← (Queryable.take query 1 : m q)
  let rows ← Queryable.list query
  return rows.head?

def getList (repo : Repository m q) (filter : Option Filter) (order : Option (List SortKey))
    (size : Option UInt64) : ExceptT SourceError m (List α) := do
  let query ← repo.narrowed filter order
  let query ← (takeUpTo query size : m q)
  Queryable.list query

def getPage (repo : Repository m q) (filter : Option Filter) (order : Option (List SortKey))
    (index size : UInt64) : ExceptT FetchError m (Page α) := do
  let page := PageRequest.oneBased index size
  let _ ← (pageOffset page : ExceptT FetchError m UInt64)
  let query ← fromSource (repo.narrowed filter order)
  paginate query page

/-- The records of a request that match another filter too, up to a number. -/
def getRequested (repo : Repository m q) (request : Request) (filter : Option Filter)
    (size : Option UInt64) : ExceptT FetchError m (List α) := do
  let query ← repo.requested request filter
  let query ← (takeUpTo query size : m q)
  fromSource (Queryable.list query)

def getRequestedPage (repo : Repository m q) (request : Request) (filter : Option Filter)
    (index size : UInt64) : ExceptT FetchError m (Page α) := do
  let page := PageRequest.oneBased index size
  let _ ← (pageOffset page : ExceptT FetchError m UInt64)
  let query ← repo.requested request filter
  paginate query page

end Repository

end RecordQuery
