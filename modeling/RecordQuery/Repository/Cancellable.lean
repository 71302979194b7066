import RecordQuery.Repository

/-! The ways to fetch from a repository in a form that can be cancelled. Whether a fetch has been
cancelled is asked before records are counted or listed; what is wrong with the arguments comes out
all the same. -/
namespace RecordQuery.Repository

variable {m : Type → Type} {q α : Type} [Monad m] [Queryable m q α]

def getUnless (cancelled : m Bool) (repo : Repository m q) (filter : Filter) :
    ExceptT FetchError m (Option α) := do
  let query ← (repo.source : m q)
  let query ← fromSource (Queryable.filter query filter)
  let query ← (Queryable.take query 1 : m q)
  let rows ← unlessCancelled cancelled (Queryable.list query)
  return rows.head?

def getListUnless (cancelled : m Bool) (repo : Repository m q) (filter : Option Filter)
    (order : Option (List SortKey)) (size : Option UInt64) : ExceptT FetchError m (List α) := do
  let query ← fromSource (repo.narrowed filter order)
  let query ← (takeUpTo query size : m q)
  unlessCancelled cancelled (Queryable.list query)

def getPageUnless (cancelled : m Bool) (repo : Repository m q) (filter : Option Filter)
    (order : Option (List SortKey)) (index size : UInt64) : ExceptT FetchError m (Page α) := do
  let page := PageRequest.oneBased index size
  let _ ← (pageOffset page : ExceptT FetchError m UInt64)
  let query ← fromSource (repo.narrowed filter order)
  paginateUnless cancelled query page

def getRequestedUnless (cancelled : m Bool) (repo : Repository m q) (request : Request)
    (filter : Option Filter) (size : Option UInt64) : ExceptT FetchError m (List α) := do
  let query ← repo.requested request filter
  let query ← (takeUpTo query size : m q)
  unlessCancelled cancelled (Queryable.list query)

def getRequestedPageUnless (cancelled : m Bool) (repo : Repository m q) (request : Request)
    (filter : Option Filter) (index size : UInt64) : ExceptT FetchError m (Page α) := do
  let page := PageRequest.oneBased index size
  let _ ← (pageOffset page : ExceptT FetchError m UInt64)
  let query ← repo.requested request filter
  paginateUnless cancelled query page

end RecordQuery.Repository
