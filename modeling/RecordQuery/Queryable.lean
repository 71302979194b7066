import RecordQuery.Filter.OfCondition
import RecordQuery.Page
import RecordQuery.Selection

/-! Sources of records that can be narrowed step by step and then read, and the pages cut from
them. Reading is an action of a monad, so that a source may keep count of what is asked of it. -/
namespace RecordQuery

/-- A query over a source. Narrowing gives a new query; `count` and `list` run one. -/
class Queryable (m : Type → Type) (q : Type) (α : outParam Type) where
  filter : q → Filter → ExceptT SourceError m q
  order : q → List SortKey → ExceptT SourceError m q
  skip : q → UInt64 → m q
  take : q → UInt64 → m q
  count : q → ExceptT SourceError m UInt64
  list : q → ExceptT SourceError m (List α)

instance [Monad m] : Queryable m (Selection α) α where
  filter s f := .mk (pure (s.filter f))
  order s keys := .mk (pure (s.order keys))
  skip s n := pure (s.skip n)
  take s n := pure (s.take n)
  count s := pure s.count
  list s := pure s.rows

/-- A selection as it is read from a store: where a sort gives up, nothing comes of the fetch that
reads it, not even an error. -/
structure Fragile (α : Type) where
  selection : Selection α

def Fragile.read [Monad m] (s : Fragile α) : ExceptT SourceError (OptionT m) (List α) :=
  .mk (.mk (pure (s.selection.rows?.map .ok)))

instance [Monad m] : Queryable (OptionT m) (Fragile α) α where
  filter s f := .mk (pure ((s.selection.filter f).map .mk))
  order s keys := .mk (pure ((s.selection.order keys).map .mk))
  skip s n := pure ⟨s.selection.skip n⟩
  take s n := pure ⟨s.selection.take n⟩
  count s := do return .ofNat (← s.read).length
  list s := s.read

/-- What a request comes to: no filter lets every record through. -/
structure Plan where
  filter : Option Filter
  order : List SortKey
  deriving Repr, Inhabited

/-- The plan of a request, whose filter is about the given placeholder. The sort entries are looked
at first. -/
def Request.plan (limits : Limits) (record : Placeholder) (request : Request) :
    Except RequestError Plan := do
  let order ← SortKey.ofEntries limits request.sort
  let filter ← request.filter.mapM (Filter.ofCondition limits record)
  return ⟨filter, order⟩

section

variable {m : Type → Type} {q α : Type} [Monad m] [Queryable m q α]

def filterWith (query : q) : Option Filter → ExceptT SourceError m q
  | some f => Queryable.filter query f
  | none => return query

def takeUpTo (query : q) : Option UInt64 → m q
  | some n => Queryable.take query n
  | none => pure query

def applyPlan (query : q) (plan : Plan) : ExceptT SourceError m q := do
  let query ← filterWith query plan.filter
  if plan.order.isEmpty then return query else Queryable.order query plan.order

def fromSource {β : Type} (action : ExceptT SourceError m β) : ExceptT FetchError m β :=
  action.adapt FetchError.source

/-- An action on the source, unless the fetch has been cancelled by then. -/
def unlessCancelled {β : Type} (cancelled : m Bool) (action : ExceptT SourceError m β) :
    ExceptT FetchError m β := do
  if ← (cancelled : m Bool) then throw .cancelled
  fromSource action

def pageOffset (request : PageRequest) : ExceptT FetchError m UInt64 :=
  match request.offset with
  | .ok n => pure n
  | .error e => throw (.argument e)

/-- Counts all records, then lists those of the page. -/
def paginate (query : q) (request : PageRequest) : ExceptT FetchError m (Page α) := do
  let offset ← pageOffset request
  let total ← fromSource (Queryable.count query)
  let rest ← (Queryable.skip query offset : m q)
  let window ← (Queryable.take rest request.size : m q)
  let items ← fromSource (Queryable.list window)
  return Page.new request total items

def paginateUnless (cancelled : m Bool) (query : q) (request : PageRequest) :
    ExceptT FetchError m (Page α) := do
  let offset ← pageOffset request
  let total ← unlessCancelled cancelled (Queryable.count query)
  let rest ← (Queryable.skip query offset : m q)
  let window ← (Queryable.take rest request.size : m q)
  let items ← unlessCancelled cancelled (Queryable.list window)
  return Page.new request total items

end

end RecordQuery
