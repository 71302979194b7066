import RecordQuery.Proofs.Requested
import RecordQuery.Repository.Cancellable

/-! Fetches that watch a token. As long as the token is not cancelled they are the plain fetches;
with a token that was cancelled beforehand they still fail where the plain ones do, and otherwise
give nothing but word of the cancellation. -/
namespace RecordQuery

variable {α β γ : Type} {m : Type → Type} [Monad m] [LawfulMonad m]

/-- What is left of the outcome of a fetch that has been cancelled: its error, if it has one. -/
def stopped : Except FetchError β → Except FetchError β
  | .ok _ => .error .cancelled
  | .error e => .error e

/-- A fetch that does as the plain one as long as its token is not cancelled, and is stopped if the
token was cancelled beforehand. -/
structure Watches (fetch : m Bool → ExceptT FetchError m β) (plain : ExceptT FetchError m β) :
    Prop where
  never : fetch (pure false) = plain
  before : (fetch (pure true)).run = stopped <$> plain.run

section

variable (action : ExceptT SourceError m β)

theorem unlessCancelled_false : unlessCancelled (pure false) action = fromSource action := by
  simp [unlessCancelled]

theorem unlessCancelled_true : unlessCancelled (pure true) action = throw .cancelled := by
  simp [unlessCancelled]

end

namespace Watches

theorem after {x : ExceptT FetchError m γ} {fetch : m Bool → γ → ExceptT FetchError m β}
    {plain : γ → ExceptT FetchError m β}
    (watches : ∀ a, Watches (fun token => fetch token a) (plain a)) :
    Watches (fun token => x >>= fetch token) (x >>= plain) := by
  constructor
  · exact bind_congr fun a => (watches a).never
  · simp only [ExceptT.run_bind, map_bind]
    apply bind_congr
    rintro (e | a)
    · simp [stopped]
    · exact (watches a).before

theorem map {fetch : m Bool → ExceptT FetchError m β} {plain : ExceptT FetchError m β}
    (watches : Watches fetch plain) (f : β → γ) :
    Watches (fun token => fetch token >>= fun b => pure (f b)) (plain >>= fun b => pure (f b)) := by
  have commutes (outcome : Except FetchError β) :
      (stopped outcome).map f = stopped (outcome.map f) := by
    cases outcome <;> rfl
  constructor
  · exact congrArg (· >>= _) watches.never
  · simp [watches.before, commutes]

theorem list (s : Selection α) :
    Watches (fun token : m Bool => unlessCancelled token (Queryable.list s))
      (fromSource (Queryable.list s)) := by
  have listed : (fromSource (Queryable.list s) : ExceptT FetchError m (List α)) = pure s.rows :=
    fromSource_pure _
  constructor
  · exact unlessCancelled_false _
  · rw [unlessCancelled_true, listed]
    simp [stopped]

theorem page (s : Selection α) (request : PageRequest) :
    Watches (fun token : m Bool => paginateUnless token s request) (paginate s request) := by
  constructor
  · simp only [paginateUnless, paginate, unlessCancelled_false]
  · rw [s.paginate_eq]
    simp only [paginateUnless, pageOffset, unlessCancelled_true]
    cases request.offset <;> simp [stopped]

end Watches

section

variable (repo : Repository m (Selection α))

theorem watches_get (test : Filter) :
    Watches (fun token => repo.getUnless token test) (fromSource (repo.get test)) := by
  simp only [Repository.get, Repository.getUnless, fromSource_bind, fromSource_lift,
    fromSource_pure]
  refine .after fun all => .after fun narrowed => .after fun one => ?_
  apply Watches.map
  exact .list one

theorem watches_getList (filter : Option Filter) (order : Option (List SortKey))
    (size : Option UInt64) :
    Watches (fun token => repo.getListUnless token filter order size)
      (fromSource (repo.getList filter order size)) := by
  simp only [Repository.getList, Repository.getListUnless, fromSource_bind, fromSource_lift]
  exact .after fun narrowed => .after fun cut => .list cut

theorem watches_getPage (filter : Option Filter) (order : Option (List SortKey))
    (index size : UInt64) :
    Watches (fun token => repo.getPageUnless token filter order index size)
      (repo.getPage filter order index size) := by
  unfold Repository.getPage Repository.getPageUnless
  exact .after fun _ => .after fun narrowed => .page narrowed _

theorem watches_getRequested (request : Request) (filter : Option Filter) (size : Option UInt64) :
    Watches (fun token => repo.getRequestedUnless token request filter size)
      (repo.getRequested request filter size) := by
  unfold Repository.getRequested Repository.getRequestedUnless
  exact .after fun narrowed => .after fun cut => .list cut

theorem watches_getRequestedPage (request : Request) (filter : Option Filter)
    (index size : UInt64) :
    Watches (fun token => repo.getRequestedPageUnless token request filter index size)
      (repo.getRequestedPage request filter index size) := by
  unfold Repository.getRequestedPage Repository.getRequestedPageUnless
  exact .after fun _ => .after fun narrowed => .page narrowed _

end

/-- Every way to fetch from selections watches its token. With one that is not cancelled it gives
what the plain fetch gives; with one that was cancelled beforehand it has the error of the plain
fetch, be it for the arguments, the request or the fields, and no records in any case. -/
theorem cancellation_exact (repo : Repository m (Selection α)) :
    (∀ test, Watches (fun token => repo.getUnless token test) (fromSource (repo.get test))) ∧
    (∀ filter order size, Watches (fun token => repo.getListUnless token filter order size)
      (fromSource (repo.getList filter order size))) ∧
    (∀ filter order index size,
      Watches (fun token => repo.getPageUnless token filter order index size)
        (repo.getPage filter order index size)) ∧
    (∀ request filter size,
      Watches (fun token => repo.getRequestedUnless token request filter size)
        (repo.getRequested request filter size)) ∧
    ∀ request filter index size,
      Watches (fun token => repo.getRequestedPageUnless token request filter index size)
        (repo.getRequestedPage request filter index size) := by
  refine ⟨watches_get repo, watches_getList repo, watches_getPage repo, ?_, ?_⟩
  · exact watches_getRequested repo
  · exact watches_getRequestedPage repo

theorem cancellation_exact_people :
    let store : Store (String × Option Int) := ⟨personSchema, [("Eve", some 41), ("Bob", none)]⟩
    let repo : Repository Id (Selection (String × Option Int)) := store.repository .standard
    let byAge : List SortKey := [⟨"age", .ascending⟩]
    let byHeight : List SortKey := [⟨"height", .ascending⟩]
    (repo.getListUnless (pure false) none (some byAge) none).run =
        .ok [("Bob", none), ("Eve", some 41)] ∧
      (repo.getListUnless (pure true) none (some byAge) none).run = .error .cancelled ∧
      (repo.getListUnless (pure true) none (some byHeight) none).run =
        .error (.source (.bind (.unknownField "height"))) ∧
      (repo.getPageUnless (pure true) none (some byHeight) 0 5).run =
        .error (.argument (.originPastIndex 1 0)) := by
  intro store repo byAge byHeight
  obtain ⟨-, list, page, -, -⟩ := cancellation_exact repo
  refine ⟨?_, ?_, ?_, ?_⟩
  · exact (congrArg ExceptT.run (list none (some byAge) none).never).trans rfl
  · exact (list none (some byAge) none).before.trans rfl
  · exact (list none (some byHeight) none).before.trans rfl
  · exact (page none (some byHeight) 0 5).before.trans rfl

end RecordQuery
