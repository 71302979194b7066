import RecordQuery.BindError
import RecordQuery.Request

/-! Errors of sources of records and of fetching lists and pages from them. -/
namespace RecordQuery

inductive SourceError where
  | bind (e : BindError)
  /-- No record has the key with that text. -/
  | notFound (key : String)
  deriving DecidableEq, Repr

def SourceError.messageWith (name : Placeholder → String) : SourceError → String
  | bind e => e.messageWith name
  | notFound key => "entity not found: " ++ key

inductive PageArgumentError where
  | originPastIndex (origin index : UInt64)
  | zeroSize
  | offsetOverflow
  deriving DecidableEq, Repr

def PageArgumentError.message : PageArgumentError → String
  | originPastIndex origin index =>
    "origin " ++ toString origin.toNat ++ " > index " ++ toString index.toNat ++
      ", origin must not exceed index"
  | zeroSize => "page size must be greater than zero"
  | offsetOverflow => "page offset overflows"

inductive FetchError where
  | request (e : RequestError)
  | argument (e : PageArgumentError)
  | source (e : SourceError)
  | cancelled
  deriving DecidableEq, Repr

def FetchError.messageWith (name : Placeholder → String) : FetchError → String
  | request e => e.message
  | argument e => "invalid argument: " ++ e.message
  | source e => e.messageWith name
  | cancelled => "operation cancelled"

def FetchError.message (e : FetchError) : String := e.messageWith Placeholder.name

end RecordQuery
