import RecordQuery.CommandLine
import RecordQuery.Json.Keyed
import RecordQuery.Json.Typed
import RecordQuery.Main
import RecordQuery.Repository.Cancellable
import RecordQuery.Summary
import RecordQuery.Proofs.Binding
import RecordQuery.Proofs.Paging
import RecordQuery.Proofs.RecordOrder
import RecordQuery.Proofs.Combination
import RecordQuery.Proofs.History
import RecordQuery.Proofs.Slots
import RecordQuery.Proofs.RecordSort
import RecordQuery.Proofs.Requested
import RecordQuery.Proofs.Capture
import RecordQuery.Proofs.Typing
import RecordQuery.Proofs.Duality
import RecordQuery.Proofs.Reread
import RecordQuery.Proofs.Rounding
import RecordQuery.Proofs.Shortest
import RecordQuery.Proofs.Inlining
import RecordQuery.Proofs.Rejection
import RecordQuery.Proofs.Tiebreaker
import RecordQuery.Proofs.Readability
import RecordQuery.Proofs.Batch
import RecordQuery.Proofs.Reordering
import RecordQuery.Proofs.Cancellation
import RecordQuery.Proofs.PageOutcome
import RecordQuery.Proofs.NullMembers
import RecordQuery.Proofs.Relocation
import RecordQuery.Proofs.Calendar
import RecordQuery.Proofs.Moment
import RecordQuery.Proofs.Comparison
import RecordQuery.Proofs.InstantText
import RecordQuery.Proofs.Nearest
import RecordQuery.Proofs.OwnText
import RecordQuery.Proofs.Wire
import RecordQuery.Proofs.FewDigits
import RecordQuery.Proofs.PageArithmetic
import RecordQuery.Proofs.FillingIn
import RecordQuery.Proofs.Rearrangement
import RecordQuery.Proofs.Exchange
import RecordQuery.Proofs.Replacement
import RecordQuery.Proofs.Encoding
import RecordQuery.Proofs.Spelling
