import Amend.Batch
import Amend.Proofs.Entries
import Amend.Proofs.Expression.Lexeme
import Amend.Proofs.Expression.Statement
import Amend.Proofs.Decimal.Sum
import Amend.Proofs.Expression.Token
import Amend.Proofs.Expression.Compiled
import Amend.Proofs.Expression.Instruction
import Amend.Proofs.Expression.Effect
import Amend.Proofs.Expression.Meaning
import Amend.Proofs.Batch.Outcome
import Amend.Proofs.Judgement
import Amend.Proofs.Policy.Widening
import Amend.Proofs.Policy.Soundness
import Amend.Proofs.Batch.Collect
import Amend.Proofs.Batch.FailFast
import Amend.Proofs.Bookkeeping.Injection
import Amend.Proofs.Bookkeeping.Independence
import Amend.Proofs.Bookkeeping.Acceptance
import Amend.Proofs.Batch.Total
import Amend.Proofs.Batch.Legible
import Amend.Proofs.Double.Text
import Amend.Proofs.Value.Decoding
import Amend.Proofs.Policy.Effective
import Amend.Proofs.Policy.Reading
import Amend.Proofs.Batch.Accounts
import Amend.Proofs.Bookkeeping.Clock
import Amend.Proofs.Expression.Placeholder
import Amend.Proofs.Judgement.Requirement
import Amend.Proofs.Expression.Legality
import Amend.Proofs.Request.Kinds
import Amend.Proofs.Request.Telling
import Amend.Proofs.Request.NullBuckets
import Amend.Proofs.Stages
import Amend.Proofs.Request.Grammar
import Amend.Proofs.Request.Rendering
import Amend.Proofs.Value.Unwrapping
import Amend.Proofs.Value.Capacity
import Amend.Proofs.Bookkeeping.Repetition
import Amend.Proofs.Policy.Allowing
import Amend.Proofs.Policy.Options
import Amend.Proofs.Policy.Rearrangement
import Amend.Proofs.Text.Numeral
import Amend.Proofs.Calendar.DayNumber
import Amend.Proofs.Calendar.Timestamp
import Amend.Proofs.Calendar.Reading
import Amend.Proofs.Calendar.Grammar
import Amend.Proofs.Calendar.Parts
import Amend.Proofs.Check.DateTime
import Amend.Proofs.Decimal.Order
import Amend.Proofs.Number.Order
import Amend.Proofs.Decimal.Rounding
import Amend.Proofs.Check.Range
import Amend.Proofs.Check.Structure
import Amend.Proofs.Regex.Search
import Amend.Proofs.Check.AmountText
import Amend.Proofs.Check.Amount
import Amend.Proofs.Update.Chunks
import Amend.Proofs.Value.PlainForm
import Amend.Proofs.Value.Position
import Amend.Proofs.Payload.Equality
import Amend.Proofs.Payload.Shown
import Amend.Proofs.Wording
import Amend.Proofs.Check.Membership
