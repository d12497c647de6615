import Rulebook.Action.Typed
import Rulebook.Condition.Guard
import Rulebook.Condition.Typed
import Rulebook.Json.Reader
import Rulebook.Json.Writer
import Rulebook.Payload.Sections
import Rulebook.Service.App
import Rulebook.Proofs.Condition.Findings
import Rulebook.Proofs.Condition.Grammar
import Rulebook.Proofs.Condition.Path
import Rulebook.Proofs.IssueTree
import Rulebook.Proofs.Condition.Defect
import Rulebook.Proofs.Condition.Located
import Rulebook.Proofs.Condition.Telling
import Rulebook.Proofs.Raw
import Rulebook.Proofs.Outcome
import Rulebook.Proofs.Rewording
import Rulebook.Proofs.Condition.Ceilings
import Rulebook.Proofs.Payload.Sections
import Rulebook.Proofs.Payload.Aggregation
import Rulebook.Proofs.Payload.Unguarded
import Rulebook.Proofs.Condition.Reading
import Rulebook.Proofs.Condition.Guarded
import Rulebook.Proofs.Service.Layers
import Rulebook.Proofs.Service.Guard
import Rulebook.Proofs.Faults
import Rulebook.Proofs.Payload.Isolation
import Rulebook.Proofs.Action.Findings
import Rulebook.Proofs.Action.Range
import Rulebook.Proofs.Condition.Spelling
import Rulebook.Proofs.Condition.WrittenOut
import Rulebook.Proofs.Condition.Stability
import Rulebook.Proofs.Service.Oversize
import Rulebook.Proofs.Number.Whole
import Rulebook.Proofs.Recordings
import Rulebook.Proofs.Service.Verdicts
import Rulebook.Proofs.Service.RuleForms
import Rulebook.Proofs.Service.Answers
import Rulebook.Proofs.Service.Accounts
import Rulebook.Proofs.Service.Sessions
import Rulebook.Proofs.Coherence
import Rulebook.Proofs.Service.DeclaredLength
import Rulebook.Proofs.Service.Correlation
import Rulebook.Proofs.Service.Traffic
import Rulebook.Proofs.Choices
import Rulebook.Proofs.Condition.Naming
import Rulebook.Proofs.Condition.Horizon
import Rulebook.Proofs.Condition.Shift
import Rulebook.Proofs.Condition.Skeleton
import Rulebook.Proofs.Action.Agreement
import Rulebook.Proofs.Positions
import Rulebook.Proofs.Breadcrumbs
import Rulebook.Proofs.FieldPath
import Rulebook.Proofs.Number.Rounding
import Rulebook.Proofs.Samples
import Rulebook.Proofs.Counters
