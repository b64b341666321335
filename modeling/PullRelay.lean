import PullRelay.Client.Arguments
import PullRelay.Main
import PullRelay.Pipeline.Contexts
import PullRelay.Record.Change
import PullRelay.Rehearsal
import PullRelay.Proofs.Pipeline.Closure
import PullRelay.Proofs.Client.Calls
import PullRelay.Proofs.Client.LastSuccess
import PullRelay.Proofs.Client.Containment
import PullRelay.Proofs.Client.Standard
import PullRelay.Proofs.Listing.Calls
import PullRelay.Proofs.Client.QuotaIndependence
import PullRelay.Proofs.Pipeline.Nesting
import PullRelay.Proofs.Pipeline.Brackets
import PullRelay.Proofs.Pipeline.Staging
import PullRelay.Proofs.Json.Depth
import PullRelay.Proofs.Number.Decimal
import PullRelay.Proofs.Client.Answers
import PullRelay.Proofs.Client.Network
import PullRelay.Proofs.Transport.Ledger
import PullRelay.Proofs.Client.Budgets
import PullRelay.Proofs.Client.Errands
import PullRelay.Proofs.Pipeline.Tries
import PullRelay.Proofs.Command.Conclusions
import PullRelay.Proofs.Client.Secrecy
import PullRelay.Proofs.Pipeline.Reads
import PullRelay.Proofs.Client.Links
import PullRelay.Proofs.Link.Rendering
import PullRelay.Proofs.Quota.Endings
import PullRelay.Proofs.Pipeline.Unwinding
import PullRelay.Proofs.Quota.Probes
import PullRelay.Proofs.Settings.Blanks
import PullRelay.Proofs.Settings.Numbers
import PullRelay.Proofs.Settings.Bounds
import PullRelay.Proofs.Url.Segments
import PullRelay.Proofs.Record.Statuses
import PullRelay.Proofs.Client.Failures
import PullRelay.Proofs.Command.Printing
import PullRelay.Proofs.Command.Repositories
import PullRelay.Proofs.Pipeline.Savepoints
