import Fieldbook.Catalog.Ingest
import Fieldbook.Command.Execute
import Fieldbook.Console.Program
import Fieldbook.Exchange
import Fieldbook.Identifier
import Fieldbook.Main
import Fieldbook.Proofs.Catalog.Answers
import Fieldbook.Proofs.Catalog.Coalescing
import Fieldbook.Proofs.Catalog.Fetching
import Fieldbook.Proofs.Catalog.Independence
import Fieldbook.Proofs.Catalog.Ingesting
import Fieldbook.Proofs.Catalog.Pace
import Fieldbook.Proofs.Command.Execute
import Fieldbook.Proofs.Command.Grammar
import Fieldbook.Proofs.Console.Action
import Fieldbook.Proofs.Console.Lines
import Fieldbook.Proofs.Console.Program
import Fieldbook.Proofs.Console.Session
import Fieldbook.Proofs.Csv
import Fieldbook.Proofs.Double.Whole
import Fieldbook.Proofs.Exchange.Plan
import Fieldbook.Proofs.Exchange.RoundTrip
import Fieldbook.Proofs.Files
import Fieldbook.Proofs.Files.Places
import Fieldbook.Proofs.Files.Saving
import Fieldbook.Proofs.Json.Documents
import Fieldbook.Proofs.Json.Numeral
import Fieldbook.Proofs.Json.Tokens
import Fieldbook.Proofs.Snapshot.Documents
import Fieldbook.Proofs.Snapshot.Values
import Fieldbook.Proofs.Snapshot.RoundTrip
import Fieldbook.Proofs.WorkingSet.Parts
import Fieldbook.Proofs.WorkingSet.Reachable
import Fieldbook.Proofs.WorkingSet.Typed
import Fieldbook.Snapshot
import Fieldbook.WorkingSet
import Fieldbook.Proofs.WorkingSet.Appending
import Fieldbook.Proofs.WorkingSet.Updating
import Fieldbook.Proofs.WorkingSet.Batching
import Fieldbook.Proofs.Catalog.Identity
import Fieldbook.Proofs.Catalog.Healing
import Fieldbook.Proofs.Catalog.Counting
import Fieldbook.Proofs.Double.Shown
import Fieldbook.Proofs.Exchange.SourceIds
import Fieldbook.Proofs.Exchange.Importing
import Fieldbook.Proofs.Text.Lowering
import Fieldbook.Proofs.Command.Columns
import Fieldbook.Proofs.Command.Separators
import Fieldbook.Proofs.Command.Selecting
import Fieldbook.Proofs.Command.SourceIds
import Fieldbook.Proofs.Command.Missing
import Fieldbook.Proofs.Double.Natural
import Fieldbook.Proofs.Command.Updates
import Fieldbook.Proofs.Command.Spacing
import Fieldbook.Proofs.WorkingSet.Patches
import Fieldbook.Proofs.Double.Rounding
import Fieldbook.Proofs.Double.Shortest
import Fieldbook.Proofs.Double.Reading
import Fieldbook.Proofs.Exchange.Settling
import Fieldbook.Proofs.Json.Rereading
import Fieldbook.Proofs.Json.Scaling
import Fieldbook.Proofs.Snapshot.Repair
import Fieldbook.Proofs.Snapshot.Looks
import Fieldbook.Proofs.Snapshot.Drift
import Fieldbook.Proofs.Console.Settings
