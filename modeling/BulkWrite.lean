import BulkWrite.Failure.Classifier
import BulkWrite.Failure.Postgres
import BulkWrite.Failure.RulesText
import BulkWrite.Number.Decimal.Scientific
import BulkWrite.Proofs.Alignment
import BulkWrite.Proofs.Cells
import BulkWrite.Proofs.Command
import BulkWrite.Proofs.Correspondence
import BulkWrite.Proofs.Decoding
import BulkWrite.Proofs.DoubleQuotes
import BulkWrite.Proofs.Execution
import BulkWrite.Proofs.Extraction
import BulkWrite.Proofs.MessageNumbers
import BulkWrite.Proofs.NameLists
import BulkWrite.Proofs.OctetScan
import BulkWrite.Proofs.Overlay
import BulkWrite.Proofs.Phrases
import BulkWrite.Proofs.Quoting
import BulkWrite.Proofs.Reading
import BulkWrite.Proofs.Registration
import BulkWrite.Proofs.Respelling
import BulkWrite.Proofs.RowHistory
import BulkWrite.Proofs.RuleChanges
import BulkWrite.Proofs.Selecting
import BulkWrite.Proofs.Splitting
import BulkWrite.Proofs.ValueIndependence
import BulkWrite.Proofs.Widening
import BulkWrite.Proofs.Wrapping
import BulkWrite.Statement
import BulkWrite.Value.Conversion
