import BankLedger.Encoding
import BankLedger.Main
import BankLedger.Service.Interruption
import BankLedger.Proofs.Event
import BankLedger.Proofs.Projection
import BankLedger.Proofs.Uuid
import BankLedger.Proofs.Decimal.RoundTrip
import BankLedger.Proofs.Outbox
import BankLedger.Proofs.Decimal.Sum
import BankLedger.Proofs.Store.Rows
import BankLedger.Proofs.Account.Update
import BankLedger.Proofs.Store.Effect
import BankLedger.Proofs.Store.Reserve
import BankLedger.Proofs.Store.InPlace
import BankLedger.Proofs.Account.Posting
import BankLedger.Proofs.Service.Alone
import BankLedger.Proofs.Service.Request
import BankLedger.Proofs.Service.Posting
import BankLedger.Proofs.Service.Exact
import BankLedger.Proofs.Batch.Amount
import BankLedger.Proofs.Service.Serial
import BankLedger.Proofs.Service.Journal
import BankLedger.Proofs.Service.Chronicle
import BankLedger.Proofs.Service.Lived
import BankLedger.Proofs.Service.Conduct
import BankLedger.Proofs.Service.Tale
import BankLedger.Proofs.Service.Atomic
import BankLedger.Proofs.Service.Lifecycle
import BankLedger.Proofs.Service.Closing
import BankLedger.Proofs.Store.Release
import BankLedger.Proofs.Store.View
import BankLedger.Proofs.Service.Release
import BankLedger.Proofs.Service.InTurn
import BankLedger.Proofs.Service.Conservation
import BankLedger.Proofs.Service.Rivals
import BankLedger.Proofs.Store.Covered
import BankLedger.Proofs.Service.Overflow
import BankLedger.Proofs.Service.LastEvent
import BankLedger.Proofs.Service.Log
import BankLedger.Proofs.Batch.Refinement
import BankLedger.Proofs.Service.Numbering
import BankLedger.Proofs.Service.Frame
import BankLedger.Proofs.Store.Commute
import BankLedger.Proofs.Service.WellFormed
import BankLedger.Proofs.Account.Guards
import BankLedger.Proofs.Account.Number
import BankLedger.Proofs.Csv.Report
import BankLedger.Proofs.Account.Amount
import BankLedger.Proofs.Batch.Untouched
import BankLedger.Proofs.Service.Attempts
import BankLedger.Proofs.Encoding
import BankLedger.Proofs.Store.Listing
import BankLedger.Proofs.Batch.Tracked
import BankLedger.Proofs.Batch.Lines
