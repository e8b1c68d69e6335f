import ReviewDesk.Calendar.Iso
import ReviewDesk.Main
import ReviewDesk.Status.Fields
import ReviewDesk.Text.Replace
import ReviewDesk.Proofs.Decimal.Finite
import ReviewDesk.Proofs.Text.Ascii
import ReviewDesk.Proofs.Text.Replace
import ReviewDesk.Proofs.Address.Path
import ReviewDesk.Proofs.Log.Sources
import ReviewDesk.Proofs.Log.Setup
import ReviewDesk.Proofs.Submission
import ReviewDesk.Proofs.Outcome
import ReviewDesk.Proofs.Pricing
import ReviewDesk.Proofs.Desk.Warnings
import ReviewDesk.Proofs.Desk.Requests
import ReviewDesk.Proofs.Desk.Rows
import ReviewDesk.Proofs.Desk.Files
import ReviewDesk.Proofs.Desk.Calls
import ReviewDesk.Proofs.Review.Columns
import ReviewDesk.Proofs.Review.Store
import ReviewDesk.Proofs.Polish.Polisher
import ReviewDesk.Proofs.Archive.Folder
import ReviewDesk.Proofs.Exchange.Office
import ReviewDesk.Proofs.Desk.DeletionReply
import ReviewDesk.Proofs.Desk.Ledger
import ReviewDesk.Proofs.Desk.Answers
import ReviewDesk.Proofs.Desk.Report
import ReviewDesk.Proofs.Desk.Interleaving
import ReviewDesk.Proofs.Desk.Race
import ReviewDesk.Proofs.Number.Digits
import ReviewDesk.Proofs.Number.Binary
import ReviewDesk.Proofs.Calendar.Seoul
import ReviewDesk.Proofs.Decimal.Room
import ReviewDesk.Proofs.Review.Display
import ReviewDesk.Proofs.Exchange.KeptRate
import ReviewDesk.Proofs.Exchange.Settling
import ReviewDesk.Proofs.Desk.Unreported
import ReviewDesk.Proofs.Desk.Passing
import ReviewDesk.Proofs.Web.View
import ReviewDesk.Proofs.Web.Visit
import ReviewDesk.Proofs.Web.Client
import ReviewDesk.Proofs.Settings.Environment
import ReviewDesk.Proofs.Web.Agreement
import ReviewDesk.Proofs.Smoke.Sending
import ReviewDesk.Proofs.Smoke.Run
import ReviewDesk.Proofs.Number.Quotient
import ReviewDesk.Proofs.Decimal.Grid
import ReviewDesk.Proofs.Decimal.Places
import ReviewDesk.Proofs.Decimal.Operations
import ReviewDesk.Proofs.Exchange.Amounts
import ReviewDesk.Proofs.Estimates
import ReviewDesk.Proofs.Review.Money
import ReviewDesk.Proofs.Desk.Costs
import ReviewDesk.Proofs.Polish.Reasoning
import ReviewDesk.Proofs.Polish.Tags
import ReviewDesk.Proofs.Polish.Reply
import ReviewDesk.Proofs.Archive.Errands
import ReviewDesk.Proofs.Status.Renewal
import ReviewDesk.Proofs.Archive.FileName
import ReviewDesk.Proofs.Decimal.Grouped
import ReviewDesk.Proofs.Number.Nearest
import ReviewDesk.Proofs.Decimal.Reader
import ReviewDesk.Proofs.Number.Integer
import ReviewDesk.Proofs.Review.Costs
import ReviewDesk.Proofs.Calendar.Stamp
import ReviewDesk.Proofs.Calendar.Text
import ReviewDesk.Proofs.Review.Times
import ReviewDesk.Proofs.Calendar.Iso
